import StructVault.CommandLine.Request
import StructVault.Database.Json
import StructVault.Program.Told
import StructVault.Program.Work
import StructVault.Report.Listing
import StructVault.Report.Table

/-!
# The tasks of the program

- `Task.exportTo`, `Task.importFrom`: move structures between a database and a snapshot file.
- `Task.produce`, `Task.load`, `Task.inspect`: the commands. They give the text of their report.
- `Failure`: why a command failed, from the step it was at down to the first cause.
-/

namespace StructVault

/-- A snapshot error and the causes behind it. -/
def Snapshot.Error.chain (error : Snapshot.Error) : List String :=
  error.message :: match error with
    | .io failure => [failure.message]
    | _ => []

/-- A database error and the causes behind it. A snapshot error stands for itself. -/
def Database.Error.chain (error : Database.Error) : List String :=
  match error with
  | .snapshot cause => cause.chain
  | .invalidFile _ cause => [error.message, cause.message]
  | .io failure => [error.message, failure.message]
  | _ => [error.message]

/-- Why a command failed. -/
structure Failure where
  /-- The step it was at, and the causes. -/
  chain : List String
  deriving DecidableEq, Repr

namespace Failure

/-- The failure of a step. -/
def ofStep (step : String) (error : Database.Error) : Failure := { chain := step :: error.chain }

/-- The wording of a failure. -/
def message (failure : Failure) : String := "error: " ++ ": ".intercalate failure.chain

end Failure

/-- What a command that went well prints. -/
structure Printed where
  output : String := ""
  /-- What goes to the error output. -/
  errors : String := ""
  deriving DecidableEq, Repr

namespace Task

/-- The structures of a snapshot file. -/
def readSnapshot (path : Path) (verifyChecksum : Bool) :
    Work Database.Error (List Structure) := do
  let data ← Work.reading fun files =>
    (files.read path).mapError fun failure => .snapshot (.ofRead path failure)
  let structures ← Work.ofExcept ((Snapshot.decode verifyChecksum data).mapError .snapshot)
  Work.tell (Told.snapshotDecoded structures data.length)
  return structures

/-- Write the structures of a database to a snapshot file. -/
def exportTo (database : Database) (path : Path) (sync : Bool) :
    Work Database.Error ExportReport :=
  Work.within (Told.exporting path) do
    let structures := database.contents
    Work.tellAll (Told.capturedEvents structures)
    let summary ← Work.replacing path fun files =>
      match Snapshot.save files path structures sync with
      | (result, left) => (result.mapError .snapshot, left)
    Work.tellAll (summary.warnings.map Told.warned)
    Work.tell (Told.snapshotWritten path summary)
    Work.tell (Told.exported summary)
    return { path, summary }

/-- The database of the structures in a snapshot file, and the report about them. -/
def importFrom (path : Path) (verifyChecksum : Bool) :
    Work Database.Error (Database × ImportReport) :=
  Work.within (Told.importing path) do
    let structures ← readSnapshot path verifyChecksum
    let database ← Work.ofExcept (Database.ofStructures structures)
    let report := ImportReport.of path structures
    Work.tell (Told.imported report)
    return (database, report)

/-- The database in a file. -/
def openDatabase (path : Path) : Work Failure Database :=
  Work.mapError (Failure.ofStep s!"load database {path.text}")
    (Work.reading fun files => Database.load files path)

/-- The report about an export. -/
def exportText (report : ExportReport) : Printed where
  output :=
    s!"Exported {report.summary.structures} structures ({report.summary.members} members, "
      ++ s!"{report.summary.bytes} bytes) to {report.path.text}\n"
  errors :=
    if report.summary.hasWarnings then
      "Warnings:\n"
        ++ String.join (report.summary.warnings.map fun warning => s!"- {warning.message}\n")
    else ""

/-- The report about an import into the database file at a path. -/
def importText (report : ImportReport) (database : Path) : Printed where
  output :=
    s!"Loaded {report.structures} structures ({report.members} members) "
      ++ s!"from {report.path.text} into {database.text}\n"

/-- Write a database file to a snapshot. -/
def produce (database output : Path) (sync : Bool) : Work Failure Printed :=
  Work.within (Told.producing database) do
    let content ← openDatabase database
    Work.tell (Told.databaseLoaded content)
    let report ← Work.mapError (Failure.ofStep s!"write snapshot {output.text}")
      (exportTo content output sync)
    return exportText report

/-- Replace a database file by the structures of a snapshot. A file that is there has to hold a
valid database, although nothing of it remains. -/
def load (snapshot database : Path) (verifyChecksum : Bool) : Work Failure Printed :=
  Work.within (Told.loading snapshot) do
    if (← get).files.reaches database then
      let _ ← openDatabase database
    else
      Work.tell (Told.databaseMissing database)
    let (content, report) ← Work.mapError (Failure.ofStep s!"load snapshot {snapshot.text}")
      (importFrom snapshot verifyChecksum)
    Work.mapError (Failure.ofStep s!"save database {database.text}")
      (Work.replacing database fun files => Database.save files database content)
    return importText report database

/-- Show what a snapshot holds. -/
def inspect (snapshot : Path) (members verifyChecksum : Bool) (view : View) :
    Work Failure Printed := do
  let structures ← Work.mapError (Failure.ofStep s!"read snapshot {snapshot.text}")
    (readSnapshot snapshot verifyChecksum)
  return { output := match view with
    | .table => (Report.structureTable structures members).render false ++ "\n"
    | .text => Report.listing structures members }

/-- The task of a request. -/
def ofRequest : Request → Work Failure Printed
  | .produce database output sync => produce database output sync
  | .load snapshot database verifyChecksum => load snapshot database verifyChecksum
  | .inspect snapshot members verifyChecksum view => inspect snapshot members verifyChecksum view

end Task

end StructVault

import StructVault.Log.Event
import StructVault.Snapshot.Summary
import StructVault.Transfer

/-!
# What the program tells its journal

- `Told.commands`, `Told.transfer`, `Told.writer`, `Told.reader`: the sources, the parts of the
  program that tell something.
- `Told.producing`, `Told.loading`, `Told.exporting`, `Told.importing`: the spans.
- `Told.capturedEvents`: the events of a whole capture, structure by structure; the other events
  stand for one thing that happened.
-/

namespace StructVault.Told

open Log

/-! ## Sources -/

/-- The commands of the program. -/
def commands : String := "spst::commands"

/-- What moves structures between a database and snapshots. -/
def transfer : String := "spst_host::snapshot"

/-- What writes snapshots. -/
def writer : String := "spst_format::writer"

/-- What reads snapshots. -/
def reader : String := "spst_format::reader"

/-! ## Spans -/

/-- The command that writes a database to a snapshot. -/
def producing (database : Path) : Span :=
  { source := commands, name := "produce", details := [("database", .text database.text)] }

/-- The command that loads a snapshot into a database. -/
def loading (snapshot : Path) : Span :=
  { source := commands, name := "load", details := [("input", .text snapshot.text)] }

/-- Structures on their way to a snapshot. -/
def exporting (path : Path) : Span :=
  { source := transfer, name := "export", details := [("path", .text path.text)] }

/-- Structures on their way from a snapshot. -/
def importing (path : Path) : Span :=
  { source := transfer, name := "import", details := [("path", .text path.text)] }

/-! ## Events -/

/-- A database file was read. -/
def databaseLoaded (database : Database) : Event where
  source := commands
  severity := .info
  message := "loaded database"
  details := [("structures", .number database.size)]

/-- There is no database file. -/
def databaseMissing (path : Path) : Event where
  source := commands
  severity := .debug
  message := "database missing, starting empty"
  details := [("database", .text path.text)]

/-- A structure was captured; structures are counted from zero. -/
def structureCaptured (struct : Structure) (index : Nat) : Event where
  source := transfer
  severity := .debug
  message := "captured structure"
  details := [("index", .number index), ("name", .text struct.name),
    ("comment", .text struct.comment), ("size_bytes", .number struct.size.toNat)]

/-- A member of a structure was captured. -/
def memberCaptured (struct : Structure) (member : Member) : Event where
  source := transfer
  severity := .trace
  message := "captured member"
  details := [("structure", .text struct.name), ("name", .text member.name),
    ("type_name", .text member.typeName), ("comment", .text member.comment),
    ("size_bytes", .number member.size.toNat)]

/-- The members of a structure do not add up to its size. -/
def sizesDiffer (struct : Structure) : Event where
  source := transfer
  severity := .debug
  message := "member sizes do not add up to structure size"
  details := [("name", .text struct.name), ("size_bytes", .number struct.size.toNat),
    ("member_total", .number struct.memberTotal.toNat)]

/-- The events of the capture of one structure. -/
def structureEvents (struct : Structure) (index : Nat) : List Event :=
  structureCaptured struct index :: struct.members.map (memberCaptured struct)
    ++ (if struct.memberTotal == struct.size then [] else [sizesDiffer struct])

/-- The events of the capture of a list of structures. -/
def capturedEvents (structures : List Structure) : List Event :=
  structures.zipIdx.flatMap fun (struct, index) => structureEvents struct index

/-- The writer warns. -/
def warned (warning : Snapshot.Warning) : Event where
  source := writer
  severity := .warn
  message := warning.message

/-- A snapshot file was written. -/
def snapshotWritten (path : Path) (summary : Snapshot.Summary) : Event where
  source := writer
  severity := .debug
  message := "snapshot written"
  details := [("path", .text path.text), ("structures", .number summary.structures),
    ("members", .number summary.members), ("bytes", .number summary.bytes)]

/-- A snapshot was decoded. There is one version only. -/
def snapshotDecoded (structures : List Structure) (bytes : Nat) : Event where
  source := reader
  severity := .debug
  message := "decoded snapshot"
  details := [("version", .number Snapshot.Error.newestVersion.toNat),
    ("structures", .number structures.length), ("bytes", .number bytes)]

/-- An export is complete. -/
def exported (summary : Snapshot.Summary) : Event where
  source := transfer
  severity := .info
  message := "exported structures"
  details := [("structures", .number summary.structures), ("members", .number summary.members),
    ("bytes", .number summary.bytes)]

/-- An import is complete. -/
def imported (report : ImportReport) : Event where
  source := transfer
  severity := .info
  message := "imported structures"
  details := [("structures", .number report.structures), ("members", .number report.members)]

end StructVault.Told

import StructVault.Database.Capture
import StructVault.Snapshot.File

/-!
# Moving databases through snapshot files

- `Desk`: a host and the file tree it works on.
- `exportTo`: capture a host and write the snapshot. Nothing is written before all is captured.
- `importFrom`: read a snapshot and put its structures into a host. The file is decoded to its
  end before the host is touched.
-/

namespace StructVault

/-- A host and the files it works on. -/
structure Desk where
  host : Host := {}
  files : FileTree := {}
  deriving DecidableEq, Repr

/-- What is told about an export. -/
structure ExportReport where
  path : Path
  summary : Snapshot.Summary
  deriving DecidableEq, Repr

/-- What is told about an import. -/
structure ImportReport where
  path : Path
  structures : Nat
  members : Nat
  deriving DecidableEq, Repr

/-- The report about the import of a list of structures. -/
def ImportReport.of (path : Path) (structures : List Structure) : ImportReport where
  path := path
  structures := structures.length
  members := memberCount structures

/-- Work at a desk that may fail. -/
abbrev DeskWork := EStateM Database.Error Desk

namespace DeskWork

/-- Calls on the host of a desk. -/
def onHost {α : Type} (calls : Access α) : DeskWork α := fun desk =>
  match calls desk.host with
  | .ok value host => .ok value { desk with host }
  | .error error host => .error error { desk with host }

/-- A change of the files of a desk. -/
def onFiles {α : Type} (change : FileTree → Except Snapshot.Error α × FileTree) : DeskWork α :=
  fun desk =>
    match change desk.files with
    | (.ok value, files) => .ok value { desk with files }
    | (.error error, files) => .error (.snapshot error) { desk with files }

/-- Capture the host and write the snapshot to a path. -/
def exportTo (path : Path) (sync : Bool) : DeskWork ExportReport := do
  let structures ← onHost Access.capture
  let summary ← onFiles fun files => Snapshot.save files path structures sync
  return { path, summary }

/-- Read the snapshot at a path and put its structures into the host. -/
def importFrom (path : Path) (verifyChecksum : Bool) : DeskWork ImportReport := do
  match Snapshot.load (← get).files path verifyChecksum with
  | .error error => throw (.snapshot error)
  | .ok structures =>
    onHost (Access.replaceStructures structures)
    return ImportReport.of path structures

end DeskWork

end StructVault

import StructVault.Files.Replace
import StructVault.Snapshot.Decode
import StructVault.Snapshot.Summary

/-!
# Snapshot files

- `load`: the structures of a snapshot file. A file that is missing is told apart from one
  that cannot be read.
- `save`: replace a file by the snapshot of a list of structures.
-/

namespace StructVault.Snapshot

/-- The error of a file that was not replaced. -/
def Error.ofReplace (path : Path) : ReplaceFailure → Error
  | .noFileName => .invalidPath path
  | .refused failure => .io failure

/-- The error of a file that could not be opened or read. -/
def Error.ofRead (path : Path) : FileFailure → Error
  | .notFound => .fileNotFound path
  | failure => .io failure

/-- Replace a file, with the errors of snapshot files. -/
def replaceFile (tree : FileTree) (path : Path) (content : Bytes) (sync : Bool) :
    Except Error Unit × FileTree :=
  match tree.replaceFile path content sync with
  | (result, left) => (result.mapError (Error.ofReplace path), left)

/-- The structures in the snapshot at a path. -/
def load (tree : FileTree) (path : Path) (verifyChecksum : Bool) :
    Except Error (List Structure) := do
  let data ← (tree.read path).mapError (Error.ofRead path)
  decode verifyChecksum data

/-- Replace the file at a path by the snapshot of a list of structures. -/
def save (tree : FileTree) (path : Path) (structures : List Structure) (sync : Bool) :
    Except Error Summary × FileTree :=
  match encode structures with
  | .error error => (.error error, tree)
  | .ok bytes =>
    match replaceFile tree path bytes sync with
    | (.error error, left) => (.error error, left)
    | (.ok (), replaced) => (.ok (Summary.of structures bytes.length), replaced)

end StructVault.Snapshot

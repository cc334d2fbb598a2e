import StructVault.Files.Tree

/-!
# Replacing a file

A file is replaced in one step that either happens or does not: the new content is written to a
hidden sibling, and the sibling is renamed over the file. Whatever fails, the sibling is removed
and the file keeps what it held.

- `FileTree.stage`: write the sibling and rename it.
- `FileTree.replaceFile`: the whole, with the removal of the sibling on failure.
-/

namespace StructVault

/-- Why a file was not replaced. -/
inductive ReplaceFailure where
  /-- The path names no file. -/
  | noFileName
  /-- A call on the file system was refused. -/
  | refused (failure : FileFailure)
  deriving DecidableEq, Repr

namespace FileTree

/-- Write `content` to the temporary path and rename that over `path`. With `sync` the directory
is opened afterwards, to make the rename durable. The tree is the one the last step left. -/
def stage (tree : FileTree) (temporary path : Path) (content : Bytes) (sync : Bool) :
    Except FileFailure Unit × FileTree :=
  match tree.write temporary content with
  | .error failure => (.error failure, tree)
  | .ok written =>
    match written.rename temporary path with
    | .error failure => (.error failure, written)
    | .ok renamed =>
      if sync then (renamed.openDirectory path.parent |>.map fun _ => (), renamed)
      else (.ok (), renamed)

/-- The tree without a file that may be there. -/
def discard (tree : FileTree) (path : Path) : FileTree :=
  match tree.removeFile path with
  | .ok removed => removed
  | .error _ => tree

/-- Replace the file at `path`, or create it. -/
def replaceFile (tree : FileTree) (path : Path) (content : Bytes) (sync : Bool) :
    Except ReplaceFailure Unit × FileTree :=
  match path.temporary? with
  | none => (.error .noFileName, tree)
  | some temporary =>
    match tree.stage temporary path content sync with
    | (.ok (), replaced) => (.ok (), replaced)
    | (.error failure, left) => (.error (.refused failure), left.discard temporary)

end FileTree

end StructVault

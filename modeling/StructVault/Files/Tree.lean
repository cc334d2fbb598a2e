import StructVault.Bytes
import StructVault.Files.Failure
import StructVault.Files.Path

/-!
# The file tree

Files and directories as a map from locations to entries, and the calls a program makes on
them. A location is the list of names that leads from the root to an entry. Every call either
gives a result or a `FileFailure`, and a call that changes the tree says in its type which tree
it leaves.

Links and access rights are outside the tree, and so are entries of other kinds and faults of the
disk. Calls are refused for what stands in the tree, and for names and paths that no file can have.

- `FileTree.lookup`, `FileTree.put`, `FileTree.erase`: the map itself.
- `FileTree.walk`: follow steps through directories.
- `FileTree.find`, `FileTree.read`: reach an existing entry.
- `FileTree.locate?`: where a path leads, whether something stands there or not.
- `FileTree.create`: open a file for writing, new or existing.
- `FileTree.rename`, `FileTree.removeFile`: move and remove a file.
-/

namespace StructVault

/-- The names that lead from the root to an entry. -/
abbrev Location := List String

/-- What stands at a location. -/
inductive Entry where
  | file (content : Bytes)
  | directory
  deriving DecidableEq, Repr

/-- Files and directories, with the directory that relative paths start from. -/
structure FileTree where
  workingDirectory : Location := []
  entries : List (Location × Entry) := []
  deriving DecidableEq, Repr

namespace FileTree

/-! ## The map -/

/-- What stands at a location. The root is always a directory. -/
def lookup (tree : FileTree) (location : Location) : Option Entry :=
  if location.isEmpty then some .directory
  else tree.entries.lookup location

/-- Forget what stands at a location. -/
def erase (tree : FileTree) (location : Location) : FileTree :=
  { tree with entries := tree.entries.filter (·.1 != location) }

/-- Set what stands at a location. -/
def put (tree : FileTree) (location : Location) (entry : Entry) : FileTree :=
  { tree with entries := (location, entry) :: (tree.erase location).entries }

/-- Whether a directory stands at a location. -/
def isDirectory (tree : FileTree) (location : Location) : Bool :=
  tree.lookup location == some .directory

/-! ## Following a path -/

/-- The longest name a directory takes, in bytes. -/
def longestName : Nat := 255

/-- The longest path a call takes, in bytes, with its closing zero byte. -/
def longestPath : Nat := 4096

/-- Go one step from a directory to an existing entry. -/
def enter (tree : FileTree) (directory : Location) (step : String) :
    Except FileFailure Location :=
  if !tree.isDirectory directory then .error .notDirectory
  else if step == "." then .ok directory
  else if step == ".." then .ok directory.dropLast
  else if step.utf8ByteSize > longestName then .error .nameTooLong
  else match tree.lookup (directory ++ [step]) with
    | none => .error .notFound
    | some _ => .ok (directory ++ [step])

/-- Follow steps from a location, each to an existing entry. -/
def walk (tree : FileTree) : Location → List String → Except FileFailure Location
  | location, [] => .ok location
  | location, step :: steps => do tree.walk (← tree.enter location step) steps

/-- The location a path starts from. -/
def origin (tree : FileTree) (path : Path) : Location :=
  if path.isAbsolute then [] else tree.workingDirectory

/-- Refuse the path texts that no call takes. -/
def checkPath (path : Path) : Except FileFailure Unit :=
  if path.text.toList.contains (Char.ofNat 0) then .error .nulInPath
  else if path.text.isEmpty then .error .notFound
  else if path.text.utf8ByteSize ≥ longestPath then .error .nameTooLong
  else .ok ()

/-- The existing entry a path leads to. Behind a slash only a directory may stand. -/
def find (tree : FileTree) (path : Path) : Except FileFailure (Location × Entry) := do
  checkPath path
  let location ← tree.walk (tree.origin path) path.steps
  match tree.lookup location with
  | none => .error .notFound
  | some .directory => .ok (location, .directory)
  | some (.file content) =>
    if path.endsInSlash then .error .notDirectory else .ok (location, .file content)

/-- Whether a path leads to an existing entry. -/
def reaches (tree : FileTree) (path : Path) : Bool := (tree.find path).isOk

/-- The content of the file a path leads to. -/
def read (tree : FileTree) (path : Path) : Except FileFailure Bytes := do
  match ← tree.find path with
  | (_, .file content) => .ok content
  | (_, .directory) => .error .isDirectory

/-- The last step of a path, seen from the directory it is taken in. -/
inductive LastStep where
  /-- The path goes nowhere, or ends in one of the two dotted steps. -/
  | noName
  | name (name : String) (slash : Bool)

/-- The directory in which the last step of a path is taken, and that step. -/
def findParent (tree : FileTree) (path : Path) : Except FileFailure (Location × LastStep) := do
  checkPath path
  match path.steps.reverse with
  | [] => .ok (tree.origin path, .noName)
  | last :: before =>
    let directory ← tree.walk (tree.origin path) before.reverse
    if !tree.isDirectory directory then .error .notDirectory
    else if last == "." || last == ".." then .ok (directory, .noName)
    else .ok (directory, .name last path.endsInSlash)

/-- The entry of a directory under a name, or nothing where the name is still free. -/
def child? (tree : FileTree) (directory : Location) (name : String) :
    Except FileFailure (Option Entry) :=
  if name.utf8ByteSize > longestName then .error .nameTooLong
  else .ok (tree.lookup (directory ++ [name]))

/-- Where an entry of the name that a path ends in stands, or would stand. -/
def locate? (tree : FileTree) (path : Path) : Option Location :=
  match tree.findParent path with
  | .ok (directory, .name name _) => some (directory ++ [name])
  | _ => none

/-! ## Changing the tree -/

/-- Add bytes to the end of the file at a location, if one is there. -/
def append (tree : FileTree) (location : Location) (data : Bytes) : FileTree :=
  match tree.lookup location with
  | some (.file content) => tree.put location (.file (content ++ data))
  | _ => tree

/-- Open a file for writing and create it empty where there is none. The result says where
the file is and what it holds. -/
def create (tree : FileTree) (path : Path) :
    Except FileFailure (Location × Bytes × FileTree) := do
  match ← tree.findParent path with
  | (_, .noName) => .error .isDirectory
  | (_, .name _ true) => .error .isDirectory
  | (directory, .name name false) =>
    match ← tree.child? directory name with
    | some .directory => .error .isDirectory
    | some (.file content) => .ok (directory ++ [name], content, tree)
    | none => .ok (directory ++ [name], [], tree.put (directory ++ [name]) (.file []))

/-- Create or empty a file and fill it with `content`. -/
def write (tree : FileTree) (path : Path) (content : Bytes) : Except FileFailure FileTree := do
  let (location, _, opened) ← tree.create path
  .ok (opened.put location (.file content))

/-- Move a file to another name, in place of any file of that name. A directory is never
replaced, and a name with a slash behind it is refused. -/
def rename (tree : FileTree) (source destination : Path) : Except FileFailure FileTree := do
  match ← tree.findParent source, ← tree.findParent destination with
  | (home, .name old slash), (goal, .name new newSlash) =>
    match ← tree.child? home old with
    | none => .error .notFound
    | some .directory => .error .isDirectory
    | some (.file content) =>
      let replaced ← tree.child? goal new
      if slash || newSlash then .error .notDirectory
      else if replaced == some .directory then .error .isDirectory
      else .ok ((tree.erase (home ++ [old])).put (goal ++ [new]) (.file content))
  | _, _ => .error .busy

/-- Remove a file; directories stay. -/
def removeFile (tree : FileTree) (path : Path) : Except FileFailure FileTree := do
  match ← tree.findParent path with
  | (_, .noName) => .error .isDirectory
  | (directory, .name name slash) =>
    match ← tree.child? directory name with
    | none => .error .notFound
    | some .directory => .error .isDirectory
    | some (.file _) =>
      if slash then .error .notDirectory else .ok (tree.erase (directory ++ [name]))

/-- Open a directory, as is done to make a rename in it durable. -/
def openDirectory (tree : FileTree) (path : Path) : Except FileFailure Location := do
  let (location, _) ← tree.find path
  .ok location

/-- Create a directory. -/
def createDirectory (tree : FileTree) (path : Path) : Except FileFailure FileTree := do
  match ← tree.findParent path with
  | (_, .noName) => .error .alreadyThere
  | (directory, .name name _) =>
    match ← tree.child? directory name with
    | some _ => .error .alreadyThere
    | none => .ok (tree.put (directory ++ [name]) .directory)

/-- The locations below a directory, each with whether it is a directory itself. -/
def below (tree : FileTree) (directory : Location) : List (Location × Bool) :=
  tree.entries.filterMap fun (location, entry) =>
    if directory.isPrefixOf location && location != directory then
      some (location.drop directory.length, entry == .directory)
    else none

/-! ## Laws of the map -/

theorem lookup_filter (entries : List (Location × Entry)) (location other : Location)
    (h : other ≠ location) :
    (entries.filter (·.1 != location)).lookup other = entries.lookup other := by
  induction entries with
  | nil => rfl
  | cons e rest ih =>
    obtain ⟨key, entry⟩ := e
    by_cases hk : key = location
    · subst hk
      have : (other == key) = false := by simpa using h
      simp [List.lookup_cons, this, ih]
    · have : (key != location) = true := by simpa using hk
      simp only [List.filter_cons, this, if_true, List.lookup_cons, ih]

theorem lookup_erase_of_ne (tree : FileTree) {location other : Location}
    (h : other ≠ location) : (tree.erase location).lookup other = tree.lookup other := by
  simp only [lookup, erase, lookup_filter _ _ _ h]

theorem lookup_put_of_ne (tree : FileTree) {location other : Location} (entry : Entry)
    (h : other ≠ location) : (tree.put location entry).lookup other = tree.lookup other := by
  have : (other == location) = false := by simpa using h
  simp only [lookup, put, List.lookup_cons, this, erase, lookup_filter _ _ _ h]

theorem lookup_put_self (tree : FileTree) {location : Location} (entry : Entry)
    (h : location ≠ []) : (tree.put location entry).lookup location = some entry := by
  simp [lookup, put, h]

end FileTree

end StructVault

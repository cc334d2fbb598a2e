import StructVault.Text.Split

/-!
# Paths

A path is a text. Its steps are what stands between the slashes; an empty step says nothing
and is left out. A single dot says nothing either, but at the front of a path it is kept.

- `Path.steps`: the steps of a path, in order.
- `Path.fileName?`: the name a path ends in, behind any slashes and single dots; a path that
  ends in two dots, or has no step at all, names no file.
- `Path.parent`: the path of the directory before that name.
- `Path.sibling`: another name in the same directory.
-/

namespace StructVault

/-- A path as it was given. It is a text, so file names that are no UTF-8 have no path. -/
structure Path where
  text : String
  deriving DecidableEq, Repr, Inhabited

namespace Path

/-- Whether the path starts at the root and not at the working directory. -/
def isAbsolute (path : Path) : Bool := path.text.toList.head? == some '/'

/-- Whether a slash stands behind the last step. -/
def endsInSlash (path : Path) : Bool := path.text.toList.getLast? == some '/'

/-- What stands between the slashes, the empty steps included. -/
def parts (path : Path) : List (List Char) := Text.splitAt '/' path.text.toList

/-- The steps of a path, without the empty ones. -/
def steps (path : Path) : List String :=
  (path.parts.filter (!·.isEmpty)).map String.ofList

/-- Whether a part of a path leads nowhere else. -/
def stays (part : List Char) : Bool := part.isEmpty || part == ['.']

/-- The parts of a path, last one first, without those at its end that lead nowhere else. -/
def partsFromEnd (path : Path) : List (List Char) := path.parts.reverse.dropWhile stays

/-- The name the path ends in, if it names a file. -/
def fileName? (path : Path) : Option String :=
  match path.partsFromEnd with
  | [] => none
  | last :: _ => if last == ['.', '.'] then none else some (String.ofList last)

/-- The text in front of the name, up to the last part that leads somewhere else. It is empty
where the name is the whole path. -/
def textBeforeName (path : Path) : List Char :=
  match path.partsFromEnd.tail.dropWhile stays with
  | [] => if path.isAbsolute then ['/'] else if path.parts.head? == some ['.'] then ['.'] else []
  | before => List.intercalate ['/'] before.reverse

/-- The directory which holds the named file; the working directory is a single dot. -/
def parent (path : Path) : Path :=
  match path.textBeforeName with
  | [] => ⟨"."⟩
  | before => ⟨String.ofList before⟩

/-- The file called `name` in the same directory. -/
def sibling (path : Path) (name : String) : Path :=
  let before := path.textBeforeName
  let slash := if before.isEmpty || before == ['/'] then [] else ['/']
  ⟨String.ofList (before ++ slash ++ name.toList)⟩

/-- Where the new content of a file is gathered before it replaces the old one: a hidden
sibling, `.<name>.tmp`. Paths that name no file have none. -/
def temporary? (path : Path) : Option Path :=
  path.fileName?.map fun name => path.sibling ("." ++ name ++ ".tmp")

end Path

end StructVault

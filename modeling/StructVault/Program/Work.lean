import StructVault.Files.Replace
import StructVault.Log.Journal

/-!
# Work on files under a journal

A step of the program may read files, replace one, and tell the journal what happens. Steps
follow each other up to the first that fails.

- `Scene`: the files and the journal.
- `Work`: steps that may fail.
- `Work.tell`, `Work.within`: tell an event; work inside a span, which is left in any case.
- `Work.replacing`: a step that replaces a file.
-/

namespace StructVault

/-- The files and the journal that work goes on with. -/
structure Scene where
  files : FileTree
  journal : Log.Journal
  deriving DecidableEq, Repr

/-- Steps on a scene, up to the first that fails. -/
abbrev Work (ε : Type) := EStateM ε Scene

namespace Scene

/-- The scene after an event was told. -/
def record (scene : Scene) (event : Log.Event) : Scene :=
  match scene.journal.record scene.files event with
  | (journal, files) => { journal, files }

/-- The scene inside a span. -/
def enter (scene : Scene) (span : Log.Span) : Scene :=
  { scene with journal := scene.journal.enter span }

/-- The scene after the span entered last was left. -/
def leave (scene : Scene) : Scene :=
  match scene.journal.leave scene.files with
  | (journal, files) => { journal, files }

end Scene

namespace Work

variable {α β ε δ : Type}

/-- Tell an event. -/
def tell (event : Log.Event) : Work ε Unit := fun scene => .ok () (scene.record event)

/-- Tell events one after the other. -/
def tellAll (events : List Log.Event) : Work ε Unit := fun scene =>
  .ok () (events.foldl Scene.record scene)

/-- Work inside a span. -/
def within (span : Log.Span) (work : Work ε α) : Work ε α := fun scene =>
  match work (scene.enter span) with
  | .ok value left => .ok value (left.leave)
  | .error error left => .error error (left.leave)

/-- The same work with its error put differently. -/
def mapError (put : ε → δ) (work : Work ε α) : Work δ α := fun scene =>
  match work scene with
  | .ok value left => .ok value left
  | .error error left => .error (put error) left

/-- A value, or the error that stands in its place. -/
def ofExcept : Except ε α → Work ε α
  | .ok value => pure value
  | .error error => throw error

/-- Look at the files. -/
def reading (look : FileTree → Except ε α) : Work ε α := fun scene =>
  match look scene.files with
  | .ok value => .ok value scene
  | .error error => .error error scene

/-- Replace the file at a path, or fail to. The journal goes on in the file it wrote to. -/
def replacing (path : Path) (change : FileTree → Except ε α × FileTree) : Work ε α := fun scene =>
  match change scene.files with
  | (result, files) =>
    let sink := scene.journal.sink.followReplacement path scene.files files result.isOk
    let left : Scene := { files, journal := { scene.journal with sink } }
    match result with
    | .ok value => .ok value left
    | .error error => .error error left

end Work

end StructVault

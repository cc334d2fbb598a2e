import StructVault.Bytes
import StructVault.Files.Tree
import StructVault.Log.Filter
import StructVault.Log.Line

/-!
# The journal of a run

A journal takes down what happens during a run, line by line, in the order in which it happens.
Lines go to the error output or are appended to a file. That file may be replaced or removed
while it is open; lines then follow the file and not its name.

- `Sink`: where lines go.
- `Stretch`: a span that was entered and not left yet.
- `Journal.start`: open a journal with given settings.
- `Journal.record`, `Journal.enter`, `Journal.leave`: events and spans. Each gives the journal
  and the files that it leaves.
- `Sink.followReplacement`: where lines go after a file was replaced.
-/

namespace StructVault

namespace Log

/-- Where the lines of a journal go. -/
inductive Sink where
  /-- To the error output. -/
  | console
  /-- To the end of a file. -/
  | file (location : Location)
  /-- To a file that has lost its name. -/
  | lost
  deriving DecidableEq, Repr

/-- Where lines go after a try to replace the file at a path through its temporary sibling. A
file that took the place of another keeps its lines; the other has lost its name, and so has a
sibling that was removed. -/
def Sink.followReplacement (sink : Sink) (path : Path) (before after : FileTree)
    (replaced : Bool) : Sink :=
  match sink with
  | .console => .console
  | .lost => .lost
  | .file location =>
    let destination := before.locate? path
    if !replaced then
      match after.lookup location with
      | some (.file _) => .file location
      | _ => .lost
    else if path.temporary?.bind before.locate? == some location then
      match destination with
      | some location => .file location
      | none => .lost
    else if destination == some location then .lost
    else .file location

/-- A span that was entered and not left yet. -/
structure Stretch where
  span : Span
  /-- Whether lines show the span. -/
  isShown : Bool
  /-- The threshold that the span sets for what happens inside it. -/
  opened : Threshold
  deriving DecidableEq, Repr

/-- A journal of a run. -/
structure Journal where
  config : Config
  filter : Filter
  /-- The time that lines show. The clock is read once, when the journal is opened. -/
  time : String
  sink : Sink := .console
  /-- The spans that were entered and not left yet, outermost first. -/
  stretches : List Stretch := []
  /-- What went to the error output. -/
  console : String := ""
  deriving DecidableEq, Repr

namespace Journal

/-- The filter of a journal: the one in the environment where the settings heed it and it can be
read, else the standard filter. -/
def filterFor (config : Config) (environment : Option String) : Filter :=
  let own := if config.heedsEnvironment then environment.bind Filter.ofText? else none
  own.getD (Filter.standard config.threshold)

/-- Open a journal. A log file is created where there is none and keeps what it holds. -/
def start (config : Config) (environment : Option String) (time : String) (files : FileTree) :
    Except FileFailure (Journal × FileTree) :=
  let journal : Journal := { config, filter := filterFor config environment, time }
  match config.file with
  | none => .ok (journal, files)
  | some path => do
    let (location, _, opened) ← files.create path
    .ok ({ journal with sink := .file location }, opened)

/-- Take down a line. -/
def write (journal : Journal) (files : FileTree) (text : String) : Journal × FileTree :=
  match journal.sink with
  | .console => ({ journal with console := journal.console ++ text ++ "\n" }, files)
  | .file location => (journal, files.append location (Text.encode (text ++ "\n")))
  | .lost => (journal, files)

/-- Take down a line where there is one. -/
def write? (journal : Journal) (files : FileTree) : Option String → Journal × FileTree
  | none => (journal, files)
  | some text => journal.write files text

/-- The spans that lines show, outermost first. -/
def spans (journal : Journal) : List Span :=
  (journal.stretches.filter (·.isShown)).map (·.span)

/-- The thresholds that the spans around set. -/
def opened (journal : Journal) : List Threshold := journal.stretches.map (·.opened)

/-- Take down an event, if it is shown. -/
def record (journal : Journal) (files : FileTree) (event : Event) : Journal × FileTree :=
  if journal.filter.admitsEvent journal.opened event then
    journal.write files (line journal.config journal.time journal.spans event)
  else (journal, files)

/-- Enter a span. A span that is not shown leaves no trace and sets no threshold. -/
def enter (journal : Journal) (span : Span) : Journal :=
  let isShown := journal.filter.admitsSpan journal.opened span
  let opened := if isShown then journal.filter.opened span else .off
  { journal with stretches := journal.stretches ++ [{ span, isShown, opened }] }

/-- Leave the span that was entered last. -/
def leave (journal : Journal) (files : FileTree) : Journal × FileTree :=
  let outside : Journal := { journal with stretches := journal.stretches.dropLast }
  match journal.stretches.getLast? with
  | none => (journal, files)
  | some last =>
    outside.write? files
      (if last.isShown then closing? journal.config journal.time outside.spans last.span
       else none)

/-! ## A journal that writes to the error output leaves the files alone -/

theorem write_files {journal : Journal} (h : journal.sink = .console) (files : FileTree)
    (text : String) : (journal.write files text).2 = files := by
  simp [write, h]

theorem write_sink (journal : Journal) (files : FileTree) (text : String) :
    (journal.write files text).1.sink = journal.sink := by
  unfold write
  split <;> rfl

theorem record_files {journal : Journal} (h : journal.sink = .console) (files : FileTree)
    (event : Event) : (journal.record files event).2 = files := by
  unfold record
  split
  · exact write_files h ..
  · rfl

theorem record_sink (journal : Journal) (files : FileTree) (event : Event) :
    (journal.record files event).1.sink = journal.sink := by
  unfold record
  split
  · exact write_sink ..
  · rfl

theorem write?_files {journal : Journal} (h : journal.sink = .console) (files : FileTree)
    (text? : Option String) : (journal.write? files text?).2 = files := by
  cases text? with
  | none => rfl
  | some text => exact write_files h files text

theorem write?_sink (journal : Journal) (files : FileTree) (text? : Option String) :
    (journal.write? files text?).1.sink = journal.sink := by
  cases text? with
  | none => rfl
  | some text => exact write_sink journal files text

theorem leave_files {journal : Journal} (h : journal.sink = .console) (files : FileTree) :
    (journal.leave files).2 = files := by
  unfold leave
  split
  · rfl
  · refine write?_files ?_ ..
    exact h

theorem leave_sink (journal : Journal) (files : FileTree) :
    (journal.leave files).1.sink = journal.sink := by
  unfold leave
  split
  · rfl
  · exact write?_sink ..

end Journal

end Log

end StructVault

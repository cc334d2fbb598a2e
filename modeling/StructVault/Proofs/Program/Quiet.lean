import StructVault.Program.Tasks
import StructVault.Proofs.Steps

/-!
# Work whose journal leaves the files alone

A journal that writes to the error output touches no file, so what a task does to the files, and how
it ends, can be said without it. `Ends work files result left` says that; what the journal holds, what
it shows and what time it is do not appear. The rules follow the ways work is put together.
-/

namespace StructVault

open Steps Work

variable {α β ε δ : Type} {files between left : FileTree}

/-- The end of some work in a scene. -/
def settle {α ε : Type} (result : Except ε α) (scene : Scene) : EStateM.Result ε Scene α :=
  match result with
  | .ok value => .ok value scene
  | .error error => .error error scene

/-- From `files` the work ends with `result` and leaves `left`, under any journal that writes to the
error output. The journal still does then. -/
def Ends {α ε : Type} (work : Work ε α) (files : FileTree) (result : Except ε α)
    (left : FileTree) : Prop :=
  ∀ journal : Log.Journal, journal.sink = .console → ∃ behind : Log.Journal,
    behind.sink = .console
      ∧ work { files, journal } = settle result { files := left, journal := behind }

theorem Scene.record_eq {journal : Log.Journal} (h : journal.sink = .console) (files : FileTree)
    (event : Log.Event) : Scene.record { files, journal } event
      = { files, journal := (journal.record files event).1 } := by
  have hscene : Scene.record { files, journal } event
      = ⟨(journal.record files event).2, (journal.record files event).1⟩ := rfl
  rw [hscene, Log.Journal.record_files h]

theorem Scene.leave_eq {journal : Log.Journal} (h : journal.sink = .console) (files : FileTree) :
    Scene.leave { files, journal } = { files, journal := (journal.leave files).1 } := by
  have hscene : Scene.leave { files, journal }
      = ⟨(journal.leave files).2, (journal.leave files).1⟩ := rfl
  rw [hscene, Log.Journal.leave_files h]

namespace Ends

theorem pure (value : α) (files : FileTree) :
    Ends (Pure.pure value : Work ε α) files (.ok value) files :=
  fun journal hquiet => ⟨journal, hquiet, rfl⟩

theorem bind {work : Work ε α} {next : α → Work ε β} {value : α} {result : Except ε β}
    (h : Ends work files (.ok value) between) (hnext : Ends (next value) between result left) :
    Ends (work >>= next) files result left := by
  intro journal hquiet
  obtain ⟨middle, hmiddle, hwork⟩ := h journal hquiet
  obtain ⟨behind, hbehind, hrest⟩ := hnext middle hmiddle
  exact ⟨behind, hbehind, (bind_of_ok hwork).trans hrest⟩

theorem bind_error {work : Work ε α} {error : ε} (h : Ends work files (.error error) left)
    (next : α → Work ε β) : Ends (work >>= next) files (.error error) left := by
  intro journal hquiet
  obtain ⟨behind, hbehind, hwork⟩ := h journal hquiet
  exact ⟨behind, hbehind, bind_eq_error.mpr (Or.inl hwork)⟩

theorem get {next : Scene → Work ε β} {result : Except ε β}
    (h : ∀ journal, Ends (next { files, journal }) files result left) :
    Ends (MonadState.get >>= next) files result left := by
  intro journal hquiet
  exact h journal journal hquiet

theorem tell (event : Log.Event) (files : FileTree) :
    Ends (Work.tell event : Work ε Unit) files (.ok ()) files := by
  intro journal hquiet
  refine ⟨(journal.record files event).1, ?_, ?_⟩
  · rw [Log.Journal.record_sink, hquiet]
  · show EStateM.Result.ok () (Scene.record { files, journal } event) = _
    rw [Scene.record_eq hquiet]
    rfl

theorem tellAll : ∀ (events : List Log.Event) (files : FileTree),
    Ends (Work.tellAll events : Work ε Unit) files (.ok ()) files
  | [], files => pure () files
  | event :: rest, files => by
    have hcons : (Work.tellAll (event :: rest) : Work ε Unit)
        = Work.tell event >>= fun _ => Work.tellAll rest := rfl
    rw [hcons]
    exact (tell event files).bind (tellAll rest files)

/-- Neither entering nor leaving a span writes to a file. -/
theorem within {work : Work ε α} {result : Except ε α} (h : Ends work files result left)
    (span : Log.Span) : Ends (Work.within span work) files result left := by
  intro journal hquiet
  obtain ⟨inside, hinside, hwork⟩ := h (journal.enter span) hquiet
  refine ⟨(inside.leave left).1, ?_, ?_⟩
  · rw [Log.Journal.leave_sink, hinside]
  · unfold Work.within Scene.enter
    rw [hwork]
    cases result with
    | ok value =>
      show EStateM.Result.ok value (Scene.leave { files := left, journal := inside }) = _
      rw [Scene.leave_eq hinside]
      rfl
    | error error =>
      show EStateM.Result.error error (Scene.leave { files := left, journal := inside }) = _
      rw [Scene.leave_eq hinside]
      rfl

theorem mapError {work : Work ε α} {result : Except ε α} (h : Ends work files result left)
    (put : ε → δ) : Ends (Work.mapError put work) files (result.mapError put) left := by
  intro journal hquiet
  obtain ⟨behind, hbehind, hwork⟩ := h journal hquiet
  refine ⟨behind, hbehind, ?_⟩
  unfold Work.mapError
  rw [hwork]
  cases result with
  | ok value => rfl
  | error error => rfl

theorem ofExcept (result : Except ε α) (files : FileTree) :
    Ends (Work.ofExcept result) files result files := by
  intro journal hquiet
  refine ⟨journal, hquiet, ?_⟩
  cases result with
  | ok value => rfl
  | error error => rfl

theorem reading (look : FileTree → Except ε α) (files : FileTree) :
    Ends (Work.reading look) files (look files) files := by
  intro journal hquiet
  refine ⟨journal, hquiet, ?_⟩
  unfold Work.reading
  cases look files with
  | ok value => rfl
  | error error => rfl

/-- Lines on the error output do not follow a file that is replaced. -/
theorem replacing {path : Path} {change : FileTree → Except ε α × FileTree}
    {result : Except ε α} (h : change files = (result, left)) :
    Ends (Work.replacing path change) files result left := by
  intro journal hquiet
  refine ⟨journal, hquiet, ?_⟩
  have hsink : ∀ replaced, { journal with
      sink := journal.sink.followReplacement path files left replaced } = journal := by
    intro replaced
    rw [hquiet]
    show { journal with sink := Log.Sink.console } = journal
    rw [← hquiet]
  unfold Work.replacing
  rw [h]
  cases result with
  | ok value =>
    show EStateM.Result.ok value (Scene.mk left { journal with sink := _ }) = _
    rw [hsink]
    rfl
  | error error =>
    show EStateM.Result.error error (Scene.mk left { journal with sink := _ }) = _
    rw [hsink]
    rfl

end Ends

/-! ## Snapshots -/

namespace Task

/-- Reading a snapshot under a journal is loading it. -/
theorem ends_readSnapshot (files : FileTree) (path : Path) (verifyChecksum : Bool) :
    Ends (readSnapshot path verifyChecksum) files
      ((Snapshot.load files path verifyChecksum).mapError .snapshot) files := by
  have hdata := Ends.reading (fun files => (files.read path).mapError fun failure =>
    Database.Error.snapshot (.ofRead path failure)) files
  unfold Snapshot.load
  cases hread : files.read path with
  | error failure =>
    rw [hread] at hdata
    exact hdata.bind_error _
  | ok data =>
    rw [hread] at hdata
    refine hdata.bind ?_
    have hstructures := Ends.ofExcept
      ((Snapshot.decode verifyChecksum data).mapError Database.Error.snapshot) files
    show Ends _ files ((Snapshot.decode verifyChecksum data).mapError _) files
    cases hdecode : Snapshot.decode verifyChecksum data with
    | error error =>
      rw [hdecode] at hstructures
      exact hstructures.bind_error _
    | ok structures =>
      rw [hdecode] at hstructures
      exact hstructures.bind ((Ends.tell _ files).bind (Ends.pure structures files))

end Task

end StructVault

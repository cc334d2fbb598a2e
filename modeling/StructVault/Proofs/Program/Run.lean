import StructVault.Program.Run
import StructVault.Proofs.Program.Quiet

/-!
# Runs of a request

Behind the words of a command line stands a request, and behind the request a task. When no log file
is asked for, the run ends as the task does, whatever the environment says about the log and what
time it is (`run_of_ends`).
-/

namespace StructVault.Program

variable {words : List String} {request : Request} {files left : FileTree}

/-- Without a log file the journal writes to the error output. -/
theorem start_of_file_eq_none {config : Log.Config} (h : config.file = none)
    (environment : Option String) (time : String) (files : FileTree) :
    ∃ journal : Log.Journal, journal.sink = .console
      ∧ Log.Journal.start config environment time files = .ok (journal, files) := by
  unfold Log.Journal.start
  rw [h]
  exact ⟨_, rfl, rfl⟩

/-- The words are a command line that asks for `request`, and for no log file. -/
def Asks (words : List String) (request : Request) : Prop :=
  ∃ options, CommandLine.parse words = .ok { request, options } ∧ options.file = none

/-- In `files` a run of the words exits with 0 and leaves `left`. -/
def Succeeds (words : List String) (files left : FileTree) : Prop :=
  ∀ environment time, ∃ ending, run words environment time files = .ok ending
    ∧ ending.exitCode = 0 ∧ ending.files = left

/-- A run is the task that was asked for: its files are those of the task, and its exit code tells
whether the task went well. -/
theorem run_of_ends (hasks : Asks words request) {result : Except Failure Printed}
    (hends : Ends (Task.ofRequest request) files result left) (environment : Option String)
    (time : String) : ∃ ending, run words environment time files = .ok ending
      ∧ ending.files = left ∧ (ending.exitCode = 0 ↔ result.isOk = true) := by
  obtain ⟨options, hparse, hfile⟩ := hasks
  have hconsole : options.logConfig.file = none := hfile
  obtain ⟨journal, hquiet, hstart⟩ := start_of_file_eq_none hconsole environment time files
  obtain ⟨behind, -, htask⟩ := hends journal hquiet
  refine ⟨Ending.of (settle result { files := left, journal := behind }), ?_, ?_⟩
  · have hperform : perform { request, options } environment time files
        = Ending.of ((Task.ofRequest request) { files, journal }) := by
      unfold perform
      rw [hstart]
    unfold run
    rw [hparse]
    exact congrArg Except.ok (hperform.trans (congrArg Ending.of htask))
  · cases result with
    | ok printed => exact ⟨rfl, iff_of_true rfl rfl⟩
    | error failure => exact ⟨rfl, iff_of_false Nat.one_ne_zero Bool.false_ne_true⟩

theorem succeeds_of_ends (hasks : Asks words request) {printed : Printed}
    (hends : Ends (Task.ofRequest request) files (.ok printed) left) :
    Succeeds words files left := by
  intro environment time
  obtain ⟨ending, hrun, hleft, hcode⟩ := run_of_ends hasks hends environment time
  exact ⟨ending, hrun, hcode.mpr rfl, hleft⟩

end StructVault.Program

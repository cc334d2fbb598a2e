import StructVault.CommandLine.Parse
import StructVault.Program.Tasks

/-!
# A run of the program

- `Program.Ending`: what a run leaves: an exit code, what it printed, and the files.
- `Program.run`: the run of a list of words.
-/

namespace StructVault.Program

/-- What is said about the version. -/
def versionText : String := "spst 0.1.0\n"

/-- What a run leaves. -/
structure Ending where
  exitCode : Nat
  output : String := ""
  errors : String := ""
  files : FileTree
  deriving DecidableEq, Repr

/-- The ending of work that began with a journal open. What the journal wrote to the error output
stands before what the command itself has to say there. -/
def Ending.of (result : EStateM.Result Failure Scene Printed) : Ending :=
  match result with
  | .ok printed scene => {
      exitCode := 0, output := printed.output
      errors := scene.journal.console ++ printed.errors, files := scene.files }
  | .error failure scene => {
      exitCode := 1, errors := scene.journal.console ++ failure.message ++ "\n"
      files := scene.files }

/-- Carry out a command line. `environment` is the filter that the environment holds and `time`
the time that lines of the log show. A journal that cannot be opened ends the run. -/
def perform (line : CommandLine) (environment : Option String) (time : String)
    (files : FileTree) : Ending :=
  match Log.Journal.start line.options.logConfig environment time files with
  | .error failure =>
    { exitCode := 1, errors := s!"error: failed to initialize logging: {failure.message}\n", files }
  | .ok (journal, files) => Ending.of ((Task.ofRequest line.request) { files, journal })

/-- Run the program on a list of words, if they are a command line. -/
def run (words : List String) (environment : Option String) (time : String) (files : FileTree) :
    Except Halt Ending :=
  (CommandLine.parse words).map fun line => perform line environment time files

end StructVault.Program

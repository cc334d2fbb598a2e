import StructVault.CommandLine.Reading

/-!
# The command line

The commands with their options, and the way from words to a request. The options of the log
may stand before and behind the name of the command; what stands behind it counts.

- `Grammar.program`, `Grammar.produce`, `Grammar.load`, `Grammar.inspect`: the options.
- `CommandLine.parse`: the command line of a list of words, or why nothing is carried out.
-/

namespace StructVault

namespace Grammar

/-- The options all commands share. -/
def shared : List Switch := [
  { long := "verbose", letter := some 'v', effect := .count .louder },
  { long := "quiet", letter := some 'q', effect := .count .quieter },
  { long := "color", effect := .value .styling },
  { long := "log-level", effect := .value .severity },
  { long := "log-format", effect := .value .layout },
  { long := "log-file", effect := .value .logFile },
  { long := "help", letter := some 'h', effect := .help }]

/-- The program itself, with the names of its commands. -/
def program : Grammar where
  switches := shared ++ [{ long := "version", letter := some 'V', effect := .version }]
  commands := ["produce", "load", "inspect", "help"]

/-- The command that writes a snapshot. -/
def produce : Grammar where
  switches := shared ++ [
    { long := "database", effect := .value .database },
    { long := "output", letter := some 'o', effect := .value .output },
    { long := "no-sync", effect := .set .noSync }]

/-- The command that loads a snapshot into a database. -/
def load : Grammar where
  switches := shared ++ [
    { long := "database", effect := .value .database },
    { long := "skip-checksum", effect := .set .skipChecksum }]
  arguments := [.input]

/-- The command that shows a snapshot. -/
def inspect : Grammar where
  switches := shared ++ [
    { long := "members", effect := .set .members },
    { long := "format", effect := .value .view },
    { long := "skip-checksum", effect := .set .skipChecksum }]
  arguments := [.input]

end Grammar

namespace CommandLine

/-- Help asked for as a command: about the program or one of its commands. -/
def help : List String → Halt
  | [] => .helpAsked
  | [command] => if Grammar.program.commands.contains command then .helpAsked else .invalidCommand
  | _ => .invalidCommand

/-- The path given under a key. -/
def path (reading : Reading) (key : Key) : Except Halt Path :=
  match reading.value? key with
  | none => .error .missingArgument
  | some text => .ok ⟨text⟩

/-- How a snapshot is to be shown. -/
def view (reading : Reading) : View :=
  if reading.value? .view == some "text" then .text else .table

/-- The request of a command, from the words behind its name. -/
def readRequest (command : String) (words : List String) : Except Halt (Request × Reading) := do
  let grammar := match command with
    | "produce" => Grammar.produce
    | "load" => Grammar.load
    | _ => Grammar.inspect
  let (read, _) ← Reading.run grammar false { arguments := grammar.arguments } words
  let reading ← read.finish
  match command with
  | "produce" => do
    let database ← path reading .database
    let output ← path reading .output
    .ok (.produce database output (!reading.has .noSync), reading)
  | "load" => do
    let snapshot ← path reading .input
    let database ← path reading .database
    .ok (.load snapshot database (!reading.has .skipChecksum), reading)
  | _ => do
    let snapshot ← path reading .input
    .ok (.inspect snapshot (reading.has .members) (!reading.has .skipChecksum) (view reading),
      reading)

/-- The largest count of an option. -/
def largestCount : Nat := 255

/-- How often an option is given behind the command, or else before it. -/
def count (inner outer : Reading) (key : Key) : Nat :=
  min largestCount (if inner.has key then inner.times key else outer.times key)

/-- The value given behind the command, or else before it. -/
def value? (inner outer : Reading) (key : Key) : Option String :=
  (inner.value? key).orElse fun _ => outer.value? key

/-- The severity an option names. -/
def severityOf : String → Log.Severity
  | "error" => .error
  | "warn" => .warn
  | "info" => .info
  | "debug" => .debug
  | _ => .trace

/-- The layout an option names. -/
def layoutOf : String → Log.Layout
  | "compact" => .compact
  | "json" => .json
  | _ => .full

/-- The choice of styles an option names. -/
def stylingOf : String → Styling
  | "always" => .always
  | "never" => .never
  | _ => .auto

/-- The shared options, from what was read behind the name of the command and before it. -/
def readOptions (inner outer : Reading) : Options where
  louder := count inner outer .louder
  quieter := count inner outer .quieter
  styling := ((value? inner outer .styling).map stylingOf).getD .auto
  severity := (value? inner outer .severity).map severityOf
  layout := ((value? inner outer .layout).map layoutOf).getD .full
  file := (value? inner outer .logFile).map Path.mk

/-- The command line of a list of words. Faults behind the name of the command are told before
those in front of it. -/
def parse (words : List String) : Except Halt CommandLine := do
  let (outer, command) ← Reading.run .program false { arguments := [] } words
  match command with
  | none =>
    let settled ← outer.settle
    .error (if settled.given.isEmpty then .nothingGiven else .missingCommand)
  | some ("help", rest) => .error (help rest)
  | some (command, rest) =>
    let (request, inner) ← readRequest command rest
    let outer ← outer.finish
    .ok { request, options := readOptions inner outer }

end CommandLine

end StructVault

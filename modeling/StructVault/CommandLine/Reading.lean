import StructVault.CommandLine.Request

/-!
# Reading options

A command line is read word by word. A word is an option by its long name, with or without a
value behind an equals sign; a row of options by their letters; the mark behind which everything
is an argument; or an argument.

An option that takes a value waits for the next word, and its value is settled, that is checked
and noted, only when the next option or argument begins or the words are at an end. So an unknown
option is told before a bad value in front of it.

- `Word.of`: the kind of a word.
- `Key`: what options and arguments set.
- `Switch`, `Grammar`: the options and arguments of a command.
- `Reading`: what has been read.
- `Reading.run`: read the words of a command, up to the name of a command inside it.
-/

namespace StructVault

/-! ## Words -/

/-- A word of a command line. -/
inductive Word where
  /-- Two dashes and nothing else. -/
  | mark
  | long (name : String) (value : Option String)
  | letters (letters : List Char)
  | argument (text : String)
  deriving DecidableEq, Repr

namespace Word

/-- A long option: its name and what stands behind the first equals sign. -/
def ofLong (text : List Char) : Word :=
  let name := String.ofList (text.takeWhile (· != '='))
  match text.dropWhile (· != '=') with
  | [] => long name none
  | _ :: value => long name (some (String.ofList value))

/-- The kind of a word. A single dash is an argument. -/
def of (text : String) : Word :=
  match text.toList with
  | ['-', '-'] => mark
  | '-' :: '-' :: rest => ofLong rest
  | '-' :: c :: rest => letters (c :: rest)
  | _ => argument text

end Word

/-! ## Options -/

/-- What options and arguments set. -/
inductive Key where
  | louder
  | quieter
  | styling
  | severity
  | layout
  | logFile
  | database
  | output
  | noSync
  | skipChecksum
  | members
  | view
  | input
  deriving DecidableEq, Repr

/-- What an option does. -/
inductive Effect where
  /-- Set something that is either set or not. -/
  | set (key : Key)
  /-- Count how often it is given. -/
  | count (key : Key)
  /-- Take a value. -/
  | value (key : Key)
  | help
  | version
  deriving DecidableEq, Repr

/-- An option: a long name, perhaps a letter, and what it does. -/
structure Switch where
  long : String
  letter : Option Char := none
  effect : Effect
  deriving DecidableEq, Repr

/-- The options and arguments of a command, and the commands inside it. -/
structure Grammar where
  switches : List Switch
  arguments : List Key := []
  commands : List String := []
  deriving DecidableEq, Repr

/-- The values a key accepts. A path is any text but the empty one. -/
def Key.accepts (key : Key) (value : String) : Bool :=
  match key with
  | .styling => ["auto", "always", "never"].contains value
  | .severity => ["error", "warn", "info", "debug", "trace"].contains value
  | .layout => ["pretty", "compact", "json"].contains value
  | .view => ["table", "text"].contains value
  | _ => !value.isEmpty

/-- What has been read of the words of a command. -/
structure Reading where
  /-- Keys with their values, in order; keys without values are noted with the empty text. -/
  given : List (Key × String) := []
  /-- The option that waits for its value, or has one that is not settled. -/
  pending : Option (Key × Option String) := none
  /-- The arguments still to come. -/
  arguments : List Key
  deriving DecidableEq, Repr

namespace Reading

/-- Whether an option waits for its value. -/
def isWaiting (reading : Reading) : Bool :=
  match reading.pending with
  | some (_, none) => true
  | _ => false

/-- Whether a key has been given. -/
def has (reading : Reading) (key : Key) : Bool := reading.given.any (·.1 == key)

/-- How often a key has been given. -/
def times (reading : Reading) (key : Key) : Nat := (reading.given.filter (·.1 == key)).length

/-- The value of a key. -/
def value? (reading : Reading) (key : Key) : Option String := reading.given.lookup key

/-- Note a key that is given once at most. -/
def note (reading : Reading) (key : Key) (value : String) : Except Halt Reading :=
  if reading.has key then .error .conflict
  else .ok { reading with given := reading.given ++ [(key, value)] }

/-- Note a key with a value it has to accept. A repetition is told before a bad value. -/
def noteValue (reading : Reading) (key : Key) (value : String) : Except Halt Reading := do
  let noted ← reading.note key value
  if key.accepts value then .ok noted else .error .invalidValue

/-- Check and note the pending value. -/
def settle (reading : Reading) : Except Halt Reading :=
  match reading.pending with
  | none => .ok reading
  | some (_, none) => .error .invalidValue
  | some (key, some value) => { reading with pending := none }.noteValue key value

/-- Carry out an option without a value behind it. -/
def apply (reading : Reading) (effect : Effect) : Except Halt Reading := do
  let settled ← reading.settle
  match effect with
  | .set key => settled.note key ""
  | .count key => .ok { settled with given := settled.given ++ [(key, "")] }
  | .value key => .ok { settled with pending := some (key, none) }
  | .help => .error .helpAsked
  | .version => .error .versionAsked

/-- Carry out an option with a value attached to it. -/
def applyWith (reading : Reading) (effect : Effect) (value : String) : Except Halt Reading :=
  match effect with
  | .value key => do (← reading.settle).noteValue key value
  | _ => .error .tooManyValues

/-- A long option. -/
def readLong (grammar : Grammar) (reading : Reading) (name : String) (value : Option String) :
    Except Halt Reading :=
  match grammar.switches.find? (·.long == name), value with
  | none, _ => .error .unknownArgument
  | some switch, none => reading.apply switch.effect
  | some switch, some value => reading.applyWith switch.effect value

/-- A row of options by their letters. What stands behind the letter of an option that takes a
value, or behind an equals sign there, is the value. -/
def readLetters (grammar : Grammar) : Reading → List Char → Except Halt Reading
  | reading, [] => .ok reading
  | reading, letter :: rest =>
    match grammar.switches.find? (·.letter == some letter) with
    | none => .error .unknownArgument
    | some switch =>
      match switch.effect, rest with
      | .value _, '=' :: value => reading.applyWith switch.effect (String.ofList value)
      | .value _, c :: value => reading.applyWith switch.effect (String.ofList (c :: value))
      | effect, _ => do readLetters grammar (← reading.apply effect) rest

/-- An argument. Behind the mark it never is the value of an option. -/
def readArgument (grammar : Grammar) (reading : Reading) (marked : Bool) (text : String) :
    Except Halt Reading :=
  match marked, reading.pending, reading.arguments with
  | false, some (key, none), _ => .ok { reading with pending := some (key, some text) }
  | _, _, key :: arguments => do
    let settled ← reading.settle
    .ok { settled with pending := some (key, some text), arguments }
  | _, _, [] =>
    if grammar.commands.isEmpty || marked && grammar.commands.contains text then
      .error .unknownArgument
    else .error .invalidCommand

/-- Read words up to the name of a command, which is given with the words behind it. -/
def run (grammar : Grammar) : (marked : Bool) → Reading → List String →
    Except Halt (Reading × Option (String × List String))
  | _, reading, [] => .ok (reading, none)
  | true, reading, word :: rest => do
    run grammar true (← reading.readArgument grammar true word) rest
  | false, reading, word :: rest =>
    if !reading.isWaiting && grammar.commands.contains word then
      .ok (reading, some (word, rest))
    else match Word.of word with
      | .mark => run grammar true reading rest
      | .long name value => do run grammar false (← reading.readLong grammar name value) rest
      | .letters letters => do run grammar false (← readLetters grammar reading letters) rest
      | .argument text => do run grammar false (← reading.readArgument grammar false text) rest

/-- The end of the words: the pending value is settled, and what excludes each other must not
both be given. -/
def finish (reading : Reading) : Except Halt Reading := do
  let settled ← reading.settle
  if settled.has .louder && settled.has .quieter then .error .conflict else .ok settled

end Reading

end StructVault

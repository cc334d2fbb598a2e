import StructVault.Json.Error

/-!
# Taking JSON apart

A `Reader` takes characters from the front of a text and counts their bytes, so that errors can
say where they arose. An error points behind the last byte that was taken (`fail`) or, where the
next byte is the one at fault, behind that one (`failNext`).

- `Reader.blanks`, `Reader.peek`, `Reader.advance`: the steps every other reader is made of.
- `Reader.literal`: the rest of `null`, `true` or `false`.
- `Problem.locate`: from a count of bytes to a line and a column.
-/

namespace StructVault.Json

/-- What is left of a text. -/
structure Input where
  /-- Bytes taken so far. -/
  offset : Nat
  rest : List Char
  deriving DecidableEq, Repr

/-- A cause behind a number of bytes. -/
structure Problem where
  offset : Nat
  cause : Cause
  deriving DecidableEq, Repr

/-- A step that takes characters and gives a value or a problem. -/
abbrev Reader := EStateM Problem Input

/-- The blanks of JSON. -/
def isBlank (c : Char) : Bool := c == ' ' || c == '\n' || c == '\t' || c == '\r'

namespace Reader

/-- Stop behind the last byte taken. -/
def fail {α : Type} (cause : Cause) : Reader α := fun input =>
  .error ⟨input.offset, cause⟩ input

/-- Stop behind the next byte, if there is one. -/
def failNext {α : Type} (cause : Cause) : Reader α := fun input =>
  .error ⟨input.offset + (if input.rest.isEmpty then 0 else 1), cause⟩ input

/-- Take all blanks at the front. -/
def blanks : Reader Unit := fun input =>
  let count := (input.rest.takeWhile isBlank).length
  .ok () { offset := input.offset + count, rest := input.rest.drop count }

/-- The next character, which stays. -/
def peek : Reader (Option Char) := fun input => .ok input.rest.head? input

/-- Take one character. -/
def advance : Reader Unit := fun input =>
  match input.rest with
  | [] => .ok () input
  | c :: cs => .ok () { offset := input.offset + c.utf8Size, rest := cs }

/-- The next character that is no blank, which stays. -/
def peekPastBlanks : Reader (Option Char) := do
  blanks
  peek

/-- How many rounds a loop over the rest of the text can have at most. -/
def rounds : Reader Nat := fun input => .ok (input.rest.length + 1) input

/-- Take one byte and stop: the character it belongs to is at fault. -/
def failTaken {α : Type} (cause : Cause) : Reader α := fun input =>
  .error ⟨input.offset + 1, cause⟩ input

/-- The given characters and no others. -/
def literal : List Char → Reader Unit
  | [] => return ()
  | expected :: more => do
    match ← peek with
    | none => fail .endInValue
    | some c => if c == expected then advance; literal more else failTaken .expectedIdent

end Reader

/-- Line and column behind a number of bytes of a text. -/
def locate (offset : Nat) (text : List Char) : Nat × Nat :=
  go text 0 1 0
where
  /-- Go on behind `done` bytes, in a line that started behind `start` bytes. -/
  go : List Char → (done line start : Nat) → Nat × Nat
    | [], _, line, start => (line, offset - start)
    | c :: cs, done, line, start =>
      if offset ≤ done then (line, offset - start)
      else if c == '\n' then go cs (done + 1) (line + 1) (done + 1)
      else go cs (done + c.utf8Size) line start

/-- A problem in a text, with its line and column. -/
def Problem.locate (problem : Problem) (text : List Char) : Error :=
  let (line, column) := Json.locate problem.offset text
  { cause := problem.cause, line, column }

end StructVault.Json

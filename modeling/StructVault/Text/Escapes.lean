import StructVault.Text.Split
import StructVault.Text.Visible

/-!
# Escape sequences in text

Text may carry sequences that change the colour or weight of what follows on a terminal. A line
that is cut must not lose them, and must not be cut inside one.

A sequence is the escape character or its one-character form, then a bracket or other marks,
then up to four digits in each of some numbers with semicolons between them, then a letter. It
is taken as long as possible, and may stop at a digit. A command for the program that draws the
terminal goes on to the bell or to the end of the command, or else to the next escape character.
These sequences are narrower than what a terminal takes for an order (`visible`), which alone
decides the width of a line.

- `sequenceLength?`: the sequence at the front of a text.
- `pieces`: a line as alternating sequences and plain runs.
- `splitOutside`: a line broken at separators, but never inside a sequence.
- `carry`: close the sequences that are active at the end of each line and open them again at
  the start of the next.
-/

namespace StructVault.Text

/-- The sequence that ends all styles. -/
def resetSequence : List Char := [escape, '[', '0', 'm']

/-! ## One sequence -/

/-- How far a sequence has been read. -/
inductive SequenceState where
  /-- Only the character that begins it. -/
  | opened
  /-- A parenthesis, which names a set of characters. -/
  | charset
  /-- Brackets and other marks. -/
  | marked
  /-- Digits of a number, so many of them. -/
  | digits (count : Nat)
  /-- A semicolon behind a number. -/
  | separated
  /-- The letter or digit that nothing follows. -/
  | complete
  deriving DecidableEq, Repr

namespace SequenceState

/-- Whether a character can be the letter at the end of a sequence. -/
def isLetter (c : Char) : Bool :=
  'A' ≤ c && c ≤ 'P' || c == 'R' || c == 'Z' || c == 'c' || 'f' ≤ c && c ≤ 'n'
    || c == 'q' || c == 'r' || c == 'y' || c == '=' || c == '>' || c == '<'

/-- The digits of a number that something else than its fifth digit may follow. -/
def mostDigits : Nat := 4

/-- The state behind one more character, if the sequence goes on with it. -/
def next? (state : SequenceState) (c : Char) : Option SequenceState :=
  if c.isDigit then
    match state with
    | .opened | .marked | .separated => some (.digits 1)
    | .charset => some (if c ≤ '2' then .complete else .digits 1)
    | .digits count => if count ≤ mostDigits then some (.digits (count + 1)) else none
    | .complete => none
  else if c == '(' || c == ')' then
    match state with
    | .opened => some .charset
    | .charset | .marked => some .marked
    | _ => none
  else if c == '[' || c == '#' || c == '?' || c == ';' then
    match state with
    | .opened | .charset | .marked => some .marked
    | .digits count => if c == ';' && count ≤ mostDigits then some .separated else none
    | .separated => if c == ';' then some .separated else none
    | .complete => none
  else if isLetter c then
    match state with
    | .complete => none
    | .digits count => if count ≤ mostDigits then some .complete else none
    | _ => some .complete
  else none

/-- Whether a sequence may stop here. -/
def isFinal : SequenceState → Bool
  | .digits _ | .complete => true
  | _ => false

/-- The length of the longest sequence at the front of a text behind a state; `length`
characters were read so far, and `best` is the longest sequence among them. -/
def longest (state : SequenceState) (length : Nat) (best : Option Nat) : List Char → Option Nat
  | [] => best
  | c :: cs =>
    match state.next? c with
    | none => best
    | some next =>
      next.longest (length + 1) (if next.isFinal then some (length + 1) else best) cs

end SequenceState

/-- The length of the rest of a command. -/
def commandLength : List Char → Nat
  | [] => 0
  | c :: cs =>
    if c == bell then 1
    else if c == escape then if cs.head? == some '\\' then 2 else 0
    else commandLength cs + 1

/-- The length of the sequence at the front of a text, if one starts there. -/
def sequenceLength? : List Char → Option Nat
  | [] => none
  | c :: cs =>
    if c == escape && cs.head? == some ']' then some (2 + commandLength cs.tail)
    else if c == escape || c.toNat == 0x9B then SequenceState.longest .opened 1 none cs
    else none

/-! ## The parts of a line -/

/-- A part of a line: an escape sequence, or text between sequences. -/
structure Piece where
  isEscape : Bool
  chars : List Char
  deriving DecidableEq, Repr

/-- Put a character in front of the parts of the text behind it. -/
def consPlain (c : Char) : List Piece → List Piece
  | ⟨false, cs⟩ :: more => ⟨false, c :: cs⟩ :: more
  | more => ⟨false, [c]⟩ :: more

/-- The parts of a line; `passing` characters at its front belong to a sequence already taken. -/
def piecesFrom : List Char → (passing : Nat) → List Piece
  | [], _ => []
  | _ :: cs, passing + 1 => piecesFrom cs passing
  | c :: cs, 0 =>
    match sequenceLength? (c :: cs) with
    | some length => ⟨true, (c :: cs).take length⟩ :: piecesFrom cs (length - 1)
    | none => consPlain c (piecesFrom cs 0)

/-- The parts of a line. -/
def pieces (line : List Char) : List Piece := piecesFrom line 0

/-! ## Lines -/

/-- The sequences active behind a part, given those active before it. -/
def activeAfter (active : List (List Char)) (piece : Piece) : List (List Char) :=
  if !piece.isEscape then active
  else if piece.chars == resetSequence then []
  else active ++ [piece.chars]

/-- Close the active sequences at the end of each line and open them on the next one. -/
def carryFrom : (active : List (List Char)) → List (List Char) → List (List Char)
  | _, [] => []
  | active, line :: lines =>
    let after := (pieces line).foldl activeAfter active
    (active.flatten ++ line ++ if after.isEmpty then [] else resetSequence)
      :: carryFrom after lines

/-- Close the active sequences at the end of each line and open them on the next one. -/
def carry (lines : List (List Char)) : List (List Char) := carryFrom [] lines

/-- A line broken wherever a separator stands outside its sequences. -/
def splitOutside (separator : Char) (line : List Char) : List (List Char) :=
  (pieces line).foldr (fun piece parts =>
    let front := if piece.isEscape then [piece.chars] else splitAt separator piece.chars
    front.dropLast ++ (front.getLast?.getD [] ++ parts.head?.getD []) :: parts.tail) [[]]

end StructVault.Text

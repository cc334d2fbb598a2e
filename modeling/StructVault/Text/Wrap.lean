import StructVault.Text.Cluster
import StructVault.Text.Escapes

/-!
# Wrapping lines

A line that is too wide for its column is broken at blanks. A line ends early when hardly any
room is left on it, and a word is broken only where it is too wide for a line of its own; it then
fills what is left of the line before it.

- `cut`: a word broken where it fills the room that is there.
- `wrap`: the lines of a text in a column.
-/

namespace StructVault.Text

/-- Room that is not worth using: a line with no more of it left is full. -/
def scrap : Nat := 2

/-- As many clusters of a text as fit into the room, and the rest. -/
def takeClusters : (rounds room : Nat) → List Char → List Char × List Char
  | 0, _, cs => ([], cs)
  | _, _, [] => ([], [])
  | rounds + 1, room, cs =>
    let (cluster, rest) := firstCluster cs
    let columns := widthOf cluster
    if room < columns then ([], cs)
    else
      let (front, back) := takeClusters rounds (room - columns) rest
      (cluster ++ front, back)

/-- What has been put in front of the cut so far. -/
structure CutState where
  room : Nat
  /-- Everything up to the last plain text. -/
  head : List Char := []
  /-- Whether a sequence was active there. -/
  headStyled : Bool := false
  /-- Sequences behind the last plain text. -/
  waiting : List Char := []
  /-- The sequences active so far. -/
  active : List (List Char) := []

/-- Break the parts of a word where the room ends. -/
def cutPieces (state : CutState) : List Piece → List Char × List Char
  | [] => (state.head ++ state.waiting, [])
  | piece :: more =>
    if piece.isEscape then
      cutPieces { state with
        waiting := state.waiting ++ piece.chars, active := activeAfter state.active piece } more
    else
      let columns := widthOf piece.chars
      if columns ≤ state.room then
        cutPieces { state with
          room := state.room - columns
          head := state.head ++ state.waiting ++ piece.chars
          headStyled := !state.active.isEmpty
          waiting := [] } more
      else
        let (front, back) := takeClusters piece.chars.length state.room piece.chars
        let (head, styled) :=
          if front.isEmpty then (state.head, state.headStyled)
          else (state.head ++ state.waiting ++ front, !state.active.isEmpty)
        (head ++ (if styled then resetSequence else []),
          state.active.flatten ++ back ++ more.flatMap (·.chars))

/-- A word broken where it fills the room: what fits, and the rest with its styles opened
again. -/
def cut (room : Nat) (word : List Char) : List Char × List Char :=
  cutPieces { room } (pieces word)

/-- End the line if hardly any room is left on it. -/
def endIfFull (columns : Nat) (line : List Char) : List (List Char) × List Char :=
  if columns - scrap < visibleWidth line then ([line], []) else ([], line)

/-- Put words onto lines. `line` is the line begun, and each round puts one word, or a part of
one, somewhere. -/
def fill (columns : Nat) : (rounds : Nat) → (line : List Char) → List (List Char) →
    List (List Char)
  | _, line, [] => if line.isEmpty then [] else [line]
  | 0, line, words => line :: words
  | rounds + 1, line, word :: words =>
    let used := visibleWidth line
    let wordWidth := visibleWidth word
    let gap := if line.isEmpty then 0 else 1
    let room := columns - used - gap
    if used + gap + wordWidth ≤ columns then
      let joined := if line.isEmpty then word else line ++ ' ' :: word
      let (ended, next) := endIfFull columns joined
      ended ++ fill columns rounds next words
    else if !line.isEmpty && room ≤ scrap then
      line :: fill columns rounds [] (word :: words)
    else if columns < wordWidth then
      let (front, back) := cut room word
      if line.isEmpty && front.isEmpty then
        back.take 1 :: fill columns rounds [] (back.drop 1 :: words)
      else
        ((if line.isEmpty then front else line ++ ' ' :: front))
          :: fill columns rounds [] (back :: words)
    else
      let (ended, next) := endIfFull columns word
      line :: ended ++ fill columns rounds next words

/-- The lines of a text in a column: the text itself where it fits. -/
def wrap (columns : Nat) (line : List Char) : List (List Char) :=
  if visibleWidth line ≤ columns then [line]
  else
    let words := carry (splitOutside ' ' line)
    carry (fill columns (3 * (line.length + words.length)) [] words)

end StructVault.Text

import StructVault.Text.Wrap

/-!
# Grids of text

Rows of cells under a header, drawn with a frame. Columns share a limited width: a column that
needs no more than its share gets what it needs, and what it leaves is shared by the others.

- `Cell`: a text with a colour and a weight.
- `Grid`: the header, the rows and the columns that are aligned to the right.
- `Grid.columnWidths`: how the width is shared.
- `Grid.render`: the drawing, plain or with colours.
-/

namespace StructVault.Report

/-- The looks of a cell: a colour by its number in the palette of 256, and a weight. -/
structure Style where
  colour : Option Nat := none
  bold : Bool := false
  deriving DecidableEq, Repr

namespace Style

/-- A text in this style, between the sequences that begin and end it. -/
def apply (style : Style) (text : List Char) : List Char :=
  let escape := [Char.ofNat 27, '[']
  let colour := match style.colour with
    | none => []
    | some n => escape ++ "38;5;".toList ++ (toString n).toList ++ ['m']
  let weight := if style.bold then escape ++ ['1', 'm'] else []
  let ending :=
    if style.bold then Text.resetSequence
    else if style.colour.isSome then escape ++ ['3', '9', 'm']
    else []
  colour ++ weight ++ text ++ ending

end Style

/-- A text in a grid. -/
structure Cell where
  text : String
  style : Style := {}
  deriving DecidableEq, Repr

/-- The lines of a cell, before any is wrapped. -/
def Cell.lines (cell : Cell) : List (List Char) :=
  Text.carry (Text.splitAt '\n' cell.text.toList)

/-- Rows of cells under a header. -/
structure Grid where
  header : List Cell
  rows : List (List Cell)
  /-- The columns, counted from zero, whose cells are aligned to the right. -/
  rightAligned : List Nat := []
  deriving DecidableEq, Repr

namespace Grid

/-- The width that a drawing does not exceed. -/
def widthLimit : Nat := 120

/-- The blanks on each side of a cell. -/
def padding : Nat := 1

/-- The lines of all cells of a column, header first. -/
def columnLines (grid : Grid) (index : Nat) : List (List Char) :=
  (grid.header :: grid.rows).flatMap fun row => (row[index]?.map Cell.lines).getD []

/-- The width a column needs so that no line of it has to be wrapped. -/
def naturalWidth (lines : List (List Char)) : Nat :=
  (lines.map Text.visibleWidth).foldl max 1

/-! ## Sharing the width -/

/-- The columns whose width is settled, and what is left for the others. -/
structure Share where
  remaining : Nat
  undecided : Nat
  widths : List (Option Nat)
  deriving Repr

namespace Share

/-- What each undecided column can have. -/
def average (share : Share) : Nat := share.remaining / share.undecided

/-- One pass from left to right in which `settle average index` proposes a width for a column,
or none. What a column leaves counts for the columns behind it at once. -/
def pass (settle : Nat → Nat → Option Nat) (share : Share) : Share :=
  let step := fun (state : Nat × Nat × List (Option Nat)) (entry : Option Nat × Nat) =>
    let (remaining, undecided, widths) := state
    match entry.1 with
    | some width => (remaining, undecided, widths ++ [some width])
    | none =>
      match settle (remaining / undecided) entry.2 with
      | some width => (remaining - width, undecided - 1, widths ++ [some width])
      | none => (remaining, undecided, widths ++ [none])
  let (remaining, undecided, widths) :=
    share.widths.zipIdx.foldl step (share.remaining, share.undecided, [])
  { remaining, undecided, widths }

/-- Passes until all columns are settled or a pass settles none; each that goes on settles at
least one. -/
def passes (settle : Nat → Nat → Option Nat) (share : Share) : Share :=
  (List.range share.widths.length).foldl (fun share _ => share.pass settle) share

/-- The widths of all columns. What is left goes to the undecided columns in equal parts, and
one column more each to the leftmost while that does not come out even. -/
def finish (share : Share) : List Nat :=
  (share.widths.foldl (fun (state : Nat × List Nat) entry =>
    match entry with
    | some width => (state.1, state.2 ++ [width])
    | none =>
      let extra := if 0 < state.1 then 1 else 0
      (state.1 - 1, state.2 ++ [share.average + extra]))
    (share.remaining % share.undecided, [])).2

end Share

/-- The room a column keeps free at least before it is settled below its share. -/
def worthwhileGap : Nat := 3

/-- The widths of the columns. Columns that fit into their share come first, then columns whose
lines, once wrapped, leave enough of the share; the length of such a line is taken in bytes. -/
def columnWidths (grid : Grid) : List Nat :=
  let count := grid.header.length
  let columns := (List.range count).map grid.columnLines
  let frame := count + 1 + count * (2 * padding)
  let start : Share := {
    remaining := widthLimit - frame, undecided := count, widths := List.replicate count none }
  let natural := fun average index =>
    let needed := naturalWidth (columns[index]?.getD [])
    if needed ≤ average then some needed else none
  let wrapped := fun average index =>
    let lines := (columns[index]?.getD []).flatMap (Text.wrap average)
    let longest := (lines.map fun line => (String.ofList line).utf8ByteSize).foldl max 0
    if worthwhileGap ≤ average - longest then some longest else none
  ((start.passes natural).passes wrapped).finish

/-! ## Drawing -/

/-- A line of a cell between its padding, filled up to the width of its column. -/
def alignLine (right : Bool) (width : Nat) (line : List Char) : List Char :=
  let fill := List.replicate (width - Text.visibleWidth line) ' '
  let side := List.replicate padding ' '
  side ++ (if right then fill ++ line else line ++ fill) ++ side

/-- The lines of a cell as they are drawn. -/
def cellLines (styled right : Bool) (width : Nat) (cell : Cell) : List (List Char) :=
  (cell.lines.flatMap (Text.wrap width)).map fun line =>
    let aligned := alignLine right width line
    if styled then cell.style.apply aligned else aligned

/-- Texts with a separator between them, inside a border. -/
def frameLine (left separator right : Char) (parts : List (List Char)) : List Char :=
  left :: (List.intercalate [separator] parts) ++ [right]

/-- A horizontal line of the frame. -/
def rule (left line separator right : Char) (widths : List Nat) : List Char :=
  frameLine left separator right
    (widths.map fun width => List.replicate (width + 2 * padding) line)

/-- The lines of a row. Cells with fewer lines than others are filled up with blanks. -/
def rowLines (grid : Grid) (styled : Bool) (widths : List Nat) (row : List Cell) :
    List (List Char) :=
  let cells := (row.zip widths).zipIdx.map fun ((cell, width), index) =>
    (cellLines styled (grid.rightAligned.contains index) width cell, width)
  let height := (cells.map (·.1.length)).foldl max 0
  (List.range height).map fun index =>
    frameLine '│' '┆' '│' (cells.map fun (lines, width) =>
      lines[index]?.getD (List.replicate (width + 2 * padding) ' '))

/-- The drawing of a grid, line by line. -/
def lines (grid : Grid) (styled : Bool) : List (List Char) :=
  let widths := grid.columnWidths
  [rule '╭' '─' '┬' '╮' widths]
    ++ grid.rowLines styled widths grid.header
    ++ [rule '╞' '═' '╪' '╡' widths]
    ++ grid.rows.flatMap (grid.rowLines styled widths)
    ++ [rule '╰' '─' '┴' '╯' widths]

/-- The drawing of a grid, without a line feed at its end. -/
def render (grid : Grid) (styled : Bool) : String :=
  String.ofList (List.intercalate ['\n'] (grid.lines styled))

end Grid

end StructVault.Report

import StructVault.Report.Grid
import StructVault.Structure

/-!
# The table of structures

A row for each structure, on demand one for each of its members under it, and a row of totals.
-/

namespace StructVault.Report

/-- The colours of the palette that the table uses. -/
inductive Colour where
  | cyan
  | grey
  | yellow
  deriving DecidableEq, Repr

/-- The number of a colour in the palette. -/
def Colour.code : Colour → Nat
  | cyan => 14
  | grey => 8
  | yellow => 11

/-- A cell of the header, or of the row of totals. -/
def headingCell (text : String) : Cell := ⟨text, { colour := some Colour.cyan.code, bold := true }⟩

/-- A cell that is there for completeness. -/
def dimCell (text : String) : Cell := ⟨text, { colour := some Colour.grey.code }⟩

/-- A cell with weight. -/
def boldCell (text : String) : Cell := ⟨text, { bold := true }⟩

/-- The row of a structure. -/
def structureRow (struct : Structure) : List Cell := [
  boldCell struct.name,
  dimCell "struct",
  ⟨toString struct.size.toNat, {}⟩,
  ⟨toString struct.members.length, {}⟩,
  ⟨struct.comment, {}⟩]

/-- The row of a member. Types nobody could tell stand out. -/
def memberRow (member : Member) : List Cell := [
  ⟨"  " ++ member.name, {}⟩,
  ⟨member.typeName, if member.isUndefined then { colour := some Colour.yellow.code } else {}⟩,
  ⟨toString member.size.toNat, {}⟩,
  dimCell "-",
  ⟨member.comment, {}⟩]

/-- The row of a structure and the rows of its members. -/
def structureRows (showMembers : Bool) (struct : Structure) : List (List Cell) :=
  structureRow struct :: if showMembers then struct.members.map memberRow else []

/-- The sizes of all structures together. -/
def totalSize (structures : List Structure) : ByteSize :=
  ByteSize.total (structures.map (·.size))

/-- The row of totals. -/
def totalRow (structures : List Structure) : List Cell := [
  headingCell "TOTAL",
  dimCell "-",
  boldCell (toString (totalSize structures).toNat),
  boldCell (toString (memberCount structures)),
  dimCell "-"]

/-- The table of a list of structures. -/
def structureTable (structures : List Structure) (showMembers : Bool) : Grid where
  header := ["Name", "Type", "Size", "Members", "Comment"].map headingCell
  rows := structures.flatMap (structureRows showMembers) ++ [totalRow structures]
  rightAligned := [2, 3]

end StructVault.Report

import Std.Data.String.ToNat
import StructVault.Proofs.Report.Nesting
import StructVault.Report.Table

/-!
# The rows of the table

The table has a row for each structure of a list, a row for each of its members under it if members are
shown, and a row of totals behind all others. `Tabulates` says what stands in which row, and
`tabulates_structureTable` that the table is of this kind. The totals are those of the list, not of the
rows: they are the same whether members are shown or not and in whatever order the structures stand. The
size stops at the largest one, the number of members does not, and it is the sum of the numbers that can
be read in the rows above.
-/

namespace StructVault.Report

/-- The texts of a row, cell by cell. -/
def texts (row : List Cell) : List String := row.map (·.text)

/-- The number in the column of the members, where there is one. -/
def memberNumber (row : List Cell) : Option Nat := row[3]?.bind fun cell => cell.text.toNat?

/-- What a table shows of a list of structures. -/
structure Tabulates (grid : Grid) (structures : List Structure) (showMembers : Bool) : Prop where
  header : texts grid.header = ["Name", "Type", "Size", "Members", "Comment"]
  /-- A row for each record that is shown, and one for the totals. -/
  length : grid.rows.length = recordCount showMembers structures + 1
  /-- Structures stand in order, each behind the records of those in front of it. -/
  structureRows : ∀ front struct behind, structures = front ++ struct :: behind →
    grid.rows[recordCount showMembers front]?.map texts
      = some [struct.name, "struct", toString struct.size.toNat, toString struct.members.length,
        struct.comment]
  /-- Members that are shown stand in order under their structure. -/
  memberRows : showMembers = true → ∀ front struct behind, structures = front ++ struct :: behind →
    ∀ j member, struct.members[j]? = some member →
      grid.rows[recordCount showMembers front + 1 + j]?.map texts
        = some ["  " ++ member.name, member.typeName, toString member.size.toNat, "-",
          member.comment]
  /-- The totals stand last. -/
  totalRow : grid.rows.getLast?.map texts
    = some ["TOTAL", "-", toString (min (structures.map (·.size.toNat)).sum (2 ^ 64 - 1)),
      toString (structures.flatMap (·.members)).length, "-"]
  /-- Above them, the structures and no other rows have a number of members. -/
  numbers : grid.rows.dropLast.filterMap memberNumber = structures.map (·.members.length)
  /-- The last number is the sum of those above. -/
  sum_numbers : grid.rows.getLast?.bind memberNumber
    = some (grid.rows.dropLast.filterMap memberNumber).sum

/-! ## Rows -/

theorem rows_structureTable (structures : List Structure) (showMembers : Bool) :
    (structureTable structures showMembers).rows
      = nested structureRow memberRow showMembers structures ++ [totalRow structures] :=
  rfl

theorem getLast?_structureTable (structures : List Structure) (showMembers : Bool) :
    (structureTable structures showMembers).rows.getLast? = some (totalRow structures) := by
  rw [rows_structureTable, List.getLast?_concat]

theorem dropLast_structureTable (structures : List Structure) (showMembers : Bool) :
    (structureTable structures showMembers).rows.dropLast
      = nested structureRow memberRow showMembers structures := by
  rw [rows_structureTable, List.dropLast_concat]

/-- The row of totals comes behind every other row. -/
theorem getElem?_structureTable {structures : List Structure} {showMembers : Bool} {i : Nat}
    {row : List Cell} (h : (nested structureRow memberRow showMembers structures)[i]? = some row) :
    (structureTable structures showMembers).rows[i]? = some row := by
  have hshort := (List.getElem?_eq_some_iff.mp h).1
  rw [rows_structureTable, List.getElem?_append_left hshort, h]

theorem memberNumber_structureRow (struct : Structure) :
    memberNumber (structureRow struct) = some struct.members.length :=
  Nat.toNat?_repr struct.members.length

theorem memberNumber_memberRow (member : Member) : memberNumber (memberRow member) = none := by
  show "-".toNat? = none
  refine String.toNat?_eq_none (Bool.eq_false_iff.mpr fun h => ?_)
  -- a numeral is made of digits, which a dash is not
  have hdigit := (String.isNat_iff.mp h).2.1 '-' (by decide)
  exact absurd hdigit (by decide)

theorem numbers_structureTable (structures : List Structure) (showMembers : Bool) :
    (structureTable structures showMembers).rows.dropLast.filterMap memberNumber
      = structures.map (·.members.length) := by
  rw [dropLast_structureTable, filterMap_nested memberNumber_memberRow]
  simp only [memberNumber_structureRow, List.filterMap_eq_map']

/-! ## Totals -/

theorem texts_totalRow (structures : List Structure) :
    texts (totalRow structures)
      = ["TOTAL", "-", toString (min (structures.map (·.size.toNat)).sum (2 ^ 64 - 1)),
        toString (structures.flatMap (·.members)).length, "-"] := by
  have hsize : (totalSize structures).toNat
      = min (structures.map (·.size.toNat)).sum (2 ^ 64 - 1) := by
    rw [totalSize, ByteSize.toNat_total, List.map_map]
    rfl
  have hcount : memberCount structures = (structures.flatMap (·.members)).length := by
    rw [memberCount_eq_sum, List.length_flatMap]
  rw [← hsize, ← hcount]
  rfl

theorem totalRow_of_perm {structures reordered : List Structure} (h : reordered.Perm structures) :
    totalRow reordered = totalRow structures := by
  rw [totalRow, totalSize, ByteSize.total_of_perm (h.map _), memberCount_of_perm h]
  rfl

/-- **The table** has a row for each structure, for each member that is shown, and for the totals. The
row of totals depends neither on the order of the structures nor on whether members are shown. -/
theorem tabulates_structureTable (structures : List Structure) (showMembers : Bool) :
    Tabulates (structureTable structures showMembers) structures showMembers
    ∧ ∀ reordered showMembers', reordered.Perm structures →
      (structureTable reordered showMembers').rows.getLast?
        = (structureTable structures showMembers).rows.getLast? := by
  constructor
  · constructor
    case header => rfl
    case length =>
      rw [rows_structureTable, List.length_append, length_nested, List.length_singleton]
    case structureRows =>
      rintro front struct behind rfl
      rw [getElem?_structureTable (getElem?_nested front struct behind)]
      rfl
    case memberRows =>
      rintro rfl front struct behind rfl j member hmember
      rw [getElem?_structureTable (getElem?_nested_member front behind hmember)]
      rfl
    case totalRow => rw [getLast?_structureTable, Option.map_some, texts_totalRow]
    case numbers => exact numbers_structureTable structures showMembers
    case sum_numbers =>
      rw [getLast?_structureTable, numbers_structureTable, ← memberCount_eq_sum]
      exact Nat.toNat?_repr (memberCount structures)
  · intro reordered showMembers' h
    rw [getLast?_structureTable, getLast?_structureTable, totalRow_of_perm h]

/-- A structure of the largest size in front of one with members, of which one has the type that stands
in the rows of structures. -/
def overfullList : List Structure := [
  { name := "blob", size := 0xFFFFFFFFFFFFFFFF },
  { name := "pair", comment := "two words", size := 8, members := [
    { name := "a", typeName := "struct", size := 4 },
    { name := "b", typeName := "undefined", size := 4 }] },
  { name := "", size := 0 }]

/-- The other way round and without members the totals are the same, with a size that stops. -/
theorem tabulates_overfullList :
    Tabulates (structureTable overfullList true) overfullList true
    ∧ (structureTable overfullList true).rows[3]?.map texts
      = some ["  b", "undefined", "4", "-", ""]
    ∧ overfullList.reverse.Perm overfullList
    ∧ (structureTable overfullList.reverse false).rows.getLast?.map texts
      = some ["TOTAL", "-", "18446744073709551615", "2", "-"] := by
  obtain ⟨htable, hsame⟩ := tabulates_structureTable overfullList true
  have hreversed : overfullList.reverse.Perm overfullList := List.reverse_perm overfullList
  have htotals := htable.totalRow
  rw [← hsame overfullList.reverse false hreversed] at htotals
  have hmember := htable.memberRows rfl (overfullList.take 1) overfullList[1] (overfullList.drop 2)
    rfl 1 overfullList[1].members[1] rfl
  exact ⟨htable, hmember, hreversed, htotals⟩

end StructVault.Report

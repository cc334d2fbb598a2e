import StructVault.Proofs.Report.Listing
import StructVault.Proofs.Report.Nesting
import StructVault.Proofs.Snapshot.RoundTrip
import StructVault.Proofs.Text.Lines

/-!
# The lines of a listing

A listing is made of a text for each record, of the structures and of the members that are shown, and
each of these texts ends a line. So a record always takes whole lines of its own, one for the record and
one more for every break in its texts, and the records stand in order whether members are shown or not.
There is one line for each record exactly when no text that is shown has a break (`lines_listing`). A
snapshot holds such texts all the same, and then the listing has more lines than records
(`not_line_for_each_record`).
-/

namespace StructVault.Report

open Text

/-- The texts that are shown of a structure. -/
def shownTexts (showMembers : Bool) (struct : Structure) : List String :=
  headTexts struct ++ if showMembers then struct.members.flatMap memberTexts else []

/-! ## Records -/

theorem breaks_toString (n : Nat) : breaks (toString n) = 0 := by
  rw [breaks_eq_zero_iff, Nat.toString_eq_ofList_toDigits, String.toList_ofList]
  exact not_mem_toDigits (by decide) n

theorem breaks_sizeText (size : ByteSize) : breaks (sizeText size) = 0 := by
  have hopen : breaks "[" = 0 := rfl
  have hclose : breaks " bytes]" = 0 := rfl
  rw [sizeText, breaks_append, breaks_append, breaks_toString, hopen, hclose]

theorem breaks_commentEnd (comment : String) :
    breaks (commentEnd comment) = breaks comment + 1 := by
  have hend : breaks "\n" = 1 := rfl
  have hslashes : breaks " // " = 0 := rfl
  unfold commentEnd
  split
  · next hempty =>
    rw [String.isEmpty_iff.mp hempty]
    rfl
  · rw [breaks_append, breaks_append, hend, hslashes, Nat.zero_add]

theorem endsLine_commentEnd (comment : String) : EndsLine (commentEnd comment) := by
  unfold commentEnd
  split
  · exact ⟨"", rfl⟩
  · exact ⟨_, rfl⟩

/-- The line of a member is broken as often as its texts are, and once at its end. -/
theorem breaks_memberLine (member : Member) :
    breaks (memberLine member) = 1 + ((memberTexts member).map breaks).sum := by
  have hindent : breaks "  " = 0 := rfl
  have hcolon : breaks ": " = 0 := rfl
  have hspace : breaks " " = 0 := rfl
  simp only [memberLine, breaks_append, breaks_sizeText, breaks_commentEnd, hindent, hcolon, hspace,
    memberTexts, List.map_cons, List.map_nil, List.sum_cons, List.sum_nil]
  omega

theorem breaks_structureLine (struct : Structure) :
    breaks (structureLine struct) = 1 + ((headTexts struct).map breaks).sum := by
  have hspace : breaks " " = 0 := rfl
  have hnoun : breaks (if struct.members.length = 1 then "member" else "members") = 0 := by
    split <;> rfl
  simp only [structureLine, breaks_append, breaks_sizeText, breaks_commentEnd, breaks_toString,
    hspace, hnoun, headTexts, List.map_cons, List.map_nil, List.sum_cons, List.sum_nil]
  omega

theorem endsLine_of_mem {showMembers : Bool} {struct : Structure} {line : String}
    (h : line ∈ structureLines showMembers struct) : EndsLine line := by
  rcases List.mem_cons.mp h with rfl | h
  · exact (endsLine_commentEnd struct.comment).append _
  · cases showMembers with
    | false => exact absurd h List.not_mem_nil
    | true =>
      obtain ⟨member, -, rfl⟩ := List.mem_map.mp h
      exact (endsLine_commentEnd member.comment).append _

theorem endsLine_of_mem_flatMap {structures : List Structure} {showMembers : Bool} {line : String}
    (h : line ∈ structures.flatMap (structureLines showMembers)) : EndsLine line := by
  obtain ⟨struct, -, hline⟩ := List.mem_flatMap.mp h
  exact endsLine_of_mem hline

/-! ## Counting -/

theorem length_structureLines (showMembers : Bool) (struct : Structure) :
    (structureLines showMembers struct).length
      = 1 + if showMembers then struct.members.length else 0 := by
  cases showMembers with
  | false => rfl
  | true =>
    rw [structureLines, List.length_cons, if_pos rfl, List.length_map, if_pos rfl, Nat.add_comm]

/-- The records of a list: its structures, and their members where they are shown. -/
theorem length_records (structures : List Structure) (showMembers : Bool) :
    (structures.flatMap (structureLines showMembers)).length
      = structures.length + if showMembers then memberCount structures else 0 := by
  show (nested structureLine memberLine showMembers structures).length = _
  exact length_nested structures

theorem sum_breaks_memberLines (members : List Member) :
    ((members.map memberLine).map breaks).sum
      = members.length + ((members.flatMap memberTexts).map breaks).sum := by
  induction members with
  | nil => rfl
  | cons first rest ih =>
    rw [List.map_cons, List.map_cons, List.sum_cons, ih, breaks_memberLine, List.flatMap_cons,
      List.map_append, List.sum_append, List.length_cons]
    omega

/-- One break for each record of a structure, and those in the texts that are shown of it. -/
theorem sum_breaks_structureLines (showMembers : Bool) (struct : Structure) :
    ((structureLines showMembers struct).map breaks).sum
      = (structureLines showMembers struct).length
        + ((shownTexts showMembers struct).map breaks).sum := by
  rw [length_structureLines, structureLines, List.map_cons, List.sum_cons, breaks_structureLine,
    shownTexts, List.map_append, List.sum_append]
  cases showMembers with
  | false => simp only [Bool.false_eq_true, if_false, List.map_nil, List.sum_nil]; omega
  | true =>
    simp only [if_true]
    rw [sum_breaks_memberLines]
    omega

theorem sum_breaks_records (structures : List Structure) (showMembers : Bool) :
    ((structures.flatMap (structureLines showMembers)).map breaks).sum
      = (structures.flatMap (structureLines showMembers)).length
        + ((structures.flatMap (shownTexts showMembers)).map breaks).sum := by
  induction structures with
  | nil => rfl
  | cons first rest ih =>
    simp only [List.flatMap_cons, List.map_append, List.sum_append, List.length_append, ih,
      sum_breaks_structureLines]
    omega

/-- A record has a line to itself exactly when its texts have no break. -/
theorem breaks_eq_one_iff (showMembers : Bool) (struct : Structure) :
    (∀ line ∈ structureLines showMembers struct, breaks line = 1)
      ↔ ∀ text ∈ shownTexts showMembers struct, '\n' ∉ text.toList := by
  rw [structureLines, List.forall_mem_cons, breaks_structureLine,
    one_add_breaks_eq_one_iff, shownTexts, List.forall_mem_append]
  refine and_congr_right fun _ => ?_
  cases showMembers with
  | false => simp
  | true =>
    simp only [if_true, List.forall_mem_map, List.mem_flatMap, forall_exists_index, and_imp]
    constructor
    · intro h text member hmember htext
      have hone := h member hmember
      rw [breaks_memberLine] at hone
      exact (one_add_breaks_eq_one_iff _).mp hone text htext
    · intro h member hmember
      rw [breaks_memberLine]
      exact (one_add_breaks_eq_one_iff _).mpr fun text htext => h text member hmember htext

/-! ## Listings -/

/-- **Lines and records**: a listing of some structures ends a line. Its lines are those of each
structure followed by those of its members, which are left out with the members. There are as many as
there are records that are shown, and one more for every break in a text that is shown. So it is one
line for each record, and nothing else, exactly when no text that is shown is broken. -/
theorem lines_listing (first : Structure) (rest : List Structure) (showMembers : Bool) :
    EndsLine (listing (first :: rest) showMembers)
    ∧ lines (listing (first :: rest) showMembers) = (first :: rest).flatMap (fun struct =>
        lines (structureLine struct)
          ++ if showMembers then struct.members.flatMap (fun member => lines (memberLine member))
            else [])
    ∧ (lines (listing (first :: rest) showMembers)).length
        = (first :: rest).length + (if showMembers then memberCount (first :: rest) else 0)
          + (((first :: rest).flatMap (shownTexts showMembers)).map breaks).sum
    ∧ ((lines (listing (first :: rest) showMembers)).map (· ++ "\n")
          = (first :: rest).flatMap (structureLines showMembers)
        ↔ ∀ struct ∈ first :: rest, ∀ text ∈ shownTexts showMembers struct,
          '\n' ∉ text.toList) := by
  have hends : ∀ line ∈ (first :: rest).flatMap (structureLines showMembers), EndsLine line :=
    fun line hline => endsLine_of_mem_flatMap hline
  rw [listing_eq_join (List.cons_ne_nil first rest)]
  refine ⟨endsLine_join (List.cons_ne_nil _ _) hends, ?_, ?_, ?_⟩
  · rw [lines_join hends, List.flatMap_assoc]
    refine List.flatMap_congr fun struct _ => ?_
    rw [structureLines, List.flatMap_cons]
    cases showMembers with
    | false => rfl
    | true => simp only [if_true, List.flatMap_map]
  · rw [length_lines, breaks_join, sum_breaks_records, length_records]
  · rw [map_lines_join_iff hends]
    simp only [List.mem_flatMap, forall_exists_index, and_imp]
    constructor
    · intro h struct hstruct
      exact (breaks_eq_one_iff showMembers struct).mp fun line hline => h line struct hstruct hline
    · intro h line struct hstruct hline
      exact (breaks_eq_one_iff showMembers struct).mpr (h struct hstruct) line hline

/-- One structure without members, with a comment of two lines. -/
def twoLineList : List Structure := [{ name := "a", comment := "x\ny", size := 0 }]

/-- What fits into a snapshot is not always shown with one line for each record. -/
theorem not_line_for_each_record : ¬ ∀ structures : List Structure, Snapshot.Fits structures →
    structures ≠ [] → ∀ showMembers, (lines (listing structures showMembers)).length
      = structures.length + if showMembers then memberCount structures else 0 := by
  intro h
  have hlength : (lines (listing twoLineList false)).length = 1 :=
    h twoLineList (by decide) (by decide) false
  exact absurd hlength (by decide +kernel)

end StructVault.Report

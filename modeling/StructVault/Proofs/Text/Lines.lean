import Mathlib.Algebra.Ring.Nat
import Mathlib.Data.List.Basic
import StructVault.Text.Split

/-!
# Lines

A line ends in a break. `lines` gives the lines of a text and `breaks` counts its breaks, so a text has
as many lines as breaks (`length_lines`). Texts that end a line can be put behind each other: the lines
of the whole are those of each in turn (`lines_join`). Each of them is one line of the whole exactly
when its last break is its only one (`map_lines_join_iff`).
-/

namespace StructVault.Text

/-- The lines of a text, without their breaks. What stands behind the last break is no line. -/
def lines (text : String) : List String := (splitAt '\n' text.toList).dropLast.map String.ofList

/-- How many lines end in a text. -/
def breaks (text : String) : Nat := text.toList.count '\n'

/-- The text ends where a line ends. -/
def EndsLine (text : String) : Prop := ∃ body, text = body ++ "\n"

/-! ## Breaks -/

theorem length_splitAt (separator : Char) (text : List Char) :
    (splitAt separator text).length = text.count separator + 1 := by
  induction text with
  | nil => rfl
  | cons c cs ih =>
    obtain ⟨part, parts, hparts⟩ := List.exists_cons_of_ne_nil (splitAt_ne_nil separator cs)
    rw [hparts] at ih
    rw [splitAt, hparts]
    by_cases hc : c = separator
    · rw [if_pos (by simpa using hc), hc, List.count_cons_self, List.length_cons, ih]
    · rw [if_neg (by simpa using hc), List.count_cons_of_ne hc]
      exact ih

/-- A text has a line for every break. -/
theorem length_lines (text : String) : (lines text).length = breaks text := by
  rw [lines, List.length_map, List.length_dropLast, length_splitAt, Nat.add_sub_cancel, breaks]

@[simp] theorem breaks_append (text more : String) :
    breaks (text ++ more) = breaks text + breaks more := by
  rw [breaks, String.toList_append, List.count_append]
  rfl

theorem breaks_join (texts : List String) :
    breaks (String.join texts) = (texts.map breaks).sum := by
  induction texts with
  | nil => rfl
  | cons first rest ih => rw [String.join_cons, breaks_append, ih, List.map_cons, List.sum_cons]

theorem breaks_eq_zero_iff (text : String) : breaks text = 0 ↔ '\n' ∉ text.toList :=
  List.count_eq_zero

/-- A line that is made of texts is one line if none of them is broken. -/
theorem one_add_breaks_eq_one_iff (texts : List String) :
    1 + (texts.map breaks).sum = 1 ↔ ∀ text ∈ texts, '\n' ∉ text.toList := by
  rw [Nat.add_eq_left, List.sum_eq_zero_iff_forall_eq_nat, List.forall_mem_map]
  exact forall₂_congr fun text _ => breaks_eq_zero_iff text

theorem not_mem_of_mem_lines {text line : String} (h : line ∈ lines text) :
    '\n' ∉ line.toList := by
  obtain ⟨part, hpart, rfl⟩ := List.mem_map.mp h
  rw [String.toList_ofList]
  exact not_mem_of_mem_splitAt (List.dropLast_subset _ hpart)

/-! ## Texts that end a line -/

theorem EndsLine.append {more : String} (h : EndsLine more) (text : String) :
    EndsLine (text ++ more) := by
  obtain ⟨body, rfl⟩ := h
  exact ⟨text ++ body, String.append_assoc.symm⟩

theorem splitAt_line_append (body : String) (behind : List Char) :
    splitAt '\n' ((body ++ "\n").toList ++ behind)
      = splitAt '\n' body.toList ++ splitAt '\n' behind := by
  rw [String.toList_append, List.append_assoc]
  exact splitAt_append_separator '\n' behind body.toList

/-- The last line of a text that ends a line is whole. -/
theorem lines_line (body : String) :
    lines (body ++ "\n") = (splitAt '\n' body.toList).map String.ofList := by
  have hsplit := splitAt_line_append body []
  rw [List.append_nil] at hsplit
  have hlast : (splitAt '\n' body.toList ++ splitAt '\n' []).dropLast = splitAt '\n' body.toList :=
    List.dropLast_concat
  rw [lines, hsplit, hlast]

/-- Behind the end of a line new lines begin. -/
theorem lines_append {text : String} (h : EndsLine text) (more : String) :
    lines (text ++ more) = lines text ++ lines more := by
  obtain ⟨body, rfl⟩ := h
  rw [lines_line, lines, String.toList_append, splitAt_line_append,
    List.dropLast_append_of_ne_nil (splitAt_ne_nil '\n' more.toList), List.map_append, lines]

theorem endsLine_join {texts : List String} (hne : texts ≠ []) (h : ∀ text ∈ texts, EndsLine text) :
    EndsLine (String.join texts) := by
  induction texts with
  | nil => exact absurd rfl hne
  | cons first rest ih =>
    rw [String.join_cons]
    by_cases hrest : rest = []
    · subst hrest
      rw [String.join_nil, String.append_empty]
      exact h first List.mem_cons_self
    · exact (ih hrest fun text htext => h text (List.mem_cons_of_mem _ htext)).append first

/-- **Lines of texts put behind each other** are the lines of each, if each ends a line. -/
theorem lines_join {texts : List String} (h : ∀ text ∈ texts, EndsLine text) :
    lines (String.join texts) = texts.flatMap lines := by
  induction texts with
  | nil => rfl
  | cons first rest ih =>
    have hrest := ih fun text htext => h text (List.mem_cons_of_mem _ htext)
    rw [String.join_cons, lines_append (h first List.mem_cons_self), hrest, List.flatMap_cons]

/-- A text whose only break ends it is a line with its break. -/
theorem map_lines_of_breaks {text : String} (h : EndsLine text) (hone : breaks text = 1) :
    (lines text).map (· ++ "\n") = [text] := by
  obtain ⟨body, rfl⟩ := h
  have hbody : '\n' ∉ body.toList := by
    have hbreak : breaks "\n" = 1 := rfl
    rw [breaks_append, hbreak] at hone
    rw [← breaks_eq_zero_iff]
    omega
  rw [lines_line, splitAt_of_not_mem hbody]
  simp

/-- **Line by line**: the lines of the whole, with their breaks, are the texts it was made of exactly
when each text has one break. -/
theorem map_lines_join_iff {texts : List String} (h : ∀ text ∈ texts, EndsLine text) :
    (lines (String.join texts)).map (· ++ "\n") = texts ↔ ∀ text ∈ texts, breaks text = 1 := by
  constructor
  · intro hlines text htext
    rw [← hlines] at htext
    obtain ⟨line, hline, rfl⟩ := List.mem_map.mp htext
    have hnone := (breaks_eq_zero_iff line).mpr (not_mem_of_mem_lines hline)
    rw [breaks_append, hnone]
    rfl
  · intro hone
    rw [lines_join h, List.map_flatMap]
    calc texts.flatMap (fun text => (lines text).map (· ++ "\n"))
        = texts.flatMap (fun text => [text]) :=
          List.flatMap_congr fun text htext => map_lines_of_breaks (h text htext) (hone text htext)
      _ = texts := List.flatMap_singleton' texts

end StructVault.Text

/-!
# Splitting text

A text and its parts between separators. There is one part more than there are separators, and
the parts with a separator between each two give the text back.
-/

namespace StructVault.Text

/-- The parts of a text between single separators. -/
def splitAt (separator : Char) : List Char → List (List Char)
  | [] => [[]]
  | c :: cs =>
    if c == separator then [] :: splitAt separator cs
    else match splitAt separator cs with
      | [] => [[c]]
      | part :: parts => (c :: part) :: parts

theorem splitAt_ne_nil (separator : Char) (text : List Char) : splitAt separator text ≠ [] := by
  cases text with
  | nil => simp [splitAt]
  | cons c cs =>
    unfold splitAt
    split
    · simp
    · split <;> simp

/-- Nothing but the separators is lost: put between the parts again, they give the text back. -/
theorem intercalate_splitAt (separator : Char) (text : List Char) :
    [separator].intercalate (splitAt separator text) = text := by
  induction text with
  | nil => simp [splitAt, List.intercalate]
  | cons c cs ih =>
    obtain ⟨part, parts, h⟩ := List.exists_cons_of_ne_nil (splitAt_ne_nil separator cs)
    rw [h] at ih
    unfold splitAt
    by_cases hc : c = separator
    · rw [hc, if_pos (beq_self_eq_true separator), h]
      simpa [List.intercalate] using ih
    · -- the character goes to the front of the first part
      cases parts <;> simp_all [List.intercalate]

/-- A text without the separator is its own only part. -/
theorem splitAt_of_not_mem {separator : Char} {text : List Char} (h : separator ∉ text) :
    splitAt separator text = [text] := by
  induction text with
  | nil => rfl
  | cons c cs ih =>
    simp only [List.mem_cons, not_or] at h
    simp [splitAt, Ne.symm h.1, ih h.2]

/-- A separator between two texts ends a part. -/
theorem splitAt_append_separator (separator : Char) (after : List Char) : ∀ before : List Char,
    splitAt separator (before ++ separator :: after)
      = splitAt separator before ++ splitAt separator after
  | [] => by simp [splitAt]
  | c :: cs => by
    have ih := splitAt_append_separator separator after cs
    obtain ⟨part, parts, hparts⟩ := List.exists_cons_of_ne_nil (splitAt_ne_nil separator cs)
    rw [List.cons_append, splitAt, splitAt, ih, hparts]
    by_cases hc : c == separator
    · simp [hc]
    · simp [hc]

theorem not_mem_of_mem_splitAt {separator : Char} : ∀ {text part : List Char},
    part ∈ splitAt separator text → separator ∉ part
  | [], part, h => by simp_all [splitAt]
  | c :: cs, part, h => by
    obtain ⟨first, rest, hparts⟩ := List.exists_cons_of_ne_nil (splitAt_ne_nil separator cs)
    have ih : ∀ part ∈ first :: rest, separator ∉ part := fun part hpart =>
      not_mem_of_mem_splitAt (hparts ▸ hpart)
    rw [splitAt, hparts] at h
    split at h
    · rcases List.mem_cons.mp h with rfl | h
      · exact List.not_mem_nil
      · exact ih part h
    · next hc =>
      rcases List.mem_cons.mp h with rfl | h
      · have hfirst := ih first List.mem_cons_self
        have hne : separator ≠ c := fun heq => hc (by simp [heq])
        simp [hfirst, hne]
      · exact ih part (List.mem_cons_of_mem _ h)

/-- Parts without the separator are what the text made of them is split into. -/
theorem splitAt_intercalate {separator : Char} : ∀ {parts : List (List Char)}, parts ≠ [] →
    (∀ part ∈ parts, separator ∉ part) → splitAt separator ([separator].intercalate parts) = parts
  | [part], _, h => by
    rw [List.intercalate_singleton]
    exact splitAt_of_not_mem (h part List.mem_cons_self)
  | part :: next :: parts, _, h => by
    have ih := splitAt_intercalate (List.cons_ne_nil next parts) fun other hother =>
      h other (List.mem_cons_of_mem _ hother)
    rw [List.intercalate_cons_of_ne_nil (List.cons_ne_nil next parts), List.append_assoc,
      List.singleton_append, splitAt_append_separator, ih,
      splitAt_of_not_mem (h part List.mem_cons_self), List.singleton_append]

/-- What is made of two lists of parts has a separator where they meet. -/
theorem intercalate_append (separator : Char) {more : List (List Char)} (hmore : more ≠ []) :
    ∀ {parts : List (List Char)}, parts ≠ [] → [separator].intercalate (parts ++ more)
      = [separator].intercalate parts ++ separator :: [separator].intercalate more
  | [part], _ => by
    rw [List.singleton_append, List.intercalate_cons_of_ne_nil hmore, List.intercalate_singleton,
      List.append_assoc, List.singleton_append]
  | part :: next :: parts, _ => by
    rw [List.cons_append,
      List.intercalate_cons_of_ne_nil (List.append_ne_nil_of_right_ne_nil _ hmore),
      intercalate_append separator hmore (List.cons_ne_nil next parts),
      List.intercalate_cons_of_ne_nil (List.cons_ne_nil next parts), List.append_assoc _ _ (_ :: _)]

end StructVault.Text

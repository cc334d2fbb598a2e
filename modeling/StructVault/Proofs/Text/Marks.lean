import Mathlib.Data.List.Infix

/-!
# Marks between texts

Texts that stand one after the other can be told apart again where a mark stands between them that is
not found anywhere earlier.

- `Closes`: a mark put behind a text is found there first, so two texts that are closed by one mark
  are equal where what they start is equal (`Closes.append_inj`). A single character closes the texts
  that do not hold it, and two different characters close the texts that do not hold the pair.
- `SelfDelimiting`: the writing of a value tells what the value is and where its writing ends. Then
  the writings of a list tell the list, if nothing is written as nothing (`SelfDelimiting.list`) or
  the length is known beforehand (`SelfDelimiting.sameLength`).
-/

namespace StructVault.Text

/-! ## Closing marks -/

/-- Put behind the text, the mark is found at the end and nowhere before. -/
def Closes (mark text : List Char) : Prop :=
  ∀ front behind, text ++ mark = front ++ mark ++ behind → behind = []

/-- A text that reaches as far as a mark, and no further than a mark that closes it. -/
theorem Closes.eq_of_reaches {mark text text' : List Char} (h : Closes mark text')
    (hreach : text ++ mark <+: text' ++ mark) : text = text' := by
  obtain ⟨behind, hbehind⟩ := hreach
  have hnil : behind = [] := h text behind hbehind.symm
  rw [hnil, List.append_nil] at hbehind
  exact List.append_cancel_right hbehind

/-- **Closed texts are told apart** from whatever follows the mark. -/
theorem Closes.append_inj {mark text text' rest rest' : List Char} (h : Closes mark text)
    (h' : Closes mark text') (heq : text ++ (mark ++ rest) = text' ++ (mark ++ rest')) :
    text = text' ∧ rest = rest' := by
  have hstart : text ++ mark <+: text' ++ (mark ++ rest') := ⟨rest, by rw [List.append_assoc, heq]⟩
  have hstart' : text' ++ mark <+: text' ++ (mark ++ rest') := ⟨rest', List.append_assoc ..⟩
  have htext : text = text' := by
    -- of two beginnings of one text the shorter one is a beginning of the other
    rcases List.prefix_or_prefix_of_prefix hstart hstart' with hshort | hlong
    · exact h'.eq_of_reaches hshort
    · exact (h.eq_of_reaches hlong).symm
  subst htext
  exact ⟨rfl, List.append_cancel_left (List.append_cancel_left heq)⟩

theorem closes_singleton {c : Char} {text : List Char} (h : c ∉ text) : Closes [c] text := by
  intro front behind heq
  rcases List.eq_nil_or_concat behind with hnil | ⟨init, last, rfl⟩
  · exact hnil
  · rw [List.concat_eq_append, ← List.append_assoc] at heq
    have htext := (List.append_inj' heq rfl).1
    rw [htext] at h
    simp at h

theorem closes_pair {c d : Char} (hne : c ≠ d) {text : List Char} (h : ¬ [c, d] <:+: text) :
    Closes [c, d] text := by
  intro front behind heq
  rcases List.eq_nil_or_concat behind with hnil | ⟨init, last, rfl⟩
  · exact hnil
  · rw [List.concat_eq_append] at heq
    have hshort : text ++ [c] = front ++ [c, d] ++ init := by
      have hlong : (text ++ [c]) ++ [d] = (front ++ [c, d] ++ init) ++ [last] := by
        simpa using heq
      exact (List.append_inj' hlong rfl).1
    rcases List.eq_nil_or_concat init with rfl | ⟨init', last', rfl⟩
    · -- the pair would have to overlap itself by one character
      rw [List.append_nil] at hshort
      have hlong : text ++ [c] = (front ++ [c]) ++ [d] := by simpa using hshort
      exact absurd (List.cons.inj (List.append_inj' hlong rfl).2).1 hne
    · rw [List.concat_eq_append, ← List.append_assoc] at hshort
      have htext := (List.append_inj' hshort rfl).1
      exact absurd ⟨front, init', htext.symm⟩ h

theorem not_mem_toDigits {c : Char} (hc : c.isDigit = false) (n : Nat) :
    c ∉ Nat.toDigits 10 n := by
  intro hmem
  rw [Nat.isDigit_of_mem_toDigits (by decide) (Nat.le_refl 10) hmem] at hc
  cases hc

/-- The digits of a number are closed by a character that is none. -/
theorem closes_digits {c : Char} (hc : c.isDigit = false) (n : Nat) :
    Closes [c] (Nat.toDigits 10 n) :=
  closes_singleton (not_mem_toDigits hc n)

theorem toDigits_inj {n m : Nat} (h : Nat.toDigits 10 n = Nat.toDigits 10 m) : n = m := by
  rw [← Nat.ofDigitChars_ten_toDigits (n := n), h, Nat.ofDigitChars_ten_toDigits]

/-! ## Writings -/

/-- The writing of a plain value tells the value and its own end, whatever stands behind it. -/
def SelfDelimiting {α : Type} (write : α → List Char) (plain : α → Prop) : Prop :=
  ∀ ⦃a b : α⦄ ⦃rest rest' : List Char⦄, plain a → plain b → write a ++ rest = write b ++ rest' →
    a = b ∧ rest = rest'

namespace SelfDelimiting

variable {α : Type} {write : α → List Char} {plain : α → Prop}

/-- Lists of one length are told by the writings of their values, and so is their end. -/
theorem sameLength (h : SelfDelimiting write plain) : ∀ {as bs : List α} {rest rest' : List Char},
    as.length = bs.length → (∀ a ∈ as, plain a) → (∀ b ∈ bs, plain b) →
      as.flatMap write ++ rest = bs.flatMap write ++ rest' → as = bs ∧ rest = rest'
  | [], [], _, _, _, _, _, heq => ⟨rfl, heq⟩
  | a :: as, b :: bs, rest, rest', hlength, has, hbs, heq => by
    rw [List.flatMap_cons, List.flatMap_cons, List.append_assoc, List.append_assoc] at heq
    obtain ⟨rfl, hbehind⟩ := h (has a List.mem_cons_self) (hbs b List.mem_cons_self) heq
    obtain ⟨rfl, hrest⟩ := h.sameLength (Nat.succ.inj hlength)
      (fun a ha => has a (List.mem_cons_of_mem _ ha))
      (fun b hb => hbs b (List.mem_cons_of_mem _ hb)) hbehind
    exact ⟨rfl, hrest⟩

/-- **Written lists are unambiguous**, also when nobody knows how long they are: neither can end
before the other, because every value leaves something. -/
theorem list (h : SelfDelimiting write plain) (hne : ∀ a, write a ≠ []) :
    ∀ {as bs : List α}, (∀ a ∈ as, plain a) → (∀ b ∈ bs, plain b) →
      as.flatMap write = bs.flatMap write → as = bs
  | [], [], _, _, _ => rfl
  | [], b :: bs, _, _, heq => by
    have hnil := List.append_eq_nil_iff.mp heq.symm
    exact absurd hnil.1 (hne b)
  | a :: as, [], _, _, heq => by
    have hnil := List.append_eq_nil_iff.mp heq
    exact absurd hnil.1 (hne a)
  | a :: as, b :: bs, has, hbs, heq => by
    rw [List.flatMap_cons, List.flatMap_cons] at heq
    obtain ⟨rfl, hbehind⟩ := h (has a List.mem_cons_self) (hbs b List.mem_cons_self) heq
    rw [h.list hne (fun a ha => has a (List.mem_cons_of_mem _ ha))
      (fun b hb => hbs b (List.mem_cons_of_mem _ hb)) hbehind]

end SelfDelimiting

end StructVault.Text

import StructVault.Proofs.Json.Tokens

/-!
# Where values begin and end

The first character of a text tells what kind of value it is (`eq_cons_of_spells`), and it is neither a
blank nor a closing bracket. Behind a value stands the end of the text, a blank, a comma or a closing
bracket, with which no number goes on (`Delimited`).
-/

namespace StructVault.Json

variable {blank cs more rest : List Char} {c : Char}

/-! ## Ends -/

theorem blank_cases (h : isBlank c = true) : c = ' ' ∨ c = '\n' ∨ c = '\t' ∨ c = '\r' := by
  simpa [isBlank, or_assoc] using h

theorem not_isBlank_of_isDigit (h : isDigit c = true) : isBlank c = false := by
  cases hblank : isBlank c with
  | false => rfl
  | true => rcases blank_cases hblank with rfl | rfl | rfl | rfl <;> cases h

theorem ne_of_isDigit {other : Char} (h : isDigit c = true) (hother : isDigit other = false) :
    c ≠ other := by
  rintro rfl
  cases h.symm.trans hother

theorem delimited_nil : Delimited [] := fun _ h => nomatch h

theorem delimited_cons (hc : isDigit c = false ∧ c ≠ '.' ∧ c ≠ 'e' ∧ c ≠ 'E')
    (rest : List Char) : Delimited (c :: rest) := by
  intro other hother
  cases hother
  exact hc

theorem delimited_append (hblank : Blank blank) (hrest : Delimited rest) :
    Delimited (blank ++ rest) := by
  cases blank with
  | nil => exact hrest
  | cons c cs =>
    rcases blank_cases (hblank c List.mem_cons_self) with rfl | rfl | rfl | rfl <;>
      exact delimited_cons (by decide) _

theorem delimited_of_blank (h : Blank blank) : Delimited blank := by
  have happend := delimited_append h delimited_nil
  rwa [List.append_nil] at happend

theorem delimited_items {items : List Json} (h : SpellsItems items more) (rest : List Char) :
    Delimited (more ++ rest) := by
  cases h with
  | nil hblank =>
    rw [List.append_assoc]
    exact delimited_append hblank (delimited_cons (by decide) _)
  | cons hbefore =>
    rw [List.append_assoc]
    exact delimited_append hbefore (delimited_cons (by decide) _)

theorem delimited_fields {fields : List (String × Json)} (h : SpellsFields fields more)
    (rest : List Char) : Delimited (more ++ rest) := by
  cases h with
  | nil hblank =>
    rw [List.append_assoc]
    exact delimited_append hblank (delimited_cons (by decide) _)
  | cons hbefore =>
    rw [List.append_assoc]
    exact delimited_append hbefore (delimited_cons (by decide) _)

/-! ## Beginnings -/

/-- The characters that the texts of a value begin with. -/
def Opening : Json → Char → Prop
  | .null, c => c = 'n'
  | .bool true, c => c = 't'
  | .bool false, c => c = 'f'
  | .number _, c => c = '-' ∨ isDigit c = true
  | .string _, c => c = '"'
  | .array _, c => c = '['
  | .object _, c => c = '\x7b'

/-- A number begins with its sign or with a digit. -/
theorem mantissa_eq_cons (n : Numeral) :
    ∃ c cs, mantissa n = c :: cs ∧ (c = '-' ∨ isDigit c = true) := by
  unfold mantissa
  cases n.negative with
  | true => exact ⟨'-', _, rfl, Or.inl rfl⟩
  | false =>
    obtain ⟨c, cs, hcons, hdigit, -⟩ := exists_toDigits_cons n.whole
    rw [hcons]
    exact ⟨c, _, rfl, Or.inr hdigit⟩

theorem not_isBlank_of_opening {json : Json} (h : Opening json c) :
    isBlank c = false ∧ c ≠ ']' := by
  cases json with
  | number n =>
    rcases h with rfl | hdigit
    · decide
    · exact ⟨not_isBlank_of_isDigit hdigit, ne_of_isDigit hdigit (by decide)⟩
  | bool value =>
    cases value <;>
      · cases h
        decide
  | null | string | array | object =>
    cases h
    decide

/-- **The first character** tells the kind of a value, and belongs to no blank. -/
theorem eq_cons_of_spells {json : Json} (h : Spells json cs) :
    ∃ c tail, cs = c :: tail ∧ Opening json c := by
  cases h with
  | null => exact ⟨'n', _, rfl, rfl⟩
  | true => exact ⟨'t', _, rfl, rfl⟩
  | false => exact ⟨'f', _, rfl, rfl⟩
  | @number n exponent _ =>
    obtain ⟨c, tail, heq, hc⟩ := mantissa_eq_cons n
    rw [heq]
    exact ⟨c, tail ++ exponent, rfl, hc⟩
  | string => exact ⟨'"', _, rfl, rfl⟩
  | emptyArray => exact ⟨'[', _, rfl, rfl⟩
  | array => exact ⟨'[', _, rfl, rfl⟩
  | emptyObject => exact ⟨'\x7b', _, rfl, rfl⟩
  | object => exact ⟨'\x7b', _, rfl, rfl⟩

theorem head_of_spells {json : Json} (h : Spells json cs) (rest : List Char) :
    ∃ c, (cs ++ rest).head? = some c ∧ isBlank c = false ∧ c ≠ ']' := by
  obtain ⟨c, tail, rfl, hc⟩ := eq_cons_of_spells h
  exact ⟨c, rfl, not_isBlank_of_opening hc⟩

theorem head_of_spellsField {key : String} {json : Json} (h : SpellsField key json cs)
    (rest : List Char) : (cs ++ rest).head? = some '"' := by
  cases h
  rfl

end StructVault.Json

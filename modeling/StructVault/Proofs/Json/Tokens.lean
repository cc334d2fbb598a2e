import StructVault.Json.Typed
import StructVault.Proofs.Json.Spelling

/-!
# Texts and numbers

What is spelled between quotes is read back character by character, each of them as it is or from one
of its escapes (`takes_stringBody`). The digits of a whole number are all its digits, none of them a
leading zero, and they are gathered into the number again as long as it fits into 64 bits
(`takes_number`).
-/

namespace StructVault.Json

variable {rest : List Char}

/-! ## Texts -/

theorem hexValue?_of_spells {n : Nat} {c : Char} (h : SpellsDigit n c) :
    hexValue? c = some (n % 16) := by
  have hdigit : ∀ m < 16, hexValue? (Nat.digitChar m) = some m
      ∧ hexValue? (Nat.digitChar m).toUpper = some m := by decide
  obtain ⟨hlower, hupper⟩ := hdigit (n % 16) (Nat.mod_lt n (by decide))
  rcases h with rfl | rfl
  · exact hlower
  · exact hupper

/-- Four digits are read as their number. -/
theorem hexUnit_of_spells {n : Nat} {digits : List Char} (h : SpellsUnit n digits) (offset : Nat)
    (rest : List Char) : hexUnit offset (digits ++ rest) = .ok n := by
  cases h with
  | @mk a b c d hn ha hb hc hd =>
    have hunit : hexUnit? ([a, b, c, d] ++ rest)
        = some ((n / 0x1000 % 16 * 16 + n / 0x100 % 16) * 256 + n / 0x10 % 16 * 16 + n % 16) := by
      simp only [List.cons_append, hexUnit?, hexValue?_of_spells ha, hexValue?_of_spells hb,
        hexValue?_of_spells hc, hexValue?_of_spells hd]
      rfl
    have hvalue : (n / 0x1000 % 16 * 16 + n / 0x100 % 16) * 256 + n / 0x10 % 16 * 16 + n % 16
        = n := by omega
    rw [hvalue] at hunit
    unfold hexUnit
    rw [hunit]

theorem length_of_spellsUnit {n : Nat} {digits : List Char} (h : SpellsUnit n digits) :
    digits.length = 4 := by
  cases h
  rfl

/-- No character has the number of a surrogate. -/
theorem not_surrogate (c : Char) :
    isLowSurrogate c.toNat = false ∧ isHighSurrogate c.toNat = false := by
  have hvalid : c.toNat < 0xD800 ∨ 0xDFFF < c.toNat ∧ c.toNat < 0x110000 := c.valid
  constructor
  · simp only [isLowSurrogate, Bool.and_eq_false_iff, decide_eq_false_iff_not]
    omega
  · simp only [isHighSurrogate, Bool.and_eq_false_iff, decide_eq_false_iff_not]
    omega

theorem unicodeEscape_unit {c : Char} {digits : List Char} (h : SpellsUnit c.toNat digits)
    (offset : Nat) (rest : List Char) : unicodeEscape offset (digits ++ rest) = .ok (c, 4) := by
  obtain ⟨hlow, hhigh⟩ := not_surrogate c
  unfold unicodeEscape
  rw [hexUnit_of_spells h]
  show (if isLowSurrogate c.toNat = true then _ else if (!isHighSurrogate c.toNat) = true then _
    else _) = _
  rw [hlow, hhigh, Char.ofNat_toNat]
  rfl

theorem unicodeEscape_pair {c : Char} {high low : Nat} {front behind : List Char}
    (hhigh : high < 0x400) (hlow : low < 0x400) (hc : c.toNat = 0x10000 + high * 0x400 + low)
    (hfront : SpellsUnit (0xD800 + high) front) (hbehind : SpellsUnit (0xDC00 + low) behind)
    (offset : Nat) (rest : List Char) :
    unicodeEscape offset (front ++ '\\' :: 'u' :: (behind ++ rest)) = .ok (c, 10) := by
  have hfirst : isLowSurrogate (0xD800 + high) = false ∧ isHighSurrogate (0xD800 + high) = true := by
    constructor
    · simp only [isLowSurrogate, Bool.and_eq_false_iff, decide_eq_false_iff_not]
      omega
    · simp only [isHighSurrogate, Bool.and_eq_true, decide_eq_true_eq]
      omega
  have hsecond : isLowSurrogate (0xDC00 + low) = true := by
    simp only [isLowSurrogate, Bool.and_eq_true, decide_eq_true_eq]
    omega
  have hdrop : (front ++ '\\' :: 'u' :: (behind ++ rest)).drop 4 = '\\' :: 'u' :: (behind ++ rest) := by
    rw [← length_of_spellsUnit hfront, List.drop_left]
  have hvalue : 0x10000 + (0xD800 + high - 0xD800) * 0x400 + (0xDC00 + low - 0xDC00) = c.toNat := by
    omega
  unfold unicodeEscape
  rw [hexUnit_of_spells hfront, hdrop]
  show (if isLowSurrogate (0xD800 + high) = true then _ else
    if (!isHighSurrogate (0xD800 + high)) = true then _ else _) = _
  rw [hfirst.1, hfirst.2]
  show (hexUnit _ (behind ++ rest)).bind _ = _
  rw [hexUnit_of_spells hbehind]
  show (if isLowSurrogate (0xDC00 + low) = true then _ else _) = _
  rw [if_pos hsecond, hvalue, Char.ofNat_toNat]

/-- A character stands for itself between quotes, or is written as an escape that means it. -/
theorem spellsChar_cases {c : Char} {text : List Char} (h : SpellsChar c text) :
    (text = [c] ∧ c ≠ '"' ∧ c ≠ '\\' ∧ ¬ c.toNat < 32) ∨ ∃ taken, text = '\\' :: taken
      ∧ ∀ offset rest, escapeBody offset (taken ++ rest) = .ok (c, taken.length) := by
  cases h with
  | self hquote hbackslash hcontrol => exact Or.inl ⟨rfl, hquote, hbackslash, hcontrol⟩
  | letter h =>
    refine Or.inr ⟨_, rfl, fun offset rest => ?_⟩
    simp only [escapeLetters, List.mem_cons, List.not_mem_nil, or_false, Prod.mk.injEq] at h
    rcases h with h | h | h | h | h | h | h | h <;>
      · obtain ⟨rfl, rfl⟩ := h
        rfl
  | @unit digits h =>
    refine Or.inr ⟨_, rfl, fun offset rest => ?_⟩
    show (unicodeEscape (offset + 1) (digits ++ rest)).map _ = _
    rw [unicodeEscape_unit h, List.length_cons, length_of_spellsUnit h]
    rfl
  | pair hhigh hlow hc hfront hbehind =>
    refine Or.inr ⟨_, rfl, fun offset rest => ?_⟩
    show (unicodeEscape (offset + 1) ((_ ++ '\\' :: 'u' :: _) ++ rest)).map _ = _
    rw [List.append_assoc, List.cons_append, List.cons_append,
      unicodeEscape_pair hhigh hlow hc hfront hbehind, List.length_cons, List.length_append,
      List.length_cons, List.length_cons, length_of_spellsUnit hfront, length_of_spellsUnit hbehind]
    rfl

theorem stringChars_passing : ∀ (taken rest : List Char) (offset : Nat) (read : List Char),
    ∃ behind, stringChars (taken ++ rest) offset taken.length read
      = stringChars rest behind 0 read
  | [], _, offset, _ => ⟨offset, rfl⟩
  | c :: taken, rest, offset, read => stringChars_passing taken rest (offset + c.utf8Size) read

/-- Each character is read from whatever text it has. -/
theorem stringChars_of_spells {c : Char} {text : List Char} (h : SpellsChar c text)
    (rest : List Char) (offset : Nat) (read : List Char) :
    ∃ behind, stringChars (text ++ rest) offset 0 read = stringChars rest behind 0 (c :: read) := by
  rcases spellsChar_cases h with ⟨rfl, hquote, hbackslash, hcontrol⟩ | ⟨taken, rfl, hbody⟩
  · refine ⟨offset + c.utf8Size, ?_⟩
    show (if (c == '"') = true then _ else if (c == '\\') = true then _
      else if c.toNat < 32 then _ else _) = _
    rw [if_neg (by simpa using hquote), if_neg (by simpa using hbackslash), if_neg hcontrol]
    rfl
  · have hstep : stringChars ('\\' :: (taken ++ rest)) offset 0 read
        = stringChars (taken ++ rest) (offset + 1) taken.length (c :: read) := by
      simp [stringChars, hbody]
    obtain ⟨behind, hpassed⟩ := stringChars_passing taken rest (offset + 1) (c :: read)
    exact ⟨behind, hstep.trans hpassed⟩

theorem stringChars_of_spellsChars {cs inner : List Char} (h : SpellsChars cs inner)
    (rest : List Char) : ∀ (offset : Nat) (read : List Char),
      ∃ behind, stringChars (inner ++ '"' :: rest) offset 0 read
        = .ok (read.reverse ++ cs, ⟨behind, rest⟩) := by
  induction h with
  | nil =>
    intro offset read
    refine ⟨offset + 1, ?_⟩
    rw [List.append_nil]
    rfl
  | cons hc hcs ih =>
    intro offset read
    rw [List.append_assoc]
    obtain ⟨between, hfirst⟩ := stringChars_of_spells hc (_ ++ '"' :: rest) offset read
    obtain ⟨behind, hrest⟩ := ih between (_ :: read)
    refine ⟨behind, ?_⟩
    rw [hfirst, hrest, List.reverse_cons, List.append_assoc]
    rfl

namespace Reader

/-- **Quoted texts** are read back. -/
theorem takes_stringBody {text : String} {inner : List Char} (h : SpellsChars text.toList inner)
    (rest : List Char) : Takes stringBody (inner ++ '"' :: rest) text rest := by
  intro offset
  obtain ⟨behind, hchars⟩ := stringChars_of_spellsChars h rest offset []
  refine ⟨behind, ?_⟩
  unfold stringBody
  rw [hchars]
  show EStateM.Result.ok (String.ofList ([].reverse ++ text.toList)) _ = _
  rw [List.reverse_nil, List.nil_append, String.ofList_toList]

end Reader

/-! ## Numbers -/

theorem isDigit_of_char {c : Char} (h : c.isDigit = true) : isDigit c = true := by
  simpa [Char.isDigit, isDigit, Char.le_def] using h

theorem isDigit_of_mem {n : Nat} {c : Char} (h : c ∈ Nat.toDigits 10 n) : isDigit c = true :=
  isDigit_of_char (Nat.isDigit_of_mem_toDigits (by decide) (Nat.le_refl 10) h)

theorem head_toDigits_ne_zero (n : Nat) (h : 0 < n) : (Nat.toDigits 10 n).head? ≠ some '0' := by
  induction n using Nat.strongRecOn with
  | ind n ih =>
    by_cases hsmall : n < 10
    · have hdigit : ∀ digit < 10, 0 < digit → [Nat.digitChar digit].head? ≠ some '0' := by decide
      rw [Nat.toDigits_of_lt_base hsmall]
      exact hdigit n hsmall h
    · have hfront := ih (n / 10) (by omega) (by omega)
      obtain ⟨c, cs, hcons⟩ := List.exists_cons_of_ne_nil (@Nat.toDigits_ne_nil (n / 10) 10)
      rw [Nat.toDigits_of_base_le (by decide) (Nat.not_lt.mp hsmall), hcons]
      rw [hcons] at hfront
      exact hfront

/-- A zero in front is the only digit. -/
theorem length_of_head_zero {n : Nat} (h : (Nat.toDigits 10 n).head? = some '0') :
    (Nat.toDigits 10 n).length = 1 := by
  rcases Nat.eq_zero_or_pos n with rfl | hpos
  · rfl
  · exact absurd h (head_toDigits_ne_zero n hpos)

/-- All digits go into the significand if their number fits: what is gathered on the way is never
larger. -/
theorem absorb_of_lt {digits : List Char} : ∀ {significand : Nat},
    Nat.ofDigitChars 10 digits significand < UInt64.size →
      absorb significand digits = (Nat.ofDigitChars 10 digits significand, []) := by
  induction digits with
  | nil =>
    intro significand _
    rw [Nat.ofDigitChars_nil]
    rfl
  | cons c digits ih =>
    intro significand h
    have hcons : Nat.ofDigitChars 10 (c :: digits) significand
        = Nat.ofDigitChars 10 digits (significand * 10 + digitValue c) := by
      rw [Nat.ofDigitChars_cons, Nat.mul_comm]
      rfl
    have hle : significand * 10 + digitValue c
        ≤ Nat.ofDigitChars 10 digits (significand * 10 + digitValue c) := by
      rw [Nat.ofDigitChars_eq_ofDigitChars_zero]
      exact Nat.le_trans (Nat.le_mul_of_pos_left _ (Nat.pow_pos (by decide))) (Nat.le_add_right _ _)
    rw [hcons] at h ⊢
    show (if significand * 10 + digitValue c < UInt64.size then _ else _) = _
    rw [if_pos (Nat.lt_of_le_of_lt hle h)]
    exact ih h

theorem absorb_toDigits (value : UInt64) :
    absorb 0 (Nat.toDigits 10 value.toNat) = (value.toNat, []) := by
  have hvalue : Nat.ofDigitChars 10 (Nat.toDigits 10 value.toNat) 0 = value.toNat :=
    Nat.ofDigitChars_ten_toDigits
  have h := absorb_of_lt (hvalue.symm ▸ value.toNat_lt : Nat.ofDigitChars 10 _ 0 < UInt64.size)
  rw [hvalue] at h
  exact h

/-- The digits of a number begin with one, and a zero in front is the only one. -/
theorem exists_toDigits_cons (n : Nat) : ∃ c cs, Nat.toDigits 10 n = c :: cs ∧ isDigit c = true
    ∧ ¬ (c == '0' && decide ((Nat.toDigits 10 n).length ≠ 1)) = true := by
  obtain ⟨c, cs, hcons⟩ := List.exists_cons_of_ne_nil (@Nat.toDigits_ne_nil n 10)
  refine ⟨c, cs, hcons, isDigit_of_mem (hcons ▸ List.mem_cons_self), fun h => ?_⟩
  obtain ⟨hc, hlength⟩ := Bool.and_eq_true_iff.mp h
  refine of_decide_eq_true hlength (length_of_head_zero ?_)
  rw [hcons, List.head?_cons, beq_iff_eq.mp hc]

namespace Reader

theorem takes_digits {found : List Char} (hfound : ∀ c ∈ found, isDigit c = true)
    (hrest : ∀ c ∈ rest.head?, isDigit c = false) : Takes digits (found ++ rest) found rest := by
  intro offset
  refine ⟨offset + found.length, ?_⟩
  unfold digits
  simp only [takeWhile_front hfound hrest, List.drop_left]

/-- The whole part of a number is looked at and taken, and has no zero in front. -/
theorem takes_whole (n : Nat) (hrest : ∀ c ∈ rest.head?, isDigit c = false) : ∃ c,
    isDigit c = true ∧ ¬ (c == '0' && decide ((Nat.toDigits 10 n).length ≠ 1)) = true
    ∧ Takes peek (Nat.toDigits 10 n ++ rest) (some c) (Nat.toDigits 10 n ++ rest)
    ∧ Takes digits (Nat.toDigits 10 n ++ rest) (Nat.toDigits 10 n) rest := by
  obtain ⟨c, cs, hcons, hdigit, hzero⟩ := exists_toDigits_cons n
  have hpeek := takes_peek (Nat.toDigits 10 n ++ rest)
  have hhead : (Nat.toDigits 10 n ++ rest).head? = some c := by
    rw [hcons]
    rfl
  rw [hhead] at hpeek
  exact ⟨c, hdigit, hzero, hpeek, takes_digits (fun c hc => isDigit_of_mem hc) hrest⟩

/-- Digits that are all taken are read as the number they stand for, if nothing follows that would
belong to them. -/
theorem takes_number {n significand : Nat} (h : absorb 0 (Nat.toDigits 10 n) = (significand, []))
    (hrest : Delimited rest) : Takes (number false) (Nat.toDigits 10 n ++ rest)
      (.unsigned (UInt64.ofNat significand)) rest := by
  obtain ⟨c, hdigit, hzero, hpeek, hwhole⟩ := takes_whole n fun c hc => (hrest c hc).1
  refine hpeek.bind ?_
  show Takes (if !isDigit c then _ else _) _ _ _
  rw [hdigit]
  refine Takes.get fun offset => hwhole.bind ?_
  dsimp only
  rw [if_neg hzero, h]
  refine (takes_peek rest).bind ?_
  split
  · next heq => exact absurd rfl (hrest _ heq).2.1
  · next heq => exact absurd rfl (hrest _ heq).2.2.1
  · next heq => exact absurd rfl (hrest _ heq).2.2.2
  · exact Takes.pure _ rest

end Reader

end StructVault.Json

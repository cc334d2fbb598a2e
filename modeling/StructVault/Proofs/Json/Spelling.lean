import StructVault.Json.Printer
import StructVault.Proofs.Json.Taking

/-!
# Spellings

One JSON value has many texts. `Spells` says which: blanks may stand between any two tokens, a character
between quotes may be written as it is or as an escape, with a letter or with numbers in hexadecimal
digits, and an exponent may have either mark, a plus and zeros in front. A whole text may have blanks at
both ends (`SpellsText`). Both layouts that are printed are among the spellings: the one with an item or
field a line (`spells_prettyAt`), where the blanks are new lines, and the one without blanks
(`spells_compact`).

The texts of items and fields run up to the closing bracket, which they hold, so that they fit
behind each other without anything between them.
-/

namespace StructVault.Json

/-! ## Texts between quotes -/

/-- The letters that mean a character behind a backslash. -/
def escapeLetters : List (Char × Char) := [
  ('"', '"'), ('\\', '\\'), ('/', '/'), ('b', Char.ofNat 8), ('f', Char.ofNat 12), ('n', '\n'),
  ('r', '\r'), ('t', '\t')]

/-- A hexadecimal digit of either case. -/
def SpellsDigit (n : Nat) (c : Char) : Prop := c = Hex.digit n ∨ c = (Hex.digit n).toUpper

/-- Four hexadecimal digits of a number. -/
inductive SpellsUnit : Nat → List Char → Prop where
  | mk {n : Nat} {a b c d : Char} (hn : n < 0x10000) (ha : SpellsDigit (n / 0x1000) a)
      (hb : SpellsDigit (n / 0x100) b) (hc : SpellsDigit (n / 0x10) c) (hd : SpellsDigit n d) :
      SpellsUnit n [a, b, c, d]

/-- The texts of a character between quotes. Beyond the basic plane it is escaped as two surrogates. -/
inductive SpellsChar : Char → List Char → Prop where
  | self {c : Char} (hquote : c ≠ '"') (hbackslash : c ≠ '\\') (hcontrol : ¬ c.toNat < 32) :
      SpellsChar c [c]
  | letter {c letter : Char} (h : (letter, c) ∈ escapeLetters) : SpellsChar c ['\\', letter]
  | unit {c : Char} {digits : List Char} (h : SpellsUnit c.toNat digits) :
      SpellsChar c ('\\' :: 'u' :: digits)
  | pair {c : Char} {high low : Nat} {front behind : List Char} (hhigh : high < 0x400)
      (hlow : low < 0x400) (hc : c.toNat = 0x10000 + high * 0x400 + low)
      (hfront : SpellsUnit (0xD800 + high) front) (hbehind : SpellsUnit (0xDC00 + low) behind) :
      SpellsChar c ('\\' :: 'u' :: (front ++ '\\' :: 'u' :: behind))

/-- The texts of characters between quotes. -/
inductive SpellsChars : List Char → List Char → Prop where
  | nil : SpellsChars [] []
  | cons {c : Char} {cs text more : List Char} (hc : SpellsChar c text) (hcs : SpellsChars cs more) :
      SpellsChars (c :: cs) (text ++ more)

/-! ## Numbers -/

/-- The texts of an exponent, with its mark. -/
inductive SpellsExponent : Option Int → List Char → Prop where
  | none : SpellsExponent none []
  | some {power : Int} {mark : Char} {sign digits : List Char} (hmark : mark = 'e' ∨ mark = 'E')
      (hsign : 0 ≤ power ∧ (sign = [] ∨ sign = ['+']) ∨ power ≤ 0 ∧ sign = ['-'])
      (hne : digits ≠ []) (hdigits : ∀ c ∈ digits, c.isDigit = true)
      (hvalue : Nat.ofDigitChars 10 digits 0 = power.natAbs) :
      SpellsExponent (some power) (mark :: (sign ++ digits))

/-- The decimal point of a number and the digits behind it, if there are any. -/
def decimals (n : Numeral) : List Char :=
  if n.fraction.isEmpty then [] else '.' :: n.fraction.map fun digit => Nat.digitChar digit.val

/-- A number without its exponent. -/
def mantissa (n : Numeral) : List Char :=
  (if n.negative then ['-'] else []) ++ (Nat.toDigits 10 n.whole ++ decimals n)

/-! ## Values -/

mutual

/-- The texts of a value. -/
inductive Spells : Json → List Char → Prop where
  | null : Spells .null "null".toList
  | true : Spells (.bool true) "true".toList
  | false : Spells (.bool false) "false".toList
  | number {n : Numeral} {exponent : List Char} (h : SpellsExponent n.exponent exponent) :
      Spells (.number n) (mantissa n ++ exponent)
  | string {s : String} {inner : List Char} (h : SpellsChars s.toList inner) :
      Spells (.string s) ('"' :: (inner ++ ['"']))
  | emptyArray {blank : List Char} (hblank : Blank blank) :
      Spells (.array []) ('[' :: (blank ++ [']']))
  | array {blank text more : List Char} {item : Json} {items : List Json} (hblank : Blank blank)
      (hitem : Spells item text) (hitems : SpellsItems items more) :
      Spells (.array (item :: items)) ('[' :: (blank ++ (text ++ more)))
  | emptyObject {blank : List Char} (hblank : Blank blank) :
      Spells (.object []) ('\x7b' :: (blank ++ ['\x7d']))
  | object {blank text more : List Char} {key : String} {value : Json}
      {fields : List (String × Json)} (hblank : Blank blank) (hfield : SpellsField key value text)
      (hfields : SpellsFields fields more) :
      Spells (.object ((key, value) :: fields)) ('\x7b' :: (blank ++ (text ++ more)))

/-- The texts behind an item of an array, if these items follow. -/
inductive SpellsItems : List Json → List Char → Prop where
  | nil {blank : List Char} (hblank : Blank blank) : SpellsItems [] (blank ++ [']'])
  | cons {before blank text more : List Char} {item : Json} {items : List Json}
      (hbefore : Blank before) (hblank : Blank blank) (hitem : Spells item text)
      (hitems : SpellsItems items more) :
      SpellsItems (item :: items) (before ++ ',' :: (blank ++ (text ++ more)))

/-- The texts of one field of an object. -/
inductive SpellsField : String → Json → List Char → Prop where
  | mk {inner before blank text : List Char} {key : String} {value : Json}
      (hkey : SpellsChars key.toList inner) (hbefore : Blank before) (hblank : Blank blank)
      (hvalue : Spells value text) :
      SpellsField key value ('"' :: (inner ++ '"' :: (before ++ ':' :: (blank ++ text))))

/-- The texts behind a field of an object, if these fields follow. -/
inductive SpellsFields : List (String × Json) → List Char → Prop where
  | nil {blank : List Char} (hblank : Blank blank) : SpellsFields [] (blank ++ ['\x7d'])
  | cons {before blank text more : List Char} {key : String} {value : Json}
      {fields : List (String × Json)} (hbefore : Blank before) (hblank : Blank blank)
      (hfield : SpellsField key value text) (hfields : SpellsFields fields more) :
      SpellsFields ((key, value) :: fields) (before ++ ',' :: (blank ++ (text ++ more)))

end

/-! ## Printed values -/

theorem blank_newline (level : Nat) : Blank (newline level) := by
  intro c h
  rcases List.mem_cons.mp h with rfl | h
  · rfl
  · rw [List.eq_of_mem_replicate h]
    rfl

/-- A character is printed as one of its texts. -/
theorem spellsChar_escape (c : Char) : SpellsChar c (escape c) := by
  have hnumber {n : Nat} (h : (c.toNat == n) = true) : c = Char.ofNat n := by
    rw [← beq_iff_eq.mp h, Char.ofNat_toNat]
  unfold escape
  -- five characters that are told apart as such, and two by their numbers
  iterate 5
    split
    · next h =>
      cases beq_iff_eq.mp h
      exact .letter (by decide)
  iterate 2
    split
    · next h =>
      cases hnumber h
      exact .letter (by decide)
  split
  · next hcontrol =>
    have hfirst : c.toNat / 0x1000 = 0 := by omega
    have hsecond : c.toNat / 0x100 = 0 := by omega
    refine .unit (.mk (by omega) (Or.inl ?_) (Or.inl ?_) (Or.inl rfl) (Or.inl rfl))
    · rw [hfirst]
      rfl
    · rw [hsecond]
      rfl
  · next hquote hbackslash _ _ _ _ _ hcontrol =>
    exact .self (fun h => hquote (beq_iff_eq.mpr h)) (fun h => hbackslash (beq_iff_eq.mpr h))
      hcontrol

theorem spellsChars_flatMap (cs : List Char) : SpellsChars cs (cs.flatMap escape) := by
  induction cs with
  | nil => exact .nil
  | cons c cs ih => exact .cons (spellsChar_escape c) ih

theorem spells_quote (s : String) : Spells (.string s) (quote s) :=
  .string (spellsChars_flatMap s.toList)

theorem spellsExponent_toString (power : Int) :
    SpellsExponent (some power) ('e' :: (toString power).toList) := by
  have hdigits (m : Nat) : ∀ c ∈ Nat.toDigits 10 m, c.isDigit = true :=
    fun c hc => Nat.isDigit_of_mem_toDigits (by decide) (Nat.le_refl 10) hc
  cases power with
  | ofNat m =>
    have htext : (toString (Int.ofNat m)).toList = [] ++ Nat.toDigits 10 m := by
      show (toString m).toList = _
      rw [Nat.toString_eq_ofList_toDigits, String.toList_ofList, List.nil_append]
    rw [htext]
    exact .some (Or.inl rfl) (Or.inl ⟨Int.natCast_nonneg m, Or.inl rfl⟩) Nat.toDigits_ne_nil
      (hdigits m) Nat.ofDigitChars_ten_toDigits
  | negSucc m =>
    have htext : (toString (Int.negSucc m)).toList = ['-'] ++ Nat.toDigits 10 (m + 1) := by
      show ("-" ++ toString (m + 1)).toList = _
      rw [String.toList_append, Nat.toString_eq_ofList_toDigits, String.toList_ofList,
        String.toList_ofList]
    rw [htext]
    exact .some (Or.inl rfl) (Or.inr ⟨Int.le_of_lt (Int.negSucc_lt_zero m), rfl⟩)
      Nat.toDigits_ne_nil (hdigits (m + 1)) Nat.ofDigitChars_ten_toDigits

theorem spells_text (n : Numeral) : Spells (.number n) n.text := by
  obtain ⟨negative, whole, fraction, exponent⟩ := n
  cases exponent with
  | none =>
    have htext := Spells.number (n := ⟨negative, whole, fraction, none⟩) .none
    simpa [mantissa, decimals, Numeral.text] using htext
  | some power =>
    have htext := Spells.number (n := ⟨negative, whole, fraction, some power⟩)
      (spellsExponent_toString power)
    simpa [mantissa, decimals, Numeral.text] using htext

theorem spellsField_quote {value : Json} {blank text : List Char} (key : String)
    (hblank : Blank blank) (h : Spells value text) :
    SpellsField key value (quote key ++ ':' :: (blank ++ text)) := by
  have hfield := SpellsField.mk (spellsChars_flatMap key.toList) blank_nil hblank h
  simpa [quote] using hfield

theorem blank_space : Blank [' '] := by
  intro c hc
  rw [List.mem_singleton.mp hc]
  rfl

mutual

/-- **Printed values** are spelled as values are. -/
theorem spells_prettyAt (level : Nat) : ∀ json : Json, Spells json (prettyAt level json)
  | .null => .null
  | .bool true => .true
  | .bool false => .false
  | .number n => spells_text n
  | .string s => spells_quote s
  | .array [] => .emptyArray blank_nil
  | .array (item :: items) => by
    have hitem := spells_prettyAt (level + 1) item
    have hitems := spellsItems_prettyItems (level + 1) (blank_newline level) items
    show Spells _ ('[' :: newline (level + 1) ++ prettyAt (level + 1) item
      ++ prettyItems (level + 1) items ++ newline level ++ [']'])
    simpa using Spells.array (blank_newline (level + 1)) hitem hitems
  | .object [] => .emptyObject blank_nil
  | .object ((key, value) :: fields) => by
    have hfield := spellsField_quote key blank_space (spells_prettyAt (level + 1) value)
    have hfields := spellsFields_prettyFields (level + 1) (blank_newline level) fields
    show Spells _ ('\x7b' :: newline (level + 1) ++ quote key
      ++ ':' :: ' ' :: prettyAt (level + 1) value ++ prettyFields (level + 1) fields
      ++ newline level ++ ['\x7d'])
    simpa using Spells.object (blank_newline (level + 1)) hfield hfields

theorem spellsItems_prettyItems (level : Nat) {blank : List Char} (hblank : Blank blank) :
    ∀ items : List Json, SpellsItems items (prettyItems level items ++ (blank ++ [']']))
  | [] => .nil hblank
  | item :: items => by
    have hitem := spells_prettyAt level item
    have hitems := spellsItems_prettyItems level hblank items
    show SpellsItems _ (',' :: newline level ++ prettyAt level item ++ prettyItems level items ++ _)
    simpa using SpellsItems.cons blank_nil (blank_newline level) hitem hitems

theorem spellsFields_prettyFields (level : Nat) {blank : List Char} (hblank : Blank blank) :
    ∀ fields : List (String × Json),
      SpellsFields fields (prettyFields level fields ++ (blank ++ ['\x7d']))
  | [] => .nil hblank
  | (key, value) :: fields => by
    have hfield := spellsField_quote key blank_space (spells_prettyAt level value)
    have hfields := spellsFields_prettyFields level hblank fields
    show SpellsFields _ (',' :: newline level ++ quote key ++ ':' :: ' ' :: prettyAt level value
      ++ prettyFields level fields ++ _)
    simpa using SpellsFields.cons blank_nil (blank_newline level) hfield hfields

end

mutual

/-- **Compact values** are spelled as values are, with no blank anywhere. -/
theorem spells_compact : ∀ json : Json, Spells json json.compact
  | .null => .null
  | .bool true => .true
  | .bool false => .false
  | .number n => spells_text n
  | .string s => spells_quote s
  | .array [] => .emptyArray blank_nil
  | .array (item :: items) => by
    have hitem := spells_compact item
    have hitems := spellsItems_compactItems items
    show Spells _ ('[' :: item.compact ++ compactItems items ++ [']'])
    simpa using Spells.array blank_nil hitem hitems
  | .object [] => .emptyObject blank_nil
  | .object ((key, value) :: fields) => by
    have hfield := spellsField_quote key blank_nil (spells_compact value)
    have hfields := spellsFields_compactFields fields
    show Spells _ ('\x7b' :: quote key ++ ':' :: value.compact ++ compactFields fields ++ ['\x7d'])
    simpa using Spells.object blank_nil hfield hfields

theorem spellsItems_compactItems :
    ∀ items : List Json, SpellsItems items (compactItems items ++ [']'])
  | [] => .nil blank_nil
  | item :: items => by
    have hitem := spells_compact item
    have hitems := spellsItems_compactItems items
    show SpellsItems _ (',' :: item.compact ++ compactItems items ++ _)
    simpa using SpellsItems.cons blank_nil blank_nil hitem hitems

theorem spellsFields_compactFields :
    ∀ fields : List (String × Json), SpellsFields fields (compactFields fields ++ ['\x7d'])
  | [] => .nil blank_nil
  | (key, value) :: fields => by
    have hfield := spellsField_quote key blank_nil (spells_compact value)
    have hfields := spellsFields_compactFields fields
    show SpellsFields _ (',' :: quote key ++ ':' :: value.compact ++ compactFields fields ++ _)
    simpa using SpellsFields.cons blank_nil blank_nil hfield hfields

end

/-- The texts of a value that fills a whole text, but for blanks at its ends. -/
def SpellsText (json : Json) (text : String) : Prop :=
  ∃ before cs behind, Blank before ∧ Spells json cs ∧ Blank behind
    ∧ text.toList = before ++ (cs ++ behind)

theorem spellsText_of_spells {json : Json} {text : String} (h : Spells json text.toList) :
    SpellsText json text :=
  ⟨[], text.toList, [], blank_nil, h, blank_nil, (List.append_nil _).symm⟩

theorem spells_prettyText (json : Json) : SpellsText json json.prettyText := by
  apply spellsText_of_spells
  rw [prettyText, String.toList_ofList]
  exact spells_prettyAt 0 json

theorem spells_compactText (json : Json) : SpellsText json json.compactText := by
  apply spellsText_of_spells
  rw [compactText, String.toList_ofList]
  exact spells_compact json

end StructVault.Json

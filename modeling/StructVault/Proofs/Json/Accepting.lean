import Mathlib.Data.List.Forall2
import StructVault.Json.Record
import StructVault.Proofs.Json.Skipping

/-!
# Accepted values

`Accepts reader json value`: whatever text the JSON value has, the reader gives `value` for it and
stops behind it. Readers made of others accept what is made of values that those accept:

- `accepts_list`: a list, if each element is accepted.
- `accepts_record`: an object, if its fields fill the slots of the record one by one
  (`Gathers`), in whatever order they come. Fields without a slot may be anything.
- `parse_of_accepts`: at the top, a text that spells an accepted value is parsed.

Behind an opening bracket items and fields are read as they are behind an item or a field, but for the
comma that stands in front of the next one. `SpellsItemsFrom` and `SpellsFieldsFrom` say which texts may
stand in either place.
-/

namespace StructVault.Json

/-- The reader gives `value` for every text of the JSON value. -/
def Accepts {α : Type} (reader : Reader α) (json : Json) (value : α) : Prop :=
  ∀ ⦃blank cs rest : List Char⦄, Blank blank → Spells json cs → Delimited rest →
    Takes reader (blank ++ (cs ++ rest)) value rest

variable {α β Parts Record : Type} {blank before cs inner more rest : List Char} {c : Char}
  {first : Bool} {json : Json} {items : List Json} {key : String} {fields : List (String × Json)}

/-! ## Inside brackets -/

/-- The texts up to the closing bracket of an array that has these items left, behind its opening
bracket (`true`) or behind an item. -/
def SpellsItemsFrom : Bool → List Json → List Char → Prop
  | true, items, inner => Spells (.array items) ('[' :: inner)
  | false, items, inner => SpellsItems items inner

/-- The same for the fields of an object. -/
def SpellsFieldsFrom : Bool → List (String × Json) → List Char → Prop
  | true, fields, inner => Spells (.object fields) ('\x7b' :: inner)
  | false, fields, inner => SpellsFields fields inner

theorem spellsItemsFrom_of_array (h : Spells (.array items) cs) :
    ∃ inner, cs = '[' :: inner ∧ SpellsItemsFrom true items inner := by
  obtain ⟨c, inner, rfl, hc⟩ := eq_cons_of_spells h
  obtain rfl : c = '[' := hc
  exact ⟨inner, rfl, h⟩

theorem spellsFieldsFrom_of_object (h : Spells (.object fields) cs) :
    ∃ inner, cs = '\x7b' :: inner ∧ SpellsFieldsFrom true fields inner := by
  obtain ⟨c, inner, rfl, hc⟩ := eq_cons_of_spells h
  obtain rfl : c = '\x7b' := hc
  exact ⟨inner, rfl, h⟩

/-- Each item has a comma, and behind the last one the bracket is closed. -/
theorem length_items_lt (h : SpellsItems items more) : items.length < more.length := by
  induction items generalizing more with
  | nil =>
    cases h
    simp
  | cons item items ih =>
    cases h with
    | cons hbefore hblank hitem hitems =>
      have hrest := ih hitems
      simp only [List.length_append, List.length_cons]
      omega

theorem length_fields_lt (h : SpellsFields fields more) : fields.length < more.length := by
  induction fields generalizing more with
  | nil =>
    cases h
    simp
  | cons field fields ih =>
    cases h with
    | cons hbefore hblank hfield hfields =>
      have hrest := ih hfields
      simp only [List.length_append, List.length_cons]
      omega

/-- There are enough rounds for the items if there is one for each character. -/
theorem length_items_le (h : SpellsItemsFrom true items inner) (rest : List Char) :
    items.length < (inner ++ rest).length + 1 := by
  rw [List.length_append]
  cases h with
  | emptyArray => simp
  | array hinner hitem hitems =>
    have hlength := length_items_lt hitems
    simp only [List.length_append, List.length_cons]
    omega

theorem length_fields_le (h : SpellsFieldsFrom true fields inner) (rest : List Char) :
    fields.length < (inner ++ rest).length + 1 := by
  rw [List.length_append]
  cases h with
  | emptyObject => simp
  | object hinner hfield hfields =>
    have hlength := length_fields_lt hfields
    simp only [List.length_append, List.length_cons]
    omega

namespace Reader

/-! ## Texts and numbers -/

theorem accepts_text (s : String) : Accepts text (.string s) s := by
  intro blank cs rest hblank hspells _
  cases hspells with
  | string hinner =>
    rw [List.cons_append, List.append_assoc]
    refine (takes_peekPastBlanks hblank (by decide : isBlank '"' = false) _).bind ?_
    exact (takes_advance '"' _).bind (takes_stringBody hinner rest)

theorem accepts_optionalText_null : Accepts optionalText .null none := by
  intro blank cs rest hblank hspells _
  cases hspells
  refine (takes_peekPastBlanks hblank (by decide : isBlank 'n' = false) _).bind ?_
  refine (takes_advance 'n' _).bind ?_
  exact (takes_literal ['u', 'l', 'l'] rest).bind (Takes.pure none rest)

theorem accepts_optionalText_string (s : String) : Accepts optionalText (.string s) (some s) := by
  intro blank cs rest hblank hspells hrest
  have htext := accepts_text s blank_nil hspells hrest
  obtain ⟨c, tail, rfl, hc⟩ := eq_cons_of_spells hspells
  obtain rfl : c = '"' := hc
  refine (takes_peekPastBlanks hblank (by decide : isBlank '"' = false) _).bind ?_
  exact htext.bind (Takes.pure (some s) rest)

theorem accepts_word_of_absorb {n significand : Nat}
    (h : absorb 0 (Nat.toDigits 10 n) = (significand, [])) :
    Accepts word (.nat n) (UInt64.ofNat significand) := by
  intro blank cs rest hblank hspells hrest
  have hnumber := takes_number h hrest
  obtain ⟨c, digits, hcons, hdigit, -⟩ := exists_toDigits_cons n
  -- the first digit is what the reader looks at: no blank to pass over, and no sign
  have hminus : ¬ (c == '-') = true := by
    rw [beq_iff_eq]
    exact ne_of_isDigit hdigit (by decide)
  obtain rfl : cs = Nat.toDigits 10 n := by
    cases hspells with
    | number hexponent =>
      cases hexponent
      simp [mantissa, decimals, Numeral.ofNat]
  rw [hcons] at hnumber ⊢
  refine (takes_peekPastBlanks hblank (not_isBlank_of_isDigit hdigit) _).bind ?_
  show Takes (if (c == '-') = true then _ else if isDigit c = true then _ else _) _ _ _
  rw [if_neg hminus, if_pos hdigit]
  exact hnumber.bind (Takes.pure _ rest)

/-- **Whole numbers** of 64 bits are read back. -/
theorem accepts_word (value : UInt64) : Accepts word (.nat value.toNat) value := by
  have haccepts := accepts_word_of_absorb (absorb_toDigits value)
  rwa [UInt64.ofNat_toNat] at haccepts

/-! ## Lists -/

/-- Where no items are left, the closing bracket is what stands next. -/
theorem takes_peekPastBlanks_items (h : SpellsItemsFrom first [] inner) (rest : List Char) :
    Takes peekPastBlanks (inner ++ rest) (some ']') (']' :: rest) := by
  have hend : ∃ blank, Blank blank ∧ inner = blank ++ [']'] := by
    cases first with
    | true =>
      cases h with
      | emptyArray hblank => exact ⟨_, hblank, rfl⟩
    | false =>
      cases h with
      | nil hblank => exact ⟨_, hblank, rfl⟩
  obtain ⟨blank, hblank, rfl⟩ := hend
  rw [List.append_assoc]
  exact takes_peekPastBlanks hblank (by decide : isBlank ']' = false) rest

theorem takes_nextElement_nil (h : SpellsItemsFrom first [] inner) (rest : List Char) :
    Takes (nextElement first) (inner ++ rest) false (']' :: rest) :=
  (takes_peekPastBlanks_items h rest).bind (Takes.pure false _)

/-- In front of an item the blanks and the comma that belong there are taken. -/
theorem takes_nextElement_cons {item : Json} (h : SpellsItemsFrom first (item :: items) inner)
    (rest : List Char) : ∃ text more, Spells item text ∧ SpellsItems items more
      ∧ Takes (nextElement first) (inner ++ rest) true (text ++ (more ++ rest)) := by
  cases first with
  | true =>
    cases h with
    | @array blank text more _ _ hblank hitem hitems =>
      refine ⟨text, more, hitem, hitems, ?_⟩
      obtain ⟨c, tail, rfl, hc⟩ := eq_cons_of_spells hitem
      obtain ⟨hnotBlank, hbracket⟩ := not_isBlank_of_opening hc
      rw [List.append_assoc, List.append_assoc]
      refine (takes_peekPastBlanks hblank hnotBlank _).bind ?_
      split
      · next heq => cases heq
      · next heq =>
        cases heq
        exact absurd rfl hbracket
      · exact Takes.pure true _
  | false =>
    cases h with
    | @cons before blank text more _ _ hbefore hblank hitem hitems =>
      refine ⟨text, more, hitem, hitems, ?_⟩
      obtain ⟨c, tail, rfl, hc⟩ := eq_cons_of_spells hitem
      obtain ⟨hnotBlank, hbracket⟩ := not_isBlank_of_opening hc
      simp only [List.append_assoc, List.cons_append]
      refine (takes_peekPastBlanks hbefore (by decide : isBlank ',' = false) _).bind ?_
      refine (takes_advance ',' _).bind ?_
      refine (takes_peekPastBlanks hblank hnotBlank _).bind ?_
      split
      · next heq =>
        cases heq
        exact absurd rfl hbracket
      · exact Takes.pure true _
      · next heq => cases heq

/-- The items that are left, up to the closing bracket. -/
theorem takes_elements {element : Reader α} {values : List α}
    (h : List.Forall₂ (Accepts element) items values) :
    ∀ {first : Bool} {inner : List Char} {bound : Nat}, SpellsItemsFrom first items inner →
      items.length < bound →
      Takes (elements element bound first) (inner ++ rest) values (']' :: rest) := by
  induction h with
  | nil =>
    intro first inner bound hspells hbound
    obtain ⟨bound, rfl⟩ := Nat.exists_eq_succ_of_ne_zero (Nat.ne_zero_of_lt hbound)
    exact (takes_nextElement_nil hspells rest).bind (Takes.pure [] _)
  | cons haccepts hall ih =>
    intro first inner bound hspells hbound
    obtain ⟨bound, rfl⟩ := Nat.exists_eq_succ_of_ne_zero (Nat.ne_zero_of_lt hbound)
    obtain ⟨text, more, hitem, hitems, hnext⟩ := takes_nextElement_cons hspells rest
    have helement := haccepts blank_nil hitem (delimited_items hitems rest)
    have hrest := @ih false more bound hitems (Nat.lt_of_succ_lt_succ hbound)
    exact hnext.bind (helement.bind (hrest.bind (Takes.pure _ _)))

theorem takes_listEnd (h : SpellsItemsFrom first [] inner) (rest : List Char) :
    Takes listEnd (inner ++ rest) () rest :=
  (takes_peekPastBlanks_items h rest).bind (takes_advance ']' rest)

/-- Behind its bracket the elements of a list are read, in as many rounds as there are characters. -/
theorem leads_list (element : Reader α) (hblank : Blank blank) (text : List Char) :
    Leads (list element) (blank ++ '[' :: text)
      (do
        let values ← elements element (text.length + 1) true
        listEnd
        return values) text :=
  ((takes_peekPastBlanks hblank (by decide : isBlank '[' = false) text).leads _).trans
    (((takes_advance '[' text).leads _).trans ((takes_rounds text).leads _))

/-- **Lists** are accepted if all their elements are. -/
theorem accepts_list {element : Reader α} {values : List α}
    (h : List.Forall₂ (Accepts element) items values) :
    Accepts (list element) (.array items) values := by
  intro blank cs rest hblank hspells _
  obtain ⟨inner, rfl, hinner⟩ := spellsItemsFrom_of_array hspells
  refine (leads_list element hblank (inner ++ rest)).takes ?_
  refine (takes_elements h hinner (length_items_le hinner rest)).bind ?_
  have hclosed : SpellsItemsFrom false [] [']'] := SpellsItems.nil blank_nil
  exact (takes_listEnd hclosed rest).bind (Takes.pure values rest)

theorem accepts_list_map {element : Reader α} {toJson : α → Json}
    (h : ∀ value, Accepts element (toJson value) value) (values : List α) :
    Accepts (list element) (.array (values.map toJson)) values :=
  accepts_list (List.forall₂_map_left_iff.mpr (List.forall₂_same.mpr fun value _ => h value))

/-! ## Records -/

/-- The fields of an object fill slots of a record, each one another slot, or have none. -/
inductive Gathers (slots : List (Slot Parts)) : Parts → List (String × Json) → Parts → Prop where
  | nil (parts : Parts) : Gathers slots parts [] parts
  | skip {parts gathered : Parts} {key : String} {json : Json} {fields : List (String × Json)}
      (hslot : slots.find? (·.key == key) = none) (hfields : Gathers slots parts fields gathered) :
      Gathers slots parts ((key, json) :: fields) gathered
  | cons {parts filled gathered : Parts} {key : String} {json : Json} {slot : Slot Parts}
      {fields : List (String × Json)} (hslot : slots.find? (·.key == key) = some slot)
      (hfree : slot.filled parts = false) (hread : Accepts (slot.read parts) json filled)
      (hfields : Gathers slots filled fields gathered) :
      Gathers slots parts ((key, json) :: fields) gathered

theorem accepts_slot {reader : Reader α} {value : α} (h : Accepts reader json value)
    (key : String) (required : Bool) (get : Parts → Option α) (set : Parts → α → Parts)
    (parts : Parts) :
    Accepts ((Slot.of key required get set reader).read parts) json (set parts value) :=
  fun _ _ _ hblank hspells hrest => (h hblank hspells hrest).bind (Takes.pure _ _)

theorem takes_nextKey_nil (h : SpellsFieldsFrom first [] inner) (rest : List Char) :
    Takes (nextKey first) (inner ++ rest) false ('\x7d' :: rest) := by
  have hend : ∃ blank, Blank blank ∧ inner = blank ++ ['\x7d'] := by
    cases first with
    | true =>
      cases h with
      | emptyObject hblank => exact ⟨_, hblank, rfl⟩
    | false =>
      cases h with
      | nil hblank => exact ⟨_, hblank, rfl⟩
  obtain ⟨blank, hblank, rfl⟩ := hend
  rw [List.append_assoc]
  exact (takes_peekPastBlanks hblank (by decide : isBlank '\x7d' = false) rest).bind
    (Takes.pure false _)

theorem takes_nextKey_quote (h : SpellsFieldsFrom first ((key, json) :: fields) inner)
    (rest : List Char) : ∃ text more, SpellsField key json ('"' :: text) ∧ SpellsFields fields more
      ∧ Takes (nextKey first) (inner ++ rest) true (text ++ (more ++ rest)) := by
  cases first with
  | true =>
    cases h with
    | @object blank text more _ _ _ hblank hfield hfields =>
      obtain ⟨tail, htext⟩ := List.head?_eq_some_iff.mp (head_of_spellsField hfield [])
      rw [List.append_nil] at htext
      subst htext
      refine ⟨tail, more, hfield, hfields, ?_⟩
      rw [List.append_assoc, List.append_assoc]
      refine (takes_peekPastBlanks hblank (by decide : isBlank '"' = false) _).bind ?_
      exact (takes_advance '"' _).bind (Takes.pure true _)
  | false =>
    cases h with
    | @cons before blank text more _ _ _ hbefore hblank hfield hfields =>
      obtain ⟨tail, htext⟩ := List.head?_eq_some_iff.mp (head_of_spellsField hfield [])
      rw [List.append_nil] at htext
      subst htext
      refine ⟨tail, more, hfield, hfields, ?_⟩
      simp only [List.append_assoc, List.cons_append]
      refine (takes_peekPastBlanks hbefore (by decide : isBlank ',' = false) _).bind ?_
      refine (takes_advance ',' _).bind ?_
      refine (takes_peekPastBlanks hblank (by decide : isBlank '"' = false) _).bind ?_
      exact (takes_advance '"' _).bind (Takes.pure true _)

/-- In front of a value its key is read, and the colon is what stands next. -/
theorem takes_nextKey_cons (h : SpellsFieldsFrom first ((key, json) :: fields) inner)
    (rest : List Char) : ∃ middle before blank text more, Blank before ∧ Blank blank
      ∧ Spells json text ∧ SpellsFields fields more
      ∧ Takes (nextKey first) (inner ++ rest) true middle
      ∧ Takes stringBody middle key (before ++ ':' :: (blank ++ (text ++ (more ++ rest)))) := by
  obtain ⟨fieldText, more, hfield, hfields, hnext⟩ := takes_nextKey_quote h rest
  cases hfield with
  | @mk _ before blank text _ _ hkey hbefore hblank hvalue =>
    refine ⟨_, before, blank, text, more, hbefore, hblank, hvalue, hfields, hnext, ?_⟩
    simp only [List.append_assoc, List.cons_append]
    exact takes_stringBody hkey _

theorem takes_colon (hblank : Blank blank) : Takes colon (blank ++ ':' :: rest) () rest :=
  (takes_peekPastBlanks hblank (by decide : isBlank ':' = false) rest).bind (takes_advance ':' rest)

/-- The reader comes behind the key of a field, and what happens then depends on its slot. -/
theorem leads_fields_key (slots : List (Slot Parts)) (bound : Nat) (parts : Parts)
    (h : SpellsFieldsFrom first ((key, json) :: fields) inner) (rest : List Char) :
    ∃ before blank text more, Blank before ∧ Blank blank ∧ Spells json text ∧ SpellsFields fields more
      ∧ Leads (Reader.fields slots (bound + 1) first parts) (inner ++ rest)
        (match slots.find? (·.key == key) with
        | none => do
          colon
          skipValue
          Reader.fields slots bound false parts
        | some slot =>
          if slot.filled parts then duplicate key
          else do
            colon
            Reader.fields slots bound false (← slot.read parts))
        (before ++ ':' :: (blank ++ (text ++ (more ++ rest)))) := by
  obtain ⟨_, before, blank, text, more, hbefore, hblank, hvalue, hmore, hnext, hkey⟩ :=
    takes_nextKey_cons h rest
  exact ⟨before, blank, text, more, hbefore, hblank, hvalue, hmore,
    (hnext.leads _).trans (hkey.leads _)⟩

/-- A field without a slot is passed over. -/
theorem leads_fields_skip {slots : List (Slot Parts)}
    (hslot : slots.find? (·.key == key) = none) (bound : Nat) (parts : Parts)
    (h : SpellsFieldsFrom first ((key, json) :: fields) inner) (rest : List Char) :
    ∃ more, SpellsFields fields more
      ∧ Leads (Reader.fields slots (bound + 1) first parts) (inner ++ rest)
        (Reader.fields slots bound false parts) (more ++ rest) := by
  obtain ⟨before, blank, text, more, hbefore, hblank, hvalue, hmore, hkey⟩ :=
    leads_fields_key slots bound parts h rest
  rw [hslot] at hkey
  have hskip := takes_skipValue hblank hvalue (delimited_fields hmore rest)
  exact ⟨more, hmore, hkey.trans (((takes_colon hbefore).leads _).trans (hskip.leads _))⟩

/-- The value of a field is read into its slot if that is free. -/
theorem leads_fields_value {slots : List (Slot Parts)} {slot : Slot Parts} {parts : Parts}
    (hslot : slots.find? (·.key == key) = some slot) (hfree : slot.filled parts = false) (bound : Nat)
    (h : SpellsFieldsFrom first ((key, json) :: fields) inner) (rest : List Char) :
    ∃ blank text more, Blank blank ∧ Spells json text ∧ SpellsFields fields more
      ∧ Leads (Reader.fields slots (bound + 1) first parts) (inner ++ rest)
        (slot.read parts >>= Reader.fields slots bound false) (blank ++ (text ++ (more ++ rest))) := by
  obtain ⟨before, blank, text, more, hbefore, hblank, hvalue, hmore, hkey⟩ :=
    leads_fields_key slots bound parts h rest
  rw [hslot] at hkey
  dsimp only at hkey
  rw [hfree, if_neg Bool.false_ne_true] at hkey
  exact ⟨blank, text, more, hblank, hvalue, hmore, hkey.trans ((takes_colon hbefore).leads _)⟩

/-- The fields that are left, up to the closing bracket. -/
theorem takes_fields {slots : List (Slot Parts)} {parts gathered : Parts}
    (h : Gathers slots parts fields gathered) :
    ∀ {first : Bool} {inner : List Char} {bound : Nat}, SpellsFieldsFrom first fields inner →
      fields.length < bound →
      Takes (Reader.fields slots bound first parts) (inner ++ rest) gathered ('\x7d' :: rest) := by
  induction h with
  | nil parts =>
    intro first inner bound hspells hbound
    obtain ⟨bound, rfl⟩ := Nat.exists_eq_succ_of_ne_zero (Nat.ne_zero_of_lt hbound)
    exact (takes_nextKey_nil hspells rest).bind (Takes.pure parts _)
  | @skip parts _ _ _ _ hslot hfields ih =>
    intro first inner bound hspells hbound
    obtain ⟨bound, rfl⟩ := Nat.exists_eq_succ_of_ne_zero (Nat.ne_zero_of_lt hbound)
    obtain ⟨more, hmore, hleads⟩ := leads_fields_skip hslot bound parts hspells rest
    exact hleads.takes (@ih false more bound hmore (Nat.lt_of_succ_lt_succ hbound))
  | cons hslot hfree hread hfields ih =>
    intro first inner bound hspells hbound
    obtain ⟨bound, rfl⟩ := Nat.exists_eq_succ_of_ne_zero (Nat.ne_zero_of_lt hbound)
    obtain ⟨blank, text, more, hblank, hvalue, hmore, hleads⟩ :=
      leads_fields_value hslot hfree bound hspells rest
    have hfilled := hread hblank hvalue (delimited_fields hmore rest)
    have hrest := @ih false more bound hmore (Nat.lt_of_succ_lt_succ hbound)
    exact hleads.takes (hfilled.bind hrest)

/-- Behind its bracket the fields of a record are read. If none is missing then, the record is made. -/
theorem leads_record_object (shape : Shape Parts Record) (hblank : Blank blank) (text : List Char) :
    Leads (record shape) (blank ++ '\x7b' :: text)
      (do
        let parts ← Reader.fields shape.slots (text.length + 1) true shape.none
        advance
        match missing shape.slots parts with
        | some key => fail (.missingField key)
        | none => return shape.make parts) text :=
  ((takes_peekPastBlanks hblank (by decide : isBlank '\x7b' = false) text).leads _).trans
    (((takes_advance '\x7b' text).leads _).trans ((takes_rounds text).leads _))

/-- **Records** are accepted as objects whose fields fill all slots that have to be filled. -/
theorem accepts_record {shape : Shape Parts Record} {gathered : Parts}
    (h : Gathers shape.slots shape.none fields gathered)
    (hmissing : missing shape.slots gathered = none) :
    Accepts (record shape) (.object fields) (shape.make gathered) := by
  intro blank cs rest hblank hspells _
  obtain ⟨inner, rfl, hinner⟩ := spellsFieldsFrom_of_object hspells
  refine (leads_record_object shape hblank (inner ++ rest)).takes ?_
  refine (takes_fields h hinner (length_fields_le hinner rest)).bind ?_
  refine (takes_advance '\x7d' rest).bind ?_
  rw [hmissing]
  exact Takes.pure _ rest

end Reader

/-! ## Whole texts -/

/-- **Parsing** gives what the reader accepts. -/
theorem parse_of_accepts {reader : Reader α} {value : α} {text : String}
    (h : Accepts reader json value) (hspells : SpellsText json text) :
    parse reader text = .ok value := by
  obtain ⟨before, cs, behind, hbefore, hvalue, hbehind, htext⟩ := hspells
  have hfinish : Takes Reader.finish behind () [] :=
    (Reader.takes_peekPastBlanks_end hbehind).bind (Takes.pure () [])
  have hwhole : Takes (do let result ← reader; Reader.finish; return result : Reader α) text.toList
      value [] := by
    rw [htext]
    exact (h hbefore hvalue (delimited_of_blank hbehind)).bind (hfinish.bind (Takes.pure value []))
  obtain ⟨last, hall⟩ := hwhole 0
  unfold parse
  rw [hall]

end StructVault.Json

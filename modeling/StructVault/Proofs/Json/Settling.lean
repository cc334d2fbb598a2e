import StructVault.Proofs.Json.Refusing

/-!
# Settled values

A reader made of readers that settle all values does so too (`settles_list`, `settles_record`). That
makes a refusal inside a value a refusal of the whole (`rejects_list_of_mem`): what stands in front of
the refused part was accepted, and then the reader comes to it, or there was a refusal before.

For the items of a list, for those of a record and for its fields there is one step each, which says
where the reader stands behind the first of them, and the induction that follows these steps.
-/

namespace StructVault.Json

variable {α Parts Record : Type} {blank inner rest : List Char} {first : Bool} {json : Json}
  {items : List Json} {key : String} {fields : List (String × Json)}

namespace Reader

/-! ## Lists -/

/-- No list is read from these items, wherever they stand, if there are rounds enough for them. -/
def ItemsFail (element : Reader α) (items : List Json) : Prop :=
  ∀ ⦃first inner rest bound⦄, SpellsItemsFrom first items inner → items.length < bound →
    Fails (elements element bound first) (inner ++ rest)

/-- Items are accepted one by one, or the list fails in the middle of them. -/
theorem settles_elements {element : Reader α} (h : Settles element) :
    ∀ items : List Json,
      (∃ values, List.Forall₂ (Accepts element) items values) ∨ ItemsFail element items := by
  intro items
  induction items with
  | nil => exact Or.inl ⟨[], .nil⟩
  | cons item items ih =>
    rcases h item with ⟨value, haccepts⟩ | hrejects
    · rcases ih with ⟨values, hall⟩ | hfails
      · exact Or.inl ⟨value :: values, .cons haccepts hall⟩
      · refine Or.inr fun first inner rest bound hspells hbound => ?_
        obtain ⟨bound, rfl⟩ := Nat.exists_eq_succ_of_ne_zero (Nat.ne_zero_of_lt hbound)
        obtain ⟨text, more, hitem, hitems, hnext⟩ := takes_nextElement_cons hspells rest
        have helement := haccepts blank_nil hitem (delimited_items hitems rest)
        have hbehind : SpellsItemsFrom false items more := hitems
        have hrest : Fails (elements element bound false) (more ++ rest) :=
          hfails hbehind (Nat.lt_of_succ_lt_succ hbound)
        exact hnext.fails (helement.fails (hrest.bind _))
    · refine Or.inr fun first inner rest bound hspells hbound => ?_
      obtain ⟨bound, rfl⟩ := Nat.exists_eq_succ_of_ne_zero (Nat.ne_zero_of_lt hbound)
      obtain ⟨text, more, hitem, hitems, hnext⟩ := takes_nextElement_cons hspells rest
      have helement := hrejects blank_nil hitem (delimited_items hitems rest)
      exact hnext.fails (helement.bind _)

theorem rejects_list (h : ∀ items, json ≠ .array items) (element : Reader α) :
    Rejects (list element) json := by
  refine rejects_of_opening fun c rest hc => ?_
  split
  · next heq => cases heq
  · next heq =>
    cases heq
    obtain ⟨items, hitems⟩ := opening_array hc
    exact absurd hitems (h items)
  · exact fails_wrongType _ _

theorem rejects_list_of_items {element : Reader α} (h : ItemsFail element items) :
    Rejects (list element) (.array items) := by
  intro blank cs rest hblank hspells _
  obtain ⟨inner, rfl, hinner⟩ := spellsItemsFrom_of_array hspells
  refine (leads_list element hblank (inner ++ rest)).fails ?_
  exact (h hinner (length_items_le hinner rest)).bind _

theorem settles_list {element : Reader α} (h : Settles element) : Settles (list element) := by
  intro json
  by_cases harray : ∃ items, json = .array items
  · obtain ⟨items, rfl⟩ := harray
    rcases settles_elements h items with ⟨values, hall⟩ | hfails
    · exact Or.inl ⟨values, accepts_list hall⟩
    · exact Or.inr (rejects_list_of_items hfails)
  · exact Or.inr (rejects_list (fun items hitems => harray ⟨items, hitems⟩) element)

/-- **One refused item** is enough for a list to be refused. -/
theorem rejects_list_of_mem {element : Reader α} {item : Json} (h : Settles element)
    (hitem : item ∈ items) (hrejects : Rejects element item) :
    Rejects (list element) (.array items) := by
  rcases settles_elements h items with ⟨values, hall⟩ | hfails
  · exfalso
    induction hall with
    | nil => cases hitem
    | cons haccepts hall ih =>
      rcases List.mem_cons.mp hitem with rfl | hitem
      · exact not_rejects_of_accepts haccepts hrejects
      · exact ih hitem
  · exact rejects_list_of_items hfails

/-! ## Records -/

/-- A list of which items are left does not end here. -/
theorem fails_listEnd {item : Json} (h : SpellsItemsFrom first (item :: items) inner)
    (rest : List Char) : Fails listEnd (inner ++ rest) := by
  have hnext : ∃ c tail, c ≠ ']' ∧ Takes peekPastBlanks (inner ++ rest) (some c) (c :: tail) := by
    cases first with
    | true =>
      cases h with
      | array hblank hitem hitems =>
        obtain ⟨c, tail, rfl, hc⟩ := eq_cons_of_spells hitem
        obtain ⟨hnotBlank, hbracket⟩ := not_isBlank_of_opening hc
        simp only [List.append_assoc, List.cons_append]
        exact ⟨c, _, hbracket, takes_peekPastBlanks hblank hnotBlank _⟩
    | false =>
      cases h with
      | cons hbefore hblank hitem hitems =>
        simp only [List.append_assoc, List.cons_append]
        exact ⟨',', _, by decide, takes_peekPastBlanks hbefore (by decide) _⟩
  obtain ⟨c, tail, hbracket, hpeek⟩ := hnext
  refine hpeek.fails ?_
  split
  · next heq =>
    cases heq
    exact absurd rfl hbracket
  · refine fails_bind (fun _ rest => fails_bind (fun next rest => ?_) _ rest) _ _
    split
    · exact fails_failNext _ rest
    · exact fails_failNext _ rest
  · exact fails_failNext _ _
  · exact fails_failNext _ _

/-- The next slot is filled from the next item. -/
theorem leads_places_item {item : Json} (expected : String) (slot : Slot Parts)
    (slots : List (Slot Parts)) (index : Nat) (parts : Parts)
    (h : SpellsItemsFrom (index == 0) (item :: items) inner) (rest : List Char) :
    ∃ text more, Spells item text ∧ SpellsItems items more
      ∧ Leads (places expected (slot :: slots) index parts) (inner ++ rest)
        (slot.read parts >>= places expected slots (index + 1)) (text ++ (more ++ rest)) := by
  obtain ⟨text, more, hitem, hitems, hnext⟩ := takes_nextElement_cons h rest
  exact ⟨text, more, hitem, hitems, hnext.leads _⟩

/-- A slot that may be left empty is left empty where no item is left. -/
theorem leads_places_omitted (expected : String) {slot : Slot Parts}
    (hrequired : ¬ slot.required = true) (slots : List (Slot Parts)) (index : Nat) (parts : Parts)
    (h : SpellsItemsFrom (index == 0) [] inner) (rest : List Char) :
    Leads (places expected (slot :: slots) index parts) (inner ++ rest)
      (places expected slots (index + 1) parts) (']' :: rest) := by
  have hleads : Leads (places expected (slot :: slots) index parts) (inner ++ rest)
      (if slot.required = true then do
        advance
        fail (.invalidLength index expected)
      else places expected slots (index + 1) parts) (']' :: rest) :=
    (takes_nextElement_nil h rest).leads _
  rwa [if_neg hrequired] at hleads

theorem fails_places_required (expected : String) {slot : Slot Parts}
    (hrequired : slot.required = true) (slots : List (Slot Parts)) (index : Nat) (parts : Parts)
    (h : SpellsItemsFrom (index == 0) [] inner) (rest : List Char) :
    Fails (places expected (slot :: slots) index parts) (inner ++ rest) := by
  refine (takes_nextElement_nil h rest).fails ?_
  rw [if_neg Bool.false_ne_true, if_pos hrequired]
  exact (takes_advance ']' rest).fails (fails_fail _ rest)

/-- Slots are filled from the items one by one, or the record fails in the middle of them. Items may be
left then. -/
theorem settles_places (expected : String) : ∀ (slots : List (Slot Parts)) (index : Nat)
    (parts : Parts) (items : List Json),
      (∀ slot ∈ slots, ∀ parts, Settles (slot.read parts)) →
      (∃ filled left, ∀ inner rest, SpellsItemsFrom (index == 0) items inner →
        ∃ first more, SpellsItemsFrom first left more
          ∧ Takes (places expected slots index parts) (inner ++ rest) filled (more ++ rest))
      ∨ ∀ inner rest, SpellsItemsFrom (index == 0) items inner →
        Fails (places expected slots index parts) (inner ++ rest) := by
  intro slots
  induction slots with
  | nil =>
    intro index parts items _
    exact Or.inl ⟨parts, items, fun inner rest hspells =>
      ⟨_, inner, hspells, Takes.pure parts (inner ++ rest)⟩⟩
  | cons slot slots ih =>
    intro index parts items hslots
    obtain ⟨hslot, hslots⟩ := List.forall_mem_cons.mp hslots
    cases items with
    | nil =>
      by_cases hrequired : slot.required = true
      · exact Or.inr fun inner rest hspells =>
          fails_places_required expected hrequired slots index parts hspells rest
      · -- the closing bracket is still there for the slots behind this one
        have hclosed : SpellsItemsFrom (index + 1 == 0) [] [']'] := SpellsItems.nil blank_nil
        rcases ih (index + 1) parts [] hslots with ⟨filled, left, htakes⟩ | hfails
        · refine Or.inl ⟨filled, left, fun inner rest hspells => ?_⟩
          have hleads := leads_places_omitted expected hrequired slots index parts hspells rest
          obtain ⟨first, more, hmore, hplaces⟩ := htakes [']'] rest hclosed
          exact ⟨first, more, hmore, hleads.takes hplaces⟩
        · refine Or.inr fun inner rest hspells => ?_
          have hleads := leads_places_omitted expected hrequired slots index parts hspells rest
          exact hleads.fails (hfails [']'] rest hclosed)
    | cons item items =>
      rcases hslot parts item with ⟨filled, haccepts⟩ | hrejects
      · rcases ih (index + 1) filled items hslots with ⟨last, left, htakes⟩ | hfails
        · refine Or.inl ⟨last, left, fun inner rest hspells => ?_⟩
          obtain ⟨text, behind, hitem, hitems, hleads⟩ :=
            leads_places_item expected slot slots index parts hspells rest
          have hread := haccepts blank_nil hitem (delimited_items hitems rest)
          obtain ⟨first, more, hmore, hplaces⟩ := htakes behind rest hitems
          exact ⟨first, more, hmore, hleads.takes (hread.bind hplaces)⟩
        · refine Or.inr fun inner rest hspells => ?_
          obtain ⟨text, behind, hitem, hitems, hleads⟩ :=
            leads_places_item expected slot slots index parts hspells rest
          have hread := haccepts blank_nil hitem (delimited_items hitems rest)
          exact hleads.fails (hread.fails (hfails behind rest hitems))
      · refine Or.inr fun inner rest hspells => ?_
        obtain ⟨text, behind, hitem, hitems, hleads⟩ :=
          leads_places_item expected slot slots index parts hspells rest
        have hread := hrejects blank_nil hitem (delimited_items hitems rest)
        exact hleads.fails (hread.bind _)

/-- Behind its bracket the values of a record are read in the order of its slots. -/
theorem leads_record_array (shape : Shape Parts Record) (hblank : Blank blank) (text : List Char) :
    Leads (record shape) (blank ++ '[' :: text)
      (do
        let parts ← places (arrayLabel shape) shape.slots 0 shape.none
        listEnd
        return shape.make parts) text :=
  ((takes_peekPastBlanks hblank (by decide : isBlank '[' = false) text).leads _).trans
    ((takes_advance '[' text).leads _)

theorem settles_record_array (shape : Shape Parts Record)
    (hslots : ∀ slot ∈ shape.slots, ∀ parts, Settles (slot.read parts)) (items : List Json) :
    (∃ value, Accepts (record shape) (.array items) value)
      ∨ Rejects (record shape) (.array items) := by
  rcases settles_places (arrayLabel shape) shape.slots 0 shape.none items hslots with
    ⟨filled, left, htakes⟩ | hfails
  · cases left with
    | nil =>
      refine Or.inl ⟨shape.make filled, fun blank cs rest hblank hspells _ => ?_⟩
      obtain ⟨inner, rfl, hinner⟩ := spellsItemsFrom_of_array hspells
      obtain ⟨first, more, hmore, hplaces⟩ := htakes inner rest hinner
      refine (leads_record_array shape hblank (inner ++ rest)).takes (hplaces.bind ?_)
      exact (takes_listEnd hmore rest).bind (Takes.pure _ rest)
    | cons item left =>
      refine Or.inr fun blank cs rest hblank hspells _ => ?_
      obtain ⟨inner, rfl, hinner⟩ := spellsItemsFrom_of_array hspells
      obtain ⟨first, more, hmore, hplaces⟩ := htakes inner rest hinner
      refine (leads_record_array shape hblank (inner ++ rest)).fails (hplaces.fails ?_)
      exact (fails_listEnd hmore rest).bind _
  · refine Or.inr fun blank cs rest hblank hspells _ => ?_
    obtain ⟨inner, rfl, hinner⟩ := spellsItemsFrom_of_array hspells
    refine (leads_record_array shape hblank (inner ++ rest)).fails ?_
    exact (hfails inner rest hinner).bind _

theorem fails_duplicate (key : String) (start : List Char) :
    Fails (duplicate key : Reader α) start := by
  refine fails_bind (fun next rest => ?_) _ start
  split
  · exact fails_bind (fun _ rest => fails_fail _ rest) _ rest
  · exact fails_fail _ rest

/-- No record is read from these fields, with these parts read before them. -/
def FieldsFail (slots : List (Slot Parts)) (parts : Parts) (fields : List (String × Json)) : Prop :=
  ∀ ⦃first inner rest bound⦄, SpellsFieldsFrom first fields inner → fields.length < bound →
    Fails (Reader.fields slots bound first parts) (inner ++ rest)

theorem fieldsFail_of_skip {slots : List (Slot Parts)} {parts : Parts}
    (hslot : slots.find? (·.key == key) = none) (h : FieldsFail slots parts fields) :
    FieldsFail slots parts ((key, json) :: fields) := by
  intro first inner rest bound hspells hbound
  obtain ⟨bound, rfl⟩ := Nat.exists_eq_succ_of_ne_zero (Nat.ne_zero_of_lt hbound)
  obtain ⟨more, hmore, hleads⟩ := leads_fields_skip hslot bound parts hspells rest
  have hbehind : SpellsFieldsFrom false fields more := hmore
  exact hleads.fails (h hbehind (Nat.lt_of_succ_lt_succ hbound))

/-- A slot that is taken is not filled once more. -/
theorem fieldsFail_of_filled {slots : List (Slot Parts)} {slot : Slot Parts} {parts : Parts}
    (hslot : slots.find? (·.key == key) = some slot) (hfilled : slot.filled parts = true) :
    FieldsFail slots parts ((key, json) :: fields) := by
  intro first inner rest bound hspells hbound
  obtain ⟨bound, rfl⟩ := Nat.exists_eq_succ_of_ne_zero (Nat.ne_zero_of_lt hbound)
  obtain ⟨_, _, _, _, -, -, -, -, hkey⟩ := leads_fields_key slots bound parts hspells rest
  rw [hslot] at hkey
  dsimp only at hkey
  rw [if_pos hfilled] at hkey
  exact hkey.fails (fails_duplicate key _)

theorem fieldsFail_of_rejects {slots : List (Slot Parts)} {slot : Slot Parts} {parts : Parts}
    (hslot : slots.find? (·.key == key) = some slot) (hfree : slot.filled parts = false)
    (h : Rejects (slot.read parts) json) : FieldsFail slots parts ((key, json) :: fields) := by
  intro first inner rest bound hspells hbound
  obtain ⟨bound, rfl⟩ := Nat.exists_eq_succ_of_ne_zero (Nat.ne_zero_of_lt hbound)
  obtain ⟨blank, text, more, hblank, hvalue, hmore, hleads⟩ :=
    leads_fields_value hslot hfree bound hspells rest
  have hvalue := h hblank hvalue (delimited_fields hmore rest)
  exact hleads.fails (hvalue.bind _)

theorem fieldsFail_of_accepts {slots : List (Slot Parts)} {slot : Slot Parts} {parts filled : Parts}
    (hslot : slots.find? (·.key == key) = some slot) (hfree : slot.filled parts = false)
    (hread : Accepts (slot.read parts) json filled) (h : FieldsFail slots filled fields) :
    FieldsFail slots parts ((key, json) :: fields) := by
  intro first inner rest bound hspells hbound
  obtain ⟨bound, rfl⟩ := Nat.exists_eq_succ_of_ne_zero (Nat.ne_zero_of_lt hbound)
  obtain ⟨blank, text, more, hblank, hvalue, hmore, hleads⟩ :=
    leads_fields_value hslot hfree bound hspells rest
  have hvalue := hread hblank hvalue (delimited_fields hmore rest)
  have hbehind : SpellsFieldsFrom false fields more := hmore
  exact hleads.fails (hvalue.fails (h hbehind (Nat.lt_of_succ_lt_succ hbound)))

/-- The fields fill slots one by one, or the record fails in the middle of them. -/
theorem settles_fields {slots : List (Slot Parts)}
    (hslots : ∀ slot ∈ slots, ∀ parts, Settles (slot.read parts)) :
    ∀ (fields : List (String × Json)) (parts : Parts),
      (∃ gathered, Gathers slots parts fields gathered) ∨ FieldsFail slots parts fields := by
  intro fields
  induction fields with
  | nil => exact fun parts => Or.inl ⟨parts, .nil parts⟩
  | cons field fields ih =>
    obtain ⟨key, json⟩ := field
    intro parts
    cases hslot : slots.find? (·.key == key) with
    | none =>
      rcases ih parts with ⟨gathered, hgathers⟩ | hfails
      · exact Or.inl ⟨gathered, .skip hslot hgathers⟩
      · exact Or.inr (fieldsFail_of_skip hslot hfails)
    | some slot =>
      cases hfilled : slot.filled parts with
      | true => exact Or.inr (fieldsFail_of_filled hslot hfilled)
      | false =>
        rcases hslots slot (List.mem_of_find?_eq_some hslot) parts json with
          ⟨filled, haccepts⟩ | hrejects
        · rcases ih filled with ⟨gathered, hgathers⟩ | hfails
          · exact Or.inl ⟨gathered, .cons hslot hfilled haccepts hgathers⟩
          · exact Or.inr (fieldsFail_of_accepts hslot hfilled haccepts hfails)
        · exact Or.inr (fieldsFail_of_rejects hslot hfilled hrejects)

theorem rejects_record_of_fields {shape : Shape Parts Record}
    (h : FieldsFail shape.slots shape.none fields) : Rejects (record shape) (.object fields) := by
  intro blank cs rest hblank hspells _
  obtain ⟨inner, rfl, hinner⟩ := spellsFieldsFrom_of_object hspells
  refine (leads_record_object shape hblank (inner ++ rest)).fails ?_
  exact (h hinner (length_fields_le hinner rest)).bind _

/-- A record of which a slot is missing is refused at its end. -/
theorem rejects_record_of_missing {shape : Shape Parts Record} {gathered : Parts} {name : String}
    (h : Gathers shape.slots shape.none fields gathered)
    (hmissing : missing shape.slots gathered = some name) :
    Rejects (record shape) (.object fields) := by
  intro blank cs rest hblank hspells _
  obtain ⟨inner, rfl, hinner⟩ := spellsFieldsFrom_of_object hspells
  refine (leads_record_object shape hblank (inner ++ rest)).fails ?_
  refine (takes_fields h hinner (length_fields_le hinner rest)).fails ?_
  refine (takes_advance '\x7d' rest).fails ?_
  rw [hmissing]
  exact fails_fail _ rest

theorem rejects_record (harray : ∀ items, json ≠ .array items)
    (hobject : ∀ fields, json ≠ .object fields) (shape : Shape Parts Record) :
    Rejects (record shape) json := by
  refine rejects_of_opening fun c rest hc => ?_
  split
  · next heq => cases heq
  · next heq =>
    cases heq
    obtain ⟨items, hitems⟩ := opening_array hc
    exact absurd hitems (harray items)
  · next heq =>
    cases heq
    obtain ⟨fields, hfields⟩ := opening_object hc
    exact absurd hfields (hobject fields)
  · exact fails_wrongType _ _

theorem settles_record {shape : Shape Parts Record}
    (hslots : ∀ slot ∈ shape.slots, ∀ parts, Settles (slot.read parts)) :
    Settles (record shape) := by
  intro json
  by_cases harray : ∃ items, json = .array items
  · obtain ⟨items, rfl⟩ := harray
    exact settles_record_array shape hslots items
  · by_cases hobject : ∃ fields, json = .object fields
    · obtain ⟨fields, rfl⟩ := hobject
      rcases settles_fields hslots fields shape.none with ⟨gathered, hgathers⟩ | hfails
      · cases hmissing : missing shape.slots gathered with
        | none => exact Or.inl ⟨_, accepts_record hgathers hmissing⟩
        | some name => exact Or.inr (rejects_record_of_missing hgathers hmissing)
      · exact Or.inr (rejects_record_of_fields hfails)
    · exact Or.inr (rejects_record (fun items hitems => harray ⟨items, hitems⟩)
        (fun fields hfields => hobject ⟨fields, hfields⟩) shape)

theorem rejects_slot {reader : Reader α} (h : Rejects reader json) (key : String) (required : Bool)
    (get : Parts → Option α) (set : Parts → α → Parts) (parts : Parts) :
    Rejects ((Slot.of key required get set reader).read parts) json :=
  fun _ _ _ hblank hspells hrest => (h hblank hspells hrest).bind _

theorem settles_slot {reader : Reader α} (h : Settles reader) (key : String) (required : Bool)
    (get : Parts → Option α) (set : Parts → α → Parts) (parts : Parts) :
    Settles ((Slot.of key required get set reader).read parts) := by
  intro json
  rcases h json with ⟨value, haccepts⟩ | hrejects
  · exact Or.inl ⟨set parts value, accepts_slot haccepts key required get set parts⟩
  · exact Or.inr (rejects_slot hrejects key required get set parts)

end Reader

/-! ## Whole texts -/

/-- A text of a refused value is not parsed. -/
theorem parse_of_rejects {reader : Reader α} {text : String} (h : Rejects reader json)
    (hspells : SpellsText json text) : ∃ error, parse reader text = .error error := by
  obtain ⟨before, cs, behind, hbefore, hvalue, hbehind, htext⟩ := hspells
  have hwhole : Fails (do let result ← reader; Reader.finish; return result : Reader α)
      text.toList := by
    rw [htext]
    exact (h hbefore hvalue (delimited_of_blank hbehind)).bind _
  obtain ⟨problem, left, hfails⟩ := hwhole 0
  refine ⟨problem.locate text.toList, ?_⟩
  unfold parse
  rw [hfails]

end StructVault.Json

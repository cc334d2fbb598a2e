import StructVault.Proofs.Json.Settling

/-!
# Records by the values of their fields

The fields of an object may stand in any order, among others that nobody knows. What counts is which
values it has for each key of the record (`valuesOf`):

- `accepts_record_of_fills`: with one value for each slot that has to be filled, and one or none for the
  others, the record is accepted. What has been read so far is known by the set of keys that were seen.
- `rejects_record_of_lacking`: with no value for a slot that has to be filled, it is refused.
- `rejects_record_of_value`: with a value for a slot that the slot refuses, it is refused.
-/

namespace StructVault.Json

open Reader

variable {α Parts Record : Type} {json : Json} {key : String} {fields : List (String × Json)}
  {seen : List String}

/-! ## The values for a key -/

/-- The values that an object with these fields has for a key. -/
def valuesOf (key : String) (fields : List (String × Json)) : List Json :=
  (fields.filter (·.1 == key)).map (·.2)

@[simp] theorem valuesOf_nil (key : String) : valuesOf key [] = [] := rfl

@[simp] theorem valuesOf_cons_self (key : String) (json : Json) (fields : List (String × Json)) :
    valuesOf key ((key, json) :: fields) = json :: valuesOf key fields := by
  simp [valuesOf]

theorem valuesOf_cons_of_ne {other : String} (h : other ≠ key) (json : Json)
    (fields : List (String × Json)) :
    valuesOf key ((other, json) :: fields) = valuesOf key fields := by
  simp [valuesOf, h]

/-! ## Parts that have been read -/

/-- The value, if its key is among those that were seen. -/
def kept (seen : List String) (key : String) (value : α) : Option α :=
  if key ∈ seen then some value else none

theorem isSome_kept (seen : List String) (key : String) (value : α) :
    (kept seen key value).isSome = decide (key ∈ seen) := by
  unfold kept
  split
  · next hseen => simp [hseen]
  · next hseen => simp [hseen]

/-- A value that was not seen is the default. -/
theorem getD_kept {value default : α} (h : key ∈ seen ∨ value = default) :
    (kept seen key value).getD default = value := by
  unfold kept
  split
  · rfl
  · next hseen => exact (h.resolve_left hseen).symm

theorem mem_seen_of_one {values : List Json} (hseen : values ≠ [] → key ∈ seen)
    (h : values = [json]) : key ∈ seen := by
  refine hseen ?_
  rw [h]
  exact List.cons_ne_nil _ _

@[simp] theorem key_slot (key : String) (required : Bool) (get : Parts → Option α)
    (set : Parts → α → Parts) (reader : Reader α) :
    (Slot.of key required get set reader).key = key := rfl

/-- The slot is filled from these values, of which there is one, or none if it may be left empty.
`partsOf` gives the parts of the record when the keys in the list have been seen. -/
structure Slot.Fills (slot : Slot Parts) (partsOf : List String → Parts) (values : List Json) :
    Prop where
  one : values.length ≤ 1
  required : slot.required = true → values ≠ []
  filled : ∀ seen, slot.filled (partsOf seen) = decide (slot.key ∈ seen)
  read : ∀ json ∈ values, ∀ seen,
    Accepts (slot.read (partsOf seen)) json (partsOf (slot.key :: seen))

theorem fills_slot {reader : Reader α} {value : α} {required : Bool} {get : Parts → Option α}
    {set : Parts → α → Parts} {partsOf : List String → Parts} {values : List Json}
    (hget : ∀ seen, get (partsOf seen) = kept seen key value)
    (hset : ∀ seen, set (partsOf seen) value = partsOf (key :: seen))
    (h : (∃ json, values = [json] ∧ Accepts reader json value) ∨ values = [] ∧ required = false) :
    (Slot.of key required get set reader).Fills partsOf values := by
  have hfilled (seen) : (get (partsOf seen)).isSome = decide (key ∈ seen) := by
    rw [hget, isSome_kept]
  rcases h with ⟨json, rfl, haccepts⟩ | ⟨rfl, rfl⟩
  · refine ⟨Nat.le_refl 1, fun _ => List.cons_ne_nil _ _, hfilled, fun other hother seen => ?_⟩
    obtain rfl := List.mem_singleton.mp hother
    have hread := accepts_slot haccepts key required get set (partsOf seen)
    rwa [hset] at hread
  · exact ⟨Nat.zero_le 1, fun h => Bool.noConfusion h, hfilled, fun _ h => nomatch h⟩

/-! ## Objects that fill a record -/

theorem key_of_find {slots : List (Slot Parts)} {slot : Slot Parts}
    (h : slots.find? (·.key == key) = some slot) : slot.key = key := by
  have hkey := List.find?_some h
  exact beq_iff_eq.mp hkey

/-- Each field with a slot is read into it, and then its key has been seen. -/
theorem gathers_of_fills {slots : List (Slot Parts)} {partsOf : List String → Parts}
    (hfilled : ∀ slot ∈ slots, ∀ seen, slot.filled (partsOf seen) = decide (slot.key ∈ seen)) :
    ∀ (fields : List (String × Json)) (seen : List String),
      (∀ slot ∈ slots, (valuesOf slot.key fields).length ≤ 1
        ∧ (slot.key ∈ seen → valuesOf slot.key fields = [])
        ∧ ∀ json ∈ valuesOf slot.key fields, ∀ seen,
          Accepts (slot.read (partsOf seen)) json (partsOf (slot.key :: seen))) →
      ∃ last, Gathers slots (partsOf seen) fields (partsOf last)
        ∧ ∀ slot ∈ slots, slot.key ∈ last ↔ slot.key ∈ seen ∨ valuesOf slot.key fields ≠ [] := by
  intro fields
  induction fields with
  | nil => exact fun seen _ => ⟨seen, .nil _, by simp⟩
  | cons field fields ih =>
    obtain ⟨key, json⟩ := field
    intro seen h
    cases hslot : slots.find? (·.key == key) with
    | none =>
      -- no slot has this key, so no slot's values have changed
      have hvalues (slot) (hmem : slot ∈ slots) :
          valuesOf slot.key ((key, json) :: fields) = valuesOf slot.key fields := by
        have hne := List.find?_eq_none.mp hslot slot hmem
        exact valuesOf_cons_of_ne (fun heq => hne (beq_iff_eq.mpr heq.symm)) json fields
      obtain ⟨last, hgathers, hlast⟩ := ih seen fun slot hmem => by
        rw [← hvalues slot hmem]
        exact h slot hmem
      refine ⟨last, .skip hslot hgathers, fun slot hmem => ?_⟩
      rw [hvalues slot hmem]
      exact hlast slot hmem
    | some slot =>
      obtain rfl := key_of_find hslot
      have hmem := List.mem_of_find?_eq_some hslot
      obtain ⟨hone, hnew, hread⟩ := h slot hmem
      rw [valuesOf_cons_self] at hone hnew hread
      -- the slot has this value alone: its key was not seen before and is not behind
      have hunseen : slot.key ∉ seen := fun hseen => List.cons_ne_nil _ _ (hnew hseen)
      have hnone : valuesOf slot.key fields = [] :=
        List.length_eq_zero_iff.mp (Nat.le_zero.mp (Nat.le_of_succ_le_succ hone))
      have hfree : slot.filled (partsOf seen) = false := by
        rw [hfilled slot hmem, decide_eq_false_iff_not]
        exact hunseen
      obtain ⟨last, hgathers, hlast⟩ := ih (slot.key :: seen) fun other hother => by
        by_cases hkey : other.key = slot.key
        · rw [hkey, hnone]
          exact ⟨Nat.zero_le 1, fun _ => rfl, fun _ h => nomatch h⟩
        · have hvalues := h other hother
          rw [valuesOf_cons_of_ne (Ne.symm hkey)] at hvalues
          refine ⟨hvalues.1, fun hseen => hvalues.2.1 ?_, hvalues.2.2⟩
          exact (List.mem_cons.mp hseen).resolve_left hkey
      refine ⟨last, .cons hslot hfree (hread json List.mem_cons_self seen) hgathers,
        fun other hother => ?_⟩
      rw [hlast other hother]
      by_cases hkey : other.key = slot.key
      · rw [hkey]
        simp
      · rw [valuesOf_cons_of_ne (Ne.symm hkey)]
        simp [hkey]

/-- **Records** are accepted whatever the order of their fields and whatever stands between them. -/
theorem accepts_record_of_fills {shape : Shape Parts Record} {partsOf : List String → Parts}
    {value : Record} (hnone : shape.none = partsOf [])
    (h : ∀ slot ∈ shape.slots, slot.Fills partsOf (valuesOf slot.key fields))
    (hmake : ∀ seen, (∀ slot ∈ shape.slots, valuesOf slot.key fields ≠ [] → slot.key ∈ seen) →
      shape.make (partsOf seen) = value) :
    Accepts (record shape) (.object fields) value := by
  obtain ⟨last, hgathers, hlast⟩ := gathers_of_fills (fun slot hmem => (h slot hmem).filled) fields
    [] fun slot hmem =>
      ⟨(h slot hmem).one, fun hseen => absurd hseen List.not_mem_nil, (h slot hmem).read⟩
  have hseen (slot) (hmem : slot ∈ shape.slots) (hvalues : valuesOf slot.key fields ≠ []) :
      slot.key ∈ last := (hlast slot hmem).mpr (Or.inr hvalues)
  have hmissing : missing shape.slots (partsOf last) = none := by
    refine Option.map_eq_none_iff.mpr (List.find?_eq_none.mpr fun slot hmem => ?_)
    by_cases hrequired : slot.required = true
    · have hfilled := hseen slot hmem ((h slot hmem).required hrequired)
      simp [(h slot hmem).filled, hfilled]
    · simp [hrequired]
  rw [← hnone] at hgathers
  have haccepts := accepts_record hgathers hmissing
  rwa [hmake last hseen] at haccepts

/-! ## Objects that do not -/

/-- What has to hold of the slots of a record so that what is read into one of them depends on the
values for its key alone. -/
structure Shape.Sound (shape : Shape Parts Record) : Prop where
  empty : ∀ slot ∈ shape.slots, slot.filled shape.none = false
  settles : ∀ slot ∈ shape.slots, ∀ parts, Settles (slot.read parts)
  apart : ∀ slot ∈ shape.slots, ∀ other ∈ shape.slots, other.key ≠ slot.key →
    ∀ ⦃parts filled json⦄, Accepts (other.read parts) json filled →
      slot.filled filled = slot.filled parts

/-- Only its own values fill a slot. -/
theorem filled_of_gathers {slots : List (Slot Parts)} {slot : Slot Parts} {parts gathered : Parts}
    (hapart : ∀ other ∈ slots, other.key ≠ slot.key → ∀ ⦃parts filled json⦄,
      Accepts (other.read parts) json filled → slot.filled filled = slot.filled parts)
    (h : Gathers slots parts fields gathered) (hvalues : valuesOf slot.key fields = []) :
    slot.filled gathered = slot.filled parts := by
  have hne {key json fields} (h : valuesOf slot.key ((key, json) :: fields) = []) :
      key ≠ slot.key := by
    rintro rfl
    rw [valuesOf_cons_self] at h
    cases h
  induction h with
  | nil parts => rfl
  | skip hslot hfields ih =>
    rw [valuesOf_cons_of_ne (hne hvalues)] at hvalues
    exact ih hvalues
  | @cons _ _ _ key _ other _ hother hfree hread hfields ih =>
    have hkey := hne hvalues
    rw [valuesOf_cons_of_ne hkey] at hvalues
    rw [← key_of_find hother] at hkey
    rw [ih hvalues]
    exact hapart other (List.mem_of_find?_eq_some hother) hkey hread

/-- Each value for the key of a slot was read into it. -/
theorem accepts_of_gathers {slots : List (Slot Parts)} {slot : Slot Parts} {parts gathered : Parts}
    (hslot : slots.find? (·.key == key) = some slot) (h : Gathers slots parts fields gathered)
    (hjson : json ∈ valuesOf key fields) :
    ∃ before filled, Accepts (slot.read before) json filled := by
  induction h with
  | nil parts => cases hjson
  | @skip _ _ other _ _ hother hfields ih =>
    have hkey : other ≠ key := by
      rintro rfl
      cases hslot.symm.trans hother
    rw [valuesOf_cons_of_ne hkey] at hjson
    exact ih hjson
  | @cons before filled _ other value _ _ hother hfree hread hfields ih =>
    by_cases hkey : other = key
    · subst hkey
      cases hslot.symm.trans hother
      rw [valuesOf_cons_self] at hjson
      rcases List.mem_cons.mp hjson with rfl | hjson
      · exact ⟨before, filled, hread⟩
      · exact ih hjson
    · rw [valuesOf_cons_of_ne hkey] at hjson
      exact ih hjson

/-- An object is refused that has no value for a slot that has to be filled. -/
theorem rejects_record_of_lacking {shape : Shape Parts Record} {slot : Slot Parts}
    (hsound : shape.Sound) (hslot : slot ∈ shape.slots) (hrequired : slot.required = true)
    (hvalues : valuesOf slot.key fields = []) : Rejects (record shape) (.object fields) := by
  rcases settles_fields hsound.settles fields shape.none with ⟨gathered, hgathers⟩ | hfails
  · have hfilled := filled_of_gathers (hsound.apart slot hslot) hgathers hvalues
    rw [hsound.empty slot hslot] at hfilled
    cases hmissing : missing shape.slots gathered with
    | some name => exact rejects_record_of_missing hgathers hmissing
    | none =>
      have hfound := List.find?_eq_none.mp (Option.map_eq_none_iff.mp hmissing) slot hslot
      simp [hrequired, hfilled] at hfound
  · exact rejects_record_of_fields hfails

/-- An object is refused that has a value for a slot that the slot refuses. -/
theorem rejects_record_of_value {shape : Shape Parts Record} {slot : Slot Parts}
    (hsound : shape.Sound) (hslot : shape.slots.find? (·.key == key) = some slot)
    (hjson : json ∈ valuesOf key fields) (hrejects : ∀ parts, Rejects (slot.read parts) json) :
    Rejects (record shape) (.object fields) := by
  rcases settles_fields hsound.settles fields shape.none with ⟨gathered, hgathers⟩ | hfails
  · obtain ⟨before, filled, haccepts⟩ := accepts_of_gathers hslot hgathers hjson
    exact absurd (hrejects before) (not_rejects_of_accepts haccepts)
  · exact rejects_record_of_fields hfails

/-- What a slot reads is put into its own place. -/
theorem eq_set_of_accepts {reader : Reader α} {required : Bool} {get : Parts → Option α}
    {set : Parts → α → Parts} {parts filled : Parts}
    (h : Accepts ((Slot.of key required get set reader).read parts) json filled) :
    ∃ value, filled = set parts value := by
  obtain ⟨behind, hread⟩ := h blank_nil (spells_compact json) delimited_nil 0
  obtain ⟨value, left, -, hset⟩ := Steps.bind_eq_ok.mp hread
  cases hset
  exact ⟨value, rfl⟩

end StructVault.Json

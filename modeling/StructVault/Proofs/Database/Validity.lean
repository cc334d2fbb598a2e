import StructVault.Database.Validity
import StructVault.Proofs.Database.Restore

/-!
# Validity

A list of stored structures has no first breach exactly when it is valid
(`firstBreach_eq_none_iff`). Validity is about names only, and neither capturing nor laying out
changes a name or makes two of one, so what was captured from a valid database is valid again when
it is laid out (`valid_layOut_contents`).
-/

namespace StructVault

variable {structures : List StoredStructure}

theorem firstRepeated_eq_none_iff : ∀ {seen names : List String},
    firstRepeated seen names = none ↔ (∀ name ∈ names, name ∉ seen) ∧ names.Nodup
  | seen, [] => by simp [firstRepeated]
  | seen, name :: rest => by
    unfold firstRepeated
    by_cases hseen : name ∈ seen
    · simp [hseen]
    · rw [if_neg (by simpa using hseen), firstRepeated_eq_none_iff, List.nodup_cons]
      constructor
      · rintro ⟨hfresh, hnodup⟩
        refine ⟨?_, fun hrest => hfresh name hrest List.mem_cons_self, hnodup⟩
        intro other hother
        rcases List.mem_cons.mp hother with rfl | hrest
        · exact hseen
        · exact fun hold => hfresh other hrest (List.mem_cons_of_mem _ hold)
      · rintro ⟨hfresh, hname, hnodup⟩
        refine ⟨fun other hrest hold => ?_, hnodup⟩
        rcases List.mem_cons.mp hold with rfl | hold
        · exact hname hrest
        · exact hfresh other (List.mem_cons_of_mem _ hrest) hold

theorem valid_nil : Valid [] where
  named _ h := absurd h List.not_mem_nil
  structures_distinct := List.nodup_nil
  members_distinct _ h := absurd h List.not_mem_nil

theorem valid_cons_iff {stored : StoredStructure} : Valid (stored :: structures) ↔
    stored.name ≠ "" ∧ (stored.members.map (·.name)).Nodup
      ∧ stored.name ∉ structures.map (·.name) ∧ Valid structures := by
  constructor
  · rintro ⟨hnamed, hstructures, hmembers⟩
    obtain ⟨hname, hrest⟩ := List.nodup_cons.mp hstructures
    exact ⟨hnamed stored List.mem_cons_self, hmembers stored List.mem_cons_self, hname,
      fun s hs => hnamed s (List.mem_cons_of_mem _ hs), hrest,
      fun s hs => hmembers s (List.mem_cons_of_mem _ hs)⟩
  · rintro ⟨hnamed, hmembers, hname, hvalid⟩
    exact ⟨List.forall_mem_cons.mpr ⟨hnamed, hvalid.named⟩,
      List.nodup_cons.mpr ⟨hname, hvalid.structures_distinct⟩,
      List.forall_mem_cons.mpr ⟨hmembers, hvalid.members_distinct⟩⟩

/-- The scan finds nothing exactly when the list is valid and repeats no name seen before it. -/
theorem firstBreachAfter_eq_none_iff : ∀ {seen : List String} {structures : List StoredStructure},
    firstBreachAfter seen structures = none ↔
      Valid structures ∧ ∀ stored ∈ structures, stored.name ∉ seen
  | seen, [] => by simp [firstBreachAfter, valid_nil]
  | seen, stored :: rest => by
    rw [valid_cons_iff]
    unfold firstBreachAfter
    by_cases hempty : stored.name = ""
    · simp [hempty]
    · by_cases hseen : stored.name ∈ seen
      · simp [hempty, hseen]
      · rw [if_neg (by simpa using hempty), if_neg (by simpa using hseen)]
        cases hrepeated : firstRepeated [] (stored.members.map (·.name)) with
        | some member =>
          have hmembers : ¬ (stored.members.map (·.name)).Nodup := fun hnodup => by
            rw [firstRepeated_eq_none_iff.mpr ⟨fun _ _ => List.not_mem_nil, hnodup⟩] at hrepeated
            cases hrepeated
          simp [hmembers]
        | none =>
          have hmembers := (firstRepeated_eq_none_iff.mp hrepeated).2
          show firstBreachAfter (stored.name :: seen) rest = none ↔ _
          rw [firstBreachAfter_eq_none_iff]
          -- the name joins those that were seen: that the rest avoids it is what distinct means
          constructor
          · rintro ⟨hvalid, hfresh⟩
            refine ⟨⟨hempty, hmembers, ?_, hvalid⟩, ?_⟩
            · intro hname
              obtain ⟨other, hother, heq⟩ := List.mem_map.mp hname
              exact hfresh other hother (heq ▸ List.mem_cons_self)
            · exact List.forall_mem_cons.mpr
                ⟨hseen, fun s hs hold => hfresh s hs (List.mem_cons_of_mem _ hold)⟩
          · rintro ⟨⟨-, -, hname, hvalid⟩, hfresh⟩
            refine ⟨hvalid, fun s hs hold => ?_⟩
            rcases List.mem_cons.mp hold with heq | hold
            · exact hname (heq ▸ List.mem_map_of_mem hs)
            · exact hfresh s (List.mem_cons_of_mem _ hs) hold

/-- **The scan decides validity.** -/
theorem firstBreach_eq_none_iff : firstBreach structures = none ↔ Valid structures := by
  unfold firstBreach
  rw [firstBreachAfter_eq_none_iff]
  exact ⟨fun h => h.1, fun h => ⟨h, fun _ _ => List.not_mem_nil⟩⟩

theorem ofStored_eq_ok {database : Database} : Database.ofStored structures = .ok database ↔
    Valid structures ∧ database = { structures } := by
  rw [← firstBreach_eq_none_iff]
  unfold Database.ofStored
  cases firstBreach structures with
  | none => simp [eq_comm]
  | some breach => simp

theorem Database.ofStructures_eq_ok {structures : List Structure} {database : Database} :
    ofStructures structures = .ok database ↔ Valid (structures.map StoredStructure.layOut)
      ∧ database = { structures := structures.map StoredStructure.layOut } :=
  ofStored_eq_ok

/-! ## Names that survive -/

theorem StoredStructure.map_name_placeFrom : ∀ (offset : ByteSize) (members : List Member),
    (placeFrom offset members).map (·.name) = members.map (·.name)
  | _, [] => rfl
  | offset, member :: rest => by
    show member.name :: _ = member.name :: _
    rw [map_name_placeFrom]

/-- Capturing sorts the members of a structure, so it keeps their names but not their order. -/
theorem StoredStructure.perm_name_contents (stored : StoredStructure) :
    (stored.contents.members.map (·.name)).Perm (stored.members.map (·.name)) := by
  rw [stored.contents_members, List.map_map]
  exact stored.perm_listed.map _

/-- What is captured from a valid database can be stored again. -/
theorem valid_layOut_contents {database : Database} (h : Valid database.structures) :
    Valid (database.contents.map StoredStructure.layOut) := by
  have hform : database.contents.map StoredStructure.layOut
      = database.structures.map fun stored => StoredStructure.layOut stored.contents := by
    show (database.structures.map _).map _ = _
    rw [List.map_map]
    rfl
  rw [hform]
  constructor
  · intro laid hlaid
    obtain ⟨stored, hstored, rfl⟩ := List.mem_map.mp hlaid
    exact h.named stored hstored
  · rw [List.map_map]
    exact h.structures_distinct
  · intro laid hlaid
    obtain ⟨stored, hstored, rfl⟩ := List.mem_map.mp hlaid
    show ((StoredStructure.placeFrom 0 stored.contents.members).map _).Nodup
    rw [StoredStructure.map_name_placeFrom, stored.perm_name_contents.nodup_iff]
    exact h.members_distinct stored hstored

end StructVault

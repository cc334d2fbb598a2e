import StructVault.Proofs.Database.Fields

/-!
# Databases and their texts

The JSON value of a database is one of the objects that stand for it (`exists_describedBy`), with all
its fields there. So whatever text it has, it is read as that database (`accepts_toJson`), and what is
printed is one of these texts (`ofJsonText_jsonText`). Nothing is asked of the database: its names may
be empty or repeated, its members in any order, and its offsets any numbers of 64 bits.
-/

namespace StructVault

open Json Reader

/-- A list of values is printed as a list of objects if each value is printed as one. -/
theorem exists_objects {α : Type} {toJson : α → Json} {describes : α → List (String × Json) → Prop}
    (h : ∀ value, ∃ fields, toJson value = .object fields ∧ describes value fields)
    (values : List α) : ∃ objects : List (List (String × Json)),
      values.map toJson = objects.map .object ∧ List.Forall₂ describes values objects := by
  choose fieldsOf heq hdescribes using h
  refine ⟨values.map fieldsOf, ?_, ?_⟩
  · rw [List.map_map]
    exact List.map_congr_left fun value _ => heq value
  · exact List.forall₂_map_right_iff.mpr (List.forall₂_same.mpr fun value _ => hdescribes value)

theorem StoredMember.exists_describedBy (stored : StoredMember) :
    ∃ fields, stored.toJson = .object fields ∧ stored.DescribedBy fields :=
  ⟨_, rfl, rfl, rfl, .inl rfl, .inl rfl, rfl⟩

theorem StoredStructure.exists_describedBy (stored : StoredStructure) :
    ∃ fields, stored.toJson = .object fields ∧ stored.DescribedBy fields := by
  obtain ⟨objects, hmembers, hall⟩ :=
    exists_objects StoredMember.exists_describedBy stored.members
  unfold toJson
  rw [hmembers]
  exact ⟨_, rfl, rfl, .inl rfl, rfl, .inl ⟨objects, rfl, hall⟩⟩

namespace Database

theorem exists_describedBy (database : Database) :
    ∃ fields, database.toJson = .object fields ∧ database.DescribedBy fields := by
  obtain ⟨objects, hstructures, hall⟩ :=
    exists_objects StoredStructure.exists_describedBy database.structures
  unfold toJson
  rw [hstructures]
  exact ⟨_, rfl, ⟨.inl ⟨objects, rfl, hall⟩⟩⟩

theorem accepts_toJson (database : Database) :
    Accepts (record databaseShape) database.toJson database := by
  obtain ⟨fields, hfields, hdescribed⟩ := database.exists_describedBy
  rw [hfields]
  exact database.accepts_fields fields hdescribed

/-- A database is read from every text of its JSON value. -/
theorem ofJsonText_of_spells {database : Database} {text : String}
    (h : SpellsText database.toJson text) : ofJsonText text = .ok database :=
  parse_of_accepts database.accepts_toJson h

/-- **Printed databases** are read back, valid or not. -/
theorem ofJsonText_jsonText (database : Database) : ofJsonText database.jsonText = .ok database :=
  ofJsonText_of_spells (spells_prettyText database.toJson)

end Database

end StructVault

import StructVault.Database.Json
import StructVault.Proofs.Json.Fields

/-!
# Databases and their fields

Nobody has to write the fields of a database in the order in which they are printed, nor those that
have their default. `DescribedBy` says which objects stand for a stored member, a stored structure and
a database: the fields in any order, among others that nobody knows, each known one once, and those with
a default maybe left out. Such an object is read as what it stands for (`ofJsonText_of_fields`), and an
object is refused that lacks a field without a default, wherever it is (`Lacking`).
-/

namespace StructVault

open Json Reader

/-! ## Objects that stand for a database -/

variable {fields : List (String × Json)}

/-- An object with these fields stands for the stored member. -/
structure StoredMember.DescribedBy (stored : StoredMember) (fields : List (String × Json)) :
    Prop where
  offset : valuesOf "offset" fields = [.nat stored.offset.toNat]
  name : valuesOf "name" fields = [.string stored.name]
  typeName : valuesOf "type_name" fields = [optionalString stored.typeName]
    ∨ valuesOf "type_name" fields = [] ∧ stored.typeName = none
  comment : valuesOf "comment" fields = [.string stored.comment]
    ∨ valuesOf "comment" fields = [] ∧ stored.comment = ""
  size : valuesOf "size_bytes" fields = [.nat stored.size.toNat]

/-- An object with these fields stands for the stored structure. -/
structure StoredStructure.DescribedBy (stored : StoredStructure) (fields : List (String × Json)) :
    Prop where
  name : valuesOf "name" fields = [.string stored.name]
  comment : valuesOf "comment" fields = [.string stored.comment]
    ∨ valuesOf "comment" fields = [] ∧ stored.comment = ""
  size : valuesOf "size_bytes" fields = [.nat stored.size.toNat]
  members : (∃ objects : List (List (String × Json)),
      valuesOf "members" fields = [.array (objects.map .object)]
        ∧ List.Forall₂ StoredMember.DescribedBy stored.members objects)
    ∨ valuesOf "members" fields = [] ∧ stored.members = []

/-- An object with these fields stands for the database. -/
structure Database.DescribedBy (database : Database) (fields : List (String × Json)) : Prop where
  structures : (∃ objects : List (List (String × Json)),
      valuesOf "structures" fields = [.array (objects.map .object)]
        ∧ List.Forall₂ StoredStructure.DescribedBy database.structures objects)
    ∨ valuesOf "structures" fields = [] ∧ database.structures = []

/-- A field of a stored member that has no default has been left out. -/
def StoredMember.Lacking (fields : List (String × Json)) : Prop :=
  valuesOf "offset" fields = [] ∨ valuesOf "name" fields = [] ∨ valuesOf "size_bytes" fields = []

/-- A field that has no default has been left out of a stored structure or one of its members. -/
def StoredStructure.Lacking (fields : List (String × Json)) : Prop :=
  valuesOf "name" fields = [] ∨ valuesOf "size_bytes" fields = []
    ∨ ∃ items, .array items ∈ valuesOf "members" fields
      ∧ ∃ inner, .object inner ∈ items ∧ StoredMember.Lacking inner

/-- A field that has no default has been left out somewhere. -/
def Database.Lacking (fields : List (String × Json)) : Prop :=
  ∃ items, .array items ∈ valuesOf "structures" fields
    ∧ ∃ inner, .object inner ∈ items ∧ StoredStructure.Lacking inner

/-! ## Objects that are read -/

/-- A list of objects is accepted as what they stand for. -/
theorem accepts_list_of_objects {α : Type} {reader : Reader α}
    {describes : α → List (String × Json) → Prop}
    (h : ∀ value fields, describes value fields → Accepts reader (.object fields) value)
    {values : List α} {objects : List (List (String × Json))}
    (hall : List.Forall₂ describes values objects) :
    Accepts (list reader) (.array (objects.map .object)) values := by
  refine accepts_list (List.forall₂_map_left_iff.mpr (List.Forall₂.flip ?_))
  exact hall.imp h

theorem accepts_optionalString : ∀ typeName : Option String,
    Accepts optionalText (optionalString typeName) typeName
  | none => accepts_optionalText_null
  | some name => accepts_optionalText_string name

/-- The parts of a stored member when these keys have been seen. -/
def StoredMember.partsOf (stored : StoredMember) (seen : List String) : StoredMemberParts where
  offset := kept seen "offset" stored.offset
  name := kept seen "name" stored.name
  typeName := kept seen "type_name" stored.typeName
  comment := kept seen "comment" stored.comment
  size := kept seen "size_bytes" stored.size

theorem StoredMember.accepts_fields (stored : StoredMember) (fields : List (String × Json))
    (h : stored.DescribedBy fields) : Accepts (record storedMemberShape) (.object fields) stored := by
  have hnone : storedMemberShape.none = stored.partsOf [] := rfl
  refine accepts_record_of_fills hnone ?_ fun seen hseen => ?_
  · simp only [storedMemberShape, List.forall_mem_cons]
    refine ⟨?offset, ?name, ?typeName, ?comment, ?size, List.forall_mem_nil _⟩
    case offset =>
      refine fills_slot (fun _ => rfl) (fun seen => ?_) (.inl ⟨_, h.offset, accepts_word _⟩)
      simp [partsOf, kept]
    case name =>
      refine fills_slot (fun _ => rfl) (fun seen => ?_) (.inl ⟨_, h.name, accepts_text _⟩)
      simp [partsOf, kept]
    case typeName =>
      refine fills_slot (fun _ => rfl) (fun seen => ?_) (h.typeName.imp
        (fun hone => ⟨_, hone, accepts_optionalString _⟩) (fun hnone => ⟨hnone.1, rfl⟩))
      simp [partsOf, kept]
    case comment =>
      refine fills_slot (fun _ => rfl) (fun seen => ?_) (h.comment.imp
        (fun hone => ⟨_, hone, accepts_text _⟩) (fun hnone => ⟨hnone.1, rfl⟩))
      simp [partsOf, kept]
    case size =>
      refine fills_slot (fun _ => rfl) (fun seen => ?_) (.inl ⟨_, h.size, accepts_word _⟩)
      simp [partsOf, kept]
  · simp only [storedMemberShape, List.forall_mem_cons, key_slot] at hseen
    obtain ⟨hoffset, hname, htypeName, hcomment, hsize, -⟩ := hseen
    simp only [storedMemberShape, partsOf]
    rw [getD_kept (.inl (mem_seen_of_one hoffset h.offset)),
      getD_kept (.inl (mem_seen_of_one hname h.name)),
      getD_kept (h.typeName.imp (mem_seen_of_one htypeName) And.right),
      getD_kept (h.comment.imp (mem_seen_of_one hcomment) And.right),
      getD_kept (.inl (mem_seen_of_one hsize h.size))]

/-- The parts of a stored structure when these keys have been seen. -/
def StoredStructure.partsOf (stored : StoredStructure) (seen : List String) :
    StoredStructureParts where
  name := kept seen "name" stored.name
  comment := kept seen "comment" stored.comment
  size := kept seen "size_bytes" stored.size
  members := kept seen "members" stored.members

theorem StoredStructure.accepts_fields (stored : StoredStructure) (fields : List (String × Json))
    (h : stored.DescribedBy fields) :
    Accepts (record storedStructureShape) (.object fields) stored := by
  have hnone : storedStructureShape.none = stored.partsOf [] := rfl
  refine accepts_record_of_fills hnone ?_ fun seen hseen => ?_
  · simp only [storedStructureShape, List.forall_mem_cons]
    refine ⟨?name, ?comment, ?size, ?members, List.forall_mem_nil _⟩
    case name =>
      refine fills_slot (fun _ => rfl) (fun seen => ?_) (.inl ⟨_, h.name, accepts_text _⟩)
      simp [partsOf, kept]
    case comment =>
      refine fills_slot (fun _ => rfl) (fun seen => ?_) (h.comment.imp
        (fun hone => ⟨_, hone, accepts_text _⟩) (fun hnone => ⟨hnone.1, rfl⟩))
      simp [partsOf, kept]
    case size =>
      refine fills_slot (fun _ => rfl) (fun seen => ?_) (.inl ⟨_, h.size, accepts_word _⟩)
      simp [partsOf, kept]
    case members =>
      refine fills_slot (fun _ => rfl) (fun seen => ?_) (h.members.imp
        (fun ⟨_, hone, hall⟩ => ⟨_, hone, accepts_list_of_objects StoredMember.accepts_fields hall⟩)
        (fun hnone => ⟨hnone.1, rfl⟩))
      simp [partsOf, kept]
  · simp only [storedStructureShape, List.forall_mem_cons, key_slot] at hseen
    obtain ⟨hname, hcomment, hsize, hmembers, -⟩ := hseen
    simp only [storedStructureShape, partsOf]
    rw [getD_kept (.inl (mem_seen_of_one hname h.name)),
      getD_kept (h.comment.imp (mem_seen_of_one hcomment) And.right),
      getD_kept (.inl (mem_seen_of_one hsize h.size)),
      getD_kept (h.members.imp (fun ⟨_, hone, _⟩ => mem_seen_of_one hmembers hone) And.right)]

/-- The parts of a database when these keys have been seen. -/
def Database.partsOf (database : Database) (seen : List String) : DatabaseParts where
  structures := kept seen "structures" database.structures

theorem Database.accepts_fields (database : Database) (fields : List (String × Json))
    (h : database.DescribedBy fields) :
    Accepts (record databaseShape) (.object fields) database := by
  have hnone : databaseShape.none = database.partsOf [] := rfl
  refine accepts_record_of_fills hnone ?_ fun seen hseen => ?_
  · simp only [databaseShape, List.forall_mem_singleton]
    refine fills_slot (fun _ => rfl) (fun seen => ?_) (h.structures.imp
      (fun ⟨_, hone, hall⟩ => ⟨_, hone, accepts_list_of_objects StoredStructure.accepts_fields hall⟩)
      (fun hnone => ⟨hnone.1, rfl⟩))
    simp [partsOf, kept]
  · simp only [databaseShape, List.forall_mem_singleton, key_slot] at hseen
    simp only [databaseShape, partsOf]
    rw [getD_kept (h.structures.imp (fun ⟨_, hone, _⟩ => mem_seen_of_one hseen hone) And.right)]

/-! ## Objects that are refused -/

theorem sound_storedMemberShape : storedMemberShape.Sound where
  empty := by simp [storedMemberShape, Slot.of]
  settles := by
    simp only [storedMemberShape, List.forall_mem_cons]
    exact ⟨settles_slot settles_word _ _ _ _, settles_slot settles_text _ _ _ _,
      settles_slot settles_optionalText _ _ _ _, settles_slot settles_text _ _ _ _,
      settles_slot settles_word _ _ _ _, List.forall_mem_nil _⟩
  apart := by
    intro slot hslot other hother hne parts filled json haccepts
    simp only [storedMemberShape, List.mem_cons, List.not_mem_nil, or_false] at hslot hother
    rcases hslot with rfl | rfl | rfl | rfl | rfl <;>
      rcases hother with rfl | rfl | rfl | rfl | rfl <;>
      first
      | exact absurd rfl hne
      | obtain ⟨_, rfl⟩ := eq_set_of_accepts haccepts
        rfl

theorem sound_storedStructureShape : storedStructureShape.Sound where
  empty := by simp [storedStructureShape, Slot.of]
  settles := by
    simp only [storedStructureShape, List.forall_mem_cons]
    have hmembers := settles_list (settles_record sound_storedMemberShape.settles)
    exact ⟨settles_slot settles_text _ _ _ _, settles_slot settles_text _ _ _ _,
      settles_slot settles_word _ _ _ _, settles_slot hmembers _ _ _ _, List.forall_mem_nil _⟩
  apart := by
    intro slot hslot other hother hne parts filled json haccepts
    simp only [storedStructureShape, List.mem_cons, List.not_mem_nil, or_false] at hslot hother
    rcases hslot with rfl | rfl | rfl | rfl <;>
      rcases hother with rfl | rfl | rfl | rfl <;>
      first
      | exact absurd rfl hne
      | obtain ⟨_, rfl⟩ := eq_set_of_accepts haccepts
        rfl

theorem sound_databaseShape : databaseShape.Sound where
  empty := by simp [databaseShape, Slot.of]
  settles := by
    simp only [databaseShape, List.forall_mem_singleton]
    exact settles_slot (settles_list (settles_record sound_storedStructureShape.settles)) _ _ _ _
  apart := by
    intro slot hslot other hother hne parts filled json haccepts
    rw [databaseShape, List.mem_singleton] at hslot hother
    rw [hslot, hother] at hne
    exact absurd rfl hne

theorem StoredMember.rejects_of_lacking (h : StoredMember.Lacking fields) :
    Rejects (record storedMemberShape) (.object fields) := by
  have hsound := sound_storedMemberShape
  rcases h with hoffset | hname | hsize
  · exact rejects_record_of_lacking hsound (.head _) rfl hoffset
  · exact rejects_record_of_lacking hsound (.tail _ (.head _)) rfl hname
  · exact rejects_record_of_lacking hsound (.tail _ (.tail _ (.tail _ (.tail _ (.head _))))) rfl hsize

theorem StoredStructure.rejects_of_lacking (h : StoredStructure.Lacking fields) :
    Rejects (record storedStructureShape) (.object fields) := by
  have hsound := sound_storedStructureShape
  rcases h with hname | hsize | ⟨items, hitems, inner, hinner, hlacking⟩
  · exact rejects_record_of_lacking hsound (.head _) rfl hname
  · exact rejects_record_of_lacking hsound (.tail _ (.tail _ (.head _))) rfl hsize
  · have hsettles := settles_record sound_storedMemberShape.settles
    have hmembers := rejects_list_of_mem hsettles hinner (StoredMember.rejects_of_lacking hlacking)
    exact rejects_record_of_value hsound rfl hitems fun parts => rejects_slot hmembers _ _ _ _ parts

theorem Database.rejects_of_lacking (h : Database.Lacking fields) :
    Rejects (record databaseShape) (.object fields) := by
  obtain ⟨items, hitems, inner, hinner, hlacking⟩ := h
  have hsettles := settles_record sound_storedStructureShape.settles
  have hstructures :=
    rejects_list_of_mem hsettles hinner (StoredStructure.rejects_of_lacking hlacking)
  exact rejects_record_of_value sound_databaseShape rfl hitems fun parts =>
    rejects_slot hstructures _ _ _ _ parts

/-! ## Databases that are read -/

namespace Database

/-- **What was left out is harmless if it has a default**: a database is read from every text of an
object that stands for it, and no text is read of an object that lacks a field without a default. -/
theorem ofJsonText_of_fields :
    (∀ (database : Database) (fields : List (String × Json)) (text : String),
      database.DescribedBy fields → SpellsText (.object fields) text →
      ofJsonText text = .ok database)
    ∧ ∀ (fields : List (String × Json)) (text : String),
      Lacking fields → SpellsText (.object fields) text →
      ∃ error, ofJsonText text = .error error := by
  constructor
  · intro database fields text hdescribed hspells
    exact parse_of_accepts (database.accepts_fields fields hdescribed) hspells
  · intro fields text hlacking hspells
    exact parse_of_rejects (rejects_of_lacking hlacking) hspells

/-- Two structures, to be written with their fields in disorder. -/
def sketch : Database where
  structures := [
    { name := "Point", comment := "", size := 16, members := [
        { offset := 8, name := "x", typeName := none, comment := "", size := 4 },
        { offset := 0, name := "y", typeName := none, comment := "up", size := 8 }] },
    { name := "Empty", comment := "for later", size := 0, members := [] }]

/-- The fields of an object that stands for it, with notes that nobody asked for. -/
def sketchFields : List (String × Json) := [
  ("author", .object [("structures", .null)]),
  ("structures", .array [
    .object [("size_bytes", .nat 16), ("members", .array [
        .object [("size_bytes", .nat 4), ("unit", .string "m"), ("name", .string "x"),
          ("offset", .nat 8)],
        .object [("comment", .string "up"), ("offset", .nat 0), ("type_name", .null),
          ("name", .string "y"), ("size_bytes", .nat 8)]]),
      ("name", .string "Point")],
    .object [("name", .string "Empty"), ("comment", .string "for later"), ("size_bytes", .nat 0)]])]

/-- The fields of an object in which a member is nowhere: it has a size and a name, but no offset. -/
def unplacedFields : List (String × Json) := [
  ("structures", .array [
    .object [("members", .array [.object [("size_bytes", .nat 4), ("name", .string "x")]]),
      ("name", .string "Point"), ("size_bytes", .nat 16)]])]

theorem ofJsonText_of_sketch :
    sketch.DescribedBy sketchFields
      ∧ SpellsText (.object sketchFields) (Json.object sketchFields).compactText
      ∧ ofJsonText (Json.object sketchFields).compactText = .ok sketch
      ∧ Lacking unplacedFields
      ∧ SpellsText (.object unplacedFields) (Json.object unplacedFields).prettyText
      ∧ ∃ error, ofJsonText (Json.object unplacedFields).prettyText = .error error := by
  have hdescribed : sketch.DescribedBy sketchFields := by
    refine ⟨.inl ⟨[_, _], rfl, .cons ?point (.cons ?empty .nil)⟩⟩
    case point =>
      refine ⟨rfl, .inr ⟨rfl, rfl⟩, rfl, .inl ⟨[_, _], rfl, .cons ?x (.cons ?y .nil)⟩⟩
      case x => exact ⟨rfl, rfl, .inr ⟨rfl, rfl⟩, .inr ⟨rfl, rfl⟩, rfl⟩
      case y => exact ⟨rfl, rfl, .inl rfl, .inl rfl, rfl⟩
    case empty => exact ⟨rfl, .inl rfl, rfl, .inr ⟨rfl, rfl⟩⟩
  have hlacking : Lacking unplacedFields :=
    ⟨_, .head _, _, .head _, .inr (.inr ⟨_, .head _, _, .head _, .inl rfl⟩)⟩
  have hsketch := spells_compactText (.object sketchFields)
  have hunplaced := spells_prettyText (.object unplacedFields)
  exact ⟨hdescribed, hsketch, ofJsonText_of_fields.1 _ _ _ hdescribed hsketch,
    hlacking, hunplaced, ofJsonText_of_fields.2 _ _ hlacking hunplaced⟩

end Database

end StructVault

import StructVault.Proofs.Database.Json
import StructVault.Structure.Json

/-!
# Structures and their texts

A structure descriptor is read from every text of its JSON value (`accepts_toJson`), as a stored
structure is. Nothing is lost in either: every text between quotes, every number of 64 bits, every
list and every missing type comes back. `parse_of_printed` says so of databases and of lists of
structures, for both layouts.
-/

namespace StructVault

open Json Reader

theorem Member.accepts_toJson (member : Member) :
    Accepts (record memberShape) member.toJson member := by
  have h : Gathers memberShape.slots memberShape.none
      [("name", .string member.name), ("type_name", .string member.typeName),
        ("comment", .string member.comment), ("size_bytes", .nat member.size.toNat)]
      { name := some member.name, typeName := some member.typeName
        comment := some member.comment, size := some member.size } := by
    refine .cons rfl rfl (accepts_slot (accepts_text member.name) _ _ _ _ _) ?_
    refine .cons rfl rfl (accepts_slot (accepts_text member.typeName) _ _ _ _ _) ?_
    refine .cons rfl rfl (accepts_slot (accepts_text member.comment) _ _ _ _ _) ?_
    refine .cons rfl rfl (accepts_slot (accepts_word member.size) _ _ _ _ _) ?_
    exact .nil _
  exact accepts_record h rfl

namespace Structure

theorem accepts_toJson (struct : Structure) :
    Accepts (record structureShape) struct.toJson struct := by
  have h : Gathers structureShape.slots structureShape.none
      [("name", .string struct.name), ("comment", .string struct.comment),
        ("size_bytes", .nat struct.size.toNat),
        ("members", .array (struct.members.map Member.toJson))]
      { name := some struct.name, comment := some struct.comment, size := some struct.size
        members := some struct.members } := by
    refine .cons rfl rfl (accepts_slot (accepts_text struct.name) _ _ _ _ _) ?_
    refine .cons rfl rfl (accepts_slot (accepts_text struct.comment) _ _ _ _ _) ?_
    refine .cons rfl rfl (accepts_slot (accepts_word struct.size) _ _ _ _ _) ?_
    refine .cons rfl rfl (accepts_slot (accepts_list_map Member.accepts_toJson _) _ _ _ _ _) ?_
    exact .nil _
  exact accepts_record h rfl

/-- A list of structures is read from every text of its JSON value. -/
theorem listOfJson_of_spells {structures : List Structure} {text : String}
    (h : SpellsText (.array (structures.map toJson)) text) :
    listOfJson text = .ok structures :=
  parse_of_accepts (accepts_list_map accepts_toJson structures) h

end Structure

/-- **What is printed is read back**: a database from its text, valid or not, and a list of
structures from its own. The layout is not important, although databases are only saved with one
item or field a line, and lists of structures only handed on without blanks. -/
theorem parse_of_printed :
    (∀ database : Database, Database.ofJsonText database.jsonText = .ok database
      ∧ Database.ofJsonText database.toJson.compactText = .ok database)
    ∧ ∀ structures : List Structure,
      Structure.listOfJson (Structure.jsonText structures) = .ok structures
        ∧ Structure.listOfJson (Json.array (structures.map Structure.toJson)).prettyText
          = .ok structures := by
  constructor
  · intro database
    exact ⟨database.ofJsonText_jsonText,
      Database.ofJsonText_of_spells (spells_compactText _)⟩
  · intro structures
    exact ⟨Structure.listOfJson_of_spells (spells_compactText _),
      Structure.listOfJson_of_spells (spells_prettyText _)⟩

end StructVault

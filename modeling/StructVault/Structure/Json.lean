import StructVault.Json.Printer
import StructVault.Json.Record
import StructVault.Structure

/-!
# Structures in JSON

A structure is an object with the fields `name`, `comment`, `size_bytes` and `members`, a member
one with `name`, `type_name`, `comment` and `size_bytes`. A comment that is left out is empty,
and so is a list of members.
-/

namespace StructVault

/-- The fields of a member that have been read. -/
structure MemberParts where
  name : Option String := none
  typeName : Option String := none
  comment : Option String := none
  size : Option ByteSize := none

/-- A member in JSON. -/
def memberShape : Json.Shape MemberParts Member where
  label := "MemberDescriptor"
  slots := [
    .of "name" true (·.name) (fun p v => { p with name := some v }) Json.Reader.text,
    .of "type_name" true (·.typeName) (fun p v => { p with typeName := some v }) Json.Reader.text,
    .of "comment" false (·.comment) (fun p v => { p with comment := some v }) Json.Reader.text,
    .of "size_bytes" true (·.size) (fun p v => { p with size := some v }) Json.Reader.word]
  none := {}
  make := fun p => {
    name := p.name.getD "", typeName := p.typeName.getD "", comment := p.comment.getD "",
    size := p.size.getD 0 }

/-- The fields of a structure that have been read. -/
structure StructureParts where
  name : Option String := none
  comment : Option String := none
  size : Option ByteSize := none
  members : Option (List Member) := none

/-- A structure in JSON. -/
def structureShape : Json.Shape StructureParts Structure where
  label := "StructureDescriptor"
  slots := [
    .of "name" true (·.name) (fun p v => { p with name := some v }) Json.Reader.text,
    .of "comment" false (·.comment) (fun p v => { p with comment := some v }) Json.Reader.text,
    .of "size_bytes" true (·.size) (fun p v => { p with size := some v }) Json.Reader.word,
    .of "members" false (·.members) (fun p v => { p with members := some v })
      (Json.Reader.list (Json.Reader.record memberShape))]
  none := {}
  make := fun p => {
    name := p.name.getD "", comment := p.comment.getD "", size := p.size.getD 0,
    members := p.members.getD [] }

/-- A member as a JSON value. -/
def Member.toJson (member : Member) : Json := .object [
  ("name", .string member.name),
  ("type_name", .string member.typeName),
  ("comment", .string member.comment),
  ("size_bytes", .nat member.size.toNat)]

/-- A structure as a JSON value. -/
def Structure.toJson (struct : Structure) : Json := .object [
  ("name", .string struct.name),
  ("comment", .string struct.comment),
  ("size_bytes", .nat struct.size.toNat),
  ("members", .array (struct.members.map Member.toJson))]

namespace Structure

/-- The compact JSON text of a list of structures. -/
def jsonText (structures : List Structure) : String :=
  (Json.array (structures.map Structure.toJson)).compactText

/-- The list of structures a JSON text describes. -/
def listOfJson (text : String) : Except Json.Error (List Structure) :=
  Json.parse (Json.Reader.list (Json.Reader.record structureShape)) text

end Structure

end StructVault

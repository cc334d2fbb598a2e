import StructVault.Bytes
import StructVault.Database.Host
import StructVault.Json.Printer
import StructVault.Json.Record
import StructVault.Snapshot.File

/-!
# Databases in JSON

A database is an object with the field `structures`; a stored structure has the fields `name`,
`comment`, `size_bytes` and `members`, a stored member `offset`, `name`, `type_name`, `comment`
and `size_bytes`. Lists and comments may be left out when they are empty, types when there is
none. Reading the text does not ask whether the database is valid; reading it from a file does.

- `Database.jsonText`, `Database.ofJsonText`: the text of a database, and the database of a text.
- `Database.load`: the database in a JSON file, if it is valid.
- `Database.save`: replace a file by the JSON text of a database.
-/

namespace StructVault

/-- The fields of a stored member that have been read. -/
structure StoredMemberParts where
  offset : Option ByteSize := none
  name : Option String := none
  typeName : Option (Option String) := none
  comment : Option String := none
  size : Option ByteSize := none

/-- A stored member in JSON. -/
def storedMemberShape : Json.Shape StoredMemberParts StoredMember where
  label := "StoredMember"
  slots := [
    .of "offset" true (·.offset) (fun p v => { p with offset := some v }) Json.Reader.word,
    .of "name" true (·.name) (fun p v => { p with name := some v }) Json.Reader.text,
    .of "type_name" false (·.typeName) (fun p v => { p with typeName := some v })
      Json.Reader.optionalText,
    .of "comment" false (·.comment) (fun p v => { p with comment := some v }) Json.Reader.text,
    .of "size_bytes" true (·.size) (fun p v => { p with size := some v }) Json.Reader.word]
  none := {}
  make := fun p => {
    offset := p.offset.getD 0, name := p.name.getD "", typeName := p.typeName.getD none
    comment := p.comment.getD "", size := p.size.getD 0 }

/-- The fields of a stored structure that have been read. -/
structure StoredStructureParts where
  name : Option String := none
  comment : Option String := none
  size : Option ByteSize := none
  members : Option (List StoredMember) := none

/-- A stored structure in JSON. -/
def storedStructureShape : Json.Shape StoredStructureParts StoredStructure where
  label := "StoredStructure"
  slots := [
    .of "name" true (·.name) (fun p v => { p with name := some v }) Json.Reader.text,
    .of "comment" false (·.comment) (fun p v => { p with comment := some v }) Json.Reader.text,
    .of "size_bytes" true (·.size) (fun p v => { p with size := some v }) Json.Reader.word,
    .of "members" false (·.members) (fun p v => { p with members := some v })
      (Json.Reader.list (Json.Reader.record storedMemberShape))]
  none := {}
  make := fun p => {
    name := p.name.getD "", comment := p.comment.getD "", size := p.size.getD 0
    members := p.members.getD [] }

/-- The fields of a database that have been read. -/
structure DatabaseParts where
  structures : Option (List StoredStructure) := none

/-- A database in JSON. -/
def databaseShape : Json.Shape DatabaseParts Database where
  label := "MemoryDatabase"
  slots := [
    .of "structures" false (·.structures) (fun p v => { p with structures := some v })
      (Json.Reader.list (Json.Reader.record storedStructureShape))]
  none := {}
  make := fun p => { structures := p.structures.getD [] }

/-- A text as a JSON value, or `null` for none. -/
def Json.optionalString : Option String → Json
  | none => .null
  | some text => .string text

/-- A stored member as a JSON value. -/
def StoredMember.toJson (stored : StoredMember) : Json := .object [
  ("offset", .nat stored.offset.toNat),
  ("name", .string stored.name),
  ("type_name", Json.optionalString stored.typeName),
  ("comment", .string stored.comment),
  ("size_bytes", .nat stored.size.toNat)]

/-- A stored structure as a JSON value. -/
def StoredStructure.toJson (stored : StoredStructure) : Json := .object [
  ("name", .string stored.name),
  ("comment", .string stored.comment),
  ("size_bytes", .nat stored.size.toNat),
  ("members", .array (stored.members.map StoredMember.toJson))]

namespace Database

/-- A database as a JSON value. -/
def toJson (database : Database) : Json := .object [
  ("structures", .array (database.structures.map StoredStructure.toJson))]

/-- The JSON text of a database. -/
def jsonText (database : Database) : String := database.toJson.prettyText

/-- The database a JSON text describes, valid or not. -/
def ofJsonText (text : String) : Except Json.Error Database :=
  Json.parse (Json.Reader.record databaseShape) text

/-! ## Files -/

/-- The database in the file at a path. -/
def load (tree : FileTree) (path : Path) : Except Error Database := do
  let data ← (tree.read path).mapError .io
  match Text.decode data with
  | none => .error (.io .notText)
  | some text =>
    let database ← (ofJsonText text).mapError (.invalidFile path)
    ofStored database.structures

/-- Replace the file at a path by the text of a database. -/
def save (tree : FileTree) (path : Path) (database : Database) : Except Error Unit × FileTree :=
  match Snapshot.replaceFile tree path (Text.encode database.jsonText) true with
  | (result, left) => (result.mapError .snapshot, left)

end Database

end StructVault

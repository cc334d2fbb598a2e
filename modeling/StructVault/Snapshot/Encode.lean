import StructVault.Bytes
import StructVault.Snapshot.Header
import StructVault.Structure

/-!
# Encoding snapshots

A snapshot is a header followed by its body, and the body is the structures one after the
other. A text is its length in four bytes and its UTF-8 bytes; a structure is its name, its
comment, its size in eight bytes, the number of its members in four bytes and its members; a
member is its name, type and comment and its size in eight bytes. Nothing stands between
fields, so equal lists give equal bytes.

- `encode`: the whole file. It fails only where a length does not fit into its four bytes.
- `encodedSize`: how long the file is, without making it.
-/

namespace StructVault.Snapshot

/-- A length in four bytes. -/
def encodeCount (field : Field) (length : Nat) : Except Error Bytes :=
  if length < UInt32.size then .ok (LittleEndian.encode 4 length) else .error (.tooLarge field length)

/-- A size in eight bytes. -/
def encodeSize (size : ByteSize) : Bytes := LittleEndian.encode 8 size.toNat

/-- A text behind its length. -/
def encodeText (field : Field) (text : String) : Except Error Bytes := do
  let length ← encodeCount field text.utf8ByteSize
  .ok (length ++ Text.encode text)

/-- A member record. -/
def encodeMember (member : Member) : Except Error Bytes := do
  let name ← encodeText .memberName member.name
  let typeName ← encodeText .memberType member.typeName
  let comment ← encodeText .memberComment member.comment
  .ok (name ++ typeName ++ comment ++ encodeSize member.size)

/-- Records one after the other, up to the first that does not fit. -/
def encodeAll {α : Type} (encodeOne : α → Except Error Bytes) : List α → Except Error Bytes
  | [] => .ok []
  | first :: rest => do
    let front ← encodeOne first
    let back ← encodeAll encodeOne rest
    .ok (front ++ back)

/-- A structure record with the records of its members. -/
def encodeStructure (struct : Structure) : Except Error Bytes := do
  let name ← encodeText .structureName struct.name
  let comment ← encodeText .structureComment struct.comment
  let count ← encodeCount .memberCount struct.members.length
  let members ← encodeAll encodeMember struct.members
  .ok (name ++ comment ++ encodeSize struct.size ++ count ++ members)

/-- The snapshot of a list of structures. -/
def encode (structures : List Structure) : Except Error Bytes := do
  let _ ← encodeCount .structureCount structures.length
  let body ← encodeAll encodeStructure structures
  .ok ((Header.forBody (UInt32.ofNat structures.length) body).toBytes ++ body)

/-! ## Sizes -/

/-- The bytes of all texts of a member. -/
def memberTextSize (member : Member) : Nat :=
  member.name.utf8ByteSize + member.typeName.utf8ByteSize + member.comment.utf8ByteSize

/-- The bytes of all texts of a structure and its members. -/
def structureTextSize (struct : Structure) : Nat :=
  struct.name.utf8ByteSize + struct.comment.utf8ByteSize
    + (struct.members.map memberTextSize).foldr (· + ·) 0

/-- The bytes of all texts of a list of structures. -/
def textSize (structures : List Structure) : Nat :=
  (structures.map structureTextSize).foldr (· + ·) 0

/-- The length of a snapshot: the header, twenty bytes for every record and the texts. -/
def encodedSize (structures : List Structure) : Nat :=
  Header.size + 20 * (structures.length + memberCount structures) + textSize structures

end StructVault.Snapshot

import StructVault.Bytes
import StructVault.Snapshot.Header
import StructVault.Structure

/-!
# Decoding snapshots

The inverse of `encode`. A `Reader` takes bytes from the front of what is left of the file and
knows how far it has come, so that errors can say where they arose.

- `Reader.take`: the next bytes, or a truncation at the position they would start.
- `Reader.text`: a text behind its length.
- `Reader.checkCount`: refuses a count that the remaining bytes cannot hold, before room is
  made for that many records; the cursor remembers for how many records room was made.
- `decode`: the structures of a whole file. The checksum is compared last, and only on demand.
- `decodeUnchecked`: the same without the count checks, as a measure of what those do.
-/

namespace StructVault.Snapshot

/-- How far a reader has come. -/
structure Cursor where
  /-- Bytes before the cursor. -/
  offset : Nat
  /-- Bytes after the cursor. -/
  rest : Bytes
  /-- Records that room was made for so far. -/
  reserved : Nat := 0
  deriving DecidableEq, Repr

/-- A step that takes bytes from the cursor and gives a value or an error. -/
abbrev Reader := EStateM Error Cursor

/-- Whether a list has at least `n` elements, looking at no more than it has to. -/
def hasAtLeast {α : Type} : Nat → List α → Bool
  | 0, _ => true
  | _ + 1, [] => false
  | n + 1, _ :: rest => hasAtLeast n rest

@[simp] theorem hasAtLeast_iff {α : Type} (n : Nat) (list : List α) :
    hasAtLeast n list = true ↔ n ≤ list.length := by
  induction n generalizing list with
  | zero => simp [hasAtLeast]
  | succ n ih => cases list <;> simp [hasAtLeast, ih]

namespace Reader

/-- The next `count` bytes. -/
def take (field : Field) (count : Nat) : Reader Bytes := fun cursor =>
  if hasAtLeast count cursor.rest then
    .ok (cursor.rest.take count)
      { cursor with offset := cursor.offset + count, rest := cursor.rest.drop count }
  else .error (.truncated field cursor.offset) cursor

/-- The number in the next four bytes. -/
def word (field : Field) : Reader UInt32 := do
  return UInt32.ofNat (LittleEndian.decode (← take field 4))

/-- The size in the next eight bytes. -/
def size (field : Field) : Reader ByteSize := do
  return UInt64.ofNat (LittleEndian.decode (← take field 8))

/-- The text behind the length in the next four bytes. Text that is not UTF-8 is reported at
the position of its length. -/
def text (field : Field) : Reader String := do
  let start := (← get).offset
  let length ← word field
  let bytes ← take field length.toNat
  match Text.decode bytes with
  | some text => return text
  | none => throw (.invalidText field start)

/-- Make room for `count` records of at least `least` bytes each, if that many can follow.
With `guarded` off nothing is refused. -/
def checkCount (guarded : Bool) (field : Field) (least : Nat) (count : UInt32) : Reader Nat :=
  fun cursor =>
    if guarded && !hasAtLeast (count.toNat * least) cursor.rest then
      .error (.countOutOfRange field count cursor.offset) cursor
    else
      .ok count.toNat { cursor with reserved := cursor.reserved + count.toNat }

/-- The results of a reader run `count` times. -/
def replicate {α : Type} (reader : Reader α) : Nat → Reader (List α)
  | 0 => return []
  | count + 1 => do
    let first ← reader
    let rest ← replicate reader count
    return first :: rest

end Reader

/-- The fewest bytes of a structure record: two empty texts, a size and a count. -/
def leastStructure : Nat := 4 + 4 + 8 + 4

/-- The fewest bytes of a member record: three empty texts and a size. -/
def leastMember : Nat := 4 + 4 + 4 + 8

/-- Read a member record. -/
def readMember : Reader Member := do
  let name ← Reader.text .memberName
  let typeName ← Reader.text .memberType
  let comment ← Reader.text .memberComment
  let size ← Reader.size .memberSize
  return { name, typeName, comment, size }

/-- Read a structure record with the records of its members. -/
def readStructure (guarded : Bool) : Reader Structure := do
  let name ← Reader.text .structureName
  let comment ← Reader.text .structureComment
  let size ← Reader.size .structureSize
  let count ← Reader.checkCount guarded .memberCount leastMember (← Reader.word .memberCount)
  let members ← Reader.replicate readMember count
  return { name, comment, size, members }

/-- Read as many structure records as the header announces, and nothing behind them. -/
def readBody (guarded : Bool) (announced : UInt32) : Reader (List Structure) := do
  let count ← Reader.checkCount guarded .structureCount leastStructure announced
  let structures ← Reader.replicate (readStructure guarded) count
  let cursor ← get
  if cursor.rest.isEmpty then return structures else throw (.trailingBytes cursor.offset)

/-- The cursor at the start of the body of a file. -/
def bodyStart (data : Bytes) : Cursor := { offset := Header.size, rest := data.drop Header.size }

/-- What is left of a run besides its final cursor. -/
def outcome {α : Type} : EStateM.Result Error Cursor α → Except Error α
  | .ok value _ => .ok value
  | .error error _ => .error error

/-- Compare the checksum in a header with that of the body. -/
def verify (header : Header) (data : Bytes) : Except Error Unit :=
  let computed := Crc32.checksum (data.drop Header.size)
  if computed = header.bodyChecksum then .ok ()
  else .error (.checksumMismatch header.bodyChecksum computed)

/-- Decode a file with or without the count checks. -/
def decodeWith (guarded verifyChecksum : Bool) (data : Bytes) :
    Except Error (List Structure) := do
  let header ← Header.parse data
  let structures ← outcome (readBody guarded header.structureCount (bodyStart data))
  if verifyChecksum then verify header data
  return structures

/-- The structures of a snapshot. -/
def decode (verifyChecksum : Bool) (data : Bytes) : Except Error (List Structure) :=
  decodeWith true verifyChecksum data

/-- The structures of a snapshot, read without looking ahead whether the counts can be true. -/
def decodeUnchecked (verifyChecksum : Bool) (data : Bytes) : Except Error (List Structure) :=
  decodeWith false verifyChecksum data

/-- How many records a decoder makes room for in a file, however the decoding ends. -/
def reservedRecords (data : Bytes) : Nat :=
  match Header.parse data with
  | .error _ => 0
  | .ok header =>
    match readBody true header.structureCount (bodyStart data) with
    | .ok _ cursor => cursor.reserved
    | .error _ cursor => cursor.reserved

end StructVault.Snapshot

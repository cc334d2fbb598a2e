import StructVault.Bytes
import StructVault.Checksum
import StructVault.Snapshot.Error

/-!
# The snapshot header

Every snapshot starts with sixteen bytes: the mark `SPST`, the version and the reserved flags
in two bytes each, then the number of structures and the checksum of the body in four bytes
each, all numbers with their lowest byte first.

- `Header.toBytes`: the sixteen bytes.
- `Header.parse`: the header at the start of a file. The mark is looked at first, so that a
  foreign file is called foreign even when it is also too short.
- `Header.forBody`: the header that belongs to a body.
-/

namespace StructVault.Snapshot

/-- The sixteen bytes at the start of a snapshot, apart from the mark. -/
structure Header where
  version : UInt16
  flags : UInt16
  structureCount : UInt32
  bodyChecksum : UInt32
  deriving DecidableEq, Repr

namespace Header

/-- The mark every snapshot starts with. -/
def magic : Bytes := [0x53, 0x50, 0x53, 0x54]

/-- The length of a header in bytes. -/
def size : Nat := 16

/-- The version this library writes, and the newest it reads. -/
def currentVersion : UInt16 := Error.newestVersion

/-- The header of a body that holds `count` structures. -/
def forBody (count : UInt32) (body : Bytes) : Header where
  version := currentVersion
  flags := 0
  structureCount := count
  bodyChecksum := Crc32.checksum body

/-- The sixteen bytes of a header. -/
def toBytes (header : Header) : Bytes :=
  magic
    ++ LittleEndian.encode 2 header.version.toNat
    ++ LittleEndian.encode 2 header.flags.toNat
    ++ LittleEndian.encode 4 header.structureCount.toNat
    ++ LittleEndian.encode 4 header.bodyChecksum.toNat

/-- The number in `width` bytes at a position of a record. -/
def numberAt (record : Bytes) (position width : Nat) : Nat :=
  LittleEndian.decode ((record.drop position).take width)

/-- The fields of a header, whatever they say. -/
def ofRecord (record : Bytes) : Header where
  version := UInt16.ofNat (numberAt record 4 2)
  flags := UInt16.ofNat (numberAt record 6 2)
  structureCount := UInt32.ofNat (numberAt record 8 4)
  bodyChecksum := UInt32.ofNat (numberAt record 12 4)

/-- The header at the start of a file, if the file can be a snapshot of a known version. -/
def parse (data : Bytes) : Except Error Header :=
  let record := data.take size
  if record.take magic.length ≠ magic.take record.length then .error .badMagic
  else if record.length < size then .error (.truncated .header 0)
  else
    let header := ofRecord record
    if header.version = 0 then .error .versionZero
    else if currentVersion < header.version then .error (.unsupportedVersion header.version)
    else if header.flags ≠ 0 then .error (.unknownFlags header.flags)
    else .ok header

@[simp] theorem length_toBytes (header : Header) : header.toBytes.length = size := by
  simp [toBytes, size, magic]

end Header

end StructVault.Snapshot

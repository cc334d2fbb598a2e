import StructVault.Files.Failure
import StructVault.Files.Path
import StructVault.Text.Quoted

/-!
# Errors of snapshot files

Everything that can go wrong between a snapshot file and a list of structures.

- `Snapshot.Field`: the fields of the encoding, by the names errors call them.
- `Snapshot.Error`: the causes.
- `Snapshot.Error.kind`: whether the file system or the content is to blame.
- `Snapshot.Error.message`: the wording.
-/

namespace StructVault.Snapshot

/-- A field of the encoding. -/
inductive Field where
  | header
  | structureCount
  | structureName
  | structureComment
  | structureSize
  | memberCount
  | memberName
  | memberType
  | memberComment
  | memberSize
  deriving DecidableEq, Repr

/-- What errors call a field. -/
def Field.label : Field → String
  | header => "header"
  | structureCount => "structure count"
  | structureName => "structure name"
  | structureComment => "structure comment"
  | structureSize => "structure size"
  | memberCount => "member count"
  | memberName => "member name"
  | memberType => "member type"
  | memberComment => "member comment"
  | memberSize => "member size"

/-- Whether a failure comes from the file system or from what a file holds. -/
inductive ErrorKind where
  | io
  | format
  deriving DecidableEq, Repr

/-- Why a snapshot could not be read or written. Offsets count bytes from the start of the
file. -/
inductive Error where
  /-- There is no file at the path. -/
  | fileNotFound (path : Path)
  /-- The path names no file that could be written. -/
  | invalidPath (path : Path)
  /-- The file starts with something other than the mark of a snapshot. -/
  | badMagic
  /-- The file states version 0, which no writer ever had. -/
  | versionZero
  /-- The file states a version newer than any this library reads. -/
  | unsupportedVersion (found : UInt16)
  /-- A reserved flag is set. -/
  | unknownFlags (flags : UInt16)
  /-- The input ended inside a field that starts at the offset. -/
  | truncated (field : Field) (offset : Nat)
  /-- The text whose length stands at the offset is not UTF-8. -/
  | invalidText (field : Field) (offset : Nat)
  /-- A count promises more records than the bytes from the offset on can hold. -/
  | countOutOfRange (field : Field) (count : UInt32) (offset : Nat)
  /-- A text or list is longer than its length field can say. -/
  | tooLarge (field : Field) (length : Nat)
  /-- Bytes are left after the last record. -/
  | trailingBytes (offset : Nat)
  /-- The body does not have the checksum that the header states. -/
  | checksumMismatch (stored computed : UInt32)
  /-- The file system refused a call. -/
  | io (failure : FileFailure)
  deriving DecidableEq, Repr

namespace Error

/-- The newest version there is. -/
def newestVersion : UInt16 := 1

/-- Whether the file system or the content is to blame. -/
def kind : Error → ErrorKind
  | fileNotFound _ | invalidPath _ | io _ => .io
  | _ => .format

/-- A 32-bit number as checksums are written: eight hexadecimal digits. -/
def checksumText (crc : UInt32) : String := "0x" ++ Hex.padded 8 crc.toNat

/-- The wording of an error. -/
def message : Error → String
  | fileNotFound path => s!"file not found: {path.text}"
  | invalidPath path => s!"invalid output path: {path.text}"
  | badMagic => "not a snapshot file: missing SPST magic"
  | versionZero => "invalid snapshot file: version 0 is not a valid version"
  | unsupportedVersion found =>
    s!"unsupported snapshot version {found.toNat} (newest supported is {newestVersion.toNat})"
  | unknownFlags flags =>
    "invalid snapshot file: unknown header flags 0x" ++ Hex.padded 4 flags.toNat
  | truncated field offset => s!"truncated {field.label} at offset {offset}"
  | invalidText field offset => s!"{field.label} at offset {offset} is not valid UTF-8"
  | countOutOfRange field count offset =>
    s!"{field.label} {count.toNat} at offset {offset} exceeds remaining input"
  | tooLarge field length => s!"{field.label} is too large to encode ({length})"
  | trailingBytes offset => s!"unexpected trailing bytes at offset {offset}"
  | checksumMismatch stored computed =>
    "checksum mismatch: stored " ++ checksumText stored ++ ", computed " ++ checksumText computed
  | io failure => "I/O error: " ++ failure.message

end Error

end StructVault.Snapshot

import StructVault.Structure

/-!
# The structure database

A database holds structures the way a host program stores them: each member at a byte offset,
in any order, and with no type at all where none is known.

- `StoredMember`, `StoredStructure`, `Database`: the stored data.
- `StoredStructure.layOut`: a structure stored with its members back to back from offset zero.
- `StoredStructure.byOffset`: the members in the order of their offsets.
-/

namespace StructVault

/-- A member as it is stored. -/
structure StoredMember where
  offset : ByteSize
  name : String
  /-- Nothing where the type is not known. -/
  typeName : Option String := none
  comment : String := ""
  size : ByteSize
  deriving DecidableEq, Repr, Inhabited

/-- A structure as it is stored. -/
structure StoredStructure where
  name : String
  comment : String := ""
  size : ByteSize
  members : List StoredMember := []
  deriving DecidableEq, Repr, Inhabited

/-- The stored structures, in order. -/
structure Database where
  structures : List StoredStructure := []
  deriving DecidableEq, Repr, Inhabited

namespace StoredMember

/-- A member stored at an offset. The name that stands for an unknown type is not stored. -/
def place (offset : ByteSize) (member : Member) : StoredMember where
  offset := offset
  name := member.name
  typeName := if member.isUndefined then none else some member.typeName
  comment := member.comment
  size := member.size

end StoredMember

namespace StoredStructure

/-- Members stored back to back from an offset on. Offsets stop at the largest there is. -/
def placeFrom : ByteSize → List Member → List StoredMember
  | _, [] => []
  | offset, member :: rest =>
    StoredMember.place offset member :: placeFrom (ByteSize.add offset member.size) rest

/-- A structure stored with its members back to back. -/
def layOut (struct : Structure) : StoredStructure where
  name := struct.name
  comment := struct.comment
  size := struct.size
  members := placeFrom 0 struct.members

/-- The members with their positions in the store, by increasing offset; members at one offset
keep their order. -/
def byOffset (stored : StoredStructure) : List (StoredMember × Nat) :=
  stored.members.zipIdx.mergeSort fun a b => a.1.offset ≤ b.1.offset

end StoredStructure

namespace Database

/-- How many structures are stored. -/
def size (database : Database) : Nat := database.structures.length

/-- Whether no structure is stored. -/
def isEmpty (database : Database) : Bool := database.structures.isEmpty

end Database

end StructVault

/-!
# Structures and members

The data every other part of the library moves around: a named structure with a size in
bytes, a comment and an ordered list of members.

- `ByteSize.add`: addition of sizes that stops at the largest size instead of wrapping.
- `Member`, `Structure`: the records themselves, with builders.
- `Structure.memberTotal`: what the members of a structure add up to.
-/

namespace StructVault

/-- A size or an offset in bytes. -/
abbrev ByteSize := UInt64

namespace ByteSize

/-- The largest size a record can state. -/
def largest : Nat := UInt64.size - 1

/-- The size nearest to `n`: `n` itself, or the largest size there is. -/
def ofNatCapped (n : Nat) : ByteSize := UInt64.ofNat (min n largest)

/-- Sum of two sizes, held at the largest size instead of wrapping round. -/
def add (a b : ByteSize) : ByteSize := ofNatCapped (a.toNat + b.toNat)

@[simp] theorem toNat_ofNatCapped (n : Nat) : (ofNatCapped n).toNat = min n largest := by
  simp only [ofNatCapped, largest, UInt64.size, UInt64.toNat_ofNat']
  omega

@[simp] theorem toNat_add (a b : ByteSize) :
    (add a b).toNat = min (a.toNat + b.toNat) largest := by
  simp [add]

/-- Sum of a list of sizes from left to right, capped at every step. -/
def total (sizes : List ByteSize) : ByteSize := sizes.foldl add 0

end ByteSize

/-- One field of a structure. -/
structure Member where
  name : String
  /-- The member's type, or `Member.undefinedType` when nobody could tell it. -/
  typeName : String
  comment : String := ""
  size : ByteSize
  deriving DecidableEq, Repr, Inhabited

/-- A named aggregate with a declared size and members in order of their offsets. -/
structure Structure where
  name : String
  comment : String := ""
  size : ByteSize
  members : List Member := []
  deriving DecidableEq, Repr, Inhabited

namespace Member

/-- The type name that stands for a type nobody could tell. -/
def undefinedType : String := "undefined"

/-- A member whose type is not known. -/
def undefined (name : String) (size : ByteSize) : Member :=
  { name, typeName := undefinedType, size }

/-- The same member under another comment. -/
def withComment (member : Member) (comment : String) : Member :=
  { member with comment }

/-- Whether the member carries the name that stands for an unknown type. -/
def isUndefined (member : Member) : Bool := member.typeName == undefinedType

end Member

namespace Structure

/-- The same structure under another comment. -/
def withComment (struct : Structure) (comment : String) : Structure :=
  { struct with comment }

/-- The structure with more members after those it has. -/
def withMembers (struct : Structure) (members : List Member) : Structure :=
  { struct with members := struct.members ++ members }

/-- The structure with one more member after those it has. -/
def withMember (struct : Structure) (member : Member) : Structure :=
  struct.withMembers [member]

/-- What the members add up to. It often is the declared size, but nothing requires it. -/
def memberTotal (struct : Structure) : ByteSize :=
  ByteSize.total (struct.members.map (·.size))

end Structure

/-- Members of all structures of a list together. -/
def memberCount (structures : List Structure) : Nat :=
  (structures.map (·.members.length)).foldr (· + ·) 0

@[simp] theorem memberCount_nil : memberCount [] = 0 := rfl

@[simp] theorem memberCount_cons (first : Structure) (rest : List Structure) :
    memberCount (first :: rest) = first.members.length + memberCount rest := rfl

end StructVault

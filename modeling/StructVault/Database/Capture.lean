import StructVault.Database.Host

/-!
# Capturing a database

`capture` asks a host for all its structures and their members, one call after the other, and
gives the list of them. Structures keep their order, members come by increasing offset, and a
member without a type gets the name that stands for one. Without refusals the result is
`Database.contents`.
-/

namespace StructVault

/-- A member as the host tells about it. -/
def Member.ofInfo (info : MemberInfo) : Member where
  name := info.name
  typeName := info.typeName.getD Member.undefinedType
  comment := info.comment
  size := info.size

/-- A stored member as it is captured. -/
def StoredMember.contents (stored : StoredMember) : Member where
  name := stored.name
  typeName := stored.typeName.getD Member.undefinedType
  comment := stored.comment
  size := stored.size

/-- A stored structure as it is captured. -/
def StoredStructure.contents (stored : StoredStructure) : Structure where
  name := stored.name
  comment := stored.comment
  size := stored.size
  members := stored.byOffset.map fun (member, _) => member.contents

/-- All structures of a database as they are captured. -/
def Database.contents (database : Database) : List Structure :=
  database.structures.map StoredStructure.contents

namespace Access

/-- One member. -/
def captureMember (handle : MemberHandle) : Access Member := do
  return Member.ofInfo (← describeMember handle)

/-- One structure with its members. -/
def captureStructure (handle : StructureHandle) : Access Structure := do
  let info ← describeStructure handle
  let handles ← listMembers handle
  let members ← handles.mapM captureMember
  return { name := info.name, comment := info.comment, size := info.size, members }

/-- All structures. -/
def capture : Access (List Structure) := do
  let handles ← listStructures
  handles.mapM captureStructure

end Access

end StructVault

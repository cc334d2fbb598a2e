import StructVault.Database.Error

/-!
# Access to a database

A host program owns a database and lets others see it through handles, and replace all of it at
once. A call may be refused by the host; the refusal is part of the state, so that it can be
said in advance which call will meet it.

- `Database.structureAt?`: the structure behind a handle.
- `Host`, `Refusal`: a database and the call it is going to refuse.
- `Access`: a sequence of calls.
- `Access.listStructures`, `Access.describeStructure`, `Access.listMembers`,
  `Access.describeMember`, `Access.replaceStructures`: the calls.
-/

namespace StructVault

namespace Database

/-- The database of a list of stored structures, if it is valid. -/
def ofStored (structures : List StoredStructure) : Except Error Database :=
  match firstBreach structures with
  | some breach => .error (.rejected (.breach breach))
  | none => .ok { structures }

/-- The database of a list of structures, each laid out from offset zero, if it is valid. -/
def ofStructures (structures : List Structure) : Except Error Database :=
  ofStored (structures.map StoredStructure.layOut)

/-- The structure behind a handle. -/
def structureAt? (database : Database) (handle : StructureHandle) : Option StoredStructure :=
  database.structures[handle.raw]?

/-- The member behind a handle. -/
def memberAt? (database : Database) (handle : MemberHandle) : Option StoredMember := do
  (← database.structureAt? handle.owner).members[handle.raw]?

/-- The handles of all structures, in order. -/
def structureHandles (database : Database) : List StructureHandle :=
  (List.range database.size).map fun index => ⟨index⟩

/-- The handles of the members of a structure, by increasing offset. -/
def memberHandles (stored : StoredStructure) (owner : StructureHandle) : List MemberHandle :=
  stored.byOffset.map fun (_, index) => ⟨owner, index⟩

end Database

/-- What a host tells about a structure. -/
structure StructureInfo where
  name : String
  comment : String
  size : ByteSize
  deriving DecidableEq, Repr

/-- What a host tells about a member. -/
structure MemberInfo where
  name : String
  typeName : Option String
  comment : String
  size : ByteSize
  deriving DecidableEq, Repr

/-- The calls a host can refuse. -/
inductive HostCall where
  | describeStructure
  | listMembers
  | describeMember
  | replaceStructures
  deriving DecidableEq, Repr

/-- A refusal to come: it meets one call of its kind, after some that pass, and is over then. -/
structure Refusal where
  call : HostCall
  /-- How many calls of the kind still pass. -/
  after : Nat
  /-- What the call fails with. A host may give any error for a call, not only a rejection. -/
  error : Database.Error
  deriving DecidableEq, Repr

/-- A database in the hands of its owner. -/
structure Host where
  database : Database := {}
  refusal : Option Refusal := none
  deriving DecidableEq, Repr

/-- Calls on a host, up to the first that fails. -/
abbrev Access := EStateM Database.Error Host

namespace Access

/-- Let a call pass, unless it is the one to be refused. -/
def admitted (call : HostCall) : Access Unit := fun host =>
  match host.refusal with
  | none => .ok () host
  | some refusal =>
    if refusal.call ≠ call then .ok () host
    else match refusal.after with
      | 0 => .error refusal.error { host with refusal := none }
      | after + 1 => .ok () { host with refusal := some { refusal with after } }

/-- The handles of all structures, in order. -/
def listStructures : Access (List StructureHandle) := do
  return (← get).database.structureHandles

/-- Name, comment and size of a structure. -/
def describeStructure (handle : StructureHandle) : Access StructureInfo := do
  admitted .describeStructure
  match (← get).database.structureAt? handle with
  | none => throw (.unknownStructure handle)
  | some stored => return { name := stored.name, comment := stored.comment, size := stored.size }

/-- The members of a structure, by increasing offset. -/
def listMembers (handle : StructureHandle) : Access (List MemberHandle) := do
  admitted .listMembers
  match (← get).database.structureAt? handle with
  | none => throw (.unknownStructure handle)
  | some stored => return Database.memberHandles stored handle

/-- Name, type, comment and size of a member. -/
def describeMember (handle : MemberHandle) : Access MemberInfo := do
  admitted .describeMember
  match (← get).database.memberAt? handle with
  | none => throw (.unknownMember handle)
  | some stored => return {
      name := stored.name, typeName := stored.typeName, comment := stored.comment
      size := stored.size }

/-- Put other structures in the place of all there are, or leave everything as it is. -/
def replaceStructures (structures : List Structure) : Access Unit := do
  admitted .replaceStructures
  match Database.ofStructures structures with
  | .error error => throw error
  | .ok database => modify fun host => { host with database }

end Access

end StructVault

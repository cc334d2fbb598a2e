import StructVault.Database.Basic

/-!
# Valid databases

A host accepts a list of structures when every structure has a name, no two structures share
one, and no two members of a structure do.

- `Valid`: the rule.
- `Breach`: a way to break it.
- `firstBreach`: the breach that is met first, structure by structure, and within one structure
  first at its own name and then at its members in order.
-/

namespace StructVault

/-- The rule of the host. -/
structure Valid (structures : List StoredStructure) : Prop where
  named : ∀ stored ∈ structures, stored.name ≠ ""
  structures_distinct : (structures.map (·.name)).Nodup
  members_distinct : ∀ stored ∈ structures, (stored.members.map (·.name)).Nodup

/-- A way to break the rule. -/
inductive Breach where
  | emptyName
  | duplicateStructure (name : String)
  | duplicateMember (member struct : String)
  deriving DecidableEq, Repr

/-- The wording of a breach. -/
def Breach.message : Breach → String
  | emptyName => "structure name must not be empty"
  | duplicateStructure name => s!"duplicate structure name: {name}"
  | duplicateMember member struct => s!"duplicate member name {member} in {struct}"

/-- The first name that occurred before, given the names before the list. -/
def firstRepeated : (seen : List String) → List String → Option String
  | _, [] => none
  | seen, name :: rest => if seen.contains name then some name else firstRepeated (name :: seen) rest

/-- The breach met first, given the names of the structures before the list. -/
def firstBreachAfter : (seen : List String) → List StoredStructure → Option Breach
  | _, [] => none
  | seen, stored :: rest =>
    if stored.name.isEmpty then some .emptyName
    else if seen.contains stored.name then some (.duplicateStructure stored.name)
    else match firstRepeated [] (stored.members.map (·.name)) with
      | some member => some (.duplicateMember member stored.name)
      | none => firstBreachAfter (stored.name :: seen) rest

/-- The breach of a list of structures that is met first. -/
def firstBreach (structures : List StoredStructure) : Option Breach :=
  firstBreachAfter [] structures

end StructVault

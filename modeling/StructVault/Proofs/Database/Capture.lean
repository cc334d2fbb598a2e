import StructVault.Database.Capture
import StructVault.Proofs.Database.Calls

/-!
# Captures, refused or not

A capture asks a host about every structure, for the members of every structure, and about every
member, once each (`Database.calls`). The handles it asks about are positions in the stored lists,
so each of them is known (`structureAt?_of_mem`, `memberAt?_of_mem`). This is why a capture cannot
meet an unknown handle, and nothing but a refusal can end it (`Access.makes_capture`).

Without a refusal a capture gives the contents of the database (`Access.capture_eq_contents`),
structure by structure in stored order and member by member in the order of their offsets.
-/

namespace StructVault

/-! ## Handles -/

namespace Database

/-- The handles of structures are the positions of the stored structures. -/
theorem structureHandles_eq (database : Database) :
    database.structureHandles = database.structures.zipIdx.map fun p => ⟨p.2⟩ := by
  have hpositions : database.structures.zipIdx.map Prod.snd
      = List.range database.structures.length := by
    rw [List.zipIdx_map_snd, List.range_eq_range']
  show (List.range database.structures.length).map _ = _
  rw [← hpositions, List.map_map]
  rfl

theorem structureAt?_of_mem {database : Database} {p : StoredStructure × Nat}
    (h : p ∈ database.structures.zipIdx) : database.structureAt? ⟨p.2⟩ = some p.1 :=
  List.mem_zipIdx_iff_getElem?.mp h

/-- Sorting members by offset keeps each with its position. -/
theorem getElem?_of_mem_byOffset {stored : StoredStructure} {p : StoredMember × Nat}
    (h : p ∈ stored.byOffset) : stored.members[p.2]? = some p.1 := by
  have hmem : p ∈ stored.members.zipIdx := List.mem_mergeSort.mp h
  exact List.mem_zipIdx_iff_getElem?.mp hmem

theorem memberAt?_of_mem {database : Database} {stored : StoredStructure}
    {owner : StructureHandle} (howner : database.structureAt? owner = some stored)
    {p : StoredMember × Nat} (h : p ∈ stored.byOffset) :
    database.memberAt? ⟨owner, p.2⟩ = some p.1 := by
  show (database.structureAt? owner).bind (fun s => s.members[p.2]?) = _
  rw [howner]
  exact getElem?_of_mem_byOffset h

end Database

/-! ## Numbers of calls -/

/-- How many calls of each kind it takes to capture a structure. -/
def StoredStructure.calls (stored : StoredStructure) : HostCall → Nat
  | .describeStructure | .listMembers => 1
  | .describeMember => stored.members.length
  | .replaceStructures => 0

/-- How many calls of each kind it takes to capture a database. -/
def Database.calls (database : Database) : HostCall → Nat
  | .describeStructure | .listMembers => database.structures.length
  | .describeMember => (database.structures.map (·.members.length)).sum
  | .replaceStructures => 0

theorem Database.calls_eq_sum (database : Database) (call : HostCall) :
    database.calls call = (database.structures.map (·.calls call)).sum := by
  cases call with
  | describeStructure => simp [calls, StoredStructure.calls, List.map_const']
  | listMembers => simp [calls, StoredStructure.calls, List.map_const']
  | describeMember => rfl
  | replaceStructures => simp [calls, StoredStructure.calls, List.map_const']

/-! ## Captures -/

namespace Access

variable {database : Database}

theorem makes_captureMember {handle : MemberHandle} {stored : StoredMember}
    (h : database.memberAt? handle = some stored) :
    Makes database (captureMember handle) (once .describeMember) stored.contents :=
  (makes_describeMember h).map Member.ofInfo

/-- A structure is captured as its contents, and takes one call for each member beside two of its
own. -/
theorem makes_captureStructure {handle : StructureHandle} {stored : StoredStructure}
    (h : database.structureAt? handle = some stored) :
    Makes database (captureStructure handle) stored.calls stored.contents := by
  have hmembers : Makes database ((Database.memberHandles stored handle).mapM captureMember)
      (fun call => (stored.byOffset.map fun _ => once .describeMember call).sum)
      (stored.byOffset.map fun p => p.1.contents) :=
    Makes.mapM fun p hp => makes_captureMember (Database.memberAt?_of_mem h hp)
  have hcount : stored.calls = fun call => once .describeStructure call + (once .listMembers call
      + (stored.byOffset.map fun _ => once .describeMember call).sum) := by
    have hlength : stored.byOffset.length = stored.members.length := by
      simp [StoredStructure.byOffset]
    funext call
    cases call with
    | describeStructure => simp [StoredStructure.calls, once, List.map_const']
    | listMembers => simp [StoredStructure.calls, once, List.map_const']
    | describeMember => simp [StoredStructure.calls, once, List.map_const', hlength]
    | replaceStructures => simp [StoredStructure.calls, once, List.map_const']
  rw [hcount]
  unfold captureStructure
  exact (makes_describeStructure h).bind ((makes_listMembers h).bind
    (hmembers.map (Structure.mk stored.name stored.comment stored.size)))

/-- **Captures**: a capture gives the contents of the database, unless one of its calls is
refused. -/
theorem makes_capture (database : Database) :
    Makes database capture database.calls database.contents := by
  have hall : Makes database (database.structureHandles.mapM captureStructure)
      (fun call => (database.structures.zipIdx.map fun p => p.1.calls call).sum)
      (database.structures.zipIdx.map fun p => p.1.contents) := by
    rw [Database.structureHandles_eq]
    exact Makes.mapM fun p hp => makes_captureStructure (Database.structureAt?_of_mem hp)
  -- what is asked about a structure and what comes of it does not depend on its position
  have hcontents : database.structures.zipIdx.map (fun p => p.1.contents) = database.contents := by
    rw [← Function.comp_def, ← List.map_map, List.zipIdx_map_fst]
    rfl
  have hcount : (fun call => (database.structures.zipIdx.map fun p => p.1.calls call).sum)
      = database.calls := by
    funext call
    rw [Database.calls_eq_sum, ← Function.comp_def (StoredStructure.calls · call),
      ← List.map_map, List.zipIdx_map_fst]
  rw [hcontents, hcount] at hall
  exact hall

/-- A host that refuses nothing is captured, and left as it is. -/
theorem capture_eq_contents (database : Database) :
    capture { database } = .ok database.contents { database } :=
  makes_capture database none

end Access

end StructVault

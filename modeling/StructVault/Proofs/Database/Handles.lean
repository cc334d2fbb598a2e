import StructVault.Proofs.Database.Listing

/-!
# Handles

A host hands out the handles of its structures, and for each of them the handles of its members.
These are all the handles there are: what a host can tell about anything, it can tell about what is
listed, and every other handle is answered with the error that names it (`Access.handles_exact`).

A handle is a number that need not come from any list, so the lists are compared with the look-ups:
`mem_structureHandles` and `mem_memberHandles` for each level.
-/

namespace StructVault

/-! ## What is listed -/

namespace Database

variable {database : Database} {stored : StoredStructure} {owner : StructureHandle}

/-- The structures that are listed are those that are found. -/
theorem mem_structureHandles {handle : StructureHandle} :
    handle ∈ database.structureHandles ↔ ∃ stored, database.structureAt? handle = some stored := by
  obtain ⟨raw⟩ := handle
  show _ ↔ ∃ stored, database.structures[raw]? = some stored
  simp [structureHandles, size, ← Option.isSome_iff_exists]

theorem nodup_structureHandles (database : Database) : database.structureHandles.Nodup := by
  unfold structureHandles
  refine List.nodup_range.map fun i j h => ?_
  injection h

/-- The members that are listed for a structure are those that are found in it. Sorting by offset
changes their order and loses none of them. -/
theorem mem_memberHandles {handle : MemberHandle} : handle ∈ memberHandles stored owner ↔
    handle.owner = owner ∧ ∃ member, stored.members[handle.raw]? = some member := by
  have hpositions : ∀ i, i ∈ stored.positions ↔ ∃ member, stored.members[i]? = some member := by
    intro i
    rw [stored.perm_positions.mem_iff, List.mem_range]
    simp [← Option.isSome_iff_exists]
  obtain ⟨home, raw⟩ := handle
  rw [stored.memberHandles_eq, List.mem_map]
  constructor
  · rintro ⟨i, hi, h⟩
    cases h
    exact ⟨rfl, (hpositions _).mp hi⟩
  · rintro ⟨rfl, hmember⟩
    exact ⟨raw, (hpositions raw).mpr hmember, rfl⟩

theorem nodup_memberHandles (stored : StoredStructure) (owner : StructureHandle) :
    (memberHandles stored owner).Nodup := by
  have hpositions : stored.positions.Nodup :=
    stored.perm_positions.nodup_iff.mpr List.nodup_range
  rw [stored.memberHandles_eq]
  refine hpositions.map fun i j h => ?_
  injection h

theorem memberAt?_eq_some {handle : MemberHandle} {member : StoredMember} :
    database.memberAt? handle = some member ↔ ∃ stored,
      database.structureAt? handle.owner = some stored
        ∧ stored.members[handle.raw]? = some member := by
  show (database.structureAt? handle.owner).bind (fun s => s.members[handle.raw]?) = _ ↔ _
  rw [Option.bind_eq_some_iff]

end Database

/-! ## What is told -/

namespace Access

variable {α : Type} {database : Database}

/-- A call that tells about a handle has an answer if the handle is `known`, and fails with the
error `unknown` if it is not. Either way the host stays as it is. -/
structure AnswersExactly (call : Access α) (database : Database) (known : Prop)
    (unknown : Database.Error) : Prop where
  answer_iff : (∃ answer, call { database } = .ok answer { database }) ↔ known
  error_iff : call { database } = .error unknown { database } ↔ ¬ known

theorem answersExactly_lookUp {γ : Type} {call : HostCall} {find? : Database → Option γ}
    {unknown : Database.Error} {answer : γ → α} {known : Prop}
    (h : known ↔ ∃ found, find? database = some found) :
    AnswersExactly (lookUp call find? unknown answer) database known unknown := by
  cases hfind : find? database with
  | none =>
    have hfail : lookUp call find? unknown answer { database } = .error unknown { database } :=
      lookUp_of_none hfind
    exact { answer_iff := by simp [h, hfind, hfail], error_iff := by simp [h, hfind, hfail] }
  | some found =>
    have hanswer : lookUp call find? unknown answer { database }
        = .ok (answer found) { database } := makes_lookUp hfind none
    exact { answer_iff := by simp [h, hfind, hanswer], error_iff := by simp [h, hfind, hanswer] }

theorem listMembers_eq_ok {owner : StructureHandle} {handles : List MemberHandle} :
    listMembers owner { database } = .ok handles { database } ↔
      ∃ stored, database.structureAt? owner = some stored
        ∧ handles = Database.memberHandles stored owner := by
  constructor
  · intro h
    cases hstored : database.structureAt? owner with
    | none =>
      rw [listMembers_eq, lookUp_of_none hstored] at h
      cases h
    | some stored =>
      cases (makes_listMembers hstored none).symm.trans h
      exact ⟨stored, rfl, rfl⟩
  · rintro ⟨stored, hstored, rfl⟩
    exact makes_listMembers hstored none

/-- **Handles are exact**: a structure is described and its members are listed if its handle is one
of those that are listed, and it is unknown otherwise. A member is described if its handle is listed
for its structure and that one is listed itself, and it is unknown otherwise. No handle is listed
twice, and those of members name the structure they are listed for. -/
theorem handles_exact (database : Database) : ∃ handles,
    listStructures { database } = .ok handles { database }
      ∧ handles.Nodup
      ∧ (∀ handle, AnswersExactly (describeStructure handle) database (handle ∈ handles)
          (.unknownStructure handle))
      ∧ (∀ handle, AnswersExactly (listMembers handle) database (handle ∈ handles)
          (.unknownStructure handle))
      ∧ (∀ handle : MemberHandle, AnswersExactly (describeMember handle) database
          (handle.owner ∈ handles ∧ ∃ members,
            listMembers handle.owner { database } = .ok members { database } ∧ handle ∈ members)
          (.unknownMember handle))
      ∧ ∀ owner members, listMembers owner { database } = .ok members { database } →
          members.Nodup ∧ ∀ handle ∈ members, handle.owner = owner := by
  refine ⟨database.structureHandles, rfl, database.nodup_structureHandles, ?_, ?_, ?_, ?_⟩
  · intro handle
    rw [describeStructure_eq]
    exact answersExactly_lookUp Database.mem_structureHandles
  · intro handle
    rw [listMembers_eq]
    exact answersExactly_lookUp Database.mem_structureHandles
  · intro handle
    rw [describeMember_eq]
    refine answersExactly_lookUp ?_
    constructor
    · rintro ⟨-, members, hlist, hmem⟩
      obtain ⟨stored, hstored, rfl⟩ := listMembers_eq_ok.mp hlist
      obtain ⟨-, member, hmember⟩ := Database.mem_memberHandles.mp hmem
      exact ⟨member, Database.memberAt?_eq_some.mpr ⟨stored, hstored, hmember⟩⟩
    · rintro ⟨member, h⟩
      obtain ⟨stored, hstored, hmember⟩ := Database.memberAt?_eq_some.mp h
      have hmem : handle ∈ Database.memberHandles stored handle.owner :=
        Database.mem_memberHandles.mpr ⟨rfl, member, hmember⟩
      exact ⟨Database.mem_structureHandles.mpr ⟨stored, hstored⟩,
        _, listMembers_eq_ok.mpr ⟨stored, hstored, rfl⟩, hmem⟩
  · intro owner members hlist
    obtain ⟨stored, -, rfl⟩ := listMembers_eq_ok.mp hlist
    exact ⟨Database.nodup_memberHandles stored owner,
      fun handle hmem => (Database.mem_memberHandles.mp hmem).1⟩

/-- Members that are listed in another order than they are stored in. -/
theorem handles_exact_shuffledDatabase : ∃ members : List MemberHandle,
    listMembers ⟨0⟩ { database := shuffledDatabase innerMembers }
        = .ok members { database := shuffledDatabase innerMembers }
      ∧ members.Nodup ∧ ∀ handle ∈ members, handle.owner = ⟨0⟩ := by
  obtain ⟨handles, -, -, -, -, -, hlists⟩ := handles_exact (shuffledDatabase innerMembers)
  have hlist : listMembers ⟨0⟩ { database := shuffledDatabase innerMembers } = .ok _ _ :=
    listMembers_of_some rfl
  exact ⟨_, hlist, hlists _ _ hlist⟩

end Access

end StructVault

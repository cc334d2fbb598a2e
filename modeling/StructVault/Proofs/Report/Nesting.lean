import StructVault.Proofs.Structure.Totals

/-!
# Members under their structures

The listing and the table show something for each structure of a list and, where members are shown,
something for each of its members under it. `nested` is what they have in common. Each structure and
each member has its place there, which only depends on what comes before it (`getElem?_nested`,
`getElem?_nested_member`), and these are all places (`length_nested`).
-/

namespace StructVault.Report

variable {α β : Type} {ofStructure : Structure → α} {ofMember : Member → α} {showMembers : Bool}

/-- What is shown of a structure, and of its members under it if they are shown. -/
def nested (ofStructure : Structure → α) (ofMember : Member → α) (showMembers : Bool)
    (structures : List Structure) : List α :=
  structures.flatMap fun struct =>
    ofStructure struct :: if showMembers then struct.members.map ofMember else []

/-- The structures, and their members where they are shown. -/
def recordCount (showMembers : Bool) (structures : List Structure) : Nat :=
  structures.length + if showMembers then memberCount structures else 0

theorem recordCount_cons (showMembers : Bool) (first : Structure) (rest : List Structure) :
    recordCount showMembers (first :: rest)
      = 1 + (if showMembers then first.members.length else 0) + recordCount showMembers rest := by
  unfold recordCount
  rw [List.length_cons, memberCount_cons]
  split <;> omega

theorem nested_append (front behind : List Structure) :
    nested ofStructure ofMember showMembers (front ++ behind)
      = nested ofStructure ofMember showMembers front
        ++ nested ofStructure ofMember showMembers behind :=
  List.flatMap_append

/-- Nothing else is shown. -/
theorem length_nested (structures : List Structure) :
    (nested ofStructure ofMember showMembers structures).length
      = recordCount showMembers structures := by
  induction structures with
  | nil => cases showMembers <;> rfl
  | cons first rest ih =>
    rw [recordCount_cons, ← ih, nested, List.flatMap_cons, List.length_append, List.length_cons]
    cases showMembers with
    | false => simp [nested]
    | true =>
      simp only [nested, if_true, List.length_map]
      omega

/-- What is shown behind the records of the structures in front. -/
theorem getElem?_nested_append (front behind : List Structure) (i : Nat) :
    (nested ofStructure ofMember showMembers (front ++ behind))[recordCount showMembers front + i]?
      = (nested ofStructure ofMember showMembers behind)[i]? := by
  have hfront : (nested ofStructure ofMember showMembers front).length
      = recordCount showMembers front := length_nested front
  rw [nested_append, ← hfront, List.getElem?_append_right (Nat.le_add_right _ _),
    Nat.add_sub_cancel_left]

/-- **A structure** stands behind all records of the structures in front of it. -/
theorem getElem?_nested (front : List Structure) (struct : Structure) (behind : List Structure) :
    (nested ofStructure ofMember showMembers
      (front ++ struct :: behind))[recordCount showMembers front]? = some (ofStructure struct) :=
  getElem?_nested_append front (struct :: behind) 0

/-- **A member** that is shown stands under its structure, behind the members in front of it. -/
theorem getElem?_nested_member (front : List Structure) {struct : Structure}
    (behind : List Structure) {j : Nat} {member : Member} (h : struct.members[j]? = some member) :
    (nested ofStructure ofMember true
      (front ++ struct :: behind))[recordCount true front + 1 + j]? = some (ofMember member) := by
  have hshort : j < (struct.members.map ofMember).length := by
    rw [List.length_map]
    exact (List.getElem?_eq_some_iff.mp h).1
  rw [Nat.add_assoc, Nat.add_comm 1 j, getElem?_nested_append, nested, List.flatMap_cons, if_pos rfl,
    List.cons_append, List.getElem?_cons_succ, List.getElem?_append_left hshort, List.getElem?_map, h]
  rfl

/-- What members have nothing of is found once for each structure. -/
theorem filterMap_nested {f : α → Option β} (hnone : ∀ member, f (ofMember member) = none)
    (structures : List Structure) :
    (nested ofStructure ofMember showMembers structures).filterMap f
      = structures.filterMap fun struct => f (ofStructure struct) := by
  induction structures with
  | nil => rfl
  | cons first rest ih =>
    have hmembers : (first.members.map ofMember).filterMap f = [] := by
      rw [List.filterMap_map, List.filterMap_eq_nil_iff]
      exact fun member _ => hnone member
    rw [nested] at ih
    rw [nested, List.flatMap_cons, List.filterMap_append, ih, List.filterMap_cons,
      List.filterMap_cons]
    cases showMembers with
    | false => cases f (ofStructure first) <;> rfl
    | true =>
      rw [if_pos rfl, hmembers]
      cases f (ofStructure first) <;> rfl

end StructVault.Report

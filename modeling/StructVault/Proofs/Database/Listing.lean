import Mathlib.Data.List.Forall2
import Mathlib.Data.List.Nodup
import StructVault.Proofs.Database.Capture
import StructVault.Snapshot.Encode

/-!
# The listing of members

Members are listed by a stable sort of the store and nothing else (`Access.listMembers_stable`):
each position once, by increasing offset, and positions at one offset in the order of the store
(`StoredStructure.Precedes`). Stability is what the sort does to the members at one offset: it
leaves their row as it is (`filter_byOffset`).

Where no two members share an offset, the order of the store is therefore nowhere to be seen:
structures that differ in this order only (`StoredStructure.Reordered`) have the same contents
(`contents_of_reordered`).
-/

namespace StructVault

open Steps

namespace StoredStructure

/-! ## The sort -/

/-- A position comes before another in the listing: its member lies at a smaller offset, or at the
same offset and earlier in the store. -/
def Precedes (stored : StoredStructure) (i j : Nat) : Prop :=
  ∃ a b, stored.members[i]? = some a ∧ stored.members[j]? = some b
    ∧ (a.offset < b.offset ∨ a.offset = b.offset ∧ i < j)

theorem offset_le_trans (p q r : StoredMember × Nat) (hpq : decide (p.1.offset ≤ q.1.offset) = true)
    (hqr : decide (q.1.offset ≤ r.1.offset) = true) : decide (p.1.offset ≤ r.1.offset) = true :=
  decide_eq_true (UInt64.le_trans (of_decide_eq_true hpq) (of_decide_eq_true hqr))

theorem offset_le_total (p q : StoredMember × Nat) :
    (decide (p.1.offset ≤ q.1.offset) || decide (q.1.offset ≤ p.1.offset)) = true := by
  simpa using UInt64.le_total p.1.offset q.1.offset

theorem perm_byOffset (stored : StoredStructure) :
    stored.byOffset.Perm stored.members.zipIdx :=
  List.mergeSort_perm _ _

theorem pairwise_offset_byOffset (stored : StoredStructure) :
    stored.byOffset.Pairwise fun p q => p.1.offset ≤ q.1.offset :=
  (List.pairwise_mergeSort offset_le_trans offset_le_total _).imp of_decide_eq_true

/-- **Stability**: the sort leaves the row of the members at one offset as it is. -/
theorem filter_byOffset (stored : StoredStructure) (offset : ByteSize) :
    stored.byOffset.filter (fun p => p.1.offset == offset)
      = stored.members.zipIdx.filter (fun p => p.1.offset == offset) := by
  have hordered : (stored.members.zipIdx.filter fun p => p.1.offset == offset).Pairwise
      fun p q => decide (p.1.offset ≤ q.1.offset) = true := by
    refine List.pairwise_of_forall_mem_list fun p hp q hq => decide_eq_true ?_
    have hp := eq_of_beq (List.mem_filter.mp hp).2
    have hq := eq_of_beq (List.mem_filter.mp hq).2
    rw [hp, hq]
    exact UInt64.le_refl _
  -- a row that is in order already is found again behind the sort, and there is nothing else in it
  have hsublist : (stored.members.zipIdx.filter fun p => p.1.offset == offset).Sublist
      stored.byOffset :=
    List.sublist_mergeSort offset_le_trans offset_le_total hordered List.filter_sublist
  have hrow := hsublist.filter fun p => p.1.offset == offset
  rw [List.filter_filter] at hrow
  simp only [Bool.and_self] at hrow
  exact (hrow.eq_of_length (stored.perm_byOffset.filter _).length_eq.symm).symm

theorem pairwise_snd_zipIdx {α : Type} (list : List α) :
    list.zipIdx.Pairwise fun p q => p.2 < q.2 := by
  have hpositions : (list.zipIdx.map Prod.snd).Pairwise (· < ·) := by
    rw [List.zipIdx_map_snd]
    exact List.pairwise_lt_range'
  exact List.pairwise_map.mp hpositions

/-- Members are listed by increasing offset, and at one offset by position. -/
theorem pairwise_byOffset (stored : StoredStructure) : stored.byOffset.Pairwise fun p q =>
    p.1.offset < q.1.offset ∨ p.1.offset = q.1.offset ∧ p.2 < q.2 := by
  rw [List.pairwise_iff_forall_sublist]
  intro p q hpair
  have hle := List.pairwise_iff_forall_sublist.mp stored.pairwise_offset_byOffset hpair
  by_cases heq : p.1.offset = q.1.offset
  · right
    -- both stand in the row of one offset, which has the order of the store
    have hrow := hpair.filter fun r => r.1.offset == q.1.offset
    rw [filter_byOffset] at hrow
    simp only [List.filter_cons, heq, beq_self_eq_true, if_true, List.filter_nil] at hrow
    exact ⟨heq, List.pairwise_iff_forall_sublist.mp (pairwise_snd_zipIdx _)
      (hrow.trans List.filter_sublist)⟩
  · left
    exact UInt64.lt_of_le_of_ne hle heq

/-! ## Members and positions -/

/-- The members in the order of the listing. -/
def listed (stored : StoredStructure) : List StoredMember := stored.byOffset.map Prod.fst

theorem perm_listed (stored : StoredStructure) : stored.listed.Perm stored.members := by
  have hperm := stored.perm_byOffset.map Prod.fst
  rw [List.zipIdx_map_fst] at hperm
  exact hperm

theorem pairwise_listed (stored : StoredStructure) :
    stored.listed.Pairwise fun a b => a.offset ≤ b.offset :=
  List.pairwise_map.mpr stored.pairwise_offset_byOffset

theorem contents_members (stored : StoredStructure) :
    stored.contents.members = stored.listed.map StoredMember.contents := by
  show stored.byOffset.map _ = (stored.byOffset.map Prod.fst).map _
  rw [List.map_map]
  rfl

/-- The positions of the members in the order of the listing. -/
def positions (stored : StoredStructure) : List Nat := stored.byOffset.map Prod.snd

theorem perm_positions (stored : StoredStructure) :
    stored.positions.Perm (List.range stored.members.length) := by
  have hperm := stored.perm_byOffset.map Prod.snd
  rw [List.zipIdx_map_snd, ← List.range_eq_range'] at hperm
  exact hperm

theorem pairwise_positions (stored : StoredStructure) :
    stored.positions.Pairwise stored.Precedes := by
  refine List.pairwise_map.mpr (stored.pairwise_byOffset.imp_of_mem ?_)
  intro p q hp hq hbefore
  exact ⟨p.1, q.1, Database.getElem?_of_mem_byOffset hp, Database.getElem?_of_mem_byOffset hq,
    hbefore⟩

theorem memberHandles_eq (stored : StoredStructure) (owner : StructureHandle) :
    Database.memberHandles stored owner = stored.positions.map (MemberHandle.mk owner) := by
  unfold Database.memberHandles positions
  rw [List.map_map]
  rfl

/-- The captured members are the stored ones at the listed positions. -/
theorem map_some_contents (stored : StoredStructure) : stored.contents.members.map some
    = stored.positions.map fun i => stored.members[i]?.map StoredMember.contents := by
  show (stored.byOffset.map fun p => p.1.contents).map some = (stored.byOffset.map Prod.snd).map _
  rw [List.map_map, List.map_map]
  refine List.map_congr_left fun p hp => ?_
  show some p.1.contents = stored.members[p.2]?.map StoredMember.contents
  rw [Database.getElem?_of_mem_byOffset hp]
  rfl

/-! ## The order of the store -/

/-- The same structure but for the order of its members, and this order differs only if no two
members share an offset. -/
structure Reordered (a b : StoredStructure) : Prop where
  name_eq : a.name = b.name
  comment_eq : a.comment = b.comment
  size_eq : a.size = b.size
  perm : a.members.Perm b.members
  distinct : a.members = b.members ∨ (a.members.map (·.offset)).Nodup

/-- An ordered row of members with different offsets is determined by what is in it. -/
theorem listed_of_reordered {a b : StoredStructure} (h : Reordered a b) : a.listed = b.listed := by
  rcases h.distinct with hsame | hdistinct
  · unfold listed byOffset
    rw [hsame]
  · have hperm : a.listed.Perm b.listed :=
      a.perm_listed.trans (h.perm.trans b.perm_listed.symm)
    refine hperm.eq_of_pairwise ?_ a.pairwise_listed b.pairwise_listed
    intro x y hx hy hxy hyx
    have hx : x ∈ a.members := a.perm_listed.mem_iff.mp hx
    have hy : y ∈ a.members := h.perm.mem_iff.mpr (b.perm_listed.mem_iff.mp hy)
    exact List.inj_on_of_nodup_map hdistinct hx hy (UInt64.le_antisymm hxy hyx)

theorem contents_of_reordered {a b : StoredStructure} (h : Reordered a b) :
    a.contents = b.contents := by
  have hsame : a.contents.members = b.contents.members := by
    rw [contents_members, contents_members, listed_of_reordered h]
  show Structure.mk a.name a.comment a.size a.contents.members
    = Structure.mk b.name b.comment b.size b.contents.members
  rw [h.name_eq, h.comment_eq, h.size_eq, hsame]

end StoredStructure

theorem Database.contents_of_reordered {a b : Database}
    (h : List.Forall₂ StoredStructure.Reordered a.structures b.structures) :
    a.contents = b.contents := by
  obtain ⟨as⟩ := a
  obtain ⟨bs⟩ := b
  replace h : List.Forall₂ StoredStructure.Reordered as bs := h
  show as.map StoredStructure.contents = bs.map StoredStructure.contents
  induction h with
  | nil => rfl
  | cons hfirst _ ih =>
    rw [List.map_cons, List.map_cons, StoredStructure.contents_of_reordered hfirst, ih]

/-! ## Calls -/

namespace Access

theorem listMembers_of_some {database : Database} {handle : StructureHandle}
    {stored : StoredStructure} (h : database.structureAt? handle = some stored) :
    listMembers handle { database }
      = .ok (stored.positions.map (MemberHandle.mk handle)) { database } := by
  rw [← StoredStructure.memberHandles_eq]
  exact makes_listMembers h none

/-- **Members are listed by a stable sort.** Of every structure of a database, valid or not, the
listing names each member once, by increasing offset and at one offset in the order of the store,
and a capture has just these members in just this order. Databases that differ in the order of
members with different offsets only give the same capture, and so the same snapshot. -/
theorem listMembers_stable (database : Database) :
    (∀ handle stored, database.structureAt? handle = some stored → ∃ positions : List Nat,
      listMembers handle { database } = .ok (positions.map (MemberHandle.mk handle)) { database }
        ∧ positions.Perm (List.range stored.members.length)
        ∧ positions.Pairwise stored.Precedes
        ∧ ∃ structures struct, capture { database } = .ok structures { database }
          ∧ structures[handle.raw]? = some struct
          ∧ struct.members.map some
            = positions.map fun i => stored.members[i]?.map StoredMember.contents)
    ∧ ∀ other : Database,
      List.Forall₂ StoredStructure.Reordered database.structures other.structures →
        ∃ xs ys, capture { database } = .ok xs { database }
          ∧ capture { database := other } = .ok ys { database := other }
          ∧ xs = ys ∧ Snapshot.encode xs = Snapshot.encode ys := by
  constructor
  · intro handle stored hstored
    refine ⟨stored.positions, listMembers_of_some hstored, stored.perm_positions,
      stored.pairwise_positions, database.contents, stored.contents,
      capture_eq_contents database, ?_, stored.map_some_contents⟩
    have hat : database.structures[handle.raw]? = some stored := hstored
    show (database.structures.map StoredStructure.contents)[handle.raw]? = _
    rw [List.getElem?_map, hat]
    rfl
  · intro other hreordered
    have hcontents := Database.contents_of_reordered hreordered
    exact ⟨database.contents, other.contents, capture_eq_contents database,
      capture_eq_contents other, hcontents, by rw [hcontents]⟩

end Access

/-- Two members at one offset with a third one behind them in the store that lies in front, and a
structure with `inner` for its members. -/
def shuffledDatabase (inner : List StoredMember) : Database where
  structures := [
    { name := "s", size := 24, members := [
      { offset := 16, name := "b", size := 4 }, { offset := 16, name := "c", size := 0 },
      { offset := 0, name := "a", typeName := some "int", size := 4 }] },
    { name := "t", size := 8, members := inner }]

/-- Two members that lie behind each other. -/
def innerMembers : List StoredMember :=
  [{ offset := 0, name := "x", size := 4 }, { offset := 4, name := "y", size := 4 }]

theorem Access.listMembers_shuffledDatabase :
    (∃ positions : List Nat, listMembers ⟨0⟩ { database := shuffledDatabase innerMembers }
        = .ok (positions.map (MemberHandle.mk ⟨0⟩)) { database := shuffledDatabase innerMembers }
      ∧ positions.Perm [0, 1, 2])
    ∧ ∃ xs ys, capture { database := shuffledDatabase innerMembers }
        = .ok xs { database := shuffledDatabase innerMembers }
      ∧ capture { database := shuffledDatabase innerMembers.reverse }
        = .ok ys { database := shuffledDatabase innerMembers.reverse }
      ∧ xs = ys ∧ Snapshot.encode xs = Snapshot.encode ys := by
  obtain ⟨hlist, hreorder⟩ := listMembers_stable (shuffledDatabase innerMembers)
  obtain ⟨positions, hcall, hperm, -⟩ := hlist ⟨0⟩ _ rfl
  have hreordered : List.Forall₂ StoredStructure.Reordered (shuffledDatabase innerMembers).structures
      (shuffledDatabase innerMembers.reverse).structures := by
    refine .cons ⟨rfl, rfl, rfl, List.Perm.refl _, Or.inl rfl⟩ (.cons ⟨rfl, rfl, rfl, ?_, ?_⟩ .nil)
    · exact (List.reverse_perm innerMembers).symm
    · exact Or.inr (by decide)
  exact ⟨⟨positions, hcall, hperm⟩, hreorder _ hreordered⟩

end StructVault

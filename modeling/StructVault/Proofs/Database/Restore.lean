import Mathlib.Algebra.Ring.Nat
import StructVault.Proofs.Database.Listing
import StructVault.Proofs.Structure.Totals

/-!
# Restoring and capturing

A host that accepted a list of structures gives the same list back when it is captured
(`capture_of_replaceStructures`). What could go wrong in between is the order of the members: it
is not stored, but derived again from the offsets. The offsets are running sums of sizes that
stop at the largest size (`getElem?_placeFrom`), so they never decrease
(`pairwise_offset_placeFrom`), and where they are equal, because of empty members or because the
largest size is reached, the sort keeps the order of the store. An unknown type is stored as
nothing and captured as the name that stands for it (`contents_place`).
-/

namespace StructVault

/-! ## Offsets -/

namespace StoredStructure

theorem offset_le_of_mem_placeFrom :
    ∀ {members : List Member} {offset : ByteSize} {stored : StoredMember},
      stored ∈ placeFrom offset members → offset ≤ stored.offset
  | member :: rest, offset, stored, h => by
    rcases List.mem_cons.mp h with rfl | h
    · exact UInt64.le_refl _
    · exact UInt64.le_trans (ByteSize.le_add offset member.size) (offset_le_of_mem_placeFrom h)

/-- Offsets of members laid out back to back never decrease. -/
theorem pairwise_offset_placeFrom :
    ∀ (offset : ByteSize) (members : List Member),
      (placeFrom offset members).Pairwise fun a b => a.offset ≤ b.offset
  | _, [] => List.Pairwise.nil
  | offset, member :: rest => by
    refine List.pairwise_cons.mpr ⟨fun stored h => ?_, pairwise_offset_placeFrom _ rest⟩
    exact UInt64.le_trans (ByteSize.le_add offset member.size) (offset_le_of_mem_placeFrom h)

/-- Every member is placed at the sum of the sizes in front of it, or at the largest size. -/
theorem getElem?_placeFrom :
    ∀ {members : List Member} {j : Nat} {member : Member} (offset : ByteSize),
      members[j]? = some member → ∃ position : ByteSize,
        (placeFrom offset members)[j]? = some (StoredMember.place position member)
          ∧ position.toNat = min (offset.toNat + ((members.take j).map (·.size.toNat)).sum)
            ByteSize.largest
  | first :: rest, 0, member, offset, h => by
    cases h
    refine ⟨offset, rfl, ?_⟩
    have hle := ByteSize.toNat_le_largest offset
    rw [List.take_zero, List.map_nil, List.sum_nil]
    omega
  | first :: rest, j + 1, member, offset, h => by
    have htail : rest[j]? = some member := h
    obtain ⟨position, hplace, hsum⟩ :=
      getElem?_placeFrom (ByteSize.add offset first.size) htail
    refine ⟨position, hplace, ?_⟩
    -- a sum that stopped early stops at the end too, so one `min` does for both
    rw [hsum, ByteSize.toNat_add, List.take_succ_cons, List.map_cons, List.sum_cons]
    omega

/-! ## Contents -/

/-- Members that are stored in the order of their offsets are listed in the order of the store. -/
theorem listed_of_pairwise {stored : StoredStructure}
    (h : stored.members.Pairwise fun a b => a.offset ≤ b.offset) :
    stored.listed = stored.members := by
  have hmap : (stored.members.zipIdx.map Prod.fst).Pairwise fun a b => a.offset ≤ b.offset := by
    rw [List.zipIdx_map_fst]
    exact h
  -- equal offsets count as ordered, so a list that never decreases is left as it is
  have hsorted : stored.byOffset = stored.members.zipIdx :=
    List.mergeSort_of_pairwise ((List.pairwise_map.mp hmap).imp fun hle => decide_eq_true hle)
  rw [listed, hsorted, List.zipIdx_map_fst]

end StoredStructure

theorem StoredMember.contents_place (position : ByteSize) (member : Member) :
    (StoredMember.place position member).contents = member := by
  obtain ⟨name, typeName, comment, size⟩ := member
  by_cases hundefined : typeName = Member.undefinedType
  · simp [StoredMember.place, StoredMember.contents, Member.isUndefined, hundefined]
  · simp [StoredMember.place, StoredMember.contents, Member.isUndefined, hundefined]

theorem StoredMember.typeName_place_eq_none_iff (position : ByteSize) (member : Member) :
    (StoredMember.place position member).typeName = none
      ↔ member.typeName = Member.undefinedType := by
  by_cases hundefined : member.typeName = Member.undefinedType
  · simp [StoredMember.place, Member.isUndefined, hundefined]
  · simp [StoredMember.place, Member.isUndefined, hundefined]

theorem StoredStructure.map_contents_placeFrom : ∀ (offset : ByteSize) (members : List Member),
    (placeFrom offset members).map StoredMember.contents = members
  | _, [] => rfl
  | offset, member :: rest => by
    show (StoredMember.place offset member).contents :: _ = member :: rest
    rw [StoredMember.contents_place, map_contents_placeFrom]

/-- A structure that is laid out has the contents it had before. -/
theorem StoredStructure.contents_layOut (struct : Structure) :
    (StoredStructure.layOut struct).contents = struct := by
  have hordered : (layOut struct).members.Pairwise fun a b => a.offset ≤ b.offset :=
    pairwise_offset_placeFrom 0 struct.members
  have hmembers : (layOut struct).contents.members = struct.members := by
    rw [contents_members, listed_of_pairwise hordered]
    exact map_contents_placeFrom 0 struct.members
  show Structure.mk struct.name struct.comment struct.size (layOut struct).contents.members = struct
  rw [hmembers]

/-! ## Replacing -/

namespace Access

/-- A host takes a list where a database can be made of it, and it is this database then. -/
theorem replaceStructures_apply (structures : List Structure) (database : Database) :
    replaceStructures structures { database } = (match Database.ofStructures structures with
      | .error error => .error error { database }
      | .ok replaced => .ok () { database := replaced }) := by
  unfold replaceStructures
  cases Database.ofStructures structures with
  | error error => rfl
  | ok replaced => rfl

/-- Accepted lists are stored structure by structure, with nothing left of what was there. -/
theorem replaceStructures_eq_ok {database : Database} {structures : List Structure}
    {host : Host} : replaceStructures structures { database } = .ok () host ↔
      firstBreach (structures.map StoredStructure.layOut) = none
        ∧ host = { database := { structures := structures.map StoredStructure.layOut } } := by
  rw [replaceStructures_apply]
  unfold Database.ofStructures Database.ofStored
  cases firstBreach (structures.map StoredStructure.layOut) with
  | none => simp [eq_comm]
  | some broken => simp

end Access

theorem Database.contents_layOut (structures : List Structure) :
    Database.contents { structures := structures.map StoredStructure.layOut } = structures := by
  show (structures.map StoredStructure.layOut).map StoredStructure.contents = structures
  rw [List.map_map]
  refine (List.map_congr_left fun struct _ => ?_).trans (List.map_id structures)
  exact StoredStructure.contents_layOut struct

/-- **Capture undoes restore**: a host that accepted a list, whatever it held before, gives
exactly that list when it is captured. Each member was stored at the sum of the sizes in front of
it, or at the largest size where the sum is beyond it, and without a type exactly when its type
carries the name for an unknown one. -/
theorem capture_of_replaceStructures {database : Database} {structures : List Structure}
    {host : Host} (h : Access.replaceStructures structures { database } = .ok () host) :
    Access.capture host = .ok structures host
      ∧ ∀ i j struct member, structures[i]? = some struct → struct.members[j]? = some member →
        ∃ stored, host.database.memberAt? ⟨⟨i⟩, j⟩ = some stored
          ∧ stored.offset.toNat = min ((struct.members.take j).map (·.size.toNat)).sum (2 ^ 64 - 1)
          ∧ (stored.typeName = none ↔ member.typeName = "undefined") := by
  obtain ⟨-, rfl⟩ := Access.replaceStructures_eq_ok.mp h
  constructor
  · have hcapture := Access.capture_eq_contents
      { structures := structures.map StoredStructure.layOut }
    rw [Database.contents_layOut] at hcapture
    exact hcapture
  · intro i j struct member hstruct hmember
    obtain ⟨position, hplace, hsum⟩ := StoredStructure.getElem?_placeFrom 0 hmember
    refine ⟨StoredMember.place position member, ?_, ?_,
      StoredMember.typeName_place_eq_none_iff position member⟩
    · show ((structures.map StoredStructure.layOut)[i]?).bind (fun s => s.members[j]?) = _
      rw [List.getElem?_map, hstruct]
      exact hplace
    · show position.toNat = _
      rw [hsum]
      show min (0 + _) _ = _
      rw [Nat.zero_add]
      rfl

/-- Empty members between others, a sum of sizes beyond the largest size and an unknown type. -/
def saturatedList : List Structure :=
  [{ name := "s", size := 0, members := [
    { name := "z", typeName := "undefined", size := 0 },
    { name := "a", typeName := "long", size := 0xFFFFFFFFFFFFFFFF },
    { name := "b", typeName := "int", size := 4 },
    { name := "", typeName := "", size := 0 }] }]

theorem capture_saturatedList : ∃ host,
    Access.replaceStructures saturatedList { database := { structures := [{
        name := "old", size := 1 }] } } = .ok () host
      ∧ Access.capture host = .ok saturatedList host := by
  have haccepted : Access.replaceStructures saturatedList { database := { structures := [{
      name := "old", size := 1 }] } } = .ok () { database := {
        structures := saturatedList.map StoredStructure.layOut } } :=
    Access.replaceStructures_eq_ok.mpr ⟨by decide, rfl⟩
  exact ⟨_, haccepted, (capture_of_replaceStructures haccepted).1⟩

end StructVault

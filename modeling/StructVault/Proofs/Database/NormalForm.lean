import StructVault.Proofs.Database.Validity

/-!
# What a restore changes

A capture that is put back makes a database in normal form (`Database.renewed_normal`). It holds the
same structures for everyone who captures it, but not always the same data: members lie back to back
in the order they were listed in, and an unknown type is nothing, whatever it was before. A database
that is stored this way already (`StoredStructure.BackToBack`) is left as it is, and no other one.

Sorting is what makes the two directions of this differ. Members that lie back to back are in the
order of their offsets, so they are captured in the order of the store; and what a restore stores
lies back to back, so if it is what was there before, then this was in order too. From there on only
the single members have to be compared (`placeFrom_map_contents_eq_iff`).
-/

namespace StructVault

/-- Every member lies at the sum of the sizes stored before it, or at the largest size, and no
unknown type is spelled out. -/
def StoredStructure.BackToBack (stored : StoredStructure) : Prop :=
  ∀ j member, stored.members[j]? = some member →
    member.offset.toNat = min ((stored.members.take j).map (·.size.toNat)).sum (2 ^ 64 - 1)
      ∧ member.typeName ≠ some "undefined"

/-- The database that is made of what is captured from another one. -/
def Database.renewed (database : Database) : Except Database.Error Database :=
  match Access.capture { database } with
  | .ok structures _ => ofStructures structures
  | .error error _ => .error error

/-! ## Members -/

/-- A member that is captured and placed again is the same exactly if it lies there already and does
not spell out an unknown type. -/
theorem StoredMember.place_contents_eq_iff {offset : ByteSize} {stored : StoredMember} :
    place offset stored.contents = stored ↔
      offset = stored.offset ∧ stored.typeName ≠ some Member.undefinedType := by
  obtain ⟨lies, name, typeName, comment, size⟩ := stored
  cases typeName with
  | none => simp [place, contents, Member.isUndefined]
  | some typeName =>
    by_cases hundefined : typeName = Member.undefinedType
    · simp [place, contents, Member.isUndefined, hundefined]
    · simp [place, contents, Member.isUndefined, hundefined]

namespace StoredStructure

/-- Members that are captured in the order of the store and placed again from an offset on. -/
theorem placeFrom_map_contents_eq_iff {members : List StoredMember} {offset : ByteSize} :
    placeFrom offset (members.map StoredMember.contents) = members ↔
      ∀ j member, members[j]? = some member →
        member.offset.toNat
            = min (offset.toNat + ((members.take j).map (·.size.toNat)).sum) ByteSize.largest
          ∧ member.typeName ≠ some Member.undefinedType := by
  induction members generalizing offset with
  | nil => simp [placeFrom]
  | cons first rest ih =>
    have hfits := ByteSize.toNat_le_largest offset
    have hstep : placeFrom offset ((first :: rest).map StoredMember.contents)
        = StoredMember.place offset first.contents
          :: placeFrom (ByteSize.add offset first.size) (rest.map StoredMember.contents) := rfl
    rw [hstep, List.cons.injEq, StoredMember.place_contents_eq_iff, ih, ByteSize.toNat_add]
    constructor
    · rintro ⟨⟨rfl, htype⟩, hrest⟩ j member hmember
      cases j with
      | zero =>
        cases hmember
        refine ⟨?_, htype⟩
        rw [List.take_zero, List.map_nil, List.sum_nil]
        omega
      | succ j =>
        obtain ⟨hoffset, hnamed⟩ := hrest j member hmember
        refine ⟨?_, hnamed⟩
        -- a sum that stopped early stops at the end too
        rw [hoffset, List.take_succ_cons, List.map_cons, List.sum_cons]
        omega
    · intro hall
      obtain ⟨hoffset, htype⟩ := hall 0 first rfl
      rw [List.take_zero, List.map_nil, List.sum_nil] at hoffset
      refine ⟨⟨UInt64.toNat_inj.mp (by omega), htype⟩, fun j member hmember => ?_⟩
      obtain ⟨hoffset, hnamed⟩ := hall (j + 1) member hmember
      refine ⟨?_, hnamed⟩
      rw [hoffset, List.take_succ_cons, List.map_cons, List.sum_cons]
      omega

/-! ## Structures -/

/-- What was placed from offset zero on is in the order of its offsets. -/
theorem pairwise_of_placed {stored : StoredStructure} {members : List Member}
    (h : placeFrom 0 members = stored.members) :
    stored.members.Pairwise fun a b => a.offset ≤ b.offset := by
  rw [← h]
  exact pairwise_offset_placeFrom 0 members

/-- Where the store is in the order of the offsets, only the members have to be compared. -/
theorem layOut_contents_eq_of_pairwise {stored : StoredStructure}
    (h : stored.members.Pairwise fun a b => a.offset ≤ b.offset) :
    layOut stored.contents = stored ↔
      placeFrom 0 (stored.members.map StoredMember.contents) = stored.members := by
  have hmembers : stored.contents.members = stored.members.map StoredMember.contents := by
    rw [contents_members, listed_of_pairwise h]
  rw [← hmembers]
  constructor
  · intro hsame
    exact congrArg StoredStructure.members hsame
  · intro hplaced
    show StoredStructure.mk stored.name stored.comment stored.size _ = stored
    rw [hplaced]

/-- **Structures in normal form** are those that a restore stores as they were. -/
theorem layOut_contents_eq_iff {stored : StoredStructure} :
    layOut stored.contents = stored ↔ stored.BackToBack := by
  have hplaced : placeFrom 0 (stored.members.map StoredMember.contents) = stored.members
      ↔ stored.BackToBack := by
    rw [placeFrom_map_contents_eq_iff]
    simp only [UInt64.toNat_zero, Nat.zero_add]
    rfl
  constructor
  · intro hsame
    have hordered := pairwise_of_placed (congrArg StoredStructure.members hsame)
    exact hplaced.mp ((layOut_contents_eq_of_pairwise hordered).mp hsame)
  · intro hback
    have hordered := pairwise_of_placed (hplaced.mpr hback)
    exact (layOut_contents_eq_of_pairwise hordered).mpr (hplaced.mpr hback)

end StoredStructure

/-! ## Databases -/

namespace Database

variable {database : Database}

theorem renewed_eq (database : Database) :
    database.renewed = ofStructures database.contents := by
  unfold renewed
  rw [Access.capture_eq_contents]

theorem map_layOut_contents_eq_iff {structures : List StoredStructure} :
    structures.map (fun stored => StoredStructure.layOut stored.contents) = structures ↔
      ∀ stored ∈ structures, stored.BackToBack := by
  induction structures with
  | nil => simp
  | cons first rest ih =>
    rw [List.map_cons, List.cons.injEq, ih, StoredStructure.layOut_contents_eq_iff,
      List.forall_mem_cons]

/-- **Restoring is a normal form.** What is captured from a valid database can be made a database
again, which gives the same capture and is itself left as it is when this is repeated. It is the
database it came from exactly if in there each member lies at the sum of the sizes stored before it,
held at the largest size, and no member has the name of an unknown type for its type. -/
theorem renewed_normal (h : Valid database.structures) : ∃ normal,
    database.renewed = .ok normal ∧ normal.renewed = .ok normal
      ∧ (∃ structures, Access.capture { database } = .ok structures { database }
        ∧ Access.capture { database := normal } = .ok structures { database := normal })
      ∧ (normal = database ↔ ∀ stored ∈ database.structures, stored.BackToBack) := by
  have hvalid := valid_layOut_contents h
  have hcontents := contents_layOut database.contents
  have hrenewed := ofStructures_eq_ok.mpr ⟨hvalid, rfl⟩
  refine ⟨{ structures := database.contents.map StoredStructure.layOut }, ?_, ?_, ?_, ?_⟩
  · rw [renewed_eq, hrenewed]
  · rw [renewed_eq, hcontents, hrenewed]
  · refine ⟨database.contents, Access.capture_eq_contents database, ?_⟩
    have hcapture := Access.capture_eq_contents
      { structures := database.contents.map StoredStructure.layOut }
    rw [hcontents] at hcapture
    exact hcapture
  · obtain ⟨structures⟩ := database
    rw [Database.mk.injEq, ← map_layOut_contents_eq_iff]
    show (structures.map _).map _ = structures ↔ _
    rw [List.map_map]
    rfl

/-- A member with a spelled-out unknown type in front of one that lies before it, and a gap. -/
def gappedDatabase : Database where
  structures := [
    { name := "s", size := 24, members := [
      { offset := 16, name := "b", typeName := some "undefined", size := 4 },
      { offset := 0, name := "a", typeName := some "int", size := 4 }] },
    { name := "t", size := 0 }]

theorem renewed_gappedDatabase : Valid gappedDatabase.structures ∧ ∃ normal,
    gappedDatabase.renewed = .ok normal ∧ normal.renewed = .ok normal ∧ normal ≠ gappedDatabase := by
  have hvalid : Valid gappedDatabase.structures := firstBreach_eq_none_iff.mp (by decide)
  obtain ⟨normal, hrenewed, hagain, -, hsame⟩ := renewed_normal hvalid
  refine ⟨hvalid, normal, hrenewed, hagain, fun heq => ?_⟩
  obtain ⟨hfirst, -⟩ := hsame.mp heq _ List.mem_cons_self 0 _ rfl
  exact absurd hfirst (by decide)

end Database

end StructVault

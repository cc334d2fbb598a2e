import StructVault.Proofs.Snapshot.Invariants
import StructVault.Proofs.Snapshot.RoundTrip

/-!
# Room for records

The decoder makes room for as many records as a count promises before it reads the first of them.
A count is checked against the bytes that are left at that moment only, so the question is whether
many counts that are plausible one by one can add up. They cannot (`reservedRecords_le`), because
the bytes that a count was checked against are used up by the time the next one is read.

- `Cursor.account`: the least bytes of all records that room was made for, and the bytes still left.
- `Reader.Affords`: a reader that never raises the account. A run that ends in the middle of a record
  leaves room that nothing was read into, but not more than there were bytes for.
- `Reader.MakesNoRoom`: readers of fields and of members leave the room as it is.
-/

namespace StructVault.Snapshot

open Steps

/-! ## Fields and members -/

namespace Reader

variable {α : Type}

/-- Readers that take bytes and make no room. -/
def MakesNoRoom (reader : Reader α) : Prop :=
  ∀ reserved left, Keeps (fun cursor => cursor.reserved = reserved ∧ cursor.rest.length ≤ left)
    (fun _ cursor => cursor.reserved = reserved) reader

theorem MakesNoRoom.ok {reader : Reader α} (h : MakesNoRoom reader) {before after : Cursor}
    {value : α} (hr : reader before = .ok value after) :
    after.reserved = before.reserved ∧ after.rest.length ≤ before.rest.length :=
  (h before.reserved before.rest.length).ok ⟨rfl, Nat.le_refl _⟩ hr

theorem MakesNoRoom.error {reader : Reader α} (h : MakesNoRoom reader) {before after : Cursor}
    {error : Error} (hr : reader before = .error error after) :
    after.reserved = before.reserved :=
  (h before.reserved before.rest.length).error ⟨rfl, Nat.le_refl _⟩ hr

theorem keptByFields_room (reserved left : Nat) :
    KeptByFields (fun cursor => cursor.reserved = reserved ∧ cursor.rest.length ≤ left)
      (fun _ cursor => cursor.reserved = reserved) where
  take field count := by
    constructor
    · intro before after bytes hbefore h
      obtain ⟨-, hrest, -, hreserved⟩ := take_eq_ok.mp h
      rw [hrest, List.length_append] at hbefore
      exact ⟨hreserved.trans hbefore.1, by omega⟩
    · intro before after error hbefore h
      obtain ⟨-, -, rfl⟩ := take_eq_error.mp h
      exact hbefore.1
  invalidText _ _ _ hcursor := hcursor.1

theorem makesNoRoom_text (field : Field) : MakesNoRoom (text field) :=
  fun reserved left => (keptByFields_room reserved left).text field

theorem makesNoRoom_size (field : Field) : MakesNoRoom (size field) :=
  fun reserved left => (keptByFields_room reserved left).size field

theorem makesNoRoom_word (field : Field) : MakesNoRoom (word field) :=
  fun reserved left => (keptByFields_room reserved left).word field

theorem makesNoRoom_members (count : Nat) : MakesNoRoom (Reader.replicate readMember count) :=
  fun reserved left => keeps_replicate (keptByFields_room reserved left).member count

/-! ## The account -/

end Reader

/-- **The account of a cursor**: what the records that room was made for occupy at least, and the
bytes that are left. -/
def Cursor.account (cursor : Cursor) : Nat := leastMember * cursor.reserved + cursor.rest.length

namespace Reader

variable {α : Type} {budget : Nat}

/-- **Affordable reading**: the account stays within the budget as long as records are read, and
where reading fails the room alone is still within it. -/
def Affords (budget : Nat) (reader : Reader α) : Prop :=
  Keeps (fun cursor => cursor.account ≤ budget)
    (fun _ cursor => leastMember * cursor.reserved ≤ budget) reader

theorem MakesNoRoom.affords {reader : Reader α} (h : MakesNoRoom reader) (budget : Nat) :
    Affords budget reader := by
  constructor
  · intro before after value hbudget hr
    obtain ⟨hreserved, hrest⟩ := h.ok hr
    unfold Cursor.account at hbudget ⊢
    rw [hreserved]
    omega
  · intro before after error hbudget hr
    have hreserved := h.error hr
    unfold Cursor.account at hbudget
    rw [hreserved]
    omega

end Reader

/-- Room for the members of a structure is paid for by the members: it is made only if the bytes
for them are there, and when they have been read these bytes are gone. -/
theorem affords_readMembers (budget : Nat) (count : UInt32) :
    Reader.Affords budget (readMembers true count) := by
  constructor
  · intro before after members hbudget hr
    obtain ⟨n, middle, hcheck, hloop⟩ := bind_eq_ok.mp hr
    obtain ⟨-, rfl, rfl⟩ := Reader.checkCount_eq_ok.mp hcheck
    obtain ⟨bytes, ⟨hlen, hall⟩, hrest, -⟩ := (reads_member.replicate count.toNat).takes hloop
    have hused := mul_le_length_of_encodeAll (fun _ _ => leastMember_le) hall
    have hreserved := ((Reader.makesNoRoom_members count.toNat).ok hloop).1
    have hleft : before.rest.length = bytes.length + after.rest.length := by
      rw [← List.length_append, ← hrest]
    simp only [Cursor.account, leastMember] at hbudget hused hreserved ⊢
    omega
  · intro before after error hbudget hr
    rcases bind_eq_error.mp hr with hcheck | ⟨n, middle, hcheck, hloop⟩
    · obtain ⟨-, -, -, rfl⟩ := Reader.checkCount_eq_error.mp hcheck
      exact Nat.le_trans (Nat.le_add_right _ _) hbudget
    · -- the members were not read to their end: the bytes the check saw stand for all of them
      obtain ⟨hroom, rfl, rfl⟩ := Reader.checkCount_eq_ok.mp hcheck
      have hreserved := (Reader.makesNoRoom_members count.toNat).error hloop
      have hchecked := hroom rfl
      simp only [Cursor.account, leastMember] at hbudget hchecked hreserved ⊢
      omega

theorem affords_readStructure (budget : Nat) : Reader.Affords budget (readStructure true) := by
  rw [readStructure_eq]
  refine ((Reader.makesNoRoom_text _).affords budget).bind fun name =>
    ((Reader.makesNoRoom_text _).affords budget).bind fun comment =>
    ((Reader.makesNoRoom_size _).affords budget).bind fun size =>
    ((Reader.makesNoRoom_word _).affords budget).bind fun count =>
    (affords_readMembers budget count).bind fun members => Keeps.pure _

theorem affords_readEnd (budget : Nat) (structures : List Structure) :
    Reader.Affords budget (readEnd structures) := by
  constructor
  · intro before after value hbudget hr
    rw [readEnd_apply] at hr
    split at hr
    · cases hr
      exact hbudget
    · cases hr
  · intro before after error hbudget hr
    rw [readEnd_apply] at hr
    split at hr
    · cases hr
    · cases hr
      exact Nat.le_trans (Nat.le_add_right _ _) hbudget

/-! ## Bodies -/

/-- The structures of a body and its end, behind the check of their number. -/
theorem affords_records (budget count : Nat) : Reader.Affords budget
    (Reader.replicate (readStructure true) count >>= readEnd) :=
  (Reader.keeps_replicate (affords_readStructure budget) count).bind (affords_readEnd budget)

/-- The first count makes room where there was none, and leaves all bytes: they count twice. -/
theorem account_of_structureCount {announced : UInt32} {n : Nat} {before after : Cursor}
    (hnone : before.reserved = 0)
    (h : Reader.checkCount true .structureCount leastStructure announced before = .ok n after) :
    after.account ≤ 2 * before.rest.length := by
  obtain ⟨hroom, rfl, rfl⟩ := Reader.checkCount_eq_ok.mp h
  have hchecked := hroom rfl
  simp only [Cursor.account, leastStructure, leastMember, hnone] at hchecked ⊢
  omega

/-- However the reading of a body ends, the room that was made would not have filled it twice. -/
theorem reserved_of_readBody (announced : UInt32) {start : Cursor} (hnone : start.reserved = 0) :
    (∀ structures final, readBody true announced start = .ok structures final →
      leastMember * final.reserved ≤ 2 * start.rest.length)
    ∧ ∀ error final, readBody true announced start = .error error final →
      leastMember * final.reserved ≤ 2 * start.rest.length := by
  rw [readBody_eq, readRecords, bind_assoc]
  constructor
  · intro structures final hbody
    obtain ⟨count, middle, hcheck, hrecords⟩ := bind_eq_ok.mp hbody
    have hmiddle := account_of_structureCount hnone hcheck
    have hfinal := (affords_records _ count).ok hmiddle hrecords
    exact Nat.le_trans (Nat.le_add_right _ _) hfinal
  · intro error final hbody
    rcases bind_eq_error.mp hbody with hcheck | ⟨count, middle, hcheck, hrecords⟩
    · obtain ⟨-, -, -, rfl⟩ := Reader.checkCount_eq_error.mp hcheck
      rw [hnone]
      exact Nat.zero_le _
    · have hmiddle := account_of_structureCount hnone hcheck
      exact (affords_records _ count).error hmiddle hrecords

theorem mul_reservedRecords_le (data : Bytes) :
    leastMember * reservedRecords data ≤ 2 * (data.length - Header.size) := by
  unfold reservedRecords
  cases Header.parse data with
  | error error => exact Nat.zero_le _
  | ok header =>
    have hnone : (bodyStart data).reserved = 0 := rfl
    obtain ⟨hok, herror⟩ := reserved_of_readBody header.structureCount hnone
    have hleft : (bodyStart data).rest.length = data.length - Header.size := List.length_drop
    rw [hleft] at hok herror
    dsimp only
    cases hbody : readBody true header.structureCount (bodyStart data) with
    | ok structures final => exact hok structures final hbody
    | error error final => exact herror error final hbody

/-! ## Complete files -/

theorem reserved_of_readMembers {count : UInt32} {before after : Cursor} {members : List Member}
    (h : readMembers true count before = .ok members after) :
    after.reserved = before.reserved + members.length := by
  obtain ⟨bytes, ⟨hlen, -⟩, -⟩ := (reads_members true count).takes h
  obtain ⟨n, middle, hcheck, hloop⟩ := bind_eq_ok.mp h
  obtain ⟨-, rfl, rfl⟩ := Reader.checkCount_eq_ok.mp hcheck
  rw [((Reader.makesNoRoom_members count.toNat).ok hloop).1, hlen]

/-- A structure that was read made room for its members. -/
theorem reserved_of_readStructure {before after : Cursor} {struct : Structure}
    (h : readStructure true before = .ok struct after) :
    after.reserved = before.reserved + struct.members.length := by
  rw [readStructure_eq] at h
  obtain ⟨name, behindName, hname, h⟩ := bind_eq_ok.mp h
  obtain ⟨comment, behindComment, hcomment, h⟩ := bind_eq_ok.mp h
  obtain ⟨size, behindSize, hsize, h⟩ := bind_eq_ok.mp h
  obtain ⟨count, behindCount, hcount, h⟩ := bind_eq_ok.mp h
  obtain ⟨members, behindMembers, hmembers, h⟩ := bind_eq_ok.mp h
  cases h
  have hname := ((Reader.makesNoRoom_text _).ok hname).1
  have hcomment := ((Reader.makesNoRoom_text _).ok hcomment).1
  have hsize := ((Reader.makesNoRoom_size _).ok hsize).1
  have hcount := ((Reader.makesNoRoom_word _).ok hcount).1
  rw [reserved_of_readMembers hmembers, hcount, hsize, hcomment, hname]

theorem reserved_of_replicate {count : Nat} {before after : Cursor}
    {structures : List Structure}
    (h : Reader.replicate (readStructure true) count before = .ok structures after) :
    after.reserved = before.reserved + memberCount structures := by
  induction count generalizing before structures with
  | zero =>
    cases h
    rfl
  | succ count ih =>
    obtain ⟨first, middle, hfirst, h⟩ := bind_eq_ok.mp h
    obtain ⟨rest, last, hrest, h⟩ := bind_eq_ok.mp h
    cases h
    rw [ih hrest, reserved_of_readStructure hfirst, memberCount_cons, Nat.add_assoc]

/-- A body that was read to its end made room for what it holds. -/
theorem reserved_of_complete {announced : UInt32} {start final : Cursor}
    {structures : List Structure} (hnone : start.reserved = 0)
    (h : readBody true announced start = .ok structures final) :
    final.reserved = structures.length + memberCount structures := by
  have hlen : structures.length = announced.toNat :=
    (readBody_eq_ok.mp (outcome_eq_ok.mpr ⟨final, h⟩)).1
  rw [readBody_eq, readRecords, bind_assoc] at h
  obtain ⟨count, checked, hcheck, h⟩ := bind_eq_ok.mp h
  obtain ⟨values, behind, hvalues, hend⟩ := bind_eq_ok.mp h
  obtain ⟨-, rfl, rfl⟩ := Reader.checkCount_eq_ok.mp hcheck
  rw [readEnd_apply] at hend
  split at hend
  · cases hend
    rw [reserved_of_replicate hvalues, hnone, Nat.zero_add, hlen]
  · cases hend

theorem reservedRecords_of_decode {verifyChecksum : Bool} {data : Bytes}
    {structures : List Structure} (h : decode verifyChecksum data = .ok structures) :
    reservedRecords data = structures.length + memberCount structures := by
  unfold decode at h
  rw [decodeWith_eq_bind] at h
  obtain ⟨header, hparse, h⟩ := attempt_bind_eq_ok.mp h
  obtain ⟨values, hbody, h⟩ := attempt_bind_eq_ok.mp h
  obtain ⟨-, -, h⟩ := attempt_bind_eq_ok.mp h
  cases h
  obtain ⟨final, hfinal⟩ := outcome_eq_ok.mp hbody
  unfold reservedRecords
  rw [hparse]
  dsimp only
  rw [hfinal]
  exact reserved_of_complete rfl hfinal

theorem length_of_decode {verifyChecksum : Bool} {data : Bytes} {structures : List Structure}
    (h : decode verifyChecksum data = .ok structures) :
    data.length = 16 + 20 * (structures.length + memberCount structures)
      + textSize structures := by
  obtain ⟨-, body, crc, hbody, rfl, -⟩ := decode_eq_ok_iff.mp h
  rw [List.length_append, Header.length_toBytes, length_of_body hbody, ← Nat.add_assoc]
  rfl

/-- **Counts cannot inflate the work**: the records that room is made for are at most a tenth of
the bytes of the body, however the decoding ends. Where it ends with a list, room was made for the
records of this list and for no others, and each of them takes twenty bytes of the file besides its
texts. -/
theorem reservedRecords_le (data : Bytes) :
    reservedRecords data ≤ (data.length - 16) / 10
      ∧ ∀ verifyChecksum structures, decode verifyChecksum data = .ok structures →
        reservedRecords data = structures.length + memberCount structures
          ∧ data.length = 16 + 20 * (structures.length + memberCount structures)
            + textSize structures := by
  constructor
  · have hroom := mul_reservedRecords_le data
    simp only [leastMember, Header.size] at hroom
    omega
  · intro verifyChecksum structures h
    exact ⟨reservedRecords_of_decode h, length_of_decode h⟩

/-- A structure `s` with the members `x` and `y` of the types `int` and nothing, and one without a
name and without members. -/
def pointFile : Bytes :=
  [83, 80, 83, 84, 1, 0, 0, 0, 2, 0, 0, 0, 0, 0, 0, 0,
    1, 0, 0, 0, 115, 0, 0, 0, 0, 8, 0, 0, 0, 0, 0, 0, 0, 2, 0, 0, 0,
    1, 0, 0, 0, 120, 3, 0, 0, 0, 105, 110, 116, 0, 0, 0, 0, 4, 0, 0, 0, 0, 0, 0, 0,
    1, 0, 0, 0, 121, 0, 0, 0, 0, 0, 0, 0, 0, 4, 0, 0, 0, 0, 0, 0, 0,
    0, 0, 0, 0, 0, 0, 0, 0, 0, 0, 0, 0, 0, 0, 0, 0, 0, 0, 0, 0]

/-- What the file holds. -/
def pointList : List Structure :=
  [{ name := "s", size := 8, members := [
      { name := "x", typeName := "int", size := 4 }, { name := "y", typeName := "", size := 4 }] },
    { name := "", size := 0 }]

theorem reservedRecords_pointFile : decode false pointFile = .ok pointList
    ∧ reservedRecords pointFile = 4 ∧ reservedRecords pointFile ≤ 8
    ∧ pointFile.length = 16 + 20 * 4 + 6 := by
  have hdecode : decode false pointFile = .ok pointList := by decide +kernel
  obtain ⟨hle, hcomplete⟩ := reservedRecords_le pointFile
  obtain ⟨hroom, hlength⟩ := hcomplete false pointList hdecode
  exact ⟨hdecode, hroom, hle, hlength⟩

end StructVault.Snapshot

import StructVault.Proofs.Snapshot.Reads

/-!
# Records

The readers of records take exactly what the encoders of records write (`reads_member`,
`reads_structure`), with or without the count check. The check has no part in it because it asks
for no more bytes than the records it announces occupy: the length of a record is its fixed part
and its texts (`length_of_encodeMember`, `length_of_encodeStructure`), so it is never less than
`leastMember` and `leastStructure`.

From the two sides together a list of records is unambiguous even when nobody says how long it is
(`encodeAll_injective`): no record is empty, and no record is the beginning of another one. The
header of a snapshot therefore cannot announce any other number of structures than its body holds
(`body_unique`).
-/

namespace StructVault.Snapshot

open Steps

/-! ## What the encoders of records write -/

theorem encodeMember_eq_ok {member : Member} {bytes : Bytes} :
    encodeMember member = .ok bytes ↔ ∃ name typeName comment,
      encodeText .memberName member.name = .ok name
        ∧ encodeText .memberType member.typeName = .ok typeName
        ∧ encodeText .memberComment member.comment = .ok comment
        ∧ bytes = name ++ typeName ++ comment ++ encodeSize member.size := by
  simp only [encodeMember, attempt_bind_eq_ok, Except.ok.injEq]
  constructor
  · rintro ⟨name, hname, typeName, htype, comment, hcomment, rfl⟩
    exact ⟨name, typeName, comment, hname, htype, hcomment, rfl⟩
  · rintro ⟨name, typeName, comment, hname, htype, hcomment, rfl⟩
    exact ⟨name, hname, typeName, htype, comment, hcomment, rfl⟩

theorem encodeStructure_eq_ok {struct : Structure} {bytes : Bytes} :
    encodeStructure struct = .ok bytes ↔ ∃ name comment count members,
      encodeText .structureName struct.name = .ok name
        ∧ encodeText .structureComment struct.comment = .ok comment
        ∧ encodeCount .memberCount struct.members.length = .ok count
        ∧ encodeAll encodeMember struct.members = .ok members
        ∧ bytes = name ++ comment ++ encodeSize struct.size ++ count ++ members := by
  simp only [encodeStructure, attempt_bind_eq_ok, Except.ok.injEq]
  constructor
  · rintro ⟨name, hname, comment, hcomment, count, hcount, members, hmembers, rfl⟩
    exact ⟨name, comment, count, members, hname, hcomment, hcount, hmembers, rfl⟩
  · rintro ⟨name, comment, count, members, hname, hcomment, hcount, hmembers, rfl⟩
    exact ⟨name, hname, comment, hcomment, count, hcount, members, hmembers, rfl⟩

/-! ## Lengths -/

theorem length_of_encodeText {field : Field} {text : String} {bytes : Bytes}
    (h : encodeText field text = .ok bytes) : bytes.length = 4 + text.utf8ByteSize := by
  obtain ⟨-, rfl⟩ := encodeText_eq_ok.mp h
  rw [List.length_append, LittleEndian.length_encode, Text.length_encode]

theorem length_encodeSize (size : ByteSize) : (encodeSize size).length = 8 :=
  LittleEndian.length_encode 8 _

/-- The length of records one after the other, from the length of each. -/
theorem length_of_encodeAll {α : Type} {encodeOne : α → Except Error Bytes} {size : α → Nat}
    (hone : ∀ a bytes, encodeOne a = .ok bytes → bytes.length = size a) :
    ∀ {values : List α} {bytes : Bytes}, encodeAll encodeOne values = .ok bytes →
      bytes.length = (values.map size).sum
  | [], bytes, h => by
    cases h
    rfl
  | first :: rest, bytes, h => by
    obtain ⟨front, back, hfront, hback, rfl⟩ := encodeAll_cons_eq_ok.mp h
    rw [List.length_append, hone first front hfront, length_of_encodeAll hone hback,
      List.map_cons, List.sum_cons]

theorem length_of_encodeMember {member : Member} {bytes : Bytes}
    (h : encodeMember member = .ok bytes) :
    bytes.length = leastMember + memberTextSize member := by
  obtain ⟨name, typeName, comment, hname, htype, hcomment, rfl⟩ := encodeMember_eq_ok.mp h
  simp only [List.length_append, length_of_encodeText hname, length_of_encodeText htype,
    length_of_encodeText hcomment, length_encodeSize, leastMember, memberTextSize]
  omega

/-- The fixed parts and the texts of records add up apart. -/
theorem sum_fixed_add {α : Type} (fixed : Nat) (size : α → Nat) (values : List α) :
    (values.map fun a => fixed + size a).sum
      = fixed * values.length + (values.map size).sum := by
  induction values with
  | nil => rfl
  | cons first rest ih =>
    simp only [List.map_cons, List.sum_cons, List.length_cons, ih, Nat.mul_succ]
    omega

theorem length_of_encodeStructure {struct : Structure} {bytes : Bytes}
    (h : encodeStructure struct = .ok bytes) :
    bytes.length = leastStructure + leastMember * struct.members.length
      + structureTextSize struct := by
  obtain ⟨name, comment, count, members, hname, hcomment, hcount, hmembers, rfl⟩ :=
    encodeStructure_eq_ok.mp h
  obtain ⟨-, rfl⟩ := encodeCount_eq_ok.mp hcount
  have hlen := length_of_encodeAll (fun _ _ => length_of_encodeMember) hmembers
  rw [sum_fixed_add] at hlen
  simp only [List.length_append, length_of_encodeText hname, length_of_encodeText hcomment,
    length_encodeSize, LittleEndian.length_encode, hlen, leastStructure, structureTextSize,
    ← List.sum_eq_foldr]
  omega

theorem textSize_cons (first : Structure) (rest : List Structure) :
    textSize (first :: rest) = structureTextSize first + textSize rest := rfl

/-- The length of a body: twenty bytes for every record, and the texts. -/
theorem length_of_body {structures : List Structure} {body : Bytes}
    (h : encodeAll encodeStructure structures = .ok body) :
    body.length = 20 * (structures.length + memberCount structures) + textSize structures := by
  induction structures generalizing body with
  | nil =>
    cases h
    rfl
  | cons first rest ih =>
    obtain ⟨front, back, hfront, hback, rfl⟩ := encodeAll_cons_eq_ok.mp h
    have hone := length_of_encodeStructure hfront
    have hrest := ih hback
    simp only [leastStructure, leastMember] at hone
    rw [List.length_append, List.length_cons, memberCount_cons, textSize_cons]
    omega

/-- Records of at least `least` bytes each occupy at least `least` bytes for each. -/
theorem mul_le_length_of_encodeAll {α : Type} {encodeOne : α → Except Error Bytes} {least : Nat}
    (hleast : ∀ a bytes, encodeOne a = .ok bytes → least ≤ bytes.length) :
    ∀ {values : List α} {bytes : Bytes}, encodeAll encodeOne values = .ok bytes →
      values.length * least ≤ bytes.length
  | [], bytes, _ => by simp
  | first :: rest, bytes, h => by
    obtain ⟨front, back, hfront, hback, rfl⟩ := encodeAll_cons_eq_ok.mp h
    have hf := hleast first front hfront
    have hb := mul_le_length_of_encodeAll hleast hback
    rw [List.length_cons, List.length_append, Nat.succ_mul]
    omega

theorem leastMember_le {member : Member} {bytes : Bytes} (h : encodeMember member = .ok bytes) :
    leastMember ≤ bytes.length := by
  rw [length_of_encodeMember h]
  exact Nat.le_add_right _ _

theorem leastStructure_le {struct : Structure} {bytes : Bytes}
    (h : encodeStructure struct = .ok bytes) : leastStructure ≤ bytes.length := by
  rw [length_of_encodeStructure h]
  omega

/-! ## What readers take -/

namespace Reader

variable {α : Type}

theorem checkCount_eq_ok {guarded : Bool} {field : Field} {least n : Nat} {count : UInt32}
    {before after : Cursor} : checkCount guarded field least count before = .ok n after ↔
      (guarded = true → count.toNat * least ≤ before.rest.length) ∧ n = count.toNat
        ∧ after = { before with reserved := before.reserved + count.toNat } := by
  unfold checkCount
  by_cases hlong : count.toNat * least ≤ before.rest.length
  · have hcan : hasAtLeast (count.toNat * least) before.rest = true :=
      (hasAtLeast_iff _ _).mpr hlong
    rw [hcan]
    simp [hlong, eq_comm]
  · have hcannot : hasAtLeast (count.toNat * least) before.rest = false :=
      Bool.eq_false_iff.mpr fun h => hlong ((hasAtLeast_iff _ _).mp h)
    rw [hcannot]
    cases guarded <;> simp [hlong, eq_comm]

theorem checkCount_eq_error {guarded : Bool} {field : Field} {least : Nat} {count : UInt32}
    {before after : Cursor} {error : Error} :
    checkCount guarded field least count before = .error error after ↔
      guarded = true ∧ before.rest.length < count.toNat * least
        ∧ error = .countOutOfRange field count before.offset ∧ after = before := by
  unfold checkCount
  by_cases hlong : count.toNat * least ≤ before.rest.length
  · have hcan : hasAtLeast (count.toNat * least) before.rest = true :=
      (hasAtLeast_iff _ _).mpr hlong
    rw [hcan]
    simp [Nat.not_lt.mpr hlong]
  · have hcannot : hasAtLeast (count.toNat * least) before.rest = false :=
      Bool.eq_false_iff.mpr fun h => hlong ((hasAtLeast_iff _ _).mp h)
    rw [hcannot]
    cases guarded <;> simp [Nat.lt_of_not_le hlong, eq_comm]

/-- **The count check is invisible in success**: a checked number of records is read exactly
where that many records stand, because they alone are long enough for the check to pass. -/
theorem reads_counted {reader : Reader α} {encodeOne : α → Except Error Bytes} {least : Nat}
    (h : Reads reader fun a bytes => encodeOne a = .ok bytes)
    (hleast : ∀ a bytes, encodeOne a = .ok bytes → least ≤ bytes.length)
    (guarded : Bool) (field : Field) (count : UInt32) :
    Reads (checkCount guarded field least count >>= Reader.replicate reader)
      (fun values bytes =>
        values.length = count.toNat ∧ encodeAll encodeOne values = .ok bytes) where
  accepts := by
    rintro values bytes ⟨hlen, hall⟩ offset rest reserved
    -- the records that were announced are there, and they alone have the bytes the check wants
    have hroom := mul_le_length_of_encodeAll hleast hall
    rw [hlen] at hroom
    have hcheck : checkCount guarded field least count ⟨offset, bytes ++ rest, reserved⟩
        = .ok count.toNat ⟨offset, bytes ++ rest, reserved + count.toNat⟩ := by
      refine checkCount_eq_ok.mpr ⟨fun _ => ?_, rfl, rfl⟩
      rw [List.length_append]
      exact Nat.le_trans hroom (Nat.le_add_right _ _)
    obtain ⟨r, hr⟩ := (h.replicate count.toNat).accepts ⟨hlen, hall⟩ offset rest
      (reserved + count.toNat)
    exact ⟨r, by rw [bind_of_ok hcheck, hr]⟩
  takes := by
    intro values before after hr
    obtain ⟨n, middle, hcheck, hr⟩ := bind_eq_ok.mp hr
    obtain ⟨-, rfl, rfl⟩ := checkCount_eq_ok.mp hcheck
    obtain ⟨bytes, hform, hrest, hoff⟩ := (h.replicate count.toNat).takes hr
    exact ⟨bytes, hform, hrest, hoff⟩

end Reader

/-- **Member records**: read exactly where `encodeMember` wrote them. -/
theorem reads_member :
    Reader.Reads readMember (fun member bytes => encodeMember member = .ok bytes) := by
  refine ((Reader.reads_text .memberName).bind fun name =>
    (Reader.reads_text .memberType).bind fun typeName =>
    (Reader.reads_text .memberComment).bind fun comment =>
    (Reader.reads_size .memberSize).bind fun size =>
    Reader.Reads.pure ({ name, typeName, comment, size } : Member)).congr fun member bytes => ?_
  rw [encodeMember_eq_ok]
  constructor
  · rintro ⟨_, name, _, hname, ⟨_, typeName, _, htype, ⟨_, comment, _, hcomment,
      ⟨_, _, _, rfl, ⟨rfl, rfl⟩, rfl⟩, rfl⟩, rfl⟩, rfl⟩
    exact ⟨name, typeName, comment, hname, htype, hcomment, by simp only [List.append_assoc,
      List.append_nil]⟩
  · rintro ⟨name, typeName, comment, hname, htype, hcomment, rfl⟩
    exact ⟨_, name, _, hname, ⟨_, typeName, _, htype, ⟨_, comment, _, hcomment,
      ⟨_, _, _, rfl, ⟨rfl, rfl⟩, rfl⟩, rfl⟩, rfl⟩, by simp only [List.append_assoc,
      List.append_nil]⟩

/-- The members of a structure behind the check of their number. -/
def readMembers (guarded : Bool) (count : UInt32) : Reader (List Member) :=
  Reader.checkCount guarded .memberCount leastMember count >>= Reader.replicate readMember

/-- The check and the loop behind it as one step, so that the check may look at the loop's bytes. -/
theorem readStructure_eq (guarded : Bool) : readStructure guarded = (do
    let name ← Reader.text .structureName
    let comment ← Reader.text .structureComment
    let size ← Reader.size .structureSize
    let count ← Reader.word .memberCount
    let members ← readMembers guarded count
    return { name, comment, size, members }) := by
  simp only [readStructure, readMembers, bind_assoc]

theorem reads_members (guarded : Bool) (count : UInt32) :
    Reader.Reads (readMembers guarded count) (fun members bytes =>
      members.length = count.toNat ∧ encodeAll encodeMember members = .ok bytes) :=
  Reader.reads_counted reads_member (fun _ _ => leastMember_le) guarded .memberCount count

/-- **Structure records**: read exactly where `encodeStructure` wrote them, whether or not the
number of members is checked beforehand. -/
theorem reads_structure (guarded : Bool) :
    Reader.Reads (readStructure guarded)
      (fun struct bytes => encodeStructure struct = .ok bytes) := by
  rw [readStructure_eq]
  refine ((Reader.reads_text .structureName).bind fun name =>
    (Reader.reads_text .structureComment).bind fun comment =>
    (Reader.reads_size .structureSize).bind fun size =>
    (Reader.reads_word .memberCount).bind fun count => (reads_members guarded count).bind fun members =>
    Reader.Reads.pure ({ name, comment, size, members } : Structure)).congr fun struct bytes => ?_
  rw [encodeStructure_eq_ok]
  constructor
  · rintro ⟨_, name, _, hname, ⟨_, comment, _, hcomment, ⟨_, _, _, rfl, ⟨count, _, _, rfl,
      ⟨_, members, _, ⟨hlen, hmembers⟩, ⟨rfl, rfl⟩, rfl⟩, rfl⟩, rfl⟩, rfl⟩, rfl⟩
    refine ⟨name, comment, _, members, hname, hcomment, encodeCount_eq_ok.mpr ⟨?_, rfl⟩,
      hmembers, ?_⟩
    · rw [hlen]
      exact count.toNat_lt
    · simp only [hlen, List.append_assoc, List.append_nil]
  · rintro ⟨name, comment, _, members, hname, hcomment, hcount, hmembers, rfl⟩
    obtain ⟨hlt, rfl⟩ := encodeCount_eq_ok.mp hcount
    have hlen : (UInt32.ofNat struct.members.length).toNat = struct.members.length :=
      UInt32.toNat_ofNat_of_lt' hlt
    refine ⟨_, name, _, hname, ⟨_, comment, _, hcomment, ⟨_, _, _, rfl, ⟨_, _, _, rfl,
      ⟨_, members, _, ⟨hlen.symm, hmembers⟩, ⟨rfl, rfl⟩, rfl⟩, rfl⟩, rfl⟩, rfl⟩, ?_⟩
    simp only [hlen, List.append_assoc, List.append_nil]

/-! ## Records that nobody counted -/

/-- Where there is a record, there are bytes. -/
theorem encodeAll_cons_ne_nil {α : Type} {encodeOne : α → Except Error Bytes}
    (hpos : ∀ a bytes, encodeOne a = .ok bytes → 0 < bytes.length) {first : α} {rest : List α}
    {bytes : Bytes} (h : encodeAll encodeOne (first :: rest) = .ok bytes) : bytes ≠ [] := by
  obtain ⟨front, back, hfront, -, rfl⟩ := encodeAll_cons_eq_ok.mp h
  have hlen := hpos first front hfront
  intro hnil
  rw [List.append_eq_nil_iff.mp hnil |>.1] at hlen
  exact Nat.lt_irrefl 0 hlen

/-- **Lists of records are unambiguous**: bytes that are two lists of records are the same list,
also when the lists are not known to have the same length. Neither can end before the other,
because no record is empty. -/
theorem encodeAll_injective {α : Type} {reader : Reader α} {encodeOne : α → Except Error Bytes}
    (h : reader.Reads fun a bytes => encodeOne a = .ok bytes)
    (hpos : ∀ a bytes, encodeOne a = .ok bytes → 0 < bytes.length) :
    ∀ {xs ys : List α} {bytes : Bytes}, encodeAll encodeOne xs = .ok bytes →
      encodeAll encodeOne ys = .ok bytes → xs = ys
  | [], [], _, _, _ => rfl
  | [], y :: ys, _, hxs, hys =>
    absurd (Except.ok.inj hxs).symm (encodeAll_cons_ne_nil hpos hys)
  | x :: xs, [], _, hxs, hys =>
    absurd (Except.ok.inj hys).symm (encodeAll_cons_ne_nil hpos hxs)
  | x :: xs, y :: ys, bytes, hxs, hys => by
    obtain ⟨front, back, hfront, hback, rfl⟩ := encodeAll_cons_eq_ok.mp hxs
    obtain ⟨front', back', hfront', hback', heq⟩ := encodeAll_cons_eq_ok.mp hys
    -- the reader of one record cuts both lists behind the same record, the rest is shorter
    obtain ⟨rfl, rfl, rfl⟩ := h.unique hfront hfront' heq
    rw [encodeAll_injective h hpos hback hback']

/-- A body holds one list of structures only. -/
theorem body_unique {xs ys : List Structure} {body : Bytes}
    (hxs : encodeAll encodeStructure xs = .ok body)
    (hys : encodeAll encodeStructure ys = .ok body) : xs = ys :=
  encodeAll_injective (reads_structure true)
    (fun _ _ h => Nat.lt_of_lt_of_le (by decide) (leastStructure_le h)) hxs hys

end StructVault.Snapshot

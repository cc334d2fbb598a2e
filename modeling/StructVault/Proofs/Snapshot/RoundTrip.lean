import StructVault.Proofs.Bytes.Window
import StructVault.Proofs.Snapshot.Header
import StructVault.Proofs.Snapshot.Records

/-!
# Encoding and decoding are inverse to each other

`decodeWith_eq_ok_iff` says which files decode, and to what: a readable header with the number of
structures, and behind it the records of these structures and nothing else. The count checks do
not occur in it, and the checksum only if it is asked for. Next to it stands `encode_eq_ok_iff`,
which says what the encoder writes. The two laws of the format are read off both:

- `decode_encode_of_fits`: every list that fits is encoded, and decoded to itself;
- `decode_eq_ok_iff_encode`: a file is accepted exactly when it is what the encoder writes for the
  accepted list, up to the stored checksum where that is not looked at.
-/

namespace StructVault.Snapshot

open Steps

/-! ## Lists that fit -/

/-- The texts of the member are short enough for their length fields. -/
def FitsMember (member : Member) : Prop :=
  member.name.utf8ByteSize < 2 ^ 32 ∧ member.typeName.utf8ByteSize < 2 ^ 32
    ∧ member.comment.utf8ByteSize < 2 ^ 32

/-- The texts and the members of the structure fit into their length fields. -/
def FitsStructure (struct : Structure) : Prop :=
  struct.name.utf8ByteSize < 2 ^ 32 ∧ struct.comment.utf8ByteSize < 2 ^ 32
    ∧ struct.members.length < 2 ^ 32 ∧ ∀ member ∈ struct.members, FitsMember member

/-- Every text and every list of the structures fits into its length field. -/
def Fits (structures : List Structure) : Prop :=
  structures.length < 2 ^ 32 ∧ ∀ struct ∈ structures, FitsStructure struct

instance (member : Member) : Decidable (FitsMember member) :=
  inferInstanceAs (Decidable (_ ∧ _ ∧ _))

instance (struct : Structure) : Decidable (FitsStructure struct) :=
  inferInstanceAs (Decidable (_ ∧ _ ∧ _ ∧ _))

instance (structures : List Structure) : Decidable (Fits structures) :=
  inferInstanceAs (Decidable (_ ∧ _))

theorem encodeText_of_lt (field : Field) {text : String} (h : text.utf8ByteSize < 2 ^ 32) :
    ∃ bytes, encodeText field text = .ok bytes :=
  ⟨_, encodeText_eq_ok.mpr ⟨h, rfl⟩⟩

theorem encodeAll_of_forall {α : Type} {encodeOne : α → Except Error Bytes} :
    ∀ {values : List α}, (∀ a ∈ values, ∃ bytes, encodeOne a = .ok bytes) →
      ∃ bytes, encodeAll encodeOne values = .ok bytes
  | [], _ => ⟨[], rfl⟩
  | first :: rest, h => by
    obtain ⟨front, hfront⟩ := h first List.mem_cons_self
    obtain ⟨back, hback⟩ := encodeAll_of_forall fun a ha => h a (List.mem_cons_of_mem first ha)
    exact ⟨front ++ back, encodeAll_cons_eq_ok.mpr ⟨front, back, hfront, hback, rfl⟩⟩

theorem encodeMember_of_fits {member : Member} (h : FitsMember member) :
    ∃ bytes, encodeMember member = .ok bytes := by
  obtain ⟨name, hname⟩ := encodeText_of_lt .memberName h.1
  obtain ⟨typeName, htype⟩ := encodeText_of_lt .memberType h.2.1
  obtain ⟨comment, hcomment⟩ := encodeText_of_lt .memberComment h.2.2
  exact ⟨_, encodeMember_eq_ok.mpr ⟨name, typeName, comment, hname, htype, hcomment, rfl⟩⟩

theorem encodeStructure_of_fits {struct : Structure} (h : FitsStructure struct) :
    ∃ bytes, encodeStructure struct = .ok bytes := by
  obtain ⟨hlname, hlcomment, hcount, hfits⟩ := h
  obtain ⟨name, hname⟩ := encodeText_of_lt .structureName hlname
  obtain ⟨comment, hcomment⟩ := encodeText_of_lt .structureComment hlcomment
  obtain ⟨members, hmembers⟩ := encodeAll_of_forall fun m hm => encodeMember_of_fits (hfits m hm)
  exact ⟨_, encodeStructure_eq_ok.mpr ⟨name, comment, _, members, hname, hcomment,
    encodeCount_eq_ok.mpr ⟨hcount, rfl⟩, hmembers, rfl⟩⟩

/-! ## Files -/

/-- What the encoder writes. -/
theorem encode_eq_ok_iff {structures : List Structure} {data : Bytes} :
    encode structures = .ok data ↔ structures.length < 2 ^ 32 ∧ ∃ body,
      encodeAll encodeStructure structures = .ok body
        ∧ data = (Header.forBody (UInt32.ofNat structures.length) body).toBytes ++ body := by
  simp only [encode, attempt_bind_eq_ok, encodeCount_eq_ok, Except.ok.injEq]
  constructor
  · rintro ⟨_, ⟨hlt, -⟩, body, hbody, rfl⟩
    exact ⟨hlt, body, hbody, rfl⟩
  · rintro ⟨hlt, body, hbody, rfl⟩
    exact ⟨_, ⟨hlt, rfl⟩, body, hbody, rfl⟩

theorem outcome_eq_ok {α : Type} {result : EStateM.Result Error Cursor α} {a : α} :
    outcome result = .ok a ↔ ∃ cursor, result = .ok a cursor := by
  cases result with
  | ok value cursor => simp [outcome]
  | error error cursor => simp [outcome]

theorem outcome_eq_error {α : Type} {result : EStateM.Result Error Cursor α} {error : Error} :
    outcome result = .error error ↔ ∃ cursor, result = .error error cursor := by
  cases result with
  | ok value cursor => simp [outcome]
  | error error' cursor => simp [outcome]

/-- The records of a body, behind the check of their number. -/
def readRecords (guarded : Bool) (announced : UInt32) : Reader (List Structure) :=
  Reader.checkCount guarded .structureCount leastStructure announced
    >>= Reader.replicate (readStructure guarded)

/-- The end of a body, behind which nothing may be left. -/
def readEnd (structures : List Structure) : Reader (List Structure) := do
  let cursor ← get
  if cursor.rest.isEmpty then return structures else throw (.trailingBytes cursor.offset)

theorem readBody_eq (guarded : Bool) (announced : UInt32) :
    readBody guarded announced = readRecords guarded announced >>= readEnd := by
  simp only [readBody, readRecords, bind_assoc]
  rfl

theorem reads_records (guarded : Bool) (announced : UInt32) :
    Reader.Reads (readRecords guarded announced) (fun structures bytes =>
      structures.length = announced.toNat ∧ encodeAll encodeStructure structures = .ok bytes) :=
  Reader.reads_counted (reads_structure guarded) (fun _ _ => leastStructure_le) guarded
    .structureCount announced

theorem readEnd_apply (structures : List Structure) (cursor : Cursor) :
    readEnd structures cursor = if cursor.rest.isEmpty then .ok structures cursor
      else .error (.trailingBytes cursor.offset) cursor := by
  show (if cursor.rest.isEmpty then pure structures else throw _ : Reader _) cursor = _
  split <;> rfl

/-- A body is read exactly when it is the records of the announced number of structures. -/
theorem readBody_eq_ok {guarded : Bool} {announced : UInt32} {cursor : Cursor}
    {structures : List Structure} :
    outcome (readBody guarded announced cursor) = .ok structures ↔
      structures.length = announced.toNat
        ∧ encodeAll encodeStructure structures = .ok cursor.rest := by
  have hrecords := reads_records guarded announced
  rw [outcome_eq_ok, readBody_eq]
  constructor
  · rintro ⟨final, hr⟩
    obtain ⟨values, middle, hvalues, hend⟩ := bind_eq_ok.mp hr
    obtain ⟨bytes, ⟨hlen, hall⟩, hrest, -⟩ := hrecords.takes hvalues
    rw [readEnd_apply] at hend
    split at hend
    · next hempty =>
      cases hend
      rw [hrest, List.isEmpty_iff.mp hempty, List.append_nil]
      exact ⟨hlen, hall⟩
    · cases hend
  · rintro ⟨hlen, hall⟩
    obtain ⟨offset, rest, reserved⟩ := cursor
    obtain ⟨r, hr⟩ := hrecords.accepts ⟨hlen, hall⟩ offset [] reserved
    rw [List.append_nil] at hr
    exact ⟨_, bind_of_ok hr⟩

theorem verify_eq_ok {header : Header} {data : Bytes} :
    verify header data = .ok () ↔
      header.bodyChecksum = Crc32.checksum (data.drop Header.size) := by
  unfold verify
  by_cases heq : Crc32.checksum (data.drop Header.size) = header.bodyChecksum
  · simp [heq]
  · simp [heq, Ne.symm heq]

theorem verify_eq_error {header : Header} {data : Bytes} {error : Error} :
    verify header data = .error error ↔
      header.bodyChecksum ≠ Crc32.checksum (data.drop Header.size) ∧ error =
        .checksumMismatch header.bodyChecksum (Crc32.checksum (data.drop Header.size)) := by
  unfold verify
  by_cases heq : Crc32.checksum (data.drop Header.size) = header.bodyChecksum
  · simp [heq]
  · simp [heq, Ne.symm heq, eq_comm]

theorem drop_header (header : Header) (body : Bytes) :
    (header.toBytes ++ body).drop Header.size = body := by
  rw [← Header.length_toBytes header, List.drop_left]

/-- Decoding as one sequence of attempts, the comparison of checksums being the last of them. -/
theorem decodeWith_eq_bind (guarded verifyChecksum : Bool) (data : Bytes) :
    decodeWith guarded verifyChecksum data = Header.parse data >>= fun header =>
      outcome (readBody guarded header.structureCount (bodyStart data)) >>= fun structures =>
        (if verifyChecksum then verify header data else .ok ()) >>= fun _ => .ok structures := by
  cases verifyChecksum <;> rfl

/-- Without the checksum, a header and a body are all there is to a file. -/
theorem decodeWith_false_of_readBody {guarded : Bool} {data : Bytes} {header : Header}
    {structures : List Structure} (hparse : Header.parse data = .ok header)
    (hbody : outcome (readBody guarded header.structureCount (bodyStart data)) = .ok structures) :
    decodeWith guarded false data = .ok structures := by
  rw [decodeWith_eq_bind]
  exact attempt_bind_eq_ok.mpr
    ⟨header, hparse, attempt_bind_eq_ok.mpr ⟨structures, hbody, rfl⟩⟩

/-- Decoding fails at the header, behind it in the body, or behind both at the checksum. -/
theorem decodeWith_eq_error {guarded verifyChecksum : Bool} {data : Bytes} {error : Error} :
    decodeWith guarded verifyChecksum data = .error error ↔ Header.parse data = .error error
      ∨ ∃ header, Header.parse data = .ok header
        ∧ (outcome (readBody guarded header.structureCount (bodyStart data)) = .error error
          ∨ (∃ structures,
            outcome (readBody guarded header.structureCount (bodyStart data)) = .ok structures)
            ∧ verifyChecksum = true ∧ verify header data = .error error) := by
  simp only [decodeWith_eq_bind, attempt_bind_eq_error, reduceCtorEq, and_false, exists_false,
    or_false]
  constructor
  · rintro (hparse | ⟨header, hparse, hbody | ⟨structures, hbody, hverify⟩⟩)
    · exact Or.inl hparse
    · exact Or.inr ⟨header, hparse, Or.inl hbody⟩
    · cases verifyChecksum with
      | false => cases hverify
      | true => exact Or.inr ⟨header, hparse, Or.inr ⟨⟨structures, hbody⟩, rfl, hverify⟩⟩
  · rintro (hparse | ⟨header, hparse, hbody | ⟨⟨structures, hbody⟩, rfl, hverify⟩⟩)
    · exact Or.inl hparse
    · exact Or.inr ⟨header, hparse, Or.inl hbody⟩
    · exact Or.inr ⟨header, hparse, Or.inr ⟨structures, hbody, hverify⟩⟩

/-- **Accepted files**: what decodes is a readable header with the number of structures, their
records and nothing behind them. -/
theorem decodeWith_eq_ok_iff {guarded verifyChecksum : Bool} {data : Bytes}
    {structures : List Structure} :
    decodeWith guarded verifyChecksum data = .ok structures ↔ ∃ header body,
      data = Header.toBytes header ++ body ∧ header.Readable
        ∧ structures.length = header.structureCount.toNat
        ∧ encodeAll encodeStructure structures = .ok body
        ∧ (verifyChecksum = true → header.bodyChecksum = Crc32.checksum body) := by
  simp only [decodeWith_eq_bind, attempt_bind_eq_ok]
  constructor
  · rintro ⟨header, hparse, values, hbody, _, hverify, hvalues⟩
    cases hvalues
    obtain ⟨hreadable, body, rfl⟩ := Header.parse_eq_ok_iff.mp hparse
    obtain ⟨hlen, hall⟩ := readBody_eq_ok.mp hbody
    rw [bodyStart, drop_header] at hall
    refine ⟨header, body, rfl, hreadable, hlen, hall, fun hon => ?_⟩
    rw [if_pos hon] at hverify
    rw [← drop_header header body]
    exact verify_eq_ok.mp hverify
  · rintro ⟨header, body, rfl, hreadable, hlen, hall, hsum⟩
    refine ⟨header, Header.parse_eq_ok_iff.mpr ⟨hreadable, body, rfl⟩, structures,
      readBody_eq_ok.mpr ⟨hlen, ?_⟩, (), ?_, rfl⟩
    · rw [bodyStart, drop_header]
      exact hall
    · -- without the comparison any stored checksum does
      cases verifyChecksum with
      | false => rfl
      | true =>
        rw [if_pos rfl, verify_eq_ok, drop_header]
        exact hsum rfl

/-! ## The stored checksum -/

/-- The header of a list of structures with a checksum that need not be that of the body. -/
def Header.withChecksum (count : Nat) (crc : UInt32) : Header :=
  { version := currentVersion, flags := 0, structureCount := UInt32.ofNat count
    bodyChecksum := crc }

/-- Files that agree outside the place of the checksum differ in the stored checksum only. -/
theorem agreeOutside_checksum_iff {count : Nat} {crc : UInt32} {body data : Bytes} :
    AgreeOutside 12 16 ((Header.withChecksum count crc).toBytes ++ body) data ↔
      ∃ stored, data = (Header.withChecksum count stored).toBytes ++ body := by
  rw [agreeOutside_iff]
  constructor
  · rintro ⟨hlen, hfront, hback⟩
    have hlong : 12 + 4 ≤ data.length := by
      rw [← hlen, List.length_append, Header.length_toBytes]
      exact Nat.le_add_right 16 _
    -- any four bytes are the bytes of some number, so those in the gap are a checksum too
    refine ⟨UInt32.ofNat (Header.numberAt data 12 4), ?_⟩
    show data = (Header.withChecksum count crc).toBytes.take 12
      ++ LittleEndian.encode 4 (UInt32.ofNat (Header.numberAt data 12 4)).toNat ++ body
    rw [Header.toNat_numberAt_four, Header.encode_numberAt hlong]
    calc data = data.take 12 ++ (data.drop 12).take 4 ++ data.drop 16 := by
          rw [← List.take_add, List.take_append_drop]
      _ = _ := by rw [← hfront, ← hback]; rfl
  · rintro ⟨stored, rfl⟩
    refine ⟨?_, rfl, rfl⟩
    rw [List.length_append, List.length_append, Header.length_toBytes, Header.length_toBytes]

/-- Accepted files by the list they hold: everything but the checksum is determined by it. -/
theorem decode_eq_ok_iff {verifyChecksum : Bool} {data : Bytes} {structures : List Structure} :
    decode verifyChecksum data = .ok structures ↔ structures.length < 2 ^ 32 ∧ ∃ body crc,
      encodeAll encodeStructure structures = .ok body
        ∧ data = (Header.withChecksum structures.length crc).toBytes ++ body
        ∧ (verifyChecksum = true → crc = Crc32.checksum body) := by
  unfold decode
  rw [decodeWith_eq_ok_iff]
  constructor
  · rintro ⟨⟨version, flags, count, crc⟩, body, rfl, ⟨hversion, hflags⟩, hlen, hall, hsum⟩
    dsimp only at hversion hflags hlen hsum
    subst hversion hflags
    refine ⟨hlen ▸ count.toNat_lt, body, crc, hall, ?_, hsum⟩
    rw [Header.withChecksum, hlen, UInt32.ofNat_toNat]
  · rintro ⟨hlt, body, crc, hall, rfl, hsum⟩
    refine ⟨_, body, rfl, ⟨rfl, rfl⟩, ?_, hall, hsum⟩
    exact (UInt32.toNat_ofNat_of_lt' hlt).symm

/-! ## The two laws -/

/-- **Round trip**: a list that fits is encoded, and its encoding is decoded to the list itself,
whether or not the checksum is compared. -/
theorem decode_encode_of_fits {structures : List Structure} (h : Fits structures) :
    ∃ bytes, encode structures = .ok bytes
      ∧ ∀ verifyChecksum, decode verifyChecksum bytes = .ok structures := by
  obtain ⟨hlt, hfits⟩ := h
  obtain ⟨body, hbody⟩ := encodeAll_of_forall fun s hs => encodeStructure_of_fits (hfits s hs)
  refine ⟨_, encode_eq_ok_iff.mpr ⟨hlt, body, hbody, rfl⟩, fun verifyChecksum => ?_⟩
  exact decode_eq_ok_iff.mpr ⟨hlt, body, Crc32.checksum body, hbody, rfl, fun _ => rfl⟩

/-- Two structures of one name, one without text and one with texts that need care. -/
def awkwardList : List Structure :=
  [{ name := "", size := 0 },
    { name := "", comment := "a\nb\x00c", size := 0xFFFFFFFFFFFFFFFF, members := [
      { name := "größe", typeName := "", comment := "// \x00", size := 0 },
      { name := "größe", typeName := "int", size := 0xFFFFFFFFFFFFFFFF }] }]

theorem decode_encode_awkward : Fits awkwardList ∧ ∃ bytes, encode awkwardList = .ok bytes
    ∧ ∀ verifyChecksum, decode verifyChecksum bytes = .ok awkwardList :=
  ⟨by decide, decode_encode_of_fits (by decide)⟩

/-- **Canonical encoding**: a file is accepted as a list of structures exactly when it is what the
encoder writes for that list; without a look at the checksum, exactly when it is that apart from
the four bytes of the checksum. -/
theorem decode_eq_ok_iff_encode (data : Bytes) (structures : List Structure) :
    (decode true data = .ok structures ↔ encode structures = .ok data)
      ∧ (decode false data = .ok structures ↔
        ∃ bytes, encode structures = .ok bytes ∧ AgreeOutside 12 16 bytes data) := by
  constructor
  · rw [decode_eq_ok_iff, encode_eq_ok_iff]
    constructor
    · rintro ⟨hlt, body, crc, hbody, rfl, hsum⟩
      exact ⟨hlt, body, hbody, by rw [hsum rfl]; rfl⟩
    · rintro ⟨hlt, body, hbody, rfl⟩
      exact ⟨hlt, body, _, hbody, rfl, fun _ => rfl⟩
  · rw [decode_eq_ok_iff]
    constructor
    · rintro ⟨hlt, body, crc, hbody, rfl, -⟩
      refine ⟨_, encode_eq_ok_iff.mpr ⟨hlt, body, hbody, rfl⟩, ?_⟩
      exact agreeOutside_checksum_iff.mpr ⟨crc, rfl⟩
    · rintro ⟨bytes, hbytes, hagree⟩
      obtain ⟨hlt, body, hbody, rfl⟩ := encode_eq_ok_iff.mp hbytes
      obtain ⟨stored, rfl⟩ := agreeOutside_checksum_iff.mp hagree
      exact ⟨hlt, body, stored, hbody, rfl, fun hon => Bool.noConfusion hon⟩

end StructVault.Snapshot

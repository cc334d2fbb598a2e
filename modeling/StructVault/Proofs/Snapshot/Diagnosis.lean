import StructVault.Proofs.Snapshot.Invariants
import StructVault.Proofs.Snapshot.RoundTrip

/-!
# What decode errors say

Every error of the decoder is a true statement about the file (`trueOf_of_decode`).
`Error.TrueOf` spells out what each error states in terms of the bytes of the file alone: which
bytes are not there, not a text, too few for a count, left over, or do not have the stated
checksum.

A reader is `Reader.Truthful` about a file if its errors are true of the file wherever it is
started in the body. The invariant behind it is that the cursor stands where its offset says
(`Cursor.Within`), so that what was read before is found in the file at a known distance. Errors
of the header and of the checksum are looked at on their own; `Error.stage` tells the three kinds
apart.
-/

namespace StructVault.Snapshot

open Steps

/-! ## Statements -/

/-- Whether the field is a text behind its length. -/
def Field.isText : Field → Bool
  | structureName | structureComment | memberName | memberType | memberComment => true
  | _ => false

/-- How many bytes a field of the body can want at an offset: a text first its length in four
bytes, and behind the length as many bytes as it states. -/
def Field.Wants (data : Bytes) (offset : Nat) : Field → Nat → Prop
  | structureSize, width | memberSize, width => width = 8
  | memberCount, width => width = 4
  | structureName, width | structureComment, width | memberName, width | memberType, width
  | memberComment, width =>
    width = 4 ∨ Header.size + 4 ≤ offset ∧ width = Header.numberAt data (offset - 4) 4
  | header, _ | structureCount, _ => False

/-- A count as it stands in the file, and the offset behind which its records are to follow. -/
def Field.Counts (data : Bytes) (count : UInt32) (offset : Nat) : Field → Prop
  | structureCount => offset = Header.size ∧ count.toNat = Header.numberAt data 8 4
  | memberCount =>
    Header.size + 4 ≤ offset ∧ count.toNat = Header.numberAt data (offset - 4) 4
  | _ => False

/-- **What an error states** about the file it was found in. -/
def Error.TrueOf (data : Bytes) : Error → Prop
  | badMagic => ¬ data.take 4 <+: Header.magic
  | versionZero => Header.size ≤ data.length ∧ Header.numberAt data 4 2 = 0
  | unsupportedVersion found =>
    Header.size ≤ data.length ∧ found.toNat = Header.numberAt data 4 2 ∧ 1 < found.toNat
  | unknownFlags flags =>
    Header.size ≤ data.length ∧ flags.toNat = Header.numberAt data 6 2 ∧ flags ≠ 0
  | truncated .header offset => offset = 0 ∧ data.length < Header.size
  | truncated field offset => Header.size ≤ offset ∧ offset ≤ data.length
      ∧ ∃ width, field.Wants data offset width ∧ data.length < offset + width
  | invalidText field offset => field.isText = true ∧ Header.size ≤ offset
      ∧ offset + 4 + Header.numberAt data offset 4 ≤ data.length
      ∧ ∀ text, Text.encode text ≠ (data.drop (offset + 4)).take (Header.numberAt data offset 4)
  | countOutOfRange field count offset => field.Counts data count offset
      ∧ offset ≤ data.length ∧ data.length < offset + 20 * count.toNat
  | trailingBytes offset => Header.size ≤ offset ∧ offset < data.length
      ∧ ∃ structures, decode false (data.take offset) = .ok structures
  | checksumMismatch stored computed => Header.size ≤ data.length
      ∧ stored.toNat = Header.numberAt data 12 4
      ∧ computed = Crc32.checksum (data.drop Header.size) ∧ stored ≠ computed
      ∧ ∃ structures, decode false data = .ok structures
  | fileNotFound _ | invalidPath _ | tooLarge _ _ | io _ => False

/-- The part of the work on a snapshot that an error arises in. -/
inductive Stage where
  | header
  | body
  | checksum
  | outside
  deriving DecidableEq, Repr

/-- Where an error arises: while decoding, or outside of it in the file system or the encoder. -/
def Error.stage : Error → Stage
  | badMagic | versionZero | unsupportedVersion _ | unknownFlags _ | truncated .header _ => .header
  | truncated _ _ | invalidText _ _ | countOutOfRange _ _ _ | trailingBytes _ => .body
  | checksumMismatch _ _ => .checksum
  | fileNotFound _ | invalidPath _ | tooLarge _ _ | io _ => .outside

/-! ## The cursor in the file -/

/-- The cursor stands in the body of the file, at its offset. -/
structure Cursor.Within (data : Bytes) (cursor : Cursor) : Prop where
  behind_header : Header.size ≤ cursor.offset
  inside : cursor.offset ≤ data.length
  rest_eq : cursor.rest = data.drop cursor.offset

theorem Cursor.Within.length_rest {data : Bytes} {cursor : Cursor} (h : cursor.Within data) :
    cursor.offset + cursor.rest.length = data.length := by
  have hinside := h.inside
  rw [h.rest_eq, List.length_drop]
  omega

theorem within_bodyStart {data : Bytes} (hlong : Header.size ≤ data.length) :
    (bodyStart data).Within data where
  behind_header := Nat.le_refl _
  inside := hlong
  rest_eq := rfl

namespace Reader

variable {data : Bytes}

/-- **Truthful readers**: an error met anywhere in the body is an error of the body and true of
the file. -/
def Truthful (data : Bytes) {α : Type} (reader : Reader α) : Prop :=
  Keeps (Cursor.Within data) (fun error _ => error.stage = .body ∧ error.TrueOf data) reader

/-- Bytes taken from the body are those of the file at the offset. -/
theorem within_of_take {field : Field} {count : Nat} {before after : Cursor} {bytes : Bytes}
    (hin : before.Within data) (h : take field count before = .ok bytes after) :
    after.Within data ∧ after.offset = before.offset + count
      ∧ before.offset + count ≤ data.length ∧ bytes = (data.drop before.offset).take count := by
  obtain ⟨hlen, hrest, hoff, -⟩ := take_eq_ok.mp h
  have htotal := hin.length_rest
  have hbehind := hin.behind_header
  rw [hrest, List.length_append, hlen] at htotal
  have hdrop : after.rest = data.drop (before.offset + count) := by
    rw [← List.drop_drop, ← hin.rest_eq, hrest, ← hlen, List.drop_left]
  refine ⟨⟨?_, ?_, ?_⟩, hoff, ?_, ?_⟩
  · omega
  · omega
  · rw [hdrop, hoff]
  · omega
  · rw [← hin.rest_eq, hrest, ← hlen, List.take_left]

/-- A field is truncated only where the file ends before the field does. -/
theorem trueOf_of_take {field : Field} {count : Nat} {before after : Cursor} {error : Error}
    (hin : before.Within data) (hwants : field.Wants data before.offset count)
    (h : take field count before = .error error after) :
    error.stage = .body ∧ error.TrueOf data := by
  obtain ⟨hshort, rfl, -⟩ := take_eq_error.mp h
  have htotal := hin.length_rest
  have hmissing : Header.size ≤ before.offset ∧ before.offset ≤ data.length
      ∧ ∃ width, field.Wants data before.offset width ∧ data.length < before.offset + width :=
    ⟨hin.behind_header, hin.inside, count, hwants, by omega⟩
  cases field with
  | header => exact hwants.elim
  | _ => exact ⟨rfl, hmissing⟩

theorem truthful_take {field : Field} {count : Nat}
    (hwants : ∀ offset, field.Wants data offset count) : Truthful data (take field count) where
  ok hin h := (within_of_take hin h).1
  error hin h := trueOf_of_take hin (hwants _) h

theorem truthful_word {field : Field} (hwants : ∀ offset, field.Wants data offset 4) :
    Truthful data (word field) :=
  (truthful_take hwants).bind fun _ => Keeps.pure _

theorem truthful_size {field : Field} (hwants : ∀ offset, field.Wants data offset 8) :
    Truthful data (size field) :=
  (truthful_take hwants).bind fun _ => Keeps.pure _

/-- A number read from the body stands in front of the cursor. -/
theorem within_of_word {field : Field} {before after : Cursor} {number : UInt32}
    (hin : before.Within data) (h : word field before = .ok number after) :
    after.Within data ∧ after.offset = before.offset + 4
      ∧ number.toNat = Header.numberAt data before.offset 4 := by
  obtain ⟨bytes, middle, htake, hpure⟩ := bind_eq_ok.mp h
  cases hpure
  obtain ⟨hafter, hoff, -, rfl⟩ := within_of_take hin htake
  exact ⟨hafter, hoff, Header.toNat_numberAt_four data before.offset⟩

theorem wants_of_isText {field : Field} (hfield : field.isText = true) {offset width : Nat} :
    field.Wants data offset width ↔
      width = 4 ∨ Header.size + 4 ≤ offset ∧ width = Header.numberAt data (offset - 4) 4 := by
  cases field with
  | header | structureCount | structureSize | memberCount | memberSize => cases hfield
  | _ => exact Iff.rfl

/-- A text is found behind its length, which stands in the file where the text was started. -/
theorem truthful_text {field : Field} (hfield : field.isText = true) :
    Truthful data (text field) := by
  have hword : Truthful data (word field) :=
    truthful_word fun _ => (wants_of_isText hfield).mpr (Or.inl rfl)
  constructor
  · intro before after value hin h
    rw [text_apply] at h
    obtain ⟨length, middle, h₁, h⟩ := bind_eq_ok.mp h
    obtain ⟨payload, last, h₂, h⟩ := bind_eq_ok.mp h
    have hlast := (within_of_take (hword.ok hin h₁) h₂).1
    cases hdec : Text.decode payload with
    | none =>
      rw [hdec] at h
      cases h
    | some text =>
      rw [hdec] at h
      cases h
      exact hlast
  · intro before after error hin h
    rw [text_apply] at h
    rcases bind_eq_error.mp h with h₁ | ⟨length, middle, h₁, h⟩
    · exact hword.error hin h₁
    · obtain ⟨hmiddle, hoff, hlength⟩ := within_of_word hin h₁
      have hbehind := hin.behind_header
      -- the length was read just now, so it stands four bytes in front of the payload
      have hback : middle.offset - 4 = before.offset := by omega
      rcases bind_eq_error.mp h with h₂ | ⟨payload, last, h₂, h⟩
      · refine trueOf_of_take hmiddle ((wants_of_isText hfield).mpr (Or.inr ⟨?_, ?_⟩)) h₂
        · omega
        · rw [hback, hlength]
      · obtain ⟨-, -, hfits, hpayload⟩ := within_of_take hmiddle h₂
        rw [hoff, hlength] at hfits hpayload
        cases hdec : Text.decode payload with
        | some text =>
          rw [hdec] at h
          cases h
        | none =>
          rw [hdec] at h
          cases h
          refine ⟨rfl, hfield, hbehind, hfits, fun text htext => ?_⟩
          rw [hpayload, ← htext, Text.decode_encode] at hdec
          cases hdec

/-- A count is refused only if the file is too short for as many records of `least` bytes. -/
theorem trueOf_of_checkCount {guarded : Bool} {field : Field} {count : UInt32}
    {before after : Cursor} {error : Error} (hin : before.Within data)
    (hcounts : field.Counts data count before.offset)
    (h : checkCount guarded field 20 count before = .error error after) :
    error.stage = .body ∧ error.TrueOf data := by
  obtain ⟨-, hshort, rfl, -⟩ := checkCount_eq_error.mp h
  have htotal := hin.length_rest
  exact ⟨rfl, hcounts, hin.inside, by omega⟩

theorem within_of_checkCount {guarded : Bool} {field : Field} {least n : Nat} {count : UInt32}
    {before after : Cursor} (hin : before.Within data)
    (h : checkCount guarded field least count before = .ok n after) : after.Within data := by
  obtain ⟨-, -, rfl⟩ := checkCount_eq_ok.mp h
  exact ⟨hin.behind_header, hin.inside, hin.rest_eq⟩

/-- The number of members, checked: the refused number is the one in front of the cursor. -/
theorem truthful_memberCount (guarded : Bool) : Truthful data
    (word .memberCount >>= checkCount guarded .memberCount leastMember) := by
  have hword : Truthful data (word .memberCount) := truthful_word fun _ => rfl
  constructor
  · intro before after n hin h
    obtain ⟨count, middle, h₁, h₂⟩ := bind_eq_ok.mp h
    exact within_of_checkCount (hword.ok hin h₁) h₂
  · intro before after error hin h
    rcases bind_eq_error.mp h with h₁ | ⟨count, middle, h₁, h₂⟩
    · exact hword.error hin h₁
    · obtain ⟨hmiddle, hoff, hcount⟩ := within_of_word hin h₁
      have hbehind := hin.behind_header
      have hcounts : Field.memberCount.Counts data count middle.offset := by
        rw [hoff]
        exact ⟨Nat.add_le_add_right hbehind 4, by rw [Nat.add_sub_cancel, hcount]⟩
      exact trueOf_of_checkCount hmiddle hcounts h₂

end Reader

variable {data : Bytes}

theorem truthful_readMember : Reader.Truthful data readMember :=
  Keeps.bind (Reader.truthful_text rfl) fun _ => Keeps.bind (Reader.truthful_text rfl) fun _ =>
    Keeps.bind (Reader.truthful_text rfl) fun _ =>
    Keeps.bind (Reader.truthful_size fun _ => rfl) fun _ => Keeps.pure _

theorem truthful_readStructure (guarded : Bool) :
    Reader.Truthful data (readStructure guarded) := by
  -- the check belongs to the number in front of it, so the two are taken as one step
  have hread : readStructure guarded = (do
      let name ← Reader.text .structureName
      let comment ← Reader.text .structureComment
      let size ← Reader.size .structureSize
      let count ← Reader.word .memberCount >>= Reader.checkCount guarded .memberCount leastMember
      let members ← Reader.replicate readMember count
      return { name, comment, size, members }) := by
    simp only [readStructure, bind_assoc]
  rw [hread]
  exact Keeps.bind (Reader.truthful_text rfl) fun _ => Keeps.bind (Reader.truthful_text rfl)
    fun _ => Keeps.bind (Reader.truthful_size fun _ => rfl) fun _ =>
    Keeps.bind (Reader.truthful_memberCount guarded) fun _ =>
    Keeps.bind (Reader.keeps_replicate truthful_readMember _) fun _ => Keeps.pure _

/-! ## Files -/

theorem trueOf_of_parse {error : Error} (h : Header.parse data = .error error) :
    error.stage = .header ∧ error.TrueOf data := by
  rcases Header.error_of_parse h with ⟨rfl, hforeign⟩ | ⟨rfl, -, hshort⟩ | ⟨hlong, hwrong⟩
  · exact ⟨rfl, hforeign⟩
  · exact ⟨rfl, rfl, hshort⟩
  · rcases hwrong with ⟨rfl, hzero⟩ | ⟨found, rfl, hfound, hnew⟩ | ⟨flags, rfl, hflags, hset⟩
    · exact ⟨rfl, hlong, hzero⟩
    · exact ⟨rfl, hlong, hfound, UInt16.lt_iff_toNat_lt.mp hnew⟩
    · exact ⟨rfl, hlong, hflags, hset⟩

/-- Records with something behind them are a file of their own once it is cut off: the count
checks pass there too, because records are long enough for them. -/
theorem trueOf_trailingBytes {guarded : Bool} {header : Header} {structures : List Structure}
    {cursor : Cursor} (hparse : Header.parse data = .ok header)
    (h : readRecords guarded header.structureCount (bodyStart data) = .ok structures cursor)
    (hleft : cursor.rest ≠ []) : (Error.trailingBytes cursor.offset).TrueOf data := by
  obtain ⟨hreadable, body, rfl⟩ := Header.parse_eq_ok_iff.mp hparse
  obtain ⟨bytes, ⟨hlen, hall⟩, hrest, hoff⟩ := (reads_records _ _).takes h
  rw [bodyStart, drop_header] at hrest
  dsimp only at hrest hoff
  have hoffset : cursor.offset = header.toBytes.length + bytes.length := hoff
  have hpart : (header.toBytes ++ body).take cursor.offset = header.toBytes ++ bytes := by
    rw [hrest, ← List.append_assoc, hoffset, ← List.length_append, List.take_left]
  have hpos := List.length_pos_iff.mpr hleft
  refine ⟨?_, ?_, structures, ?_⟩
  · rw [hoffset, Header.length_toBytes]
    exact Nat.le_add_right _ _
  · rw [hrest, List.length_append, List.length_append, hoffset]
    omega
  · rw [hpart]
    exact decodeWith_eq_ok_iff.mpr
      ⟨header, bytes, rfl, hreadable, hlen, hall, fun hon => Bool.noConfusion hon⟩

/-- Errors of the body are those of its records, or tell of bytes behind them. -/
theorem trueOf_of_readBody {guarded : Bool} {header : Header} {error : Error}
    (hparse : Header.parse data = .ok header)
    (h : outcome (readBody guarded header.structureCount (bodyStart data)) = .error error) :
    error.stage = .body ∧ error.TrueOf data := by
  obtain ⟨hsize, hcount, -⟩ := Header.numbers_of_parse hparse
  have hin := within_bodyStart hsize
  obtain ⟨final, h⟩ := outcome_eq_error.mp h
  rw [readBody_eq] at h
  rcases bind_eq_error.mp h with hrecords | ⟨structures, cursor, hrecords, hend⟩
  · rcases bind_eq_error.mp hrecords with hcheck | ⟨_, behind, hcheck, hloop⟩
    · have hcounts : Field.structureCount.Counts data header.structureCount Header.size :=
        ⟨rfl, hcount⟩
      exact Reader.trueOf_of_checkCount hin hcounts hcheck
    · exact (Reader.keeps_replicate (truthful_readStructure guarded) _).error
        (Reader.within_of_checkCount hin hcheck) hloop
  · rw [readEnd_apply] at hend
    split at hend
    · cases hend
    · next hleft =>
      cases hend
      exact ⟨rfl, trueOf_trailingBytes hparse hrecords (by simpa using hleft)⟩

/-- **Errors are true**: whatever the decoder reports about a file, the bytes of the file bear it
out. -/
theorem trueOf_of_decode {verifyChecksum : Bool} {error : Error}
    (h : decode verifyChecksum data = .error error) : error.TrueOf data := by
  rcases decodeWith_eq_error.mp h with hparse | ⟨header, hparse, hbody | ⟨hbody, -, hverify⟩⟩
  · exact (trueOf_of_parse hparse).2
  · exact (trueOf_of_readBody hparse hbody).2
  · obtain ⟨hne, rfl⟩ := verify_eq_error.mp hverify
    obtain ⟨hsize, -, hstored⟩ := Header.numbers_of_parse hparse
    obtain ⟨structures, hbody⟩ := hbody
    refine ⟨hsize, hstored, rfl, hne, structures, ?_⟩
    exact decodeWith_false_of_readBody hparse hbody

/-- A structure `a` with a member `b` whose type has three bytes that are no text. -/
def garbledFile : Bytes :=
  [83, 80, 83, 84, 1, 0, 0, 0, 1, 0, 0, 0, 246, 21, 88, 228, 1, 0, 0, 0, 97, 0, 0, 0, 0, 8, 0, 0,
    0, 0, 0, 0, 0, 1, 0, 0, 0, 1, 0, 0, 0, 98, 3, 0, 0, 0, 105, 255, 116, 0, 0, 0, 0, 8, 0, 0, 0,
    0, 0, 0, 0]

theorem trueOf_garbledFile :
    decode true garbledFile = .error (.invalidText .memberType 42)
      ∧ 42 + 4 + 3 ≤ garbledFile.length ∧ ∀ text, Text.encode text ≠ [105, 255, 116] := by
  have h : decode true garbledFile = .error (.invalidText .memberType 42) := rfl
  obtain ⟨-, -, hfits, hnone⟩ := trueOf_of_decode h
  exact ⟨h, hfits, hnone⟩

end StructVault.Snapshot

import StructVault.Proofs.Snapshot.Diagnosis

/-!
# Files with bytes added or cut off

Bytes at the end of a file are looked at in two places only: the count checks ask how many there
are, and the end of the body asks whether there are any. All other reading is insensitive to what
follows, which is what `Reader.Steady` says of a reader: run on a longer file it gives the same
value, and it fails with the same error if that error lasts. Steady readers compose, so the law
for files (`decode_append`) needs an argument of its own only for the header and for the end of
the body.
-/

namespace StructVault.Snapshot

open Steps

/-- Errors that stay what they are, whatever is added to the end of the file. -/
def Error.Lasting : Error → Prop
  | .badMagic | .versionZero | .unsupportedVersion _ | .unknownFlags _ | .invalidText _ _
  | .trailingBytes _ => True
  | _ => False

/-- Errors of a file that ends before its last record does. -/
def Error.EndsEarly : Error → Prop
  | .truncated _ _ | .countOutOfRange _ _ _ => True
  | _ => False

/-! ## Readers on longer files -/

/-- The same place in a file with more bytes at its end. -/
def Cursor.extend (cursor : Cursor) (more : Bytes) : Cursor :=
  { cursor with rest := cursor.rest ++ more }

namespace Reader

/-- **Steady readers**: bytes added to the end of the file change neither the value nor an error
that lasts. -/
def Steady {α : Type} (reader : Reader α) : Prop :=
  ∀ more : Bytes, Simulates (fun short long => long = Cursor.extend short more) Error.Lasting
    reader reader

variable {α β : Type}

theorem Steady.pure (value : α) : Steady (Pure.pure value) :=
  fun _ => Simulates.pure value

theorem Steady.bind {reader : Reader α} {next : α → Reader β} (h : Steady reader)
    (hnext : ∀ value, Steady (next value)) : Steady (reader >>= next) :=
  fun more => (h more).bind fun value => hnext value more

theorem Steady.replicate {reader : Reader α} (h : Steady reader) :
    ∀ count, Steady (Reader.replicate reader count)
  | 0 => Steady.pure []
  | count + 1 => h.bind fun first => (Steady.replicate h count).bind fun rest =>
      Steady.pure (first :: rest)

/-- A field that does not reach beyond the end is not affected by bytes behind it. One that does
is a truncation, which further bytes may mend. -/
theorem steady_take (field : Field) (count : Nat) : Steady (take field count) := by
  intro more
  constructor
  · rintro short _ after bytes rfl h
    obtain ⟨hlen, hrest, hoff, hres⟩ := take_eq_ok.mp h
    refine ⟨after.extend more, take_eq_ok.mpr ⟨hlen, ?_, hoff, hres⟩, rfl⟩
    show short.rest ++ more = bytes ++ (after.rest ++ more)
    rw [hrest, List.append_assoc]
  · rintro short _ after error - h hlasting
    obtain ⟨-, rfl, -⟩ := take_eq_error.mp h
    exact hlasting.elim

theorem steady_word (field : Field) : Steady (word field) :=
  (steady_take field 4).bind fun _ => Steady.pure _

theorem steady_size (field : Field) : Steady (size field) :=
  (steady_take field 8).bind fun _ => Steady.pure _

theorem steady_textFrom (field : Field) (start : Nat) : Steady (textFrom field start) := by
  refine (steady_word field).bind fun length => (steady_take field _).bind fun bytes => ?_
  cases Text.decode bytes with
  | some text => exact Steady.pure text
  | none => exact fun _ => Simulates.throw _

/-- The position in the error is that of the cursor, which bytes at the end do not move. -/
theorem steady_text (field : Field) : Steady (text field) := by
  intro more
  constructor
  · rintro short _ after value rfl h
    rw [text_apply] at h ⊢
    exact (steady_textFrom field _ more).ok rfl h
  · rintro short _ after error rfl h hlasting
    rw [text_apply] at h ⊢
    exact (steady_textFrom field _ more).error rfl h hlasting

/-- The count checks look at the number of bytes that are left, but only to refuse too few. -/
theorem steady_checkCount (guarded : Bool) (field : Field) (least : Nat) (count : UInt32) :
    Steady (checkCount guarded field least count) := by
  intro more
  constructor
  · rintro short _ after value rfl h
    obtain ⟨hroom, rfl, rfl⟩ := checkCount_eq_ok.mp h
    refine ⟨_, checkCount_eq_ok.mpr ⟨fun hon => ?_, rfl, rfl⟩, rfl⟩
    show _ ≤ (short.rest ++ more).length
    rw [List.length_append]
    exact Nat.le_trans (hroom hon) (Nat.le_add_right _ _)
  · rintro short _ after error - h hlasting
    obtain ⟨-, -, rfl, -⟩ := checkCount_eq_error.mp h
    exact hlasting.elim

end Reader

theorem steady_readMember : Reader.Steady readMember :=
  (Reader.steady_text _).bind fun _ => (Reader.steady_text _).bind fun _ =>
    (Reader.steady_text _).bind fun _ => (Reader.steady_size _).bind fun _ => Reader.Steady.pure _

theorem steady_readStructure (guarded : Bool) : Reader.Steady (readStructure guarded) :=
  (Reader.steady_text _).bind fun _ => (Reader.steady_text _).bind fun _ =>
    (Reader.steady_size _).bind fun _ => (Reader.steady_word _).bind fun _ =>
    (Reader.steady_checkCount _ _ _ _).bind fun _ =>
    (steady_readMember.replicate _).bind fun _ => Reader.Steady.pure _

theorem steady_readRecords (guarded : Bool) (announced : UInt32) :
    Reader.Steady (readRecords guarded announced) :=
  (Reader.steady_checkCount _ _ _ _).bind fun _ => (steady_readStructure guarded).replicate _

/-! ## Bodies of longer files -/

variable {data more : Bytes}

theorem bodyStart_append (hlong : Header.size ≤ data.length) (more : Bytes) :
    bodyStart (data ++ more) = (bodyStart data).extend more := by
  unfold bodyStart Cursor.extend
  rw [List.drop_append_of_le_length hlong]

/-- Behind the records of a complete body, the first of any further bytes is one too many. -/
theorem readBody_append_of_ok {guarded : Bool} {announced : UInt32}
    {structures : List Structure} (hlong : Header.size ≤ data.length) (hmore : more ≠ [])
    (h : outcome (readBody guarded announced (bodyStart data)) = .ok structures) :
    outcome (readBody guarded announced (bodyStart (data ++ more)))
      = .error (.trailingBytes data.length) := by
  have hform := readBody_eq_ok.mp h
  obtain ⟨reserved, hrecords⟩ :=
    (reads_records guarded announced).accepts hform Header.size more 0
  have hbehind : Header.size + (bodyStart data).rest.length = data.length := by
    show Header.size + (data.drop Header.size).length = _
    rw [List.length_drop]
    omega
  have hleft : ¬ more.isEmpty = true := by simpa using hmore
  rw [bodyStart_append hlong, readBody_eq]
  show outcome ((readRecords guarded announced >>= readEnd)
    ⟨Header.size, (bodyStart data).rest ++ more, 0⟩) = _
  rw [bind_of_ok hrecords, readEnd_apply, if_neg hleft, hbehind]
  rfl

theorem readEnd_append_of_error {structures : List Structure} {cursor final : Cursor}
    {error : Error} (h : readEnd structures cursor = .error error final) :
    readEnd structures (cursor.extend more) = .error error (cursor.extend more) := by
  rw [readEnd_apply] at h
  split at h
  · cases h
  · next hleft =>
    have hleft' : ¬ (cursor.rest ++ more).isEmpty = true := by
      intro hnil
      exact hleft (List.isEmpty_iff.mpr (List.append_eq_nil_iff.mp (List.isEmpty_iff.mp hnil)).1)
    cases h
    exact (readEnd_apply _ _).trans (if_neg hleft')

/-- An error that lasts is met again at the same place. -/
theorem readBody_append_of_error {guarded : Bool} {announced : UInt32} {error : Error}
    (hlong : Header.size ≤ data.length) (hlasting : error.Lasting)
    (h : outcome (readBody guarded announced (bodyStart data)) = .error error) :
    outcome (readBody guarded announced (bodyStart (data ++ more))) = .error error := by
  have hsteady := steady_readRecords guarded announced more
  obtain ⟨final, h⟩ := outcome_eq_error.mp h
  rw [readBody_eq] at h
  rw [bodyStart_append hlong, readBody_eq]
  -- the end of the body is only looked at behind all records
  rcases bind_eq_error.mp h with hrecords | ⟨structures, cursor, hrecords, hend⟩
  · obtain ⟨final', hrecords'⟩ := hsteady.error rfl hrecords hlasting
    exact outcome_eq_error.mpr ⟨final', bind_eq_error.mpr (Or.inl hrecords')⟩
  · obtain ⟨_, hrecords', rfl⟩ := hsteady.ok rfl hrecords
    rw [bind_of_ok hrecords', readEnd_append_of_error hend]
    rfl

/-! ## Longer files -/

theorem parse_append_of_ok {header : Header} (h : Header.parse data = .ok header) (more : Bytes) :
    Header.parse (data ++ more) = .ok header := by
  rw [Header.parse_append_of_le (Header.numbers_of_parse h).1, h]

/-- Only a header that is too short can be mended, and only if it may become one of this format. -/
theorem parse_append_of_error {error : Error} (h : Header.parse data = .error error)
    (hlasting : error.Lasting) (more : Bytes) : Header.parse (data ++ more) = .error error := by
  obtain ⟨hstage, htrue⟩ := trueOf_of_parse h
  cases error with
  | badMagic =>
    rw [Header.parse_eq_badMagic_iff] at h ⊢
    -- if the longer file began like the mark, so would the bytes that were there before
    intro hprefix
    refine h (List.IsPrefix.trans ?_ hprefix)
    rw [List.take_append]
    exact List.prefix_append _ _
  | versionZero | unsupportedVersion _ | unknownFlags _ =>
    rw [Header.parse_append_of_le htrue.1, h]
  | trailingBytes _ | invalidText _ _ => cases hstage
  | _ => exact hlasting.elim

/-- Bytes behind a complete file are one thing only, whatever its checksum is. -/
theorem decode_append_of_complete {structures : List Structure} (hmore : more ≠ [])
    (h : decode false data = .ok structures) (verifyChecksum : Bool) :
    decode verifyChecksum (data ++ more) = .error (.trailingBytes data.length) := by
  unfold decode at h
  rw [decodeWith_eq_bind] at h
  obtain ⟨header, hparse, h⟩ := attempt_bind_eq_ok.mp h
  obtain ⟨structures', hbody, -⟩ := attempt_bind_eq_ok.mp h
  exact decodeWith_eq_error.mpr (Or.inr ⟨header, parse_append_of_ok hparse more,
    Or.inl (readBody_append_of_ok (Header.numbers_of_parse hparse).1 hmore hbody)⟩)

theorem decode_append_of_lasting {verifyChecksum : Bool} {error : Error}
    (h : decode verifyChecksum data = .error error) (hlasting : error.Lasting) (more : Bytes) :
    decode verifyChecksum (data ++ more) = .error error := by
  refine decodeWith_eq_error.mpr ?_
  rcases decodeWith_eq_error.mp h with hparse | ⟨header, hparse, hbody | ⟨-, -, hverify⟩⟩
  · exact Or.inl (parse_append_of_error hparse hlasting more)
  · exact Or.inr ⟨header, parse_append_of_ok hparse more, Or.inl
      (readBody_append_of_error (Header.numbers_of_parse hparse).1 hlasting hbody)⟩
  · obtain ⟨-, rfl⟩ := verify_eq_error.mp hverify
    exact hlasting.elim

/-! ## The checksum apart -/

theorem decode_false_of_ok {verifyChecksum : Bool} {structures : List Structure}
    (h : decode verifyChecksum data = .ok structures) : decode false data = .ok structures := by
  obtain ⟨header, body, hdata, hreadable, hlen, hall, -⟩ := decodeWith_eq_ok_iff.mp h
  exact decodeWith_eq_ok_iff.mpr
    ⟨header, body, hdata, hreadable, hlen, hall, fun hon => Bool.noConfusion hon⟩

/-- The comparison of checksums adds one error, and that only to files that decode without it. -/
theorem decode_false_of_error {verifyChecksum : Bool} {error : Error}
    (h : decode verifyChecksum data = .error error) : decode false data = .error error
      ∨ error.stage = .checksum ∧ ∃ structures, decode false data = .ok structures := by
  rcases decodeWith_eq_error.mp h with
    hparse | ⟨header, hparse, hbody | ⟨⟨structures, hbody⟩, -, hverify⟩⟩
  · exact Or.inl (decodeWith_eq_error.mpr (Or.inl hparse))
  · exact Or.inl (decodeWith_eq_error.mpr (Or.inr ⟨header, hparse, Or.inl hbody⟩))
  · obtain ⟨-, rfl⟩ := verify_eq_error.mp hverify
    exact Or.inr ⟨rfl, structures, decodeWith_false_of_readBody hparse hbody⟩

theorem stage_of_decode_false {error : Error} (h : decode false data = .error error) :
    error.stage = .header ∨ error.stage = .body := by
  rcases decodeWith_eq_error.mp h with hparse | ⟨header, hparse, hbody | ⟨-, hon, -⟩⟩
  · exact Or.inl (trueOf_of_parse hparse).1
  · exact Or.inr (trueOf_of_readBody hparse hbody).1
  · cases hon

theorem lasting_or_endsEarly {error : Error} (h : error.stage = .header ∨ error.stage = .body) :
    error.Lasting ∨ error.EndsEarly := by
  cases error with
  | badMagic | versionZero | unsupportedVersion _ | unknownFlags _ | invalidText _ _
  | trailingBytes _ => exact Or.inl trivial
  | truncated _ _ | countOutOfRange _ _ _ => exact Or.inr trivial
  | _ => rcases h with h | h <;> cases h

/-- A proper beginning of a complete file is no complete file, and ends too early. -/
theorem endsEarly_of_append_complete {verifyChecksum : Bool} {structures : List Structure}
    (hmore : more ≠ []) (hwhole : decode false (data ++ more) = .ok structures) :
    ∃ error, decode verifyChecksum data = .error error ∧ error.EndsEarly := by
  have hincomplete : ∀ structures', decode false data ≠ .ok structures' := by
    intro structures' h
    rw [decode_append_of_complete hmore h false] at hwhole
    cases hwhole
  cases hdata : decode verifyChecksum data with
  | ok structures' => exact absurd (decode_false_of_ok hdata) (hincomplete _)
  | error error =>
    rcases decode_false_of_error hdata with hfalse | ⟨-, structures', hfalse⟩
    · rcases lasting_or_endsEarly (stage_of_decode_false hfalse) with hlasting | hearly
      · rw [decode_append_of_lasting hfalse hlasting more] at hwhole
        cases hwhole
      · exact ⟨error, rfl, hearly⟩
    · exact absurd hfalse (hincomplete _)

/-- **Extension and truncation**: a complete file with more bytes behind it is reported as
exactly that, and the errors that are not about the end of the file stay what they are. So no
proper beginning of a file that decodes does, and all that is reported of one is that it ends too
early. -/
theorem decode_append (verifyChecksum : Bool) (data : Bytes) {more : Bytes} (hmore : more ≠ []) :
    (((∃ structures, decode verifyChecksum data = .ok structures) ∨ ∃ stored computed,
        decode verifyChecksum data = .error (.checksumMismatch stored computed)) →
      decode verifyChecksum (data ++ more) = .error (.trailingBytes data.length))
    ∧ (∀ error, decode verifyChecksum data = .error error → error.Lasting →
      decode verifyChecksum (data ++ more) = .error error)
    ∧ ∀ verifyWhole structures, decode verifyWhole (data ++ more) = .ok structures →
      ∃ error, decode verifyChecksum data = .error error ∧ error.EndsEarly := by
  refine ⟨?_, fun error h hlasting => decode_append_of_lasting h hlasting more,
    fun verifyWhole structures hwhole => ?_⟩
  · rintro (⟨structures, hok⟩ | ⟨stored, computed, herror⟩)
    · exact decode_append_of_complete hmore (decode_false_of_ok hok) verifyChecksum
    · rcases decode_false_of_error herror with hfalse | ⟨-, structures, hfalse⟩
      · rcases stage_of_decode_false hfalse with h | h <;> cases h
      · exact decode_append_of_complete hmore hfalse verifyChecksum
  · exact endsEarly_of_append_complete hmore (decode_false_of_ok hwhole)

/-- A structure `é` of eight bytes without members. -/
def loneFile : Bytes :=
  [83, 80, 83, 84, 1, 0, 0, 0, 1, 0, 0, 0, 210, 56, 140, 139, 2, 0, 0, 0, 195, 169, 0, 0, 0, 0, 8,
    0, 0, 0, 0, 0, 0, 0, 0, 0, 0, 0]

theorem decode_append_loneFile :
    decode true loneFile = .ok [{ name := "é", size := 8 }]
      ∧ decode true (loneFile ++ [0]) = .error (.trailingBytes 38)
      ∧ (∃ error, decode true (loneFile.take 37) = .error error ∧ error.EndsEarly)
      ∧ decode true (garbledFile ++ [0]) = .error (.invalidText .memberType 42) := by
  have hlone : decode true loneFile = .ok [{ name := "é", size := 8 }] :=
    attempt_eq_ok_iff.mpr (by decide +kernel)
  have hgarbled : decode true garbledFile = .error (.invalidText .memberType 42) := rfl
  have hmore : ([0] : Bytes) ≠ [] := List.cons_ne_nil 0 []
  have hcut : loneFile.take 37 ++ [0] = loneFile := rfl
  refine ⟨hlone, ?_, ?_, ?_⟩
  · exact (decode_append true loneFile hmore).1 (Or.inl ⟨_, hlone⟩)
  · exact (decode_append true (loneFile.take 37) hmore).2.2 true _ (hcut ▸ hlone)
  · exact (decode_append true garbledFile hmore).2.1 _ hgarbled trivial

end StructVault.Snapshot

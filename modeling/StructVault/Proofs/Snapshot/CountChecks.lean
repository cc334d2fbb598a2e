import StructVault.Proofs.Snapshot.Diagnosis

/-!
# What the count checks change

A count check looks ahead whether as many records can follow as are announced. The decoder would
find out without it, by coming to the end of the file; `decodeUnchecked` does just that.

- `Reader.Guards`: a reader with checks does what the one without them does, or refuses a count.
  The relation composes like the readers do, so it holds of whole files (`decode_eq_or_refused`).
- `Error.InRecord`: what goes wrong inside a record, which is all that a reader of records without
  checks can report (`inRecord_of_readRecords`).
- `decode_iff_decodeUnchecked`: no verdict depends on the checks. That they never refuse a file that
  could be decoded is due to the length of records, which `decodeWith_eq_ok_iff` rests on.
-/

namespace StructVault.Snapshot

open Steps

/-! ## Readers with and without checks -/

namespace Reader

variable {α β : Type}

/-- The guarded reader does what the free one does, unless it refuses a count. -/
def Guards (guarded free : Reader α) : Prop :=
  ∀ cursor, guarded cursor = free cursor ∨ ∃ field count offset behind,
    guarded cursor = .error (.countOutOfRange field count offset) behind

theorem Guards.refl (reader : Reader α) : Guards reader reader := fun _ => Or.inl rfl

/-- A count that is refused first is refused at all, and otherwise both go on from one cursor. -/
theorem Guards.bind {guarded free : Reader α} {next next' : α → Reader β}
    (h : Guards guarded free) (hnext : ∀ value, Guards (next value) (next' value)) :
    Guards (guarded >>= next) (free >>= next') := by
  intro cursor
  rcases h cursor with hsame | ⟨field, count, offset, behind, hrefused⟩
  · cases hfree : free cursor with
    | ok value after =>
      rw [bind_of_ok (hsame.trans hfree), bind_of_ok hfree]
      exact hnext value after
    | error error after =>
      have hfails : (free >>= next') cursor = .error error after :=
        bind_eq_error.mpr (Or.inl hfree)
      rw [hfails]
      exact Or.inl (bind_eq_error.mpr (Or.inl (hsame.trans hfree)))
  · exact Or.inr ⟨field, count, offset, behind, bind_eq_error.mpr (Or.inl hrefused)⟩

theorem Guards.replicate {guarded free : Reader α} (h : Guards guarded free) :
    ∀ count, Guards (Reader.replicate guarded count) (Reader.replicate free count)
  | 0 => Guards.refl _
  | count + 1 => h.bind fun _ => (Guards.replicate h count).bind fun _ => Guards.refl _

theorem guards_checkCount (field : Field) (least : Nat) (count : UInt32) :
    Guards (checkCount true field least count) (checkCount false field least count) := by
  intro cursor
  cases hchecked : checkCount true field least count cursor with
  | ok n after =>
    obtain ⟨-, rfl, rfl⟩ := checkCount_eq_ok.mp hchecked
    have hfree : (false = true → count.toNat * least ≤ cursor.rest.length) := fun h => nomatch h
    exact Or.inl (checkCount_eq_ok.mpr ⟨hfree, rfl, rfl⟩).symm
  | error error after =>
    obtain ⟨-, -, rfl, -⟩ := checkCount_eq_error.mp hchecked
    exact Or.inr ⟨_, _, _, _, rfl⟩

end Reader

theorem guards_readStructure : Reader.Guards (readStructure true) (readStructure false) :=
  (Reader.Guards.refl _).bind fun _ => (Reader.Guards.refl _).bind fun _ =>
    (Reader.Guards.refl _).bind fun _ => (Reader.Guards.refl _).bind fun _ =>
    (Reader.guards_checkCount _ _ _).bind fun _ => Reader.Guards.refl _

theorem guards_readRecords (announced : UInt32) :
    Reader.Guards (readRecords true announced) (readRecords false announced) :=
  (Reader.guards_checkCount _ _ _).bind fun count => guards_readStructure.replicate count

theorem guards_readBody (announced : UInt32) :
    Reader.Guards (readBody true announced) (readBody false announced) := by
  rw [readBody_eq, readBody_eq]
  exact (guards_readRecords announced).bind fun _ => Reader.Guards.refl _

/-! ## Records without checks -/

/-- Errors inside a record: a field that does not end in the file, or a text that is none. -/
def Error.InRecord : Error → Prop
  | .truncated _ _ | .invalidText _ _ => True
  | _ => False

namespace Reader

/-- Readers that report nothing but errors inside a record. -/
def StaysInRecord {α : Type} (reader : Reader α) : Prop :=
  Keeps (fun _ => True) (fun error _ => error.InRecord) reader

theorem keptByFields_inRecord : KeptByFields (fun _ => True) fun error _ => error.InRecord where
  take field count := by
    constructor
    · intro before after bytes _ _
      trivial
    · intro before after error _ h
      obtain ⟨-, rfl, -⟩ := take_eq_error.mp h
      trivial
  invalidText _ _ _ _ := trivial

theorem staysInRecord_checkCount (field : Field) (least : Nat) (count : UInt32) :
    StaysInRecord (checkCount false field least count) where
  ok _ _ := trivial
  error _ h := nomatch (checkCount_eq_error.mp h).1

end Reader

theorem staysInRecord_readMember : Reader.StaysInRecord readMember :=
  Reader.keptByFields_inRecord.member

theorem staysInRecord_readStructure : Reader.StaysInRecord (readStructure false) := by
  have hfields := Reader.keptByFields_inRecord
  exact (hfields.text _).bind fun _ => (hfields.text _).bind fun _ => (hfields.size _).bind fun _ =>
    (hfields.word _).bind fun _ => (Reader.staysInRecord_checkCount _ _ _).bind fun _ =>
    (Reader.keeps_replicate staysInRecord_readMember _).bind fun _ => Keeps.pure _

theorem staysInRecord_readRecords (announced : UInt32) :
    Reader.StaysInRecord (readRecords false announced) :=
  (Reader.staysInRecord_checkCount _ _ _).bind fun _ =>
    Reader.keeps_replicate staysInRecord_readStructure _

/-- Where the checked reader refuses a count, the other one comes to a field or a text that fails:
the records that were announced are not there, for they would have passed the check. -/
theorem inRecord_of_refused {announced : UInt32} {cursor : Cursor} {field : Field}
    {count : UInt32} {offset : Nat}
    (h : outcome (readBody true announced cursor) = .error (.countOutOfRange field count offset)) :
    ∃ error, outcome (readBody false announced cursor) = .error error ∧ error.InRecord := by
  obtain ⟨final, h⟩ := outcome_eq_error.mp h
  rw [readBody_eq] at h
  rcases bind_eq_error.mp h with hrefused | ⟨structures, behind, -, hend⟩
  · cases hfree : readRecords false announced cursor with
    | ok structures after =>
      -- records that stand there are read with checks too, so none of them would be refused
      obtain ⟨bytes, hform, hrest, -⟩ := (reads_records false announced).takes hfree
      obtain ⟨offset, rest, reserved⟩ := cursor
      obtain ⟨reserved', hread⟩ :=
        (reads_records true announced).accepts hform offset after.rest reserved
      cases hrest
      cases hread.symm.trans hrefused
    | error error after =>
      refine ⟨error, ?_, (staysInRecord_readRecords announced).error trivial hfree⟩
      rw [readBody_eq]
      exact outcome_eq_error.mpr ⟨after, bind_eq_error.mpr (Or.inl hfree)⟩
  · rw [readEnd_apply] at hend
    split at hend <;> cases hend

/-! ## Files -/

variable {verifyChecksum : Bool} {data : Bytes}

/-- A file is decoded as it is without checks, unless a count is refused. -/
theorem decode_eq_or_refused (verifyChecksum : Bool) (data : Bytes) :
    decode verifyChecksum data = decodeUnchecked verifyChecksum data ∨ ∃ field count offset,
      decode verifyChecksum data = .error (.countOutOfRange field count offset) := by
  unfold decode decodeUnchecked
  cases hparse : Header.parse data with
  | error error =>
    have hfails : ∀ guarded, decodeWith guarded verifyChecksum data = .error error :=
      fun _ => decodeWith_eq_error.mpr (Or.inl hparse)
    exact Or.inl ((hfails true).trans (hfails false).symm)
  | ok header =>
    rcases guards_readBody header.structureCount (bodyStart data) with
      hsame | ⟨field, count, offset, behind, hrefused⟩
    · refine Or.inl ?_
      simp only [decodeWith_eq_bind, hparse]
      show outcome (readBody true header.structureCount (bodyStart data)) >>= _
        = outcome (readBody false header.structureCount (bodyStart data)) >>= _
      rw [hsame]
    · refine Or.inr ⟨field, count, offset, decodeWith_eq_error.mpr (Or.inr ⟨header, hparse, ?_⟩)⟩
      exact Or.inl (outcome_eq_error.mpr ⟨behind, hrefused⟩)

/-- A count is refused in the body, so the header in front of it was accepted. -/
theorem readBody_of_refused {field : Field} {count : UInt32} {offset : Nat}
    (h : decode verifyChecksum data = .error (.countOutOfRange field count offset)) :
    ∃ header, Header.parse data = .ok header
      ∧ outcome (readBody true header.structureCount (bodyStart data))
        = .error (.countOutOfRange field count offset) := by
  rcases decodeWith_eq_error.mp h with hparse | ⟨header, hparse, hbody | ⟨-, -, hverify⟩⟩
  · cases (trueOf_of_parse hparse).1
  · exact ⟨header, hparse, hbody⟩
  · obtain ⟨-, hmismatch⟩ := verify_eq_error.mp hverify
    cases hmismatch

/-- **The count checks change no verdict**: a file decodes to a list exactly when it does without
them. Where decoding fails without them it fails with them, in the same way or at a count; and
where a count is refused, decoding without the checks fails inside a record. -/
theorem decode_iff_decodeUnchecked (verifyChecksum : Bool) (data : Bytes) :
    (∀ structures, decode verifyChecksum data = .ok structures ↔
      decodeUnchecked verifyChecksum data = .ok structures)
    ∧ (∀ error, decodeUnchecked verifyChecksum data = .error error →
      decode verifyChecksum data = .error error ∨ ∃ field count offset,
        decode verifyChecksum data = .error (.countOutOfRange field count offset))
    ∧ ∀ field count offset,
      decode verifyChecksum data = .error (.countOutOfRange field count offset) →
        ∃ error, decodeUnchecked verifyChecksum data = .error error ∧ error.InRecord := by
  refine ⟨fun structures => ?_, fun error herror => ?_, fun field count offset hrefused => ?_⟩
  · exact decodeWith_eq_ok_iff.trans decodeWith_eq_ok_iff.symm
  · rcases decode_eq_or_refused verifyChecksum data with hsame | hrefused
    · exact Or.inl (hsame.trans herror)
    · exact Or.inr hrefused
  · obtain ⟨header, hparse, hbody⟩ := readBody_of_refused hrefused
    obtain ⟨error, hfree, hrecord⟩ := inRecord_of_refused hbody
    exact ⟨error, decodeWith_eq_error.mpr (Or.inr ⟨header, hparse, Or.inl hfree⟩), hrecord⟩

/-- Two structures without names; the second one announces two members and has one, without any
text, which ends with the file. -/
def inflatedFile : Bytes :=
  [83, 80, 83, 84, 1, 0, 0, 0, 2, 0, 0, 0, 0, 0, 0, 0,
    0, 0, 0, 0, 0, 0, 0, 0, 8, 0, 0, 0, 0, 0, 0, 0, 0, 0, 0, 0,
    0, 0, 0, 0, 0, 0, 0, 0, 8, 0, 0, 0, 0, 0, 0, 0, 2, 0, 0, 0,
    0, 0, 0, 0, 0, 0, 0, 0, 0, 0, 0, 0, 8, 0, 0, 0, 0, 0, 0, 0]

theorem decode_inflatedFile :
    decodeUnchecked true inflatedFile = .error (.truncated .memberName 76)
      ∧ decode true inflatedFile = .error (.countOutOfRange .memberCount 2 56)
      ∧ ∃ error, decodeUnchecked true inflatedFile = .error error ∧ error.InRecord := by
  have hrefused : decode true inflatedFile = .error (.countOutOfRange .memberCount 2 56) := by
    decide +kernel
  exact ⟨by decide +kernel, hrefused,
    (decode_iff_decodeUnchecked true inflatedFile).2.2 _ _ _ hrefused⟩

end StructVault.Snapshot

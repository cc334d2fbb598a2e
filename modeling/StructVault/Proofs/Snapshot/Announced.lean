import StructVault.Proofs.Snapshot.Extension

/-!
# The number a header announces

A body can be read with one number of structures only. With a smaller number there are records left
over (`readBody_of_fewer`), with a larger one the body ends where another record should begin
(`readBody_of_more`). The header therefore follows from the body even where the checksum is not
looked at: of its sixteen bytes just the four of the checksum are free, and a file with any other
change in front of its body is refused with an error that says so (`decode_false_of_body_eq`).
-/

namespace StructVault.Snapshot

open Steps

/-! ## Rows of records, cut in two -/

theorem encodeAll_append_eq_ok {α : Type} {encodeOne : α → Except Error Bytes} {ys : List α} :
    ∀ {xs : List α} {bytes : Bytes}, encodeAll encodeOne (xs ++ ys) = .ok bytes ↔
      ∃ front back, encodeAll encodeOne xs = .ok front ∧ encodeAll encodeOne ys = .ok back
        ∧ bytes = front ++ back
  | [], bytes => by
    constructor
    · intro h
      exact ⟨[], bytes, rfl, h, rfl⟩
    · rintro ⟨front, back, hfront, hback, rfl⟩
      cases hfront
      exact hback
  | x :: xs, bytes => by
    simp only [List.cons_append, encodeAll_cons_eq_ok, encodeAll_append_eq_ok]
    constructor
    · rintro ⟨one, _, hone, ⟨front, back, hfront, hback, rfl⟩, rfl⟩
      exact ⟨one ++ front, back, ⟨one, front, hone, hfront, rfl⟩, hback,
        (List.append_assoc _ _ _).symm⟩
    · rintro ⟨_, back, ⟨one, front, hone, hfront, rfl⟩, hback, rfl⟩
      exact ⟨one, front ++ back, hone, ⟨front, back, hfront, hback, rfl⟩,
        List.append_assoc _ _ _⟩

theorem Reader.replicate_add {α : Type} (reader : Reader α) (n : Nat) : ∀ m,
    Reader.replicate reader (m + n) = (do
      let front ← Reader.replicate reader m
      let back ← Reader.replicate reader n
      return front ++ back)
  | 0 => by simp [Reader.replicate]
  | m + 1 => by
    simp only [Nat.succ_add, Reader.replicate, Reader.replicate_add reader n m, bind_assoc,
      pure_bind, List.cons_append]

/-! ## Bodies under other numbers -/

variable {announced : UInt32} {body : Bytes} {structures : List Structure}

/-- Behind fewer structures than the body holds, the others are left over. -/
theorem readBody_of_fewer (guarded : Bool)
    (hall : encodeAll encodeStructure structures = .ok body)
    (hfewer : announced.toNat < structures.length) (offset reserved : Nat) :
    ∃ position, outcome (readBody guarded announced ⟨offset, body, reserved⟩)
      = .error (.trailingBytes position) := by
  rw [← List.take_append_drop announced.toNat structures] at hall
  obtain ⟨front, back, hfront, hback, rfl⟩ := encodeAll_append_eq_ok.mp hall
  have hcount : (structures.take announced.toNat).length = announced.toNat :=
    List.length_take_of_le (Nat.le_of_lt hfewer)
  -- what is left over begins with a whole record, and no record is empty
  have hleft : ¬ back.isEmpty = true := by
    obtain ⟨next, others, hothers⟩ := List.exists_cons_of_ne_nil
      (List.drop_eq_nil_iff.not.mpr (Nat.not_le_of_lt hfewer))
    rw [hothers] at hback
    rw [List.isEmpty_iff]
    exact encodeAll_cons_ne_nil
      (fun _ _ h => Nat.lt_of_lt_of_le (by decide) (leastStructure_le h)) hback
  obtain ⟨reserved', hread⟩ :=
    (reads_records guarded announced).accepts ⟨hcount, hfront⟩ offset back reserved
  refine ⟨offset + front.length,
    outcome_eq_error.mpr ⟨⟨offset + front.length, back, reserved'⟩, ?_⟩⟩
  rw [readBody_eq, bind_of_ok hread, readEnd_apply, if_neg hleft]

/-- No structure is read where nothing is left. -/
theorem readStructure_nil (guarded : Bool) (offset reserved : Nat) :
    readStructure guarded ⟨offset, [], reserved⟩
      = .error (.truncated .structureName offset) ⟨offset, [], reserved⟩ := rfl

/-- Behind all structures of the body, a further one is not there. -/
theorem replicate_of_more (guarded : Bool)
    (hall : encodeAll encodeStructure structures = .ok body) {count : Nat}
    (hmore : structures.length < count) (offset reserved : Nat) :
    ∃ final, Reader.replicate (readStructure guarded) count ⟨offset, body, reserved⟩
      = .error (.truncated .structureName (offset + body.length)) final := by
  obtain ⟨missing, rfl⟩ := Nat.exists_eq_add_of_lt hmore
  obtain ⟨reserved', hread⟩ := ((reads_structure guarded).replicate structures.length).accepts
    ⟨rfl, hall⟩ offset [] reserved
  rw [List.append_nil] at hread
  refine ⟨⟨offset + body.length, [], reserved'⟩, ?_⟩
  -- the row is cut behind the records that are there, at the end of the body
  rw [Nat.add_assoc, Reader.replicate_add, bind_of_ok hread]
  have hnext := readStructure_nil guarded (offset + body.length) reserved'
  exact bind_eq_error.mpr (Or.inl (bind_eq_error.mpr (Or.inl hnext)))

/-- With more structures announced than the body holds, the body ends early: the number of them
is refused, or the first one that is missing is found to be so. -/
theorem readBody_of_more (guarded : Bool)
    (hall : encodeAll encodeStructure structures = .ok body)
    (hmore : structures.length < announced.toNat) (offset reserved : Nat) :
    ∃ error, outcome (readBody guarded announced ⟨offset, body, reserved⟩) = .error error
      ∧ error.EndsEarly := by
  have hfails : ∀ {error final}, readRecords guarded announced ⟨offset, body, reserved⟩
      = .error error final →
      outcome (readBody guarded announced ⟨offset, body, reserved⟩) = .error error := by
    intro error final h
    rw [readBody_eq]
    exact outcome_eq_error.mpr ⟨final, bind_eq_error.mpr (Or.inl h)⟩
  cases hcheck : Reader.checkCount guarded .structureCount leastStructure announced
      ⟨offset, body, reserved⟩ with
  | error error after =>
    have hrefused := hfails (bind_eq_error.mpr (Or.inl hcheck))
    obtain ⟨-, -, rfl, -⟩ := Reader.checkCount_eq_error.mp hcheck
    exact ⟨_, hrefused, trivial⟩
  | ok count after =>
    obtain ⟨-, rfl, rfl⟩ := Reader.checkCount_eq_ok.mp hcheck
    obtain ⟨final, hloop⟩ :=
      replicate_of_more guarded hall hmore offset (reserved + announced.toNat)
    exact ⟨_, hfails ((bind_of_ok hcheck).trans hloop), trivial⟩

/-! ## Files with one body -/

variable {data data' : Bytes} {structures' : List Structure}

/-- What an accepted file decodes to, is what its body was encoded from. -/
theorem body_of_decode {verifyChecksum : Bool} (h : decode verifyChecksum data = .ok structures) :
    encodeAll encodeStructure structures = .ok (data.drop 16) := by
  obtain ⟨-, body, crc, hall, rfl, -⟩ := decode_eq_ok_iff.mp h
  rw [hall]
  exact congrArg Except.ok (drop_header _ body).symm

/-- The number of structures decides what stands in front of the checksum. -/
theorem front_of_decode {verifyChecksum : Bool} (h : decode verifyChecksum data = .ok structures) :
    data.take 12 = (Header.withChecksum structures.length 0).toBytes.take 12 := by
  obtain ⟨-, body, crc, -, rfl, -⟩ := decode_eq_ok_iff.mp h
  rfl

theorem eq_of_decode_false (h : decode false data = .ok structures)
    (h' : decode false data' = .ok structures') (hbody : data'.drop 16 = data.drop 16) :
    data'.take 12 = data.take 12 ∧ structures' = structures := by
  have hall := body_of_decode h
  rw [← hbody] at hall
  obtain rfl := body_unique (body_of_decode h') hall
  exact ⟨(front_of_decode h').trans (front_of_decode h).symm, rfl⟩

/-- A readable header in front of a body lets it be decoded only with the right number. -/
theorem decode_of_parse {header : Header} (hparse : Header.parse data = .ok header)
    (hall : encodeAll encodeStructure structures = .ok (data.drop 16)) :
    decode false data = .ok structures ∨ ∀ verifyChecksum, ∃ error,
      decode verifyChecksum data = .error error
        ∧ ((∃ offset, error = .trailingBytes offset) ∨ error.EndsEarly) := by
  have hrefused : ∀ {error}, outcome (readBody true header.structureCount (bodyStart data))
      = .error error → ∀ verifyChecksum, decode verifyChecksum data = .error error :=
    fun hfails _ => decodeWith_eq_error.mpr (Or.inr ⟨header, hparse, Or.inl hfails⟩)
  rcases Nat.lt_trichotomy header.structureCount.toNat structures.length with
    hfewer | hcount | hmore
  · obtain ⟨offset, hfails⟩ := readBody_of_fewer true hall hfewer Header.size 0
    exact Or.inr fun verifyChecksum =>
      ⟨_, hrefused hfails verifyChecksum, Or.inl ⟨offset, rfl⟩⟩
  · exact Or.inl (decodeWith_false_of_readBody hparse (readBody_eq_ok.mpr ⟨hcount.symm, hall⟩))
  · obtain ⟨error, hfails, hearly⟩ := readBody_of_more true hall hmore Header.size 0
    exact Or.inr fun verifyChecksum => ⟨error, hrefused hfails verifyChecksum, Or.inr hearly⟩

/-- **The body determines the header**: of two files with one body that decode without a look at
the checksum, everything in front of the checksum is the same, and so is what they decode to. Any
other file with that body is refused: for its header, or because the header announces fewer
structures than there are, or more. -/
theorem decode_false_of_body_eq (h : decode false data = .ok structures)
    (hbody : data'.drop 16 = data.drop 16) :
    (∀ structures', decode false data' = .ok structures' →
      data'.take 12 = data.take 12 ∧ structures' = structures)
    ∧ (data'.take 12 ≠ data.take 12 → ∀ verifyChecksum, ∃ error,
      decode verifyChecksum data' = .error error ∧ (error.stage = .header
        ∨ (∃ offset, error = .trailingBytes offset) ∨ error.EndsEarly)) := by
  refine ⟨fun structures' h' => eq_of_decode_false h h' hbody, fun hne verifyChecksum => ?_⟩
  cases hparse : Header.parse data' with
  | error error =>
    exact ⟨error, decodeWith_eq_error.mpr (Or.inl hparse), Or.inl (trueOf_of_parse hparse).1⟩
  | ok header =>
    have hall := body_of_decode h
    rw [← hbody] at hall
    rcases decode_of_parse hparse hall with hok | hrefused
    · -- a file that decodes would have the front that this one does not have
      exact absurd (eq_of_decode_false h hok hbody).1 hne
    · obtain ⟨error, herror, hkind⟩ := hrefused verifyChecksum
      exact ⟨error, herror, Or.inr hkind⟩

/-- The snapshot of a structure `é` with another checksum. -/
def unsealedFile : Bytes := loneFile.take 12 ++ [0, 0, 0, 0] ++ loneFile.drop 16

/-- The same snapshot with two structures announced. -/
def overstatedFile : Bytes := loneFile.take 8 ++ [2, 0, 0, 0] ++ loneFile.drop 12

theorem decode_false_unsealedFile :
    decode false unsealedFile = .ok [{ name := "é", size := 8 }]
      ∧ unsealedFile.take 12 = loneFile.take 12
      ∧ (∃ stored computed, decode true unsealedFile = .error (.checksumMismatch stored computed))
      ∧ ∀ verifyChecksum, ∃ error, decode verifyChecksum overstatedFile = .error error
        ∧ (error.stage = .header ∨ (∃ offset, error = .trailingBytes offset)
          ∨ error.EndsEarly) := by
  have hlone : decode false loneFile = .ok [{ name := "é", size := 8 }] := by decide +kernel
  have hunsealed : decode false unsealedFile = .ok [{ name := "é", size := 8 }] := by
    decide +kernel
  have hother : overstatedFile.take 12 ≠ loneFile.take 12 := by decide
  have hbody : unsealedFile.drop 16 = loneFile.drop 16 := rfl
  have hbody' : overstatedFile.drop 16 = loneFile.drop 16 := rfl
  refine ⟨hunsealed, ?_, ⟨0, 0x8B8C38D2, by decide +kernel⟩, ?_⟩
  · exact ((decode_false_of_body_eq hlone hbody).1 _ hunsealed).1
  · exact (decode_false_of_body_eq hlone hbody').2 hother

end StructVault.Snapshot

import StructVault.Checksum
import StructVault.Proofs.Bytes.LittleEndian
import StructVault.Proofs.Bytes.Window

/-!
# What the checksum detects

A change inside four consecutive bytes always changes the checksum (`eq_of_checksum_eq`). The
argument has two halves:

- what stands behind the change cannot undo it: taking in a byte is injective in the remainder
  (`run_injective`), because a shift loses nothing (`shift_injective`);
- the change itself is visible: up to four bytes are taken in as one number, xored into the
  remainder before all shifts are made (`run_eq_shifts`), so different bytes leave different
  remainders.

Both rest on linearity: a shift is a map over xor (`shift_xor`), and a number whose low bits are
clear is only moved down (`shifts_mul`).
-/

namespace StructVault.Crc32

/-! ## Linearity -/

theorem and_one_eq_one_iff (crc : UInt32) : crc &&& 1 = 1 ↔ crc.toNat % 2 = 1 := by
  rw [← UInt32.toNat_inj, UInt32.toNat_and]
  show crc.toNat &&& 1 = 1 ↔ _
  rw [Nat.and_one_is_mod]

theorem shift_of_odd {crc : UInt32} (h : crc.toNat % 2 = 1) :
    shift crc = (crc >>> 1) ^^^ polynomial := if_pos ((and_one_eq_one_iff crc).mpr h)

theorem shift_of_even {crc : UInt32} (h : ¬ crc.toNat % 2 = 1) : shift crc = crc >>> 1 :=
  if_neg fun hodd => h ((and_one_eq_one_iff crc).mp hodd)

theorem toNat_shiftRight_one (crc : UInt32) : (crc >>> 1).toNat = crc.toNat / 2 := by
  rw [UInt32.toNat_shiftRight]
  exact Nat.shiftRight_eq_div_pow crc.toNat 1

theorem xor_xor_xor_comm (a b c d : UInt32) : (a ^^^ b) ^^^ (c ^^^ d) = (a ^^^ c) ^^^ (b ^^^ d) := by
  rw [UInt32.xor_assoc, ← UInt32.xor_assoc b, UInt32.xor_comm b c, UInt32.xor_assoc c,
    ← UInt32.xor_assoc]

/-- A shift is linear: the divisor is subtracted from the sum exactly when it is subtracted from
one of the two parts. -/
theorem shift_xor (a b : UInt32) : shift (a ^^^ b) = shift a ^^^ shift b := by
  have hlow : (a ^^^ b).toNat % 2 = 1 ↔ ¬ (a.toNat % 2 = 1 ↔ b.toNat % 2 = 1) := by
    rw [UInt32.toNat_xor]
    exact Nat.xor_mod_two_eq_one
  by_cases ha : a.toNat % 2 = 1
  · by_cases hb : b.toNat % 2 = 1
    · -- both subtract it, so that it cancels
      rw [shift_of_even fun h => hlow.mp h ⟨fun _ => hb, fun _ => ha⟩, shift_of_odd ha,
        shift_of_odd hb, xor_xor_xor_comm, UInt32.xor_self, UInt32.xor_zero,
        UInt32.shiftRight_xor]
    · rw [shift_of_odd (hlow.mpr fun h => hb (h.mp ha)), shift_of_odd ha, shift_of_even hb,
        UInt32.shiftRight_xor, UInt32.xor_assoc, UInt32.xor_comm (b >>> 1), ← UInt32.xor_assoc]
  · by_cases hb : b.toNat % 2 = 1
    · rw [shift_of_odd (hlow.mpr fun h => ha (h.mpr hb)), shift_of_even ha, shift_of_odd hb,
        UInt32.shiftRight_xor, UInt32.xor_assoc]
    · have heven : ¬ (a ^^^ b).toNat % 2 = 1 := fun h =>
        hlow.mp h ⟨fun h' => absurd h' ha, fun h' => absurd h' hb⟩
      rw [shift_of_even heven, shift_of_even ha, shift_of_even hb, UInt32.shiftRight_xor]

theorem shifts_xor (n : Nat) (a b : UInt32) :
    shifts n (a ^^^ b) = shifts n a ^^^ shifts n b := by
  induction n generalizing a b with
  | zero => rfl
  | succ n ih =>
    show shifts n (shift (a ^^^ b)) = shifts n (shift a) ^^^ shifts n (shift b)
    rw [shift_xor, ih]

theorem shifts_add (m n : Nat) (crc : UInt32) : shifts (m + n) crc = shifts m (shifts n crc) := by
  induction n generalizing crc with
  | zero => rfl
  | succ n ih =>
    show shifts (m + n) (shift crc) = shifts m (shifts n (shift crc))
    exact ih (shift crc)

/-! ## A shift loses nothing -/

/-- The divisor has its highest bit set and a number moved down has it clear, so no remainder but
zero is shifted to zero. -/
theorem eq_zero_of_shift {crc : UInt32} (h : shift crc = 0) : crc = 0 := by
  have hlt : crc.toNat < 2 ^ 32 := crc.toNat_lt
  by_cases hodd : crc.toNat % 2 = 1
  · rw [shift_of_odd hodd, UInt32.xor_eq_zero_iff] at h
    have hhigh : crc.toNat / 2 = 0xEDB88320 := by
      rw [← toNat_shiftRight_one, h]
      rfl
    omega
  · rw [shift_of_even hodd] at h
    have hhalf : crc.toNat / 2 = 0 := by
      rw [← toNat_shiftRight_one, h]
      rfl
    apply UInt32.toNat_inj.mp
    show crc.toNat = 0
    omega

theorem shift_injective {a b : UInt32} (h : shift a = shift b) : a = b := by
  have hzero : shift (a ^^^ b) = 0 := by
    rw [shift_xor, h, UInt32.xor_self]
  exact UInt32.xor_eq_zero_iff.mp (eq_zero_of_shift hzero)

theorem shifts_injective {n : Nat} {a b : UInt32} (h : shifts n a = shifts n b) : a = b := by
  induction n generalizing a b with
  | zero => exact h
  | succ n ih => exact shift_injective (ih h)

theorem run_injective {a b : UInt32} {bytes : Bytes} (h : run a bytes = run b bytes) : a = b := by
  induction bytes generalizing a b with
  | nil => exact h
  | cons byte bytes ih =>
    have hstep : step a byte = step b byte := ih h
    exact (UInt32.xor_left_inj _).mp (shifts_injective hstep)

/-! ## Four bytes as one number -/

/-- The number that some bytes are xored into the remainder as, the first byte lowest. -/
def word (bytes : Bytes) : UInt32 := UInt32.ofNat (LittleEndian.decode bytes)

theorem decode_lt_of_length_le {bytes : Bytes} {n : Nat} (h : bytes.length ≤ n) :
    LittleEndian.decode bytes < 256 ^ n :=
  Nat.lt_of_lt_of_le (LittleEndian.decode_lt bytes) (Nat.pow_le_pow_right (by decide) h)

theorem toNat_word {bytes : Bytes} (h : bytes.length ≤ 4) :
    (word bytes).toNat = LittleEndian.decode bytes :=
  UInt32.toNat_ofNat_of_lt' (decode_lt_of_length_le h)

/-- A number above an octet is added to the octet by xor. -/
theorem mul_xor_of_lt {high low : Nat} (h : low < 2 ^ 8) :
    low ^^^ 2 ^ 8 * high = low + 2 ^ 8 * high := by
  apply Nat.eq_of_testBit_eq
  intro i
  rw [Nat.add_comm low, Nat.testBit_two_pow_mul_add high h, Nat.testBit_xor,
    Nat.testBit_two_pow_mul]
  by_cases hi : i < 8
  · simp [hi, Nat.not_le.mpr hi]
  · have hge : 8 ≤ i := Nat.le_of_not_lt hi
    have hlow : low.testBit i = false :=
      Nat.testBit_lt_two_pow (Nat.lt_of_lt_of_le h (Nat.pow_le_pow_right (by decide) hge))
    simp [hi, hge, hlow]

/-- A number whose low bits are clear is only moved down. -/
theorem shifts_mul : ∀ (n : Nat) {crc : UInt32} {k : Nat}, crc.toNat = 2 ^ n * k →
    (shifts n crc).toNat = k
  | 0, crc, k, h => by
    show crc.toNat = k
    rw [h, Nat.pow_zero, Nat.one_mul]
  | n + 1, crc, k, h => by
    have hdouble : crc.toNat = 2 * (2 ^ n * k) := by
      rw [h, Nat.pow_succ, Nat.mul_comm (2 ^ n) 2, Nat.mul_assoc]
    have heven : ¬ crc.toNat % 2 = 1 := by omega
    show (shifts n (shift crc)).toNat = k
    apply shifts_mul n
    rw [shift_of_even heven, toNat_shiftRight_one]
    omega

/-- The first byte of a word lies below the others, which eight shifts bring down to its place. -/
theorem shifts_eight_word {byte : UInt8} {bytes : Bytes} (h : bytes.length ≤ 3) (crc : UInt32) :
    shifts 8 (crc ^^^ byte.toUInt32) ^^^ word bytes
      = shifts 8 (crc ^^^ word (byte :: bytes)) := by
  have hbyte : byte.toNat < 2 ^ 8 := byte.toNat_lt
  have hrest : LittleEndian.decode bytes < 256 ^ 3 := decode_lt_of_length_le h
  have hfits : 2 ^ 8 * LittleEndian.decode bytes < 2 ^ 32 := by omega
  have hhigh : (UInt32.ofNat (2 ^ 8 * LittleEndian.decode bytes)).toNat
      = 2 ^ 8 * LittleEndian.decode bytes := UInt32.toNat_ofNat_of_lt' hfits
  -- the bytes above the first are a number with eight clear bits below it
  have hdown : word bytes = shifts 8 (UInt32.ofNat (2 ^ 8 * LittleEndian.decode bytes)) := by
    apply UInt32.toNat_inj.mp
    rw [toNat_word (by omega), shifts_mul 8 hhigh]
  have hword : word (byte :: bytes)
      = byte.toUInt32 ^^^ UInt32.ofNat (2 ^ 8 * LittleEndian.decode bytes) := by
    apply UInt32.toNat_inj.mp
    rw [toNat_word (by rw [List.length_cons]; omega), UInt32.toNat_xor, hhigh,
      UInt8.toNat_toUInt32, mul_xor_of_lt hbyte]
    rfl
  rw [hdown, ← shifts_xor, UInt32.xor_assoc, ← hword]

/-- Up to four bytes are taken in by xoring all of them into the remainder at once and making all
their shifts afterwards. -/
theorem run_eq_shifts : ∀ {bytes : Bytes} (crc : UInt32), bytes.length ≤ 4 →
    run crc bytes = shifts (8 * bytes.length) (crc ^^^ word bytes)
  | [], crc, _ => by
    show crc = crc ^^^ 0
    rw [UInt32.xor_zero]
  | byte :: bytes, crc, h => by
    have hrest : bytes.length ≤ 3 := Nat.le_of_succ_le_succ h
    rw [run_cons, run_eq_shifts (step crc byte) (by omega), step, shifts_eight_word hrest,
      ← shifts_add, List.length_cons, Nat.mul_succ]

theorem word_injective {a b : Bytes} (hlen : a.length = b.length) (hshort : a.length ≤ 4)
    (h : word a = word b) : a = b := by
  have hnat : LittleEndian.decode a = LittleEndian.decode b := by
    rw [← toNat_word hshort, h, toNat_word (hlen ▸ hshort)]
  rw [← LittleEndian.encode_decode a, hnat, hlen, LittleEndian.encode_decode]

/-! ## Detection -/

/-- **Burst detection**: strings that only differ in four consecutive bytes have different
checksums. -/
theorem eq_of_checksum_eq {start : Nat} {a b : Bytes} (h : AgreeOutside start (start + 4) a b)
    (hsum : checksum a = checksum b) : a = b := by
  obtain ⟨hlen, hfront, hback⟩ := agreeOutside_iff.mp h
  have hsplit : ∀ c : Bytes,
      c = c.take start ++ ((c.drop start).take 4 ++ c.drop (start + 4)) := by
    intro c
    rw [← List.drop_drop, List.take_append_drop, List.take_append_drop]
  have hwindow : ((a.drop start).take 4).length = ((b.drop start).take 4).length := by
    simp only [List.length_take, List.length_drop, hlen]
  have hshort : ∀ c : Bytes, ((c.drop start).take 4).length ≤ 4 := fun c =>
    List.length_take_le ..
  have hrun : run Crc32.start a = run Crc32.start b := UInt32.not_inj.mp hsum
  -- both remainders are equal behind the windows, hence before what follows the windows
  rw [hsplit a, hsplit b, hfront, hback, run_append, run_append, run_append, run_append] at hrun
  have hin := run_injective hrun
  rw [run_eq_shifts _ (hshort a), run_eq_shifts _ (hshort b), hwindow] at hin
  have hword := (UInt32.xor_right_inj _).mp (shifts_injective hin)
  rw [hsplit a, hsplit b, hfront, hback, word_injective hwindow (hshort a) hword]

end StructVault.Crc32

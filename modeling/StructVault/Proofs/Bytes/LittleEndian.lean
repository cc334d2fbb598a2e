import Mathlib.Algebra.Ring.Nat
import StructVault.Bytes

/-!
# Laws of fixed-width numbers

The two laws `decode_encode` and `encode_decode` make every fixed-width field a bijection
between the numbers below `256 ^ width` and the byte strings of length `width`.
-/

namespace StructVault.LittleEndian

theorem decode_encode (width n : Nat) : decode (encode width n) = n % 256 ^ width := by
  induction width generalizing n with
  | zero => simp [encode, decode, Nat.mod_one]
  | succ width ih =>
    have step : n % (256 * 256 ^ width) = n % 256 + 256 * (n / 256 % 256 ^ width) :=
      Nat.mod_mul
    simp only [encode, decode, ih, UInt8.toNat_ofNat', Nat.pow_succ]
    rw [Nat.mul_comm (256 ^ width) 256, step]

theorem decode_lt (bytes : Bytes) : decode bytes < 256 ^ bytes.length := by
  induction bytes with
  | nil => simp [decode]
  | cons b bs ih =>
    have := b.toNat_lt
    simp only [decode, List.length_cons, Nat.pow_succ]
    omega

theorem encode_decode (bytes : Bytes) : encode bytes.length (decode bytes) = bytes := by
  induction bytes with
  | nil => rfl
  | cons b bs ih =>
    have hb := b.toNat_lt
    have low : (b.toNat + 256 * decode bs) % 2 ^ 8 = b.toNat := by omega
    have high : (b.toNat + 256 * decode bs) / 256 = decode bs := by omega
    simp only [List.length_cons, decode, encode, high, ih, List.cons.injEq, and_true]
    apply UInt8.toNat_inj.mp
    simp only [UInt8.toNat_ofNat', low]

end StructVault.LittleEndian

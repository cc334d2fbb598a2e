import StructVault.Bytes

/-!
# Byte strings that differ in a window

`AgreeOutside first last a b` says that two byte strings of one length can only differ at the
positions from `first` up to `last`. By `agreeOutside_iff` this is agreement of what stands in
front of the window and of what stands behind it, the form in which proofs about files use it.
-/

namespace StructVault

/-- The strings have one length and one byte at every position outside the window. -/
def AgreeOutside (first last : Nat) (a b : Bytes) : Prop :=
  a.length = b.length ∧ ∀ i, i < first ∨ last ≤ i → a[i]? = b[i]?

theorem take_eq_of_getElem? {a b : Bytes} {n : Nat} (h : ∀ i, i < n → a[i]? = b[i]?) :
    a.take n = b.take n := by
  apply List.ext_getElem?
  intro i
  rw [List.getElem?_take, List.getElem?_take]
  by_cases hi : i < n
  · rw [if_pos hi, if_pos hi, h i hi]
  · rw [if_neg hi, if_neg hi]

theorem drop_eq_of_getElem? {a b : Bytes} {n : Nat} (h : ∀ i, n ≤ i → a[i]? = b[i]?) :
    a.drop n = b.drop n := by
  apply List.ext_getElem?
  intro i
  rw [List.getElem?_drop, List.getElem?_drop]
  exact h (n + i) (Nat.le_add_right n i)

theorem agreeOutside_iff {first last : Nat} {a b : Bytes} : AgreeOutside first last a b ↔
    a.length = b.length ∧ a.take first = b.take first ∧ a.drop last = b.drop last := by
  constructor
  · rintro ⟨hlen, hout⟩
    exact ⟨hlen, take_eq_of_getElem? fun i hi => hout i (Or.inl hi),
      drop_eq_of_getElem? fun i hi => hout i (Or.inr hi)⟩
  · rintro ⟨hlen, hfront, hback⟩
    refine ⟨hlen, fun i hi => ?_⟩
    rcases hi with hi | hi
    · rw [← List.getElem?_take_of_lt hi, hfront, List.getElem?_take_of_lt hi]
    · obtain ⟨k, rfl⟩ := Nat.exists_eq_add_of_le hi
      rw [← List.getElem?_drop, hback, List.getElem?_drop]

/-- A window may be taken larger. -/
theorem AgreeOutside.mono {first last first' last' : Nat} {a b : Bytes}
    (h : AgreeOutside first last a b) (hfirst : first' ≤ first) (hlast : last ≤ last') :
    AgreeOutside first' last' a b := by
  refine ⟨h.1, fun i hi => h.2 i ?_⟩
  omega

/-- Without the bytes in front of the window, the window starts so much earlier. -/
theorem AgreeOutside.drop {first last : Nat} {a b : Bytes} (n : Nat)
    (h : AgreeOutside (n + first) (n + last) a b) :
    AgreeOutside first last (a.drop n) (b.drop n) := by
  refine ⟨by rw [List.length_drop, List.length_drop, h.1], fun i hi => ?_⟩
  rw [List.getElem?_drop, List.getElem?_drop]
  apply h.2
  omega

/-- A change of one byte is a change in a window of one byte. -/
theorem agreeOutside_modify (a : Bytes) (position : Nat) (change : UInt8 → UInt8) :
    AgreeOutside position (position + 1) a (a.modify position change) := by
  refine ⟨(List.length_modify ..).symm, fun i hi => ?_⟩
  have hne : position ≠ i := by omega
  exact (List.getElem?_modify_ne change a hne).symm

/-- Flipping bits of a byte of the string changes the string. -/
theorem modify_xor_ne {a : Bytes} {position : Nat} {mask : UInt8} (h : position < a.length)
    (hmask : mask ≠ 0) : a.modify position (· ^^^ mask) ≠ a := by
  intro heq
  have hbyte := congrArg (·[position]?) heq
  rw [List.getElem?_modify_eq, List.getElem?_eq_getElem h] at hbyte
  have hxor : a[position] ^^^ mask = a[position] ^^^ 0 := by
    rw [UInt8.xor_zero]
    exact Option.some.inj hbyte
  exact hmask ((UInt8.xor_right_inj _).mp hxor)

end StructVault

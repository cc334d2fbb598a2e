import Mathlib.Algebra.BigOperators.Group.List.Basic
import Mathlib.Algebra.Ring.Nat
import StructVault.Structure

/-!
# Totals

Sizes are added up with a cap at every step, and that caps their sum once (`toNat_total`): a sum that
has reached the largest size stays there, and one that has not was never cut. So the order in which
sizes are added up is not important, although each step may lose something. The members of several
structures are counted without a cap.
-/

namespace StructVault

namespace ByteSize

theorem toNat_le_largest (size : ByteSize) : size.toNat ≤ largest :=
  Nat.le_sub_one_of_lt size.toNat_lt

theorem le_add (a b : ByteSize) : a ≤ add a b := by
  have ha := toNat_le_largest a
  rw [UInt64.le_iff_toNat_le, toNat_add]
  omega

theorem toNat_foldl_add (sizes : List ByteSize) (start : ByteSize) :
    (sizes.foldl add start).toNat
      = min (start.toNat + (sizes.map UInt64.toNat).sum) largest := by
  induction sizes generalizing start with
  | nil =>
    have hstart := toNat_le_largest start
    rw [List.foldl_nil, List.map_nil, List.sum_nil]
    omega
  | cons size rest ih =>
    -- a sum that was capped on the way is beyond the cap at the end too
    rw [List.foldl_cons, ih, toNat_add, List.map_cons, List.sum_cons]
    omega

/-- **A total is the sum**, or the largest size where the sum is beyond it. -/
theorem toNat_total (sizes : List ByteSize) :
    (total sizes).toNat = min (sizes.map UInt64.toNat).sum largest := by
  have hzero : (0 : ByteSize).toNat = 0 := rfl
  rw [total, toNat_foldl_add, hzero, Nat.zero_add]

theorem total_of_perm {sizes reordered : List ByteSize} (h : reordered.Perm sizes) :
    total reordered = total sizes := by
  apply UInt64.toNat_inj.mp
  rw [toNat_total, toNat_total, (h.map UInt64.toNat).sum_eq]

end ByteSize

theorem memberCount_eq_sum (structures : List Structure) :
    memberCount structures = (structures.map (·.members.length)).sum := by
  induction structures with
  | nil => rfl
  | cons first rest ih => rw [memberCount_cons, List.map_cons, List.sum_cons, ih]

theorem memberCount_of_perm {structures reordered : List Structure}
    (h : reordered.Perm structures) : memberCount reordered = memberCount structures := by
  rw [memberCount_eq_sum, memberCount_eq_sum, (h.map _).sum_eq]

end StructVault

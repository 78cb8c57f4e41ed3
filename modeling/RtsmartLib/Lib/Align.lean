import Mathlib.Data.Nat.Bitwise
import Mathlib.Algebra.Order.Group.Nat

/-!
This module contains rounding down to a power of two by a mask.
-/

namespace Lib

theorem and_not_low {w : Nat} (k : Nat) (x : BitVec w)
    : x &&& ~~~BitVec.ofNat w (2 ^ k - 1) = x >>> k <<< k := by
  apply BitVec.eq_of_getLsbD_eq
  intro i hi
  rw [BitVec.getLsbD_and, BitVec.getLsbD_not, BitVec.getLsbD_ofNat, BitVec.getLsbD_shiftLeft,
    BitVec.getLsbD_ushiftRight, Nat.testBit_two_pow_sub_one]
  by_cases h : i < k
  . simp [h]
  . have hsum : k + (i - k) = i := by
      omega
    simp [h, hi, hsum]

theorem toNat_and_not_low {w : Nat} (k : Nat) (x : BitVec w)
    : (x &&& ~~~BitVec.ofNat w (2 ^ k - 1)).toNat = x.toNat / 2 ^ k * 2 ^ k := by
  rw [and_not_low, BitVec.toNat_shiftLeft, BitVec.toNat_ushiftRight]
  rw [Nat.shiftLeft_eq, Nat.shiftRight_eq_div_pow]
  apply Nat.mod_eq_of_lt
  exact Nat.lt_of_le_of_lt (Nat.div_mul_le_self _ _) x.isLt

end Lib

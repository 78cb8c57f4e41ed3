import RtsmartLib.Lvgl.ImageFormat

/-!
This module contains what the fields of a 16 bit pixel are in terms of its two bytes.
-/

namespace Lvgl

open Lib Lib.Rvv

theorem getLsbD_word (hi lo : Byte) (i : Nat)
    : (word hi lo).getLsbD i = if i < 8 then lo.getLsbD i else hi.getLsbD (i - 8) := by
  unfold word
  simp only [BitVec.getLsbD_or, BitVec.getLsbD_shiftLeft, BitVec.getLsbD_setWidth]
  split
  . next h =>
    have h16 : i < 16 := by omega
    simp [h, h16]
  . next h =>
    have hlo : lo.getLsbD i = false := by
      apply BitVec.getLsbD_of_ge
      omega
    by_cases h16 : i < 16
    . have hsub : i - 8 < 16 := by omega
      simp only [h, h16, hsub, hlo, decide_true, decide_false, Bool.not_false, Bool.true_and,
        Bool.and_false, Bool.or_false]
    . have hhi : hi.getLsbD (i - 8) = false := by
        apply BitVec.getLsbD_of_ge
        omega
      simp only [hlo, hhi, Bool.and_false, Bool.or_false]

theorem getLsbD_bits (value : BitVec 16) (shift n : Nat) {i : Nat} (hi : i < 8)
    : (bits value shift (BitVec.ofNat 16 (2 ^ n - 1))).getLsbD i
      = (decide (i < n) && value.getLsbD (shift + i)) := by
  unfold bits
  have h16 : i < 16 := by omega
  simp only [BitVec.getLsbD_setWidth, BitVec.getLsbD_and, BitVec.getLsbD_ushiftRight,
    BitVec.getLsbD_ofNat, Nat.testBit_two_pow_sub_one, hi, h16, decide_true, Bool.true_and, Bool.and_comm]

theorem getLsbD_field (x : Byte) (left right i : Nat)
    : (x <<< left >>> right).getLsbD i
      = (decide (right + i < 8 ∧ left ≤ right + i) && x.getLsbD (right + i - left)) := by
  simp only [BitVec.getLsbD_ushiftRight, BitVec.getLsbD_shiftLeft]
  by_cases h : right + i < 8
  . by_cases h' : left ≤ right + i
    . have : ¬(right + i < left) := by omega
      simp [h, h', this]
    . have : right + i < left := by omega
      simp [h, h', this]
  . simp [h]

theorem bits_lo (hi lo : Byte) {s : Nat} (n : Nat) (h : s + n ≤ 8) {mask : BitVec 16}
    (hmask : mask = BitVec.ofNat 16 (2 ^ n - 1))
    : bits (word hi lo) s mask = lo <<< (8 - s - n) >>> (8 - n) := by
  subst hmask
  apply BitVec.eq_of_getLsbD_eq
  intro i hi
  rw [getLsbD_bits _ _ _ hi]
  rw [getLsbD_word]
  rw [getLsbD_field]
  by_cases hn : i < n
  . have hbit : 8 - n + i < 8 ∧ 8 - s - n ≤ 8 - n + i := by omega
    have hidx : 8 - n + i - (8 - s - n) = s + i := by omega
    rw [if_pos (by omega)]
    simp [hn, hbit, hidx]
  . have hbit : ¬(8 - n + i < 8) := by omega
    simp [hn, hbit]

theorem bits_hi (hi lo : Byte) {s : Nat} (n : Nat) (hs : 8 ≤ s) (h : s + n ≤ 16) {mask : BitVec 16}
    (hmask : mask = BitVec.ofNat 16 (2 ^ n - 1))
    : bits (word hi lo) s mask = hi <<< (16 - s - n) >>> (8 - n) := by
  subst hmask
  apply BitVec.eq_of_getLsbD_eq
  intro i hi
  rw [getLsbD_bits _ _ _ hi]
  rw [getLsbD_word]
  rw [getLsbD_field]
  by_cases hn : i < n
  . have hbit : 8 - n + i < 8 ∧ 16 - s - n ≤ 8 - n + i := by omega
    have hidx : 8 - n + i - (16 - s - n) = s + i - 8 := by omega
    rw [if_neg (by omega)]
    simp [hn, hbit, hidx]
  . have hbit : ¬(8 - n + i < 8) := by omega
    simp [hn, hbit]

theorem bits_across (hi lo : Byte) {s : Nat} (n : Nat) (hs : s < 8) (hn : 8 < s + n) (h8 : n ≤ 8)
    {mask : BitVec 16} (hmask : mask = BitVec.ofNat 16 (2 ^ n - 1))
    : bits (word hi lo) s mask
        = lo >>> s ||| hi <<< (16 - s - n) >>> (16 - s - n) <<< (8 - s) := by
  subst hmask
  apply BitVec.eq_of_getLsbD_eq
  intro i hi
  rw [getLsbD_bits _ _ _ hi]
  rw [getLsbD_word]
  simp only [BitVec.getLsbD_or, BitVec.getLsbD_shiftLeft _ (8 - s), BitVec.getLsbD_ushiftRight lo]
  by_cases hcut : s + i < 8
  . have hi8 : i < 8 - s := by omega
    have hin : i < n := by omega
    simp [hcut, hi8, hin]
  . have hi8 : ¬(i < 8 - s) := by omega
    have hlo : lo.getLsbD (s + i) = false := by
      apply BitVec.getLsbD_of_ge
      omega
    rw [getLsbD_field]
    have hidx : s + i - 8 = i - (8 - s) := by omega
    have hcond : (16 - s - n + (i - (8 - s)) < 8 ∧ 16 - s - n ≤ 16 - s - n + (i - (8 - s)))
        ↔ i < n := by
      omega
    simp only [hcut, hi8, hi, hlo, hidx, hcond, ↓reduceIte, decide_true, decide_false,
      Bool.not_false, Bool.true_and, Bool.false_or, Nat.add_sub_cancel_left]

theorem swap_word (hi lo : Byte) : word hi lo <<< 8 ||| word hi lo >>> 8 = word lo hi := by
  apply BitVec.eq_of_getLsbD_eq
  intro i hi16
  simp only [BitVec.getLsbD_or, BitVec.getLsbD_shiftLeft, BitVec.getLsbD_ushiftRight, getLsbD_word,
    hi16]
  by_cases h : i < 8
  . simp [h]
  . have h8 : i - 8 < 8 := by omega
    have hhi : hi.getLsbD i = false := by
      apply BitVec.getLsbD_of_ge
      omega
    simp [h, h8, hhi]

theorem store16_word (hi lo : Byte) : store16 (word hi lo) = [lo, hi] := by
  have hlo : (word hi lo).setWidth 8 = lo := by
    apply BitVec.eq_of_getLsbD_eq
    intro i h
    rw [BitVec.getLsbD_setWidth]
    rw [getLsbD_word]
    simp only [h, decide_true, Bool.true_and, ↓reduceIte]
  have hhi : (word hi lo >>> 8).setWidth 8 = hi := by
    apply BitVec.eq_of_getLsbD_eq
    intro i h
    rw [BitVec.getLsbD_setWidth]
    rw [BitVec.getLsbD_ushiftRight]
    rw [getLsbD_word]
    rw [if_neg (by omega)]
    simp only [h, decide_true, Bool.true_and, Nat.add_sub_cancel_left]
  unfold store16
  rw [hlo, hhi]

end Lvgl

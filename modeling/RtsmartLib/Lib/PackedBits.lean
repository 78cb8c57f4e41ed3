import RtsmartLib.Lib.Memory

/-!
This module contains byte strings as strings of bits, with the lowest bit of a byte first, and numbers
that are put into them at bits which need not be the first of a byte.
-/

namespace Lib

def bitAt (bytes : List Byte) (p : Nat) : Bool :=
  (bytes.getD (p / 8) 0).getLsbD (p % 8)

theorem bitAt_getD (bytes : List Byte) (i : Nat) {j : Nat} (hj : j < 8)
    : (bytes.getD i 0).getLsbD j = bitAt bytes (8 * i + j) := by
  unfold bitAt
  have hdiv : (8 * i + j) / 8 = i := by
    omega
  have hmod : (8 * i + j) % 8 = j := by
    omega
  rw [hdiv, hmod]

/-
A byte of the string, shifted to where a number that starts at its bit `r` has it.
-/
theorem getLsbD_byte_ushiftRight (bytes : List Byte) (i r k : Nat)
    : ((bytes.getD i 0).setWidth 32 >>> r).getLsbD k
        = (decide (r + k < 8) && bitAt bytes (8 * i + (r + k))) := by
  rw [BitVec.getLsbD_ushiftRight, BitVec.getLsbD_setWidth]
  by_cases hbyte : r + k < 8
  . have hword : r + k < 32 := by
      omega
    rw [bitAt_getD _ _ hbyte]
    simp [hbyte, hword]
  . rw [BitVec.getLsbD_of_ge _ _ (by omega)]
    simp [hbyte]

/-
A byte further on, `t` bytes from where the number starts.
-/
theorem getLsbD_byte_shiftLeft (bytes : List Byte) (i : Nat) {r k t : Nat} (hr : r ≤ 8 * t) (hk : k < 32)
    : ((bytes.getD (i + t) 0).setWidth 32 <<< (8 * t - r)).getLsbD k
        = (decide (8 * t ≤ r + k ∧ r + k < 8 * t + 8) && bitAt bytes (8 * i + (r + k))) := by
  rw [BitVec.getLsbD_shiftLeft, BitVec.getLsbD_setWidth]
  by_cases hlow : 8 * t ≤ r + k
  . have hshift : ¬k < 8 * t - r := by
      omega
    have hword : k - (8 * t - r) < 32 := by
      omega
    by_cases hbyte : r + k < 8 * t + 8
    . have hp : 8 * (i + t) + (k - (8 * t - r)) = 8 * i + (r + k) := by
        omega
      rw [bitAt_getD _ _ (by omega), hp]
      simp [hk, hlow, hshift, hword, hbyte]
    . rw [BitVec.getLsbD_of_ge _ _ (by omega)]
      simp [hbyte]
  . have hshift : k < 8 * t - r := by
      omega
    simp [hlow, hshift]

theorem bitAt_of_length_le {bytes : List Byte} {p : Nat} (h : 8 * bytes.length ≤ p)
    : bitAt bytes p = false := by
  unfold bitAt
  rw [List.getD_eq_default _ _ (by omega)]
  exact BitVec.getLsbD_zero

theorem eq_of_bitAt {a b : List Byte} (hlen : a.length = b.length)
    (h : ∀ p, p < 8 * a.length → bitAt a p = bitAt b p)
    : a = b := by
  apply List.ext_getElem hlen
  intro i hi hi'
  apply BitVec.eq_of_getLsbD_eq
  intro j hj
  have hbit := h (8 * i + j) (by omega)
  rw [← bitAt_getD _ _ hj, ← bitAt_getD _ _ hj] at hbit
  rw [List.getD_eq_getElem _ _ hi, List.getD_eq_getElem _ _ hi'] at hbit
  exact hbit

theorem bitAt_set_of_ne {bytes : List Byte} {i p : Nat} (h : p / 8 ≠ i) (b : Byte)
    : bitAt (bytes.set i b) p = bitAt bytes p := by
  unfold bitAt
  rw [List.getD_eq_getElem?_getD, List.getElem?_set_ne h.symm]
  rfl

def orByte (bytes : List Byte) (i : Nat) (b : Byte) : List Byte :=
  bytes.modify i (· ||| b)

@[simp]
theorem length_orByte (bytes : List Byte) (i : Nat) (b : Byte)
    : (orByte bytes i b).length = bytes.length := by
  simp [orByte]

theorem bitAt_orByte {bytes : List Byte} {i : Nat} (hi : i < bytes.length) (b : Byte) (p : Nat)
    : bitAt (orByte bytes i b) p
        = (bitAt bytes p || (decide (p / 8 = i) && b.getLsbD (p % 8))) := by
  unfold bitAt orByte
  rw [List.getD_eq_getElem?_getD, List.getD_eq_getElem?_getD, List.getElem?_modify]
  by_cases hp : p / 8 = i
  . rw [hp, List.getElem?_eq_getElem hi]
    simp
  . have hp' : ¬i = p / 8 := by
      omega
    simp [hp, hp']

def orBytes (bytes : List Byte) (i : Nat) (parts : List Byte) : List Byte :=
  match parts with
  | [] => bytes
  | b :: parts => orBytes (orByte bytes i b) (i + 1) parts

@[simp]
theorem length_orBytes (bytes : List Byte) (i : Nat) (parts : List Byte)
    : (orBytes bytes i parts).length = bytes.length := by
  induction parts generalizing bytes i with
  | nil => rfl
  | cons b parts ih =>
    unfold orBytes
    rw [ih, length_orByte]

theorem bitAt_cons (b : Byte) (bytes : List Byte) (p : Nat)
    : bitAt (b :: bytes) p = if p < 8 then b.getLsbD p else bitAt bytes (p - 8) := by
  unfold bitAt
  split
  next hp =>
    rw [Nat.div_eq_of_lt hp, Nat.mod_eq_of_lt hp]
    rfl
  next hp =>
    have hdiv : p / 8 = (p - 8) / 8 + 1 := by
      omega
    have hmod : p % 8 = (p - 8) % 8 := by
      omega
    rw [hdiv, hmod]
    rfl

theorem bitAt_orBytes {bytes : List Byte} {i : Nat} {parts : List Byte}
    (h : i + parts.length ≤ bytes.length) (p : Nat)
    : bitAt (orBytes bytes i parts) p
        = (bitAt bytes p || (decide (8 * i ≤ p) && bitAt parts (p - 8 * i))) := by
  induction parts generalizing bytes i with
  | nil =>
    unfold orBytes
    have hnone : bitAt [] (p - 8 * i) = false := bitAt_of_length_le (by simp)
    rw [hnone]
    simp
  | cons b parts ih =>
    unfold orBytes
    rw [List.length_cons] at h
    rw [ih (by rw [length_orByte]; omega)]
    rw [bitAt_orByte (by omega), bitAt_cons]
    by_cases hlow : 8 * i ≤ p
    . by_cases hbyte : p / 8 = i
      . have hnext : ¬8 * (i + 1) ≤ p := by
          omega
        have hmod : p % 8 = p - 8 * i := by
          omega
        rw [if_pos (by omega), hmod]
        simp [hlow, hbyte, hnext]
      . have hnext : 8 * (i + 1) ≤ p := by
          omega
        have hsub : p - 8 * i - 8 = p - 8 * (i + 1) := by
          omega
        rw [if_neg (by omega), hsub]
        simp [hlow, hbyte, hnext]
    . have hbyte : ¬p / 8 = i := by
        omega
      have hnext : ¬8 * (i + 1) ≤ p := by
        omega
      simp [hlow, hbyte, hnext]

/-
The lowest `n` bytes of a number.
-/
def bytesLE (n v : Nat) : List Byte :=
  (List.range n).map (fun t => BitVec.ofNat 8 (v >>> (8 * t)))

@[simp]
theorem length_bytesLE (n v : Nat) : (bytesLE n v).length = n := by
  simp [bytesLE]

theorem bitAt_bytesLE (n v p : Nat)
    : bitAt (bytesLE n v) p = (decide (p < 8 * n) && v.testBit p) := by
  by_cases hp : p < 8 * n
  . unfold bitAt
    rw [List.getD_eq_getElem _ _ (by rw [length_bytesLE]; omega)]
    have hmod : p % 8 < 8 := Nat.mod_lt p (by omega)
    have hsum : 8 * (p / 8) + p % 8 = p := Nat.div_add_mod p 8
    simp only [bytesLE, List.getElem_map, List.getElem_range, BitVec.getLsbD_ofNat,
      Nat.testBit_shiftRight, hsum, hmod, hp, decide_true, Bool.true_and]
  . rw [bitAt_of_length_le (by rw [length_bytesLE]; omega)]
    simp [hp]

end Lib

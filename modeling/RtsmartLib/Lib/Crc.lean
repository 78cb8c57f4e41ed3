import RtsmartLib.Lib.Memory
import Mathlib.Logic.Function.Iterate

/-!
This module contains cyclic redundancy checks in their reflected form: one bit of the message at a time, a byte
at a time, and what a check tells two messages apart by.
-/

namespace Lib

variable {n : Nat}

/-
One step of the register, with `poly` fed back when a bit falls out.
-/
def crcShift (poly c : BitVec n) : BitVec n :=
  if c.getLsbD 0 then (c >>> 1) ^^^ poly else c >>> 1

def crcFeed (poly c : BitVec n) (bit : Bool) : BitVec n :=
  crcShift poly (c ^^^ (BitVec.ofBool bit).setWidth n)

def crcOf (poly c : BitVec n) (bits : List Bool) : BitVec n :=
  bits.foldl (crcFeed poly) c

/-
A byte is fed from its least significant bit on.
-/
def bitsOfByte (b : Byte) : List Bool :=
  List.ofFn fun i : Fin 8 => b.getLsbD i

def bitsOfBytes (bytes : List Byte) : List Bool :=
  bytes.flatMap bitsOfByte

/-
The bits as a number, the first of them the least significant one.
-/
def wordOfBits (n : Nat) (bits : List Bool) : BitVec n :=
  match bits with
  | [] => 0#n
  | bit :: bits => (BitVec.ofBool bit).setWidth n ^^^ (wordOfBits n bits <<< 1)

theorem getLsbD_wordOfBits (bits : List Bool) (i : Nat)
    : (wordOfBits n bits).getLsbD i = (decide (i < n) && bits.getD i false) := by
  induction bits generalizing i with
  | nil => simp [wordOfBits]
  | cons bit bits ih =>
    simp only [wordOfBits, BitVec.getLsbD_xor, BitVec.getLsbD_setWidth, BitVec.getLsbD_shiftLeft, ih]
    cases i with
    | zero => simp
    | succ i =>
      have hi : i + 1 < n → i < n := by omega
      by_cases h : i + 1 < n
      . simp [h, hi h]
      . simp [h]

/-
Bits that fit are not lost.
-/
theorem wordOfBits_inj {u v : List Bool} (h : u.length = v.length) (hfits : u.length ≤ n)
    (hword : wordOfBits n u = wordOfBits n v) : u = v := by
  apply List.ext_getElem h
  intro i hu hv
  have hbit := congrArg (BitVec.getLsbD · i) hword
  simp only [getLsbD_wordOfBits] at hbit
  rw [List.getD_eq_getElem _ _ hu, List.getD_eq_getElem _ _ hv] at hbit
  simpa [show i < n by omega] using hbit

variable (poly : BitVec n)

@[simp]
theorem crcShift_zero : crcShift poly 0#n = 0#n := by
  simp [crcShift]

theorem crcShift_xor (a b : BitVec n) : crcShift poly (a ^^^ b) = crcShift poly a ^^^ crcShift poly b := by
  unfold crcShift
  rw [BitVec.getLsbD_xor]
  rw [BitVec.ushiftRight_xor_distrib]
  cases a.getLsbD 0 with
  | false =>
    cases b.getLsbD 0 with
    | false => rfl
    | true => simp [BitVec.xor_assoc]
  | true =>
    cases b.getLsbD 0 with
    | false =>
      simp
      rw [BitVec.xor_assoc, BitVec.xor_comm _ poly, ← BitVec.xor_assoc]
    | true =>
      simp
      rw [BitVec.xor_comm (b >>> 1) poly]
      rw [BitVec.xor_assoc, ← BitVec.xor_assoc poly poly]
      simp

theorem iterate_crcShift_zero (k : Nat) : (crcShift poly)^[k] 0#n = 0#n := by
  apply Function.iterate_fixed
  apply crcShift_zero

theorem iterate_crcShift_xor (k : Nat) (a b : BitVec n)
    : (crcShift poly)^[k] (a ^^^ b) = (crcShift poly)^[k] a ^^^ (crcShift poly)^[k] b := by
  induction k with
  | zero => rfl
  | succ k ih =>
    simp only [Function.iterate_succ_apply']
    rw [ih]
    rw [crcShift_xor]

/-
Bits above the ones that fall out only move down.
-/
theorem iterate_crcShift_high {k : Nat} {c : BitVec n} (h : ∀ i < k, c.getLsbD i = false)
    : (crcShift poly)^[k] c = c >>> k := by
  induction k with
  | zero => simp
  | succ k ih =>
    rw [Function.iterate_succ_apply']
    rw [ih (fun i hi => h i (by omega))]
    unfold crcShift
    rw [if_neg]
    . rw [BitVec.shiftRight_add]
    . simp [h k (by omega)]

/-
No two states of the register have one successor, because the feedback shows in the most significant bit.
-/
theorem crcShift_injective (hpoly : poly.msb = true) : Function.Injective (crcShift poly) := by
  intro a b h
  have hzero : crcShift poly (a ^^^ b) = 0#n := by
    rw [crcShift_xor]
    rw [h]
    simp
  apply BitVec.xor_eq_zero_iff.mp
  have hbit : (a ^^^ b).getLsbD 0 = false := by
    cases hc : (a ^^^ b).getLsbD 0 with
    | false => rfl
    | true =>
      have hmsb := congrArg BitVec.msb hzero
      simp only [crcShift, hc, if_true, BitVec.msb_xor, hpoly, BitVec.msb_zero] at hmsb
      rw [BitVec.msb_ushiftRight] at hmsb
      simp at hmsb
  rw [crcShift, if_neg (by simp [hbit])] at hzero
  apply BitVec.eq_of_getLsbD_eq
  intro i hi
  rw [BitVec.getLsbD_zero]
  cases i with
  | zero => exact hbit
  | succ i =>
    have hi' := congrArg (BitVec.getLsbD · i) hzero
    simp only [BitVec.getLsbD_ushiftRight, BitVec.getLsbD_zero] at hi'
    rw [Nat.add_comm] at hi'
    exact hi'

/-
The registers of two messages differ by the register of their difference.
-/
theorem crcOf_xor (a b : BitVec n) {u v : List Bool} (h : u.length = v.length)
    : crcOf poly (a ^^^ b) (List.zipWith xor u v) = crcOf poly a u ^^^ crcOf poly b v := by
  unfold crcOf
  induction u generalizing a b v with
  | nil =>
    cases v with
    | nil => rfl
    | cons bit v => contradiction
  | cons bit u ih =>
    cases v with
    | nil => contradiction
    | cons bit' v =>
      simp only [List.zipWith_cons_cons, List.foldl_cons]
      rw [← ih _ _ (by simpa using h)]
      congr 1
      unfold crcFeed
      rw [← crcShift_xor]
      congr 1
      have hbits : (BitVec.ofBool (bit ^^ bit')).setWidth n
          = (BitVec.ofBool bit).setWidth n ^^^ (BitVec.ofBool bit').setWidth n := by
        rw [← BitVec.setWidth_xor]
        cases bit <;> cases bit' <;> rfl
      rw [hbits]
      ac_rfl

theorem crcOf_append (c : BitVec n) (u v : List Bool)
    : crcOf poly c (u ++ v) = crcOf poly (crcOf poly c u) v := by
  apply List.foldl_append

theorem crcOf_zeros (c : BitVec n) {w : List Bool} (h : ∀ bit ∈ w, bit = false)
    : crcOf poly c w = (crcShift poly)^[w.length] c := by
  induction w generalizing c with
  | nil => rfl
  | cons bit w ih =>
    have hbit := h bit (by simp)
    have hrest := ih (crcFeed poly c bit) (fun bit' hmem => h bit' (by simp [hmem]))
    simp only [crcOf, List.foldl_cons, List.length_cons, Function.iterate_succ_apply] at hrest ⊢
    rw [hrest]
    rw [hbit]
    simp [crcFeed]

/-
The register takes the bits one by one or all at once.
-/
theorem crcOf_eq_iterate (c : BitVec n) {w : List Bool} (h : w.length ≤ n)
    : crcOf poly c w = (crcShift poly)^[w.length] (c ^^^ wordOfBits n w) := by
  induction w generalizing c with
  | nil => simp [crcOf, wordOfBits]
  | cons bit w ih =>
    simp only [List.length_cons] at h
    have hrest := ih (crcFeed poly c bit) (by omega)
    simp only [crcOf, List.foldl_cons, List.length_cons, Function.iterate_succ_apply] at hrest ⊢
    rw [hrest]
    congr 1
    simp only [wordOfBits]
    rw [← BitVec.xor_assoc]
    rw [crcShift_xor]
    unfold crcFeed
    congr 1
    -- the rest stands one place higher, so nothing of it falls out
    have hlow : (wordOfBits n w <<< 1).getLsbD 0 = false := by
      simp [BitVec.getLsbD_shiftLeft]
    rw [crcShift, if_neg (by simp [hlow])]
    apply BitVec.eq_of_getLsbD_eq
    intro i hi
    rw [BitVec.getLsbD_ushiftRight]
    rw [BitVec.getLsbD_shiftLeft]
    rw [Nat.add_sub_cancel_left]
    rw [getLsbD_wordOfBits]
    cases hlast : decide (1 + i < n) with
    | true => simp
    | false =>
      have hlast := of_decide_eq_false hlast
      rw [List.getD_eq_default _ _ (by omega)]
      simp

/-
Messages that differ only inside a stretch no longer than the register have different checks, whatever stands
before and behind it.
-/
theorem crcOf_burst (hpoly : poly.msb = true) (c : BitVec n) (front : List Bool) {u v : List Bool}
    (rest : List Bool) (hlength : u.length = v.length) (hfits : u.length ≤ n) (hne : u ≠ v)
    : crcOf poly c (front ++ u ++ rest) ≠ crcOf poly c (front ++ v ++ rest) := by
  intro heq
  simp only [crcOf_append] at heq
  generalize crcOf poly c front = c at heq
  have hinjective : ∀ k, Function.Injective (crcShift poly)^[k] :=
    fun k => (crcShift_injective poly hpoly).iterate k
  have hmiddle : crcOf poly c u = crcOf poly c v := by
    have hdiff := crcOf_xor poly (crcOf poly c u) (crcOf poly c v) (u := rest) (v := rest) rfl
    rw [heq, BitVec.xor_self] at hdiff
    rw [crcOf_zeros] at hdiff
    . rw [← iterate_crcShift_zero poly (List.zipWith xor rest rest).length] at hdiff
      apply BitVec.xor_eq_zero_iff.mp
      apply hinjective _ hdiff
    . intro bit hmem
      rw [List.zipWith_self] at hmem
      simp at hmem
      apply hmem.2
  rw [crcOf_eq_iterate poly _ hfits] at hmiddle
  rw [crcOf_eq_iterate poly _ (by omega)] at hmiddle
  rw [← hlength] at hmiddle
  have hwords := congrArg (c ^^^ ·) (hinjective _ hmiddle)
  simp only [← BitVec.xor_assoc, BitVec.xor_self, BitVec.zero_xor] at hwords
  apply hne
  apply wordOfBits_inj hlength hfits hwords

theorem wordOfBits_bitsOfByte (b : Byte) : wordOfBits n (bitsOfByte b) = b.setWidth n := by
  apply BitVec.eq_of_getLsbD_eq
  intro i hi
  rw [getLsbD_wordOfBits]
  rw [BitVec.getLsbD_setWidth]
  congr 1
  cases Nat.lt_or_ge i 8 with
  | inl hlt =>
    rw [List.getD_eq_getElem _ _ (by simp [bitsOfByte, hlt])]
    apply List.getElem_ofFn
  | inr hge =>
    rw [List.getD_eq_default _ _ (by simp [bitsOfByte, hge])]
    rw [BitVec.getLsbD_of_ge _ _ hge]

/-
A byte at a time: what the eight bits that fall out feed back depends on nothing else, and can be read off a
table.
-/
theorem crcOf_bitsOfByte (hn : 8 ≤ n) (c : BitVec n) (b : Byte)
    : crcOf poly c (bitsOfByte b)
        = (crcShift poly)^[8] ((c.setWidth 8 ^^^ b).setWidth n) ^^^ (c >>> 8) := by
  have hsplit : c ^^^ b.setWidth n = (c.setWidth 8 ^^^ b).setWidth n ^^^ (c >>> 8) <<< 8 := by
    apply BitVec.eq_of_getLsbD_eq
    intro i hi
    simp only [BitVec.getLsbD_xor, BitVec.getLsbD_setWidth, BitVec.getLsbD_shiftLeft,
      BitVec.getLsbD_ushiftRight]
    cases Nat.lt_or_ge i 8 with
    | inl hlt => simp [hlt, hi]
    | inr hge =>
      rw [Nat.add_sub_cancel' hge]
      simp [hi, Nat.not_lt.mpr hge, BitVec.getLsbD_of_ge b i hge]
  have hlength : (bitsOfByte b).length = 8 := by
    simp [bitsOfByte]
  rw [crcOf_eq_iterate poly c (by omega)]
  rw [wordOfBits_bitsOfByte]
  rw [hlength]
  rw [hsplit]
  rw [iterate_crcShift_xor]
  congr 1
  rw [iterate_crcShift_high]
  . apply BitVec.eq_of_getLsbD_eq
    intro i hi
    simp only [BitVec.getLsbD_shiftLeft, BitVec.getLsbD_ushiftRight]
    cases Nat.lt_or_ge (8 + i) n with
    | inl hlt => simp [hlt]
    | inr hge => simp [BitVec.getLsbD_of_ge c (8 + i) hge]
  . intro i hi
    simp [BitVec.getLsbD_shiftLeft, hi]

theorem crcOf_bytes_cons (c : BitVec n) (b : Byte) (bytes : List Byte)
    : crcOf poly c (bitsOfBytes (b :: bytes)) = crcOf poly (crcOf poly c (bitsOfByte b)) (bitsOfBytes bytes) := by
  apply crcOf_append

end Lib

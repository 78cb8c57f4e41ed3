import RtsmartLib.Lib.CmacMode
import RtsmartLib.Mbedtls.CmacSw

/-!
This module contains that the loop over the words of a block doubles it, and that the subkeys and the
padding of the software CMAC are those of the mode.
-/

namespace Mbedtls

open Lib Pufs

/-
Where nothing is shifted out, the two halves of a word do not meet.
-/
theorem toNat_shiftLeft_or {x y : BitVec 32} (k : Nat) (hx : x.toNat * 2 ^ k < 2 ^ 32) (hy : y.toNat < 2 ^ k)
    : (x <<< k ||| y).toNat = x.toNat * 2 ^ k + y.toNat := by
  rw [BitVec.toNat_or, BitVec.toNat_shiftLeft, Nat.shiftLeft_eq, Nat.mod_eq_of_lt hx]
  rw [Nat.mul_comm, Nat.two_pow_add_eq_or_of_lt hy]

theorem toNat_shiftLeft_overflow {v overflow : BitVec 32} (h : overflow.toNat < 2)
    : (v >>> 31).toNat * 2 ^ 32 + (v <<< 1 ||| overflow).toNat = 2 * v.toNat + overflow.toNat := by
  have hv := v.isLt
  have hshift : (v <<< 1).toNat = 2 ^ 1 * (v.toNat % 2 ^ 31) := by
    rw [BitVec.toNat_shiftLeft, Nat.shiftLeft_eq, Nat.pow_one]
    omega
  have hor := Nat.two_pow_add_eq_or_of_lt (i := 1) h (v.toNat % 2 ^ 31)
  rw [BitVec.toNat_or, hshift, ← hor, Nat.pow_one]
  rw [BitVec.toNat_ushiftRight, Nat.shiftRight_eq_div_pow]
  omega

theorem toNat_byte (b : Byte) : (b.setWidth 32).toNat = b.toNat := by
  have hb := b.isLt
  rw [BitVec.toNat_setWidth]
  exact Nat.mod_eq_of_lt (by omega)

theorem toNat_cmacGetUint32Be (a b c d : Byte)
    : (cmacGetUint32Be [a, b, c, d]).toNat = valueBE [a, b, c, d] := by
  have ha := a.isLt
  have hb := b.isLt
  have hc := c.isLt
  have hd := d.isLt
  have hcd : (c.setWidth 32 <<< 8 ||| d.setWidth 32).toNat = c.toNat * 2 ^ 8 + d.toNat := by
    rw [toNat_shiftLeft_or, toNat_byte, toNat_byte]
    . rw [toNat_byte]
      omega
    . rw [toNat_byte]
      omega
  have hbcd : (b.setWidth 32 <<< 16 ||| (c.setWidth 32 <<< 8 ||| d.setWidth 32)).toNat
      = b.toNat * 2 ^ 16 + (c.toNat * 2 ^ 8 + d.toNat) := by
    rw [toNat_shiftLeft_or, toNat_byte, hcd]
    . rw [toNat_byte]
      omega
    . rw [hcd]
      omega
  unfold cmacGetUint32Be
  change (a.setWidth 32 <<< 24 ||| b.setWidth 32 <<< 16 ||| c.setWidth 32 <<< 8 ||| d.setWidth 32).toNat = _
  rw [BitVec.or_assoc, BitVec.or_assoc, toNat_shiftLeft_or, toNat_byte, hbcd]
  . simp only [valueBE_cons, valueBE_nil, List.length_cons, List.length_nil]
    omega
  . rw [toNat_byte]
    omega
  . rw [hbcd]
    omega

theorem valueBE_cmacPutUint32Be (v : BitVec 32) : valueBE (cmacPutUint32Be v) = v.toNat := by
  have hv := v.isLt
  unfold cmacPutUint32Be
  simp only [valueBE_cons, valueBE_nil, List.length_cons, List.length_nil, BitVec.toNat_setWidth,
    BitVec.toNat_ushiftRight, Nat.shiftRight_eq_div_pow]
  omega

/-
The words are shifted from the last one on, each with the bit that the one before has lost.
-/
theorem cmacSwShiftLoop_value {words : Nat} {input : List Byte} (hlen : input.length = 4 * words)
    : (cmacSwShiftLoop words input).2.length = 4 * words
        ∧ (cmacSwShiftLoop words input).1.toNat < 2
        ∧ (cmacSwShiftLoop words input).1.toNat * 256 ^ (4 * words)
              + valueBE (cmacSwShiftLoop words input).2
            = 2 * valueBE input := by
  induction words generalizing input with
  | zero =>
    have hnil : input = [] := List.eq_nil_of_length_eq_zero hlen
    rw [hnil]
    decide
  | succ words ih =>
    match input with
    | a :: b :: c :: d :: rest =>
      have hrest : rest.length = 4 * words := by
        simp only [List.length_cons] at hlen
        omega
      obtain ⟨hout, hoverflow, hvalue⟩ := ih hrest
      have hsplit : valueBE (a :: b :: c :: d :: rest)
          = valueBE [a, b, c, d] * 256 ^ (4 * words) + valueBE rest := by
        rw [← hrest]
        exact valueBE_append [a, b, c, d] rest
      have hstep : cmacSwShiftLoop (words + 1) (a :: b :: c :: d :: rest)
          = (cmacGetUint32Be [a, b, c, d] >>> 31,
              cmacPutUint32Be (cmacGetUint32Be [a, b, c, d] <<< 1 ||| (cmacSwShiftLoop words rest).1)
                ++ (cmacSwShiftLoop words rest).2) := rfl
      rw [hstep, hsplit, ← toNat_cmacGetUint32Be]
      generalize cmacSwShiftLoop words rest = res at hout hoverflow hvalue ⊢
      generalize cmacGetUint32Be [a, b, c, d] = word
      have hword := congrArg (· * 256 ^ (4 * words)) (toNat_shiftLeft_overflow (v := word) hoverflow)
      dsimp only at hword ⊢
      refine ⟨?_, ?_, ?_⟩
      . rw [List.length_append, hout]
        change 4 + 4 * words = _
        omega
      . have hlt := word.isLt
        rw [BitVec.toNat_ushiftRight, Nat.shiftRight_eq_div_pow]
        omega
      . have hpow : 256 ^ (4 * (words + 1)) = 2 ^ 32 * 256 ^ (4 * words) := by
          have hfour : (256 : Nat) ^ 4 = 2 ^ 32 := by
            decide
          rw [Nat.mul_succ, Nat.pow_add, Nat.mul_comm, hfour]
        rw [valueBE_append, valueBE_cmacPutUint32Be, hout, hpow, ← Nat.mul_assoc, ← Nat.add_assoc,
          ← Nat.add_mul, hword, Nat.add_mul, Nat.add_assoc, hvalue, Nat.mul_add, Nat.mul_assoc]
    | [] => simp at hlen
    | [_] => simp at hlen; omega
    | [_, _] => simp at hlen; omega
    | [_, _, _] => simp at hlen; omega

theorem valueBE_xorLast {output : List Byte} {n : Nat} (hlen : output.length = n + 1) (r : Byte)
    : valueBE (output.set n (output.getD n 0 ^^^ r)) = valueBE output ^^^ r.toNat := by
  obtain ⟨init, last, rfl⟩ : ∃ init last, output = init ++ [last] := by
    have hne : output ≠ [] := by
      intro hnil
      rw [hnil] at hlen
      cases hlen
    exact ⟨output.dropLast, output.getLast hne, (List.dropLast_append_getLast hne).symm⟩
  have hinit : init.length = n := by
    rw [List.length_append, List.length_singleton] at hlen
    omega
  have hset : (init ++ [last]).set n ((init ++ [last]).getD n 0 ^^^ r) = init ++ [last ^^^ r] := by
    rw [List.getD_append_right _ _ _ _ (by omega), List.set_append_right _ _ (by omega), hinit, Nat.sub_self]
    rfl
  have hvalue : ∀ b : Byte, valueBE (init ++ [b]) = 2 ^ 8 * valueBE init + b.toNat := by
    intro b
    rw [valueBE_append, Nat.mul_comm]
    simp [valueBE_cons]
  rw [hset, hvalue, hvalue, BitVec.toNat_xor]
  have hhigh : ∀ b : Byte, (2 ^ 8 * valueBE init + b.toNat) / 2 ^ 8 = valueBE init := by
    intro b
    have hb := b.isLt
    omega
  have hlow : ∀ b : Byte, (2 ^ 8 * valueBE init + b.toNat) % 2 ^ 8 = b.toNat := by
    intro b
    have hb := b.isLt
    omega
  have hxor := Nat.div_add_mod ((2 ^ 8 * valueBE init + last.toNat) ^^^ r.toNat) (2 ^ 8)
  rw [Nat.xor_div_two_pow, Nat.xor_mod_two_pow, hhigh, hlow] at hxor
  rw [Nat.div_eq_of_lt r.isLt, Nat.mod_eq_of_lt r.isLt, Nat.xor_zero] at hxor
  exact hxor

/-
The bit that the code looks at is the one that falls out at the top.
-/
theorem topBit_iff (b : Byte) (rest : List Byte)
    : b >>> 7 ≠ 0 ↔ 256 ^ (b :: rest).length ≤ 2 * valueBE (b :: rest) := by
  have hb := b.isLt
  have hrest := valueBE_lt rest
  have htop : b >>> 7 ≠ 0 ↔ 128 ≤ b.toNat := by
    have hshift : (b >>> 7).toNat = b.toNat / 128 := by
      rw [BitVec.toNat_ushiftRight, Nat.shiftRight_eq_div_pow]
    constructor
    . intro hne
      by_contra hlt
      apply hne
      apply BitVec.eq_of_toNat_eq
      rw [hshift]
      exact Nat.div_eq_of_lt (by omega)
    . intro hle hzero
      rw [hzero] at hshift
      change 0 = b.toNat / 128 at hshift
      omega
  rw [htop, valueBE_cons, List.length_cons, Nat.pow_succ]
  generalize 256 ^ rest.length = q at hrest
  constructor
  . intro hle
    have hmul := Nat.mul_le_mul_right q hle
    omega
  . intro hle
    by_contra hlt
    have hmul := Nat.mul_le_mul_right q (show b.toNat ≤ 127 by omega)
    omega

/-
A value whose carry is at most one is what is left of the whole in its bytes.
-/
theorem value_of_carry {carry v n q : Nat} (hcarry : carry < 2) (hv : v < q) (h : carry * q + v = n)
    : v = if n < q then n else n - q := by
  have hcases : carry = 0 ∨ carry = 1 := by
    omega
  cases hcases with
  | inl hzero =>
    rw [hzero, Nat.zero_mul, Nat.zero_add] at h
    rw [← h, if_pos hv]
  | inr hone =>
    rw [hone, Nat.one_mul] at h
    rw [if_neg (by omega)]
    omega

theorem cmacSwShiftLoop_doubles (words : Nat) {b : Byte} {rest : List Byte}
    (hlen : (b :: rest).length = 4 * words) (r : Byte)
    : (if b >>> 7 ≠ 0 then
        (cmacSwShiftLoop words (b :: rest)).2.set (4 * words - 1)
          ((cmacSwShiftLoop words (b :: rest)).2.getD (4 * words - 1) 0 ^^^ r)
      else
        (cmacSwShiftLoop words (b :: rest)).2)
        = doubleBlock r.toNat (b :: rest) := by
  obtain ⟨hout, hoverflow, hvalue⟩ := cmacSwShiftLoop_value hlen
  have htop := topBit_iff b rest
  have hltout := valueBE_lt (cmacSwShiftLoop words (b :: rest)).2
  unfold doubleBlock doubled
  rw [hout] at hltout
  rw [hlen] at htop ⊢
  generalize cmacSwShiftLoop words (b :: rest) = res at hout hoverflow hvalue hltout ⊢
  obtain ⟨overflow, output⟩ := res
  dsimp only at hout hoverflow hvalue hltout ⊢
  have hleft := value_of_carry hoverflow hltout hvalue
  by_cases hb : b >>> 7 ≠ 0
  . have hge := Nat.not_lt.mpr (htop.mp hb)
    rw [if_neg hge] at hleft
    rw [if_pos hb, if_neg hge]
    apply eq_of_valueBE
    . rw [List.length_set, length_bytesBE, hout]
    . have hxor := valueBE_xorLast (show output.length = 4 * words - 1 + 1 by
        rw [hout, ← hlen]
        rfl) r
      have hlt := valueBE_lt (output.set (4 * words - 1) (output.getD (4 * words - 1) 0 ^^^ r))
      rw [List.length_set, hout] at hlt
      rw [valueBE_bytesBE, ← hleft, ← hxor]
      exact (Nat.mod_eq_of_lt hlt).symm
  . have hlt := Nat.not_le.mp (mt htop.mpr hb)
    rw [if_pos hlt] at hleft
    rw [if_neg hb, if_pos hlt]
    apply eq_of_valueBE
    . rw [length_bytesBE, hout]
    . rw [valueBE_bytesBE, Nat.mod_eq_of_lt hlt, hleft]

theorem cmacSwMultiplyByU_eq {blockSize : Nat} (hsize : blockSize = 8 ∨ blockSize = 16) {input : List Byte}
    (hlen : input.length = blockSize)
    : cmacSwMultiplyByU input blockSize = .ok (doubleBlock (cmacPolynomial blockSize) input) := by
  cases input with
  | nil =>
    rw [List.length_nil] at hlen
    omega
  | cons b rest =>
    cases hsize with
    | inl h8 =>
      rw [h8] at hlen ⊢
      exact congrArg Except.ok (cmacSwShiftLoop_doubles 2 hlen 0x1b)
    | inr h16 =>
      rw [h16] at hlen ⊢
      exact congrArg Except.ok (cmacSwShiftLoop_doubles 4 hlen 0x87)

theorem cmacSwPad_eq {blockSize : Nat} {input : List Byte} (h : input.length < blockSize)
    : cmacSwPad blockSize input = padBlock blockSize input := by
  unfold cmacSwPad padBlock
  apply List.ext_getElem
  . simp only [List.length_map, List.length_range, List.length_append, List.length_cons, List.length_replicate]
    omega
  . intro i hi hi'
    rw [List.getElem_map, List.getElem_range]
    split
    . next hlt =>
      rw [List.getElem_append_left hlt]
      exact (List.getElem_eq_getD 0).symm
    . next hge =>
      rw [List.getElem_append_right (by omega)]
      split
      . next heq =>
        simp [heq]
      . next hne =>
        obtain ⟨k, hk⟩ : ∃ k, i - input.length = k + 1 := ⟨i - input.length - 1, by omega⟩
        simp [hk]

end Mbedtls

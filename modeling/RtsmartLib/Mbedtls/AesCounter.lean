import RtsmartLib.Mbedtls.AesAlt
import Mathlib.Data.List.Induction
import Mathlib.Tactic.Ring

/-!
This module contains the correctness of the two counter increments of the AES port: the bytewise one
of the software loop and the one by whole calls of the hardware path add to the same 128 bit number.
-/

namespace Mbedtls

open Lib

theorem incrementLoop_snoc (a : List Byte) (b : Byte) (rest : List Byte)
    : incrementLoop (a ++ b :: rest) (a.length + 1)
        = if b + 1 ≠ 0 then a ++ (b + 1) :: rest
          else incrementLoop (a ++ (b + 1) :: rest) a.length := by
  conv =>
    lhs
    unfold incrementLoop
  simp

theorem valueBE_snoc (a : List Byte) (b : Byte) : valueBE (a ++ [b]) = valueBE a * 256 + b.toNat := by
  rw [valueBE_append]
  simp [valueBE_cons]

theorem toNat_add_one_byte {b : Byte} (h : b + 1 ≠ 0) : (b + 1).toNat = b.toNat + 1 := by
  have hb : b.toNat ≠ 255 := by
    intro hb
    apply h
    apply BitVec.eq_of_toNat_eq
    rw [BitVec.toNat_add]
    rw [hb]
    rfl
  bv_omega

theorem incrementLoop_eq (a rest : List Byte)
    : ∃ a', a'.length = a.length
        ∧ valueBE a' = (valueBE a + 1) % 256 ^ a.length
        ∧ incrementLoop (a ++ rest) a.length = a' ++ rest := by
  induction a using List.reverseRecOn generalizing rest with
  | nil => exact ⟨[], rfl, rfl, rfl⟩
  | append_singleton a b ih =>
    rw [List.length_append, List.length_singleton]
    rw [List.append_assoc, List.singleton_append]
    rw [incrementLoop_snoc]
    rw [valueBE_snoc]
    by_cases hb : b + 1 = 0
    . -- The byte wraps, so that the carry goes on into the bytes before it.
      obtain ⟨a', hlen, hvalue, hloop⟩ := ih ((b + 1) :: rest)
      have hmax : b.toNat = 255 := by
        bv_omega
      refine ⟨a' ++ [b + 1], by simp [hlen], ?_, ?_⟩
      . rw [valueBE_snoc]
        rw [hvalue, hb, hmax]
        rw [Nat.pow_succ]
        rw [Nat.add_assoc]
        have hsum : valueBE a * 256 + (255 + 1) = (valueBE a + 1) * 256 := by
          omega
        rw [hsum]
        rw [Nat.mul_mod_mul_right]
        simp
      . rw [if_neg (by simpa using hb)]
        rw [hloop]
        simp
    . refine ⟨a ++ [b + 1], by simp, ?_, ?_⟩
      . have hlt := valueBE_lt (a ++ [b + 1])
        rw [valueBE_snoc] at hlt ⊢
        rw [List.length_append, List.length_singleton] at hlt
        rw [toNat_add_one_byte hb] at hlt ⊢
        rw [Nat.add_assoc]
        rw [Nat.mod_eq_of_lt hlt]
      . rw [if_pos hb]
        simp

theorem incrementCounter_eq (counter : Block) : incrementCounter counter = counter.add 1 := by
  apply Block.eq_add_of_valueBE
  obtain ⟨a', hlen, hvalue, hloop⟩ := incrementLoop_eq counter.1 []
  rw [List.append_nil, List.append_nil, counter.2] at hloop
  rw [counter.2] at hvalue
  unfold incrementCounter
  dsimp only
  rw [hloop]
  exact hvalue

theorem shiftLeft_or_byte (value : BitVec 64) (b : Byte)
    : (value <<< 8 ||| b.setWidth 64).toNat = (value.toNat * 256 + b.toNat) % 2 ^ 64 := by
  have hand : value <<< 8 &&& b.setWidth 64 = 0#64 := by
    ext i hi
    by_cases h8 : i < 8
    . simp [h8]
    . have hbit : b.getLsbD i = false := BitVec.getLsbD_of_ge b i (by omega)
      simp [hbit]
  rw [← BitVec.add_eq_or_of_and_eq_zero _ _ hand]
  rw [BitVec.toNat_add]
  rw [BitVec.toNat_shiftLeft]
  rw [Nat.shiftLeft_eq]
  rw [Nat.mod_add_mod]
  rw [BitVec.toNat_setWidth_of_le (by omega)]

theorem toNat_load64_foldl (bytes : List Byte) (value : BitVec 64)
    : (bytes.foldl (fun (value : BitVec 64) b => value <<< 8 ||| b.setWidth 64) value).toNat
        = (value.toNat * 256 ^ bytes.length + valueBE bytes) % 2 ^ 64 := by
  induction bytes generalizing value with
  | nil =>
    rw [List.foldl_nil]
    simp [Nat.mod_eq_of_lt value.isLt]
  | cons b bytes ih =>
    rw [List.foldl_cons]
    rw [ih]
    rw [shiftLeft_or_byte]
    rw [valueBE_cons]
    rw [List.length_cons]
    rw [Nat.pow_succ]
    rw [← Nat.mod_add_mod]
    rw [Nat.mod_mul_mod]
    rw [Nat.mod_add_mod]
    congr 1
    ring

theorem toNat_load64 {bytes : List Byte} (h : bytes.length = 8)
    : (load64 bytes).toNat = valueBE bytes := by
  unfold load64
  rw [toNat_load64_foldl]
  have hlt := valueBE_lt bytes
  rw [h] at hlt
  simp
  omega

theorem store64_eq (value : BitVec 64) : store64 value = bytesBE 8 value.toNat := by
  unfold store64
  simp only [bytesBE, List.cons.injEq, and_true]
  refine ⟨?_, ?_, ?_, ?_, ?_, ?_, ?_, ?_⟩ <;> apply BitVec.eq_of_toNat_eq <;>
    simp [Nat.shiftRight_eq_div_pow]

theorem valueBE_store64 (value : BitVec 64) : valueBE (store64 value) = value.toNat := by
  rw [store64_eq]
  rw [valueBE_bytesBE]
  exact Nat.mod_eq_of_lt value.isLt

theorem aesAddCounter_eq (counter : Block) {n : Nat} (h : n < 2 ^ 64)
    : aesAddCounter counter n = counter.add n := by
  apply Block.eq_add_of_valueBE
  have hhigh : (counter.1.take 8).length = 8 := by
    simp [counter.2]
  have hlow : (counter.1.drop 8).length = 8 := by
    simp [counter.2]
  have hvalue : valueBE counter.1
      = (load64 (counter.1.take 8)).toNat * 2 ^ 64 + (load64 (counter.1.drop 8)).toNat := by
    rw [toNat_load64 hhigh, toNat_load64 hlow]
    conv =>
      lhs
      rw [← List.take_append_drop 8 counter.1]
    rw [valueBE_append]
    rw [hlow]
    rfl
  have hhi := (load64 (counter.1.take 8)).isLt
  have hlo := (load64 (counter.1.drop 8)).isLt
  have hstore : ∀ v : BitVec 64, (store64 v).length = 8 := fun _ => rfl
  unfold aesAddCounter
  dsimp only
  rw [valueBE_append]
  rw [valueBE_store64, hstore]
  rw [hvalue]
  have hsum : (load64 (counter.1.drop 8) + BitVec.ofNat 64 n).toNat
      = ((load64 (counter.1.drop 8)).toNat + n) % 2 ^ 64 := by
    simp
  rw [hsum]
  split
  . next hcarry =>
    rw [BitVec.lt_def] at hcarry
    rw [hsum] at hcarry
    rw [valueBE_store64]
    rw [BitVec.toNat_add]
    have hone : (1 : BitVec 64).toNat = 1 := rfl
    rw [hone]
    omega
  . next hcarry =>
    rw [BitVec.lt_def] at hcarry
    rw [hsum] at hcarry
    rw [← toNat_load64 hhigh]
    omega

theorem iterate_incrementCounter (counter : Block) (n : Nat)
    : incrementCounter^[n] counter = counter.add n := by
  induction n with
  | zero =>
    symm
    apply Block.add_zero
  | succ n ih =>
    rw [Function.iterate_succ_apply', ih, incrementCounter_eq]
    apply Block.add_add

theorem valueBE_add (counter : Block) (n : Nat)
    : valueBE (counter.add n).1 = (valueBE counter.1 + n) % 2 ^ 128 := by
  unfold Block.add
  dsimp only
  rw [valueBE_bytesBE]
  rfl

/-
Adding at once is adding one as often, through all bytes of the counter.
-/
theorem aesAddCounter_iterate (counter : Block) {n : Nat} (h : n < 2 ^ 64)
    : aesAddCounter counter n = incrementCounter^[n] counter
        ∧ valueBE (aesAddCounter counter n).1 = (valueBE counter.1 + n) % 2 ^ 128 := by
  rw [iterate_incrementCounter, aesAddCounter_eq counter h]
  constructor
  . rfl
  . apply valueBE_add

/-
A counter of all ones starts again at zero.
-/
theorem aesAddCounter_iterate_wraps
    : let counter : Block := ⟨List.replicate 16 0xff, rfl⟩
      aesAddCounter counter 1 = incrementCounter^[1] counter
        ∧ valueBE (aesAddCounter counter 1).1 = (valueBE counter.1 + 1) % 2 ^ 128 :=
  aesAddCounter_iterate ⟨List.replicate 16 0xff, rfl⟩ (by decide)

end Mbedtls

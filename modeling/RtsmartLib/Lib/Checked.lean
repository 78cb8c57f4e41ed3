import Mathlib.Data.Nat.Basic
import Mathlib.Algebra.Order.Group.Nat

/-!
This module contains arithmetic that reports products which do not fit their type and divisions by
zero, and what is left of a number after it has been divided and multiplied again.
-/

namespace Lib

inductive ArithFault where
  | overflow
  | divByZero
  deriving DecidableEq, Repr

def checkedMul (w a b : Nat) : Except ArithFault Nat :=
  if a * b < 2 ^ w then .ok (a * b) else .error .overflow

def checkedDiv (a b : Nat) : Except ArithFault Nat :=
  if b = 0 then .error .divByZero else .ok (a / b)

theorem ok_bind {ε α β : Type} (a : α) (f : α → Except ε β) : (Except.ok a >>= f) = f a := rfl

theorem checkedMul_ok {w a b : Nat} (h : a * b < 2 ^ w) : checkedMul w a b = .ok (a * b) := by
  unfold checkedMul
  rw [if_pos h]

/-
Factors of half the width.
-/
theorem checkedMul_halves {w a b : Nat} (ha : a < 2 ^ w) (hb : b < 2 ^ w)
    : checkedMul (w + w) a b = .ok (a * b) := by
  apply checkedMul_ok
  rw [Nat.pow_add]
  exact Nat.mul_lt_mul'' ha hb

theorem checkedDiv_ok (a : Nat) {b : Nat} (hb : b ≠ 0) : checkedDiv a b = .ok (a / b) := by
  unfold checkedDiv
  rw [if_neg hb]

/-
Division of a number turns around, so that dividing by it three times is dividing by it once.
-/
theorem div_div_div_self {n a : Nat} (ha : 0 < a) (hle : a ≤ n) : n / (n / (n / a)) = n / a := by
  have hpos : 0 < n / a := Nat.div_pos hle ha
  have hback : a ≤ n / (n / a) := by
    rw [Nat.le_div_iff_mul_le hpos]
    exact Nat.mul_div_le n a
  apply Nat.le_antisymm
  . exact Nat.div_le_div_left hback ha
  . rw [Nat.le_div_iff_mul_le (by omega)]
    exact Nat.mul_div_le n (n / a)

/-
A part of `n`, in units of `1 / c`, taken and measured again.
-/
theorem mul_div_mul_div_eq_iff {n c d : Nat} (hn : 0 < n)
    : n * d / c * c / n = d ↔ c ∣ n * d := by
  constructor
  . intro h
    have hmul : n * d ≤ n * d / c * c := by
      have hdiv := Nat.div_mul_le_self (n * d / c * c) n
      rw [h, Nat.mul_comm] at hdiv
      exact hdiv
    have heq : n * d / c * c = n * d := Nat.le_antisymm (Nat.div_mul_le_self _ _) hmul
    exact ⟨n * d / c, heq.symm.trans (Nat.mul_comm _ _)⟩
  . intro h
    rw [Nat.div_mul_cancel h]
    exact Nat.mul_div_cancel_left d hn

/-
Measured in smaller units than it was taken in, a part comes out smaller.
-/
theorem mul_div_mul_div_lt {n c c' d : Nat} (hc : c' < c) (hn : 0 < n) (hd : 0 < d)
    : n * d / c * c' / n < d := by
  rw [Nat.div_lt_iff_lt_mul hn]
  rw [Nat.mul_comm d n]
  have hpos : 0 < n * d := Nat.mul_pos hn hd
  have hle : n * d / c * c ≤ n * d := Nat.div_mul_le_self _ _
  by_cases hzero : n * d / c = 0
  . rw [hzero, Nat.zero_mul]
    exact hpos
  . have hlt : n * d / c * c' < n * d / c * c :=
      Nat.mul_lt_mul_of_pos_left hc (Nat.pos_of_ne_zero hzero)
    exact Nat.lt_of_lt_of_le hlt hle

end Lib

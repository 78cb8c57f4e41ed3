import RtsmartLib.Lib.Memory

/-!
This module contains copying lines from one memory into another, where the lines of either stand a stride
apart.
-/

namespace Lib

def copyLines (n bytes srcStride destStride : Nat) (src : Memory) (srcLine destLine : Nat) (dest : Memory)
    : Memory :=
  match n with
  | 0 => dest
  | n + 1 =>
    copyLines n bytes srcStride destStride src (srcLine + srcStride) (destLine + destStride)
      (writeBytes destLine (readBytes src srcLine bytes) dest)

variable {n bytes srcStride destStride srcLine destLine : Nat} {src dest : Memory}

theorem copyLines_before {a : Nat} (h : a < destLine)
    : copyLines n bytes srcStride destStride src srcLine destLine dest a = dest a := by
  induction n generalizing srcLine destLine dest with
  | zero => rfl
  | succ n ih =>
    unfold copyLines
    rw [ih (by omega)]
    exact writeBytes_of_not_mem (by omega) dest

theorem copyLines_at {k j : Nat} (hstride : bytes ≤ destStride) (hk : k < n) (hj : j < bytes)
    : copyLines n bytes srcStride destStride src srcLine destLine dest (destLine + k * destStride + j)
        = src (srcLine + k * srcStride + j) := by
  induction n generalizing k srcLine destLine dest with
  | zero => omega
  | succ n ih =>
    unfold copyLines
    cases k with
    | zero =>
      rw [Nat.zero_mul, Nat.zero_mul, Nat.add_zero, Nat.add_zero]
      rw [copyLines_before (by omega)]
      rw [writeBytes_of_mem destLine (by rw [length_readBytes]; exact hj)]
      exact getD_readBytes src srcLine hj
    | succ k =>
      have hdest : destLine + (k + 1) * destStride + j = destLine + destStride + k * destStride + j := by
        rw [Nat.succ_mul]
        omega
      have hsrc : srcLine + (k + 1) * srcStride + j = srcLine + srcStride + k * srcStride + j := by
        rw [Nat.succ_mul]
        omega
      rw [hdest, hsrc]
      exact ih (by omega)

/-
What a line holds behind the copied bytes stays.
-/
theorem copyLines_beyond {j : Nat} (k : Nat) (hj : bytes ≤ j) (hstride : j < destStride)
    : copyLines n bytes srcStride destStride src srcLine destLine dest (destLine + k * destStride + j)
        = dest (destLine + k * destStride + j) := by
  induction n generalizing k srcLine destLine dest with
  | zero => rfl
  | succ n ih =>
    unfold copyLines
    have hwritten : writeBytes destLine (readBytes src srcLine bytes) dest (destLine + k * destStride + j)
        = dest (destLine + k * destStride + j) := by
      apply writeBytes_of_not_mem
      rw [length_readBytes]
      omega
    rw [← hwritten]
    cases k with
    | zero =>
      rw [Nat.zero_mul, Nat.add_zero]
      exact copyLines_before (by omega)
    | succ k =>
      have hdest : destLine + (k + 1) * destStride + j = destLine + destStride + k * destStride + j := by
        rw [Nat.succ_mul]
        omega
      rw [hdest]
      exact ih k

end Lib

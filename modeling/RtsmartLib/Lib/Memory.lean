import Mathlib.Data.Nat.Basic
import Mathlib.Data.List.Basic
import Mathlib.Data.List.GetD
import Mathlib.Algebra.Order.Group.Nat

/-!
This module contains byte memories, reading and writing runs of bytes, and how reads and writes of
runs compose.
-/

namespace Lib

abbrev Byte := BitVec 8

abbrev Memory := Nat → Byte

def uint32 (n : Nat) : Nat :=
  n % 2 ^ 32

def readBytes (mem : Memory) (base n : Nat) : List Byte :=
  (List.range n).map (fun i => mem (base + i))

def writeBytes (base : Nat) (bytes : List Byte) (mem : Memory) : Memory :=
  fun a => if base ≤ a ∧ a < base + bytes.length then bytes.getD (a - base) 0 else mem a

@[simp]
theorem length_readBytes (mem : Memory) (base n : Nat) : (readBytes mem base n).length = n := by
  simp [readBytes]

@[simp]
theorem readBytes_zero (mem : Memory) (base : Nat) : readBytes mem base 0 = [] := rfl

@[simp]
theorem writeBytes_nil (base : Nat) (mem : Memory) : writeBytes base [] mem = mem := by
  funext a
  unfold writeBytes
  rw [if_neg]
  simp

theorem writeBytes_of_not_mem {base a : Nat} {bytes : List Byte}
    (h : ¬(base ≤ a ∧ a < base + bytes.length)) (mem : Memory)
    : writeBytes base bytes mem a = mem a := by
  simp only [writeBytes, h, ↓reduceIte]

theorem writeBytes_of_mem (base : Nat) {i : Nat} {bytes : List Byte} (h : i < bytes.length) (mem : Memory)
    : writeBytes base bytes mem (base + i) = bytes.getD i 0 := by
  unfold writeBytes
  rw [if_pos (by omega)]
  rw [Nat.add_sub_cancel_left]

theorem readBytes_congr {mem mem' : Memory} {base n : Nat}
    (h : ∀ i, i < n → mem (base + i) = mem' (base + i))
    : readBytes mem base n = readBytes mem' base n := by
  unfold readBytes
  apply List.map_congr_left
  intro i hi
  exact h i (List.mem_range.mp hi)

theorem readBytes_add (mem : Memory) (base m n : Nat)
    : readBytes mem base (m + n) = readBytes mem base m ++ readBytes mem (base + m) n := by
  unfold readBytes
  rw [List.range_add]
  rw [List.map_append]
  rw [List.map_map]
  congr 1
  apply List.map_congr_left
  intro i _
  simp [Nat.add_assoc]

theorem readBytes_succ (mem : Memory) (base n : Nat)
    : readBytes mem base (n + 1) = mem base :: readBytes mem (base + 1) n := by
  rw [Nat.add_comm]
  rw [readBytes_add]
  rfl

theorem getD_readBytes (mem : Memory) (base : Nat) {n i : Nat} (h : i < n)
    : (readBytes mem base n).getD i 0 = mem (base + i) := by
  simp [readBytes, h]

theorem take_readBytes (mem : Memory) (base : Nat) {m n : Nat} (h : m ≤ n)
    : (readBytes mem base n).take m = readBytes mem base m := by
  have hsum : n = m + (n - m) := by
    omega
  rw [hsum]
  rw [readBytes_add]
  rw [List.take_left' (length_readBytes mem base m)]

theorem drop_readBytes (mem : Memory) (base m n : Nat)
    : (readBytes mem base n).drop m = readBytes mem (base + m) (n - m) := by
  by_cases h : m ≤ n
  . have hsum : n = m + (n - m) := by
      omega
    conv =>
      lhs
      rw [hsum]
    rw [readBytes_add]
    rw [List.drop_left' (length_readBytes mem base m)]
  . have hzero : n - m = 0 := by
      omega
    rw [hzero]
    rw [List.drop_eq_nil_of_le]
    . rfl
    . rw [length_readBytes]
      omega

theorem writeBytes_append (base : Nat) (bytes bytes' : List Byte) (mem : Memory)
    : writeBytes base (bytes ++ bytes') mem
        = writeBytes (base + bytes.length) bytes' (writeBytes base bytes mem) := by
  funext a
  unfold writeBytes
  rw [List.length_append]
  split
  . split
    . next h =>
      rw [List.getD_append_right _ _ _ _ (by omega)]
      rw [Nat.sub_add_eq]
    . next h =>
      rw [if_pos (by omega)]
      rw [List.getD_append _ _ _ _ (by omega)]
  . rw [if_neg (by omega)]
    rw [if_neg (by omega)]

theorem writeBytes_cons (base : Nat) (b : Byte) (bytes : List Byte) (mem : Memory)
    : writeBytes base (b :: bytes) mem = writeBytes (base + 1) bytes (writeBytes base [b] mem) :=
  writeBytes_append base [b] bytes mem

def Apart (a m b n : Nat) : Prop :=
  a + m ≤ b ∨ b + n ≤ a

/-
How the output of an operation may lie with respect to its input: over it from the same address on,
or nowhere near it.
-/
def Overlay (input output n : Nat) : Prop :=
  output = input ∨ Apart input n output n

theorem Overlay.advance {input output m n : Nat} (h : Overlay input output (m + n))
    : Overlay (input + m) (output + m) n := by
  unfold Overlay Apart at h ⊢
  omega

theorem Overlay.apart {input output m n : Nat} (h : Overlay input output (m + n))
    : Apart (input + m) n output m := by
  unfold Overlay Apart at h
  unfold Apart
  omega

theorem Overlay.of_le {input output m n : Nat} (h : Overlay input output n) (hle : m ≤ n)
    : Overlay input output m := by
  unfold Overlay Apart at h ⊢
  omega

theorem readBytes_writeBytes_apart {a m base : Nat} {bytes : List Byte}
    (h : Apart a m base bytes.length) (mem : Memory)
    : readBytes (writeBytes base bytes mem) a m = readBytes mem a m := by
  apply readBytes_congr
  intro i hi
  apply writeBytes_of_not_mem
  unfold Apart at h
  omega

theorem readBytes_writeBytes_self (base : Nat) (bytes : List Byte) (mem : Memory)
    : readBytes (writeBytes base bytes mem) base bytes.length = bytes := by
  apply List.ext_getElem
  . rw [length_readBytes]
  . intro i h h'
    have hi := writeBytes_of_mem base h' mem
    simp [readBytes, hi, h']

theorem writeBytes_readBytes (base n : Nat) (mem : Memory)
    : writeBytes base (readBytes mem base n) mem = mem := by
  funext a
  unfold writeBytes
  rw [length_readBytes]
  split
  . next h =>
    rw [getD_readBytes mem base (show a - base < n by omega)]
    rw [Nat.add_sub_cancel' h.1]
  . rfl

/-
Bytes behind the written ones that are written back as they are.
-/
theorem writeBytes_append_readBytes {base a : Nat} {bytes : List Byte} (ha : a = base + bytes.length)
    (n : Nat) (mem : Memory)
    : writeBytes base (bytes ++ readBytes mem a n) mem = writeBytes base bytes mem := by
  rw [writeBytes_append, ← ha]
  have hread : readBytes (writeBytes base bytes mem) a n = readBytes mem a n := by
    apply readBytes_writeBytes_apart
    exact .inr (Nat.le_of_eq ha.symm)
  rw [← hread]
  exact writeBytes_readBytes _ n _

theorem writeBytes_writeBytes_of_le (base : Nat) {bytes bytes' : List Byte}
    (h : bytes.length ≤ bytes'.length) (mem : Memory)
    : writeBytes base bytes' (writeBytes base bytes mem) = writeBytes base bytes' mem := by
  funext a
  unfold writeBytes
  split
  . rfl
  . rw [if_neg (by omega)]

/-
Bytes left over in an output buffer do no harm to an operation that overwrites all of it, unless the
buffer is the input as well.
-/
theorem readBytes_leftover {input output n : Nat} {bytes : List Byte}
    (h : Overlay input output n) (hlen : bytes.length ≤ n) (hsame : output = input → bytes = [])
    (mem : Memory)
    : readBytes (writeBytes output bytes mem) input n = readBytes mem input n := by
  obtain heq | hapart := h
  . rw [hsame heq]
    rw [writeBytes_nil]
  . apply readBytes_writeBytes_apart
    unfold Apart at hapart ⊢
    omega

end Lib

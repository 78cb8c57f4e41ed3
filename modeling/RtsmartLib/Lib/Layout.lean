import Mathlib.Data.List.Basic
import Mathlib.Logic.Equiv.Defs

/-!
This module contains the layouts of structures in memory: how a value is written to bytes and read back
from them.
-/

namespace Lib

/--
A layout takes `size` bytes for every value, and a value reads back the same whatever stands behind it.
-/
structure Layout (α : Type) where
  size : Nat
  write : α → List (BitVec 8)
  read : List (BitVec 8) → α
  write_length : ∀ a, (write a).length = size
  read_write : ∀ a rest, read (write a ++ rest) = a

namespace Layout

variable {α β : Type}

theorem read_write_self (l : Layout α) (a : α) : l.read (l.write a) = a := by
  have h := l.read_write a []
  rw [List.append_nil] at h
  exact h

theorem drop_write (l : Layout α) (a : α) (rest : List (BitVec 8))
    : (l.write a ++ rest).drop l.size = rest := by
  rw [← l.write_length a]
  exact List.drop_left

/--
No byte of an exact layout is padding: every byte string of its size is that of a value.
-/
def Exact (l : Layout α) : Prop := ∀ bytes, bytes.length = l.size → l.write (l.read bytes) = bytes

def byte : Layout (BitVec 8) where
  size := 1
  write b := [b]
  read bytes := bytes.headD 0#8
  write_length _ := rfl
  read_write _ _ := rfl

theorem byte_exact : byte.Exact := by
  intro bytes h
  obtain ⟨b, rfl⟩ := List.length_eq_one_iff.mp h
  rfl

theorem extractLsb'_halves {w : Nat} (x : BitVec (w + w))
    : x.extractLsb' w w ++ x.extractLsb' 0 w = x := by
  apply BitVec.eq_of_getLsbD_eq
  intro i hi
  rw [BitVec.getLsbD_append]
  split
  next hlow => simp [hlow]
  next hhigh =>
    have hpart : i - w < w := by omega
    have hindex : w + (i - w) = i := by omega
    simp [hpart, hindex]

/-
Two words with the lower one first.
-/
def double {w : Nat} (l : Layout (BitVec w)) : Layout (BitVec (w + w)) where
  size := l.size + l.size
  write x := l.write (x.extractLsb' 0 w) ++ l.write (x.extractLsb' w w)
  read bytes := l.read (bytes.drop l.size) ++ l.read bytes
  write_length x := by rw [List.length_append, l.write_length, l.write_length]
  read_write x rest := by
    rw [List.append_assoc, drop_write, l.read_write, l.read_write]
    exact extractLsb'_halves x

theorem extractLsb'_low {w : Nat} (hi lo : BitVec w) : (hi ++ lo).extractLsb' 0 w = lo := by
  apply BitVec.eq_of_getLsbD_eq
  intro i hi
  simp [BitVec.getLsbD_append, hi]

theorem extractLsb'_high {w : Nat} (hi lo : BitVec w) : (hi ++ lo).extractLsb' w w = hi := by
  apply BitVec.eq_of_getLsbD_eq
  intro i hi
  rw [BitVec.getLsbD_extractLsb', BitVec.getLsbD_append, if_neg (by omega)]
  simp [hi]

/-
An exact layout does not look behind its own bytes.
-/
theorem Exact.read_append {l : Layout α} (h : l.Exact) {bytes : List (BitVec 8)}
    (hlength : bytes.length = l.size) (rest : List (BitVec 8))
    : l.read (bytes ++ rest) = l.read bytes := by
  rw [← h bytes hlength, l.read_write, l.read_write_self]

theorem Exact.read_take {l : Layout α} (h : l.Exact) {bytes : List (BitVec 8)}
    (hlength : l.size ≤ bytes.length)
    : l.read (bytes.take l.size) = l.read bytes := by
  have htake : (bytes.take l.size).length = l.size := List.length_take_of_le hlength
  rw [← h.read_append htake (bytes.drop l.size), List.take_append_drop]

theorem Exact.write_take {l : Layout α} (h : l.Exact) {bytes : List (BitVec 8)}
    (hlength : l.size ≤ bytes.length)
    : l.write (l.read bytes) = bytes.take l.size := by
  rw [← h.read_take hlength]
  apply h
  exact List.length_take_of_le hlength

theorem Exact.double {w : Nat} {l : Layout (BitVec w)} (h : l.Exact) : l.double.Exact := by
  intro bytes hlength
  have hlength : bytes.length = l.size + l.size := hlength
  have hdrop : (bytes.drop l.size).length = l.size := by
    rw [List.length_drop]
    omega
  unfold Layout.double
  dsimp only
  rw [extractLsb'_low, extractLsb'_high, h _ hdrop, h.write_take (by omega), List.take_append_drop]

/-
Little-endian words.
-/
def word16 : Layout (BitVec 16) := byte.double

def word32 : Layout (BitVec 32) := word16.double

def word64 : Layout (BitVec 64) := word32.double

theorem word16_exact : word16.Exact := byte_exact.double

/-
One member after the other.
-/
def seq (l : Layout α) (m : Layout β) : Layout (α × β) where
  size := l.size + m.size
  write p := l.write p.1 ++ m.write p.2
  read bytes := (l.read bytes, m.read (bytes.drop l.size))
  write_length p := by rw [List.length_append, l.write_length, m.write_length]
  read_write p rest := by
    rw [List.append_assoc, drop_write, l.read_write, m.read_write]

theorem Exact.seq {l : Layout α} {m : Layout β} (hl : l.Exact) (hm : m.Exact)
    : (l.seq m).Exact := by
  intro bytes hlength
  have hlength : bytes.length = l.size + m.size := hlength
  have hdrop : (bytes.drop l.size).length = m.size := by
    rw [List.length_drop]
    omega
  unfold Layout.seq
  dsimp only
  rw [hl.write_take (by omega), hm _ hdrop, List.take_append_drop]

/-
Bytes between the members, which are cleared.
-/
def pad (n : Nat) : Layout Unit where
  size := n
  write _ := List.replicate n 0#8
  read _ := ()
  write_length _ := List.length_replicate
  read_write _ _ := rfl

def map (l : Layout α) (e : β ≃ α) : Layout β where
  size := l.size
  write b := l.write (e b)
  read bytes := e.symm (l.read bytes)
  write_length b := l.write_length (e b)
  read_write b rest := by rw [l.read_write, Equiv.symm_apply_apply]

theorem Exact.map {l : Layout α} (h : l.Exact) (e : β ≃ α) : (l.map e).Exact := by
  intro bytes hlength
  unfold Layout.map
  dsimp only
  rw [Equiv.apply_symm_apply]
  exact h bytes hlength

/-
The elements of an array, one after the other.
-/
def writeAll (l : Layout α) (as : List α) : List (BitVec 8) := as.flatMap l.write

theorem writeAll_length (l : Layout α) (as : List α) : (l.writeAll as).length = as.length * l.size := by
  induction as with
  | nil => simp [writeAll]
  | cons a as ih =>
    unfold writeAll at ih ⊢
    rw [List.flatMap_cons, List.length_append, ih, l.write_length, List.length_cons, Nat.succ_mul,
      Nat.add_comm]

theorem read_writeAll (l : Layout α) (as : List α) (rest : List (BitVec 8)) {i : Nat}
    (hi : i < as.length)
    : l.read ((l.writeAll as ++ rest).drop (i * l.size)) = as[i] := by
  induction as generalizing i with
  | nil => simp at hi
  | cons a as ih =>
    have hcons : l.writeAll (a :: as) ++ rest = l.write a ++ (l.writeAll as ++ rest) := by
      simp [writeAll]
    rw [hcons]
    cases i with
    | zero =>
      rw [Nat.zero_mul, List.drop_zero, l.read_write]
      rfl
    | succ i =>
      rw [Nat.succ_mul, Nat.add_comm, ← List.drop_drop, drop_write, ih (Nat.lt_of_succ_lt_succ hi)]
      rfl

def array (l : Layout α) (n : Nat) : Layout (Vector α n) where
  size := n * l.size
  write as := l.writeAll as.toList
  read bytes := Vector.ofFn fun i => l.read (bytes.drop (i * l.size))
  write_length as := by rw [writeAll_length, Vector.length_toList]
  read_write as rest := by
    apply Vector.ext
    intro i hi
    rw [Vector.getElem_ofFn, read_writeAll l as.toList rest (by simpa using hi)]
    simp

theorem Exact.array {l : Layout α} (h : l.Exact) (n : Nat) : (l.array n).Exact := by
  intro bytes hlength
  have hlength : bytes.length = n * l.size := hlength
  unfold Layout.array
  dsimp only
  rw [Vector.toList_ofFn]
  induction n generalizing bytes with
  | zero =>
    rw [Nat.zero_mul, List.length_eq_zero_iff] at hlength
    rw [hlength]
    rfl
  | succ n ih =>
    rw [Nat.succ_mul] at hlength
    have hdrop : (bytes.drop l.size).length = n * l.size := by
      rw [List.length_drop]
      omega
    have htail := ih (bytes.drop l.size) hdrop hdrop
    have hreads : (fun i : Fin n => l.read (bytes.drop ((i.succ : Fin (n + 1)) * l.size)))
        = fun i : Fin n => l.read ((bytes.drop l.size).drop (i * l.size)) := by
      funext i
      rw [List.drop_drop, Fin.val_succ, Nat.succ_mul, Nat.add_comm]
    rw [List.ofFn_succ, hreads]
    unfold writeAll at htail ⊢
    rw [List.flatMap_cons, htail, Fin.val_zero, Nat.zero_mul, List.drop_zero, h.write_take (by omega),
      List.take_append_drop]

theorem writeAll_byte (bytes : List (BitVec 8)) : byte.writeAll bytes = bytes := by
  induction bytes with
  | nil => rfl
  | cons b bytes ih =>
    unfold writeAll at ih ⊢
    rw [List.flatMap_cons, ih]
    rfl

/-
An array of bytes is the bytes themselves.
-/
theorem array_byte_read {n : Nat} {bytes : List (BitVec 8)} (h : n ≤ bytes.length)
    : ((byte.array n).read bytes).toList = bytes.take n := by
  have hsize : (byte.array n).size = n := Nat.mul_one n
  have hwrite := (byte_exact.array n).write_take (hsize.symm ▸ h)
  rw [hsize] at hwrite
  rw [← hwrite]
  exact (writeAll_byte _).symm

end Layout

end Lib

import RtsmartLib.Lib.Memory
import RtsmartLib.Lib.Layout

/-!
This module contains elements of a layout in a memory: loading one, and an array of them that is stored
element by element or as a whole.
-/

namespace Lib
namespace Layout

variable {α : Type}

def load (l : Layout α) (mem : Memory) (base : Nat) : α :=
  l.read (readBytes mem base l.size)

theorem load_congr (l : Layout α) {mem mem' : Memory} {base : Nat}
    (h : ∀ i, i < l.size → mem (base + i) = mem' (base + i))
    : l.load mem base = l.load mem' base := by
  unfold load
  rw [readBytes_congr h]

theorem writeAll_cons (l : Layout α) (a : α) (as : List α)
    : l.writeAll (a :: as) = l.write a ++ l.writeAll as := by
  unfold writeAll
  apply List.flatMap_cons

theorem writeAll_append (l : Layout α) (as as' : List α)
    : l.writeAll (as ++ as') = l.writeAll as ++ l.writeAll as' := by
  unfold writeAll
  apply List.flatMap_append

theorem load_write (l : Layout α) (a : α) (base : Nat) (mem : Memory)
    : l.load (writeBytes base (l.write a) mem) base = a := by
  unfold load
  rw [← l.write_length a, readBytes_writeBytes_self, l.read_write_self]

theorem load_writeBytes_apart (l : Layout α) {a base : Nat} {bytes : List Byte}
    (h : Apart a l.size base bytes.length) (mem : Memory)
    : l.load (writeBytes base bytes mem) a = l.load mem a := by
  unfold load
  rw [readBytes_writeBytes_apart h]

theorem load_writeAll (l : Layout α) (base : Nat) {as : List α} (mem : Memory) {i : Nat}
    (hi : i < as.length)
    : l.load (writeBytes base (l.writeAll as) mem) (base + i * l.size) = as[i] := by
  induction as generalizing base mem i with
  | nil => simp at hi
  | cons a as ih =>
    rw [writeAll_cons, writeBytes_append, l.write_length]
    cases i with
    | zero =>
      rw [Nat.zero_mul, Nat.add_zero, l.load_writeBytes_apart, load_write]
      . rfl
      . exact Or.inl (Nat.le_refl _)
    | succ i =>
      have hbase : base + (i + 1) * l.size = base + l.size + i * l.size := by
        rw [Nat.succ_mul]
        omega
      rw [hbase, ih _ _ (Nat.lt_of_succ_lt_succ hi)]
      rfl

/-
An element of a run of bytes that is copied to the same place in another memory.
-/
theorem load_writeBytes_readBytes (l : Layout α) {base a n : Nat} (hbase : base ≤ a)
    (hend : a + l.size ≤ base + n) (mem mem' : Memory)
    : l.load (writeBytes base (readBytes mem base n) mem') a = l.load mem a := by
  apply l.load_congr
  intro i hi
  have hindex : a + i = base + (a + i - base) := by omega
  have hlength : a + i - base < (readBytes mem base n).length := by
    rw [length_readBytes]
    omega
  rw [hindex, writeBytes_of_mem base hlength, getD_readBytes mem base (by omega)]

/-
One element after the other, from the first one on.
-/
theorem foldl_writeBytes (l : Layout α) (f : Nat → α) (base n : Nat) (mem : Memory)
    : (List.range n).foldl (fun mem i => writeBytes (base + i * l.size) (l.write (f i)) mem) mem =
        writeBytes base (l.writeAll ((List.range n).map f)) mem := by
  induction n with
  | zero => exact (writeBytes_nil base mem).symm
  | succ n ih =>
    have hlast : l.writeAll [f n] = l.write (f n) := by
      rw [writeAll_cons]
      exact List.append_nil _
    rw [List.range_succ, List.foldl_append, ih, List.map_append, writeAll_append, writeBytes_append,
      writeAll_length, List.length_map, List.length_range, List.map_singleton, hlast]
    rfl

end Layout
end Lib

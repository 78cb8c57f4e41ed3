import Mathlib.Data.List.Infix
import Mathlib.Algebra.Order.Group.Nat

/-!
This module contains the buffer that captures what a modem answers to a command. It holds the newest
bytes since the command was started.
-/

namespace Modem

abbrev Byte := BitVec 8

def atBufSize : Nat := 512

variable {α : Type}

def newest (n : Nat) (bytes : List α) : List α :=
  bytes.drop (bytes.length - n)

/-
`at_capture` while a command is in flight. The buffer is what stands below its final NUL.
-/
def atCapture (atBuf data : List α) : List α :=
  let data :=
    if data.length > atBufSize - 1 then data.drop (data.length - (atBufSize - 1)) else data
  let atBuf :=
    if atBuf.length + data.length > atBufSize - 1 then
      atBuf.drop (atBuf.length + data.length - (atBufSize - 1))
    else
      atBuf
  atBuf ++ data

theorem length_newest_le (n : Nat) (bytes : List α) : (newest n bytes).length ≤ n := by
  unfold newest
  rw [List.length_drop]
  omega

theorem newest_suffix (n : Nat) (bytes : List α) : newest n bytes <:+ bytes := by
  apply List.drop_suffix

theorem newest_of_le {n : Nat} {bytes : List α} (h : bytes.length ≤ n)
    : newest n bytes = bytes := by
  unfold newest
  rw [Nat.sub_eq_zero_of_le h]
  rfl

theorem newest_append (n : Nat) (bytes data : List α)
    : newest n (bytes ++ data)
        = newest (n - (newest n data).length) bytes ++ newest n data := by
  unfold newest
  rw [List.drop_append, List.length_append, List.length_drop]
  congr 1
  . by_cases hle : n ≤ data.length
    . rw [List.drop_of_length_le (by omega), List.drop_of_length_le (by omega)]
    . congr 1
      omega
  . congr 1
    omega

theorem newest_newest {m n : Nat} (h : m ≤ n) (bytes : List α)
    : newest m (newest n bytes) = newest m bytes := by
  unfold newest
  rw [List.drop_drop, List.length_drop]
  congr 1
  omega

/-
Both cuts of a capture keep the newest bytes: first those of the data, then of the buffer what is left
room for.
-/
theorem atCapture_eq (atBuf data : List α)
    : atCapture atBuf data
        = newest (atBufSize - 1 - (newest (atBufSize - 1) data).length) atBuf
            ++ newest (atBufSize - 1) data := by
  have hdata : (if data.length > atBufSize - 1 then data.drop (data.length - (atBufSize - 1))
      else data) = newest (atBufSize - 1) data := by
    split
    . rfl
    . rw [newest_of_le (by omega)]
  have hle := length_newest_le (atBufSize - 1) data
  unfold atCapture
  dsimp only
  rw [hdata]
  generalize newest (atBufSize - 1) data = data at hle ⊢
  generalize atBufSize - 1 = size at hle ⊢
  have hbuf : (if atBuf.length + data.length > size then
      atBuf.drop (atBuf.length + data.length - size) else atBuf)
        = newest (size - data.length) atBuf := by
    split
    . unfold newest
      congr 1
      omega
    . rw [newest_of_le (by omega)]
  rw [hbuf]

theorem atCapture_newest (received data : List α)
    : atCapture (newest (atBufSize - 1) received) data
        = newest (atBufSize - 1) (received ++ data) := by
  rw [atCapture_eq, newest_append, newest_newest (Nat.sub_le _ _)]

end Modem

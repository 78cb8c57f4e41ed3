import RtsmartLib.Lib.Memory

/-!
This module contains numbers in network byte order: the bytes that stand for them and what is read back.
-/

namespace Lib

def bigEndian16 (x : BitVec 16) : List Byte :=
  [x.extractLsb' 8 8, x.extractLsb' 0 8]

def bigEndian24 (x : BitVec 24) : List Byte :=
  [x.extractLsb' 16 8, x.extractLsb' 8 8, x.extractLsb' 0 8]

def bigEndian32 (x : BitVec 32) : List Byte :=
  [x.extractLsb' 24 8, x.extractLsb' 16 8, x.extractLsb' 8 8, x.extractLsb' 0 8]

def getBigEndian16 (bytes : List Byte) (offset : Nat) : BitVec 16 :=
  bytes.getD offset 0 ++ bytes.getD (offset + 1) 0

def getBigEndian24 (bytes : List Byte) (offset : Nat) : BitVec 24 :=
  bytes.getD offset 0 ++ bytes.getD (offset + 1) 0 ++ bytes.getD (offset + 2) 0

def getBigEndian32 (bytes : List Byte) (offset : Nat) : BitVec 32 :=
  bytes.getD offset 0 ++ bytes.getD (offset + 1) 0 ++ bytes.getD (offset + 2) 0 ++ bytes.getD (offset + 3) 0

@[simp]
theorem length_bigEndian16 (x : BitVec 16) : (bigEndian16 x).length = 2 := rfl

@[simp]
theorem length_bigEndian24 (x : BitVec 24) : (bigEndian24 x).length = 3 := rfl

@[simp]
theorem length_bigEndian32 (x : BitVec 32) : (bigEndian32 x).length = 4 := rfl

theorem append_bytes16 (x : BitVec 16) : x.extractLsb' 8 8 ++ x.extractLsb' 0 8 = x := by
  apply BitVec.extractLsb'_append_extractLsb'

theorem append_bytes24 (x : BitVec 24)
    : x.extractLsb' 16 8 ++ x.extractLsb' 8 8 ++ x.extractLsb' 0 8 = x := by
  rw [BitVec.extractLsb'_append_extractLsb'_eq_extractLsb' (by rfl)]
  rw [BitVec.extractLsb'_append_extractLsb'_eq_extractLsb' (by rfl)]
  apply BitVec.extractLsb'_eq_self

theorem append_bytes32 (x : BitVec 32)
    : x.extractLsb' 24 8 ++ x.extractLsb' 16 8 ++ x.extractLsb' 8 8 ++ x.extractLsb' 0 8 = x := by
  rw [BitVec.extractLsb'_append_extractLsb'_eq_extractLsb' (by rfl)]
  rw [BitVec.extractLsb'_append_extractLsb'_eq_extractLsb' (by rfl)]
  rw [BitVec.extractLsb'_append_extractLsb'_eq_extractLsb' (by rfl)]
  apply BitVec.extractLsb'_eq_self

theorem bigEndian32_inj {x y : BitVec 32} (h : bigEndian32 x = bigEndian32 y) : x = y := by
  simp only [bigEndian32, List.cons.injEq, and_true] at h
  rw [← append_bytes32 x, ← append_bytes32 y]
  rw [h.1, h.2.1, h.2.2.1, h.2.2.2]

variable {front : List Byte} {n : Nat}

theorem getD_append_offset (h : front.length = n) (bytes : List Byte) (i : Nat)
    : (front ++ bytes).getD (n + i) 0 = bytes.getD i 0 := by
  rw [List.getD_append_right _ _ _ _ (by omega)]
  congr 1
  omega

theorem getBigEndian16_append (h : front.length = n) (x : BitVec 16) (rest : List Byte)
    : getBigEndian16 (front ++ (bigEndian16 x ++ rest)) n = x := by
  unfold getBigEndian16
  have h0 := getD_append_offset h (bigEndian16 x ++ rest) 0
  rw [Nat.add_zero] at h0
  rw [h0]
  rw [getD_append_offset h]
  apply append_bytes16

theorem getBigEndian24_append (h : front.length = n) (x : BitVec 24) (rest : List Byte)
    : getBigEndian24 (front ++ (bigEndian24 x ++ rest)) n = x := by
  unfold getBigEndian24
  have h0 := getD_append_offset h (bigEndian24 x ++ rest) 0
  rw [Nat.add_zero] at h0
  rw [h0]
  rw [getD_append_offset h]
  rw [getD_append_offset h]
  apply append_bytes24

theorem getBigEndian32_append (h : front.length = n) (x : BitVec 32) (rest : List Byte)
    : getBigEndian32 (front ++ (bigEndian32 x ++ rest)) n = x := by
  unfold getBigEndian32
  have h0 := getD_append_offset h (bigEndian32 x ++ rest) 0
  rw [Nat.add_zero] at h0
  rw [h0]
  rw [getD_append_offset h]
  rw [getD_append_offset h]
  rw [getD_append_offset h]
  apply append_bytes32

/-
The bytes that have been read are those that stand for the number.
-/
theorem bigEndian16_getBigEndian16 {bytes : List Byte} {offset : Nat} (h : offset + 2 ≤ bytes.length)
    : bigEndian16 (getBigEndian16 bytes offset) = (bytes.drop offset).take 2 := by
  unfold bigEndian16 getBigEndian16
  rw [BitVec.extractLsb'_append_eq_left, BitVec.extractLsb'_append_eq_right]
  rw [List.drop_eq_getElem_cons (by omega), List.drop_eq_getElem_cons (by omega)]
  rw [List.getD_eq_getElem _ _ (by omega), List.getD_eq_getElem _ _ (by omega)]
  rfl

theorem bigEndian24_getBigEndian24 {bytes : List Byte} {offset : Nat} (h : offset + 3 ≤ bytes.length)
    : bigEndian24 (getBigEndian24 bytes offset) = (bytes.drop offset).take 3 := by
  unfold bigEndian24 getBigEndian24
  have hlast : ∀ a b c : Byte, (a ++ b ++ c).extractLsb' 0 8 = c := by
    intro a b c
    apply BitVec.extractLsb'_append_eq_right
  have hmiddle : ∀ a b c : Byte, (a ++ b ++ c).extractLsb' 8 8 = b := by
    intro a b c
    rw [BitVec.extractLsb'_append_eq_of_le (by decide)]
    apply BitVec.extractLsb'_append_eq_right
  have hfirst : ∀ a b c : Byte, (a ++ b ++ c).extractLsb' 16 8 = a := by
    intro a b c
    rw [BitVec.extractLsb'_append_eq_of_le (by decide)]
    apply BitVec.extractLsb'_append_eq_left
  rw [hfirst, hmiddle, hlast]
  rw [List.drop_eq_getElem_cons (by omega), List.drop_eq_getElem_cons (by omega),
    List.drop_eq_getElem_cons (by omega)]
  rw [List.getD_eq_getElem _ _ (by omega), List.getD_eq_getElem _ _ (by omega),
    List.getD_eq_getElem _ _ (by omega)]
  rfl

theorem bigEndian32_getBigEndian32 {bytes : List Byte} {offset : Nat} (h : offset + 4 ≤ bytes.length)
    : bigEndian32 (getBigEndian32 bytes offset) = (bytes.drop offset).take 4 := by
  have hlow : ∀ a b c d : Byte, (a ++ b ++ c ++ d).extractLsb' 0 8 = d := by
    intro a b c d
    apply BitVec.extractLsb'_append_eq_right
  have hhigh : ∀ (a b c d : Byte) (k : Nat), (a ++ b ++ c ++ d).extractLsb' (8 + k) 8
      = (a ++ b ++ c).extractLsb' k 8 := by
    intro a b c d k
    rw [BitVec.extractLsb'_append_eq_of_le (by omega)]
    rw [Nat.add_sub_cancel_left]
  have hthree : bigEndian24 (getBigEndian24 bytes offset) = (bytes.drop offset).take 3 :=
    bigEndian24_getBigEndian24 (by omega)
  have hbytes : bigEndian32 (getBigEndian32 bytes offset)
      = bigEndian24 (getBigEndian24 bytes offset) ++ [bytes.getD (offset + 3) 0] := by
    unfold bigEndian32 getBigEndian32 bigEndian24 getBigEndian24
    rw [hlow, hhigh _ _ _ _ 16, hhigh _ _ _ _ 8, hhigh _ _ _ _ 0]
    rfl
  rw [hbytes, hthree]
  rw [List.getD_eq_getElem _ _ (by omega)]
  have hlast : 3 < (bytes.drop offset).length := by
    rw [List.length_drop]
    omega
  have hfour := List.take_succ_eq_append_getElem hlast
  rw [List.getElem_drop] at hfour
  apply hfour.symm

end Lib

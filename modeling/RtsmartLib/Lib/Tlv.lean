import RtsmartLib.Lib.NetworkOrder

/-!
This module contains sequences of attributes that begin with a type and a length of 16 bit each and end on a
multiple of four bytes: their bytes, and what is read back from these.
-/

namespace Lib

def padTo4 (n : Nat) : Nat := (n + 3) / 4 * 4 - n

structure Tlv where
  type : BitVec 16
  value : List Byte
  padding : List Byte
  value_lt : value.length < 2 ^ 16
  padding_eq : padding.length = padTo4 value.length

namespace Tlv

def sizeofHeader : Nat := 4

def length (tlv : Tlv) : BitVec 16 := BitVec.ofNat 16 tlv.value.length

def header (tlv : Tlv) : List Byte := bigEndian16 tlv.type ++ bigEndian16 tlv.length

def bytes (tlv : Tlv) : List Byte := tlv.header ++ tlv.value ++ tlv.padding

@[simp]
theorem toNat_length (tlv : Tlv) : tlv.length.toNat = tlv.value.length := by
  simp only [length, BitVec.toNat_ofNat]
  apply Nat.mod_eq_of_lt tlv.value_lt

@[simp]
theorem length_header (tlv : Tlv) : tlv.header.length = sizeofHeader := by
  simp [header, sizeofHeader]

theorem length_bytes (tlv : Tlv) : tlv.bytes.length = sizeofHeader + tlv.value.length + padTo4 tlv.value.length := by
  simp [bytes, tlv.padding_eq, Nat.add_assoc]

theorem bytes_ne_nil (tlv : Tlv) : tlv.bytes ≠ [] := by
  simp [bytes, header, bigEndian16]

variable {front : List Byte} {n : Nat}

theorem getBigEndian16_type (h : front.length = n) (tlv : Tlv) (rest : List Byte)
    : getBigEndian16 (front ++ (tlv.bytes ++ rest)) n = tlv.type := by
  simp only [bytes, header, List.append_assoc]
  apply getBigEndian16_append h

theorem getBigEndian16_length (h : front.length = n) (tlv : Tlv) (rest : List Byte)
    : getBigEndian16 (front ++ (tlv.bytes ++ rest)) (n + 2) = tlv.length := by
  have hfront : (front ++ bigEndian16 tlv.type).length = n + 2 := by
    simp [h]
  simp only [bytes, header, List.append_assoc]
  rw [← List.append_assoc]
  apply getBigEndian16_append hfront

theorem value_eq (h : front.length = n) (tlv : Tlv) (rest : List Byte)
    : ((front ++ (tlv.bytes ++ rest)).drop (n + sizeofHeader)).take tlv.value.length = tlv.value := by
  have hfront : (front ++ tlv.header).length = n + sizeofHeader := by
    simp [h]
  simp only [bytes, List.append_assoc]
  rw [← List.append_assoc front]
  rw [List.drop_left' hfront]
  rw [List.take_left' rfl]

/-
The first attribute of some bytes, when they are long enough for one.
-/
theorem exists_of_length_le {bytes : List Byte} (hheader : sizeofHeader ≤ bytes.length)
    (hvalue : sizeofHeader + (getBigEndian16 bytes 2).toNat + padTo4 (getBigEndian16 bytes 2).toNat
      ≤ bytes.length)
    : ∃ (tlv : Tlv) (rest : List Byte), bytes = tlv.bytes ++ rest := by
  have hlength : ((bytes.drop 4).take (getBigEndian16 bytes 2).toNat).length
      = (getBigEndian16 bytes 2).toNat := by
    simp only [List.length_take, List.length_drop]
    unfold sizeofHeader at hvalue
    omega
  have hofNat : BitVec.ofNat 16 (getBigEndian16 bytes 2).toNat = getBigEndian16 bytes 2 := by
    simp
  have hpadding : ((bytes.drop (4 + (getBigEndian16 bytes 2).toNat)).take
      (padTo4 (getBigEndian16 bytes 2).toNat)).length = padTo4 (getBigEndian16 bytes 2).toNat := by
    simp only [List.length_take, List.length_drop]
    unfold sizeofHeader at hvalue
    omega
  refine ⟨⟨getBigEndian16 bytes 0, (bytes.drop 4).take (getBigEndian16 bytes 2).toNat,
    (bytes.drop (4 + (getBigEndian16 bytes 2).toNat)).take (padTo4 (getBigEndian16 bytes 2).toNat), ?_, ?_⟩,
    (bytes.drop (4 + (getBigEndian16 bytes 2).toNat)).drop (padTo4 (getBigEndian16 bytes 2).toNat), ?_⟩
  . rw [hlength]
    apply BitVec.isLt
  . rw [hlength]
    apply hpadding
  . unfold sizeofHeader at hheader
    simp only [Tlv.bytes, header, length, hlength, hofNat]
    rw [bigEndian16_getBigEndian16 (by omega), bigEndian16_getBigEndian16 (by omega)]
    rw [List.append_assoc _ _ (List.drop _ _), List.take_append_drop]
    rw [List.append_assoc, ← List.drop_drop, List.take_append_drop]
    rw [List.drop_zero]
    rw [List.append_assoc]
    have hfour : (bytes.drop 2).take 2 ++ bytes.drop 4 = bytes.drop 2 := by
      have := List.take_append_drop 2 (bytes.drop 2)
      rw [List.drop_drop] at this
      exact this
    rw [hfour]
    rw [List.take_append_drop]

end Tlv

def tlvBytes (tlvs : List Tlv) : List Byte :=
  tlvs.flatMap Tlv.bytes

@[simp]
theorem tlvBytes_nil : tlvBytes [] = [] := rfl

@[simp]
theorem tlvBytes_cons (tlv : Tlv) (tlvs : List Tlv) : tlvBytes (tlv :: tlvs) = tlv.bytes ++ tlvBytes tlvs := rfl

@[simp]
theorem tlvBytes_append (tlvs tlvs' : List Tlv)
    : tlvBytes (tlvs ++ tlvs') = tlvBytes tlvs ++ tlvBytes tlvs' := by
  simp [tlvBytes]

end Lib

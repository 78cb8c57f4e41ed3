import RtsmartLib.Peer.Stun

/-!
This module contains what the fingerprint of a STUN message is and which changes of a message it shows.
-/

namespace Peer

open Lib

/-
The polynomial of CRC-32 with its bits reflected.
-/
def crcPolynomial : BitVec 32 := 0xedb88320

def crc32 (bits : List Bool) : BitVec 32 :=
  crcOf crcPolynomial (BitVec.allOnes 32) bits ^^^ BitVec.allOnes 32

theorem crc32Table_getD : ∀ b : Byte,
    crc32Table.getD b.toNat 0 = (crcShift crcPolynomial)^[8] (b.setWidth 32) := by
  decide +kernel

theorem crc32Step_eq (c : BitVec 32) (b : Byte) : crc32Step c b = crcOf crcPolynomial c (bitsOfByte b) := by
  have hindex : ((c ^^^ b.setWidth 32) &&& 0xff).toNat = (c.setWidth 8 ^^^ b).toNat := by
    have hmask : ((c ^^^ b.setWidth 32) &&& 0xff) = (c.setWidth 8 ^^^ b).setWidth 32 := by
      have hlow : (0xff : BitVec 32) = BitVec.setWidth 32 (BitVec.allOnes 8) := by
        decide
      apply BitVec.eq_of_getLsbD_eq
      intro i hi
      rw [hlow]
      simp only [BitVec.getLsbD_and, BitVec.getLsbD_xor, BitVec.getLsbD_setWidth, BitVec.getLsbD_allOnes]
      cases Nat.lt_or_ge i 8 with
      | inl hlt => simp [hlt, hi]
      | inr hge => simp [Nat.not_lt.mpr hge, BitVec.getLsbD_of_ge b i hge]
    rw [hmask]
    apply BitVec.toNat_setWidth_of_le
    decide
  unfold crc32Step
  rw [hindex]
  rw [crc32Table_getD]
  rw [crcOf_bitsOfByte crcPolynomial (by decide)]

theorem foldl_crc32Step (c : BitVec 32) (bytes : List Byte)
    : bytes.foldl crc32Step c = crcOf crcPolynomial c (bitsOfBytes bytes) := by
  induction bytes generalizing c with
  | nil => rfl
  | cons b bytes ih =>
    rw [List.foldl_cons]
    rw [ih]
    rw [crc32Step_eq]
    rw [crcOf_bytes_cons]

theorem stunCalculateFingerprint_eq (buf : List Byte)
    : stunCalculateFingerprint buf = bigEndian32 (crc32 (bitsOfBytes buf) ^^^ stunFingerprintXor) := by
  unfold stunCalculateFingerprint
  rw [foldl_crc32Step]
  rfl

/-
No burst of errors of up to four bytes leaves the fingerprint as it was, wherever it begins.
-/
theorem stunCalculateFingerprint_burst {buf buf' : List Byte} {front u v rest : List Bool}
    (hbuf : bitsOfBytes buf = front ++ u ++ rest) (hbuf' : bitsOfBytes buf' = front ++ v ++ rest)
    (hlength : u.length = v.length) (hfits : u.length ≤ 32) (hne : u ≠ v)
    : stunCalculateFingerprint buf ≠ stunCalculateFingerprint buf' := by
  intro heq
  rw [stunCalculateFingerprint_eq, stunCalculateFingerprint_eq] at heq
  have hwords := bigEndian32_inj heq
  have hcrcs := (BitVec.xor_left_inj _).mp hwords
  have hregisters := (BitVec.xor_left_inj _).mp hcrcs
  rw [hbuf, hbuf'] at hregisters
  apply crcOf_burst crcPolynomial (by decide) _ front rest hlength hfits hne hregisters

/-
Two messages with one byte between them.
-/
theorem stunCalculateFingerprint_burst_byte
    : stunCalculateFingerprint [0x00, 0x01, 0x7f] ≠ stunCalculateFingerprint [0x00, 0x21, 0x7f] := by
  apply @stunCalculateFingerprint_burst _ _ (bitsOfByte 0x00) (bitsOfByte 0x01) (bitsOfByte 0x21) (bitsOfByte 0x7f)
  <;> decide

end Peer

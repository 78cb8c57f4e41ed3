import RtsmartLib.Peer.StunIntegrity

/-!
This module contains what the writer of STUN messages makes of a message, from the first attribute to the
signature, and that a receiver with the same password accepts it exactly when it could be signed.
-/

namespace Peer

open Lib
open StunMessage

/-
A call of `stun_msg_write_attr`.
-/
structure AttrWrite where
  type : StunAttrType
  length : BitVec 16
  value : Option (List Byte)
  readable : ∀ bytes, value = some bytes → length.toNat ≤ bytes.length

/-
The callers do not look at what the calls return.
-/
def stunMsgWriteAttrs (msg : StunMessage) (writes : List AttrWrite) : StunMessage :=
  writes.foldl (fun msg write => (stunMsgWriteAttr msg write.type write.length write.value).2) msg

structure Draft (type : BitVec 16) (txn : List Byte) (tlvs : List Tlv) (msg : StunMessage) : Prop where
  length_txn : txn.length = 12
  buf_eq : msg.buf = stunBytes type txn tlvs
  size_le : msg.buf.length ≤ stunAttrBufSize

section Draft

variable {type : BitVec 16} {txn : List Byte} {tlvs : List Tlv} {msg : StunMessage}

theorem Draft.length_buf (h : Draft type txn tlvs msg)
    : msg.buf.length = sizeofStunHeader + (tlvBytes tlvs).length := by
  rw [h.buf_eq]
  apply length_stunBytes h.length_txn

theorem stunMsgCreate_draft (msg : StunMessage) (type : BitVec 16) (txn : Vector Byte 12)
    : Draft type txn.toList [] (stunMsgCreate msg type (some txn)).2 := by
  have hlength : (stunHeader type 0 txn.toList).length = sizeofStunHeader := by
    apply length_stunHeader
    simp
  constructor
  . simp
  . simp [stunMsgCreate, stunBytes]
  . simp only [stunMsgCreate]
    rw [hlength]
    decide

theorem setHeaderLength_stunBytes (length : BitVec 16)
    : setHeaderLength (stunBytes type txn tlvs) length = stunHeader type length txn ++ tlvBytes tlvs := by
  apply setHeaderLength_stunHeader

theorem Draft.headerLength_buf (h : Draft type txn tlvs msg)
    : headerLength msg.buf = BitVec.ofNat 16 (tlvBytes tlvs).length := by
  rw [h.buf_eq]
  apply headerLength_stunHeader

theorem stunMsgWriteAttr_buf_of_failed {attr : StunAttrType} {length : BitVec 16} {value : Option (List Byte)}
    (h : (stunMsgWriteAttr msg attr length value).1 = false)
    : (stunMsgWriteAttr msg attr length value).2 = msg := by
  unfold stunMsgWriteAttr at h ⊢
  dsimp only at h ⊢
  split_ifs at h ⊢ with hguard
  . rfl
  . cases attr <;> contradiction

theorem stunMsgWriteAttr_buf {attr : StunAttrType} {length : BitVec 16} {value : Option (List Byte)}
    (h : (stunMsgWriteAttr msg attr length value).1 = true)
    : (stunMsgWriteAttr msg attr length value).2.buf
        = setHeaderLength msg.buf
            (headerLength msg.buf + BitVec.ofNat 16 (sizeofStunAttribute + (length.toNat + 3) / 4 * 4))
          ++ (bigEndian16 attr.val ++ bigEndian16 length ++ (value.getD []).take length.toNat
            ++ List.replicate ((length.toNat + 3) / 4 * 4 - length.toNat) 0x00)
      ∧ (value = none → length = 0)
      ∧ msg.buf.length + sizeofStunAttribute + (length.toNat + 3) / 4 * 4 ≤ stunAttrBufSize := by
  unfold stunMsgWriteAttr at h ⊢
  dsimp only at h ⊢
  split_ifs at h ⊢ with hguard
  simp only [not_or, not_and, Nat.not_lt, size] at hguard
  refine ⟨by cases attr <;> rfl, ?_, ?_⟩
  . intro hnone
    apply Classical.byContradiction
    intro hne
    exact hguard.2.1 hne hnone
  . unfold stunAttrBufSize sizeofStunAttribute at hguard ⊢
    omega

/-
The attribute that a write leaves behind the others.
-/
def writtenTlv (attr : StunAttrType) (bytes : List Byte) (h : bytes.length < 2 ^ 16) : Tlv where
  type := attr.val
  value := bytes
  padding := List.replicate (padTo4 bytes.length) 0x00
  value_lt := h
  padding_eq := by simp

theorem Draft.written (h : Draft type txn tlvs msg) {attr : StunAttrType} {length : BitVec 16}
    {value : Option (List Byte)} (hok : (stunMsgWriteAttr msg attr length value).1 = true) {bytes : List Byte}
    (hvalue : (value.getD []).take length.toNat = bytes) (hlength : bytes.length = length.toNat)
    : Draft type txn (tlvs ++ [writtenTlv attr bytes (by rw [hlength]; apply length.isLt)])
        (stunMsgWriteAttr msg attr length value).2 := by
  have hbuf := stunMsgWriteAttr_buf hok
  rw [hvalue] at hbuf
  generalize htlv : writtenTlv attr bytes _ = tlv
  have hbytes : tlv.bytes = bigEndian16 attr.val ++ bigEndian16 length ++ bytes
      ++ List.replicate ((length.toNat + 3) / 4 * 4 - length.toNat) 0x00 := by
    rw [← htlv]
    simp only [Tlv.bytes, Tlv.header, Tlv.length, writtenTlv, padTo4]
    rw [hlength]
    simp
  have hsize : tlv.bytes.length = sizeofStunAttribute + (length.toNat + 3) / 4 * 4 := by
    rw [hbytes]
    simp only [List.length_append, length_bigEndian16, hlength, List.length_replicate]
    unfold sizeofStunAttribute
    omega
  have hafter : (stunMsgWriteAttr msg attr length value).2.buf = stunBytes type txn (tlvs ++ [tlv]) := by
    rw [hbuf.1]
    rw [h.headerLength_buf]
    rw [h.buf_eq]
    rw [setHeaderLength_stunBytes]
    rw [← hbytes, ← hsize]
    unfold stunBytes
    rw [tlvBytes_append, tlvBytes_cons, tlvBytes_nil, List.append_nil]
    rw [List.length_append, BitVec.ofNat_add]
    rw [List.append_assoc]
  refine ⟨h.length_txn, hafter, ?_⟩
  rw [hafter]
  rw [length_stunBytes h.length_txn]
  rw [tlvBytes_append, tlvBytes_cons, tlvBytes_nil, List.append_nil]
  rw [List.length_append, hsize]
  have hbefore := h.length_buf
  omega

/-
A write adds one attribute or does nothing.
-/
theorem Draft.write (h : Draft type txn tlvs msg) (write : AttrWrite)
    : ∃ tlvs', Draft type txn (tlvs ++ tlvs') (stunMsgWriteAttr msg write.type write.length write.value).2
        ∧ ∀ tlv ∈ tlvs', tlv.type = write.type.val := by
  cases hok : (stunMsgWriteAttr msg write.type write.length write.value).1 with
  | false =>
    refine ⟨[], ?_, by simp⟩
    rw [stunMsgWriteAttr_buf_of_failed hok]
    rw [List.append_nil]
    exact h
  | true =>
    have hbuf := stunMsgWriteAttr_buf hok
    have hvalue : ((write.value.getD []).take write.length.toNat).length = write.length.toNat := by
      rw [List.length_take]
      apply Nat.min_eq_left
      cases hval : write.value with
      | none => simp [hbuf.2.1 hval]
      | some bytes => exact write.readable bytes hval
    exact ⟨_, h.written hok rfl hvalue, by simp [writtenTlv]⟩

theorem Draft.writes (h : Draft type txn tlvs msg) (writes : List AttrWrite)
    (hplain : ∀ write ∈ writes, write.type ≠ .messageIntegrity ∧ write.type ≠ .fingerprint)
    : ∃ tlvs', Draft type txn (tlvs ++ tlvs') (stunMsgWriteAttrs msg writes) ∧ ∀ tlv ∈ tlvs', Plain tlv := by
  unfold stunMsgWriteAttrs
  induction writes generalizing tlvs msg with
  | nil => exact ⟨[], by simpa using h, by simp⟩
  | cons write writes ih =>
    have hwrite := hplain write (by simp)
    obtain ⟨tlvs1, hdraft1, htypes⟩ := h.write write
    obtain ⟨tlvs2, hdraft2, hplain2⟩ := ih hdraft1 (fun write' hmem => hplain write' (by simp [hmem]))
    refine ⟨tlvs1 ++ tlvs2, by rw [← List.append_assoc]; exact hdraft2, ?_⟩
    intro tlv hmem
    cases List.mem_append.mp hmem with
    | inl hfirst =>
      rw [Plain, htypes tlv hfirst]
      exact ⟨fun heq => hwrite.1 (StunAttrType.val_inj heq), fun heq => hwrite.2 (StunAttrType.val_inj heq)⟩
    | inr hrest => exact hplain2 tlv hrest

end Draft

section Finish

variable {hmacSha1 : List Byte → List Byte → Option (Vector Byte 20)} {md5 : List Byte → Vector Byte 16}
variable {type : BitVec 16} {txn : List Byte} {tlvs : List Tlv} {msg : StunMessage}

theorem checkedBytes_eq (tlvs : List Tlv) (mac : Vector Byte 20)
    : checkedBytes type txn (tlvs ++ [integrityTlv mac])
        = stunHeader type (BitVec.ofNat 16 (tlvBytes tlvs).length + 24 + 8) txn
          ++ tlvBytes (tlvs ++ [integrityTlv mac]) := by
  unfold checkedBytes
  congr 2
  rw [tlvBytes_append, List.length_append, tlvBytes_cons, tlvBytes_nil, List.append_nil,
    length_bytes_integrityTlv]
  rw [BitVec.ofNat_add, BitVec.ofNat_add]
  rfl

variable (hmacSha1 md5) in
/-
A message that has been signed.
-/
theorem Draft.finish (h : Draft type txn tlvs msg) {password : List Byte} (hroom : msg.size ≤ stunAttrBufSize - 32)
    {mac : Vector Byte 20} (hmac : hmacSha1 (signedBytes type txn tlvs) password = some mac)
    : stunMsgFinish hmacSha1 md5 msg .shortTerm password
        = (true, { msg with buf := stunBytes type txn (withFingerprint type txn (tlvs ++ [integrityTlv mac])) }) := by
  have hsigned : setHeaderLength msg.buf (headerLength msg.buf + 24) = signedBytes type txn tlvs := by
    rw [h.headerLength_buf, h.buf_eq, setHeaderLength_stunBytes]
    unfold signedBytes
    rw [BitVec.ofNat_add]
    rfl
  have hintegrity : bigEndian16 StunAttrType.messageIntegrity.val ++ bigEndian16 20 ++ mac.toList
      = (integrityTlv mac).bytes := by
    simp [Tlv.bytes, Tlv.header, Tlv.length, integrityTlv]
  have hfingerprint : ∀ covered, bigEndian16 StunAttrType.fingerprint.val ++ bigEndian16 4
      ++ stunCalculateFingerprint covered = (fingerprintTlv covered).bytes := by
    intro covered
    simp [Tlv.bytes, Tlv.header, Tlv.length, fingerprintTlv]
  have hchecked : setHeaderLength (signedBytes type txn tlvs ++ (integrityTlv mac).bytes)
      (headerLength msg.buf + 24 + 8) = checkedBytes type txn (tlvs ++ [integrityTlv mac]) := by
    rw [checkedBytes_eq]
    rw [h.headerLength_buf]
    unfold signedBytes
    rw [List.append_assoc]
    rw [setHeaderLength_stunHeader]
    rw [tlvBytes_append, tlvBytes_cons, tlvBytes_nil, List.append_nil]
  unfold stunMsgFinish
  rw [if_neg (by omega)]
  simp only [hsigned, hmac, hintegrity, hchecked, hfingerprint]
  unfold withFingerprint stunBytes
  rw [tlvBytes_append, tlvBytes_cons, tlvBytes_nil, List.append_nil]
  rw [List.length_append, length_bytes_fingerprintTlv]
  rw [← List.append_assoc]
  rfl

/-
A message that has not: nobody takes it for one that has.
-/
theorem not_valid_of_unsigned (h : Draft type txn tlvs msg) (hplain : ∀ tlv ∈ tlvs, Plain tlv)
    (password : List Byte) : stunMsgIsValid hmacSha1 msg.buf password = false := by
  have hfits := h.size_le
  rw [h.buf_eq] at hfits ⊢
  rw [stunMsgIsValid_stunBytes h.length_txn hfits]
  rw [foldAttrs_plain hplain]
  rfl

theorem not_valid_of_longer {length : BitVec 16} (h : Draft type txn tlvs msg)
    (hlength : length.toNat ≠ (tlvBytes tlvs).length) (password : List Byte)
    : stunMsgIsValid hmacSha1 (setHeaderLength msg.buf length) password = false := by
  rw [h.buf_eq]
  rw [setHeaderLength_stunBytes]
  unfold stunMsgIsValid
  split
  . rfl
  . rw [if_pos]
    rw [headerLength_stunHeader]
    rw [List.length_append, length_stunHeader _ _ h.length_txn]
    omega

theorem Draft.finish_unsigned (h : Draft type txn tlvs msg) {password : List Byte}
    (hroom : msg.size ≤ stunAttrBufSize - 32) (hmac : hmacSha1 (signedBytes type txn tlvs) password = none)
    : stunMsgFinish hmacSha1 md5 msg .shortTerm password
        = (false, { msg with
            buf := setHeaderLength msg.buf (BitVec.ofNat 16 ((tlvBytes tlvs).length + 24)) }) := by
  have hsigned : setHeaderLength msg.buf (BitVec.ofNat 16 ((tlvBytes tlvs).length + 24))
      = signedBytes type txn tlvs := by
    rw [h.buf_eq]
    apply setHeaderLength_stunBytes
  have hlength : headerLength msg.buf + 24 = BitVec.ofNat 16 ((tlvBytes tlvs).length + 24) := by
    rw [h.headerLength_buf]
    rw [BitVec.ofNat_add]
    rfl
  unfold stunMsgFinish
  rw [if_neg (by omega)]
  simp only [hlength, hsigned, hmac]

variable (hmacSha1 md5) in
theorem Draft.valid_finish (h : Draft type txn tlvs msg) (hplain : ∀ tlv ∈ tlvs, Plain tlv) (password : List Byte)
    : stunMsgIsValid hmacSha1 (stunMsgFinish hmacSha1 md5 msg .shortTerm password).2.buf password
        = (stunMsgFinish hmacSha1 md5 msg .shortTerm password).1 := by
  have hlength := h.length_buf
  cases Nat.lt_or_ge (stunAttrBufSize - 32) msg.size with
  | inl hfull =>
    have hfinish : stunMsgFinish hmacSha1 md5 msg .shortTerm password = (false, msg) := by
      unfold stunMsgFinish
      rw [if_pos hfull]
    rw [hfinish]
    apply not_valid_of_unsigned h hplain
  | inr hroom =>
    have hsize := hroom
    unfold size stunAttrBufSize at hsize
    cases hmac : hmacSha1 (signedBytes type txn tlvs) password with
    | none =>
      rw [h.finish_unsigned hroom hmac]
      apply not_valid_of_longer h
      rw [BitVec.toNat_ofNat]
      rw [Nat.mod_eq_of_lt (by omega)]
      omega
    | some mac =>
      rw [h.finish hmacSha1 md5 hroom hmac]
      have hsigned : Signed hmacSha1 password type txn (withFingerprint type txn (tlvs ++ [integrityTlv mac])) tlvs
          mac [] :=
        ⟨h.length_txn, hplain, by simp, hmac, .inr rfl⟩
      apply hsigned.valid
      rw [length_stunBytes h.length_txn]
      unfold withFingerprint stunAttrBufSize
      simp only [tlvBytes_append, tlvBytes_cons, tlvBytes_nil, List.length_append, List.append_nil,
        length_bytes_fingerprintTlv, length_bytes_integrityTlv]
      omega

/-
What is sent is accepted under the same password exactly when the message could be signed, and the callers send
it in either case.
-/
theorem stunMsgIsValid_finish (msg : StunMessage) (type : BitVec 16) (transactionId : Vector Byte 12)
    (writes : List AttrWrite)
    (hplain : ∀ write ∈ writes, write.type ≠ .messageIntegrity ∧ write.type ≠ .fingerprint) (password : List Byte)
    : let draft := stunMsgWriteAttrs (stunMsgCreate msg type (some transactionId)).2 writes
      let res := stunMsgFinish hmacSha1 md5 draft .shortTerm password
      stunMsgIsValid hmacSha1 res.2.buf password = res.1 := by
  intro draft res
  obtain ⟨tlvs, hdraft, htlvs⟩ := (stunMsgCreate_draft msg type transactionId).writes writes hplain
  apply hdraft.valid_finish
  simpa using htlvs

def realmWrite : AttrWrite := ⟨.realm, 2, some [0x61, 0x62], by simp⟩

/-
HMAC-SHA1 of a response with that realm.
-/
def realmDigest : Vector Byte 20 :=
  #v[0x75, 0xcb, 0x9d, 0x52, 0x94, 0x6c, 0xfa, 0x01, 0xcf, 0x9f, 0x93, 0xb0, 0x1a, 0x90, 0x25, 0xc8, 0x91, 0x3c,
    0x69, 0x77]

theorem stunMsgIsValid_finish_realm
    : let draft := stunMsgWriteAttrs (stunMsgCreate blankMessage 0x0101 (some exampleTransactionId)).2 [realmWrite]
      let res := stunMsgFinish (fun _ _ => some realmDigest) (fun _ => Vector.replicate 16 0x00) draft .shortTerm
        [0x70, 0x62]
      stunMsgIsValid (fun _ _ => some realmDigest) res.2.buf [0x70, 0x62] = res.1 := by
  apply stunMsgIsValid_finish
  decide

end Finish

end Peer

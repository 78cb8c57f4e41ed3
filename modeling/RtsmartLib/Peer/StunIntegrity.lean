import RtsmartLib.Peer.StunAttributes

/-!
This module contains which messages pass the check of MESSAGE-INTEGRITY and FINGERPRINT: the messages that the
writer finishes do, and so do they with attributes behind MESSAGE-INTEGRITY that it does not cover.
-/

namespace Peer

open Lib
open StunMessage

def Plain (tlv : Tlv) : Prop :=
  tlv.type ≠ StunAttrType.messageIntegrity.val ∧ tlv.type ≠ StunAttrType.fingerprint.val

def integrityTlv (mac : Vector Byte 20) : Tlv where
  type := StunAttrType.messageIntegrity.val
  value := mac.toList
  padding := []
  value_lt := by simp
  padding_eq := by simp [padTo4]

@[simp]
theorem length_stunCalculateFingerprint (buf : List Byte) : (stunCalculateFingerprint buf).length = 4 := by
  simp [stunCalculateFingerprint]

def fingerprintTlv (covered : List Byte) : Tlv where
  type := StunAttrType.fingerprint.val
  value := stunCalculateFingerprint covered
  padding := []
  value_lt := by simp
  padding_eq := by simp [padTo4]

@[simp]
theorem length_bytes_integrityTlv (mac : Vector Byte 20) : (integrityTlv mac).bytes.length = 24 := by
  simp [Tlv.length_bytes, integrityTlv, padTo4, Tlv.sizeofHeader]

@[simp]
theorem length_bytes_fingerprintTlv (covered : List Byte) : (fingerprintTlv covered).bytes.length = 8 := by
  simp [Tlv.length_bytes, fingerprintTlv, padTo4, Tlv.sizeofHeader]

theorem eq_integrityTlv {tlv : Tlv} (htype : tlv.type = StunAttrType.messageIntegrity.val)
    (hlength : tlv.value.length = 20) : ∃ mac, tlv = integrityTlv mac := by
  refine ⟨⟨tlv.value.toArray, by simp [hlength]⟩, ?_⟩
  have hpadding := tlv.padding_eq
  rw [hlength] at hpadding
  cases tlv
  simp [integrityTlv] at *
  exact ⟨htype, List.length_eq_zero_iff.mp hpadding⟩

theorem eq_fingerprintTlv {tlv : Tlv} {covered : List Byte} (htype : tlv.type = StunAttrType.fingerprint.val)
    (hvalue : stunCalculateFingerprint covered = tlv.value) : tlv = fingerprintTlv covered := by
  have hpadding := tlv.padding_eq
  rw [← hvalue, length_stunCalculateFingerprint] at hpadding
  cases tlv
  simp [fingerprintTlv] at *
  exact ⟨htype, hvalue.symm, List.length_eq_zero_iff.mp hpadding⟩

section Scan

variable {messageSize pos : Nat} {scan scan' : IntegrityScan}

theorem scan_plain {tlv : Tlv} (h : Plain tlv)
    : stunScanAttr messageSize scan (stunAttribute pos tlv) = some scan := by
  unfold stunScanAttr stunAttribute
  rw [if_neg h.1]
  rw [if_neg h.2]

theorem foldAttrs_plain {tlvs : List Tlv} (h : ∀ tlv ∈ tlvs, Plain tlv)
    : foldAttrs (stunScanAttr messageSize) pos scan tlvs = some scan := by
  induction tlvs generalizing pos with
  | nil => rfl
  | cons tlv tlvs ih =>
    rw [foldAttrs_cons _ (scan_plain (h tlv (by simp)))]
    apply ih
    intro tlv' hmem
    apply h
    simp [hmem]

theorem scan_integrity (h : scan.mi = none) (mac : Vector Byte 20)
    : stunScanAttr messageSize scan (stunAttribute pos (integrityTlv mac))
        = some { scan with mi := some (pos, mac.toList) } := by
  have htype : (stunAttribute pos (integrityTlv mac)).type = StunAttrType.messageIntegrity.val := rfl
  have hlength : (stunAttribute pos (integrityTlv mac)).length.toNat = 20 := by
    apply Eq.trans (Tlv.toNat_length _)
    simp [integrityTlv]
  unfold stunScanAttr
  rw [if_pos htype]
  rw [if_neg (by simp [hlength, h])]
  rfl

theorem scan_fingerprint (h : scan.fingerprint = none) {covered : List Byte} (hlast : pos + 8 = messageSize)
    : stunScanAttr messageSize scan (stunAttribute pos (fingerprintTlv covered))
        = some { scan with fingerprint := some (pos, stunCalculateFingerprint covered) } := by
  have htype : (stunAttribute pos (fingerprintTlv covered)).type = StunAttrType.fingerprint.val := rfl
  have hlength : (stunAttribute pos (fingerprintTlv covered)).length.toNat = 4 := by
    apply Eq.trans (Tlv.toNat_length _)
    simp [fingerprintTlv]
  have hnext : (stunAttribute pos (fingerprintTlv covered)).next = messageSize := by
    apply Eq.trans _ hlast
    simp [stunAttribute]
  unfold stunScanAttr
  rw [if_neg (by rw [htype]; decide)]
  rw [if_pos htype]
  rw [if_neg (by simp [hlength, h, hnext])]
  rfl

/-
What one attribute does to the scan.
-/
theorem scan_cases {tlv : Tlv} (h : stunScanAttr messageSize scan (stunAttribute pos tlv) = some scan')
    : (Plain tlv ∧ scan' = scan)
        ∨ (tlv.type = StunAttrType.messageIntegrity.val ∧ tlv.value.length = 20 ∧ scan.mi = none
          ∧ scan' = { scan with mi := some (pos, tlv.value) })
        ∨ (tlv.type = StunAttrType.fingerprint.val ∧ tlv.value.length = 4 ∧ pos + tlv.bytes.length = messageSize
          ∧ scan' = { scan with fingerprint := some (pos, tlv.value) }) := by
  unfold stunScanAttr at h
  simp only [stunAttribute, Tlv.toNat_length] at h
  split at h
  . next htype =>
    split at h
    . contradiction
    . next hguard =>
      rw [not_or, not_not, Bool.not_eq_true, Option.isSome_eq_false_iff, Option.isNone_iff_eq_none] at hguard
      exact .inr (.inl ⟨htype, hguard.1, hguard.2, (Option.some.inj h).symm⟩)
  . next hmi =>
    split at h
    . next htype =>
      split at h
      . contradiction
      . next hguard =>
        rw [not_or, not_or, not_not, not_not] at hguard
        exact .inr (.inr ⟨htype, hguard.1, hguard.2.2, (Option.some.inj h).symm⟩)
    . next hfp => exact .inl ⟨⟨hmi, hfp⟩, (Option.some.inj h).symm⟩

theorem eq_nil_of_no_room {tlvs : List Tlv} (hsize : pos + (tlvBytes tlvs).length = pos) : tlvs = [] := by
  cases tlvs with
  | nil => rfl
  | cons tlv tlvs =>
    have hbytes := tlv.bytes_ne_nil
    have hlength := List.length_pos_iff.mpr hbytes
    rw [tlvBytes_cons, List.length_append] at hsize
    omega

/-
Behind MESSAGE-INTEGRITY.
-/
theorem exists_of_foldAttrs_scan {tlvs : List Tlv} {mi : Nat × List Byte} (hmi : scan.mi = some mi)
    (hsize : pos + (tlvBytes tlvs).length = messageSize)
    (h : foldAttrs (stunScanAttr messageSize) pos scan tlvs = some scan')
    : ∃ after, (∀ tlv ∈ after, Plain tlv)
        ∧ ((tlvs = after ∧ scan' = scan)
          ∨ ∃ tlv, tlvs = after ++ [tlv] ∧ tlv.type = StunAttrType.fingerprint.val
            ∧ scan' = { scan with fingerprint := some (pos + (tlvBytes after).length, tlv.value) }) := by
  induction tlvs generalizing pos with
  | nil => exact ⟨[], by simp, .inl ⟨rfl, (Option.some.inj h).symm⟩⟩
  | cons tlv tlvs ih =>
    rw [tlvBytes_cons, List.length_append, ← Nat.add_assoc] at hsize
    cases hstep : stunScanAttr messageSize scan (stunAttribute pos tlv) with
    | none => simp [foldAttrs, hstep] at h
    | some next =>
      rw [foldAttrs_cons _ hstep] at h
      cases scan_cases hstep with
      | inl hplain =>
        rw [hplain.2] at h
        obtain ⟨after, hafter, hcases⟩ := ih hsize h
        refine ⟨tlv :: after, by simpa using ⟨hplain.1, hafter⟩, ?_⟩
        cases hcases with
        | inl hnone => exact .inl ⟨by rw [hnone.1], hnone.2⟩
        | inr hsome =>
          obtain ⟨fp, hsplit, htype, hscan⟩ := hsome
          refine .inr ⟨fp, by rw [hsplit]; rfl, htype, ?_⟩
          rw [hscan]
          rw [tlvBytes_cons, List.length_append, Nat.add_assoc]
      | inr hmarked =>
        cases hmarked with
        | inl hagain => simp [hmi] at hagain
        | inr hfp =>
          have hnil : tlvs = [] := by
            apply @eq_nil_of_no_room (pos + tlv.bytes.length)
            rw [hsize]
            exact hfp.2.2.1.symm
          rw [hnil] at h ⊢
          refine ⟨[], by simp, .inr ⟨tlv, rfl, hfp.1, ?_⟩⟩
          rw [← Option.some.inj h]
          simp [hfp.2.2.2]

/-
Up to MESSAGE-INTEGRITY.
-/
theorem exists_integrity_of_foldAttrs_scan {tlvs : List Tlv} {mi : Nat × List Byte} (hnone : scan.mi = none)
    (hsize : pos + (tlvBytes tlvs).length = messageSize)
    (h : foldAttrs (stunScanAttr messageSize) pos scan tlvs = some scan') (hmi : scan'.mi = some mi)
    : ∃ before mac rest, (∀ tlv ∈ before, Plain tlv) ∧ tlvs = before ++ integrityTlv mac :: rest
        ∧ foldAttrs (stunScanAttr messageSize) (pos + (tlvBytes before).length + 24)
            { scan with mi := some (pos + (tlvBytes before).length, mac.toList) } rest = some scan' := by
  induction tlvs generalizing pos with
  | nil =>
    rw [← Option.some.inj h, hnone] at hmi
    contradiction
  | cons tlv tlvs ih =>
    rw [tlvBytes_cons, List.length_append, ← Nat.add_assoc] at hsize
    cases hstep : stunScanAttr messageSize scan (stunAttribute pos tlv) with
    | none => simp [foldAttrs, hstep] at h
    | some next =>
      rw [foldAttrs_cons _ hstep] at h
      cases scan_cases hstep with
      | inl hplain =>
        rw [hplain.2] at h
        obtain ⟨before, mac, rest, hbefore, hsplit, hrest⟩ := ih hsize h
        refine ⟨tlv :: before, mac, rest, by simpa using ⟨hplain.1, hbefore⟩, by rw [hsplit]; rfl, ?_⟩
        rw [tlvBytes_cons, List.length_append, ← Nat.add_assoc]
        exact hrest
      | inr hmarked =>
        cases hmarked with
        | inl hfound =>
          obtain ⟨mac, heq⟩ := eq_integrityTlv hfound.1 hfound.2.1
          refine ⟨[], mac, tlvs, by simp, by rw [heq]; rfl, ?_⟩
          rw [hfound.2.2.2] at h
          rw [heq] at h
          rw [length_bytes_integrityTlv] at h
          exact h
        | inr hfp =>
          have hnil : tlvs = [] := by
            apply @eq_nil_of_no_room (pos + tlv.bytes.length)
            rw [hsize]
            exact hfp.2.2.1.symm
          rw [hnil] at h
          rw [← Option.some.inj h, hfp.2.2.2] at hmi
          simp [hnone] at hmi

end Scan

/-
What MESSAGE-INTEGRITY covers: all that stands in front of it, under a length that ends with it.
-/
def signedBytes (type : BitVec 16) (txn : List Byte) (before : List Tlv) : List Byte :=
  stunHeader type (BitVec.ofNat 16 ((tlvBytes before).length + 24)) txn ++ tlvBytes before

/-
What FINGERPRINT covers: all that stands in front of it, under a length that ends with it.
-/
def checkedBytes (type : BitVec 16) (txn : List Byte) (tlvs : List Tlv) : List Byte :=
  stunHeader type (BitVec.ofNat 16 ((tlvBytes tlvs).length + 8)) txn ++ tlvBytes tlvs

def withFingerprint (type : BitVec 16) (txn : List Byte) (tlvs : List Tlv) : List Tlv :=
  tlvs ++ [fingerprintTlv (checkedBytes type txn tlvs)]

section Valid

variable {hmacSha1 : List Byte → List Byte → Option (Vector Byte 20)} {password : List Byte}
variable {type : BitVec 16} {txn : List Byte}

def scanAccepted (hmacSha1 : List Byte → List Byte → Option (Vector Byte 20)) (buf password : List Byte)
    (scan : IntegrityScan) : Bool :=
  match scan.mi with
  | none => false
  | some (offset, received) =>
    fingerprintMatches buf scan.fingerprint && integrityMatches hmacSha1 buf password offset received

theorem length_stunBytes (hid : txn.length = 12) (tlvs : List Tlv)
    : (stunBytes type txn tlvs).length = sizeofStunHeader + (tlvBytes tlvs).length := by
  unfold stunBytes
  rw [List.length_append]
  rw [length_stunHeader _ _ hid]

theorem stunMsgIsValid_stunBytes (hid : txn.length = 12) {tlvs : List Tlv}
    (hfits : (stunBytes type txn tlvs).length ≤ stunAttrBufSize)
    : stunMsgIsValid hmacSha1 (stunBytes type txn tlvs) password
        = match foldAttrs (stunScanAttr (stunBytes type txn tlvs).length) sizeofStunHeader {} tlvs with
          | none => false
          | some scan => scanAccepted hmacSha1 (stunBytes type txn tlvs) password scan := by
  have hlength : (stunBytes type txn tlvs).length = sizeofStunHeader + (tlvBytes tlvs).length := by
    apply length_stunBytes hid
  have hwalk : stunForEachAttr (stunScanAttr (stunBytes type txn tlvs).length) (stunBytes type txn tlvs)
      sizeofStunHeader {} = foldAttrs (stunScanAttr (stunBytes type txn tlvs).length) sizeofStunHeader {} tlvs := by
    have htlvs := stunForEachAttr_tlvBytes (stunScanAttr (stunBytes type txn tlvs).length)
      (stunHeader type (BitVec.ofNat 16 (tlvBytes tlvs).length) txn) tlvs {}
    rw [length_stunHeader _ _ hid] at htlvs
    apply htlvs
  have hheader : (headerLength (stunBytes type txn tlvs)).toNat = (tlvBytes tlvs).length := by
    unfold stunBytes
    rw [headerLength_stunHeader]
    rw [BitVec.toNat_ofNat]
    apply Nat.mod_eq_of_lt
    unfold stunAttrBufSize at hfits
    omega
  have hprobe : stunProbe (stunBytes type txn tlvs) = true := by
    apply stunProbe_stunHeader _ _ _ hid
  unfold stunMsgIsValid
  rw [if_neg (by rw [hprobe]; simp; omega)]
  rw [if_neg (by omega)]
  rw [hwalk]
  rfl

/-
A buffer that gets to the end of the first loop is a header with attributes.
-/
theorem exists_stunBytes_of_stunForEachAttr {σ : Type} {step : σ → StunAttribute → Option σ} {s s' : σ}
    {buf : List Byte} (hprobe : stunProbe buf = true)
    (hlength : sizeofStunHeader + (headerLength buf).toNat = buf.length)
    (h : stunForEachAttr step buf sizeofStunHeader s = some s')
    : ∃ txn tlvs, txn.length = 12 ∧ buf = stunBytes (headerType buf) txn tlvs := by
  have hcookie : getBigEndian32 buf 4 = magicCookie := by
    unfold stunProbe at hprobe
    simp at hprobe
    exact hprobe.2
  obtain ⟨txn, rest, hid, hbuf⟩ := exists_stunHeader (by omega) hcookie
  have hheader := length_stunHeader (headerType buf) (headerLength buf) hid
  have htlvs : ∃ tlvs, rest = tlvBytes tlvs := by
    have hwalk : stunForEachAttr step (stunHeader (headerType buf) (headerLength buf) txn ++ rest)
        (stunHeader (headerType buf) (headerLength buf) txn).length s = some s' := by
      rw [← hbuf, hheader]
      apply h
    apply exists_tlvs_of_stunForEachAttr step hwalk
  obtain ⟨tlvs, htlvs⟩ := htlvs
  refine ⟨txn, tlvs, hid, ?_⟩
  have hsize : headerLength buf = BitVec.ofNat 16 (tlvBytes tlvs).length := by
    have hsum := congrArg List.length hbuf
    rw [List.length_append, hheader, htlvs] at hsum
    have hnat : (headerLength buf).toNat = (tlvBytes tlvs).length := by
      omega
    rw [← hnat]
    simp
  unfold stunBytes
  rw [← hsize, ← htlvs]
  exact hbuf

theorem integrityMatches_eq (hid : txn.length = 12) (before rest : List Tlv) (length : BitVec 16)
    (mac : Vector Byte 20)
    : integrityMatches hmacSha1 (stunHeader type length txn ++ tlvBytes (before ++ rest)) password
        (sizeofStunHeader + (tlvBytes before).length) mac.toList = true
        ↔ hmacSha1 (signedBytes type txn before) password = some mac := by
  unfold integrityMatches signedBytes
  dsimp only
  rw [setHeaderLength_stunHeader]
  rw [tlvBytes_append]
  rw [← List.append_assoc]
  rw [List.take_left' (by rw [List.length_append, length_stunHeader _ _ hid])]
  have hlength : sizeofStunHeader + (tlvBytes before).length + sizeofStunAttribute + 20 - sizeofStunHeader
      = (tlvBytes before).length + 24 := by
    unfold sizeofStunAttribute
    omega
  rw [hlength]
  cases hmacSha1 _ password with
  | none => simp
  | some calculated => simp [Vector.toList_inj]

theorem fingerprintMatches_eq (hid : txn.length = 12) (tlvs rest : List Tlv) (length : BitVec 16)
    (received : List Byte)
    : fingerprintMatches (stunHeader type length txn ++ tlvBytes (tlvs ++ rest))
        (some (sizeofStunHeader + (tlvBytes tlvs).length, received)) = true
        ↔ stunCalculateFingerprint (stunHeader type length txn ++ tlvBytes tlvs) = received := by
  unfold fingerprintMatches
  rw [tlvBytes_append]
  rw [← List.append_assoc]
  simp only
  rw [List.take_left' (by rw [List.length_append, length_stunHeader _ _ hid])]
  simp

/--
The messages that are accepted under a password: their first and only MESSAGE-INTEGRITY is the digest of what
stands in front of it, and a FINGERPRINT ends the message and fits. What stands between the two is not covered.
-/
structure Signed (hmacSha1 : List Byte → List Byte → Option (Vector Byte 20)) (password : List Byte)
    (type : BitVec 16) (txn : List Byte) (tlvs before : List Tlv) (mac : Vector Byte 20) (after : List Tlv)
    : Prop where
  length_txn : txn.length = 12
  before_plain : ∀ tlv ∈ before, Plain tlv
  after_plain : ∀ tlv ∈ after, Plain tlv
  digest : hmacSha1 (signedBytes type txn before) password = some mac
  tlvs_eq : tlvs = before ++ integrityTlv mac :: after
    ∨ tlvs = withFingerprint type txn (before ++ integrityTlv mac :: after)

theorem scanAccepted_eq (hid : txn.length = 12) (before rest : List Tlv) (length : BitVec 16)
    (mac : Vector Byte 20) (fingerprint : Option (Nat × List Byte))
    : scanAccepted hmacSha1 (stunHeader type length txn ++ tlvBytes (before ++ rest)) password
          { mi := some (sizeofStunHeader + (tlvBytes before).length, mac.toList), fingerprint := fingerprint }
          = true
        ↔ fingerprintMatches (stunHeader type length txn ++ tlvBytes (before ++ rest)) fingerprint = true
          ∧ hmacSha1 (signedBytes type txn before) password = some mac := by
  have hmatches := @integrityMatches_eq hmacSha1 password type txn hid before rest length mac
  rw [← hmatches]
  simp [scanAccepted]

/-
The scan of the attributes of an accepted message.
-/
theorem Signed.valid {tlvs before after : List Tlv} {mac : Vector Byte 20}
    (h : Signed hmacSha1 password type txn tlvs before mac after)
    (hfits : (stunBytes type txn tlvs).length ≤ stunAttrBufSize)
    : stunMsgIsValid hmacSha1 (stunBytes type txn tlvs) password = true := by
  rw [stunMsgIsValid_stunBytes h.length_txn hfits]
  have hsize : (stunBytes type txn tlvs).length = sizeofStunHeader + (tlvBytes tlvs).length := by
    apply length_stunBytes h.length_txn
  generalize hmessage : (stunBytes type txn tlvs).length = messageSize at hsize
  have hbefore := @foldAttrs_plain messageSize sizeofStunHeader {} _ h.before_plain
  have hmi := @scan_integrity messageSize (sizeofStunHeader + (tlvBytes before).length) {} rfl mac
  have hafter : ∀ rest, foldAttrs (stunScanAttr messageSize) sizeofStunHeader {}
      (before ++ integrityTlv mac :: (after ++ rest))
      = foldAttrs (stunScanAttr messageSize)
        (sizeofStunHeader + (tlvBytes (before ++ integrityTlv mac :: after)).length)
        { mi := some (sizeofStunHeader + (tlvBytes before).length, mac.toList) } rest := by
    intro rest
    rw [foldAttrs_append _ hbefore]
    rw [foldAttrs_cons _ hmi]
    rw [foldAttrs_append _ (foldAttrs_plain h.after_plain)]
    congr 1
    simp only [tlvBytes_append, tlvBytes_cons, List.length_append]
    omega
  cases h.tlvs_eq with
  | inl htlvs =>
    have hscan := hafter []
    rw [List.append_nil, ← htlvs, foldAttrs_nil] at hscan
    rw [hscan]
    unfold stunBytes
    rw [htlvs]
    exact (scanAccepted_eq h.length_txn before _ _ mac none).mpr ⟨rfl, h.digest⟩
  | inr htlvs =>
    have hlength : (tlvBytes tlvs).length = (tlvBytes (before ++ integrityTlv mac :: after)).length + 8 := by
      rw [htlvs]
      unfold withFingerprint
      rw [tlvBytes_append, List.length_append, tlvBytes_cons, tlvBytes_nil, List.append_nil,
        length_bytes_fingerprintTlv]
    have hscan := hafter [fingerprintTlv (checkedBytes type txn (before ++ integrityTlv mac :: after))]
    rw [foldAttrs_cons _ (scan_fingerprint rfl (by omega)), foldAttrs_nil] at hscan
    have hsplit : tlvs = before ++ integrityTlv mac
        :: (after ++ [fingerprintTlv (checkedBytes type txn (before ++ integrityTlv mac :: after))]) := by
      rw [htlvs]
      simp [withFingerprint]
    rw [← hsplit] at hscan
    rw [hscan]
    unfold stunBytes
    rw [hlength]
    rw [hsplit]
    apply (scanAccepted_eq h.length_txn before _ _ mac _).mpr
    refine ⟨?_, h.digest⟩
    rw [← hsplit, htlvs]
    exact (fingerprintMatches_eq h.length_txn _ _ _ _).mpr rfl

theorem Signed.of_valid {tlvs : List Tlv} (hid : txn.length = 12)
    (hfits : (stunBytes type txn tlvs).length ≤ stunAttrBufSize)
    (h : stunMsgIsValid hmacSha1 (stunBytes type txn tlvs) password = true)
    : ∃ before mac after, Signed hmacSha1 password type txn tlvs before mac after := by
  rw [stunMsgIsValid_stunBytes hid hfits] at h
  have hsize : (stunBytes type txn tlvs).length = sizeofStunHeader + (tlvBytes tlvs).length := by
    apply length_stunBytes hid
  cases hscan : foldAttrs (stunScanAttr (stunBytes type txn tlvs).length) sizeofStunHeader {} tlvs with
  | none => simp [hscan] at h
  | some scan =>
    simp only [hscan] at h
    cases hmi : scan.mi with
    | none => simp [scanAccepted, hmi] at h
    | some mi =>
      obtain ⟨before, mac, rest, hbefore, hsplit, hrest⟩ :=
        exists_integrity_of_foldAttrs_scan rfl hsize.symm hscan hmi
      have hroom : sizeofStunHeader + (tlvBytes before).length + 24 + (tlvBytes rest).length
          = (stunBytes type txn tlvs).length := by
        rw [hsize, hsplit]
        simp only [tlvBytes_append, tlvBytes_cons, List.length_append, length_bytes_integrityTlv]
        omega
      obtain ⟨after, hafter, hcases⟩ := exists_of_foldAttrs_scan rfl hroom hrest
      cases hcases with
      | inl hnone =>
        rw [hnone.2] at h
        unfold stunBytes at h
        rw [hsplit] at h
        have haccepted := (scanAccepted_eq hid before _ _ mac none).mp h
        exact ⟨before, mac, after, hid, hbefore, hafter, haccepted.2, .inl (by rw [hsplit, hnone.1])⟩
      | inr hsome =>
        obtain ⟨tlv, hend, htype, hscan'⟩ := hsome
        rw [hscan'] at h
        unfold stunBytes at h
        rw [hsplit] at h
        have haccepted := (scanAccepted_eq hid before _ _ mac _).mp h
        refine ⟨before, mac, after, hid, hbefore, hafter, haccepted.2, .inr ?_⟩
        have hall : before ++ integrityTlv mac :: rest = (before ++ integrityTlv mac :: after) ++ [tlv] := by
          rw [hend]
          simp
        have hoffset : sizeofStunHeader + (tlvBytes before).length + 24 + (tlvBytes after).length
            = sizeofStunHeader + (tlvBytes (before ++ integrityTlv mac :: after)).length := by
          simp only [tlvBytes_append, tlvBytes_cons, List.length_append, length_bytes_integrityTlv]
          omega
        have hfingerprint := haccepted.1
        rw [hall, hoffset] at hfingerprint
        have hvalue := (fingerprintMatches_eq hid _ _ _ _).mp hfingerprint
        have height : (tlvBytes [tlv]).length = 8 := by
          rw [tlvBytes_cons, tlvBytes_nil, List.append_nil]
          rw [eq_fingerprintTlv htype hvalue]
          apply length_bytes_fingerprintTlv
        rw [tlvBytes_append (before ++ integrityTlv mac :: after), List.length_append, height] at hvalue
        rw [hsplit, hall]
        rw [eq_fingerprintTlv htype hvalue]
        rfl

theorem stunMsgIsValid_iff (buf : List Byte)
    : stunMsgIsValid hmacSha1 buf password = true
        ↔ buf.length ≤ stunAttrBufSize ∧ ∃ type txn tlvs before mac after, buf = stunBytes type txn tlvs
          ∧ Signed hmacSha1 password type txn tlvs before mac after := by
  constructor
  . intro h
    have hguard := h
    unfold stunMsgIsValid at hguard
    split at hguard
    . contradiction
    . next hprobe =>
      simp only [not_or, Nat.not_lt, Bool.not_eq_true, Bool.not_eq_false', gt_iff_lt] at hprobe
      split at hguard
      . contradiction
      . next hlength =>
        rw [not_not] at hlength
        split at hguard
        . contradiction
        . next scan hscan =>
          obtain ⟨txn, tlvs, hid, hbuf⟩ := exists_stunBytes_of_stunForEachAttr hprobe.2.2 hlength hscan
          refine ⟨hprobe.2.1, headerType buf, txn, tlvs, ?_⟩
          rw [hbuf] at h
          have hfits : (stunBytes (headerType buf) txn tlvs).length ≤ stunAttrBufSize := by
            rw [← hbuf]
            exact hprobe.2.1
          obtain ⟨before, mac, after, hsigned⟩ := Signed.of_valid hid hfits h
          exact ⟨before, mac, after, hbuf, hsigned⟩
  . intro h
    obtain ⟨hfits, type, txn, tlvs, before, mac, after, hbuf, hsigned⟩ := h
    rw [hbuf] at hfits ⊢
    apply hsigned.valid hfits

/-
Whoever relays an accepted message that has no FINGERPRINT can put attributes of his own behind
MESSAGE-INTEGRITY without knowing the password, a FINGERPRINT of his own last.
-/
theorem stunMsgIsValid_append {tlvs extra : List Tlv} (hid : txn.length = 12)
    (haccepted : stunMsgIsValid hmacSha1 (stunBytes type txn tlvs) password = true)
    (hnone : ∀ tlv ∈ tlvs, tlv.type ≠ StunAttrType.fingerprint.val) (hextra : ∀ tlv ∈ extra, Plain tlv)
    (hfits : (stunBytes type txn (withFingerprint type txn (tlvs ++ extra))).length ≤ stunAttrBufSize)
    : stunMsgIsValid hmacSha1 (stunBytes type txn (tlvs ++ extra)) password = true
      ∧ stunMsgIsValid hmacSha1 (stunBytes type txn (withFingerprint type txn (tlvs ++ extra))) password
          = true := by
  rw [length_stunBytes hid] at hfits
  unfold withFingerprint at hfits
  simp only [tlvBytes_append, List.length_append] at hfits
  have hfits' : (stunBytes type txn tlvs).length ≤ stunAttrBufSize := by
    rw [length_stunBytes hid]
    omega
  obtain ⟨before, mac, after, hsigned⟩ := Signed.of_valid hid hfits' haccepted
  have htlvs : tlvs = before ++ integrityTlv mac :: after := by
    cases hsigned.tlvs_eq with
    | inl htlvs => exact htlvs
    | inr htlvs =>
      exfalso
      apply hnone (fingerprintTlv (checkedBytes type txn (before ++ integrityTlv mac :: after)))
      . rw [htlvs]
        simp [withFingerprint]
      . rfl
  have hall : tlvs ++ extra = before ++ integrityTlv mac :: (after ++ extra) := by
    rw [htlvs]
    simp
  have hplain : ∀ tlv ∈ after ++ extra, Plain tlv := by
    intro tlv hmem
    cases List.mem_append.mp hmem with
    | inl hafter => exact hsigned.after_plain tlv hafter
    | inr hmem => exact hextra tlv hmem
  constructor
  . apply Signed.valid ⟨hid, hsigned.before_plain, hplain, hsigned.digest, .inl hall⟩
    rw [length_stunBytes hid, tlvBytes_append, List.length_append]
    omega
  . have hextended : Signed hmacSha1 password type txn (withFingerprint type txn (tlvs ++ extra)) before mac
        (after ++ extra) :=
      ⟨hid, hsigned.before_plain, hplain, hsigned.digest, .inr (by rw [hall])⟩
    apply hextended.valid
    rw [length_stunBytes hid]
    unfold withFingerprint
    simp only [tlvBytes_append, List.length_append]
    omega

def exampleTransactionId : Vector Byte 12 := Vector.replicate 12 0x07

/-
HMAC-SHA1 of a response without other attributes.
-/
def exampleDigest : Vector Byte 20 :=
  #v[0x10, 0xea, 0xff, 0xcf, 0xac, 0x16, 0x0c, 0xec, 0x35, 0xeb, 0xcb, 0xc7, 0xb9, 0x15, 0x2f, 0xdf, 0x85, 0x71,
    0xe3, 0xe3]

def realmTlv : Tlv := ⟨StunAttrType.realm.val, [0x61, 0x62], [0x00, 0x00], by decide, by decide⟩

theorem stunMsgIsValid_append_realm
    : let txn := exampleTransactionId.toList
      let tlvs := [integrityTlv exampleDigest]
      stunMsgIsValid (fun _ _ => some exampleDigest) (stunBytes 0x0101 txn (tlvs ++ [realmTlv])) [0x70, 0x62] = true
        ∧ stunMsgIsValid (fun _ _ => some exampleDigest)
            (stunBytes 0x0101 txn (withFingerprint 0x0101 txn (tlvs ++ [realmTlv]))) [0x70, 0x62] = true := by
  apply stunMsgIsValid_append
  . rfl
  . decide +kernel
  . decide
  . intro tlv hmem
    rw [List.mem_singleton.mp hmem]
    exact ⟨by decide, by decide⟩
  . decide +kernel

end Valid

end Peer

import RtsmartLib.Peer.Stun

/-!
This module contains the loop over the attributes of a STUN message as a fold over a list of attributes, and the
messages as their headers and their attributes.
-/

namespace Peer

open Lib
open StunMessage

variable {σ : Type} (step : σ → StunAttribute → Option σ)

def stunAttribute (pos : Nat) (tlv : Tlv) : StunAttribute :=
  ⟨pos, tlv.type, tlv.length, tlv.value, pos + tlv.bytes.length⟩

def foldAttrs (pos : Nat) (s : σ) (tlvs : List Tlv) : Option σ :=
  match tlvs with
  | [] => some s
  | tlv :: tlvs =>
    match step s (stunAttribute pos tlv) with
    | none => none
    | some s => foldAttrs (pos + tlv.bytes.length) s tlvs

@[simp]
theorem foldAttrs_nil (pos : Nat) (s : σ) : foldAttrs step pos s [] = some s := rfl

theorem foldAttrs_cons {pos : Nat} {s s' : σ} {tlv : Tlv} (h : step s (stunAttribute pos tlv) = some s')
    (tlvs : List Tlv) : foldAttrs step pos s (tlv :: tlvs) = foldAttrs step (pos + tlv.bytes.length) s' tlvs := by
  simp [foldAttrs, h]

theorem foldAttrs_append {pos : Nat} {s s' : σ} {tlvs : List Tlv} (h : foldAttrs step pos s tlvs = some s')
    (tlvs' : List Tlv)
    : foldAttrs step pos s (tlvs ++ tlvs') = foldAttrs step (pos + (tlvBytes tlvs).length) s' tlvs' := by
  induction tlvs generalizing pos s with
  | nil =>
    simp at h
    simp [h]
  | cons tlv tlvs ih =>
    simp only [foldAttrs] at h
    cases hstep : step s (stunAttribute pos tlv) with
    | none => simp [hstep] at h
    | some next =>
      simp only [hstep] at h
      rw [List.cons_append]
      rw [foldAttrs_cons step hstep]
      rw [ih h]
      rw [tlvBytes_cons, List.length_append, Nat.add_assoc]

theorem paddedLen_eq (tlv : Tlv) (pos : Nat)
    : pos + sizeofStunAttribute + (tlv.length.toNat + 3) / 4 * 4 = pos + tlv.bytes.length := by
  rw [Tlv.length_bytes]
  rw [Tlv.toNat_length]
  unfold sizeofStunAttribute Tlv.sizeofHeader padTo4
  omega

/-
One round of the loop.
-/
theorem stunForEachAttr_bytes (front : List Byte) (tlv : Tlv) (rest : List Byte) (s : σ)
    : stunForEachAttr step (front ++ (tlv.bytes ++ rest)) front.length s
        = (step s (stunAttribute front.length tlv)).bind fun s =>
            stunForEachAttr step (front ++ (tlv.bytes ++ rest)) (front.length + tlv.bytes.length) s := by
  have hsize := tlv.length_bytes
  unfold Tlv.sizeofHeader at hsize
  conv =>
    lhs
    unfold stunForEachAttr
  rw [if_pos (by simp only [List.length_append]; omega)]
  rw [if_neg (by simp only [List.length_append, sizeofStunAttribute]; omega)]
  simp only [Tlv.getBigEndian16_type rfl, Tlv.getBigEndian16_length rfl, paddedLen_eq]
  rw [if_neg (by simp only [List.length_append]; omega)]
  have hvalue := @Tlv.value_eq front _ rfl tlv rest
  rw [Tlv.toNat_length]
  unfold Tlv.sizeofHeader at hvalue
  unfold sizeofStunAttribute stunAttribute
  rw [hvalue]
  cases step s _ <;> rfl

theorem stunForEachAttr_tlvBytes (front : List Byte) (tlvs : List Tlv) (s : σ)
    : stunForEachAttr step (front ++ tlvBytes tlvs) front.length s = foldAttrs step front.length s tlvs := by
  induction tlvs generalizing front s with
  | nil =>
    unfold stunForEachAttr
    rw [if_neg (by simp)]
    rfl
  | cons tlv tlvs ih =>
    rw [tlvBytes_cons]
    rw [stunForEachAttr_bytes]
    simp only [foldAttrs]
    cases step s (stunAttribute front.length tlv) with
    | none => rfl
    | some s =>
      have hrest := ih (front ++ tlv.bytes) s
      rw [List.append_assoc, List.length_append] at hrest
      apply hrest

/-
What the loop gets through is a sequence of attributes.
-/
theorem exists_tlvs_of_stunForEachAttr {front bytes : List Byte} {s s' : σ}
    (h : stunForEachAttr step (front ++ bytes) front.length s = some s') : ∃ tlvs, bytes = tlvBytes tlvs := by
  generalize hn : bytes.length = n
  induction n using Nat.strongRecOn generalizing front bytes s with
  | ind n ih =>
    cases hbytes : bytes with
    | nil => exact ⟨[], rfl⟩
    | cons b tail =>
      rw [← hbytes]
      have hpos : 0 < bytes.length := by
        simp [hbytes]
      unfold stunForEachAttr at h
      rw [if_pos (by simp only [List.length_append]; omega)] at h
      split at h
      . contradiction
      . next hheader =>
        simp only [List.length_append, Nat.add_sub_cancel_left, Nat.not_lt] at hheader
        have hlength : getBigEndian16 (front ++ bytes) (front.length + 2) = getBigEndian16 bytes 2 := by
          unfold getBigEndian16
          rw [Nat.add_assoc, getD_append_offset rfl, getD_append_offset rfl]
        simp only [hlength] at h
        split at h
        . contradiction
        . next hnext =>
          simp only [List.length_append, Nat.not_lt, sizeofStunAttribute] at hnext hheader
          have hexists := @Tlv.exists_of_length_le bytes hheader
            (by unfold Tlv.sizeofHeader padTo4; omega)
          obtain ⟨tlv, rest, hsplit⟩ := hexists
          split at h
          . contradiction
          . next s1 hstep =>
            have hadvance : front.length + sizeofStunAttribute + ((getBigEndian16 bytes 2).toNat + 3) / 4 * 4
                = (front ++ tlv.bytes).length := by
              have htype := @Tlv.getBigEndian16_length [] 0 rfl tlv rest
              rw [List.nil_append, Nat.zero_add, ← hsplit] at htype
              rw [htype]
              rw [paddedLen_eq]
              rw [List.length_append]
            rw [hadvance] at h
            rw [hsplit] at h
            rw [← List.append_assoc] at h
            have hsmaller : rest.length < n := by
              have hbig := tlv.length_bytes
              have hsum := congrArg List.length hsplit
              rw [List.length_append] at hsum
              unfold Tlv.sizeofHeader at hbig
              omega
            obtain ⟨tlvs, htlvs⟩ := ih rest.length hsmaller h rfl
            exact ⟨tlv :: tlvs, by rw [hsplit, htlvs, tlvBytes_cons]⟩

theorem stunForEachAttr_inv {P : σ → Prop} (hstep : ∀ s attr s', P s → step s attr = some s' → P s')
    {buf : List Byte} {pos : Nat} {s s' : σ} (hs : P s) (h : stunForEachAttr step buf pos s = some s') : P s' := by
  generalize hn : buf.length - pos = n
  induction n using Nat.strongRecOn generalizing pos s with
  | ind n ih =>
    unfold stunForEachAttr at h
    split at h
    . next hpos =>
      split at h
      . contradiction
      . dsimp only at h
        split at h
        . contradiction
        . next hnext =>
          split at h
          . contradiction
          . next s1 hs1 =>
            apply ih _ _ (hstep _ _ _ hs hs1) h rfl
            unfold sizeofStunAttribute at hnext ⊢
            omega
    . rw [← Option.some.inj h]
      exact hs

/-
What the parser has taken from the header and the buffer stay as they are.
-/
theorem stunParseMsgBuf_header {msg parsed : StunMessage} (h : stunParseMsgBuf msg = some parsed)
    : parsed.buf = msg.buf ∧ parsed.stunclass = StunClass.ofType (headerType msg.buf)
        ∧ parsed.stunmethod = stunMethodOfType (headerType msg.buf) := by
  unfold stunParseMsgBuf at h
  split at h
  . contradiction
  . split at h
    . contradiction
    . apply stunForEachAttr_inv (P := fun parsed => parsed.buf = msg.buf
          ∧ parsed.stunclass = StunClass.ofType (headerType msg.buf)
          ∧ parsed.stunmethod = stunMethodOfType (headerType msg.buf)) _ _ _ h
      . intro s attr s' hs hstep
        unfold stunParseAttr at hstep
        split at hstep
        all_goals
          first
          | (split at hstep
             . contradiction
             . rw [← Option.some.inj hstep]
               exact hs)
          | (rw [← Option.some.inj hstep]
             exact hs)
      . exact ⟨rfl, rfl, rfl⟩

/-
A message with its length in the header.
-/
def stunBytes (type : BitVec 16) (transactionId : List Byte) (tlvs : List Tlv) : List Byte :=
  stunHeader type (BitVec.ofNat 16 (tlvBytes tlvs).length) transactionId ++ tlvBytes tlvs

section Header

variable (type length : BitVec 16) {txn : List Byte} (rest : List Byte)

@[simp]
theorem length_stunHeader (h : txn.length = 12) : (stunHeader type length txn).length = sizeofStunHeader := by
  simp [stunHeader, h, sizeofStunHeader]

theorem headerType_stunHeader : headerType (stunHeader type length txn ++ rest) = type := by
  unfold headerType stunHeader
  rw [List.append_assoc, List.append_assoc, List.append_assoc]
  apply @getBigEndian16_append [] 0 rfl

theorem headerLength_stunHeader : headerLength (stunHeader type length txn ++ rest) = length := by
  unfold headerLength stunHeader
  rw [List.append_assoc, List.append_assoc, List.append_assoc]
  apply @getBigEndian16_append (bigEndian16 type) _ rfl

theorem cookie_stunHeader : getBigEndian32 (stunHeader type length txn ++ rest) 4 = magicCookie := by
  unfold stunHeader
  rw [List.append_assoc, List.append_assoc]
  apply @getBigEndian32_append (bigEndian16 type ++ bigEndian16 length) _ rfl

theorem transactionId_stunHeader (h : txn.length = 12)
    : transactionId (stunHeader type length txn ++ rest) = txn := by
  unfold transactionId stunHeader
  rw [List.append_assoc]
  rw [List.drop_left' (by simp)]
  rw [List.take_left' h]

theorem setHeaderLength_stunHeader (length' : BitVec 16)
    : setHeaderLength (stunHeader type length txn ++ rest) length' = stunHeader type length' txn ++ rest := by
  unfold setHeaderLength stunHeader
  simp only [List.append_assoc]
  rw [List.take_left' (by simp)]
  rw [← List.append_assoc (bigEndian16 type) (bigEndian16 length)]
  rw [List.drop_left' (by simp)]

/-
Any bytes long enough are a header and what follows it.
-/
theorem exists_stunHeader {buf : List Byte} (hsize : sizeofStunHeader ≤ buf.length)
    (hcookie : getBigEndian32 buf 4 = magicCookie)
    : ∃ txn rest, txn.length = 12 ∧ buf = stunHeader (headerType buf) (headerLength buf) txn ++ rest := by
  unfold sizeofStunHeader at hsize
  refine ⟨(buf.drop 8).take 12, buf.drop 20, ?_, ?_⟩
  . simp only [List.length_take, List.length_drop]
    omega
  . unfold stunHeader headerType headerLength
    rw [← hcookie]
    rw [bigEndian16_getBigEndian16 (by omega), bigEndian16_getBigEndian16 (by omega),
      bigEndian32_getBigEndian32 (by omega)]
    have hjoin : ∀ i k, (buf.drop i).take k ++ buf.drop (i + k) = buf.drop i := by
      intro i k
      rw [← List.drop_drop]
      apply List.take_append_drop
    simp only [List.append_assoc]
    rw [hjoin 8 12, hjoin 4 4, hjoin 2 2, hjoin 0 2]
    rfl

theorem stunProbe_stunHeader (h : txn.length = 12) : stunProbe (stunHeader type length txn ++ rest) = true := by
  simp [stunProbe, cookie_stunHeader, h]

end Header

end Peer

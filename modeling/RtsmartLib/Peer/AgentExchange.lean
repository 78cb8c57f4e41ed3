import RtsmartLib.Peer.AgentRuns
import RtsmartLib.Peer.StunWriter

/-!
This module contains a connectivity check between two agents: the request that one of them sends, the response of
the other one, and what the response does to the pair; and the ways of data through a TURN server.
-/

namespace Peer

open Lib
open StunMessage

section Parse

variable {type : BitVec 16} {txn : List Byte}

theorem stunParseMsgBuf_stunBytes (hid : txn.length = 12) {tlvs : List Tlv}
    (hfits : (stunBytes type txn tlvs).length ≤ stunAttrBufSize) (garbage : StunMessage)
    : stunParseMsgBuf { garbage with buf := stunBytes type txn tlvs }
        = foldAttrs (stunParseAttr txn) sizeofStunHeader
            { garbage with
              buf := stunBytes type txn tlvs
              stunclass := StunClass.ofType type
              stunmethod := stunMethodOfType type } tlvs := by
  have hlength : (stunBytes type txn tlvs).length = sizeofStunHeader + (tlvBytes tlvs).length := by
    apply length_stunBytes hid
  have hheader : headerLength (stunBytes type txn tlvs) = BitVec.ofNat 16 (tlvBytes tlvs).length := by
    apply headerLength_stunHeader
  have htype : headerType (stunBytes type txn tlvs) = type := by
    apply headerType_stunHeader
  have htxn : transactionId (stunBytes type txn tlvs) = txn := by
    apply transactionId_stunHeader _ _ _ hid
  have hprobe : stunProbe (stunBytes type txn tlvs) = true := by
    apply stunProbe_stunHeader _ _ _ hid
  have hnat : (BitVec.ofNat 16 (tlvBytes tlvs).length).toNat = (tlvBytes tlvs).length := by
    rw [BitVec.toNat_ofNat]
    apply Nat.mod_eq_of_lt
    unfold stunAttrBufSize at hfits
    omega
  unfold stunParseMsgBuf
  rw [if_neg (by simp only [hprobe]; simp; omega)]
  rw [if_neg (by simp only [hheader, hnat, hlength]; omega)]
  simp only [htype, htxn]
  have htlvs := stunForEachAttr_tlvBytes (stunParseAttr txn)
    (stunHeader type (BitVec.ofNat 16 (tlvBytes tlvs).length) txn) tlvs
  rw [length_stunHeader _ _ hid] at htlvs
  apply htlvs

variable {msg : StunMessage} {pos : Nat}

theorem stunParseAttr_username {value : List Byte} {h : value.length < 2 ^ 16}
    : stunParseAttr txn msg (stunAttribute pos (writtenTlv .username value h))
        = some { msg with username := copyString sizeofUsername value } := by
  unfold stunParseAttr stunAttribute writtenTlv
  simp only [StunAttrType.ofVal?_val]

theorem stunParseAttr_ignored {attr : StunAttrType} {value : List Byte} {h : value.length < 2 ^ 16}
    (hattr : attr = .priority ∨ attr = .useCandidate ∨ attr = .iceControlling ∨ attr = .iceControlled)
    : stunParseAttr txn msg (stunAttribute pos (writtenTlv attr value h)) = some msg := by
  unfold stunParseAttr stunAttribute writtenTlv
  simp only [StunAttrType.ofVal?_val]
  cases hattr with
  | inl h => rw [h]
  | inr h =>
    cases h with
    | inl h => rw [h]
    | inr h =>
      cases h with
      | inl h => rw [h]
      | inr h => rw [h]

theorem stunParseAttr_integrity (mac : Vector Byte 20)
    : stunParseAttr txn msg (stunAttribute pos (integrityTlv mac))
        = some { msg with messageIntegrity := mac.toList } := by
  have htype : (stunAttribute pos (integrityTlv mac)).type = StunAttrType.messageIntegrity.val := rfl
  have hlength : (stunAttribute pos (integrityTlv mac)).length.toNat = 20 := by
    apply Eq.trans (Tlv.toNat_length _)
    simp [integrityTlv]
  unfold stunParseAttr
  simp only [htype, StunAttrType.ofVal?_val]
  rw [if_neg (by simp [hlength])]
  rfl

theorem stunParseAttr_fingerprint (covered : List Byte)
    : stunParseAttr txn msg (stunAttribute pos (fingerprintTlv covered))
        = some { msg with fingerprint := stunCalculateFingerprint covered } := by
  have htype : (stunAttribute pos (fingerprintTlv covered)).type = StunAttrType.fingerprint.val := rfl
  have hlength : (stunAttribute pos (fingerprintTlv covered)).length.toNat = 4 := by
    apply Eq.trans (Tlv.toNat_length _)
    simp [fingerprintTlv]
  unfold stunParseAttr
  simp only [htype, StunAttrType.ofVal?_val]
  rw [if_neg (by simp [hlength])]
  rfl

end Parse

section MappedAddress

theorem getElem_xorBytes {n i : Nat} (a b : List Byte) (h : i < (xorBytes n a b).length)
    : (xorBytes n a b)[i] = a.getD i 0 ^^^ b.getD i 0 := by
  simp [xorBytes]

theorem xorBytes_xorBytes {n : Nat} {a : List Byte} (h : a.length = n) (b rest : List Byte)
    : xorBytes n (xorBytes n a b ++ rest) b = a := by
  apply List.ext_getElem
  . simp [h]
  . intro i hi ha
    have hin : i < (xorBytes n a b).length := by
      rw [length_xorBytes] at hi ⊢
      exact hi
    rw [getElem_xorBytes]
    rw [List.getD_append _ _ _ _ hin]
    rw [List.getD_eq_getElem _ _ hin]
    rw [getElem_xorBytes]
    rw [List.getD_eq_getElem _ _ ha]
    rw [BitVec.xor_assoc, BitVec.xor_self, BitVec.xor_zero]

theorem length_stunSetMappedAddress (reserved : Byte) (mask : List Byte) (addr : Address)
    : (stunSetMappedAddress reserved mask addr).length = if addr.family = .inet6 then 20 else 8 := by
  unfold stunSetMappedAddress
  cases addr.family <;> simp

/-
The address that is read back is the one that has been written.
-/
theorem stunGetMappedAddress_stunSetMappedAddress (reserved : Byte) (mask : List Byte) {addr : Address}
    (h : addr.family ≠ .unspec) (prior : Address)
    : addrEqual (stunGetMappedAddress (stunSetMappedAddress reserved mask addr) mask prior) addr = true := by
  have hport : ∀ rest, getBigEndian16 (xorBytes 2 (xorBytes 2 (bigEndian16 addr.port) mask ++ rest) mask) 0
      = addr.port := by
    intro rest
    rw [xorBytes_xorBytes (by simp)]
    have hread := @getBigEndian16_append [] 0 rfl addr.port []
    rw [List.nil_append, List.append_nil] at hread
    exact hread
  unfold stunGetMappedAddress stunSetMappedAddress addrEqual
  cases hfamily : addr.family with
  | unspec => contradiction
  | inet =>
    have hbytes := xorBytes_xorBytes addr.length_sinAddr mask []
    rw [List.append_nil] at hbytes
    have hdrop := hport (xorBytes 4 addr.sinAddr mask)
    have hlength := length_xorBytes 2 (bigEndian16 addr.port) mask
    simp [stunFamilyIpv4, stunFamilyIpv6, hdrop, hbytes, List.drop_append, hlength]
  | inet6 =>
    have hbytes := xorBytes_xorBytes addr.length_sin6Addr mask []
    rw [List.append_nil] at hbytes
    have hdrop := hport (xorBytes 16 addr.sin6Addr mask)
    have hlength := length_xorBytes 2 (bigEndian16 addr.port) mask
    simp [stunFamilyIpv6, hdrop, hbytes, List.drop_append, hlength]

end MappedAddress

section Messages

variable {hmacSha1 : List Byte → List Byte → Option (Vector Byte 20)} {md5 : List Byte → Vector Byte 16}
variable {type : BitVec 16} {txn : List Byte} {tlvs : List Tlv} {msg : StunMessage}

theorem length_bytes_writtenTlv {attr : StunAttrType} {value : List Byte} (h : value.length < 2 ^ 16)
    : (writtenTlv attr value h).bytes.length = sizeofStunAttribute + (value.length + 3) / 4 * 4 := by
  rw [Tlv.length_bytes]
  simp only [writtenTlv]
  unfold Tlv.sizeofHeader sizeofStunAttribute padTo4
  omega

theorem plain_writtenTlv {attr : StunAttrType} {value : List Byte} (h : value.length < 2 ^ 16)
    (hmi : attr ≠ .messageIntegrity) (hfp : attr ≠ .fingerprint) : Plain (writtenTlv attr value h) :=
  ⟨fun heq => hmi (StunAttrType.val_inj heq), fun heq => hfp (StunAttrType.val_inj heq)⟩

theorem Draft.stunWrite (h : Draft type txn tlvs msg) (attr : StunAttrType) {value : List Byte}
    (hvalue : value.length < 2 ^ 16)
    (hroom : sizeofStunHeader + (tlvBytes tlvs).length + sizeofStunAttribute + (value.length + 3) / 4 * 4
      ≤ stunAttrBufSize)
    : Draft type txn (tlvs ++ [writtenTlv attr value hvalue]) (stunWrite msg attr value) := by
  have hnat : (BitVec.ofNat 16 value.length).toNat = value.length := by
    rw [BitVec.toNat_ofNat]
    apply Nat.mod_eq_of_lt hvalue
  have hlength := h.length_buf
  have hok : (stunMsgWriteAttr msg attr (BitVec.ofNat 16 value.length) (some value)).1 = true := by
    unfold stunMsgWriteAttr
    dsimp only
    rw [if_neg]
    . cases attr <;> rfl
    . rw [hnat]
      unfold size
      unfold sizeofStunHeader sizeofStunAttribute stunAttrBufSize at *
      simp
      omega
  apply h.written hok
  . rw [hnat]
    simp
  . exact hnat.symm

variable (hmacSha1 md5) in
/-
A message with room for its signature, under a digest that can be made.
-/
theorem Draft.finished (h : Draft type txn tlvs msg) (hplain : ∀ tlv ∈ tlvs, Plain tlv) (password : List Byte)
    (hroom : sizeofStunHeader + (tlvBytes tlvs).length ≤ stunAttrBufSize - 32)
    (htotal : ∀ message key, (hmacSha1 message key).isSome)
    : ∃ mac, (stunMsgFinish hmacSha1 md5 msg .shortTerm password).2.buf
          = stunBytes type txn (withFingerprint type txn (tlvs ++ [integrityTlv mac]))
        ∧ (stunBytes type txn (withFingerprint type txn (tlvs ++ [integrityTlv mac]))).length ≤ stunAttrBufSize
        ∧ stunMsgIsValid hmacSha1 (stunMsgFinish hmacSha1 md5 msg .shortTerm password).2.buf password = true := by
  have hlength := h.length_buf
  obtain ⟨mac, hmac⟩ := Option.isSome_iff_exists.mp (htotal (signedBytes type txn tlvs) password)
  have hfinish := h.finish hmacSha1 md5 (by unfold size; omega) hmac
  have hvalid := h.valid_finish hmacSha1 md5 hplain password
  rw [hfinish] at hvalid ⊢
  refine ⟨mac, rfl, ?_, hvalid⟩
  rw [length_stunBytes h.length_txn]
  unfold withFingerprint
  simp only [tlvBytes_append, tlvBytes_cons, tlvBytes_nil, List.length_append, List.append_nil,
    length_bytes_fingerprintTlv, length_bytes_integrityTlv]
  unfold stunAttrBufSize at hroom ⊢
  omega

theorem parse_finished (hid : txn.length = 12) (mac : Vector Byte 20) {garbage parsed : StunMessage}
    (hfits : (stunBytes type txn (withFingerprint type txn (tlvs ++ [integrityTlv mac]))).length
      ≤ stunAttrBufSize)
    (hparse : foldAttrs (stunParseAttr txn) sizeofStunHeader
      { garbage with
        buf := stunBytes type txn (withFingerprint type txn (tlvs ++ [integrityTlv mac]))
        stunclass := StunClass.ofType type
        stunmethod := stunMethodOfType type } tlvs = some parsed)
    : ∃ fingerprint, stunParseMsgBuf
          { garbage with buf := stunBytes type txn (withFingerprint type txn (tlvs ++ [integrityTlv mac])) }
        = some { parsed with messageIntegrity := mac.toList, fingerprint := fingerprint } := by
  rw [stunParseMsgBuf_stunBytes hid hfits]
  unfold withFingerprint at hparse ⊢
  rw [List.append_assoc tlvs]
  rw [List.append_assoc tlvs] at hparse
  rw [foldAttrs_append _ hparse]
  rw [List.singleton_append]
  rw [foldAttrs_cons _ (stunParseAttr_integrity mac)]
  rw [foldAttrs_cons _ (stunParseAttr_fingerprint _)]
  exact ⟨_, rfl⟩

end Messages

/-
The ufrags fit into their arrays.
-/
def iceUfragLength : Nat := 256

structure Agent.UfragsFit (agent : Agent) : Prop where
  remoteUfrag : agent.remoteUfrag.length ≤ iceUfragLength
  localUfrag : agent.localUfrag.length ≤ iceUfragLength

section Binding

variable {hmacSha1 : List Byte → List Byte → Option (Vector Byte 20)} {md5 : List Byte → Vector Byte 16}

def requestType : BitVec 16 := StunClass.request.val ||| StunMethod.binding.val

def responseType : BitVec 16 := StunClass.response.val ||| StunMethod.binding.val

theorem length_xorMappedAddress_le (reserved : Byte) (mask : List Byte) (addr : Address)
    : (stunSetMappedAddress reserved mask addr).length ≤ 20 := by
  rw [length_stunSetMappedAddress]
  split
  . apply Nat.le_refl
  . decide

theorem stunAddressAttrIsValid_written {attr : StunAttrType} {pos : Nat} (reserved : Byte) (mask : List Byte)
    (addr : Address) (h : (stunSetMappedAddress reserved mask addr).length < 2 ^ 16)
    : stunAddressAttrIsValid (stunAttribute pos (writtenTlv attr (stunSetMappedAddress reserved mask addr) h))
        = true := by
  have hlength : (stunAttribute pos (writtenTlv attr (stunSetMappedAddress reserved mask addr) h)).length.toNat
      = (stunSetMappedAddress reserved mask addr).length := Tlv.toNat_length _
  have hvalue : (stunAttribute pos (writtenTlv attr (stunSetMappedAddress reserved mask addr) h)).value
      = stunSetMappedAddress reserved mask addr := rfl
  unfold stunAddressAttrIsValid
  rw [hlength, hvalue]
  rw [length_stunSetMappedAddress]
  unfold stunSetMappedAddress
  cases addr.family <;> simp [stunFamilyIpv4, stunFamilyIpv6]

variable (hmacSha1 md5) in
/-
The response to a request.
-/
theorem agentCreateBindingResponse_eq {agent : Agent} (hufrags : agent.UfragsFit) {input : SendInput}
    {fresh : Vector Byte 12} (hfresh : input.transactionId = some fresh) (addr : Address)
    (htotal : ∀ message key, (hmacSha1 message key).isSome)
    : ∃ response value username hvalue husername mac,
        agentCreateBindingResponse hmacSha1 md5 agent input addr = some response
        ∧ value = stunSetMappedAddress input.reserved (stunXorMask agent.transactionId.toList) addr
        ∧ response.buf = stunBytes responseType agent.transactionId.toList
            (withFingerprint responseType agent.transactionId.toList
              ([writtenTlv .xorMappedAddress value hvalue, writtenTlv .username username husername]
                ++ [integrityTlv mac]))
        ∧ response.buf.length ≤ stunAttrBufSize
        ∧ stunMsgIsValid hmacSha1 response.buf agent.localUpwd = true := by
  have haddress := length_xorMappedAddress_le input.reserved (stunXorMask agent.transactionId.toList) addr
  generalize hvalue : stunSetMappedAddress input.reserved (stunXorMask agent.transactionId.toList) addr = value
  rw [hvalue] at haddress
  have husername : (agent.localUfrag ++ [colon] ++ agent.remoteUfrag).length ≤ 513 := by
    have hremote := hufrags.remoteUfrag
    have hlocal := hufrags.localUfrag
    unfold iceUfragLength at hremote hlocal
    simp
    omega
  generalize hname : agent.localUfrag ++ [colon] ++ agent.remoteUfrag = username at husername
  have hdraft : Draft responseType agent.transactionId.toList []
      { blankMessage with
        buf := setTransactionId (stunHeader responseType 0 fresh.toList) agent.transactionId.toList } := by
    have hset : setTransactionId (stunHeader responseType 0 fresh.toList) agent.transactionId.toList
        = stunBytes responseType agent.transactionId.toList [] := by
      unfold setTransactionId stunHeader stunBytes
      rw [List.take_left' (by simp)]
      rw [List.drop_eq_nil_of_le (by simp)]
      simp [stunHeader]
    refine ⟨by simp, hset, ?_⟩
    change (setTransactionId (stunHeader responseType 0 fresh.toList) agent.transactionId.toList).length ≤ _
    rw [hset, length_stunBytes (by simp)]
    decide
  have hvalue16 : value.length < 2 ^ 16 := by
    omega
  have husername16 : username.length < 2 ^ 16 := by
    omega
  have hfirst := hdraft.stunWrite .xorMappedAddress hvalue16 (by
    rw [tlvBytes_nil]
    unfold sizeofStunHeader sizeofStunAttribute stunAttrBufSize
    simp
    omega)
  rw [List.nil_append] at hfirst
  have hsecond := hfirst.stunWrite .username husername16 (by
    rw [tlvBytes_cons, tlvBytes_nil, List.append_nil, length_bytes_writtenTlv]
    unfold sizeofStunHeader sizeofStunAttribute stunAttrBufSize
    omega)
  rw [List.singleton_append] at hsecond
  have hplain : ∀ tlv ∈ [writtenTlv .xorMappedAddress value hvalue16, writtenTlv .username username husername16],
      Plain tlv := by
    intro tlv hmem
    simp only [List.mem_cons, List.not_mem_nil, or_false] at hmem
    cases hmem with
    | inl h =>
      rw [h]
      apply plain_writtenTlv <;> simp
    | inr h =>
      rw [h]
      apply plain_writtenTlv <;> simp
  obtain ⟨mac, hbuf, hfits, hvalid⟩ := hsecond.finished hmacSha1 md5 hplain agent.localUpwd (by
    rw [tlvBytes_cons, tlvBytes_cons, tlvBytes_nil, List.append_nil, List.length_append,
      length_bytes_writtenTlv, length_bytes_writtenTlv]
    unfold sizeofStunHeader sizeofStunAttribute stunAttrBufSize
    omega) htotal
  refine ⟨_, value, username, hvalue16, husername16, mac, ?_, rfl, hbuf, ?_, hvalid⟩
  . unfold agentCreateBindingResponse
    simp only [hfresh, stunMsgCreate, hvalue, hname]
    rfl
  . rw [hbuf]
    exact hfits

/-
An attribute without a value.
-/
theorem length_nil_lt : ([] : List Byte).length < 2 ^ 16 := by
  decide

theorem Draft.writeEmpty {type : BitVec 16} {txn : List Byte} {tlvs : List Tlv} {msg : StunMessage}
    (h : Draft type txn tlvs msg) (attr : StunAttrType)
    (hroom : sizeofStunHeader + (tlvBytes tlvs).length + sizeofStunAttribute ≤ stunAttrBufSize)
    : Draft type txn (tlvs ++ [writtenTlv attr [] length_nil_lt]) (stunMsgWriteAttr msg attr 0 none).2 := by
  have hlength := h.length_buf
  have hok : (stunMsgWriteAttr msg attr 0 none).1 = true := by
    unfold stunMsgWriteAttr
    dsimp only
    rw [if_neg]
    . cases attr <;> rfl
    . unfold size
      unfold sizeofStunHeader sizeofStunAttribute stunAttrBufSize at *
      simp
      omega
  apply h.written hok
  . rfl
  . rfl

theorem parse_username_ignored {txn : List Byte} {username : List Byte} {husername : username.length < 2 ^ 16}
    {rest : List Tlv}
    (hrest : ∀ tlv ∈ rest, ∀ (msg : StunMessage) (pos : Nat),
      stunParseAttr txn msg (stunAttribute pos tlv) = some msg) (msg : StunMessage) (pos : Nat)
    : foldAttrs (stunParseAttr txn) pos msg (writtenTlv .username username husername :: rest)
        = some { msg with username := copyString sizeofUsername username } := by
  rw [foldAttrs_cons _ stunParseAttr_username]
  generalize pos + (writtenTlv .username username husername).bytes.length = pos'
  generalize ({ msg with username := copyString sizeofUsername username } : StunMessage) = named
  induction rest generalizing pos' with
  | nil => rfl
  | cons tlv rest ih =>
    rw [foldAttrs_cons _ (hrest tlv (by simp) named pos')]
    apply ih
    intro tlv' hmem
    apply hrest
    simp [hmem]

variable (hmacSha1 md5) in
/-
The request for a pair.
-/
theorem agentCreateBindingRequest_eq {agent : Agent} (hufrags : agent.UfragsFit) (i : Nat) {input : SendInput}
    {fresh : Vector Byte 12} (hfresh : input.transactionId = some fresh)
    (htotal : ∀ message key, (hmacSha1 message key).isSome)
    : ∃ request username husername rest mac,
        agentCreateBindingRequest hmacSha1 md5 agent i input = some request
        ∧ request.buf = stunBytes requestType fresh.toList
            (withFingerprint requestType fresh.toList
              ((writtenTlv .username username husername :: rest) ++ [integrityTlv mac]))
        ∧ (∀ tlv ∈ rest, ∀ (msg : StunMessage) (pos : Nat),
            stunParseAttr fresh.toList msg (stunAttribute pos tlv) = some msg)
        ∧ request.buf.length ≤ stunAttrBufSize
        ∧ stunMsgIsValid hmacSha1 request.buf agent.remoteUpwd = true := by
  have husername : (agent.remoteUfrag ++ [colon] ++ agent.localUfrag).length ≤ 513 := by
    have hremote := hufrags.remoteUfrag
    have hlocal := hufrags.localUfrag
    unfold iceUfragLength at hremote hlocal
    simp
    omega
  generalize hname : agent.remoteUfrag ++ [colon] ++ agent.localUfrag = username at husername
  have husername16 : username.length < 2 ^ 16 := by
    omega
  have hpriority : (bigEndian32 (agent.localOf i).priority).length = 4 := by
    simp
  generalize hbytes : bigEndian32 (agent.localOf i).priority = priority at hpriority
  have hpriority16 : priority.length < 2 ^ 16 := by
    omega
  have hdraft := stunMsgCreate_draft blankMessage requestType fresh
  have hfirst := hdraft.stunWrite .username husername16 (by
    rw [tlvBytes_nil]
    unfold sizeofStunHeader sizeofStunAttribute stunAttrBufSize
    simp
    omega)
  have hsecond := hfirst.stunWrite .priority hpriority16 (by
    simp only [List.nil_append, tlvBytes_cons, tlvBytes_nil, List.append_nil, length_bytes_writtenTlv,
      hpriority]
    unfold sizeofStunHeader sizeofStunAttribute stunAttrBufSize
    omega)
  have htie : tieBreaker.length = 8 := rfl
  have htie16 : tieBreaker.length < 2 ^ 16 := by
    omega
  -- what follows the username says which role the agent has
  have hrole : ∃ rest msg, Draft requestType fresh.toList (writtenTlv .username username husername16 :: rest) msg
      ∧ (∀ tlv ∈ rest, Plain tlv ∧ ∀ (msg : StunMessage) (pos : Nat),
          stunParseAttr fresh.toList msg (stunAttribute pos tlv) = some msg)
      ∧ (tlvBytes rest).length ≤ 24
      ∧ agentCreateBindingRequest hmacSha1 md5 agent i input
          = some (stunMsgFinish hmacSha1 md5 msg .shortTerm agent.remoteUpwd).2 := by
    cases hmode : agent.mode with
    | controlling =>
      have hthird := hsecond.writeEmpty .useCandidate (by
        simp only [List.nil_append, tlvBytes_append, tlvBytes_cons, tlvBytes_nil, List.append_nil,
          List.length_append, length_bytes_writtenTlv, hpriority]
        unfold sizeofStunHeader sizeofStunAttribute stunAttrBufSize
        omega)
      have hfourth := hthird.stunWrite .iceControlling htie16 (by
        simp only [List.nil_append, tlvBytes_append, tlvBytes_cons, tlvBytes_nil, List.append_nil,
          List.length_append, length_bytes_writtenTlv, hpriority, htie, List.length_nil]
        unfold sizeofStunHeader sizeofStunAttribute stunAttrBufSize
        omega)
      refine ⟨[writtenTlv .priority priority hpriority16,
        writtenTlv .useCandidate [] length_nil_lt, writtenTlv .iceControlling tieBreaker htie16],
        _, by simpa using hfourth, ?_, ?_, ?_⟩
      . intro tlv hmem
        simp only [List.mem_cons, List.not_mem_nil, or_false] at hmem
        rcases hmem with h | h | h
        all_goals
          rw [h]
          exact ⟨plain_writtenTlv _ (by simp) (by simp), fun _ _ => stunParseAttr_ignored (by simp)⟩
      . simp only [tlvBytes_cons, tlvBytes_nil, List.append_nil, List.length_append, length_bytes_writtenTlv,
          hpriority, htie, List.length_nil]
        decide
      . unfold agentCreateBindingRequest
        simp only [hfresh, stunMsgCreate, hname, hbytes, hmode]
        rfl
    | controlled =>
      have hthird := hsecond.stunWrite .iceControlled htie16 (by
        simp only [List.nil_append, tlvBytes_append, tlvBytes_cons, tlvBytes_nil, List.append_nil,
          List.length_append, length_bytes_writtenTlv, hpriority, htie]
        unfold sizeofStunHeader sizeofStunAttribute stunAttrBufSize
        omega)
      refine ⟨[writtenTlv .priority priority hpriority16,
        writtenTlv .iceControlled tieBreaker htie16], _, by simpa using hthird, ?_, ?_, ?_⟩
      . intro tlv hmem
        simp only [List.mem_cons, List.not_mem_nil, or_false] at hmem
        rcases hmem with h | h
        all_goals
          rw [h]
          exact ⟨plain_writtenTlv _ (by simp) (by simp), fun _ _ => stunParseAttr_ignored (by simp)⟩
      . simp only [tlvBytes_cons, tlvBytes_nil, List.append_nil, List.length_append, length_bytes_writtenTlv,
          hpriority, htie]
        decide
      . unfold agentCreateBindingRequest
        simp only [hfresh, stunMsgCreate, hname, hbytes, hmode]
        rfl
  obtain ⟨rest, msg, hmsg, hrest, hsize, hrequest⟩ := hrole
  obtain ⟨mac, hbuf, hfits, hvalid⟩ := hmsg.finished hmacSha1 md5 (by
    intro tlv hmem
    cases List.mem_cons.mp hmem with
    | inl h =>
      rw [h]
      exact plain_writtenTlv _ (by simp) (by simp)
    | inr h => exact (hrest tlv h).1) agent.remoteUpwd (by
    rw [tlvBytes_cons, List.length_append, length_bytes_writtenTlv]
    unfold sizeofStunHeader sizeofStunAttribute stunAttrBufSize
    omega) htotal
  refine ⟨_, username, husername16, rest, mac, hrequest, hbuf, fun tlv hmem => (hrest tlv hmem).2, ?_, hvalid⟩
  rw [hbuf]
  exact hfits

theorem vector_ofFn_getD (v : Vector Byte 12) : (Vector.ofFn fun i : Fin 12 => v.toList.getD i 0) = v := by
  apply Vector.ext
  intro i hi
  simp [List.getD_eq_getElem?_getD]

theorem agentReceived_direct {agent : Agent} (hdirect : agent.turn.relayReady = false) (garbage : StunMessage)
    (datagram : Datagram) : agentReceived agent garbage datagram = some datagram := by
  unfold agentReceived
  simp [hdirect]

theorem agentSendTo_direct {agent : Agent} (hdirect : agent.turn.relayReady = false) (input : SendInput)
    (buf : List Byte) (addr : Address) : agentSendTo agent input buf addr = [⟨addr, buf⟩] := by
  unfold agentSendTo agentIsRelayActive
  simp [hdirect]

/-
What becomes of a request at the agent it is for.
-/
theorem agentRecv_request {a b : Agent} (ha : a.UfragsFit) (hb : b.UfragsFit)
    (hpassword : a.remoteUpwd = b.localUpwd) (hdirect : b.turn.relayReady = false)
    (htotal : ∀ message key, (hmacSha1 message key).isSome) {i : Nat} {send : SendInput} {fresh : Vector Byte 12}
    (hfresh : send.transactionId = some fresh) {request : StunMessage}
    (hrequest : agentCreateBindingRequest hmacSha1 md5 a i send = some request) {src : Address} {input : RecvInput}
    (hinput : input.datagram = some ⟨src, request.buf⟩) {fresh' : Vector Byte 12}
    (hfresh' : input.send.transactionId = some fresh')
    : ∃ response, agentCreateBindingResponse hmacSha1 md5 { b with transactionId := fresh } input.send src
          = some response
        ∧ (agentRecv hmacSha1 md5 b input).2.1 = [⟨src, response.buf⟩]
        ∧ transactionId request.buf = fresh.toList := by
  obtain ⟨request', username, husername, rest, mac, hsame, hbuf, hrest, hfits, hvalid⟩ :=
    agentCreateBindingRequest_eq hmacSha1 md5 ha i hfresh htotal
  rw [hrequest] at hsame
  rw [← Option.some.inj hsame] at hbuf hfits hvalid
  have hlength : fresh.toList.length = 12 := by
    simp
  have htxn : transactionId request.buf = fresh.toList := by
    rw [hbuf]
    apply transactionId_stunHeader _ _ _ hlength
  have hprobe : stunProbe request.buf = true := by
    rw [hbuf]
    apply stunProbe_stunHeader _ _ _ hlength
  have htype : headerType request.buf = requestType := by
    rw [hbuf]
    apply headerType_stunHeader
  have hparse : ∃ msg, stunParseMsgBuf { input.garbage with buf := request.buf } = some msg := by
    obtain ⟨fingerprint, hparsed⟩ := parse_finished hlength mac
      (by rw [← hbuf]; exact hfits) (parse_username_ignored hrest _ _)
    rw [← hbuf] at hparsed
    exact ⟨_, hparsed⟩
  obtain ⟨msg, hmsg⟩ := hparse
  have hheader := stunParseMsgBuf_header hmsg
  dsimp only at hheader
  rw [htype] at hheader
  have hclass : msg.stunclass = .request := by
    rw [hheader.2.1]
    decide
  have hmethod : msg.stunmethod = StunMethod.binding.val := by
    rw [hheader.2.2]
    decide
  have hb' : ({ b with transactionId := fresh } : Agent).UfragsFit := ⟨hb.remoteUfrag, hb.localUfrag⟩
  obtain ⟨response, _, _, _, _, _, hresponse, _⟩ :=
    agentCreateBindingResponse_eq hmacSha1 md5 hb' hfresh' src htotal
  refine ⟨response, hresponse, ?_, htxn⟩
  unfold agentRecv
  simp only [hinput, agentReceived_direct hdirect, hprobe, if_true]
  rw [if_neg (by omega)]
  simp only [hmsg, hclass]
  unfold agentProcessStunRequest
  rw [if_pos hmethod]
  rw [hpassword] at hvalid
  rw [hheader.1]
  rw [if_pos hvalid]
  simp only [htxn, vector_ofFn_getD, hresponse]
  apply agentSendTo_direct
  exact hdirect

variable (hmacSha1 md5) in
/-
What becomes of a response at the agent that has asked for it: of the pairs under way whose remote address it has
come from the first one has succeeded.
-/
theorem agentRecv_response {a b : Agent} (hb : b.UfragsFit) (hpassword : a.remoteUpwd = b.localUpwd)
    (hdirect : a.turn.relayReady = false) (htotal : ∀ message key, (hmacSha1 message key).isSome)
    {send : SendInput} {fresh : Vector Byte 12} (hfresh : send.transactionId = some fresh) {src : Address}
    (hsrc : src.family ≠ .unspec) {response : StunMessage}
    (hresponse : agentCreateBindingResponse hmacSha1 md5 b send src = some response)
    : transactionId response.buf = b.transactionId.toList
        ∧ (∀ garbage : StunMessage, ∃ parsed, stunParseMsgBuf { garbage with buf := response.buf } = some parsed
          ∧ addrEqual parsed.mappedAddr src = true)
        ∧ ∀ (input : RecvInput) (dst : Address), input.datagram = some ⟨dst, response.buf⟩ →
          ∀ j ∈ a.activePairs, (a.pair j).state = .inprogress → addrEqual (a.remoteOf j).addr dst = true →
          (∀ j ∈ a.activePairs, j < a.candidatePairs.length) →
          ∃ j ∈ a.activePairs, (a.pair j).state = .inprogress ∧ addrEqual (a.remoteOf j).addr dst = true
            ∧ ((agentRecv hmacSha1 md5 a input).1.pair j).state = .succeeded := by
  obtain ⟨response', value, username, hvalue, husername, mac, hsame, hwritten, hbuf, hfits, hvalid⟩ :=
    agentCreateBindingResponse_eq hmacSha1 md5 hb hfresh src htotal
  rw [hresponse] at hsame
  rw [← Option.some.inj hsame] at hbuf hfits hvalid
  have hlength : b.transactionId.toList.length = 12 := by
    simp
  have htxn : transactionId response.buf = b.transactionId.toList := by
    rw [hbuf]
    apply transactionId_stunHeader _ _ _ hlength
  have hprobe : stunProbe response.buf = true := by
    rw [hbuf]
    apply stunProbe_stunHeader _ _ _ hlength
  have htype : headerType response.buf = responseType := by
    rw [hbuf]
    apply headerType_stunHeader
  have hparse : ∀ garbage : StunMessage, ∃ parsed,
      stunParseMsgBuf { garbage with buf := response.buf } = some parsed
        ∧ addrEqual parsed.mappedAddr src = true := by
    intro garbage
    have hmapped : ∀ (msg : StunMessage) (pos : Nat), stunParseAttr b.transactionId.toList msg
        (stunAttribute pos (writtenTlv .xorMappedAddress value hvalue))
        = some { msg with
            mappedAddr := stunGetMappedAddress value (stunXorMask b.transactionId.toList) msg.mappedAddr } := by
      intro msg pos
      have hattr : stunAddressAttrIsValid (stunAttribute pos (writtenTlv .xorMappedAddress value hvalue)) = true := by
        revert hvalue
        rw [hwritten]
        intro hvalue _
        apply stunAddressAttrIsValid_written
      have hofVal : StunAttrType.ofVal? (stunAttribute pos (writtenTlv .xorMappedAddress value hvalue)).type
          = some .xorMappedAddress := StunAttrType.ofVal?_val .xorMappedAddress
      unfold stunParseAttr
      simp only [hofVal]
      rw [if_neg (by simp [hattr])]
      rfl
    have hfold : ∀ (msg : StunMessage) (pos : Nat), foldAttrs (stunParseAttr b.transactionId.toList) pos msg
        [writtenTlv .xorMappedAddress value hvalue, writtenTlv .username username husername]
        = some { msg with
            mappedAddr := stunGetMappedAddress value (stunXorMask b.transactionId.toList) msg.mappedAddr
            username := copyString sizeofUsername username } := by
      intro msg pos
      rw [foldAttrs_cons _ (hmapped msg pos)]
      rw [foldAttrs_cons _ stunParseAttr_username]
      rfl
    obtain ⟨fingerprint, hparsed⟩ := parse_finished hlength mac
      (by rw [← hbuf]; exact hfits) (hfold _ _)
    rw [← hbuf] at hparsed
    refine ⟨_, hparsed, ?_⟩
    simp only [hwritten]
    apply stunGetMappedAddress_stunSetMappedAddress _ _ hsrc
  refine ⟨htxn, hparse, ?_⟩
  intro input dst hinput j hj hstate haddr hinside
  obtain ⟨msg, hmsg, _⟩ := hparse input.garbage
  have hheader := stunParseMsgBuf_header hmsg
  dsimp only at hheader
  rw [htype] at hheader
  have hclass : msg.stunclass = .response := by
    rw [hheader.2.1]
    decide
  have hmethod : msg.stunmethod = StunMethod.binding.val := by
    rw [hheader.2.2]
    decide
  have hrecv : (agentRecv hmacSha1 md5 a input).1 = agentProcessStunResponse hmacSha1 a input.now msg dst := by
    unfold agentRecv
    simp only [hinput, agentReceived_direct hdirect, hprobe, if_true]
    rw [if_neg (by omega)]
    simp only [hmsg, hclass]
  rw [hrecv]
  unfold agentProcessStunResponse
  rw [if_pos hmethod]
  rw [hheader.1, hpassword]
  rw [if_pos hvalid]
  have hfound : (a.activePairs.find? fun i =>
      (a.pair i).state = .inprogress && addrEqual (a.remoteOf i).addr dst).isSome := by
    rw [List.find?_isSome]
    exact ⟨j, hj, by simp [hstate, haddr]⟩
  obtain ⟨i, hi⟩ := Option.isSome_iff_exists.mp hfound
  have hmatch := List.find?_some hi
  rw [Bool.and_eq_true, decide_eq_true_iff] at hmatch
  have hmem := List.mem_of_find?_eq_some hi
  refine ⟨i, hmem, hmatch.1, hmatch.2, ?_⟩
  have hset : ((a.setState i .succeeded).pair i).state = .succeeded := by
    unfold Agent.setState
    rw [Agent.pair_setPair_self (hinside i hmem)]
  simp only [hi]
  split
  . exact hset
  . split
    . exact hset
    . exact hset

/-
A check from request to response between two agents that have each other's credentials, and another state of the
first agent to come back to.
-/
theorem binding_exchange (htotal : ∀ message key, (hmacSha1 message key).isSome) {a b : Agent}
    (ha : a.UfragsFit) (hb : b.UfragsFit) (hpassword : a.remoteUpwd = b.localUpwd)
    (hdirect : b.turn.relayReady = false) {i : Nat} {send : SendInput} {fresh : Vector Byte 12}
    (hfresh : send.transactionId = some fresh) {request : StunMessage}
    (hrequest : agentCreateBindingRequest hmacSha1 md5 a i send = some request) {src : Address}
    (hsrc : src.family ≠ .unspec) {input : RecvInput} (hinput : input.datagram = some ⟨src, request.buf⟩)
    {fresh' : Vector Byte 12} (hfresh' : input.send.transactionId = some fresh')
    {later : Agent} (hlater : later.remoteUpwd = a.remoteUpwd) (hlaterDirect : later.turn.relayReady = false)
    (htaken : ∃ k, Taken k later)
    : ∃ response, (agentRecv hmacSha1 md5 b input).2.1 = [⟨src, response⟩]
        ∧ transactionId response = transactionId request.buf
        ∧ (∀ garbage : StunMessage, ∃ parsed, stunParseMsgBuf { garbage with buf := response } = some parsed
          ∧ addrEqual parsed.mappedAddr src = true)
        ∧ ∀ (input' : RecvInput) (dst : Address), input'.datagram = some ⟨dst, response⟩ →
          ∀ j ∈ later.activePairs, (later.pair j).state = .inprogress →
          addrEqual (later.remoteOf j).addr dst = true →
          ∃ j ∈ later.activePairs, addrEqual (later.remoteOf j).addr dst = true
            ∧ (later.pair j).state = .inprogress
            ∧ ((agentRecv hmacSha1 md5 later input').1.pair j).state = .succeeded := by
  obtain ⟨k, htaken⟩ := htaken
  obtain ⟨response, hresponse, hsent, htxn⟩ :=
    agentRecv_request ha hb hpassword hdirect htotal hfresh hrequest hinput hfresh'
  have hb' : ({ b with transactionId := fresh } : Agent).UfragsFit := ⟨hb.remoteUfrag, hb.localUfrag⟩
  obtain ⟨htxn', hparse, hreturn⟩ :=
    agentRecv_response hmacSha1 md5 hb' (hlater.trans hpassword) hlaterDirect htotal hfresh' hsrc hresponse
  refine ⟨response.buf, hsent, htxn'.trans htxn.symm, hparse, ?_⟩
  intro input' dst hinput' j hj hstate haddr
  have hinside : ∀ j ∈ later.activePairs, j < later.candidatePairs.length := by
    intro j hj
    apply Nat.lt_of_lt_of_le (htaken.active_lt j hj)
    apply Nat.le_trans htaken.le_num htaken.num_le
  obtain ⟨j', hj', hstate', haddr', hsucceeded⟩ := hreturn input' dst hinput' j hj hstate haddr hinside
  exact ⟨j', hj', haddr', hstate', hsucceeded⟩

/-
The agent while its requests are under way.
-/
def checkingAgent : Agent :=
  (agentMachine exchangeDigest unusedDigest).final (agentUpdateCandidatePairs offeredAgent) exchangeEvents

def exchangeRequest : Option StunMessage :=
  agentCreateBindingRequest exchangeDigest unusedDigest checkingAgent 0 exchangeSend

theorem binding_exchange_offered
    : ∃ request, exchangeRequest = some request ∧
      let src := (hostCandidate 2 1).addr
      let answered := agentRecv exchangeDigest unusedDigest answeringAgent (exchangeRecv (some ⟨src, request.buf⟩))
      ∃ response, answered.2.1 = [⟨src, response⟩]
        ∧ transactionId response = transactionId request.buf
        ∧ (∀ garbage : StunMessage, ∃ parsed, stunParseMsgBuf { garbage with buf := response } = some parsed
          ∧ addrEqual parsed.mappedAddr src = true)
        ∧ ∀ (input' : RecvInput) (dst : Address), input'.datagram = some ⟨dst, response⟩ →
          ∀ j ∈ checkingAgent.activePairs, (checkingAgent.pair j).state = .inprogress →
          addrEqual (checkingAgent.remoteOf j).addr dst = true →
          ∃ j ∈ checkingAgent.activePairs, addrEqual (checkingAgent.remoteOf j).addr dst = true
            ∧ (checkingAgent.pair j).state = .inprogress
            ∧ ((agentRecv exchangeDigest unusedDigest checkingAgent input').1.pair j).state = .succeeded := by
  have htotal : ∀ message key, (exchangeDigest message key).isSome := by
    intro message key
    unfold exchangeDigest
    split <;> rfl
  have hchecking : checkingAgent.UfragsFit := by
    constructor <;> decide +kernel
  have hanswering : answeringAgent.UfragsFit := by
    constructor <;> decide
  have htaken := (final_done exchangeDigest unusedDigest ⟨0, agentUpdateCandidatePairs_taken offeredAgent⟩
    exchangeEvents).1
  have hsome : exchangeRequest.isSome := by
    decide +kernel
  obtain ⟨request, hrequest⟩ := Option.isSome_iff_exists.mp hsome
  refine ⟨request, hrequest, ?_⟩
  apply binding_exchange htotal hchecking hanswering (by decide +kernel) (by decide) rfl hrequest (by decide) rfl rfl
    rfl (by decide +kernel) htaken

end Binding

section Relay

/-
Data that the server sends over a channel.
-/
theorem agentTurnUnwrap_channelData (agent : Agent) (garbage : StunMessage) {channel : BitVec 16}
    (hchannel : channel &&& 0xc000 = 0x4000) {buf : List Byte} (hne : buf ≠ []) (hfits : buf.length < 2 ^ 16)
    (padding : List Byte) (src : Address)
    : agentTurnUnwrap agent garbage (channelData channel buf padding) src = .data buf agent.turn.peerAddr := by
  have hfirst : (channelData channel buf padding).getD 0 0 &&& 0xc0 = 0x40 := by
    have hbyte : channel.extractLsb' 8 8 &&& 0xc0 = (channel &&& 0xc000).extractLsb' 8 8 := by
      rw [BitVec.extractLsb'_and]
      rfl
    rw [hchannel] at hbyte
    exact hbyte
  have hlength : getBigEndian16 (channelData channel buf padding) 2 = BitVec.ofNat 16 buf.length := by
    unfold channelData
    rw [List.append_assoc, List.append_assoc]
    apply @getBigEndian16_append (bigEndian16 channel) _ rfl
  have hnat : (BitVec.ofNat 16 buf.length).toNat = buf.length := by
    rw [BitVec.toNat_ofNat]
    apply Nat.mod_eq_of_lt hfits
  have hsize : buf.length ≤ (channelData channel buf padding).length - 4 := by
    simp [channelData]
    omega
  have hpos := List.length_pos_iff.mpr hne
  unfold agentTurnUnwrap
  rw [if_pos ⟨by omega, hfirst⟩]
  simp only [hlength, hnat]
  rw [if_neg (by omega)]
  rw [if_neg (by omega)]
  congr 1
  unfold channelData
  rw [List.append_assoc, List.drop_left' (by simp)]
  apply List.take_left' rfl

/-
Data that the server sends in an indication.
-/
theorem agentTurnUnwrap_dataIndication (agent : Agent) (garbage msg : StunMessage) (txn : Vector Byte 12)
    (reserved : Byte) {peer : Address} (hpeer : peer.family ≠ .unspec) {buf : List Byte} (hne : buf ≠ [])
    (hfits : buf.length ≤ configMtu) (src : Address)
    : let created := (stunMsgCreate msg (StunClass.indication.val ||| StunMethod.data.val) (some txn)).2
      let addressed := stunWrite created .xorPeerAddress
        (stunSetMappedAddress reserved (stunXorMask txn.toList) peer)
      ∃ peer', agentTurnUnwrap agent garbage (stunWrite addressed .data buf).buf src = .data buf peer'
        ∧ addrEqual peer' peer = true := by
  intro created addressed
  have haddress := length_xorMappedAddress_le reserved (stunXorMask txn.toList) peer
  have haddress16 : (stunSetMappedAddress reserved (stunXorMask txn.toList) peer).length < 2 ^ 16 := by
    omega
  unfold configMtu at hfits
  have hbuf16 : buf.length < 2 ^ 16 := by
    omega
  have hcreated := stunMsgCreate_draft msg (StunClass.indication.val ||| StunMethod.data.val) txn
  have haddressed := hcreated.stunWrite .xorPeerAddress haddress16 (by
    rw [tlvBytes_nil]
    unfold sizeofStunHeader sizeofStunAttribute stunAttrBufSize
    simp
    omega)
  have hdata := haddressed.stunWrite .data hbuf16 (by
    simp only [List.nil_append, tlvBytes_cons, tlvBytes_nil, List.append_nil, length_bytes_writtenTlv]
    unfold sizeofStunHeader sizeofStunAttribute stunAttrBufSize
    omega)
  rw [List.nil_append, List.singleton_append] at hdata
  have hbuf := hdata.buf_eq
  have hsize := hdata.size_le
  generalize (stunWrite addressed .data buf).buf = bytes at hbuf hsize ⊢
  have hlength : txn.toList.length = 12 := by
    simp
  have hprobe : stunProbe bytes = true := by
    rw [hbuf]
    apply stunProbe_stunHeader _ _ _ hlength
  have hnotChannel : ¬(bytes.length ≥ 4 ∧ bytes.getD 0 0 &&& 0xc0 = 0x40) := by
    intro hand
    have hzero : bytes.getD 0 0 = (StunClass.indication.val ||| StunMethod.data.val).extractLsb' 8 8 := by
      rw [hbuf]
      rfl
    rw [hzero] at hand
    exact absurd hand.2 (by decide)
  have hlong : sizeofStunHeader ≤ bytes.length := by
    rw [hbuf, length_stunBytes hlength]
    omega
  -- the attributes in turn
  have hpeerAttr : ∀ (parsed : StunMessage) (pos : Nat), stunParseAttr txn.toList parsed
      (stunAttribute pos
        (writtenTlv .xorPeerAddress (stunSetMappedAddress reserved (stunXorMask txn.toList) peer) haddress16))
      = some { parsed with
          peerAddr := stunGetMappedAddress (stunSetMappedAddress reserved (stunXorMask txn.toList) peer)
            (stunXorMask txn.toList) parsed.peerAddr } := by
    intro parsed pos
    unfold stunParseAttr
    have hofVal : StunAttrType.ofVal? (stunAttribute pos (writtenTlv .xorPeerAddress
        (stunSetMappedAddress reserved (stunXorMask txn.toList) peer) haddress16)).type
        = some .xorPeerAddress := StunAttrType.ofVal?_val .xorPeerAddress
    simp only [hofVal]
    rw [if_neg (by rw [stunAddressAttrIsValid_written]; simp)]
    rfl
  have hdataAttr : ∀ (parsed : StunMessage) (pos : Nat), stunParseAttr txn.toList parsed
      (stunAttribute pos (writtenTlv .data buf hbuf16))
      = some { parsed with
          dataOffset := BitVec.ofNat 16 (pos + sizeofStunAttribute)
          dataLen := (writtenTlv .data buf hbuf16).length } := by
    intro parsed pos
    unfold stunParseAttr
    have hofVal : StunAttrType.ofVal? (stunAttribute pos (writtenTlv .data buf hbuf16)).type = some .data :=
      StunAttrType.ofVal?_val .data
    simp only [hofVal]
    rfl
  have hwritten := @length_bytes_writtenTlv .xorPeerAddress _ haddress16
  generalize writtenTlv .xorPeerAddress (stunSetMappedAddress reserved (stunXorMask txn.toList) peer)
    haddress16 = first at hbuf hpeerAttr hwritten
  have hparse := @stunParseMsgBuf_stunBytes (StunClass.indication.val ||| StunMethod.data.val) _ hlength _
    (by rw [← hbuf]; exact hsize) garbage
  rw [← hbuf] at hparse
  rw [foldAttrs_cons _ (hpeerAttr _ _)] at hparse
  rw [foldAttrs_cons _ (hdataAttr _ _), foldAttrs_nil] at hparse
  have hoffset : (BitVec.ofNat 16 (sizeofStunHeader + first.bytes.length + sizeofStunAttribute)).toNat
      = sizeofStunHeader + first.bytes.length + sizeofStunAttribute := by
    rw [BitVec.toNat_ofNat]
    apply Nat.mod_eq_of_lt
    unfold sizeofStunHeader sizeofStunAttribute at *
    omega
  have hlen : (writtenTlv .data buf hbuf16).length.toNat = buf.length := Tlv.toNat_length _
  have hsplit : bytes = (stunHeader (StunClass.indication.val ||| StunMethod.data.val)
      (BitVec.ofNat 16 (tlvBytes [first, writtenTlv .data buf hbuf16]).length) txn.toList ++ first.bytes)
      ++ ((writtenTlv .data buf hbuf16).bytes ++ []) := by
    rw [hbuf]
    simp [stunBytes]
  have hvalue : (bytes.drop (sizeofStunHeader + first.bytes.length + sizeofStunAttribute)).take buf.length
      = buf := by
    have hfront : (stunHeader (StunClass.indication.val ||| StunMethod.data.val)
        (BitVec.ofNat 16 (tlvBytes [first, writtenTlv .data buf hbuf16]).length) txn.toList
        ++ first.bytes).length = sizeofStunHeader + first.bytes.length := by
      rw [List.length_append, length_stunHeader _ _ hlength]
    have hdataValue := Tlv.value_eq hfront (writtenTlv .data buf hbuf16) []
    rw [← hsplit] at hdataValue
    exact hdataValue
  have hinside : sizeofStunHeader + first.bytes.length + sizeofStunAttribute + buf.length ≤ bytes.length := by
    rw [hsplit]
    rw [List.append_nil, List.length_append, List.length_append, length_stunHeader _ _ hlength,
      length_bytes_writtenTlv]
    omega
  have hpos := List.length_pos_iff.mpr hne
  have hclass : StunClass.ofType (StunClass.indication.val ||| StunMethod.data.val) = .indication := by
    decide
  have hmethod : stunMethodOfType (StunClass.indication.val ||| StunMethod.data.val) = StunMethod.data.val := by
    decide
  refine ⟨_, ?_, stunGetMappedAddress_stunSetMappedAddress reserved (stunXorMask txn.toList) hpeer
    garbage.peerAddr⟩
  unfold agentTurnUnwrap
  rw [if_neg hnotChannel]
  rw [if_pos ⟨hlong, hprobe⟩]
  rw [if_neg (by omega)]
  rw [hparse]
  simp only [hclass, hmethod, hoffset, hlen, hvalue]
  rw [if_pos ⟨trivial, trivial, hpos, hinside⟩]

theorem length_of_unwrapped {agent : Agent} {garbage : StunMessage} {buf data : List Byte} {src peer : Address}
    (h : agentTurnUnwrap agent garbage buf src = .data data peer) : 4 ≤ buf.length := by
  unfold agentTurnUnwrap at h
  split at h
  . next hchannel => exact hchannel.1
  . split at h
    . next hstun =>
      have hheader := hstun.1
      unfold sizeofStunHeader at hheader
      omega
    . contradiction

theorem agentReceived_unwrapped {agent : Agent} {garbage : StunMessage} {buf data : List Byte} {src peer : Address}
    (hready : agent.turn.relayReady = true) (h : agentTurnUnwrap agent garbage buf src = .data data peer)
    : agentReceived agent garbage ⟨src, buf⟩ = some ⟨peer, data⟩ := by
  have hlength := length_of_unwrapped h
  unfold agentReceived
  simp [hready, hlength, h]

/-
What a peer sends through the relay arrives as it is, over a channel or in an indication.
-/
theorem agentReceived_relayed {agent : Agent} (hready : agent.turn.relayReady = true) (garbage msg : StunMessage)
    {channel : BitVec 16} (hchannel : channel &&& 0xc000 = 0x4000) (padding : List Byte) (reserved : Byte)
    (txn : Vector Byte 12) {peer : Address} (hpeer : peer.family ≠ .unspec) {buf : List Byte} (hne : buf ≠ [])
    (hfits : buf.length ≤ configMtu) (src : Address)
    : let created := (stunMsgCreate msg (StunClass.indication.val ||| StunMethod.data.val) (some txn)).2
      let addressed := stunWrite created .xorPeerAddress
        (stunSetMappedAddress reserved (stunXorMask txn.toList) peer)
      let indication := stunWrite addressed .data buf
      agentReceived agent garbage ⟨src, channelData channel buf padding⟩ = some ⟨agent.turn.peerAddr, buf⟩
        ∧ ∃ peer', agentReceived agent garbage ⟨src, indication.buf⟩ = some ⟨peer', buf⟩
          ∧ addrEqual peer' peer = true := by
  intro created addressed indication
  have hshort : buf.length < 2 ^ 16 := by
    unfold configMtu at hfits
    omega
  constructor
  . apply agentReceived_unwrapped hready
    apply agentTurnUnwrap_channelData agent garbage hchannel hne hshort
  . obtain ⟨peer', hdata, hsame⟩ :=
      agentTurnUnwrap_dataIndication agent garbage msg txn reserved hpeer hne hfits src
    exact ⟨peer', agentReceived_unwrapped hready hdata, hsame⟩

def relayedAgent : Agent :=
  { offeredAgent with turn := ⟨(hostCandidate 9 1).addr, (hostCandidate 4 2).addr, true, 0x4000, true⟩ }

theorem agentReceived_relayed_byte
    : let created := (stunMsgCreate blankMessage (StunClass.indication.val ||| StunMethod.data.val)
        (some exampleTransactionId)).2
      let addressed := stunWrite created .xorPeerAddress
        (stunSetMappedAddress 0x00 (stunXorMask exampleTransactionId.toList) (hostCandidate 4 2).addr)
      let indication := stunWrite addressed .data [0x80]
      let src := (hostCandidate 9 1).addr
      agentReceived relayedAgent blankMessage ⟨src, channelData 0x4000 [0x80] [0x11, 0x22, 0x33]⟩
          = some ⟨relayedAgent.turn.peerAddr, [0x80]⟩
        ∧ ∃ peer', agentReceived relayedAgent blankMessage ⟨src, indication.buf⟩ = some ⟨peer', [0x80]⟩
          ∧ addrEqual peer' (hostCandidate 4 2).addr = true := by
  apply agentReceived_relayed <;> decide

end Relay

end Peer

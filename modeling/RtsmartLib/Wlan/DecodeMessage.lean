import RtsmartLib.Wlan.DecodeExact

/-!
This module contains the agreement of the decoding of bytes with the decoding of messages that have been
taken apart into a header and a payload.
-/

namespace Wlan

open Lib Posix

def Message.ofBytes (message : List Byte) : Message :=
  ⟨rtwoCtrlHeader.read message, payloadOf message⟩

/-
A number is read at the same place either way.
-/
theorem u8_eq (payload : List Byte) (offset : Nat)
    : u8 payload offset = Layout.byte.read (payload.drop offset) := by
  unfold u8 Layout.byte
  dsimp only
  rw [List.headD_eq_head?_getD, List.head?_drop, List.getD_eq_getElem?_getD]

theorem u16_eq (payload : List Byte) (offset : Nat)
    : u16 payload offset = Layout.word16.read (payload.drop offset) := by
  unfold u16
  rw [u8_eq, u8_eq, ← List.drop_drop]
  rfl

theorem u32_eq (payload : List Byte) (offset : Nat)
    : u32 payload offset = Layout.word32.read (payload.drop offset) := by
  unfold u32
  rw [u16_eq, u16_eq, ← List.drop_drop]
  rfl

theorem u64_eq (payload : List Byte) (offset : Nat)
    : u64 payload offset = Layout.word64.read (payload.drop offset) := by
  unfold u64
  rw [u32_eq, u32_eq, ← List.drop_drop]
  rfl

theorem rtwoCtrlNetwork_fields (payload : List Byte)
    : let wire := rtwoCtrlNetwork.read payload
      wire.ssid.length = u8 payload 0
        ∧ wire.iesLength = u16 payload 64
        ∧ wire.channel = rtwoCtrlChannel.read (payload.drop 40)
        ∧ wire.rssi = u16 payload 52
        ∧ wire.security = u32 payload 56
        ∧ wire.beaconInterval = u16 payload 60
        ∧ wire.capability = u16 payload 62 := by
  simp only [rtwoCtrlNetwork, Layout.map, Layout.seq, List.drop_drop, u8_eq, u16_eq, u32_eq]
  exact ⟨rfl, rfl, rfl, rfl, rfl, rfl, rfl⟩

variable {message : List Byte}

theorem loadBytes_at {offset length : Nat} (h : headerSize + offset + length ≤ message.length)
    : loadBytes message (headerSize + offset) length = some (bytes (payloadOf message) offset length) := by
  unfold loadBytes bytes payloadOf
  rw [if_pos h, List.drop_drop]

theorem bytes_eq {payload : List Byte} {offset n : Nat} (h : offset + n ≤ payload.length)
    : bytes payload offset n = ((Layout.byte.array n).read (payload.drop offset)).toList := by
  have hn : n ≤ (payload.drop offset).length := by
    rw [List.length_drop]
    omega
  rw [Layout.array_byte_read hn]
  rfl

theorem sized_eq {α : Type} {layout : Layout α} {rest : α → Option (Except Int EventData)}
    {decoded : Except Int EventData} (hheader : headerSize ≤ message.length)
    (h : (payloadOf message).length = layout.size → message.length = headerSize + layout.size →
      rest (layout.read (payloadOf message)) = some decoded)
    : (if message.length ≠ headerSize + layout.size then
          some (.error (-eproto))
        else
          load layout message headerSize >>= rest)
        = some (if (payloadOf message).length ≠ layout.size then .error (-eproto) else decoded) := by
  by_cases hlength : message.length = headerSize + layout.size
  . have hpayload := (payloadOf_length hheader).mpr hlength
    rw [if_neg (not_not.mpr hlength), if_neg (not_not.mpr hpayload),
      load_at (Nat.le_of_eq hlength.symm)]
    exact h hpayload hlength
  . have hpayload := fun h => hlength ((payloadOf_length hheader).mp h)
    rw [if_pos hlength, if_pos hpayload]

theorem guarded_eq {c : Prop} [Decidable c] {rest : Option (Except Int EventData)}
    {decoded : Except Int EventData} (h : ¬c → rest = some decoded)
    : (if c then some (.error (-eproto)) else rest) = some (if c then .error (-eproto) else decoded) := by
  by_cases hc : c
  . rw [if_pos hc, if_pos hc]
  . rw [if_neg hc, if_neg hc, h hc]

theorem channelFromWire_error {wire : RtwoCtrlChannel} {allowUnspecified : Bool} {ret : Int}
    (h : wlanOffloadChannelFromWire wire allowUnspecified = .error ret)
    : ret = -eproto := by
  unfold wlanOffloadChannelFromWire at h
  split at h
  . cases h
    rfl
  . split at h
    . cases h
      rfl
    . cases h

theorem channel_eq (wire : RtwoCtrlChannel) (event : WlanOffloadChannel → EventData)
    {rest : WlanOffloadChannel → Option (Except Int EventData)}
    (h : ∀ channel, rest channel = some (.ok (event channel)))
    : (match wlanOffloadChannelFromWire wire false with
        | .error _ => some (.error (-eproto))
        | .ok channel => rest channel)
        = some (match wlanOffloadChannelFromWire wire false with
          | .error ret => .error ret
          | .ok channel => .ok (event channel)) := by
  cases hwire : wlanOffloadChannelFromWire wire false with
  | error ret =>
    rw [channelFromWire_error hwire]
  | ok channel => exact h channel

theorem loadNetwork_eq (hheader : headerSize ≤ message.length)
    : loadNetwork message = some (decodeScanResult (payloadOf message)) := by
  unfold loadNetwork decodeScanResult
  apply sized_eq hheader
  intro hpayload hlength
  have hsize : message.length = headerSize + 1092 := hlength
  have ⟨hssid, hies, hchannel, hrssi, hsecurity, hbeacon, hcapability⟩ :=
    rtwoCtrlNetwork_fields (payloadOf message)
  have hbssid : bytes (payloadOf message) 33 6
      = (rtwoCtrlNetwork.read (payloadOf message)).bssid.toList := by
    apply bytes_eq
    rw [hpayload]
    decide
  rw [hbssid, hssid, hies, hchannel, hrssi, hsecurity, hbeacon, hcapability]
  apply guarded_eq
  intro hbounds
  have hlimits : (u8 (payloadOf message) 0).toNat ≤ 32 ∧ (u16 (payloadOf message) 64).toNat ≤ 1024 := by
    have ⟨hfirst, hsecond⟩ := not_or.mp hbounds
    exact ⟨Nat.le_of_not_lt hfirst, Nat.le_of_not_lt hsecond⟩
  rw [loadBytes_at (by omega), loadBytes_at (by omega)]
  exact channel_eq _ _ fun _ => rfl

theorem loadDisconnected_eq (hheader : headerSize ≤ message.length)
    : loadDisconnected message = some (decodeDisconnected (payloadOf message)) := by
  unfold loadDisconnected decodeDisconnected
  apply sized_eq hheader
  intro hpayload hlength
  have hbssid : bytes (payloadOf message) 0 6
      = (rtwoCtrlDisconnected.read (payloadOf message)).bssid.toList := by
    apply bytes_eq
    rw [hpayload]
    decide
  rw [hbssid, u16_eq, u8_eq]
  simp only [rtwoCtrlDisconnected, Layout.map, Layout.seq, List.drop_drop]
  rfl

theorem loadFrame_eq (hheader : headerSize ≤ message.length) (kind : FrameKind)
    : loadFrame kind message = some (decodeFrame kind (payloadOf message)) := by
  unfold loadFrame decodeFrame
  apply sized_eq hheader
  intro hpayload hlength
  have hsize : message.length = headerSize + 2320 := hlength
  have hfields : (rtwoCtrlRxFrame.read (payloadOf message)).dataLength = u16 (payloadOf message) 14
      ∧ (rtwoCtrlRxFrame.read (payloadOf message)).rssi = u16 (payloadOf message) 12
      ∧ (rtwoCtrlRxFrame.read (payloadOf message)).channel
        = rtwoCtrlChannel.read (payloadOf message) := by
    simp only [rtwoCtrlRxFrame, Layout.map, Layout.seq, List.drop_drop, u16_eq]
    exact ⟨rfl, rfl, rfl⟩
  obtain ⟨hdataLength, hrssi, hchannel⟩ := hfields
  rw [hdataLength, hrssi, hchannel]
  apply guarded_eq
  intro hbound
  have hlimit : (u16 (payloadOf message) 14).toNat ≤ 2304 := Nat.le_of_not_lt hbound
  rw [loadBytes_at (by omega)]
  exact channel_eq _ _ fun _ => rfl

theorem loadTxStatus_eq (hheader : headerSize ≤ message.length)
    : loadTxStatus message = some (decodeMgmtTxStatus (payloadOf message)) := by
  unfold loadTxStatus decodeMgmtTxStatus
  apply sized_eq hheader
  intro hpayload hlength
  have hsize : message.length = headerSize + 2320 := hlength
  have hfields : (rtwoCtrlTxStatus.read (payloadOf message)).cookie = u64 (payloadOf message) 0
      ∧ (rtwoCtrlTxStatus.read (payloadOf message)).acknowledged = u8 (payloadOf message) 8
      ∧ (rtwoCtrlTxStatus.read (payloadOf message)).dataLength = u16 (payloadOf message) 10 := by
    simp only [rtwoCtrlTxStatus, Layout.map, Layout.seq, List.drop_drop, u64_eq, u8_eq, u16_eq]
    exact ⟨rfl, rfl, rfl⟩
  obtain ⟨hcookie, hacknowledged, hdataLength⟩ := hfields
  rw [hcookie, hacknowledged, hdataLength]
  apply guarded_eq
  intro hbound
  have hlimit : (u16 (payloadOf message) 10).toNat ≤ 2304 := Nat.le_of_not_lt hbound
  rw [loadBytes_at (by omega)]
  rfl

theorem loadEapol_eq (hheader : headerSize ≤ message.length)
    : loadEapol message = some (decodeEapolRx (payloadOf message)) := by
  unfold loadEapol decodeEapolRx
  apply sized_eq hheader
  intro hpayload hlength
  have hsize : message.length = headerSize + 1614 := hlength
  have hsource : bytes (payloadOf message) 0 6
      = (rtwoCtrlEapolFrame.read (payloadOf message)).source.toList := by
    apply bytes_eq
    rw [hpayload]
    decide
  have hdestination : bytes (payloadOf message) 6 6
      = (rtwoCtrlEapolFrame.read (payloadOf message)).destination.toList := by
    apply bytes_eq
    rw [hpayload]
    decide
  have hdataLength : (rtwoCtrlEapolFrame.read (payloadOf message)).dataLength
      = u16 (payloadOf message) 12 := by
    simp only [rtwoCtrlEapolFrame, Layout.map, Layout.seq, List.drop_drop, u16_eq]
    rfl
  rw [hsource, hdestination, hdataLength]
  apply guarded_eq
  intro hbound
  have hlimit : (u16 (payloadOf message) 12).toNat ≤ 1600 := Nat.le_of_not_lt hbound
  rw [loadBytes_at (by omega)]
  rfl

theorem loadFirmwareError_eq (hheader : headerSize ≤ message.length)
    : loadFirmwareError message = some (decodeFirmwareError (payloadOf message)) := by
  unfold loadFirmwareError decodeFirmwareError
  apply sized_eq hheader
  intro hpayload hlength
  have hsize : message.length = headerSize + 1032 := hlength
  have hfields : (rtwoCtrlFirmwareError.read (payloadOf message)).reason = u32 (payloadOf message) 0
      ∧ (rtwoCtrlFirmwareError.read (payloadOf message)).dumpLength
        = u16 (payloadOf message) 4 := by
    simp only [rtwoCtrlFirmwareError, Layout.map, Layout.seq, u32_eq, u16_eq]
    exact ⟨rfl, rfl⟩
  obtain ⟨hreason, hdumpLength⟩ := hfields
  rw [hreason, hdumpLength]
  apply guarded_eq
  intro hbound
  have hlimit : (u16 (payloadOf message) 4).toNat ≤ 1024 := Nat.le_of_not_lt hbound
  rw [loadBytes_at (by omega)]
  rfl

theorem loadExternalAuth_eq (hheader : headerSize ≤ message.length) (requestId : BitVec 32)
    : loadExternalAuth requestId message
        = some (decodeExternalAuth requestId (payloadOf message)) := by
  unfold loadExternalAuth decodeExternalAuth
  apply sized_eq hheader
  intro hpayload hlength
  have hsize : message.length = headerSize + 44 := hlength
  have hfields : (rtwoCtrlExternalAuth.read (payloadOf message)).ssid.length
        = u8 (payloadOf message) 0
      ∧ (rtwoCtrlExternalAuth.read (payloadOf message)).reserved = u8 (payloadOf message) 39
      ∧ (rtwoCtrlExternalAuth.read (payloadOf message)).akmSuite = u32 (payloadOf message) 40 := by
    simp only [rtwoCtrlExternalAuth, Layout.map, Layout.seq, List.drop_drop, u8_eq, u32_eq]
    exact ⟨rfl, rfl, rfl⟩
  obtain ⟨hssid, hreserved, hakmSuite⟩ := hfields
  have hbssid : bytes (payloadOf message) 33 6
      = (rtwoCtrlExternalAuth.read (payloadOf message)).bssid.toList := by
    apply bytes_eq
    rw [hpayload]
    decide
  rw [hbssid, hssid, hreserved, hakmSuite]
  apply guarded_eq
  intro hbounds
  simp only [not_or] at hbounds
  have hlimit : (u8 (payloadOf message) 0).toNat ≤ 32 := Nat.le_of_not_lt hbounds.2.2.2
  rw [loadBytes_at (by omega)]
  rfl

theorem loadEmpty_eq (hheader : headerSize ≤ message.length) (event : EventData)
    : loadEmpty event message = some (decodeEmpty event (payloadOf message)) := by
  unfold loadEmpty decodeEmpty
  simp only [ne_eq, payloadOf_length hheader, Nat.add_zero]

theorem ofWire_some {type : BitVec 16} {known : WlanOffloadEventType}
    (h : WlanOffloadEventType.ofWire type = some known)
    : type = known.wire := by
  have hfound := List.find?_some h
  exact (of_decide_eq_true hfound).symm

theorem ofWire_none {type : BitVec 16} (h : WlanOffloadEventType.ofWire type = none)
    (known : WlanOffloadEventType)
    : type ≠ known.wire := by
  intro htype
  rw [htype] at h
  revert h
  cases known <;> decide

theorem loadData_eq (hheader : headerSize ≤ message.length) (header : RtwoCtrlHeader)
    : loadData header message = some (decodeData header (payloadOf message)) := by
  unfold loadData
  cases htype : WlanOffloadEventType.ofWire header.type with
  | none =>
    have hunknown := ofWire_none htype
    symm
    apply congrArg some
    unfold decodeData
    apply (if_neg (hunknown .radioOnline)).trans
    apply (if_neg (hunknown .radioOffline)).trans
    apply (if_neg (hunknown .scanResult)).trans
    apply (if_neg (hunknown .scanDone)).trans
    apply (if_neg (hunknown .connectResult)).trans
    apply (if_neg (hunknown .disconnected)).trans
    apply (if_neg (hunknown .authRx)).trans
    apply (if_neg (hunknown .assocRx)).trans
    apply (if_neg (hunknown .mgmtRx)).trans
    apply (if_neg (hunknown .mgmtTxStatus)).trans
    apply (if_neg (hunknown .eapolRx)).trans
    apply (if_neg (hunknown .regulatoryChanged)).trans
    apply (if_neg (hunknown .firmwareError)).trans
    exact if_neg (hunknown .externalAuthRequired)
  | some known =>
    have hwire := ofWire_some htype
    unfold decodeData
    rw [hwire]
    cases known with
    | radioOnline => exact loadEmpty_eq hheader _
    | radioOffline => exact loadEmpty_eq hheader _
    | scanResult => exact loadNetwork_eq hheader
    | scanDone => exact loadEmpty_eq hheader _
    | connectResult => exact loadEmpty_eq hheader _
    | disconnected => exact loadDisconnected_eq hheader
    | authRx => exact loadFrame_eq hheader _
    | assocRx => exact loadFrame_eq hheader _
    | mgmtRx => exact loadFrame_eq hheader _
    | mgmtTxStatus => exact loadTxStatus_eq hheader
    | eapolRx => exact loadEapol_eq hheader
    | regulatoryChanged => exact loadEmpty_eq hheader _
    | firmwareError => exact loadFirmwareError_eq hheader
    | externalAuthRequired => exact loadExternalAuth_eq hheader _

/-
On the messages that the client reads, the bytes are decoded to the same event as their header and
payload.
-/
theorem decodeEventBytes_eq (hheader : headerSize ≤ message.length)
    : decodeEventBytes message = some (wlanOffloadDecodeEvent (Message.ofBytes message)) := by
  unfold decodeEventBytes wlanOffloadDecodeEvent Message.ofBytes
  rw [load_header hheader]
  change (loadData (rtwoCtrlHeader.read message) message >>= _) = _
  rw [loadData_eq hheader]
  cases decodeData (rtwoCtrlHeader.read message) (payloadOf message) with
  | error ret => rfl
  | ok data => rfl

theorem ofBytes_length (hheader : headerSize ≤ message.length)
    : (Message.ofBytes message).length = message.length := by
  unfold Message.length Message.ofBytes payloadOf
  rw [List.length_drop]
  omega

theorem checkMessage_iff (hheader : headerSize ≤ message.length)
    (hcapacity : message.length ≤ rtwoCtrlMaxMessageSize)
    : checkMessage rtwoCtrlMaxMessageSize message = .ok message.length
        ↔ messageAccepted (Message.ofBytes message) = true := by
  have hcopy : (BitVec.ofNat 32 message.length).toNat = message.length := by
    rw [BitVec.toNat_ofNat]
    unfold rtwoCtrlMaxMessageSize at hcapacity
    omega
  have hlength : (rtwoCtrlHeader.read message).length = BitVec.ofNat 32 message.length
      ↔ (rtwoCtrlHeader.read message).length.toNat = message.length := by
    rw [← BitVec.toNat_inj, hcopy]
  unfold checkMessage messageAccepted
  rw [ofBytes_length hheader, if_neg (Nat.not_lt.mpr hheader)]
  unfold Message.ofBytes
  dsimp only
  simp only [ne_eq, hlength, Bool.and_eq_true, Bool.or_eq_true, beq_iff_eq, decide_eq_true_eq,
    hcapacity, and_true]
  grind

end Wlan

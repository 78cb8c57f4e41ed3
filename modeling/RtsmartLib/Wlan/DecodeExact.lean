import RtsmartLib.Wlan.Decode

/-!
This module contains the messages that are decoded to events, and what their events hold.
-/

namespace Wlan

open Lib Posix

/-
The wire structure of a payload of its size, with all that has to hold of it, and the event that is made
of it.
-/
def WlanOffloadEventType.Describes (type : WlanOffloadEventType) (requestId : BitVec 32)
    (payload : List Byte) (data : EventData) : Prop :=
  let empty (event : EventData) : Prop := payload.length = 0 ∧ data = event
  let frame (kind : FrameKind) : Prop :=
    let wire := rtwoCtrlRxFrame.read payload
    payload.length = rtwoCtrlRxFrame.size
      ∧ wire.dataLength.toNat ≤ frameMaxLength
      ∧ ∃ channel, wlanOffloadChannelFromWire wire.channel false = .ok channel
        ∧ data = .frameRx kind channel wire.rssi wire.dataLength
          (wire.data.toList.take wire.dataLength.toNat)
  match type with
  | .radioOnline => empty .radioOnline
  | .radioOffline => empty .radioOffline
  | .scanResult =>
    let wire := rtwoCtrlNetwork.read payload
    payload.length = rtwoCtrlNetwork.size
      ∧ wire.ssid.length.toNat ≤ ssidMaxLength
      ∧ wire.iesLength.toNat ≤ ieMaxLength
      ∧ ∃ channel, wlanOffloadChannelFromWire wire.channel false = .ok channel
        ∧ data = .scanResult
          ⟨wire.ssid.length, wire.ssid.value.toList.take wire.ssid.length.toNat⟩ wire.bssid.toList
          channel wire.rssi wire.security wire.beaconInterval wire.capability wire.iesLength
          (wire.ies.toList.take wire.iesLength.toNat)
  | .scanDone => empty .scanDone
  | .connectResult => empty .connectResult
  | .disconnected =>
    let wire := rtwoCtrlDisconnected.read payload
    payload.length = rtwoCtrlDisconnected.size
      ∧ data = .disconnected wire.bssid.toList wire.reason wire.locallyGenerated
  | .authRx => frame .auth
  | .assocRx => frame .assoc
  | .mgmtRx => frame .mgmt
  | .mgmtTxStatus =>
    let wire := rtwoCtrlTxStatus.read payload
    payload.length = rtwoCtrlTxStatus.size
      ∧ wire.dataLength.toNat ≤ frameMaxLength
      ∧ data = .mgmtTxStatus wire.cookie wire.acknowledged wire.dataLength
        (wire.data.toList.take wire.dataLength.toNat)
  | .eapolRx =>
    let wire := rtwoCtrlEapolFrame.read payload
    payload.length = rtwoCtrlEapolFrame.size
      ∧ wire.dataLength.toNat ≤ eapolMaxLength
      ∧ data = .eapolRx wire.source.toList wire.destination.toList wire.dataLength
        (wire.data.toList.take wire.dataLength.toNat)
  | .regulatoryChanged => empty .regulatoryChanged
  | .firmwareError =>
    let wire := rtwoCtrlFirmwareError.read payload
    payload.length = rtwoCtrlFirmwareError.size
      ∧ wire.dumpLength.toNat ≤ ieMaxLength
      ∧ data = .firmwareError wire.reason wire.dumpLength
        (wire.dump.toList.take wire.dumpLength.toNat)
  | .externalAuthRequired =>
    let wire := rtwoCtrlExternalAuth.read payload
    payload.length = rtwoCtrlExternalAuth.size
      ∧ requestId ≠ 0#32
      ∧ wire.reserved = 0#8
      ∧ wire.ssid.length ≠ 0#8
      ∧ wire.ssid.length.toNat ≤ ssidMaxLength
      ∧ data = .externalAuthRequired
        ⟨wire.ssid.length, wire.ssid.value.toList.take wire.ssid.length.toNat⟩ wire.bssid.toList
        wire.akmSuite

/-
The event that a message stands for.
-/
structure EventOf (message : List Byte) (event : WlanOffloadEvent) : Prop where
  interfaceType : event.interfaceType = (rtwoCtrlHeader.read message).iftype
  requestId : event.requestId = (rtwoCtrlHeader.read message).requestId
  status : event.status = (rtwoCtrlHeader.read message).status
  truncated : event.truncated = ((rtwoCtrlHeader.read message).flags &&& flagTruncated != 0#8)
  overflow : event.overflow = ((rtwoCtrlHeader.read message).flags &&& flagOverflow != 0#8)
  data : ∃ type, WlanOffloadEventType.ofWire (rtwoCtrlHeader.read message).type = some type
    ∧ type.Describes (rtwoCtrlHeader.read message).requestId (payloadOf message) event.data

/-
Every length is that of its bytes and within the array that they are copied to.
-/
def WlanOffloadSsid.Bounded (ssid : WlanOffloadSsid) : Prop :=
  ssid.length.toNat ≤ ssidMaxLength ∧ ssid.value.length = ssid.length.toNat

def EventData.Bounded (data : EventData) : Prop :=
  match data with
  | .scanResult ssid bssid _ _ _ _ _ iesLength ies =>
    ssid.Bounded ∧ bssid.length = 6 ∧ iesLength.toNat ≤ ieMaxLength ∧ ies.length = iesLength.toNat
  | .disconnected bssid _ _ => bssid.length = 6
  | .frameRx _ _ _ length data => length.toNat ≤ frameMaxLength ∧ data.length = length.toNat
  | .mgmtTxStatus _ _ length data => length.toNat ≤ frameMaxLength ∧ data.length = length.toNat
  | .eapolRx source destination length data =>
    source.length = 6 ∧ destination.length = 6 ∧ length.toNat ≤ eapolMaxLength
      ∧ data.length = length.toNat
  | .firmwareError _ dumpLength dump =>
    dumpLength.toNat ≤ ieMaxLength ∧ dump.length = dumpLength.toNat
  | .externalAuthRequired ssid bssid _ => ssid.Bounded ∧ bssid.length = 6
  | .radioOnline => True
  | .radioOffline => True
  | .scanDone => True
  | .connectResult => True
  | .regulatoryChanged => True

/-
Whatever is read lies within the message, and the outcome is an event exactly under `P`.
-/
def Loads (loaded : Option (Except Int EventData)) (P : EventData → Prop) : Prop :=
  ∃ res, loaded = some res ∧ ∀ data, res = .ok data ↔ P data

theorem Loads.refused {P : EventData → Prop} {ret : Int} (h : ∀ data, ¬P data)
    : Loads (some (.error ret)) P := by
  refine ⟨_, rfl, ?_⟩
  intro data
  constructor
  . intro heq
    cases heq
  . intro hdata
    exact absurd hdata (h data)

theorem Loads.accepted {P : EventData → Prop} {event : EventData} (h : ∀ data, P data ↔ data = event)
    : Loads (some (.ok event)) P := by
  refine ⟨_, rfl, ?_⟩
  intro data
  rw [h]
  constructor
  . intro heq
    exact (Except.ok.inj heq).symm
  . intro heq
    rw [heq]

variable {message : List Byte}

theorem load_at {α : Type} {layout : Layout α} {offset : Nat}
    (h : offset + layout.size ≤ message.length)
    : load layout message offset = some (layout.read (message.drop offset)) :=
  if_pos h

theorem load_header (hheader : headerSize ≤ message.length)
    : load rtwoCtrlHeader message 0 = some (rtwoCtrlHeader.read message) :=
  load_at hheader

/-
A part of an array that lies within the message.
-/
theorem loadBytes_array {offset n length : Nat} (h : offset + n ≤ message.length)
    (hlength : length ≤ n)
    : loadBytes message offset length
        = some (((Layout.byte.array n).read (message.drop offset)).toList.take length) := by
  have hn : n ≤ (message.drop offset).length := by
    rw [List.length_drop]
    omega
  unfold loadBytes
  rw [if_pos (by omega), Layout.array_byte_read hn, List.take_take, Nat.min_eq_left hlength]

theorem payloadOf_length (hheader : headerSize ≤ message.length) {size : Nat}
    : (payloadOf message).length = size ↔ message.length = headerSize + size := by
  unfold payloadOf
  rw [List.length_drop]
  omega

/-
Where the arrays stand that a copy is made of.
-/
theorem rtwoCtrlNetwork_ssid (payload : List Byte)
    : (rtwoCtrlNetwork.read payload).ssid.value = (Layout.byte.array 32).read (payload.drop 1) :=
  rfl

theorem rtwoCtrlNetwork_ies (payload : List Byte)
    : (rtwoCtrlNetwork.read payload).ies = (Layout.byte.array 1024).read (payload.drop 66) := by
  simp only [rtwoCtrlNetwork, Layout.map, Layout.seq, List.drop_drop]
  rfl

/-
The steps of a decoder, each with what it adds to the condition for an event.
-/
theorem Loads.sized {α : Type} {layout : Layout α} {rest : α → Option (Except Int EventData)}
    {P : EventData → Prop} (hheader : headerSize ≤ message.length)
    (h : message.length = headerSize + layout.size → Loads (rest (layout.read (payloadOf message))) P)
    : Loads
        (if message.length ≠ headerSize + layout.size then
          some (.error (-eproto))
        else
          load layout message headerSize >>= rest)
        (fun data => (payloadOf message).length = layout.size ∧ P data) := by
  by_cases hlength : message.length = headerSize + layout.size
  . rw [if_neg (not_not.mpr hlength), load_at (Nat.le_of_eq hlength.symm)]
    obtain ⟨res, hres, hiff⟩ := h hlength
    refine ⟨res, hres, ?_⟩
    intro data
    rw [hiff, payloadOf_length hheader]
    exact ⟨fun hdata => ⟨hlength, hdata⟩, fun hdata => hdata.2⟩
  . rw [if_pos hlength]
    apply Loads.refused
    intro data hdata
    exact hlength ((payloadOf_length hheader).mp hdata.1)

theorem Loads.guarded {c : Prop} [Decidable c] {ret : Int} {rest : Option (Except Int EventData)}
    {P : EventData → Prop} (h : ¬c → Loads rest P)
    : Loads (if c then some (.error ret) else rest) (fun data => ¬c ∧ P data) := by
  by_cases hc : c
  . rw [if_pos hc]
    apply Loads.refused
    intro data hdata
    exact hdata.1 hc
  . rw [if_neg hc]
    obtain ⟨res, hres, hiff⟩ := h hc
    refine ⟨res, hres, ?_⟩
    intro data
    rw [hiff]
    exact ⟨fun hdata => ⟨hc, hdata⟩, fun hdata => hdata.2⟩

theorem Loads.mono {loaded : Option (Except Int EventData)} {P Q : EventData → Prop}
    (h : Loads loaded P) (hiff : ∀ data, P data ↔ Q data)
    : Loads loaded Q := by
  obtain ⟨res, hres, hdata⟩ := h
  exact ⟨res, hres, fun data => (hdata data).trans (hiff data)⟩

theorem Loads.channel {wire : RtwoCtrlChannel}
    {rest : WlanOffloadChannel → Option (Except Int EventData)}
    {P : WlanOffloadChannel → EventData → Prop}
    (h : ∀ channel, wlanOffloadChannelFromWire wire false = .ok channel →
      Loads (rest channel) (P channel))
    : Loads
        (match wlanOffloadChannelFromWire wire false with
        | .error _ => some (.error (-eproto))
        | .ok channel => rest channel)
        (fun data => ∃ channel, wlanOffloadChannelFromWire wire false = .ok channel
          ∧ P channel data) := by
  cases hwire : wlanOffloadChannelFromWire wire false with
  | error ret =>
    apply Loads.refused
    intro data ⟨channel, hchannel, _⟩
    cases hchannel
  | ok channel =>
    refine (h channel hwire).mono ?_
    intro data
    constructor
    . intro hdata
      exact ⟨channel, rfl, hdata⟩
    . intro ⟨channel', hchannel, hdata⟩
      cases hchannel
      exact hdata

theorem Loads.copied {offset n length : Nat} {rest : List Byte → Option (Except Int EventData)}
    {P : EventData → Prop} (array : Vector Byte n)
    (harray : array = (Layout.byte.array n).read ((payloadOf message).drop offset))
    (hin : headerSize + offset + n ≤ message.length) (hlength : length ≤ n)
    (h : Loads (rest (array.toList.take length)) P)
    : Loads (loadBytes message (headerSize + offset) length >>= rest) P := by
  rw [loadBytes_array hin hlength, ← List.drop_drop]
  unfold payloadOf at harray
  rw [← harray]
  exact h

theorem loadNetwork_loads (hheader : headerSize ≤ message.length) (requestId : BitVec 32)
    : Loads (loadNetwork message)
        (WlanOffloadEventType.scanResult.Describes requestId (payloadOf message)) := by
  unfold loadNetwork
  apply Loads.mono
  . apply Loads.sized hheader
    intro hlength
    apply Loads.guarded
    intro hbounds
    have ⟨hssid, hies⟩ := not_or.mp hbounds
    -- what is copied is as long as the checks before have found
    apply Loads.copied _ (rtwoCtrlNetwork_ssid _)
    . rw [hlength]
      decide
    . exact Nat.le_of_not_lt hssid
    apply Loads.channel
    intro channel hchannel
    apply Loads.copied _ (rtwoCtrlNetwork_ies _)
    . rw [hlength]
      decide
    . exact Nat.le_of_not_lt hies
    apply Loads.accepted
    intro data
    exact Iff.rfl
  . intro data
    simp only [WlanOffloadEventType.Describes, not_or, Nat.not_lt, and_assoc]

theorem loadDisconnected_loads (hheader : headerSize ≤ message.length) (requestId : BitVec 32)
    : Loads (loadDisconnected message)
        (WlanOffloadEventType.disconnected.Describes requestId (payloadOf message)) := by
  unfold loadDisconnected
  apply Loads.sized hheader
  intro hlength
  apply Loads.accepted
  intro data
  exact Iff.rfl

theorem rtwoCtrlRxFrame_data (payload : List Byte)
    : (rtwoCtrlRxFrame.read payload).data = (Layout.byte.array 2304).read (payload.drop 16) := by
  simp only [rtwoCtrlRxFrame, Layout.map, Layout.seq, List.drop_drop]
  rfl

/-
The three types of events with a received frame only differ in its kind.
-/
theorem loadFrame_loads (hheader : headerSize ≤ message.length) (kind : FrameKind)
    : Loads (loadFrame kind message) fun data =>
        let wire := rtwoCtrlRxFrame.read (payloadOf message)
        (payloadOf message).length = rtwoCtrlRxFrame.size
          ∧ wire.dataLength.toNat ≤ frameMaxLength
          ∧ ∃ channel, wlanOffloadChannelFromWire wire.channel false = .ok channel
            ∧ data = .frameRx kind channel wire.rssi wire.dataLength
              (wire.data.toList.take wire.dataLength.toNat) := by
  unfold loadFrame
  apply Loads.mono
  . apply Loads.sized hheader
    intro hlength
    apply Loads.guarded
    intro hbound
    apply Loads.channel
    intro channel hchannel
    apply Loads.copied _ (rtwoCtrlRxFrame_data _)
    . rw [hlength]
      decide
    . exact Nat.le_of_not_lt hbound
    apply Loads.accepted
    intro data
    exact Iff.rfl
  . intro data
    simp only [Nat.not_lt]

theorem rtwoCtrlTxStatus_data (payload : List Byte)
    : (rtwoCtrlTxStatus.read payload).data = (Layout.byte.array 2304).read (payload.drop 12) := by
  simp only [rtwoCtrlTxStatus, Layout.map, Layout.seq, List.drop_drop]
  rfl

theorem loadTxStatus_loads (hheader : headerSize ≤ message.length) (requestId : BitVec 32)
    : Loads (loadTxStatus message)
        (WlanOffloadEventType.mgmtTxStatus.Describes requestId (payloadOf message)) := by
  unfold loadTxStatus
  apply Loads.mono
  . apply Loads.sized hheader
    intro hlength
    apply Loads.guarded
    intro hbound
    apply Loads.copied _ (rtwoCtrlTxStatus_data _)
    . rw [hlength]
      decide
    . exact Nat.le_of_not_lt hbound
    apply Loads.accepted
    intro data
    exact Iff.rfl
  . intro data
    simp only [WlanOffloadEventType.Describes, Nat.not_lt]

theorem rtwoCtrlEapolFrame_data (payload : List Byte)
    : (rtwoCtrlEapolFrame.read payload).data = (Layout.byte.array 1600).read (payload.drop 14) := by
  simp only [rtwoCtrlEapolFrame, Layout.map, Layout.seq, List.drop_drop]
  rfl

theorem loadEapol_loads (hheader : headerSize ≤ message.length) (requestId : BitVec 32)
    : Loads (loadEapol message)
        (WlanOffloadEventType.eapolRx.Describes requestId (payloadOf message)) := by
  unfold loadEapol
  apply Loads.mono
  . apply Loads.sized hheader
    intro hlength
    apply Loads.guarded
    intro hbound
    apply Loads.copied _ (rtwoCtrlEapolFrame_data _)
    . rw [hlength]
      decide
    . exact Nat.le_of_not_lt hbound
    apply Loads.accepted
    intro data
    exact Iff.rfl
  . intro data
    simp only [WlanOffloadEventType.Describes, Nat.not_lt]

theorem rtwoCtrlFirmwareError_dump (payload : List Byte)
    : (rtwoCtrlFirmwareError.read payload).dump
        = (Layout.byte.array 1024).read (payload.drop 6) := by
  simp only [rtwoCtrlFirmwareError, Layout.map, Layout.seq, List.drop_drop]
  rfl

theorem loadFirmwareError_loads (hheader : headerSize ≤ message.length) (requestId : BitVec 32)
    : Loads (loadFirmwareError message)
        (WlanOffloadEventType.firmwareError.Describes requestId (payloadOf message)) := by
  unfold loadFirmwareError
  apply Loads.mono
  . apply Loads.sized hheader
    intro hlength
    apply Loads.guarded
    intro hbound
    apply Loads.copied _ (rtwoCtrlFirmwareError_dump _)
    . rw [hlength]
      decide
    . exact Nat.le_of_not_lt hbound
    apply Loads.accepted
    intro data
    exact Iff.rfl
  . intro data
    simp only [WlanOffloadEventType.Describes, Nat.not_lt]

theorem rtwoCtrlExternalAuth_ssid (payload : List Byte)
    : (rtwoCtrlExternalAuth.read payload).ssid.value
        = (Layout.byte.array 32).read (payload.drop 1) :=
  rfl

theorem loadExternalAuth_loads (hheader : headerSize ≤ message.length) (requestId : BitVec 32)
    : Loads (loadExternalAuth requestId message)
        (WlanOffloadEventType.externalAuthRequired.Describes requestId (payloadOf message)) := by
  unfold loadExternalAuth
  apply Loads.mono
  . apply Loads.sized hheader
    intro hlength
    apply Loads.guarded
    intro hfields
    simp only [not_or] at hfields
    apply Loads.copied _ (rtwoCtrlExternalAuth_ssid _)
    . rw [hlength]
      decide
    . exact Nat.le_of_not_lt hfields.2.2.2
    apply Loads.accepted
    intro data
    exact Iff.rfl
  . intro data
    simp only [WlanOffloadEventType.Describes, not_or, not_not, Nat.not_lt, and_assoc, ne_eq]

theorem loadEmpty_loads (hheader : headerSize ≤ message.length) (event : EventData)
    : Loads (loadEmpty event message)
        fun data => (payloadOf message).length = 0 ∧ data = event := by
  unfold loadEmpty
  by_cases hlength : message.length = headerSize
  . rw [if_neg (not_not.mpr hlength)]
    apply Loads.accepted
    intro data
    rw [payloadOf_length hheader, hlength]
    exact ⟨fun hdata => hdata.2, fun hdata => ⟨rfl, hdata⟩⟩
  . rw [if_pos hlength]
    apply Loads.refused
    intro data hdata
    exact hlength ((payloadOf_length hheader).mp hdata.1)

theorem loadData_loads (hheader : headerSize ≤ message.length) (header : RtwoCtrlHeader)
    : Loads (loadData header message) fun data =>
        ∃ type, WlanOffloadEventType.ofWire header.type = some type
          ∧ type.Describes header.requestId (payloadOf message) data := by
  unfold loadData
  cases htype : WlanOffloadEventType.ofWire header.type with
  | none =>
    apply Loads.refused
    intro data ⟨type, h, _⟩
    cases h
  | some type =>
    -- each type of event is loaded as it describes the payload
    have hloads : Loads (loadData header message)
        (type.Describes header.requestId (payloadOf message)) := by
      unfold loadData
      rw [htype]
      cases type with
      | radioOnline => exact loadEmpty_loads hheader _
      | radioOffline => exact loadEmpty_loads hheader _
      | scanResult => exact loadNetwork_loads hheader _
      | scanDone => exact loadEmpty_loads hheader _
      | connectResult => exact loadEmpty_loads hheader _
      | disconnected => exact loadDisconnected_loads hheader _
      | authRx => exact loadFrame_loads hheader _
      | assocRx => exact loadFrame_loads hheader _
      | mgmtRx => exact loadFrame_loads hheader _
      | mgmtTxStatus => exact loadTxStatus_loads hheader _
      | eapolRx => exact loadEapol_loads hheader _
      | regulatoryChanged => exact loadEmpty_loads hheader _
      | firmwareError => exact loadFirmwareError_loads hheader _
      | externalAuthRequired => exact loadExternalAuth_loads hheader _
    unfold loadData at hloads
    rw [htype] at hloads
    refine hloads.mono ?_
    intro data
    constructor
    . intro hdata
      exact ⟨type, rfl, hdata⟩
    . intro ⟨type', h, hdata⟩
      cases h
      exact hdata

theorem take_length {n length : Nat} (array : Vector Byte n) (h : length ≤ n)
    : (array.toList.take length).length = length := by
  rw [List.length_take, Vector.length_toList, Nat.min_eq_left h]

theorem describes_bounded {type : WlanOffloadEventType} {requestId : BitVec 32}
    {payload : List Byte} {data : EventData} (h : type.Describes requestId payload data)
    : data.Bounded := by
  cases type with
  | scanResult =>
    obtain ⟨_, hssid, hies, channel, _, rfl⟩ := h
    exact ⟨⟨hssid, take_length _ hssid⟩, Vector.length_toList, hies, take_length _ hies⟩
  | disconnected =>
    obtain ⟨_, rfl⟩ := h
    exact Vector.length_toList
  | mgmtTxStatus =>
    obtain ⟨_, hlength, rfl⟩ := h
    exact ⟨hlength, take_length _ hlength⟩
  | eapolRx =>
    obtain ⟨_, hlength, rfl⟩ := h
    exact ⟨Vector.length_toList, Vector.length_toList, hlength, take_length _ hlength⟩
  | firmwareError =>
    obtain ⟨_, hlength, rfl⟩ := h
    exact ⟨hlength, take_length _ hlength⟩
  | externalAuthRequired =>
    obtain ⟨_, _, _, _, hssid, rfl⟩ := h
    exact ⟨⟨hssid, take_length _ hssid⟩, Vector.length_toList⟩
  | authRx | assocRx | mgmtRx =>
    obtain ⟨_, hlength, channel, _, rfl⟩ := h
    exact ⟨hlength, take_length _ hlength⟩
  | radioOnline | radioOffline | scanDone | connectResult | regulatoryChanged =>
    obtain ⟨_, rfl⟩ := h
    trivial

theorem checkMessage_header {capacity : Nat} {length : Nat}
    (h : checkMessage capacity message = .ok length)
    : headerSize ≤ message.length := by
  unfold checkMessage at h
  split at h
  . cases h
  next hheader => exact Nat.le_of_not_lt hheader

/--
The bytes of a message that has been read are decoded without a read past their end, and to an event
exactly if there is one that they describe.
-/
theorem decodeEventBytes_iff (capacity length : Nat) (message : List Byte)
    (h : checkMessage capacity message = .ok length)
    : ∃ res, decodeEventBytes message = some res
        ∧ (∀ event, res = .ok event ↔ EventOf message event)
        ∧ ∀ event, res = .ok event → event.data.Bounded := by
  have hheader := checkMessage_header h
  obtain ⟨res, hres, hdata⟩ := loadData_loads hheader (rtwoCtrlHeader.read message)
  unfold decodeEventBytes
  rw [load_header hheader]
  change ∃ res, (loadData (rtwoCtrlHeader.read message) message >>= _) = some res ∧ _
  rw [hres]
  cases res with
  | error ret =>
    refine ⟨_, rfl, ?_, ?_⟩
    . intro event
      constructor
      . intro hevent
        cases hevent
      . intro hevent
        cases (hdata event.data).mpr hevent.data
    . intro event hevent
      cases hevent
  | ok data =>
    refine ⟨_, rfl, ?_, ?_⟩
    . intro event
      constructor
      . intro hevent
        cases hevent
        exact ⟨rfl, rfl, rfl, rfl, rfl, (hdata data).mp rfl⟩
      . intro hevent
        -- the fields of the header are given, and the data is the only one that the payload describes
        have hsame := Except.ok.inj ((hdata event.data).mpr hevent.data)
        obtain ⟨interfaceType, requestId, status, truncated, overflow, data'⟩ := event
        have htype := hevent.interfaceType
        have hrequestId := hevent.requestId
        have hstatus := hevent.status
        have htruncated := hevent.truncated
        have hoverflow := hevent.overflow
        dsimp only at hsame htype hrequestId hstatus htruncated hoverflow
        rw [hsame, htype, hrequestId, hstatus, htruncated, hoverflow]
    . intro event hevent
      cases hevent
      have ⟨type, _, hdescribes⟩ := (hdata data).mp rfl
      exact describes_bounded hdescribes

def eventHeader (type : WlanOffloadEventType) (size : Nat) : RtwoCtrlHeader where
  version := rtwoCtrlVersion
  type := type.wire
  length := BitVec.ofNat 32 (headerSize + size)
  requestId := 0#32
  status := 0#32
  iftype := interfaceStation
  flags := 0#8
  reserved := 0#16

/-
A scan result: a network `home` on a channel of 80 MHz in the 5 GHz band, with an information element of four bytes.
-/
def homeNetwork : RtwoCtrlNetwork where
  ssid := ⟨5#8, #v[0x68#8, 0x6f#8, 0x75#8, 0x73#8, 0x65#8] ++ Vector.replicate 27 0#8⟩
  bssid := #v[1#8, 2#8, 3#8, 4#8, 5#8, 6#8]
  channel := ⟨5180#16, 5210#16, 0#16, 36#16, 1#8, 3#8, Vector.replicate 2 0#8⟩
  rssi := 0xffc4#16
  security := 4#32
  beaconInterval := 100#16
  capability := 0x11#16
  iesLength := 4#16
  ies := (Vector.replicate 1024 0#8).set 0 1#8 (by decide) |>.set 1 2#8 (by decide) |>.set 2 0x82#8 (by decide)
    |>.set 3 0x84#8 (by decide)

def scanResultMessage : List Byte :=
  rtwoCtrlHeader.write (eventHeader .scanResult rtwoCtrlNetwork.size) ++ rtwoCtrlNetwork.write homeNetwork

def homeEvent : WlanOffloadEvent :=
  ⟨0#8, 0#32, 0#32, false, false,
    .scanResult ⟨5#8, [0x68#8, 0x6f#8, 0x75#8, 0x73#8, 0x65#8]⟩ [1#8, 2#8, 3#8, 4#8, 5#8, 6#8]
      ⟨1#32, 3#32, 36#16, 5180#16, 5210#16, 0#16⟩ 0xffc4#16 4#32 100#16 0x11#16 4#16 [1#8, 2#8, 0x82#8, 0x84#8]⟩

theorem scanResultMessage_accepted : checkMessage rtwoCtrlMaxMessageSize scanResultMessage = .ok 1112 := by
  decide +kernel

theorem scanResultMessage_home : decodeEventBytes scanResultMessage = some (.ok homeEvent) := by
  decide +kernel

theorem scanResultMessage_decoded : EventOf scanResultMessage homeEvent ∧ homeEvent.data.Bounded := by
  obtain ⟨res, hres, hevent, hbounded⟩ := decodeEventBytes_iff rtwoCtrlMaxMessageSize 1112 scanResultMessage
    scanResultMessage_accepted
  have hsame : res = .ok homeEvent := Option.some.inj (hres.symm.trans scanResultMessage_home)
  exact ⟨(hevent homeEvent).mp hsame, hbounded homeEvent hsame⟩

/-
A firmware error with an empty dump, in a payload that has room for a dump of full length, and a
disconnection with a reserved byte that is not cleared.
-/
def emptyDumpMessage : List Byte :=
  rtwoCtrlHeader.write (eventHeader .firmwareError rtwoCtrlFirmwareError.size)
    ++ rtwoCtrlFirmwareError.write ⟨1#32, 0#16, Vector.replicate 1024 0#8⟩

def reservedMessage : List Byte :=
  rtwoCtrlHeader.write (eventHeader .disconnected rtwoCtrlDisconnected.size)
    ++ rtwoCtrlDisconnected.write ⟨Vector.replicate 6 0#8, 3#16, 0#8, 1#8⟩

theorem emptyDump_decoded
    : checkMessage rtwoCtrlMaxMessageSize emptyDumpMessage = .ok 1052
        ∧ decodeEventBytes emptyDumpMessage
          = some (.ok ⟨0#8, 0#32, 0#32, false, false, .firmwareError 1#32 0#16 []⟩)
        ∧ (payloadOf emptyDumpMessage).length
          ≠ 6 + (rtwoCtrlFirmwareError.read (payloadOf emptyDumpMessage)).dumpLength.toNat
        ∧ checkMessage rtwoCtrlMaxMessageSize reservedMessage = .ok 30
        ∧ decodeEventBytes reservedMessage
          = some (.ok ⟨0#8, 0#32, 0#32, false, false, .disconnected (List.replicate 6 0#8) 3#16 0#8⟩)
        ∧ (rtwoCtrlDisconnected.read (payloadOf reservedMessage)).reserved ≠ 0#8 := by
  refine ⟨?_, ?_, ?_, ?_, ?_, ?_⟩
  . decide +kernel
  . decide +kernel
  . decide +kernel
  . decide +kernel
  . decide +kernel
  . decide +kernel

end Wlan

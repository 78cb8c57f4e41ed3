import RtsmartLib.Wlan.Layouts

/-!
This module contains the decoding of the bytes that the control device has put into the receive buffer.
-/

namespace Wlan

open Lib Posix

/-
What is read of a message. `none` is a read that goes past its end.
-/
def load {α : Type} (layout : Layout α) (message : List Byte) (offset : Nat) : Option α :=
  if offset + layout.size ≤ message.length then
    some (layout.read (message.drop offset))
  else
    none

def loadBytes (message : List Byte) (offset length : Nat) : Option (List Byte) :=
  if offset + length ≤ message.length then some ((message.drop offset).take length) else none

/-
What `wlan_offload_read_message` makes of the bytes that it has read into a buffer.
-/
def checkMessage (capacity : Nat) (message : List Byte) : Except Int Nat :=
  if message.length < headerSize then
    .error (-eproto)
  else
    let header := rtwoCtrlHeader.read message
    if header.version ≠ rtwoCtrlVersion ∨ header.length ≠ BitVec.ofNat 32 message.length
        ∨ header.length.toNat > capacity ∨ header.reserved ≠ 0#16
        ∨ (header.iftype > interfaceAp ∧ header.iftype ≠ interfaceNone)
        ∨ header.flags &&& ~~~(flagTruncated ||| flagOverflow) ≠ 0#8 then
      .error (-eproto)
    else
      .ok message.length

inductive WlanOffloadEventType where
  | radioOnline
  | radioOffline
  | scanResult
  | scanDone
  | connectResult
  | disconnected
  | authRx
  | assocRx
  | mgmtRx
  | mgmtTxStatus
  | eapolRx
  | regulatoryChanged
  | firmwareError
  | externalAuthRequired
  deriving DecidableEq

def WlanOffloadEventType.wire (type : WlanOffloadEventType) : BitVec 16 :=
  match type with
  | .radioOnline => eventRadioOnline
  | .radioOffline => eventRadioOffline
  | .scanResult => eventScanResult
  | .scanDone => eventScanDone
  | .connectResult => eventConnectResult
  | .disconnected => eventDisconnected
  | .authRx => eventAuthRx
  | .assocRx => eventAssocRx
  | .mgmtRx => eventMgmtRx
  | .mgmtTxStatus => eventMgmtTxStatus
  | .eapolRx => eventEapolRx
  | .regulatoryChanged => eventRegulatoryChanged
  | .firmwareError => eventFirmwareError
  | .externalAuthRequired => eventExternalAuthRequired

def WlanOffloadEventType.ofWire (type : BitVec 16) : Option WlanOffloadEventType :=
  [.radioOnline, .radioOffline, .scanResult, .scanDone, .connectResult, .disconnected, .authRx,
    .assocRx, .mgmtRx, .mgmtTxStatus, .eapolRx, .regulatoryChanged, .firmwareError,
    .externalAuthRequired].find? (·.wire = type)

/-
The decoding of one type of event each. What is copied is read at its own offset.
-/
def loadNetwork (message : List Byte) : Option (Except Int EventData) :=
  if message.length ≠ headerSize + rtwoCtrlNetwork.size then
    some (.error (-eproto))
  else do
    let wire ← load rtwoCtrlNetwork message headerSize
    if wire.ssid.length.toNat > ssidMaxLength ∨ wire.iesLength.toNat > ieMaxLength then
      some (.error (-eproto))
    else do
      -- the arrays are copied one by one, each after the checks on its length
      let ssid ← loadBytes message (headerSize + 1) wire.ssid.length.toNat
      match wlanOffloadChannelFromWire wire.channel false with
      | .error _ => some (.error (-eproto))
      | .ok channel => do
        let ies ← loadBytes message (headerSize + 66) wire.iesLength.toNat
        some (.ok (.scanResult ⟨wire.ssid.length, ssid⟩ wire.bssid.toList channel wire.rssi
          wire.security wire.beaconInterval wire.capability wire.iesLength ies))

def loadDisconnected (message : List Byte) : Option (Except Int EventData) :=
  if message.length ≠ headerSize + rtwoCtrlDisconnected.size then
    some (.error (-eproto))
  else do
    let wire ← load rtwoCtrlDisconnected message headerSize
    some (.ok (.disconnected wire.bssid.toList wire.reason wire.locallyGenerated))

def loadFrame (kind : FrameKind) (message : List Byte) : Option (Except Int EventData) :=
  if message.length ≠ headerSize + rtwoCtrlRxFrame.size then
    some (.error (-eproto))
  else do
    let wire ← load rtwoCtrlRxFrame message headerSize
    if wire.dataLength.toNat > frameMaxLength then
      some (.error (-eproto))
    else
      match wlanOffloadChannelFromWire wire.channel false with
      | .error _ => some (.error (-eproto))
      | .ok channel => do
        let data ← loadBytes message (headerSize + 16) wire.dataLength.toNat
        some (.ok (.frameRx kind channel wire.rssi wire.dataLength data))

def loadTxStatus (message : List Byte) : Option (Except Int EventData) :=
  if message.length ≠ headerSize + rtwoCtrlTxStatus.size then
    some (.error (-eproto))
  else do
    let wire ← load rtwoCtrlTxStatus message headerSize
    if wire.dataLength.toNat > frameMaxLength then
      some (.error (-eproto))
    else do
      let data ← loadBytes message (headerSize + 12) wire.dataLength.toNat
      some (.ok (.mgmtTxStatus wire.cookie wire.acknowledged wire.dataLength data))

def loadEapol (message : List Byte) : Option (Except Int EventData) :=
  if message.length ≠ headerSize + rtwoCtrlEapolFrame.size then
    some (.error (-eproto))
  else do
    let wire ← load rtwoCtrlEapolFrame message headerSize
    if wire.dataLength.toNat > eapolMaxLength then
      some (.error (-eproto))
    else do
      let data ← loadBytes message (headerSize + 14) wire.dataLength.toNat
      some (.ok (.eapolRx wire.source.toList wire.destination.toList wire.dataLength data))

def loadFirmwareError (message : List Byte) : Option (Except Int EventData) :=
  if message.length ≠ headerSize + rtwoCtrlFirmwareError.size then
    some (.error (-eproto))
  else do
    let wire ← load rtwoCtrlFirmwareError message headerSize
    if wire.dumpLength.toNat > ieMaxLength then
      some (.error (-eproto))
    else do
      let dump ← loadBytes message (headerSize + 6) wire.dumpLength.toNat
      some (.ok (.firmwareError wire.reason wire.dumpLength dump))

def loadExternalAuth (requestId : BitVec 32) (message : List Byte) : Option (Except Int EventData) :=
  if message.length ≠ headerSize + rtwoCtrlExternalAuth.size then
    some (.error (-eproto))
  else do
    let wire ← load rtwoCtrlExternalAuth message headerSize
    if requestId = 0#32 ∨ wire.reserved ≠ 0#8 ∨ wire.ssid.length = 0#8
        ∨ wire.ssid.length.toNat > ssidMaxLength then
      some (.error (-eproto))
    else do
      let ssid ← loadBytes message (headerSize + 1) wire.ssid.length.toNat
      some (.ok (.externalAuthRequired ⟨wire.ssid.length, ssid⟩ wire.bssid.toList wire.akmSuite))

def loadEmpty (data : EventData) (message : List Byte) : Option (Except Int EventData) :=
  some (if message.length ≠ headerSize then .error (-eproto) else .ok data)

def loadData (header : RtwoCtrlHeader) (message : List Byte) : Option (Except Int EventData) :=
  match WlanOffloadEventType.ofWire header.type with
  | some .radioOnline => loadEmpty .radioOnline message
  | some .radioOffline => loadEmpty .radioOffline message
  | some .scanResult => loadNetwork message
  | some .scanDone => loadEmpty .scanDone message
  | some .connectResult => loadEmpty .connectResult message
  | some .disconnected => loadDisconnected message
  | some .authRx => loadFrame .auth message
  | some .assocRx => loadFrame .assoc message
  | some .mgmtRx => loadFrame .mgmt message
  | some .mgmtTxStatus => loadTxStatus message
  | some .eapolRx => loadEapol message
  | some .regulatoryChanged => loadEmpty .regulatoryChanged message
  | some .firmwareError => loadFirmwareError message
  | some .externalAuthRequired => loadExternalAuth header.requestId message
  | none => some (.error (-enomsg))

/-
`wlan_offload_decode_event` on the bytes of a message.
-/
def decodeEventBytes (message : List Byte) : Option (Except Int WlanOffloadEvent) := do
  let header ← load rtwoCtrlHeader message 0
  match ← loadData header message with
  | .error ret => some (.error ret)
  | .ok data =>
    some (.ok {
      interfaceType := header.iftype
      requestId := header.requestId
      status := header.status
      truncated := header.flags &&& flagTruncated != 0#8
      overflow := header.flags &&& flagOverflow != 0#8
      data
    })

end Wlan

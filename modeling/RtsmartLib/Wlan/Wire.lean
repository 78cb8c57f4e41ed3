import RtsmartLib.Lib.Errno
import RtsmartLib.Lib.Layout

/-!
This module contains the messages of a WLAN offload control device, and the decoding of replies and
events.
-/

namespace Wlan

open Lib Posix

abbrev Byte := BitVec 8

def rtwoCtrlVersion : BitVec 16 := 2#16
def rtwoCtrlMaxMessageSize : Nat := 4096
def rtwoCtrlMaxDeviceName : Nat := 24

def flagTruncated : Byte := 1#8
def flagOverflow : Byte := 2#8

def rtwoCtrlCmdGetInfo : BitVec 16 := 1#16
def rtwoCtrlCmdGetNames : BitVec 16 := 14#16

def eventInfo : BitVec 16 := 0x8000#16
def eventRadioOnline : BitVec 16 := 0x8001#16
def eventRadioOffline : BitVec 16 := 0x8002#16
def eventScanResult : BitVec 16 := 0x8003#16
def eventScanDone : BitVec 16 := 0x8004#16
def eventConnectResult : BitVec 16 := 0x8005#16
def eventDisconnected : BitVec 16 := 0x8006#16
def eventAuthRx : BitVec 16 := 0x8007#16
def eventAssocRx : BitVec 16 := 0x8008#16
def eventMgmtRx : BitVec 16 := 0x8009#16
def eventMgmtTxStatus : BitVec 16 := 0x800a#16
def eventEapolRx : BitVec 16 := 0x800b#16
def eventRegulatoryChanged : BitVec 16 := 0x800c#16
def eventFirmwareError : BitVec 16 := 0x800d#16
def eventExternalAuthRequired : BitVec 16 := 0x800e#16
def eventNames : BitVec 16 := 0x800f#16

def interfaceStation : Byte := 0#8
def interfaceAp : Byte := 1#8
def interfaceNone : Byte := 255#8

def ssidMaxLength : Nat := 32
def ieMaxLength : Nat := 1024
def frameMaxLength : Nat := 2304
def eapolMaxLength : Nat := 1600

structure RtwoCtrlHeader where
  version : BitVec 16
  type : BitVec 16
  length : BitVec 32
  requestId : BitVec 32
  status : BitVec 32
  iftype : Byte
  flags : Byte
  reserved : BitVec 16
  deriving DecidableEq

def headerSize : Nat := 20

/-
A message of at least the size of a header.
-/
structure Message where
  header : RtwoCtrlHeader
  payload : List Byte
  deriving DecidableEq

def Message.length (m : Message) : Nat := headerSize + m.payload.length

def u8 (payload : List Byte) (offset : Nat) : Byte := payload.getD offset 0#8

def u16 (payload : List Byte) (offset : Nat) : BitVec 16 :=
  u8 payload (offset + 1) ++ u8 payload offset

def u32 (payload : List Byte) (offset : Nat) : BitVec 32 :=
  u16 payload (offset + 2) ++ u16 payload offset

def u64 (payload : List Byte) (offset : Nat) : BitVec 64 :=
  u32 payload (offset + 4) ++ u32 payload offset

def bytes (payload : List Byte) (offset length : Nat) : List Byte :=
  (payload.drop offset).take length

structure RtwoCtrlChannel where
  primaryFrequencyMhz : BitVec 16
  centerFrequency1Mhz : BitVec 16
  centerFrequency2Mhz : BitVec 16
  primaryChannel : BitVec 16
  band : Byte
  width : Byte
  reserved : Vector Byte 2
  deriving DecidableEq

open Layout in
def rtwoCtrlChannel : Layout RtwoCtrlChannel :=
  (word16.seq <| word16.seq <| word16.seq <| word16.seq <| byte.seq <| byte.seq <| byte.array 2).map
    {
      toFun := fun c => (c.primaryFrequencyMhz, c.centerFrequency1Mhz, c.centerFrequency2Mhz,
        c.primaryChannel, c.band, c.width, c.reserved)
      invFun := fun (primary, center1, center2, number, band, width, reserved) =>
        ⟨primary, center1, center2, number, band, width, reserved⟩
      left_inv := fun _ => rfl
      right_inv := fun _ => rfl
    }

/-
The band and the width are enumerators, which C lets be any unsigned integer.
-/
structure WlanOffloadChannel where
  band : BitVec 32
  width : BitVec 32
  primaryChannel : BitVec 16
  primaryFrequencyMhz : BitVec 16
  centerFrequency1Mhz : BitVec 16
  centerFrequency2Mhz : BitVec 16
  deriving DecidableEq

def rtwoCtrlBandUnspecified : Byte := 255#8

def rtwoCtrlChannelWidth320 : Byte := 6#8

def bandUnspecified : BitVec 32 := 255#32
def band6Ghz : BitVec 32 := 2#32

def channelWidth20NoHt : BitVec 32 := 0#32
def channelWidth20 : BitVec 32 := 1#32
def channelWidth40 : BitVec 32 := 2#32
def channelWidth80 : BitVec 32 := 3#32
def channelWidth80P80 : BitVec 32 := 4#32
def channelWidth160 : BitVec 32 := 5#32
def channelWidth320 : BitVec 32 := 6#32

def wlanOffloadChannelGeometryValid (channel : WlanOffloadChannel) : Bool :=
  let offset :=
    if channel.centerFrequency1Mhz > channel.primaryFrequencyMhz then
      (channel.centerFrequency1Mhz - channel.primaryFrequencyMhz).toNat
    else
      (channel.primaryFrequencyMhz - channel.centerFrequency1Mhz).toNat
  let center2 := channel.centerFrequency2Mhz
  if channel.width = channelWidth20NoHt ∨ channel.width = channelWidth20 then
    offset = 0 ∧ center2 = 0#16
  else if channel.width = channelWidth40 then
    offset = 10 ∧ center2 = 0#16
  else if channel.width = channelWidth80 then
    (offset = 10 ∨ offset = 30) ∧ center2 = 0#16
  else if channel.width = channelWidth80P80 then
    (offset = 10 ∨ offset = 30) ∧ center2 ≠ 0#16 ∧ center2 ≠ channel.centerFrequency1Mhz
  else if channel.width = channelWidth160 then
    (offset = 10 ∨ offset = 30 ∨ offset = 50 ∨ offset = 70) ∧ center2 = 0#16
  else if channel.width = channelWidth320 then
    offset ≥ 10 ∧ offset ≤ 150 ∧ offset % 20 = 10 ∧ center2 = 0#16
  else
    false

/-
What the encoder makes of a channel, with eight bits for each of the two enumerators, and the decoder of a
wire value.
-/
def wireOf (channel : WlanOffloadChannel) : RtwoCtrlChannel where
  primaryFrequencyMhz := channel.primaryFrequencyMhz
  centerFrequency1Mhz := channel.centerFrequency1Mhz
  centerFrequency2Mhz := channel.centerFrequency2Mhz
  primaryChannel := channel.primaryChannel
  band := if channel.band = bandUnspecified then rtwoCtrlBandUnspecified else channel.band.setWidth 8
  width := channel.width.setWidth 8
  reserved := Vector.replicate 2 0#8

def channelOf (wire : RtwoCtrlChannel) : WlanOffloadChannel where
  band := if wire.band = rtwoCtrlBandUnspecified then bandUnspecified else wire.band.setWidth 32
  width := wire.width.setWidth 32
  primaryChannel := wire.primaryChannel
  primaryFrequencyMhz := wire.primaryFrequencyMhz
  centerFrequency1Mhz := wire.centerFrequency1Mhz
  centerFrequency2Mhz := wire.centerFrequency2Mhz

def wlanOffloadChannelToWire (channel : WlanOffloadChannel) (allowUnspecified : Bool)
    : Except Int RtwoCtrlChannel :=
  if channel.width > channelWidth320 then
    .error (-einval)
  else if channel.band = bandUnspecified then
    if !allowUnspecified ∨ channel.primaryChannel ≠ 0#16 ∨ channel.primaryFrequencyMhz ≠ 0#16
        ∨ channel.centerFrequency1Mhz ≠ 0#16 ∨ channel.centerFrequency2Mhz ≠ 0#16 then
      .error (-einval)
    else
      .ok (wireOf channel)
  else if channel.band > band6Ghz ∨ channel.primaryChannel = 0#16 ∨ channel.primaryFrequencyMhz = 0#16
      ∨ channel.centerFrequency1Mhz = 0#16
      ∨ (channel.width = channelWidth80P80 ∧ channel.centerFrequency2Mhz = 0#16)
      ∨ wlanOffloadChannelGeometryValid channel = false then
    .error (-einval)
  else
    .ok (wireOf channel)

def wlanOffloadChannelFromWire (wire : RtwoCtrlChannel) (allowUnspecified : Bool)
    : Except Int WlanOffloadChannel :=
  if wire.reserved[0] ≠ 0#8 ∨ wire.reserved[1] ≠ 0#8 ∨ wire.width > rtwoCtrlChannelWidth320 then
    .error (-eproto)
  else
    match wlanOffloadChannelToWire (channelOf wire) allowUnspecified with
    | .error _ => .error (-eproto)
    | .ok _ => .ok (channelOf wire)

structure WlanOffloadInfo where
  capabilities : BitVec 32
  phyCapabilities : BitVec 32
  cipherMask : BitVec 32
  interfaceTypeMask : BitVec 32
  maxFrameSize : BitVec 32
  frameworkApiVersion : BitVec 32
  firmwareProtocolVersion : BitVec 32
  firmwareVersion : BitVec 32
  firmwareFeatures : BitVec 32
  firmwareGeneration : BitVec 32
  maxScanIeLength : BitVec 16
  maxStations : BitVec 16
  maxScanSsids : Byte
  bandMask : Byte
  maxVifs : Byte
  maxChannelContexts : Byte
  address : List Byte
  deriving DecidableEq

structure WlanOffloadNames where
  control : List Byte
  station : List Byte
  ap : List Byte
  radioIndex : Byte
  deriving DecidableEq

def infoSize : Nat := 56
def namesSize : Nat := 76

def decodeInfo (payload : List Byte) : WlanOffloadInfo where
  capabilities := u32 payload 0
  phyCapabilities := u32 payload 4
  cipherMask := u32 payload 8
  interfaceTypeMask := u32 payload 12
  maxFrameSize := u32 payload 16
  frameworkApiVersion := u32 payload 20
  firmwareProtocolVersion := u32 payload 24
  firmwareVersion := u32 payload 28
  firmwareFeatures := u32 payload 32
  firmwareGeneration := u32 payload 36
  maxScanIeLength := u16 payload 40
  maxStations := u16 payload 42
  maxScanSsids := u8 payload 44
  bandMask := u8 payload 45
  maxVifs := u8 payload 46
  maxChannelContexts := u8 payload 47
  address := bytes payload 48 6

/-
A device name of the wire, with its last byte replaced by the end of the string.
-/
def deviceName (payload : List Byte) (offset : Nat) : List Byte :=
  (bytes payload offset rtwoCtrlMaxDeviceName).set (rtwoCtrlMaxDeviceName - 1) 0#8

def decodeNames (payload : List Byte) : WlanOffloadNames where
  control := deviceName payload 0
  station := deviceName payload 24
  ap := deviceName payload 48
  radioIndex := u8 payload 72

structure WlanOffloadSsid where
  length : Byte
  value : List Byte
  deriving DecidableEq

inductive FrameKind where
  | auth
  | assoc
  | mgmt
  deriving DecidableEq

inductive EventData where
  | radioOnline
  | radioOffline
  | scanResult (ssid : WlanOffloadSsid) (bssid : List Byte) (channel : WlanOffloadChannel)
      (rssi : BitVec 16) (security : BitVec 32) (beaconInterval capability iesLength : BitVec 16)
      (ies : List Byte)
  | scanDone
  | connectResult
  | disconnected (bssid : List Byte) (reason : BitVec 16) (locallyGenerated : Byte)
  | frameRx (kind : FrameKind) (channel : WlanOffloadChannel) (rssi length : BitVec 16)
      (data : List Byte)
  | mgmtTxStatus (cookie : BitVec 64) (acknowledged : Byte) (length : BitVec 16) (data : List Byte)
  | eapolRx (source destination : List Byte) (length : BitVec 16) (data : List Byte)
  | regulatoryChanged
  | firmwareError (reason : BitVec 32) (dumpLength : BitVec 16) (dump : List Byte)
  | externalAuthRequired (ssid : WlanOffloadSsid) (bssid : List Byte) (akmSuite : BitVec 32)
  deriving DecidableEq

structure WlanOffloadEvent where
  interfaceType : Byte
  requestId : BitVec 32
  status : BitVec 32
  truncated : Bool
  overflow : Bool
  data : EventData
  deriving DecidableEq

/-
The payloads of the events that have one, at the offsets of the wire structures.
-/
def decodeScanResult (payload : List Byte) : Except Int EventData :=
  if payload.length ≠ 1092 then
    .error (-eproto)
  else
    let length := u8 payload 0
    let iesLength := u16 payload 64
    if length.toNat > ssidMaxLength ∨ iesLength.toNat > ieMaxLength then
      .error (-eproto)
    else
      match wlanOffloadChannelFromWire (rtwoCtrlChannel.read (payload.drop 40)) false with
      | .error ret => .error ret
      | .ok channel =>
        .ok (.scanResult ⟨length, bytes payload 1 length.toNat⟩ (bytes payload 33 6) channel
          (u16 payload 52) (u32 payload 56) (u16 payload 60) (u16 payload 62) iesLength
          (bytes payload 66 iesLength.toNat))

def decodeDisconnected (payload : List Byte) : Except Int EventData :=
  if payload.length ≠ 10 then
    .error (-eproto)
  else
    .ok (.disconnected (bytes payload 0 6) (u16 payload 6) (u8 payload 8))

def decodeFrame (kind : FrameKind) (payload : List Byte) : Except Int EventData :=
  if payload.length ≠ 2320 then
    .error (-eproto)
  else
    let dataLength := u16 payload 14
    if dataLength.toNat > frameMaxLength then
      .error (-eproto)
    else
      match wlanOffloadChannelFromWire (rtwoCtrlChannel.read payload) false with
      | .error ret => .error ret
      | .ok channel =>
        .ok (.frameRx kind channel (u16 payload 12) dataLength (bytes payload 16 dataLength.toNat))

def decodeMgmtTxStatus (payload : List Byte) : Except Int EventData :=
  if payload.length ≠ 2320 then
    .error (-eproto)
  else
    let dataLength := u16 payload 10
    if dataLength.toNat > frameMaxLength then
      .error (-eproto)
    else
      .ok (.mgmtTxStatus (u64 payload 0) (u8 payload 8) dataLength (bytes payload 12 dataLength.toNat))

def decodeEapolRx (payload : List Byte) : Except Int EventData :=
  if payload.length ≠ 1614 then
    .error (-eproto)
  else
    let dataLength := u16 payload 12
    if dataLength.toNat > eapolMaxLength then
      .error (-eproto)
    else
      .ok (.eapolRx (bytes payload 0 6) (bytes payload 6 6) dataLength
        (bytes payload 14 dataLength.toNat))

def decodeFirmwareError (payload : List Byte) : Except Int EventData :=
  if payload.length ≠ 1032 then
    .error (-eproto)
  else
    let dumpLength := u16 payload 4
    if dumpLength.toNat > ieMaxLength then
      .error (-eproto)
    else
      .ok (.firmwareError (u32 payload 0) dumpLength (bytes payload 6 dumpLength.toNat))

def decodeExternalAuth (requestId : BitVec 32) (payload : List Byte) : Except Int EventData :=
  if payload.length ≠ 44 then
    .error (-eproto)
  else
    let length := u8 payload 0
    if requestId = 0#32 ∨ u8 payload 39 ≠ 0#8 ∨ length = 0#8 ∨ length.toNat > ssidMaxLength then
      .error (-eproto)
    else
      .ok (.externalAuthRequired ⟨length, bytes payload 1 length.toNat⟩ (bytes payload 33 6)
        (u32 payload 40))

def decodeEmpty (data : EventData) (payload : List Byte) : Except Int EventData :=
  if payload.length ≠ 0 then .error (-eproto) else .ok data

def decodeData (header : RtwoCtrlHeader) (payload : List Byte) : Except Int EventData :=
  if header.type = eventRadioOnline then decodeEmpty .radioOnline payload
  else if header.type = eventRadioOffline then decodeEmpty .radioOffline payload
  else if header.type = eventScanResult then decodeScanResult payload
  else if header.type = eventScanDone then decodeEmpty .scanDone payload
  else if header.type = eventConnectResult then decodeEmpty .connectResult payload
  else if header.type = eventDisconnected then decodeDisconnected payload
  else if header.type = eventAuthRx then decodeFrame .auth payload
  else if header.type = eventAssocRx then decodeFrame .assoc payload
  else if header.type = eventMgmtRx then decodeFrame .mgmt payload
  else if header.type = eventMgmtTxStatus then decodeMgmtTxStatus payload
  else if header.type = eventEapolRx then decodeEapolRx payload
  else if header.type = eventRegulatoryChanged then decodeEmpty .regulatoryChanged payload
  else if header.type = eventFirmwareError then decodeFirmwareError payload
  else if header.type = eventExternalAuthRequired then decodeExternalAuth header.requestId payload
  else .error (-enomsg)

def wlanOffloadDecodeEvent (m : Message) : Except Int WlanOffloadEvent :=
  match decodeData m.header m.payload with
  | .error ret => .error ret
  | .ok data =>
    .ok {
      interfaceType := m.header.iftype
      requestId := m.header.requestId
      status := m.header.status
      truncated := m.header.flags &&& flagTruncated != 0#8
      overflow := m.header.flags &&& flagOverflow != 0#8
      data := data
    }

/-
The checks that a message has to pass when it is read.
-/
def messageAccepted (m : Message) : Bool :=
  m.header.version == rtwoCtrlVersion
    && m.header.length.toNat == m.length
    && decide (m.length ≤ rtwoCtrlMaxMessageSize)
    && m.header.reserved == 0#16
    && (decide (m.header.iftype ≤ interfaceAp) || m.header.iftype == interfaceNone)
    && m.header.flags &&& ~~~(flagTruncated ||| flagOverflow) == 0#8

end Wlan

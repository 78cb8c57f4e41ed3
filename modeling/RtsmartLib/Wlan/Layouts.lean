import RtsmartLib.Wlan.Wire

/-!
This module contains the structures that commands and events of a WLAN offload control device consist of.
-/

namespace Wlan

open Lib Posix

open Layout in
def rtwoCtrlHeader : Layout RtwoCtrlHeader :=
  (word16.seq <| word16.seq <| word32.seq <| word32.seq <| word32.seq <| byte.seq <|
      byte.seq word16).map
    {
      toFun := fun h =>
        (h.version, h.type, h.length, h.requestId, h.status, h.iftype, h.flags, h.reserved)
      invFun := fun (version, type, length, requestId, status, iftype, flags, reserved) =>
        ⟨version, type, length, requestId, status, iftype, flags, reserved⟩
      left_inv := fun _ => rfl
      right_inv := fun _ => rfl
    }

def payloadOf (message : List Byte) : List Byte := message.drop headerSize

/-
An SSID has the same members in the parameters of a command and on the wire.
-/
structure RtwoCtrlSsid where
  length : Byte
  value : Vector Byte 32
  deriving DecidableEq

def rtwoCtrlSsid : Layout RtwoCtrlSsid :=
  (Layout.byte.seq (Layout.byte.array 32)).map
    {
      toFun := fun s => (s.length, s.value)
      invFun := fun (length, value) => ⟨length, value⟩
      left_inv := fun _ => rfl
      right_inv := fun _ => rfl
    }

structure RtwoCtrlScanRequest where
  flags : BitVec 32
  durationMs : BitVec 16
  ssidCount : Byte
  channelCount : Byte
  iesLength : BitVec 16
  bssid : Vector Byte 6
  ssids : Vector RtwoCtrlSsid 4
  channels : Vector RtwoCtrlChannel 64
  ies : Vector Byte 1024

open Layout in
def rtwoCtrlScanRequest : Layout RtwoCtrlScanRequest :=
  (word32.seq <| word16.seq <| byte.seq <| byte.seq <| word16.seq <| (byte.array 6).seq <|
      (rtwoCtrlSsid.array 4).seq <| (rtwoCtrlChannel.array 64).seq <| byte.array 1024).map
    {
      toFun := fun r => (r.flags, r.durationMs, r.ssidCount, r.channelCount, r.iesLength, r.bssid,
        r.ssids, r.channels, r.ies)
      invFun := fun (flags, durationMs, ssidCount, channelCount, iesLength, bssid, ssids, channels,
        ies) =>
        ⟨flags, durationMs, ssidCount, channelCount, iesLength, bssid, ssids, channels, ies⟩
      left_inv := fun _ => rfl
      right_inv := fun _ => rfl
    }

structure RtwoCtrlAuthRequest where
  ssid : RtwoCtrlSsid
  bssid : Vector Byte 6
  channel : RtwoCtrlChannel
  authType : Byte
  reserved : Vector Byte 3
  dataLength : BitVec 16
  data : Vector Byte 1024

/-
The channel is aligned to two bytes.
-/
open Layout in
def rtwoCtrlAuthRequest : Layout RtwoCtrlAuthRequest :=
  (rtwoCtrlSsid.seq <| (byte.array 6).seq <| (pad 1).seq <| rtwoCtrlChannel.seq <| byte.seq <|
      (byte.array 3).seq <| word16.seq <| byte.array 1024).map
    {
      toFun := fun r =>
        (r.ssid, r.bssid, (), r.channel, r.authType, r.reserved, r.dataLength, r.data)
      invFun := fun (ssid, bssid, (), channel, authType, reserved, dataLength, data) =>
        ⟨ssid, bssid, channel, authType, reserved, dataLength, data⟩
      left_inv := fun _ => rfl
      right_inv := fun _ => rfl
    }

structure RtwoCtrlAssocRequest where
  bssid : Vector Byte 6
  iesLength : BitVec 16
  ies : Vector Byte 1024

open Layout in
def rtwoCtrlAssocRequest : Layout RtwoCtrlAssocRequest :=
  ((byte.array 6).seq <| word16.seq <| byte.array 1024).map
    {
      toFun := fun r => (r.bssid, r.iesLength, r.ies)
      invFun := fun (bssid, iesLength, ies) => ⟨bssid, iesLength, ies⟩
      left_inv := fun _ => rfl
      right_inv := fun _ => rfl
    }

structure RtwoCtrlKeyRequest where
  cipher : BitVec 32
  index : Byte
  pairwise : Byte
  setTransmit : Byte
  keyLength : Byte
  peer : Vector Byte 6
  sequenceLength : Byte
  reserved : Byte
  key : Vector Byte 64
  sequence : Vector Byte 16

open Layout in
def rtwoCtrlKeyRequest : Layout RtwoCtrlKeyRequest :=
  (word32.seq <| byte.seq <| byte.seq <| byte.seq <| byte.seq <| (byte.array 6).seq <| byte.seq <|
      byte.seq <| (byte.array 64).seq <| byte.array 16).map
    {
      toFun := fun r => (r.cipher, r.index, r.pairwise, r.setTransmit, r.keyLength, r.peer,
        r.sequenceLength, r.reserved, r.key, r.sequence)
      invFun := fun (cipher, index, pairwise, setTransmit, keyLength, peer, sequenceLength, reserved,
        key, sequence) =>
        ⟨cipher, index, pairwise, setTransmit, keyLength, peer, sequenceLength, reserved, key,
          sequence⟩
      left_inv := fun _ => rfl
      right_inv := fun _ => rfl
    }

structure RtwoCtrlMgmtFrame where
  channel : RtwoCtrlChannel
  offChannel : Byte
  reserved : Vector Byte 3
  waitMs : BitVec 32
  cookie : BitVec 64
  dataLength : BitVec 16
  data : Vector Byte 2304

/-
The cookie and the whole are aligned to eight bytes.
-/
open Layout in
def rtwoCtrlMgmtFrame : Layout RtwoCtrlMgmtFrame :=
  (rtwoCtrlChannel.seq <| byte.seq <| (byte.array 3).seq <| word32.seq <| (pad 4).seq <|
      word64.seq <| word16.seq <| (byte.array 2304).seq <| pad 6).map
    {
      toFun := fun r =>
        (r.channel, r.offChannel, r.reserved, r.waitMs, (), r.cookie, r.dataLength, r.data, ())
      invFun := fun (channel, offChannel, reserved, waitMs, (), cookie, dataLength, data, ()) =>
        ⟨channel, offChannel, reserved, waitMs, cookie, dataLength, data⟩
      left_inv := fun _ => rfl
      right_inv := fun _ => rfl
    }

structure RtwoCtrlEapolFrame where
  source : Vector Byte 6
  destination : Vector Byte 6
  dataLength : BitVec 16
  data : Vector Byte 1600

open Layout in
def rtwoCtrlEapolFrame : Layout RtwoCtrlEapolFrame :=
  ((byte.array 6).seq <| (byte.array 6).seq <| word16.seq <| byte.array 1600).map
    {
      toFun := fun r => (r.source, r.destination, r.dataLength, r.data)
      invFun := fun (source, destination, dataLength, data) =>
        ⟨source, destination, dataLength, data⟩
      left_inv := fun _ => rfl
      right_inv := fun _ => rfl
    }

structure RtwoCtrlNetwork where
  ssid : RtwoCtrlSsid
  bssid : Vector Byte 6
  channel : RtwoCtrlChannel
  rssi : BitVec 16
  security : BitVec 32
  beaconInterval : BitVec 16
  capability : BitVec 16
  iesLength : BitVec 16
  ies : Vector Byte 1024

open Layout in
def rtwoCtrlNetwork : Layout RtwoCtrlNetwork :=
  (rtwoCtrlSsid.seq <| (byte.array 6).seq <| (pad 1).seq <| rtwoCtrlChannel.seq <| word16.seq <|
      (pad 2).seq <| word32.seq <| word16.seq <| word16.seq <| word16.seq <|
      (byte.array 1024).seq <| pad 2).map
    {
      toFun := fun r => (r.ssid, r.bssid, (), r.channel, r.rssi, (), r.security, r.beaconInterval,
        r.capability, r.iesLength, r.ies, ())
      invFun := fun (ssid, bssid, (), channel, rssi, (), security, beaconInterval, capability,
        iesLength, ies, ()) =>
        ⟨ssid, bssid, channel, rssi, security, beaconInterval, capability, iesLength, ies⟩
      left_inv := fun _ => rfl
      right_inv := fun _ => rfl
    }

structure RtwoCtrlDisconnected where
  bssid : Vector Byte 6
  reason : BitVec 16
  locallyGenerated : Byte
  reserved : Byte

open Layout in
def rtwoCtrlDisconnected : Layout RtwoCtrlDisconnected :=
  ((byte.array 6).seq <| word16.seq <| byte.seq byte).map
    {
      toFun := fun r => (r.bssid, r.reason, r.locallyGenerated, r.reserved)
      invFun := fun (bssid, reason, locallyGenerated, reserved) =>
        ⟨bssid, reason, locallyGenerated, reserved⟩
      left_inv := fun _ => rfl
      right_inv := fun _ => rfl
    }

structure RtwoCtrlRxFrame where
  channel : RtwoCtrlChannel
  rssi : BitVec 16
  dataLength : BitVec 16
  data : Vector Byte 2304

open Layout in
def rtwoCtrlRxFrame : Layout RtwoCtrlRxFrame :=
  (rtwoCtrlChannel.seq <| word16.seq <| word16.seq <| byte.array 2304).map
    {
      toFun := fun r => (r.channel, r.rssi, r.dataLength, r.data)
      invFun := fun (channel, rssi, dataLength, data) => ⟨channel, rssi, dataLength, data⟩
      left_inv := fun _ => rfl
      right_inv := fun _ => rfl
    }

structure RtwoCtrlTxStatus where
  cookie : BitVec 64
  acknowledged : Byte
  reserved : Byte
  dataLength : BitVec 16
  data : Vector Byte 2304

open Layout in
def rtwoCtrlTxStatus : Layout RtwoCtrlTxStatus :=
  (word64.seq <| byte.seq <| byte.seq <| word16.seq <| (byte.array 2304).seq <| pad 4).map
    {
      toFun := fun r => (r.cookie, r.acknowledged, r.reserved, r.dataLength, r.data, ())
      invFun := fun (cookie, acknowledged, reserved, dataLength, data, ()) =>
        ⟨cookie, acknowledged, reserved, dataLength, data⟩
      left_inv := fun _ => rfl
      right_inv := fun _ => rfl
    }

structure RtwoCtrlFirmwareError where
  reason : BitVec 32
  dumpLength : BitVec 16
  dump : Vector Byte 1024

open Layout in
def rtwoCtrlFirmwareError : Layout RtwoCtrlFirmwareError :=
  (word32.seq <| word16.seq <| (byte.array 1024).seq <| pad 2).map
    {
      toFun := fun r => (r.reason, r.dumpLength, r.dump, ())
      invFun := fun (reason, dumpLength, dump, ()) => ⟨reason, dumpLength, dump⟩
      left_inv := fun _ => rfl
      right_inv := fun _ => rfl
    }

structure RtwoCtrlExternalAuth where
  ssid : RtwoCtrlSsid
  bssid : Vector Byte 6
  reserved : Byte
  akmSuite : BitVec 32

open Layout in
def rtwoCtrlExternalAuth : Layout RtwoCtrlExternalAuth :=
  (rtwoCtrlSsid.seq <| (byte.array 6).seq <| byte.seq word32).map
    {
      toFun := fun r => (r.ssid, r.bssid, r.reserved, r.akmSuite)
      invFun := fun (ssid, bssid, reserved, akmSuite) => ⟨ssid, bssid, reserved, akmSuite⟩
      left_inv := fun _ => rfl
      right_inv := fun _ => rfl
    }

/-
The sizes that the client is compiled against.
-/
example : rtwoCtrlHeader.size = 20 ∧ rtwoCtrlScanRequest.size = 1940 ∧ rtwoCtrlAuthRequest.size = 1082
    ∧ rtwoCtrlMgmtFrame.size = 2344 ∧ rtwoCtrlExternalAuth.size = 44 := by decide

end Wlan

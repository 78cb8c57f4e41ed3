import RtsmartLib.Wlan.Client
import RtsmartLib.Wlan.Layouts

/-!
This module contains the commands of a WLAN offload client that carry parameters, down to the bytes that
they write to the control device.
-/

namespace Wlan

open Lib Posix

def rtwoCtrlCmdScan : BitVec 16 := 3#16
def rtwoCtrlCmdAuthenticate : BitVec 16 := 5#16
def rtwoCtrlCmdAssociate : BitVec 16 := 6#16
def rtwoCtrlCmdSetKey : BitVec 16 := 8#16
def rtwoCtrlCmdMgmtTx : BitVec 16 := 11#16
def rtwoCtrlCmdEapolTx : BitVec 16 := 12#16

def maxScanSsids : Nat := 4
def maxScanChannels : Nat := 64
def maxKeyLength : Nat := 64
def maxSequenceLength : Nat := 16

def scanFlags : BitVec 32 := 7#32
def authAutomatic : BitVec 32 := 4#32
def cipherAesCmac : BitVec 32 := 8#32

structure WlanOffloadHandle where
  fd : Int
  nextRequestId : BitVec 32

/-
What happens in the course of a command: whether there is memory for the message, and what the calls of
`write` return.
-/
structure SendCall where
  outOfMemory : Bool
  writes : List (Except Errno Nat)

/-
What a command has done. It has not returned if `ret` is `none`.
-/
structure Sent where
  ret : Option Int
  handle : Option WlanOffloadHandle
  message : Option (List Byte)
  requestId : Option (BitVec 32)

def refuse (handle : Option WlanOffloadHandle) (errno : Errno) : Sent := ⟨some (-errno), handle, none, none⟩

def handleValid (handle : Option WlanOffloadHandle) : Bool :=
  match handle with
  | none => false
  | some handle => handle.fd ≥ 0

def interfaceTypeValid (interfaceType : BitVec 32) : Bool :=
  interfaceType == 0#32 || interfaceType == 1#32

/-
Writes until that is not interrupted.
-/
def writeMessage (writes : List (Except Errno Nat)) : Option (Except Errno Nat) :=
  match writes with
  | [] => none
  | .error errno :: writes => if errno = eintr then writeMessage writes else some (.error errno)
  | .ok n :: _ => some (.ok n)

def wlanOffloadSendCommandId (handle : Option WlanOffloadHandle) (type : BitVec 16)
    (interfaceType requestId : BitVec 32) (payload : List Byte) (call : SendCall) : Sent :=
  if !handleValid handle ∨ !interfaceTypeValid interfaceType ∨ requestId = 0#32 then
    refuse handle einval
  else
    let length := headerSize + payload.length
    if length > rtwoCtrlMaxMessageSize then
      refuse handle emsgsize
    else if call.outOfMemory then
      refuse handle enomem
    else
      let header : RtwoCtrlHeader := {
        version := rtwoCtrlVersion
        type
        length := BitVec.ofNat 32 length
        requestId
        status := 0#32
        iftype := interfaceType.setWidth 8
        flags := 0#8
        reserved := 0#16
      }
      let message := rtwoCtrlHeader.write header ++ payload
      match writeMessage call.writes with
      | none => ⟨none, handle, some message, none⟩
      | some (.error errno) => ⟨some (-errno), handle, some message, none⟩
      | some (.ok written) =>
        if written ≠ length then
          ⟨some (-eio), handle, some message, none⟩
        else
          ⟨some 0, handle, some message, none⟩

def wlanOffloadSendCommand (handle : Option WlanOffloadHandle) (type : BitVec 16)
    (interfaceType : BitVec 32) (payload : List Byte) (call : SendCall) : Sent :=
  match handle with
  | none => refuse none einval
  | some h =>
    if !handleValid (some h) then
      refuse handle einval
    else
      let id := wlanOffloadNextRequestId h.nextRequestId
      let res := wlanOffloadSendCommandId (some { h with nextRequestId := id }) type interfaceType id
        payload call
      { res with requestId := if res.ret = some 0 then some id else none }

/--
A pointer and a count: what the pointer leads to, and the promise that there are as many elements.
-/
structure CArray (α : Type) where
  data : Option (List α)
  count : BitVec 64
  promised : ∀ elems, data = some elems → count.toNat ≤ elems.length

namespace CArray

variable {α : Type}

def missing (a : CArray α) : Bool := a.count != 0#64 && a.data.isNone

def elems (a : CArray α) : List α := (a.data.getD []).take a.count.toNat

end CArray

def memcpy {n : Nat} (dst : Vector Byte n) (src : List Byte) (count : Nat) : Vector Byte n :=
  Vector.ofFn fun i => if i < count then src.getD i 0#8 else dst[i]

def zeros (n : Nat) : Vector Byte n := Vector.replicate n 0#8

def copySsid (ssid : RtwoCtrlSsid) : RtwoCtrlSsid :=
  ⟨ssid.length, memcpy (zeros 32) ssid.value.toList ssid.length.toNat⟩

def scanSsid (ssid : RtwoCtrlSsid) : Except Int RtwoCtrlSsid :=
  if ssid.length.toNat > ssidMaxLength then .error (-einval) else .ok (copySsid ssid)

/-
Converts the elements of an array one by one.
-/
def fillArray {α β : Type} {n : Nat} (convert : α → Except Int β) (array : Vector β n) (index : Nat)
    (elems : List α) : Except Int (Vector β n) :=
  match elems with
  | [] => .ok array
  | elem :: elems =>
    match convert elem with
    | .error _ => .error (-einval)
    | .ok wire => fillArray convert (array.setIfInBounds index wire) (index + 1) elems

structure WlanOffloadScanParams where
  flags : BitVec 32
  durationMs : BitVec 16
  ssids : CArray RtwoCtrlSsid
  channels : CArray WlanOffloadChannel
  bssid : Vector Byte 6
  ies : CArray Byte

def zeroSsid : RtwoCtrlSsid := ⟨0#8, zeros 32⟩

def zeroChannel : RtwoCtrlChannel := ⟨0#16, 0#16, 0#16, 0#16, 0#8, 0#8, zeros 2⟩

def wlanOffloadScan (handle : Option WlanOffloadHandle) (interfaceType : BitVec 32)
    (params : Option WlanOffloadScanParams) (call : SendCall) : Sent :=
  match params with
  | none => refuse handle einval
  | some params =>
    if params.ssids.count.toNat > maxScanSsids ∨ params.channels.count.toNat > maxScanChannels
        ∨ params.ies.count.toNat > ieMaxLength ∨ params.flags &&& ~~~scanFlags ≠ 0#32
        ∨ params.ssids.missing ∨ params.channels.missing ∨ params.ies.missing then
      refuse handle einval
    else
      match fillArray scanSsid (Vector.replicate 4 zeroSsid) 0 params.ssids.elems with
      | .error _ => refuse handle einval
      | .ok ssids =>
        match fillArray (wlanOffloadChannelToWire · false) (Vector.replicate 64 zeroChannel) 0
          params.channels.elems with
        | .error _ => refuse handle einval
        | .ok channels =>
          let request : RtwoCtrlScanRequest := {
            flags := params.flags
            durationMs := params.durationMs
            ssidCount := params.ssids.count.setWidth 8
            channelCount := params.channels.count.setWidth 8
            iesLength := params.ies.count.setWidth 16
            bssid := params.bssid
            ssids
            channels
            ies := memcpy (zeros 1024) params.ies.elems params.ies.count.toNat
          }
          wlanOffloadSendCommand handle rtwoCtrlCmdScan interfaceType
            (rtwoCtrlScanRequest.write request) call

structure WlanOffloadAuthParams where
  ssid : RtwoCtrlSsid
  bssid : Vector Byte 6
  channel : WlanOffloadChannel
  authType : BitVec 32
  data : CArray Byte

def wlanOffloadAuthenticate (handle : Option WlanOffloadHandle) (interfaceType : BitVec 32)
    (params : Option WlanOffloadAuthParams) (call : SendCall) : Sent :=
  match params with
  | none => refuse handle einval
  | some params =>
    if params.ssid.length.toNat > ssidMaxLength ∨ params.authType > authAutomatic
        ∨ params.data.count.toNat > ieMaxLength ∨ params.data.missing then
      refuse handle einval
    else
      match wlanOffloadChannelToWire params.channel false with
      | .error _ => refuse handle einval
      | .ok channel =>
        let request : RtwoCtrlAuthRequest := {
          ssid := copySsid params.ssid
          bssid := params.bssid
          channel
          authType := params.authType.setWidth 8
          reserved := zeros 3
          dataLength := params.data.count.setWidth 16
          data := memcpy (zeros 1024) params.data.elems params.data.count.toNat
        }
        wlanOffloadSendCommand handle rtwoCtrlCmdAuthenticate interfaceType
          (rtwoCtrlAuthRequest.write request) call

structure WlanOffloadAssocParams where
  bssid : Vector Byte 6
  ies : CArray Byte

def wlanOffloadAssociate (handle : Option WlanOffloadHandle) (interfaceType : BitVec 32)
    (params : Option WlanOffloadAssocParams) (call : SendCall) : Sent :=
  match params with
  | none => refuse handle einval
  | some params =>
    if params.ies.count.toNat > ieMaxLength ∨ params.ies.missing then
      refuse handle einval
    else
      let request : RtwoCtrlAssocRequest := {
        bssid := params.bssid
        iesLength := params.ies.count.setWidth 16
        ies := memcpy (zeros 1024) params.ies.elems params.ies.count.toNat
      }
      wlanOffloadSendCommand handle rtwoCtrlCmdAssociate interfaceType
        (rtwoCtrlAssocRequest.write request) call

structure WlanOffloadKey where
  cipher : BitVec 32
  index : Byte
  pairwise : Byte
  setTransmit : Byte
  peer : Vector Byte 6
  data : CArray Byte
  sequence : CArray Byte

def wlanOffloadSetKey (handle : Option WlanOffloadHandle) (interfaceType : BitVec 32)
    (key : Option WlanOffloadKey) (call : SendCall) : Sent :=
  match key with
  | none => refuse handle einval
  | some key =>
    if key.cipher > cipherAesCmac ∨ key.data.data.isNone ∨ key.data.count = 0#64
        ∨ key.data.count.toNat > maxKeyLength ∨ key.sequence.count.toNat > maxSequenceLength
        ∨ key.sequence.missing ∨ key.pairwise > 1#8 ∨ key.setTransmit > 1#8 then
      refuse handle einval
    else
      let request : RtwoCtrlKeyRequest := {
        cipher := key.cipher
        index := key.index
        pairwise := key.pairwise
        setTransmit := key.setTransmit
        keyLength := key.data.count.setWidth 8
        peer := key.peer
        sequenceLength := key.sequence.count.setWidth 8
        reserved := 0#8
        key := memcpy (zeros 64) key.data.elems key.data.count.toNat
        sequence := memcpy (zeros 16) key.sequence.elems key.sequence.count.toNat
      }
      wlanOffloadSendCommand handle rtwoCtrlCmdSetKey interfaceType (rtwoCtrlKeyRequest.write request)
        call

structure WlanOffloadMgmtFrame where
  channel : WlanOffloadChannel
  offChannel : Byte
  waitMs : BitVec 32
  cookie : BitVec 64
  data : CArray Byte

def wlanOffloadSendMgmt (handle : Option WlanOffloadHandle) (interfaceType : BitVec 32)
    (frame : Option WlanOffloadMgmtFrame) (call : SendCall) : Sent :=
  match frame with
  | none => refuse handle einval
  | some frame =>
    if frame.data.data.isNone ∨ frame.data.count = 0#64 ∨ frame.data.count.toNat > frameMaxLength
        ∨ frame.offChannel > 1#8 then
      refuse handle einval
    else
      match wlanOffloadChannelToWire frame.channel false with
      | .error _ => refuse handle einval
      | .ok channel =>
        let request : RtwoCtrlMgmtFrame := {
          channel
          offChannel := frame.offChannel
          reserved := zeros 3
          waitMs := frame.waitMs
          cookie := frame.cookie
          dataLength := frame.data.count.setWidth 16
          data := memcpy (zeros 2304) frame.data.elems frame.data.count.toNat
        }
        wlanOffloadSendCommand handle rtwoCtrlCmdMgmtTx interfaceType
          (rtwoCtrlMgmtFrame.write request) call

def wlanOffloadSendEapol (handle : Option WlanOffloadHandle) (interfaceType : BitVec 32)
    (destination : Option (Vector Byte 6)) (data : CArray Byte) (call : SendCall) : Sent :=
  match destination with
  | none => refuse handle einval
  | some destination =>
    if data.data.isNone ∨ data.count = 0#64 ∨ data.count.toNat > eapolMaxLength then
      refuse handle einval
    else
      let frame : RtwoCtrlEapolFrame := {
        source := zeros 6
        destination
        dataLength := data.count.setWidth 16
        data := memcpy (zeros 1600) data.elems data.count.toNat
      }
      wlanOffloadSendCommand handle rtwoCtrlCmdEapolTx interfaceType (rtwoCtrlEapolFrame.write frame)
        call

end Wlan

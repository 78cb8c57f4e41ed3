import RtsmartLib.Wlan.Channel
import RtsmartLib.Wlan.Command
import Mathlib.Algebra.Order.Group.Nat

/-!
This module contains what the messages of the commands tell about the parameters.
-/

namespace Wlan

open Lib Posix

inductive WlanCommand where
  | scan (params : WlanOffloadScanParams)
  | authenticate (params : WlanOffloadAuthParams)
  | associate (params : WlanOffloadAssocParams)
  | setKey (key : WlanOffloadKey)
  | sendMgmt (frame : WlanOffloadMgmtFrame)
  | sendEapol (destination : Vector Byte 6) (data : CArray Byte)

def WlanCommand.send (command : WlanCommand) (handle : Option WlanOffloadHandle)
    (interfaceType : BitVec 32) (call : SendCall) : Sent :=
  match command with
  | .scan params => wlanOffloadScan handle interfaceType (some params) call
  | .authenticate params => wlanOffloadAuthenticate handle interfaceType (some params) call
  | .associate params => wlanOffloadAssociate handle interfaceType (some params) call
  | .setKey key => wlanOffloadSetKey handle interfaceType (some key) call
  | .sendMgmt frame => wlanOffloadSendMgmt handle interfaceType (some frame) call
  | .sendEapol destination data => wlanOffloadSendEapol handle interfaceType (some destination) data call

/-
What the parameters of a command say. Elements come with their count and bytes with their length, and what
stands behind them is left out.
-/
inductive CommandContent where
  | scan (flags : BitVec 32) (durationMs : BitVec 16) (ssids : BitVec 64 × List (Byte × List Byte))
      (channels : BitVec 64 × List WlanOffloadChannel) (bssid : Vector Byte 6)
      (ies : BitVec 64 × List Byte)
  | authenticate (ssid : Byte × List Byte) (bssid : Vector Byte 6) (channel : WlanOffloadChannel)
      (authType : BitVec 32) (data : BitVec 64 × List Byte)
  | associate (bssid : Vector Byte 6) (ies : BitVec 64 × List Byte)
  | setKey (cipher : BitVec 32) (index pairwise setTransmit : Byte) (peer : Vector Byte 6)
      (data sequence : BitVec 64 × List Byte)
  | sendMgmt (channel : WlanOffloadChannel) (offChannel : Byte) (waitMs : BitVec 32)
      (cookie : BitVec 64) (data : BitVec 64 × List Byte)
  | sendEapol (destination : Vector Byte 6) (data : BitVec 64 × List Byte)

def RtwoCtrlSsid.content (ssid : RtwoCtrlSsid) : Byte × List Byte :=
  (ssid.length, ssid.value.toList.take ssid.length.toNat)

def CArray.content {α : Type} (a : CArray α) : BitVec 64 × List α := (a.count, a.elems)

def WlanCommand.content (command : WlanCommand) : CommandContent :=
  match command with
  | .scan params =>
    .scan params.flags params.durationMs
      (params.ssids.count, params.ssids.elems.map RtwoCtrlSsid.content) params.channels.content
      params.bssid params.ies.content
  | .authenticate params =>
    .authenticate params.ssid.content params.bssid params.channel params.authType params.data.content
  | .associate params => .associate params.bssid params.ies.content
  | .setKey key =>
    .setKey key.cipher key.index key.pairwise key.setTransmit key.peer key.data.content
      key.sequence.content
  | .sendMgmt frame =>
    .sendMgmt frame.channel frame.offChannel frame.waitMs frame.cookie frame.data.content
  | .sendEapol destination data => .sendEapol destination data.content

/-
What a receiver reads off the wire: a length of eight or sixteen bits, and so many of the bytes.
-/
def received {w n : Nat} (length : BitVec w) (array : Vector Byte n) : BitVec 64 × List Byte :=
  (length.setWidth 64, array.toList.take length.toNat)

def RtwoCtrlScanRequest.content (r : RtwoCtrlScanRequest) : CommandContent :=
  .scan r.flags r.durationMs
    (r.ssidCount.setWidth 64, (r.ssids.toList.take r.ssidCount.toNat).map RtwoCtrlSsid.content)
    (r.channelCount.setWidth 64, (r.channels.toList.take r.channelCount.toNat).map channelOf)
    r.bssid (received r.iesLength r.ies)

def RtwoCtrlAuthRequest.content (r : RtwoCtrlAuthRequest) : CommandContent :=
  .authenticate r.ssid.content r.bssid (channelOf r.channel) (r.authType.setWidth 32)
    (received r.dataLength r.data)

def RtwoCtrlAssocRequest.content (r : RtwoCtrlAssocRequest) : CommandContent :=
  .associate r.bssid (received r.iesLength r.ies)

def RtwoCtrlKeyRequest.content (r : RtwoCtrlKeyRequest) : CommandContent :=
  .setKey r.cipher r.index r.pairwise r.setTransmit r.peer (received r.keyLength r.key)
    (received r.sequenceLength r.sequence)

def RtwoCtrlMgmtFrame.content (r : RtwoCtrlMgmtFrame) : CommandContent :=
  .sendMgmt (channelOf r.channel) r.offChannel r.waitMs r.cookie (received r.dataLength r.data)

def RtwoCtrlEapolFrame.content (r : RtwoCtrlEapolFrame) : CommandContent :=
  .sendEapol r.destination (received r.dataLength r.data)

/-
The types of the messages, which tell the requests apart.
-/
inductive CommandKind where
  | scan
  | authenticate
  | associate
  | setKey
  | sendMgmt
  | sendEapol
  deriving DecidableEq

def CommandKind.type (kind : CommandKind) : BitVec 16 :=
  match kind with
  | .scan => rtwoCtrlCmdScan
  | .authenticate => rtwoCtrlCmdAuthenticate
  | .associate => rtwoCtrlCmdAssociate
  | .setKey => rtwoCtrlCmdSetKey
  | .sendMgmt => rtwoCtrlCmdMgmtTx
  | .sendEapol => rtwoCtrlCmdEapolTx

def WlanCommand.kind (command : WlanCommand) : CommandKind :=
  match command with
  | .scan _ => .scan
  | .authenticate _ => .authenticate
  | .associate _ => .associate
  | .setKey _ => .setKey
  | .sendMgmt _ => .sendMgmt
  | .sendEapol _ _ => .sendEapol

def CommandKind.ofType (type : BitVec 16) : Option CommandKind :=
  [.scan, .authenticate, .associate, .setKey, .sendMgmt, .sendEapol].find? (·.type = type)

def CommandKind.size (kind : CommandKind) : Nat :=
  match kind with
  | .scan => rtwoCtrlScanRequest.size
  | .authenticate => rtwoCtrlAuthRequest.size
  | .associate => rtwoCtrlAssocRequest.size
  | .setKey => rtwoCtrlKeyRequest.size
  | .sendMgmt => rtwoCtrlMgmtFrame.size
  | .sendEapol => rtwoCtrlEapolFrame.size

def CommandKind.content (kind : CommandKind) (payload : List Byte) : CommandContent :=
  match kind with
  | .scan => (rtwoCtrlScanRequest.read payload).content
  | .authenticate => (rtwoCtrlAuthRequest.read payload).content
  | .associate => (rtwoCtrlAssocRequest.read payload).content
  | .setKey => (rtwoCtrlKeyRequest.read payload).content
  | .sendMgmt => (rtwoCtrlMgmtFrame.read payload).content
  | .sendEapol => (rtwoCtrlEapolFrame.read payload).content

/-
The parameters of a command, read off its message.
-/
def messageContent (message : List Byte) : Option CommandContent :=
  match CommandKind.ofType (rtwoCtrlHeader.read message).type with
  | none => none
  | some kind => some (kind.content (payloadOf message))

theorem CommandKind.ofType_type (kind : CommandKind) : CommandKind.ofType kind.type = some kind := by
  cases kind <;> decide

theorem CommandKind.eq_of_size {kind kind' : CommandKind} (h : kind.size = kind'.size)
    : kind = kind' := by
  revert h
  cases kind <;> cases kind' <;> decide

/-
A message whose header tells its type and its length.
-/
def Wrote (sent : Sent) (type : BitVec 16) (payload : List Byte) : Prop :=
  ∃ header : RtwoCtrlHeader,
    sent.message = some (rtwoCtrlHeader.write header ++ payload)
      ∧ header.type = type
      ∧ header.length.toNat = headerSize + payload.length
      ∧ headerSize + payload.length ≤ rtwoCtrlMaxMessageSize

variable {handle : Option WlanOffloadHandle} {interfaceType : BitVec 32} {call : SendCall}
  {type : BitVec 16} {payload : List Byte}

theorem refuse_ret (handle : Option WlanOffloadHandle) (errno : Errno)
    : (refuse handle errno).ret ≠ some 0 := by
  intro h
  have hzero : -(errno : Int) = 0 := Option.some.inj h
  have := errno.neg_lt
  omega

theorem sendCommandId_wrote {requestId : BitVec 32}
    (h : (wlanOffloadSendCommandId handle type interfaceType requestId payload call).ret = some 0)
    : Wrote (wlanOffloadSendCommandId handle type interfaceType requestId payload call) type
        payload := by
  unfold wlanOffloadSendCommandId at h ⊢
  split at h
  . exact absurd h (refuse_ret _ _)
  next hvalid =>
    rw [if_neg hvalid]
    dsimp only at h ⊢
    split at h
    . exact absurd h (refuse_ret _ _)
    next hlimit =>
      rw [if_neg hlimit]
      split at h
      . exact absurd h (refuse_ret _ _)
      next hmemory =>
        rw [if_neg hmemory]
        have hlength : (BitVec.ofNat 32 (headerSize + payload.length)).toNat
            = headerSize + payload.length := by
          rw [BitVec.toNat_ofNat]
          unfold rtwoCtrlMaxMessageSize at hlimit
          omega
        split
        all_goals try split
        all_goals exact ⟨_, rfl, rfl, hlength, Nat.le_of_not_lt hlimit⟩

theorem sendCommand_wrote
    (h : (wlanOffloadSendCommand handle type interfaceType payload call).ret = some 0)
    : Wrote (wlanOffloadSendCommand handle type interfaceType payload call) type payload := by
  unfold wlanOffloadSendCommand at h ⊢
  cases handle with
  | none => exact absurd h (refuse_ret _ _)
  | some handle =>
    dsimp only at h ⊢
    split at h
    . exact absurd h (refuse_ret _ _)
    next hvalid =>
      rw [if_neg hvalid]
      exact sendCommandId_wrote h

theorem CArray.elems_length {α : Type} {a : CArray α} (h : a.missing = false)
    : a.elems.length = a.count.toNat := by
  unfold elems
  rw [List.length_take]
  cases hdata : a.data with
  | some elems =>
    have := a.promised elems hdata
    rw [Option.getD_some]
    omega
  | none =>
    have hcount : a.count = 0#64 := by simpa [missing, hdata] using h
    simp [hcount]

/-
A length keeps its value on the wire if the bytes fit an array of less than `2 ^ w` bytes.
-/
theorem setWidth_narrow {count : BitVec 64} {n w : Nat} (hcount : count.toNat ≤ n) (hn : n < 2 ^ w)
    : (count.setWidth w).toNat = count.toNat := by
  rw [BitVec.toNat_setWidth]
  apply Nat.mod_eq_of_lt
  omega

theorem setWidth_widen {count : BitVec 64} {n w : Nat} (hcount : count.toNat ≤ n) (hn : n < 2 ^ w)
    : (count.setWidth w).setWidth 64 = count := by
  apply BitVec.eq_of_toNat_eq
  rw [BitVec.toNat_setWidth, setWidth_narrow hcount hn]
  exact Nat.mod_eq_of_lt count.isLt

theorem take_memcpy {n : Nat} (dst : Vector Byte n) {src : List Byte} {count : Nat} (hn : count ≤ n)
    (hsrc : count ≤ src.length)
    : (memcpy dst src count).toList.take count = src.take count := by
  apply List.ext_getElem
  . simp
    omega
  . intro i hi hi'
    have hcount : i < count := by
      rw [List.length_take] at hi'
      omega
    have hlength : i < src.length := by omega
    simp [memcpy, hcount, hlength]

theorem received_memcpy {n w : Nat} {a : CArray Byte} (hmissing : a.missing = false)
    (hcount : a.count.toNat ≤ n) (hn : n < 2 ^ w)
    : received (a.count.setWidth w) (memcpy (zeros n) a.elems a.count.toNat) = a.content := by
  have hlength := CArray.elems_length hmissing
  unfold received CArray.content
  rw [setWidth_widen hcount hn, setWidth_narrow hcount hn, take_memcpy _ hcount (Nat.le_of_eq hlength.symm),
    ← hlength, List.take_length]

theorem copySsid_content {ssid : RtwoCtrlSsid} (h : ssid.length.toNat ≤ ssidMaxLength)
    : (copySsid ssid).content = ssid.content := by
  unfold copySsid RtwoCtrlSsid.content
  dsimp only
  have h : ssid.length.toNat ≤ 32 := h
  have hvalue : ssid.length.toNat ≤ ssid.value.toList.length := by simpa using h
  rw [take_memcpy _ h hvalue]

/-
What a filled array says is what the elements said, one after the other.
-/
theorem fillArray_map {α β γ : Type} {n : Nat} {convert : α → Except Int β} {back : β → γ}
    {view : α → γ} (hback : ∀ a b, convert a = .ok b → back b = view a) (elems : List α)
    (array : Vector β n) (index : Nat) {filled : Vector β n}
    (h : fillArray convert array index elems = .ok filled) (hn : index + elems.length ≤ n)
    : (filled.toList.take (index + elems.length)).map back
        = (array.toList.take index).map back ++ elems.map view := by
  induction elems generalizing array index with
  | nil =>
    cases h
    simp
  | cons elem elems ih =>
    rw [List.length_cons] at hn
    unfold fillArray at h
    split at h
    . cases h
    next wire hwire =>
      have hrest := ih (array.setIfInBounds index wire) (index + 1) h (by omega)
      have htake : (array.setIfInBounds index wire).toList.take (index + 1)
          = array.toList.take index ++ [wire] := by
        have hindex : index < (array.toList.set index wire).length := by
          rw [List.length_set, Vector.length_toList]
          omega
        rw [Vector.toList_setIfInBounds, List.take_add_one, List.getElem?_eq_getElem hindex,
          List.take_set_of_le (Nat.le_refl index), List.getElem_set_self]
        rfl
      rw [htake] at hrest
      have hindex : index + (elem :: elems).length = index + 1 + elems.length := by
        rw [List.length_cons]
        omega
      rw [hindex, hrest, List.map_append, List.append_assoc, List.map_cons, hback elem wire hwire]
      rfl

theorem fillArray_received {α β γ : Type} {n : Nat} {convert : α → Except Int β} {back : β → γ}
    {view : α → γ} (hback : ∀ a b, convert a = .ok b → back b = view a) {a : CArray α}
    {array filled : Vector β n} (hmissing : a.missing = false)
    (h : fillArray convert array 0 a.elems = .ok filled) (hcount : a.count.toNat ≤ n)
    (hn : n < 256)
    : ((a.count.setWidth 8).setWidth 64, (filled.toList.take (a.count.setWidth 8).toNat).map back)
        = (a.count, a.elems.map view) := by
  have hlength := CArray.elems_length hmissing
  have hmap := fillArray_map hback a.elems array 0 h (by omega)
  rw [Nat.zero_add, List.take_zero, List.map_nil, List.nil_append, hlength] at hmap
  rw [setWidth_widen hcount hn, setWidth_narrow hcount hn, hmap]

/-
A command that returns 0 has written a request with all that its parameters say.
-/
def WroteRequest {α : Type} (sent : Sent) (type : BitVec 16) (layout : Layout α)
    (content : α → CommandContent) (command : WlanCommand) : Prop :=
  ∃ request, Wrote sent type (layout.write request) ∧ content request = command.content

theorem channelOf_toWire {channel : WlanOffloadChannel} {allowUnspecified : Bool}
    {wire : RtwoCtrlChannel} (h : wlanOffloadChannelToWire channel allowUnspecified = .ok wire)
    : channelOf wire = channel := by
  have ⟨hwire, hwidth, hband⟩ := channelToWire_ok h
  rw [hwire]
  exact channelOf_wireOf hwidth hband

theorem scan_wrote (params : WlanOffloadScanParams)
    (h : (wlanOffloadScan handle interfaceType (some params) call).ret = some 0)
    : WroteRequest (wlanOffloadScan handle interfaceType (some params) call) rtwoCtrlCmdScan
        rtwoCtrlScanRequest RtwoCtrlScanRequest.content (.scan params) := by
  unfold wlanOffloadScan at h ⊢
  dsimp only at h ⊢
  split at h
  . exact absurd h (refuse_ret _ _)
  next hparams =>
    rw [if_neg hparams]
    split at h
    . exact absurd h (refuse_ret _ _)
    next ssids hssids =>
      split at h
      . exact absurd h (refuse_ret _ _)
      next channels hchannels =>
        refine ⟨_, sendCommand_wrote h, ?_⟩
        simp only [not_or, Nat.not_lt, Bool.not_eq_true, maxScanSsids, maxScanChannels, ieMaxLength]
          at hparams
        obtain ⟨hssidCount, hchannelCount, hiesLength, _, hssidData, hchannelData, hiesData⟩ := hparams
        have hssid : ∀ ssid wire, scanSsid ssid = .ok wire → wire.content = ssid.content := by
          intro ssid wire hwire
          unfold scanSsid at hwire
          split at hwire
          . cases hwire
          next hlength =>
            cases hwire
            exact copySsid_content (Nat.le_of_not_lt hlength)
        have hchannel : ∀ channel wire, wlanOffloadChannelToWire channel false = .ok wire →
            channelOf wire = id channel := by
          intro channel wire hwire
          exact channelOf_toWire hwire
        -- the arrays are filled element by element, the other fields at once
        have hssids := fillArray_received hssid hssidData hssids hssidCount (by omega)
        have hchannels := fillArray_received hchannel hchannelData hchannels hchannelCount (by omega)
        unfold RtwoCtrlScanRequest.content WlanCommand.content
        dsimp only
        rw [hssids, hchannels, received_memcpy hiesData hiesLength (by omega), List.map_id]
        rfl

theorem authenticate_wrote (params : WlanOffloadAuthParams)
    (h : (wlanOffloadAuthenticate handle interfaceType (some params) call).ret = some 0)
    : WroteRequest (wlanOffloadAuthenticate handle interfaceType (some params) call)
        rtwoCtrlCmdAuthenticate rtwoCtrlAuthRequest RtwoCtrlAuthRequest.content
        (.authenticate params) := by
  unfold wlanOffloadAuthenticate at h ⊢
  dsimp only at h ⊢
  split at h
  . exact absurd h (refuse_ret _ _)
  next hparams =>
    rw [if_neg hparams]
    split at h
    . exact absurd h (refuse_ret _ _)
    next channel hchannel =>
      refine ⟨_, sendCommand_wrote h, ?_⟩
      simp only [not_or, Nat.not_lt, Bool.not_eq_true, ieMaxLength] at hparams
      obtain ⟨hssid, hauthType, hdataLength, hdata⟩ := hparams
      have hauthType := setWidth_setWidth_le (BitVec.not_lt.mp hauthType) (by omega)
      unfold RtwoCtrlAuthRequest.content WlanCommand.content
      dsimp only
      rw [copySsid_content hssid, channelOf_toWire hchannel, hauthType,
        received_memcpy hdata hdataLength (by omega)]

theorem associate_wrote (params : WlanOffloadAssocParams)
    (h : (wlanOffloadAssociate handle interfaceType (some params) call).ret = some 0)
    : WroteRequest (wlanOffloadAssociate handle interfaceType (some params) call)
        rtwoCtrlCmdAssociate rtwoCtrlAssocRequest RtwoCtrlAssocRequest.content (.associate params) := by
  unfold wlanOffloadAssociate at h ⊢
  dsimp only at h ⊢
  split at h
  . exact absurd h (refuse_ret _ _)
  next hparams =>
    rw [if_neg hparams]
    refine ⟨_, sendCommand_wrote h, ?_⟩
    simp only [not_or, Nat.not_lt, Bool.not_eq_true, ieMaxLength] at hparams
    unfold RtwoCtrlAssocRequest.content WlanCommand.content
    dsimp only
    rw [received_memcpy hparams.2 hparams.1 (by omega)]

theorem missing_of_data {a : CArray Byte} (h : a.data.isNone = false) : a.missing = false := by
  unfold CArray.missing
  rw [h, Bool.and_false]

theorem setKey_wrote (key : WlanOffloadKey)
    (h : (wlanOffloadSetKey handle interfaceType (some key) call).ret = some 0)
    : WroteRequest (wlanOffloadSetKey handle interfaceType (some key) call)
        rtwoCtrlCmdSetKey rtwoCtrlKeyRequest RtwoCtrlKeyRequest.content (.setKey key) := by
  unfold wlanOffloadSetKey at h ⊢
  dsimp only at h ⊢
  split at h
  . exact absurd h (refuse_ret _ _)
  next hkey =>
    rw [if_neg hkey]
    refine ⟨_, sendCommand_wrote h, ?_⟩
    simp only [not_or, Nat.not_lt, Bool.not_eq_true, maxKeyLength, maxSequenceLength] at hkey
    obtain ⟨_, hdata, _, hdataLength, hsequenceLength, hsequence, _⟩ := hkey
    unfold RtwoCtrlKeyRequest.content WlanCommand.content
    dsimp only
    rw [received_memcpy (missing_of_data hdata) hdataLength (by omega),
      received_memcpy hsequence hsequenceLength (by omega)]

theorem sendMgmt_wrote (frame : WlanOffloadMgmtFrame)
    (h : (wlanOffloadSendMgmt handle interfaceType (some frame) call).ret = some 0)
    : WroteRequest (wlanOffloadSendMgmt handle interfaceType (some frame) call)
        rtwoCtrlCmdMgmtTx rtwoCtrlMgmtFrame RtwoCtrlMgmtFrame.content (.sendMgmt frame) := by
  unfold wlanOffloadSendMgmt at h ⊢
  dsimp only at h ⊢
  split at h
  . exact absurd h (refuse_ret _ _)
  next hframe =>
    rw [if_neg hframe]
    split at h
    . exact absurd h (refuse_ret _ _)
    next channel hchannel =>
      refine ⟨_, sendCommand_wrote h, ?_⟩
      simp only [not_or, Nat.not_lt, Bool.not_eq_true, frameMaxLength] at hframe
      obtain ⟨hdata, _, hdataLength, _⟩ := hframe
      unfold RtwoCtrlMgmtFrame.content WlanCommand.content
      dsimp only
      rw [channelOf_toWire hchannel, received_memcpy (missing_of_data hdata) hdataLength (by omega)]

theorem sendEapol_wrote (destination : Vector Byte 6) (data : CArray Byte)
    (h : (wlanOffloadSendEapol handle interfaceType (some destination) data call).ret = some 0)
    : WroteRequest (wlanOffloadSendEapol handle interfaceType (some destination) data call)
        rtwoCtrlCmdEapolTx rtwoCtrlEapolFrame RtwoCtrlEapolFrame.content
        (.sendEapol destination data) := by
  unfold wlanOffloadSendEapol at h ⊢
  dsimp only at h ⊢
  split at h
  . exact absurd h (refuse_ret _ _)
  next hdata =>
    rw [if_neg hdata]
    refine ⟨_, sendCommand_wrote h, ?_⟩
    simp only [not_or, Nat.not_lt, Bool.not_eq_true, eapolMaxLength] at hdata
    obtain ⟨hdata, _, hdataLength⟩ := hdata
    unfold RtwoCtrlEapolFrame.content WlanCommand.content
    dsimp only
    rw [received_memcpy (missing_of_data hdata) hdataLength (by omega)]

theorem WroteRequest.ofKind {α : Type} {sent : Sent} {layout : Layout α}
    {content : α → CommandContent} {command : WlanCommand}
    (h : WroteRequest sent command.kind.type layout content command)
    (hsize : command.kind.size = layout.size)
    (hcontent : ∀ bytes, command.kind.content bytes = content (layout.read bytes))
    : ∃ payload, Wrote sent command.kind.type payload
        ∧ payload.length = command.kind.size
        ∧ command.kind.content payload = command.content := by
  obtain ⟨request, hwrote, hrequest⟩ := h
  refine ⟨layout.write request, hwrote, ?_, ?_⟩
  . rw [hsize, layout.write_length]
  . rw [hcontent, layout.read_write_self, hrequest]

theorem WlanCommand.send_wrote (command : WlanCommand)
    (h : (command.send handle interfaceType call).ret = some 0)
    : ∃ payload, Wrote (command.send handle interfaceType call) command.kind.type payload
        ∧ payload.length = command.kind.size
        ∧ command.kind.content payload = command.content := by
  cases command with
  | scan params => exact WroteRequest.ofKind (scan_wrote params h) rfl fun _ => rfl
  | authenticate params => exact WroteRequest.ofKind (authenticate_wrote params h) rfl fun _ => rfl
  | associate params => exact WroteRequest.ofKind (associate_wrote params h) rfl fun _ => rfl
  | setKey key => exact WroteRequest.ofKind (setKey_wrote key h) rfl fun _ => rfl
  | sendMgmt frame => exact WroteRequest.ofKind (sendMgmt_wrote frame h) rfl fun _ => rfl
  | sendEapol destination data => exact WroteRequest.ofKind (sendEapol_wrote destination data h) rfl fun _ => rfl

theorem Wrote.read {sent : Sent} (h : Wrote sent type payload)
    : ∃ message, sent.message = some message
        ∧ message.length ≤ rtwoCtrlMaxMessageSize
        ∧ (rtwoCtrlHeader.read message).length.toNat = message.length
        ∧ (rtwoCtrlHeader.read message).type = type
        ∧ payloadOf message = payload := by
  obtain ⟨header, hmessage, htype, hlength, hlimit⟩ := h
  have hsize : (rtwoCtrlHeader.write header ++ payload).length = headerSize + payload.length := by
    rw [List.length_append, rtwoCtrlHeader.write_length]
    rfl
  refine ⟨_, hmessage, ?_, ?_, ?_, ?_⟩
  . rw [hsize]
    exact hlimit
  . rw [rtwoCtrlHeader.read_write, hlength, hsize]
  . rw [rtwoCtrlHeader.read_write, htype]
  . exact rtwoCtrlHeader.drop_write header payload

/--
The message of an accepted command tells all that its parameters say, and so does its payload alone.
-/
theorem WlanCommand.send_recoverable (command : WlanCommand) (handle : Option WlanOffloadHandle)
    (interfaceType : BitVec 32) (call : SendCall)
    (h : (command.send handle interfaceType call).ret = some 0)
    : ∃ message, (command.send handle interfaceType call).message = some message
        ∧ message.length ≤ rtwoCtrlMaxMessageSize
        ∧ (rtwoCtrlHeader.read message).length.toNat = message.length
        ∧ messageContent message = some command.content
        ∧ ∀ (command' : WlanCommand) (handle' : Option WlanOffloadHandle) (interfaceType' : BitVec 32)
            (call' : SendCall) (message' : List Byte),
          (command'.send handle' interfaceType' call').ret = some 0 →
            (command'.send handle' interfaceType' call').message = some message' →
              payloadOf message' = payloadOf message → command'.content = command.content := by
  obtain ⟨payload, hwrote, hsize, hcontent⟩ := command.send_wrote h
  obtain ⟨message, hmessage, hlimit, hlength, htype, hpayload⟩ := hwrote.read
  refine ⟨message, hmessage, hlimit, hlength, ?_, ?_⟩
  . unfold messageContent
    rw [htype, CommandKind.ofType_type, hpayload]
    exact congrArg some hcontent
  . intro command' handle' interfaceType' call' message' h' hmessage' hsame
    obtain ⟨payload', hwrote', hsize', hcontent'⟩ := command'.send_wrote h'
    obtain ⟨sent', hsent', _, _, _, hpayload'⟩ := hwrote'.read
    have hsent : sent' = message' := Option.some.inj (hsent'.symm.trans hmessage')
    have heq : payload' = payload := by
      rw [← hpayload', hsent, hsame, hpayload]
    -- no two kinds of payloads have the same size
    have hkind : command'.kind = command.kind := by
      apply CommandKind.eq_of_size
      rw [← hsize', ← hsize, heq]
    rw [← hcontent, ← hcontent', hkind, heq]

/-
A command that the device takes as a whole.
-/
theorem sendCommand_ret {handle : WlanOffloadHandle} {writes : List (Except Errno Nat)} (hfd : 0 ≤ handle.fd)
    (hinterface : interfaceTypeValid interfaceType = true)
    (hid : wlanOffloadNextRequestId handle.nextRequestId ≠ 0#32)
    (hlimit : headerSize + payload.length ≤ rtwoCtrlMaxMessageSize)
    (hwrites : writeMessage writes = some (.ok (headerSize + payload.length)))
    : (wlanOffloadSendCommand (some handle) type interfaceType payload ⟨false, writes⟩).ret = some 0 := by
  have hvalid : ∀ requestId, handleValid (some ⟨handle.fd, requestId⟩) = true := by
    intro requestId
    exact decide_eq_true hfd
  unfold wlanOffloadSendCommand wlanOffloadSendCommandId
  dsimp only
  rw [if_neg (by rw [hvalid handle.nextRequestId]; decide)]
  rw [if_neg (by rw [hvalid, hinterface]; simp [hid])]
  rw [if_neg (Nat.not_lt.mpr hlimit), if_neg Bool.false_ne_true, hwrites]
  dsimp only
  rw [if_neg fun h => h rfl]

/-
A scan for two networks on three channels, through a device that takes the whole message after one interruption.
-/
def scanSsids : List RtwoCtrlSsid :=
  [
    ⟨4#8, #v[0x68#8, 0x6f#8, 0x6d#8, 0x65#8] ++ Vector.replicate 28 0#8⟩,
    ⟨3#8, #v[0x6c#8, 0x61#8, 0x62#8] ++ Vector.replicate 29 0xff#8⟩
  ]

def scanChannels : List WlanOffloadChannel :=
  [
    ⟨0#32, 1#32, 6#16, 2437#16, 2437#16, 0#16⟩,
    ⟨1#32, 3#32, 36#16, 5180#16, 5210#16, 0#16⟩,
    ⟨1#32, 4#32, 36#16, 5180#16, 5210#16, 5775#16⟩
  ]

def twoNetworkScan : WlanOffloadScanParams where
  flags := 1#32
  durationMs := 100#16
  ssids := ⟨some scanSsids, 2#64, by rintro elems ⟨⟩; decide⟩
  channels := ⟨some scanChannels, 3#64, by rintro elems ⟨⟩; decide⟩
  bssid := Vector.replicate 6 0xff#8
  ies := ⟨some [0xdd#8, 1#8, 7#8], 3#64, by rintro elems ⟨⟩; decide⟩

theorem twoNetworkScan_sent
    : ((WlanCommand.scan twoNetworkScan).send (some ⟨3, 0#32⟩) 0#32 ⟨false, [.error eintr, .ok 1960]⟩).ret
        = some 0 := by
  have hssids : ∃ ssids, fillArray scanSsid (Vector.replicate 4 zeroSsid) 0 twoNetworkScan.ssids.elems
      = .ok ssids := ⟨_, rfl⟩
  have hchannels : ∃ channels, fillArray (wlanOffloadChannelToWire · false) (Vector.replicate 64 zeroChannel) 0
      twoNetworkScan.channels.elems = .ok channels := ⟨_, rfl⟩
  obtain ⟨ssids, hssids⟩ := hssids
  obtain ⟨channels, hchannels⟩ := hchannels
  unfold WlanCommand.send wlanOffloadScan
  dsimp only
  rw [if_neg (by decide), hssids]
  dsimp only
  rw [hchannels]
  apply sendCommand_ret
  . decide
  . decide
  . decide
  . rw [rtwoCtrlScanRequest.write_length]
    decide
  . rw [rtwoCtrlScanRequest.write_length]
    rfl

theorem twoNetworkScan_recoverable
    : ∃ message, ((WlanCommand.scan twoNetworkScan).send (some ⟨3, 0#32⟩) 0#32
          ⟨false, [.error eintr, .ok 1960]⟩).message = some message
        ∧ messageContent message
          = some (.scan 1#32 100#16 (2#64, [(4#8, [0x68#8, 0x6f#8, 0x6d#8, 0x65#8]), (3#8, [0x6c#8, 0x61#8, 0x62#8])])
              (3#64, scanChannels) (Vector.replicate 6 0xff#8) (3#64, [0xdd#8, 1#8, 7#8])) := by
  have ⟨message, hmessage, _, _, hcontent, _⟩ := (WlanCommand.scan twoNetworkScan).send_recoverable
    (some ⟨3, 0#32⟩) 0#32 ⟨false, [.error eintr, .ok 1960]⟩ twoNetworkScan_sent
  exact ⟨message, hmessage, hcontent⟩

end Wlan

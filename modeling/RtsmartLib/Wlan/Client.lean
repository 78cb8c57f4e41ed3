import RtsmartLib.Wlan.Wire

/-!
This module contains the client of a WLAN offload control device: the one queue that carries events and
replies, the queries, and the reception of events.
-/

namespace Wlan

open Posix

inductive QueryKind where
  | info
  | names
  deriving DecidableEq

def QueryKind.command (kind : QueryKind) : BitVec 16 :=
  match kind with
  | .info => rtwoCtrlCmdGetInfo
  | .names => rtwoCtrlCmdGetNames

def QueryKind.replyType (kind : QueryKind) : BitVec 16 :=
  match kind with
  | .info => eventInfo
  | .names => eventNames

def QueryKind.replySize (kind : QueryKind) : Nat :=
  match kind with
  | .info => infoSize
  | .names => namesSize

/-
What a query has been answered with.
-/
inductive Reply where
  | info (info : WlanOffloadInfo)
  | names (names : WlanOffloadNames)
  deriving DecidableEq

def QueryKind.decode (kind : QueryKind) (payload : List Byte) : Reply :=
  match kind with
  | .info => .info (decodeInfo payload)
  | .names => .names (decodeNames payload)

/-
A command that the kernel has taken. `serial` counts the commands.
-/
structure Command where
  serial : Nat
  kind : QueryKind
  iftype : Byte
  requestId : BitVec 32

/-
A message on the queue of the descriptor, and the command that the kernel answers with it.
-/
structure Queued where
  message : Message
  answers : Option Nat

structure KernelState where
  queue : List Queued
  outstanding : List Command
  commands : Nat

/-
An event as the kernel sends it.
-/
def IsEvent (m : Message) : Prop :=
  messageAccepted m = true ∧ ∃ event, wlanOffloadDecodeEvent m = .ok event

abbrev KernelEvent := { m : Message // IsEvent m }

/-
What the kernel puts on the queue: an event, or the reply to one of the commands that it has not answered
yet.
-/
inductive Arrival where
  | event (event : KernelEvent)
  | reply (index : Nat) (payload : (kind : QueryKind) → { p : List Byte // p.length = kind.replySize })

def replyMessage (command : Command) (payload : List Byte) : Message where
  header := {
    version := rtwoCtrlVersion
    type := command.kind.replyType
    length := BitVec.ofNat 32 (headerSize + payload.length)
    requestId := command.requestId
    status := 0#32
    iftype := command.iftype
    flags := 0#8
    reserved := 0#16
  }
  payload := payload

/-
The messages that some arrivals put on the queue, and the commands that stay unanswered.
-/
def arrive (outstanding : List Command) (arrivals : List Arrival) : List Queued × List Command :=
  match arrivals with
  | [] => ([], outstanding)
  | .event event :: arrivals =>
    let r := arrive outstanding arrivals
    (⟨event.val, none⟩ :: r.1, r.2)
  | .reply index payload :: arrivals =>
    match outstanding[index]? with
    | none => arrive outstanding arrivals
    | some command =>
      let r := arrive (outstanding.eraseIdx index) arrivals
      (⟨replyMessage command (payload command.kind).val, some command.serial⟩ :: r.1, r.2)

def KernelState.arrive (k : KernelState) (arrivals : List Arrival) : KernelState :=
  let r := Wlan.arrive k.outstanding arrivals
  { k with queue := k.queue ++ r.1, outstanding := r.2 }

/-
Polls until there is a message, and reads it. `failure` is an error of `poll` or `read`. An infinite
wait has not come to an end while there is no message.
-/
def wlanOffloadReadMessage (k : KernelState) (timeoutMs : Int) (failure : Option Errno)
    : Option (Except Int Queued) × KernelState :=
  if timeoutMs < -1 then
    (some (.error (-einval)), k)
  else
    match failure with
    | some errno => (some (.error (-errno)), k)
    | none =>
      match k.queue with
      | [] => (if timeoutMs < 0 then none else some (.error (-etimedout)), k)
      | first :: queue =>
        (some (if messageAccepted first.message then .ok first else .error (-eproto)),
          { k with queue := queue })

def wlanOffloadNextRequestId (nextRequestId : BitVec 32) : BitVec 32 :=
  let requestId := nextRequestId + 1#32
  if requestId = 0#32 then requestId + 1#32 else requestId

structure WlanState where
  nextRequestId : BitVec 32
  kernel : KernelState

/-
What happens in the course of a query: how the command is written, what arrives before the message is
read, and how the message is read.
-/
structure QueryCall where
  kind : QueryKind
  iftype : Byte
  writeError : Option Errno
  arrivals : List Arrival
  readError : Option Errno

def wlanOffloadValidateInterface (iftype : Byte) : Bool :=
  iftype == interfaceStation || iftype == interfaceAp

def KernelState.take (k : KernelState) (kind : QueryKind) (iftype : Byte) (requestId : BitVec 32)
    : KernelState :=
  { k with
    outstanding := k.outstanding ++ [⟨k.commands, kind, iftype, requestId⟩]
    commands := k.commands + 1 }

/-
`wlan_offload_get_info` and `wlan_offload_get_names`.
-/
def wlanOffloadGet (s : WlanState) (call : QueryCall) : Except Int Reply × WlanState :=
  let requestId := wlanOffloadNextRequestId s.nextRequestId
  if wlanOffloadValidateInterface call.iftype then
    match call.writeError with
    | some errno => (.error (-errno), ⟨requestId, s.kernel.arrive call.arrivals⟩)
    | none =>
      let k := (s.kernel.take call.kind call.iftype requestId).arrive call.arrivals
      let (message, k) := wlanOffloadReadMessage k 1000 call.readError
      match message with
      | none => (.error (-etimedout), ⟨requestId, k⟩)
      | some (.error ret) => (.error ret, ⟨requestId, k⟩)
      | some (.ok first) =>
        let header := first.message.header
        if header.type ≠ call.kind.replyType ∨ header.requestId ≠ requestId ∨ header.status ≠ 0#32
            ∨ first.message.length ≠ headerSize + call.kind.replySize then
          (.error (-eproto), ⟨requestId, k⟩)
        else
          (.ok (call.kind.decode first.message.payload), ⟨requestId, k⟩)
  else
    (.error (-einval), ⟨requestId, s.kernel.arrive call.arrivals⟩)

/-
What happens in the course of the reception of an event.
-/
structure ReceiveCall where
  timeoutMs : Int
  arrivals : List Arrival
  readError : Option Errno

/-
`none` if the wait has not come to an end.
-/
def wlanOffloadReceiveEvent (s : WlanState) (call : ReceiveCall)
    : Option (Except Int WlanOffloadEvent) × WlanState :=
  let (message, k) :=
    wlanOffloadReadMessage (s.kernel.arrive call.arrivals) call.timeoutMs call.readError
  match message with
  | none => (none, ⟨s.nextRequestId, k⟩)
  | some (.error ret) => (some (.error ret), ⟨s.nextRequestId, k⟩)
  | some (.ok first) => (some (wlanOffloadDecodeEvent first.message), ⟨s.nextRequestId, k⟩)

end Wlan

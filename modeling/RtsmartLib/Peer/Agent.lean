import RtsmartLib.Peer.Stun
import RtsmartLib.Peer.Rtp
import RtsmartLib.Lib.ExchangeSort

/-!
This module contains the ICE agent of libpeer: the candidate pairs, their connectivity checks, the answers to the
peer's checks, and datagrams that come and go through a TURN server.
-/

namespace Peer

open Lib
open StunMessage

def agentMaxCandidates : Nat := 10

def agentMaxCandidatePairs : Nat := 100

def agentMaxActivePairs : Nat := 5

def agentConncheckMax : Nat := 100

def agentConncheckIntervalMs : BitVec 32 := 50

inductive IceCandidateState where
  | frozen
  | waiting
  | inprogress
  | succeeded
  | failed
deriving DecidableEq

inductive IceCandidateType where
  | host
  | srflx
  | prflx
  | relay
deriving DecidableEq

structure IceCandidate where
  type : IceCandidateType
  priority : BitVec 32
  addr : Address
deriving DecidableEq

instance : Inhabited IceCandidate where
  default := ⟨.host, 0, default⟩

/-
The candidates are places in the agent's arrays.
-/
structure IceCandidatePair where
  state : IceCandidateState
  localAt : Nat
  remoteAt : Nat
  conncheck : Nat
  conncheckTimestamp : BitVec 32
  priority : BitVec 64
deriving DecidableEq

instance : Inhabited IceCandidatePair where
  default := ⟨.frozen, 0, 0, 0, 0, 0⟩

inductive AgentMode where
  | controlled
  | controlling
deriving DecidableEq

structure AgentTurn where
  serverAddr : Address
  peerAddr : Address
  relayReady : Bool
  channel : BitVec 16
  channelBound : Bool
deriving DecidableEq

structure Agent where
  remoteUfrag : List Byte
  remoteUpwd : List Byte
  localUfrag : List Byte
  localUpwd : List Byte
  localCandidates : List IceCandidate
  remoteCandidates : List IceCandidate
  bindingRequestTime : BitVec 64
  mode : AgentMode
  /- all places of the array that have been written so far -/
  candidatePairs : List IceCandidatePair
  candidatePairsNum : Nat
  selectedPair : Option Nat
  nominatedPair : Option Nat
  activePairs : List Nat
  transactionId : Vector Byte 12
  turn : AgentTurn
deriving DecidableEq

namespace Agent

def pair (agent : Agent) (i : Nat) : IceCandidatePair := agent.candidatePairs.getD i default

def localOf (agent : Agent) (i : Nat) : IceCandidate := agent.localCandidates.getD (agent.pair i).localAt default

def remoteOf (agent : Agent) (i : Nat) : IceCandidate := agent.remoteCandidates.getD (agent.pair i).remoteAt default

def setPair (agent : Agent) (i : Nat) (f : IceCandidatePair → IceCandidatePair) : Agent :=
  { agent with candidatePairs := agent.candidatePairs.modify i f }

def setState (agent : Agent) (i : Nat) (state : IceCandidateState) : Agent :=
  agent.setPair i fun pair => { pair with state := state }

end Agent

section Pairs

def agentIsPrivateIpv4 (addr : Address) : Bool :=
  if addr.family ≠ .inet then
    false
  else
    let ip := getBigEndian32 addr.sinAddr 0
    ip >>> 24 = 10 || ip >>> 20 = ((172 <<< 4) ||| 1) || ip >>> 16 = ((192 <<< 8) ||| 168)

def agentCandidatePairIsImpossible (localCandidate remote : IceCandidate) : Bool :=
  if localCandidate.addr.family ≠ .inet ∨ remote.addr.family ≠ .inet then
    false
  else if remote.type = .host ∧ agentIsPrivateIpv4 remote.addr ∧
      ¬(localCandidate.type = .host ∧ agentIsPrivateIpv4 localCandidate.addr) then
    true
  else
    localCandidate.type = .srflx && remote.type = .srflx && localCandidate.addr.sinAddr = remote.addr.sinAddr

/-
The pair of two places, when it is tried at all. The sum of the priorities is one of 32 bit numbers.
-/
def candidatePairAt? (agent : Agent) (i j : Nat) : Option IceCandidatePair :=
  let localCandidate := agent.localCandidates.getD i default
  let remote := agent.remoteCandidates.getD j default
  if localCandidate.addr.family ≠ remote.addr.family then
    none
  else if agentCandidatePairIsImpossible localCandidate remote then
    none
  else
    some ⟨.frozen, i, j, 0, 0, (localCandidate.priority + remote.priority).setWidth 64⟩

/-
The two loops over the candidates, `true` when they stop because the array is full.
-/
def addCandidatePairs (agent : Agent) (pairs : List IceCandidatePair) (places : List (Nat × Nat))
    : List IceCandidatePair × Bool :=
  match places with
  | [] => (pairs, false)
  | (i, j) :: places =>
    match candidatePairAt? agent i j with
    | none => addCandidatePairs agent pairs places
    | some pair =>
      if pairs.length ≥ agentMaxCandidatePairs then
        (pairs, true)
      else
        addCandidatePairs agent (pairs ++ [pair]) places

def agentUpdateCandidatePairs (agent : Agent) : Agent :=
  let places := (List.range agent.localCandidates.length).flatMap fun i =>
    (List.range agent.remoteCandidates.length).map fun j => (i, j)
  let res := addCandidatePairs agent [] places
  -- a full array is left as it is
  let pairs := if res.2 then res.1 else exchangeSort (fun pair => pair.priority.toNat) res.1
  { agent with
    activePairs := []
    candidatePairs := pairs ++ agent.candidatePairs.drop pairs.length
    candidatePairsNum := pairs.length }

end Pairs

section Select

def Agent.activate (agent : Agent) (i : Nat) : Agent :=
  let activated := agent.setPair i fun pair =>
    { pair with conncheck := 0, conncheckTimestamp := 0, state := .inprogress }
  { activated with activePairs := agent.activePairs ++ [i] }

/-
The pairs that are still frozen are taken up in order as long as there is room.
-/
def activatePairs (agent : Agent) (places : List Nat) : Agent :=
  match places with
  | [] => agent
  | i :: places =>
    if agent.activePairs.length < agentMaxActivePairs then
      if (agent.pair i).state = .frozen then
        activatePairs (agent.activate i) places
      else
        activatePairs agent places
    else
      agent

def agentSelectCandidatePair (agent : Agent) : Agent × Bool :=
  match agent.activePairs.find? fun i => (agent.pair i).state = .succeeded with
  | some i => ({ agent with selectedPair := some i }, true)
  | none =>
    let agent :=
      { agent with activePairs := agent.activePairs.filter fun i => (agent.pair i).state ≠ .failed }
    let agent := activatePairs agent (List.range agent.candidatePairsNum)
    (agent, agent.activePairs.length > 0)

end Select

/--
A datagram and where it is sent or where it has come from.
-/
structure Datagram where
  addr : Address
  bytes : List Byte
deriving DecidableEq

/--
What a send takes from elsewhere: random bytes, and memory that has not been written.
-/
structure SendInput where
  transactionId : Option (Vector Byte 12)
  relayTransactionId : Option (Vector Byte 12)
  reserved : Byte
  relayReserved : Byte
  padding : Vector Byte 3
deriving DecidableEq

section Turn

def agentIsRelayActive (agent : Agent) : Bool :=
  agent.turn.relayReady &&
    match agent.nominatedPair with
    | none => false
    | some i => (agent.localOf i).type = .relay

def channelData (channel : BitVec 16) (buf padding : List Byte) : List Byte :=
  bigEndian16 channel ++ bigEndian16 (BitVec.ofNat 16 buf.length) ++ buf
    ++ padding.take ((buf.length + 3) / 4 * 4 - buf.length)

def stunWrite (msg : StunMessage) (type : StunAttrType) (value : List Byte) : StunMessage :=
  (stunMsgWriteAttr msg type (BitVec.ofNat 16 value.length) (some value)).2

def agentTurnRelaySend (agent : Agent) (input : SendInput) (buf : List Byte) (peerAddr : Address)
    : List Datagram :=
  if agent.turn.channelBound && addrEqual peerAddr agent.turn.peerAddr then
    if buf.length + 4 > configMtu + 4 then
      []
    else
      [⟨agent.turn.serverAddr, channelData agent.turn.channel buf input.padding.toList⟩]
  else
    let res := stunMsgCreate blankMessage (StunClass.indication.val ||| StunMethod.send.val) input.relayTransactionId
    if res.1 = false then
      []
    else
      let msg := res.2
      let mask := stunXorMask (transactionId msg.buf)
      let msg := stunWrite msg .xorPeerAddress (stunSetMappedAddress input.relayReserved mask peerAddr)
      let msg := stunWrite msg .data buf
      let msg := (stunMsgAddFingerprint msg).2
      [⟨agent.turn.serverAddr, msg.buf⟩]

inductive Unwrapped where
  | data (bytes : List Byte) (peerAddr : Address)
  | skip
  | error
  | notTurn
deriving DecidableEq

/-
`garbage` is the message on the stack before it is parsed. Data of length 0 is returned as 0, like a message that
is skipped.
-/
def agentTurnUnwrap (agent : Agent) (garbage : StunMessage) (buf : List Byte) (src : Address) : Unwrapped :=
  if buf.length ≥ 4 ∧ buf.getD 0 0 &&& 0xc0 = 0x40 then
    let dataLen := (getBigEndian16 buf 2).toNat
    if dataLen > buf.length - 4 then
      .error
    else if dataLen = 0 then
      .skip
    else
      .data ((buf.drop 4).take dataLen) agent.turn.peerAddr
  else if buf.length ≥ sizeofStunHeader ∧ stunProbe buf then
    if buf.length > stunAttrBufSize then
      .notTurn
    else
      match stunParseMsgBuf { garbage with buf := buf } with
      | none => .notTurn
      | some msg =>
        if msg.stunclass = .indication ∧ msg.stunmethod = StunMethod.data.val ∧ msg.dataLen.toNat > 0 ∧
            msg.dataOffset.toNat + msg.dataLen.toNat ≤ buf.length then
          .data ((buf.drop msg.dataOffset.toNat).take msg.dataLen.toNat) msg.peerAddr
        else if agent.turn.serverAddr.family ≠ .unspec ∧ addrEqual src agent.turn.serverAddr then
          .skip
        else
          .notTurn
  else
    .notTurn

end Turn

section Binding

variable (hmacSha1 : List Byte → List Byte → Option (Vector Byte 20)) (md5 : List Byte → Vector Byte 16)

def agentCreateBindingResponse (agent : Agent) (input : SendInput) (addr : Address) : Option StunMessage :=
  let res := stunMsgCreate blankMessage (StunClass.response.val ||| StunMethod.binding.val) input.transactionId
  if res.1 = false then
    none
  else
    let msg := { res.2 with buf := setTransactionId res.2.buf agent.transactionId.toList }
    let username := agent.localUfrag ++ [colon] ++ agent.remoteUfrag
    let mask := stunXorMask agent.transactionId.toList
    let msg := stunWrite msg .xorMappedAddress (stunSetMappedAddress input.reserved mask addr)
    let msg := stunWrite msg .username username
    some (stunMsgFinish hmacSha1 md5 msg .shortTerm agent.localUpwd).2

def tieBreaker : List Byte := List.replicate 8 0x00

/-
The request is one for the pair nominated by then.
-/
def agentCreateBindingRequest (agent : Agent) (i : Nat) (input : SendInput) : Option StunMessage :=
  let res := stunMsgCreate blankMessage (StunClass.request.val ||| StunMethod.binding.val) input.transactionId
  if res.1 = false then
    none
  else
    let username := agent.remoteUfrag ++ [colon] ++ agent.localUfrag
    let msg := stunWrite res.2 .username username
    let msg := stunWrite msg .priority (bigEndian32 (agent.localOf i).priority)
    let msg :=
      match agent.mode with
      | .controlling =>
        let msg := (stunMsgWriteAttr msg .useCandidate 0 none).2
        stunWrite msg .iceControlling tieBreaker
      | .controlled => stunWrite msg .iceControlled tieBreaker
    some (stunMsgFinish hmacSha1 md5 msg .shortTerm agent.remoteUpwd).2

/-
Through the relay or from the socket.
-/
def agentSendTo (agent : Agent) (input : SendInput) (buf : List Byte) (addr : Address) : List Datagram :=
  if agentIsRelayActive agent then
    agentTurnRelaySend agent input buf addr
  else
    [⟨addr, buf⟩]

/-
An agent that has nominated no pair has nowhere to send to, and is not asked to.
-/
def agentSend (agent : Agent) (input : SendInput) (buf : List Byte) : List Datagram :=
  match agent.nominatedPair with
  | none => []
  | some i => agentSendTo agent input buf (agent.remoteOf i).addr

def agentProcessStunRequest (agent : Agent) (now : BitVec 32) (input : SendInput) (msg : StunMessage)
    (addr : Address) : Agent × List Datagram :=
  if msg.stunmethod = StunMethod.binding.val then
    if stunMsgIsValid hmacSha1 msg.buf agent.localUpwd then
      let agent := { agent with transactionId := Vector.ofFn fun i => (transactionId msg.buf).getD i 0 }
      match agentCreateBindingResponse hmacSha1 md5 agent input addr with
      | none => (agent, [])
      | some response =>
        let sent := agentSendTo agent input response.buf addr
        ({ agent with bindingRequestTime := now.setWidth 64 }, sent)
    else
      (agent, [])
  else
    (agent, [])

def Agent.nominatedSucceeded (agent : Agent) : Bool :=
  match agent.nominatedPair with
  | none => false
  | some nominated => (agent.pair nominated).state = .succeeded

def agentProcessStunResponse (agent : Agent) (now : BitVec 32) (msg : StunMessage) (src : Address) : Agent :=
  if msg.stunmethod = StunMethod.binding.val then
    if stunMsgIsValid hmacSha1 msg.buf agent.remoteUpwd then
      let confirmed := agent.activePairs.find? fun i =>
        (agent.pair i).state = .inprogress && addrEqual (agent.remoteOf i).addr src
      match confirmed with
      | some i =>
        let agent := agent.setState i .succeeded
        if !agent.nominatedSucceeded then
          { agent with nominatedPair := some i, bindingRequestTime := now.setWidth 64 }
        else if agent.nominatedPair ≠ some i then
          agent
        else
          { agent with bindingRequestTime := now.setWidth 64 }
      | none =>
        match agent.nominatedPair with
        | none => agent
        | some nominated =>
          if addrEqual (agent.remoteOf nominated).addr src then
            { agent with bindingRequestTime := now.setWidth 64 }
          else
            agent
    else
      agent
  else
    agent

/--
What one call of `agent_recv` takes from elsewhere: the datagram if there is one, the time, what a response needs
and two messages on the stack.
-/
structure RecvInput where
  datagram : Option Datagram
  now : BitVec 32
  send : SendInput
  garbage : StunMessage
  relayGarbage : StunMessage

/-
What is left of a datagram behind the TURN server.
-/
def agentReceived (agent : Agent) (garbage : StunMessage) (datagram : Datagram) : Option Datagram :=
  if agent.turn.relayReady && datagram.bytes.length ≥ 4 then
    match agentTurnUnwrap agent garbage datagram.bytes datagram.addr with
    | .data bytes peerAddr => some ⟨peerAddr, bytes⟩
    | .skip => none
    | .error => none
    | .notTurn => some datagram
  else
    some datagram

/-
The bytes returned are for the layers above. They are empty when the return value is 0 or an error.
-/
def agentRecv (agent : Agent) (input : RecvInput) : Agent × List Datagram × List Byte :=
  match input.datagram with
  | none => (agent, [], [])
  | some datagram =>
    match agentReceived agent input.relayGarbage datagram with
    | none => (agent, [], [])
    | some received =>
      if stunProbe received.bytes then
        if received.bytes.length > stunAttrBufSize then
          (agent, [], received.bytes)
        else
          match stunParseMsgBuf { input.garbage with buf := received.bytes } with
          | none => (agent, [], [])
          | some msg =>
            match msg.stunclass with
            | .request =>
              let res := agentProcessStunRequest hmacSha1 md5 agent input.now input.send msg received.addr
              (res.1, res.2, [])
            | .response => (agentProcessStunResponse hmacSha1 agent input.now msg received.addr, [], [])
            | .error => (agent, [], [])
            | .indication => (agent, [], [])
      else
        (agent, [], received.bytes)

/--
What one call of `agent_connectivity_check` takes from elsewhere. `setupRelay` is the outcome of the exchange with
the TURN server for the pair at a place, which changes what is known of the relay and nothing else.
-/
structure CheckInput where
  now : BitVec 32
  setupRelay : Nat → AgentTurn → AgentTurn × Bool
  send : Nat → SendInput
  recv : RecvInput

/--
A request with the pair it is for.
-/
structure Request where
  place : Nat
  datagrams : List Datagram

def conncheckDue (pair : IceCandidatePair) (now : BitVec 32) : Bool :=
  agentConncheckIntervalMs ≤ now - pair.conncheckTimestamp

/-
The request for one pair that is in progress.
-/
def sendBindingRequest (agent : Agent) (i : Nat) (input : CheckInput) : List Datagram :=
  if (agent.localOf i).type = .relay ∧ !agent.turn.relayReady then
    []
  else
    match agentCreateBindingRequest hmacSha1 md5 agent i (input.send i) with
    | none => []
    | some msg => agentSendTo agent (input.send i) msg.buf (agent.remoteOf i).addr

def Agent.setTurn (agent : Agent) (turn : AgentTurn) : Agent :=
  { agent with turn := turn }

/-
The pair is nominated for the time being, and its request is counted.
-/
def Agent.nominate (agent : Agent) (i : Nat) (now : BitVec 32) : Agent :=
  ({ agent with nominatedPair := some i } : Agent).setPair i fun pair =>
    { pair with conncheck := pair.conncheck + 1, conncheckTimestamp := now }

/-
The first loop of the check, with whether any pair is in progress.
-/
def checkActivePairs (input : CheckInput) (agent : Agent) (places : List Nat)
    : Agent × List Request × Bool :=
  match places with
  | [] => (agent, [], false)
  | i :: places =>
    if (agent.pair i).state ≠ .inprogress then
      checkActivePairs input agent places
    else
      let setup :=
        if (agent.localOf i).type = .relay ∧ !agent.turn.relayReady then
          input.setupRelay i agent.turn
        else
          (agent.turn, true)
      let agent := agent.setTurn setup.1
      if setup.2 = false then
        let res := checkActivePairs input (agent.setState i .failed) places
        (res.1, res.2.1, true)
      else if (agent.pair i).conncheck ≥ agentConncheckMax ∧ conncheckDue (agent.pair i) input.now then
        let res := checkActivePairs input (agent.setState i .failed) places
        (res.1, res.2.1, true)
      else if (agent.pair i).conncheck = 0 ∨ conncheckDue (agent.pair i) input.now then
        let agent := agent.nominate i input.now
        let request : Request := ⟨i, sendBindingRequest hmacSha1 md5 agent i input⟩
        let res := checkActivePairs input agent places
        (res.1, request :: res.2.1, true)
      else
        let res := checkActivePairs input agent places
        (res.1, res.2.1, true)

def agentConnectivityCheck (agent : Agent) (input : CheckInput)
    : Agent × List Request × List Datagram × Bool :=
  let checked := checkActivePairs hmacSha1 md5 input agent agent.activePairs
  if checked.2.2 = false then
    (checked.1, checked.2.1, [], false)
  else
    let received := agentRecv hmacSha1 md5 checked.1 input.recv
    let agent := received.1
    match agent.activePairs.find? fun i => (agent.pair i).state = .succeeded with
    | some i =>
      ({ agent with selectedPair := some i, nominatedPair := some i }, checked.2.1, received.2.1, true)
    | none => (agent, checked.2.1, received.2.1, false)

end Binding

end Peer

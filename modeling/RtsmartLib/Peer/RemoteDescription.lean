import RtsmartLib.Lib.Distinct
import RtsmartLib.Lib.Scan
import RtsmartLib.Peer.AgentExchange
import RtsmartLib.Peer.Connection

/-!
This module contains what an agent takes from the other side: the credentials and candidates of a description, and the
candidates that come one at a time.
-/

namespace Peer

open Lib

/--
`inet_pton` for both families.
-/
structure InetPton where
  inet : List Byte → Option (Vector Byte 4)
  inet6 : List Byte → Option (Vector Byte 16)

def addrFromString (pton : InetPton) (text : List Byte) (addr : Address) : Option Address :=
  match pton.inet text with
  | some bytes =>
    some { addr with family := .inet, sinAddr := bytes.toList, length_sinAddr := by simp }
  | none =>
    (pton.inet6 text).map fun bytes =>
      { addr with family := .inet6, sin6Addr := bytes.toList, length_sin6Addr := by simp }

section Candidate

def addrStrLen : Nat := 46

def candidateLineSize : Nat := 1024

/--
A candidate of the other side with all that its line says. A related address of no family is not there.
-/
structure RemoteCandidate where
  candidate : IceCandidate
  foundation : List Byte
  component : BitVec 32
  transport : List Byte
  raddr : Address
deriving DecidableEq

def iceCandidateEqual (a b : RemoteCandidate) : Bool :=
  a.component = b.component && a.candidate.type = b.candidate.type
    && a.transport.map toLower = b.transport.map toLower
    && addrEqual a.candidate.addr b.candidate.addr
    && ((a.raddr.family = .unspec && b.raddr.family = .unspec) || addrEqual a.raddr b.raddr)

structure CandidateFields where
  foundation : List Byte
  component : BitVec 32
  transport : List Byte
  priority : BitVec 32
  addr : List Byte
  port : BitVec 32
  type : List Byte

def scanCandidate (text : List Byte) : Option CandidateFields := do
  let (foundation, text) ← scanWord 32 text
  let (component, text) ← scanNumber text
  let (transport, text) ← scanWord 32 text
  let (priority, text) ← scanNumber text
  let (addr, text) ← scanWord (addrStrLen - 1) text
  let (port, text) ← scanNumber text
  let text ← scanLiteral (ascii "typ") (skipSpaces text)
  let (type, _) ← scanWord 15 text
  return ⟨foundation, component, transport, priority, addr, port, type⟩

def candidateType (type : List Byte) : Option IceCandidateType :=
  if ascii "host" <+: type then
    some .host
  else if ascii "srflx" <+: type then
    some .srflx
  else if ascii "relay" <+: type then
    some .relay
  else
    none

/-
What `sscanf` reads behind the first six bytes of a text. Where there are only five it goes on behind the end of the
line, in what is left there in the buffer or on the stack.
-/
def behindWord (text behind : List Byte) : List Byte :=
  cString ((text ++ 0 :: behind).drop 6)

/-
The related address, which is read wherever both of its words stand.
-/
def relatedAddress (pton : InetPton) (text behind : List Byte) (family : AddrFamily) : Option Address :=
  match strstr? text (ascii "raddr"), strstr? text (ascii "rport") with
  | some raddrPos, some rportPos =>
    let addressed :=
      match scanWord (addrStrLen - 1) (behindWord raddrPos behind) with
      | none => some default
      | some (raddrStr, _) =>
        -- The family is that of the candidate, whichever one the text is of.
        (addrFromString pton raddrStr default).map fun raddr => { raddr with family := family }
    match addressed with
    | none => none
    | some raddr =>
      match scanNumber (behindWord rportPos behind) with
      | none => some raddr
      | some (rport, _) => if rport.toNat > 0xffff then none else some { raddr with port := rport.setWidth 16 }
  | _, _ => some default

def iceCandidateFromDescription (pton : InetPton) (description behind : List Byte) : Option RemoteCandidate :=
  if description.length = 0 ∨ description.length ≥ candidateLineSize then
    none
  else
    let line := if ascii "a=" <+: description then description.drop 2 else description
    match scanLiteral (ascii "candidate:") line with
    | none => none
    | some text =>
      match scanCandidate text with
      | none => none
      | some fields =>
        if fields.component.toInt ≤ 0 ∨ fields.component.toInt > 256 ∨ fields.port.toNat > 0xffff then
          none
        else if ¬ascii "UDP" <+: fields.transport ∧ ¬ascii "udp" <+: fields.transport then
          none
        else
          match candidateType fields.type with
          | none => none
          | some type =>
            if ascii "local" <:+: fields.addr then
              none
            else
              match addrFromString pton fields.addr { (default : Address) with port := fields.port.setWidth 16 } with
              | none => none
              | some addr =>
                let raddr :=
                  if type = .srflx ∨ type = .relay then relatedAddress pton text behind addr.family else some default
                raddr.map fun raddr =>
                  ⟨⟨type, fields.priority, addr⟩, fields.foundation, fields.component, fields.transport, raddr⟩

end Candidate

section Description

def iceUpwdLength : Nat := 256

/--
What an agent knows of the other side.
-/
structure RemoteDescription where
  ufrag : List Byte
  upwd : List Byte
  candidates : List RemoteCandidate
deriving DecidableEq

def RemoteDescription.empty : RemoteDescription := ⟨[], [], []⟩

def RemoteDescription.toAgent (remote : RemoteDescription) (agent : Agent) : Agent :=
  { agent with
      remoteUfrag := remote.ufrag
      remoteUpwd := remote.upwd
      remoteCandidates := remote.candidates.map RemoteCandidate.candidate }

inductive DescriptionLine where
  | ufrag (value : List Byte)
  | upwd (value : List Byte)
  | candidate (candidate : Option RemoteCandidate)
  | other

def icePwdPrefix : List Byte := ascii "a=ice-pwd:"

def candidatePrefix : List Byte := ascii "a=candidate:"

def descriptionLine (pton : InetPton) (line behind : List Byte) : DescriptionLine :=
  if iceUfragPrefix <+: line then
    .ufrag (line.drop iceUfragPrefix.length)
  else if icePwdPrefix <+: line then
    .upwd (line.drop icePwdPrefix.length)
  else if candidatePrefix <+: line then
    .candidate (iceCandidateFromDescription pton line behind)
  else
    .other

def credentialFits (length : Nat) (value : List Byte) : Bool :=
  0 < value.length && value.length ≤ length

def addRemoteCandidate (candidates : List RemoteCandidate) (candidate : RemoteCandidate)
    : Option (List RemoteCandidate) :=
  addBounded iceCandidateEqual agentMaxCandidates candidates candidate

def takeLine (remote : RemoteDescription) (line : DescriptionLine) : Option RemoteDescription :=
  match line with
  | .ufrag value => if credentialFits iceUfragLength value then some { remote with ufrag := value } else none
  | .upwd value => if credentialFits iceUpwdLength value then some { remote with upwd := value } else none
  | .candidate none => some remote
  | .candidate (some candidate) =>
    (addRemoteCandidate remote.candidates candidate).map fun candidates => { remote with candidates := candidates }
  | .other => some remote

/-
The lines, each with what stands behind it where its candidate is read.
-/
def linesBehind (behind : Nat → List Byte) (lines : List (List Byte)) : List (List Byte × List Byte) :=
  lines.mapIdx fun i line => (line, behind i)

def descriptionLines (pton : InetPton) (behind : Nat → List Byte) (description : List Byte) : List DescriptionLine :=
  (linesBehind behind (sdpLines (cString description))).map fun (line, rest) => descriptionLine pton line rest

/-
Everything is taken at the end or nothing is. Whether it is taken is in the last part.
-/
def agentSetRemoteDescription (pton : InetPton) (behind : Nat → List Byte) (remote : RemoteDescription)
    (description : List Byte)
    : RemoteDescription × Bool :=
  if (cString description).length > agentMaxDescription then
    (remote, false)
  else
    match (descriptionLines pton behind description).foldlM takeLine RemoteDescription.empty with
    | none => (remote, false)
    | some found => if found.ufrag = [] ∨ found.upwd = [] then (remote, false) else (found, true)

def peerConnectionAddIceCandidate (pton : InetPton) (remote : RemoteDescription) (candidate behind : List Byte)
    : RemoteDescription × Bool :=
  match iceCandidateFromDescription pton (cString candidate) behind with
  | none => (remote, false)
  | some candidate =>
    match addRemoteCandidate remote.candidates candidate with
    | none => (remote, false)
    | some candidates => ({ remote with candidates := candidates }, true)

end Description

end Peer

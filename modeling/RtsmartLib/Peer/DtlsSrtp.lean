import RtsmartLib.Peer.Stun

/-!
This module contains the DTLS session of a peer connection and the two SRTP sessions whose keys come from it.
-/

namespace Peer

open Lib

inductive DtlsSrtpRole where
  | client
  | server
deriving DecidableEq

inductive DtlsSrtpState where
  | init
  | handshake
  | connected
deriving DecidableEq

def srtpMasterKeyLength : Nat := 16

def srtpMasterSaltLength : Nat := 14

def dtlsSrtpFingerprintLength : Nat := 160

/--
The sessions of the SRTP library: how many it has made, and those of them that have not been given back.
-/
structure SrtpSessions where
  created : Nat
  live : List Nat
  live_lt : ∀ i ∈ live, i < created
  nodup : live.Nodup

namespace SrtpSessions

def add (sessions : SrtpSessions) : SrtpSessions where
  created := sessions.created + 1
  live := sessions.created :: sessions.live
  live_lt := by
    intro i hi
    cases List.mem_cons.mp hi with
    | inl heq =>
      rw [heq]
      apply Nat.lt_succ_self
    | inr hmem => apply Nat.lt_succ_of_lt (sessions.live_lt i hmem)
  nodup := by
    rw [List.nodup_cons]
    constructor
    . intro hmem
      exact absurd (sessions.live_lt _ hmem) (Nat.lt_irrefl _)
    . apply sessions.nodup

def remove (sessions : SrtpSessions) (i : Nat) : SrtpSessions where
  created := sessions.created
  live := sessions.live.erase i
  live_lt := by
    intro j hj
    apply sessions.live_lt
    apply List.mem_of_mem_erase hj
  nodup := by
    apply sessions.nodup.erase

/-
What a pointer refers to has been made and has not been given back.
-/
def Live (sessions : SrtpSessions) (session : Option Nat) : Prop :=
  ∃ i ∈ sessions.live, session = some i

end SrtpSessions

inductive SrtpCreateRet where
  | ok
  | noContext
  | noStream
deriving DecidableEq

/-
`session` is what the pointer holds before. Without a context it is left as it is, and where the context is given
back because its stream cannot be made it is cleared.
-/
def srtpCreate (sessions : SrtpSessions) (session : Option Nat) (ret : SrtpCreateRet)
    : SrtpSessions × Option Nat :=
  match ret with
  | .ok => (sessions.add, some sessions.created)
  | .noContext => (sessions, session)
  | .noStream => (sessions, none)

def srtpDealloc (sessions : SrtpSessions) (session : Option Nat) : SrtpSessions :=
  match session with
  | none => sessions
  | some i => sessions.remove i

structure DtlsSrtp where
  role : DtlsSrtpRole
  state : DtlsSrtpState
  srtpIn : Option Nat
  srtpOut : Option Nat
  remotePolicyKey : List Byte
  localPolicyKey : List Byte
  remoteFingerprint : List Byte
  actualRemoteFingerprint : List Byte
deriving DecidableEq

/-
The memory of a new peer connection.
-/
def DtlsSrtp.zero : DtlsSrtp :=
  ⟨.client, .init, none, none, [], [], [], []⟩

/--
What one call of the key export callback takes from elsewhere: the key material unless it cannot be computed, and
whether the sessions can be made.
-/
structure KeyExport where
  keyMaterial : Option (Vector Byte 60)
  inbound : SrtpCreateRet
  outbound : SrtpCreateRet
deriving DecidableEq

def clientKey (keyMaterial : List Byte) : List Byte :=
  keyMaterial.take srtpMasterKeyLength

def serverKey (keyMaterial : List Byte) : List Byte :=
  (keyMaterial.drop srtpMasterKeyLength).take srtpMasterKeyLength

def clientSalt (keyMaterial : List Byte) : List Byte :=
  (keyMaterial.drop (2 * srtpMasterKeyLength)).take srtpMasterSaltLength

def serverSalt (keyMaterial : List Byte) : List Byte :=
  (keyMaterial.drop (2 * srtpMasterKeyLength + srtpMasterSaltLength)).take srtpMasterSaltLength

def dtlsSrtpKeyDerivation (sessions : SrtpSessions) (dtls : DtlsSrtp) (exported : KeyExport)
    : SrtpSessions × DtlsSrtp :=
  match exported.keyMaterial with
  | none => (sessions, dtls)
  | some keyMaterial =>
    let clientPolicyKey := clientKey keyMaterial.toList ++ clientSalt keyMaterial.toList
    let serverPolicyKey := serverKey keyMaterial.toList ++ serverSalt keyMaterial.toList
    let keys :=
      match dtls.role with
      | .server => (serverPolicyKey, clientPolicyKey)
      | .client => (clientPolicyKey, serverPolicyKey)
    let inbound := srtpCreate sessions dtls.srtpIn exported.inbound
    let dtls := { dtls with remotePolicyKey := keys.2, srtpIn := inbound.2 }
    if exported.inbound ≠ .ok then
      (inbound.1, dtls)
    else
      let outbound := srtpCreate inbound.1 dtls.srtpOut exported.outbound
      let dtls := { dtls with localPolicyKey := keys.1, srtpOut := outbound.2 }
      if exported.outbound ≠ .ok then
        (outbound.1, dtls)
      else
        (outbound.1, { dtls with state := .connected })

inductive HandshakeRet where
  | ok
  | wantRead
  | wantWrite
  | helloVerifyRequired
  | failed
deriving DecidableEq

/--
What one call of `mbedtls_ssl_handshake` does: the callback it makes if any, what it returns, and the digest of the
peer's certificate if there is one by then.
-/
structure HandshakeInput where
  exported : Option KeyExport
  ret : HandshakeRet
  peerCert : Option (List Byte)
deriving DecidableEq

def dtlsSrtpDoHandshake (sessions : SrtpSessions) (dtls : DtlsSrtp) (input : HandshakeInput)
    : SrtpSessions × DtlsSrtp :=
  match input.exported with
  | none => (sessions, dtls)
  | some exported => dtlsSrtpKeyDerivation sessions dtls exported

def DtlsSrtp.begin (dtls : DtlsSrtp) : DtlsSrtp :=
  if dtls.state = .init then { dtls with state := .handshake } else dtls

def dtlsSrtpHandshakeServer (sessions : SrtpSessions) (dtls : DtlsSrtp) (input : HandshakeInput)
    : SrtpSessions × DtlsSrtp × HandshakeRet :=
  let res := dtlsSrtpDoHandshake sessions dtls.begin input
  if input.ret = .helloVerifyRequired then
    (res.1, { res.2 with state := .handshake }, .wantRead)
  else
    (res.1, res.2, input.ret)

def dtlsSrtpHandshakeClient (sessions : SrtpSessions) (dtls : DtlsSrtp) (input : HandshakeInput)
    : SrtpSessions × DtlsSrtp × HandshakeRet :=
  let res := dtlsSrtpDoHandshake sessions dtls.begin input
  (res.1, res.2, input.ret)

/-
`strncmp` of two strings is 0.
-/
def sameString (n : Nat) (a b : List Byte) : Bool :=
  (cString a).take n = (cString b).take n

def dtlsSrtpHandshakeAs (sessions : SrtpSessions) (dtls : DtlsSrtp) (input : HandshakeInput)
    : SrtpSessions × DtlsSrtp × HandshakeRet :=
  match dtls.role with
  | .server => dtlsSrtpHandshakeServer sessions dtls input
  | .client => dtlsSrtpHandshakeClient sessions dtls input

/-
The rest of a handshake that is done: the certificate has to be the one that has been announced.
-/
def checkRemoteCert (dtls : DtlsSrtp) (peerCert : Option (List Byte)) : DtlsSrtp × HandshakeRet :=
  match peerCert with
  | none => (dtls, .failed)
  | some digest =>
    let dtls := { dtls with actualRemoteFingerprint := digest }
    if sameString dtlsSrtpFingerprintLength dtls.remoteFingerprint digest then
      (dtls, .ok)
    else
      (dtls, .failed)

def dtlsSrtpHandshake (sessions : SrtpSessions) (dtls : DtlsSrtp) (input : HandshakeInput)
    : SrtpSessions × DtlsSrtp × HandshakeRet :=
  let res := dtlsSrtpHandshakeAs sessions dtls input
  if res.2.2 ≠ .ok then
    res
  else
    (res.1, checkRemoteCert res.2.1 input.peerCert)

/-
The sessions given back, in this order, are in the last part.
-/
def dtlsSrtpResetSession (sessions : SrtpSessions) (dtls : DtlsSrtp)
    : SrtpSessions × DtlsSrtp × List (Option Nat) :=
  if dtls.state = .connected then
    (srtpDealloc (srtpDealloc sessions dtls.srtpIn) dtls.srtpOut, { dtls with state := .init },
      [dtls.srtpIn, dtls.srtpOut])
  else
    (sessions, { dtls with state := .init }, [])

def dtlsSrtpDeinit (sessions : SrtpSessions) (dtls : DtlsSrtp) : SrtpSessions × List (Option Nat) :=
  if dtls.state = .connected then
    (srtpDealloc (srtpDealloc sessions dtls.srtpIn) dtls.srtpOut, [dtls.srtpIn, dtls.srtpOut])
  else
    (sessions, [])

/-
Whether the TLS library can be set up is left to the caller.
-/
def dtlsSrtpInit (dtls : DtlsSrtp) (role : DtlsSrtpRole) : DtlsSrtp :=
  { dtls with role := role, state := .init }

end Peer

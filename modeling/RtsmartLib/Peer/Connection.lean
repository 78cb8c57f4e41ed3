import RtsmartLib.Lib.Delimiter
import RtsmartLib.Lib.Machine
import RtsmartLib.Peer.DtlsSrtp
import RtsmartLib.Peer.RtpDecode
import RtsmartLib.Peer.RtpPackets

/-!
This module contains the states of a peer connection: its descriptions, the tick that takes it from the checks over
the handshake to media, and the packets that go out and come in.
-/

namespace Peer

open Lib

inductive PeerConnectionState where
  | closed
  | new
  | checking
  | connected
  | completed
  | failed
  | disconnected
deriving DecidableEq

inductive SdpType where
  | offer
  | answer
deriving DecidableEq

inductive Media where
  | audio
  | video
deriving DecidableEq

/-
`remote_ufrag` is the one of the agent.
-/
structure PeerConnection where
  state : PeerConnectionState
  stateCallback : Bool
  keyframeCallback : Bool
  dtlsSrtp : DtlsSrtp
  sessions : SrtpSessions
  artpEncoder : RtpEncoder
  vrtpEncoder : RtpEncoder
  artpDecoder : RtpDecoder
  vrtpDecoder : RtpDecoder
  remoteAssrc : BitVec 32
  remoteVssrc : BitVec 32
  remoteUfrag : List Byte

/--
What a step is seen to do: the states that are reported, the SRTP sessions that are given back or used on a packet,
the media packets that go to `agent_send`, what the decoders deliver, and how often a keyframe is asked for.
-/
structure ConnectionObs where
  states : List PeerConnectionState := []
  deallocs : List (Option Nat) := []
  protects : List (Option Nat) := []
  unprotects : List (Option Nat) := []
  packets : List (List Byte) := []
  delivered : List (List Byte) := []
  keyframes : Nat := 0
deriving DecidableEq

/-
`STATE_CHANGED`. Nobody to report to means that nothing changes either.
-/
def PeerConnection.changeState (pc : PeerConnection) (state : PeerConnectionState)
    : PeerConnection × List PeerConnectionState :=
  if pc.stateCallback ∧ pc.state ≠ state then
    ({ pc with state := state }, [state])
  else
    (pc, [])

structure ConnectionConfig where
  audioCodec : Option MediaCodec
  videoCodec : Option MediaCodec
  onaudiotrack : Bool
  onvideotrack : Bool
  keyframeCallback : Bool

def initEncoder (codec : Option MediaCodec) : RtpEncoder :=
  match codec with
  | none => RtpEncoder.zero
  | some codec => rtpEncoderInit RtpEncoder.zero codec

def initDecoder (codec : Option MediaCodec) (onPacket : Bool) : RtpDecoder :=
  match codec with
  | none => RtpDecoder.zero
  | some codec => rtpDecoderInit RtpDecoder.zero codec onPacket

/-
Memory that has been zeroed, so that a new connection is a closed one.
-/
def peerConnectionCreate (config : ConnectionConfig) (sessions : SrtpSessions) : PeerConnection where
  state := .closed
  stateCallback := false
  keyframeCallback := config.keyframeCallback
  dtlsSrtp := DtlsSrtp.zero
  sessions := sessions
  artpEncoder := initEncoder config.audioCodec
  vrtpEncoder := initEncoder config.videoCodec
  artpDecoder := initDecoder config.audioCodec config.onaudiotrack
  vrtpDecoder := initDecoder config.videoCodec config.onvideotrack
  remoteAssrc := 0
  remoteVssrc := 0
  remoteUfrag := []

section Description

def agentMaxDescription : Nat := 40960

def ascii (text : String) : List Byte :=
  text.toList.map fun c => BitVec.ofNat 8 c.toNat

def lineEnd : Delimiter Byte where
  word := [0x0d, 0x0a]
  nonempty := by simp
  borderless := by
    intro part hne hbegins hsuffix
    have hinits := (List.mem_inits part _).mpr hbegins
    have htails := (List.mem_tails part _).mpr hsuffix
    simp at hinits htails
    grind

/-
The lines of a description without their ends.
-/
def sdpLines (sdp : List Byte) : List (List Byte) :=
  (lineEnd.pieces sdp).map fun piece =>
    if lineEnd.word <:+ piece then piece.take (piece.length - lineEnd.word.length) else piece

def fingerprintPrefix : List Byte := ascii "a=fingerprint:sha-256 "

def iceUfragPrefix : List Byte := ascii "a=ice-ufrag:"

def videoPrefix : List Byte := ascii "m=video"

def audioPrefix : List Byte := ascii "m=audio"

def ssrcPrefix : List Byte := ascii "a=ssrc:"

/-
A decimal number at the start of some text, unless it is too large.
-/
def parseSsrc (value : List Byte) (parsed : Nat) (hasDigit : Bool) : Option (BitVec 32) :=
  match value with
  | [] => if hasDigit then some (BitVec.ofNat 32 parsed) else none
  | c :: value =>
    if 0x30 ≤ c ∧ c ≤ 0x39 then
      let parsed := parsed * 10 + (c.toNat - 0x30)
      if parsed > 0xffffffff then
        none
      else
        parseSsrc value parsed true
    else if hasDigit then
      some (BitVec.ofNat 32 parsed)
    else
      none

structure SdpScan where
  pc : PeerConnection
  ssrc : Option Media
  isUpdate : Bool

/-
The fingerprint a line brings, and whether it can be taken.
-/
def fingerprintOf? (line : List Byte) : Option (List Byte) :=
  if fingerprintPrefix <+: line then some (line.drop fingerprintPrefix.length) else none

def fingerprintFits (fingerprint : List Byte) : Bool :=
  fingerprint.length ≠ 0 && fingerprint.length < dtlsSrtpFingerprintLength

def scanUfrag (scan : SdpScan) (line : List Byte) : SdpScan :=
  if iceUfragPrefix <+: line ∧ scan.pc.remoteUfrag ≠ [] ∧
      line.drop iceUfragPrefix.length = scan.pc.remoteUfrag then
    { scan with isUpdate := true }
  else
    scan

def scanMedia (scan : SdpScan) (line : List Byte) : SdpScan :=
  if videoPrefix <+: line then
    { scan with ssrc := some .video }
  else if audioPrefix <+: line then
    { scan with ssrc := some .audio }
  else
    scan

def PeerConnection.setSsrc (pc : PeerConnection) (media : Media) (ssrc : BitVec 32) : PeerConnection :=
  match media with
  | .audio => { pc with remoteAssrc := ssrc }
  | .video => { pc with remoteVssrc := ssrc }

def scanSsrc (scan : SdpScan) (line : List Byte) : SdpScan :=
  match scan.ssrc with
  | none => scan
  | some media =>
    if ssrcPrefix.length < line.length ∧ ssrcPrefix <+: line then
      match parseSsrc (line.drop ssrcPrefix.length) 0 false with
      | none => scan
      | some ssrc => { scan with pc := scan.pc.setSsrc media ssrc }
    else
      scan

def PeerConnection.setRemoteFingerprint (pc : PeerConnection) (fingerprint : List Byte) : PeerConnection :=
  { pc with dtlsSrtp := { pc.dtlsSrtp with remoteFingerprint := fingerprint } }

/-
The scan ends at a fingerprint that cannot be taken, with `false`. What has been taken by then stays.
-/
def scanLines (scan : SdpScan) (lines : List (List Byte)) : SdpScan × Bool :=
  match lines with
  | [] => (scan, true)
  | line :: lines =>
    match fingerprintOf? line with
    | none => scanLines (scanSsrc (scanMedia (scanUfrag scan line) line) line) lines
    | some fingerprint =>
      if fingerprintFits fingerprint then
        let scan := { scan with pc := scan.pc.setRemoteFingerprint fingerprint }
        scanLines (scanSsrc (scanMedia (scanUfrag scan line) line) line) lines
      else
        (scan, false)

/-
`remoteUfrag` is what `agent_set_remote_description` finds, if it takes the description.
-/
def peerConnectionSetRemoteDescription (pc : PeerConnection) (sdp : List Byte) (type : SdpType)
    (remoteUfrag : Option (List Byte)) : PeerConnection × List PeerConnectionState :=
  if (cString sdp).length > agentMaxDescription then
    pc.changeState .failed
  else
    let res := scanLines ⟨pc, none, false⟩ (sdpLines (cString sdp))
    let pc := res.1.pc
    if res.2 = false then
      pc.changeState .failed
    else if res.1.isUpdate then
      (pc, [])
    else
      match remoteUfrag with
      | none => pc.changeState .failed
      | some remoteUfrag =>
        let pc := { pc with remoteUfrag := remoteUfrag }
        match type with
        | .offer => (pc, [])
        | .answer => pc.changeState .checking

/--
What making a description takes from elsewhere: whether there is a relay to give up, and what of the rest succeeds.
-/
structure SdpInput where
  relayUsed : Bool
  reopened : Bool
  initialized : Bool
  credential : Bool
deriving DecidableEq

def sdpRole (type : SdpType) : DtlsSrtpRole :=
  match type with
  | .offer => .server
  | .answer => .client

/-
The description itself is left out, it is there when the last part is `true`.
-/
def peerConnectionCreateSdp (pc : PeerConnection) (type : SdpType) (input : SdpInput)
    : PeerConnection × ConnectionObs × Bool :=
  if type = .offer ∧ input.relayUsed ∧ !input.reopened then
    let res := pc.changeState .failed
    (res.1, { states := res.2 }, false)
  else
    let reset := dtlsSrtpResetSession pc.sessions pc.dtlsSrtp
    let pc := { pc with sessions := reset.1, dtlsSrtp := dtlsSrtpInit reset.2.1 (sdpRole type) }
    if input.initialized = false ∨ input.credential = false then
      let res := pc.changeState .failed
      (res.1, { states := res.2, deallocs := reset.2.2 }, false)
    else
      (pc, { deallocs := reset.2.2 }, true)

def peerConnectionCreateOffer (pc : PeerConnection) (input : SdpInput) : PeerConnection × ConnectionObs :=
  let res := peerConnectionCreateSdp pc .offer input
  (res.1, res.2.1)

def peerConnectionCreateAnswer (pc : PeerConnection) (input : SdpInput) : PeerConnection × ConnectionObs :=
  let res := peerConnectionCreateSdp pc .answer input
  if res.2.2 then
    let changed := res.1.changeState .checking
    (changed.1, { res.2.1 with states := res.2.1.states ++ changed.2 })
  else
    (res.1, res.2.1)

end Description

section Packets

def PeerConnection.encoder (pc : PeerConnection) (media : Media) : RtpEncoder :=
  match media with
  | .audio => pc.artpEncoder
  | .video => pc.vrtpEncoder

def PeerConnection.setEncoder (pc : PeerConnection) (media : Media) (encoder : RtpEncoder) : PeerConnection :=
  match media with
  | .audio => { pc with artpEncoder := encoder }
  | .video => { pc with vrtpEncoder := encoder }

/-
`peer_connection_send_audio` and `peer_connection_send_video`. Each packet of the encoder goes through
`srtp_protect` before it is sent.
-/
def peerConnectionSend (pc : PeerConnection) (media : Media) (buf : List Byte) (timestampUs : BitVec 64)
    : PeerConnection × ConnectionObs :=
  if pc.state ≠ .completed then
    (pc, {})
  else
    match rtpEncoderEncode (pc.encoder media) buf timestampUs with
    | none => (pc, {})
    | some res =>
      (pc.setEncoder media res.1,
        { protects := res.2.map fun _ => pc.dtlsSrtp.srtpOut
          packets := res.2 })

def rtcpPsfb : Byte := 206

/-
How often a keyframe is asked for by the RTCP packets from `pos` on, of which there are `len` bytes in the buffer.
-/
def peerConnectionIncomingRtcp (keyframeCallback : Bool) (buf : List Byte) (len pos : Nat) : Nat :=
  if pos < len then
    let fmt := (buf.getD pos 0).extractLsb' 0 5
    let asked := buf.getD (pos + 1) 0 = rtcpPsfb ∧ (fmt = 1 ∨ fmt = 4) ∧ keyframeCallback
    let next := pos + 4 * (getBigEndian16 buf (pos + 2)).toNat + 4
    (if asked then 1 else 0) + peerConnectionIncomingRtcp keyframeCallback buf len next
  else
    0
termination_by len - pos

def configKeepaliveTimeout : BitVec 64 := 10000

/--
What one tick takes from elsewhere: what the calls to the agent return, the handshake, the datagram that has been
received if any, the buffer and the length that `srtp_unprotect` leaves, and the times of the last binding request
and of now.
-/
structure LoopInput where
  selected : Bool
  confirmed : Bool
  handshake : HandshakeInput
  received : List Byte
  unprotected : List Byte
  unprotectedLen : Nat
  bindingRequestTime : BitVec 64
  now : BitVec 32

/-
The packet goes to the decoder its source stands for. `len` bytes of the buffer are the packet.
-/
def decodeRtp (pc : PeerConnection) (buf : List Byte) (len : Nat) : PeerConnection × List (List Byte) :=
  let ssrc := rtpGetSsrc buf
  let packet := buf.take len
  if ssrc = pc.remoteAssrc then
    let res := rtpDecoderDecode pc.artpDecoder packet
    ({ pc with artpDecoder := res.decoder }, res.delivered.toList)
  else if ssrc = pc.remoteVssrc then
    let res := rtpDecoderDecode pc.vrtpDecoder packet
    ({ pc with vrtpDecoder := res.decoder }, res.delivered.toList)
  else
    (pc, [])

def receivePacket (pc : PeerConnection) (input : LoopInput) : PeerConnection × ConnectionObs :=
  if input.received.length = 0 then
    (pc, {})
  else
    match classifyDatagram input.received with
    | .rtcp =>
      (pc,
        { unprotects := [pc.dtlsSrtp.srtpIn]
          keyframes :=
            peerConnectionIncomingRtcp pc.keyframeCallback input.unprotected input.unprotectedLen 0 })
    | .dtls => (pc, {})
    | .rtp =>
      let res := decodeRtp pc input.unprotected input.unprotectedLen
      (res.1, { unprotects := [pc.dtlsSrtp.srtpIn], delivered := res.2 })
    | .unknown => (pc, {})

def keepaliveExpired (input : LoopInput) : Bool :=
  configKeepaliveTimeout < input.now.setWidth 64 - input.bindingRequestTime

def peerConnectionLoop (pc : PeerConnection) (input : LoopInput) : PeerConnection × ConnectionObs :=
  match pc.state with
  | .checking =>
    if input.selected = false then
      let res := pc.changeState .failed
      (res.1, { states := res.2 })
    else if input.confirmed then
      let res := pc.changeState .connected
      (res.1, { states := res.2 })
    else
      (pc, {})
  | .connected =>
    let handshake := dtlsSrtpHandshake pc.sessions pc.dtlsSrtp input.handshake
    let pc := { pc with sessions := handshake.1, dtlsSrtp := handshake.2.1 }
    match handshake.2.2 with
    | .ok =>
      let res := pc.changeState .completed
      (res.1, { states := res.2 })
    | .wantRead => (pc, {})
    | .wantWrite => (pc, {})
    | .helloVerifyRequired =>
      let res := pc.changeState .failed
      (res.1, { states := res.2 })
    | .failed =>
      let res := pc.changeState .failed
      (res.1, { states := res.2 })
  | .completed =>
    let received := receivePacket pc input
    if keepaliveExpired input then
      let res := received.1.changeState .closed
      (res.1, { received.2 with states := res.2 })
    else
      received
  | .closed => (pc, {})
  | .new => (pc, {})
  | .failed => (pc, {})
  | .disconnected => (pc, {})

end Packets

inductive ConnectionEvent where
  | stateCallback (set : Bool)
  | createOffer (input : SdpInput)
  | createAnswer (input : SdpInput)
  | setRemoteDescription (sdp : List Byte) (type : SdpType) (remoteUfrag : Option (List Byte))
  | loop (input : LoopInput)
  | send (media : Media) (buf : List Byte) (timestampUs : BitVec 64)
  | close

def connectionMachine : Machine PeerConnection ConnectionEvent ConnectionObs where
  step pc event :=
    match event with
    | .stateCallback set => ({ pc with stateCallback := set }, {})
    | .createOffer input => peerConnectionCreateOffer pc input
    | .createAnswer input => peerConnectionCreateAnswer pc input
    | .setRemoteDescription sdp type remoteUfrag =>
      let res := peerConnectionSetRemoteDescription pc sdp type remoteUfrag
      (res.1, { states := res.2 })
    | .loop input => peerConnectionLoop pc input
    | .send media buf timestampUs => peerConnectionSend pc media buf timestampUs
    | .close =>
      let res := pc.changeState .closed
      (res.1, { states := res.2 })

/-
Nothing of the connection is left but what the SRTP library keeps.
-/
def peerConnectionDestroy (pc : PeerConnection) : SrtpSessions × List (Option Nat) :=
  dtlsSrtpDeinit pc.sessions pc.dtlsSrtp

end Peer

import RtsmartLib.Peer.Connection

/-!
This module contains what a peer connection has been through before it sends or takes media: connectivity checks, and
a handshake with the certificate that the last description has announced.
-/

namespace Peer

open Lib

section State

@[simp]
theorem changeState_dtlsSrtp (pc : PeerConnection) (state : PeerConnectionState)
    : (pc.changeState state).1.dtlsSrtp = pc.dtlsSrtp := by
  unfold PeerConnection.changeState
  split <;> rfl

@[simp]
theorem changeState_sessions (pc : PeerConnection) (state : PeerConnectionState)
    : (pc.changeState state).1.sessions = pc.sessions := by
  unfold PeerConnection.changeState
  split <;> rfl

theorem changeState_state (pc : PeerConnection) (state : PeerConnectionState)
    : (pc.changeState state).1.state = pc.state ∨ (pc.changeState state).1.state = state := by
  unfold PeerConnection.changeState
  split
  . exact .inr rfl
  . exact .inl rfl

@[simp]
theorem setSsrc_state (pc : PeerConnection) (media : Media) (ssrc : BitVec 32)
    : (pc.setSsrc media ssrc).state = pc.state := by
  cases media <;> rfl

@[simp]
theorem setSsrc_dtlsSrtp (pc : PeerConnection) (media : Media) (ssrc : BitVec 32)
    : (pc.setSsrc media ssrc).dtlsSrtp = pc.dtlsSrtp := by
  cases media <;> rfl

@[simp]
theorem setSsrc_sessions (pc : PeerConnection) (media : Media) (ssrc : BitVec 32)
    : (pc.setSsrc media ssrc).sessions = pc.sessions := by
  cases media <;> rfl

/-
What a line changes apart from a fingerprint: the sources and nothing else that a session depends on.
-/
theorem scanLine_kept (scan : SdpScan) (line : List Byte)
    : let scan' := scanSsrc (scanMedia (scanUfrag scan line) line) line
      scan'.pc.state = scan.pc.state ∧ scan'.pc.dtlsSrtp = scan.pc.dtlsSrtp
        ∧ scan'.pc.sessions = scan.pc.sessions := by
  have hufrag : (scanUfrag scan line).pc = scan.pc := by
    unfold scanUfrag
    split <;> rfl
  have hmedia : (scanMedia (scanUfrag scan line) line).pc = scan.pc := by
    unfold scanMedia
    split
    . exact hufrag
    . split
      . exact hufrag
      . exact hufrag
  generalize scanMedia (scanUfrag scan line) line = named at hmedia
  intro scan'
  rw [← hmedia]
  simp only [scan', scanSsrc]
  split
  . exact ⟨rfl, rfl, rfl⟩
  . split
    . split
      . exact ⟨rfl, rfl, rfl⟩
      . simp
    . exact ⟨rfl, rfl, rfl⟩

/-
The fingerprints that a scan takes.
-/
def acceptedFingerprints (lines : List (List Byte)) : List (List Byte) :=
  (lines.filterMap fingerprintOf?).takeWhile fingerprintFits

structure Scanned (before after : PeerConnection) (fingerprints : List (List Byte)) : Prop where
  state : after.state = before.state
  sessions : after.sessions = before.sessions
  dtlsSrtp : after.dtlsSrtp
    = { before.dtlsSrtp with
        remoteFingerprint := fingerprints.getLast?.getD before.dtlsSrtp.remoteFingerprint }

theorem scanLines_scanned (scan : SdpScan) (lines : List (List Byte))
    : Scanned scan.pc (scanLines scan lines).1.pc (acceptedFingerprints lines) := by
  induction lines generalizing scan with
  | nil => exact ⟨rfl, rfl, rfl⟩
  | cons line lines ih =>
    unfold scanLines acceptedFingerprints
    cases hline : fingerprintOf? line with
    | none =>
      have hkept := scanLine_kept scan line
      have hrest := ih (scanSsrc (scanMedia (scanUfrag scan line) line) line)
      rw [List.filterMap_cons_none hline]
      constructor
      . exact hrest.state.trans hkept.1
      . exact hrest.sessions.trans hkept.2.2
      . rw [hrest.dtlsSrtp, hkept.2.1]
        rfl
    | some fingerprint =>
      rw [List.filterMap_cons_some hline]
      cases hfits : fingerprintFits fingerprint with
      | false =>
        -- A fingerprint that does not fit ends the scan.
        rw [List.takeWhile_cons_of_neg (by simp [hfits])]
        dsimp only
        rw [if_neg (by simp [hfits])]
        exact ⟨rfl, rfl, rfl⟩
      | true =>
        have hkept := scanLine_kept { scan with pc := scan.pc.setRemoteFingerprint fingerprint } line
        have hrest := ih (scanSsrc (scanMedia
          (scanUfrag { scan with pc := scan.pc.setRemoteFingerprint fingerprint } line) line) line)
        rw [List.takeWhile_cons_of_pos hfits]
        dsimp only
        rw [if_pos hfits]
        constructor
        . exact hrest.state.trans hkept.1
        . exact hrest.sessions.trans hkept.2.2
        . rw [hrest.dtlsSrtp, hkept.2.1]
          rw [List.getLast?_cons]
          rfl

/-
The fingerprints that an event brings.
-/
def eventFingerprints (event : ConnectionEvent) : List (List Byte) :=
  match event with
  | .setRemoteDescription sdp _ _ =>
    if (cString sdp).length > agentMaxDescription then [] else acceptedFingerprints (sdpLines (cString sdp))
  | _ => []

theorem setRemoteDescription_scanned (pc : PeerConnection) (sdp : List Byte) (type : SdpType)
    (remoteUfrag : Option (List Byte))
    : let pc' := (peerConnectionSetRemoteDescription pc sdp type remoteUfrag).1
      (pc'.state = pc.state ∨ pc'.state = .failed ∨ pc'.state = .checking) ∧ pc'.sessions = pc.sessions
        ∧ pc'.dtlsSrtp
          = { pc.dtlsSrtp with
              remoteFingerprint := (eventFingerprints (.setRemoteDescription sdp type remoteUfrag)).getLast?.getD
                pc.dtlsSrtp.remoteFingerprint } := by
  intro pc'
  simp only [pc', peerConnectionSetRemoteDescription, eventFingerprints]
  split
  . simp only [changeState_sessions, changeState_dtlsSrtp]
    cases changeState_state pc .failed with
    | inl hkept => exact ⟨.inl hkept, trivial, rfl⟩
    | inr hchanged => exact ⟨.inr (.inl hchanged), trivial, rfl⟩
  . have hscanned := scanLines_scanned ⟨pc, none, false⟩ (sdpLines (cString sdp))
    generalize scanLines ⟨pc, none, false⟩ (sdpLines (cString sdp)) = scanned at hscanned
    have hfailed : ((scanned.1.pc.changeState .failed).1.state = pc.state
        ∨ (scanned.1.pc.changeState .failed).1.state = .failed
        ∨ (scanned.1.pc.changeState .failed).1.state = .checking)
        ∧ (scanned.1.pc.changeState .failed).1.sessions = pc.sessions
        ∧ (scanned.1.pc.changeState .failed).1.dtlsSrtp
          = { pc.dtlsSrtp with
              remoteFingerprint := (acceptedFingerprints (sdpLines (cString sdp))).getLast?.getD
                pc.dtlsSrtp.remoteFingerprint } := by
      rw [changeState_sessions, changeState_dtlsSrtp]
      refine ⟨?_, hscanned.sessions, hscanned.dtlsSrtp⟩
      cases changeState_state scanned.1.pc .failed with
      | inl hkept => exact .inl (hkept.trans hscanned.state)
      | inr hchanged => exact .inr (.inl hchanged)
    split
    . exact hfailed
    . split
      . exact ⟨.inl hscanned.state, hscanned.sessions, hscanned.dtlsSrtp⟩
      . split
        . exact hfailed
        . next remoteUfrag =>
          split
          . exact ⟨.inl hscanned.state, hscanned.sessions, hscanned.dtlsSrtp⟩
          . rw [changeState_sessions, changeState_dtlsSrtp]
            refine ⟨?_, hscanned.sessions, hscanned.dtlsSrtp⟩
            cases changeState_state { scanned.1.pc with remoteUfrag := remoteUfrag } .checking with
            | inl hkept => exact .inl (hkept.trans hscanned.state)
            | inr hchanged => exact .inr (.inr hchanged)

theorem createSdp_kept (pc : PeerConnection) (type : SdpType) (input : SdpInput)
    : let res := peerConnectionCreateSdp pc type input
      (res.1.state = pc.state ∨ res.1.state = .failed)
        ∧ res.1.dtlsSrtp.remoteFingerprint = pc.dtlsSrtp.remoteFingerprint := by
  have hreset : (dtlsSrtpResetSession pc.sessions pc.dtlsSrtp).2.1.remoteFingerprint
      = pc.dtlsSrtp.remoteFingerprint := by
    unfold dtlsSrtpResetSession
    split <;> rfl
  intro res
  simp only [res, peerConnectionCreateSdp]
  split
  . exact ⟨changeState_state pc .failed, by rw [changeState_dtlsSrtp]⟩
  . split
    . rw [changeState_dtlsSrtp]
      exact ⟨changeState_state _ .failed, hreset⟩
    . exact ⟨.inl rfl, hreset⟩

theorem createAnswer_kept (pc : PeerConnection) (input : SdpInput)
    : let pc' := (peerConnectionCreateAnswer pc input).1
      (pc'.state = pc.state ∨ pc'.state = .failed ∨ pc'.state = .checking)
        ∧ pc'.dtlsSrtp.remoteFingerprint = pc.dtlsSrtp.remoteFingerprint := by
  have hsdp := createSdp_kept pc .answer input
  intro pc'
  simp only [pc', peerConnectionCreateAnswer]
  split
  . rw [changeState_dtlsSrtp]
    refine ⟨?_, hsdp.2⟩
    cases changeState_state (peerConnectionCreateSdp pc .answer input).1 .checking with
    | inl hkept =>
      rw [hkept]
      cases hsdp.1 with
      | inl hsame => exact .inl hsame
      | inr hfailed => exact .inr (.inl hfailed)
    | inr hchanged => exact .inr (.inr hchanged)
  . refine ⟨?_, hsdp.2⟩
    cases hsdp.1 with
    | inl hsame => exact .inl hsame
    | inr hfailed => exact .inr (.inl hfailed)

theorem begin_remoteFingerprint (dtls : DtlsSrtp) : dtls.begin.remoteFingerprint = dtls.remoteFingerprint := by
  unfold DtlsSrtp.begin
  split <;> rfl

theorem doHandshake_remoteFingerprint (sessions : SrtpSessions) (dtls : DtlsSrtp) (input : HandshakeInput)
    : (dtlsSrtpDoHandshake sessions dtls input).2.remoteFingerprint = dtls.remoteFingerprint := by
  unfold dtlsSrtpDoHandshake
  split
  . rfl
  . unfold dtlsSrtpKeyDerivation
    split
    . rfl
    . dsimp only
      split
      . rfl
      . split <;> rfl

/-
The part of the handshake before the certificate is looked at.
-/
theorem handshakeAs_remoteFingerprint (sessions : SrtpSessions) (dtls : DtlsSrtp) (input : HandshakeInput)
    : (dtlsSrtpHandshakeAs sessions dtls input).2.1.remoteFingerprint = dtls.remoteFingerprint := by
  have hkept := doHandshake_remoteFingerprint sessions dtls.begin input
  rw [begin_remoteFingerprint] at hkept
  unfold dtlsSrtpHandshakeAs
  split
  . unfold dtlsSrtpHandshakeServer
    dsimp only
    split
    . exact hkept
    . exact hkept
  . exact hkept

theorem handshakeAs_ret {sessions : SrtpSessions} {dtls : DtlsSrtp} {input : HandshakeInput}
    (h : (dtlsSrtpHandshakeAs sessions dtls input).2.2 = .ok) : input.ret = .ok := by
  unfold dtlsSrtpHandshakeAs at h
  split at h
  . unfold dtlsSrtpHandshakeServer at h
    dsimp only at h
    split at h
    . contradiction
    . exact h
  . exact h

theorem checkRemoteCert_remoteFingerprint (dtls : DtlsSrtp) (peerCert : Option (List Byte))
    : (checkRemoteCert dtls peerCert).1.remoteFingerprint = dtls.remoteFingerprint := by
  unfold checkRemoteCert
  split
  . rfl
  . dsimp only
    split <;> rfl

theorem dtlsSrtpHandshake_remoteFingerprint (sessions : SrtpSessions) (dtls : DtlsSrtp) (input : HandshakeInput)
    : (dtlsSrtpHandshake sessions dtls input).2.1.remoteFingerprint = dtls.remoteFingerprint := by
  unfold dtlsSrtpHandshake
  dsimp only
  split
  . apply handshakeAs_remoteFingerprint
  . dsimp only
    rw [checkRemoteCert_remoteFingerprint]
    apply handshakeAs_remoteFingerprint

/-
A handshake with the expected certificate.
-/
structure Accepted (dtls : DtlsSrtp) (input : HandshakeInput) (digest : List Byte) : Prop where
  ret : input.ret = .ok
  peerCert : input.peerCert = some digest
  expected : sameString dtlsSrtpFingerprintLength dtls.remoteFingerprint digest = true

theorem dtlsSrtpHandshake_accepted {sessions : SrtpSessions} {dtls : DtlsSrtp} {input : HandshakeInput}
    (h : (dtlsSrtpHandshake sessions dtls input).2.2 = .ok) : ∃ digest, Accepted dtls input digest := by
  unfold dtlsSrtpHandshake at h
  dsimp only at h
  split at h
  . contradiction
  . next hok =>
    rw [not_not] at hok
    unfold checkRemoteCert at h
    split at h
    . contradiction
    . next digest hcert =>
      dsimp only at h
      split at h
      . next hsame =>
        rw [handshakeAs_remoteFingerprint] at hsame
        exact ⟨digest, handshakeAs_ret hok, hcert, hsame⟩
      . contradiction

end State

section Steps

@[simp]
theorem setEncoder_state (pc : PeerConnection) (media : Media) (encoder : RtpEncoder)
    : (pc.setEncoder media encoder).state = pc.state := by
  cases media <;> rfl

@[simp]
theorem setEncoder_dtlsSrtp (pc : PeerConnection) (media : Media) (encoder : RtpEncoder)
    : (pc.setEncoder media encoder).dtlsSrtp = pc.dtlsSrtp := by
  cases media <;> rfl

@[simp]
theorem setEncoder_sessions (pc : PeerConnection) (media : Media) (encoder : RtpEncoder)
    : (pc.setEncoder media encoder).sessions = pc.sessions := by
  cases media <;> rfl

/-
Sending and receiving change the encoders and decoders only.
-/
theorem send_kept (pc : PeerConnection) (media : Media) (buf : List Byte) (timestampUs : BitVec 64)
    : let pc' := (peerConnectionSend pc media buf timestampUs).1
      pc'.state = pc.state ∧ pc'.dtlsSrtp = pc.dtlsSrtp ∧ pc'.sessions = pc.sessions := by
  intro pc'
  simp only [pc', peerConnectionSend]
  split
  . exact ⟨rfl, rfl, rfl⟩
  . split
    . exact ⟨rfl, rfl, rfl⟩
    . simp

theorem receivePacket_kept (pc : PeerConnection) (input : LoopInput)
    : let pc' := (receivePacket pc input).1
      pc'.state = pc.state ∧ pc'.dtlsSrtp = pc.dtlsSrtp ∧ pc'.sessions = pc.sessions := by
  have hdecode : ∀ buf len, (decodeRtp pc buf len).1.state = pc.state
      ∧ (decodeRtp pc buf len).1.dtlsSrtp = pc.dtlsSrtp ∧ (decodeRtp pc buf len).1.sessions = pc.sessions := by
    intro buf len
    unfold decodeRtp
    dsimp only
    split
    . exact ⟨rfl, rfl, rfl⟩
    . split
      . exact ⟨rfl, rfl, rfl⟩
      . exact ⟨rfl, rfl, rfl⟩
  intro pc'
  simp only [pc', receivePacket]
  split
  . exact ⟨rfl, rfl, rfl⟩
  . cases classifyDatagram input.received with
    | rtcp => exact ⟨rfl, rfl, rfl⟩
    | dtls => exact ⟨rfl, rfl, rfl⟩
    | rtp => apply hdecode
    | unknown => exact ⟨rfl, rfl, rfl⟩

/--
The state after a step: the one from before, one in which no media flows, or the next one on the way to media, after
what is needed for it.
-/
inductive StateStep (pc : PeerConnection) (event : ConnectionEvent) : PeerConnectionState → Prop where
  | kept {state : PeerConnectionState} (hkept : state = pc.state) : StateStep pc event state
  | failed : StateStep pc event .failed
  | checking : StateStep pc event .checking
  | closed : StateStep pc event .closed
  | confirmed {input : LoopInput} (hevent : event = .loop input) (hstate : pc.state = .checking)
      (hselected : input.selected = true) (hconfirmed : input.confirmed = true) : StateStep pc event .connected
  | accepted {input : LoopInput} {digest : List Byte} (hevent : event = .loop input)
      (hstate : pc.state = .connected) (haccepted : Accepted pc.dtlsSrtp input.handshake digest)
      : StateStep pc event .completed

theorem stateStep_changeState {pc pc' : PeerConnection} {event : ConnectionEvent} {state : PeerConnectionState}
    (hkept : pc'.state = pc.state) (hstate : StateStep pc event state)
    : StateStep pc event (pc'.changeState state).1.state := by
  cases changeState_state pc' state with
  | inl h =>
    exact .kept (h.trans hkept)
  | inr h =>
    rw [h]
    exact hstate

theorem stateStep_loop (pc : PeerConnection) (input : LoopInput)
    : StateStep pc (.loop input) (peerConnectionLoop pc input).1.state := by
  cases hstate : pc.state with
  | checking =>
    simp only [peerConnectionLoop, hstate]
    split
    . exact stateStep_changeState rfl .failed
    . next hselected =>
      split
      . next hconfirmed =>
        exact stateStep_changeState rfl (.confirmed rfl hstate (by simpa using hselected) hconfirmed)
      . exact .kept rfl
  | connected =>
    simp only [peerConnectionLoop, hstate]
    split
    . next hok =>
      obtain ⟨digest, haccepted⟩ := dtlsSrtpHandshake_accepted hok
      exact stateStep_changeState hstate.symm (.accepted rfl hstate haccepted)
    . exact .kept hstate.symm
    . exact .kept hstate.symm
    . exact stateStep_changeState hstate.symm .failed
    . exact stateStep_changeState hstate.symm .failed
  | completed =>
    have hkept := (receivePacket_kept pc input).1
    simp only [peerConnectionLoop, hstate]
    split
    . exact stateStep_changeState hkept .closed
    . exact .kept hkept
  | closed =>
    simp only [peerConnectionLoop, hstate]
    exact .kept hstate.symm
  | new =>
    simp only [peerConnectionLoop, hstate]
    exact .kept hstate.symm
  | failed =>
    simp only [peerConnectionLoop, hstate]
    exact .kept hstate.symm
  | disconnected =>
    simp only [peerConnectionLoop, hstate]
    exact .kept hstate.symm

theorem stateStep (pc : PeerConnection) (event : ConnectionEvent)
    : StateStep pc event (connectionMachine.step pc event).1.state := by
  cases event with
  | stateCallback set => exact .kept rfl
  | createOffer input =>
    cases (createSdp_kept pc .offer input).1 with
    | inl h => exact .kept h
    | inr h =>
      simp only [connectionMachine, peerConnectionCreateOffer, h]
      exact .failed
  | createAnswer input =>
    rcases (createAnswer_kept pc input).1 with h | h | h
    . exact .kept h
    . simp only [connectionMachine, h]
      exact .failed
    . simp only [connectionMachine, h]
      exact .checking
  | setRemoteDescription sdp type remoteUfrag =>
    rcases (setRemoteDescription_scanned pc sdp type remoteUfrag).1 with h | h | h
    . exact .kept h
    . simp only [connectionMachine, h]
      exact .failed
    . simp only [connectionMachine, h]
      exact .checking
  | loop input => apply stateStep_loop
  | send media buf timestampUs => exact .kept (send_kept pc media buf timestampUs).1
  | close => exact stateStep_changeState rfl .closed

theorem connected_of_step {pc : PeerConnection} {event : ConnectionEvent} (hpre : pc.state ≠ .connected)
    (hpost : (connectionMachine.step pc event).1.state = .connected)
    : ∃ input, event = .loop input ∧ pc.state = .checking ∧ input.selected = true ∧ input.confirmed = true := by
  have hstep := stateStep pc event
  generalize (connectionMachine.step pc event).1.state = state at hstep hpost
  cases hstep with
  | kept hkept =>
    rw [hkept] at hpost
    contradiction
  | failed => contradiction
  | checking => contradiction
  | closed => contradiction
  | confirmed hevent hstate hselected hconfirmed => exact ⟨_, hevent, hstate, hselected, hconfirmed⟩
  | accepted => contradiction

theorem completed_of_step {pc : PeerConnection} {event : ConnectionEvent} (hpre : pc.state ≠ .completed)
    (hpost : (connectionMachine.step pc event).1.state = .completed)
    : ∃ input digest, event = .loop input ∧ pc.state = .connected
      ∧ Accepted pc.dtlsSrtp input.handshake digest := by
  have hstep := stateStep pc event
  generalize (connectionMachine.step pc event).1.state = state at hstep hpost
  cases hstep with
  | kept hkept =>
    rw [hkept] at hpost
    contradiction
  | failed => contradiction
  | checking => contradiction
  | closed => contradiction
  | confirmed => contradiction
  | accepted hevent hstate haccepted => exact ⟨_, _, hevent, hstate, haccepted⟩

theorem loop_remoteFingerprint (pc : PeerConnection) (input : LoopInput)
    : (peerConnectionLoop pc input).1.dtlsSrtp.remoteFingerprint = pc.dtlsSrtp.remoteFingerprint := by
  have hhandshake := dtlsSrtpHandshake_remoteFingerprint pc.sessions pc.dtlsSrtp input.handshake
  have hreceived := (receivePacket_kept pc input).2.1
  unfold peerConnectionLoop
  split
  . split
    . simp
    . split <;> simp
  . dsimp only
    split <;> simp [hhandshake]
  . dsimp only
    split <;> simp [hreceived]
  . rfl
  . rfl
  . rfl
  . rfl

theorem step_remoteFingerprint (pc : PeerConnection) (event : ConnectionEvent)
    : (connectionMachine.step pc event).1.dtlsSrtp.remoteFingerprint
      = (eventFingerprints event).getLast?.getD pc.dtlsSrtp.remoteFingerprint := by
  cases event with
  | stateCallback set => rfl
  | createOffer input => exact (createSdp_kept pc .offer input).2
  | createAnswer input => exact (createAnswer_kept pc input).2
  | setRemoteDescription sdp type remoteUfrag =>
    simp only [connectionMachine, (setRemoteDescription_scanned pc sdp type remoteUfrag).2.2]
  | loop input => apply loop_remoteFingerprint
  | send media buf timestampUs =>
    simp only [connectionMachine, (send_kept pc media buf timestampUs).2.1]
    rfl
  | close =>
    simp only [connectionMachine, changeState_dtlsSrtp]
    rfl

/-
What the last of the descriptions has announced.
-/
theorem final_remoteFingerprint (pc : PeerConnection) (events : List ConnectionEvent)
    : (connectionMachine.final pc events).dtlsSrtp.remoteFingerprint
      = (events.flatMap eventFingerprints).getLast?.getD pc.dtlsSrtp.remoteFingerprint :=
  connectionMachine.final_last (·.dtlsSrtp.remoteFingerprint) eventFingerprints step_remoteFingerprint pc events

end Steps

/--
A connection that is completed has been confirmed by a connectivity check, has stayed connected from there to a
handshake whose certificate has the fingerprint announced last before it, and has been completed since.
-/
theorem connection_completed (config : ConnectionConfig) (sessions : SrtpSessions) (events : List ConnectionEvent)
    (h : (connectionMachine.final (peerConnectionCreate config sessions) events).state = .completed)
    : let reached := fun part => (connectionMachine.final (peerConnectionCreate config sessions) part).state
      ∃ before check between handshake after digest,
        events = before ++ .loop check :: between ++ .loop handshake :: after
        ∧ reached before = .checking ∧ check.selected = true ∧ check.confirmed = true
        ∧ (∀ part, part <+: between → reached (before ++ .loop check :: part) = .connected)
        ∧ handshake.handshake.ret = .ok ∧ handshake.handshake.peerCert = some digest
        ∧ sameString dtlsSrtpFingerprintLength
            (((before ++ .loop check :: between).flatMap eventFingerprints).getLast?.getD []) digest = true
        ∧ ∀ part, part <+: after
          → reached (before ++ .loop check :: between ++ .loop handshake :: part) = .completed := by
  intro reached
  have hnew : (peerConnectionCreate config sessions).state = .closed := rfl
  -- The last entry into each of the two states, the later one first.
  obtain ⟨start, event, after, hevents, hnot, hcompleted⟩ :=
    connectionMachine.exists_entry (P := fun pc => pc.state = .completed) (by simp [hnew]) h
  have hentered := hcompleted [] List.nil_prefix
  rw [Machine.final_append] at hentered
  obtain ⟨handshake, digest, hloop, hconnected, haccepted⟩ := completed_of_step hnot hentered
  obtain ⟨before, event', between, hstart, hnot', hstays⟩ :=
    connectionMachine.exists_entry (P := fun pc => pc.state = .connected) (by simp [hnew]) hconnected
  have hentered' := hstays [] List.nil_prefix
  rw [Machine.final_append] at hentered'
  obtain ⟨check, hloop', hchecking, hselected, hconfirmed⟩ := connected_of_step hnot' hentered'
  rw [hloop] at hevents hcompleted
  rw [hloop'] at hstart hstays
  have hexpected := haccepted.expected
  rw [final_remoteFingerprint, hstart] at hexpected
  rw [hstart] at hevents hcompleted
  exact ⟨before, check, between, handshake, after, digest, hevents, hchecking, hselected, hconfirmed, hstays,
    haccepted.ret, haccepted.peerCert, hexpected, hcompleted⟩

/-
An answer with a fingerprint of two digits.
-/
def answerSdp : List Byte := fingerprintPrefix ++ ascii "4A\r\n"

def tick (handshake : HandshakeInput) : LoopInput where
  selected := true
  confirmed := true
  handshake := handshake
  received := []
  unprotected := []
  unprotectedLen := 0
  bindingRequestTime := 0
  now := 0

def mediaConfig : ConnectionConfig := ⟨none, some .h264, false, false, false⟩

def noSessions : SrtpSessions := ⟨0, [], by simp, List.nodup_nil⟩

def exportedKeys : KeyExport := ⟨some (Vector.replicate 60 0), .ok, .ok⟩

/-
An offer, the answer to it, a check and a handshake.
-/
def completingRun : List ConnectionEvent :=
  [.stateCallback true, .createOffer ⟨false, true, true, true⟩, .setRemoteDescription answerSdp .answer (some []),
    .loop (tick ⟨none, .wantRead, none⟩), .loop (tick ⟨none, .wantRead, none⟩),
    .loop (tick ⟨some exportedKeys, .ok, some (ascii "4A")⟩)]

theorem connection_completed_run
    : (connectionMachine.final (peerConnectionCreate mediaConfig noSessions) completingRun).state = .completed
      ∧ ∃ check handshake, .loop check ∈ completingRun ∧ check.confirmed = true
        ∧ .loop handshake ∈ completingRun ∧ handshake.handshake.ret = .ok := by
  have hfinal : (connectionMachine.final (peerConnectionCreate mediaConfig noSessions) completingRun).state
      = .completed := by decide +kernel
  refine ⟨hfinal, ?_⟩
  obtain ⟨before, check, between, handshake, after, digest, hevents, _, _, hconfirmed, _, hret, _⟩ :=
    connection_completed mediaConfig noSessions completingRun hfinal
  refine ⟨check, handshake, ?_, hconfirmed, ?_, hret⟩
  . rw [hevents]
    simp
  . rw [hevents]
    simp

end Peer

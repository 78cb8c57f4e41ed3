import RtsmartLib.Peer.ConnectionRuns

/-!
This module contains which SRTP sessions a peer connection holds: that it gives back what it has made and nothing
else, and when the session that a packet goes through is one that it holds.
-/

namespace Peer

open Lib

/-
What is relied on in the TLS library: after the keys have been exported it does not export them again, and when it
asks for another hello it has not exported any.
-/
def LawfulHandshake (dtls : DtlsSrtp) (input : HandshakeInput) : Prop :=
  (dtls.state = .connected → input.exported = none)
    ∧ (input.ret = .helloVerifyRequired → input.exported = none ∧ dtls.state ≠ .connected)

instance (dtls : DtlsSrtp) (input : HandshakeInput) : Decidable (LawfulHandshake dtls input) :=
  inferInstanceAs (Decidable (_ ∧ _))

def LawfulEvent (pc : PeerConnection) (event : ConnectionEvent) : Prop :=
  match event with
  | .loop input => pc.state = .connected → LawfulHandshake pc.dtlsSrtp input.handshake
  | _ => True

instance (pc : PeerConnection) (event : ConnectionEvent) : Decidable (LawfulEvent pc event) :=
  match event with
  | .stateCallback _ => isTrue trivial
  | .createOffer _ => isTrue trivial
  | .createAnswer _ => isTrue trivial
  | .setRemoteDescription _ _ _ => isTrue trivial
  | .loop _ => inferInstanceAs (Decidable (_ → _))
  | .send _ _ _ => isTrue trivial
  | .close => isTrue trivial

/-
Whether the inbound session is made and then the outbound one is not.
-/
def lostInbound (input : HandshakeInput) : Bool :=
  match input.exported with
  | none => false
  | some exported => exported.keyMaterial.isSome && exported.inbound = .ok && exported.outbound ≠ .ok

def eventLost (pc : PeerConnection) (event : ConnectionEvent) : Bool :=
  match event with
  | .loop input => if pc.state = .connected then lostInbound input.handshake else false
  | _ => false

/--
What can happen to the sessions: nothing, both are given back, both are made, or one is made and forgotten.
-/
inductive SessionStep (sessions : SrtpSessions) (dtls : DtlsSrtp)
    : SrtpSessions → DtlsSrtp → List (Option Nat) → Bool → Prop where
  | kept {dtls' : DtlsSrtp} (hstate : dtls'.state = .connected ↔ dtls.state = .connected)
      (hin : dtls.state = .connected → dtls'.srtpIn = dtls.srtpIn) (hout : dtls'.srtpOut = dtls.srtpOut)
      : SessionStep sessions dtls sessions dtls' [] false
  | reset {dtls' : DtlsSrtp} (hbefore : dtls.state = .connected) (hafter : dtls'.state ≠ .connected)
      (hout : dtls'.srtpOut = dtls.srtpOut)
      : SessionStep sessions dtls (srtpDealloc (srtpDealloc sessions dtls.srtpIn) dtls.srtpOut) dtls'
        [dtls.srtpIn, dtls.srtpOut] false
  | derived {dtls' : DtlsSrtp} (hbefore : dtls.state ≠ .connected) (hafter : dtls'.state = .connected)
      (hin : dtls'.srtpIn = some sessions.created) (hout : dtls'.srtpOut = some (sessions.created + 1))
      : SessionStep sessions dtls sessions.add.add dtls' [] false
  | lost {dtls' : DtlsSrtp} (hbefore : dtls.state ≠ .connected) (hafter : dtls'.state ≠ .connected)
      (hout : dtls'.srtpOut = dtls.srtpOut ∨ dtls'.srtpOut = none)
      : SessionStep sessions dtls sessions.add dtls' [] true

section Handshake

theorem begin_state (dtls : DtlsSrtp) : dtls.begin.state = .connected ↔ dtls.state = .connected := by
  unfold DtlsSrtp.begin
  split
  . next hinit => simp [hinit]
  . rfl

theorem begin_srtp (dtls : DtlsSrtp) : dtls.begin.srtpIn = dtls.srtpIn ∧ dtls.begin.srtpOut = dtls.srtpOut := by
  unfold DtlsSrtp.begin
  split <;> exact ⟨rfl, rfl⟩

theorem keyDerivation_step {sessions : SrtpSessions} {dtls : DtlsSrtp} (hbefore : dtls.state ≠ .connected)
    (exported : KeyExport)
    : let res := dtlsSrtpKeyDerivation sessions dtls exported
      SessionStep sessions dtls res.1 res.2 []
        (exported.keyMaterial.isSome && exported.inbound = .ok && exported.outbound ≠ .ok) := by
  have hvacuous : ∀ {p : Prop}, dtls.state = .connected → p := fun h => absurd h hbefore
  intro res
  cases hmaterial : exported.keyMaterial with
  | none =>
    simp only [res, dtlsSrtpKeyDerivation, hmaterial]
    exact .kept .rfl hvacuous rfl
  | some keyMaterial =>
    simp only [res, dtlsSrtpKeyDerivation, hmaterial]
    cases hin : exported.inbound with
    | ok =>
      cases hout : exported.outbound with
      | ok => exact .derived hbefore rfl rfl rfl
      | noContext => exact .lost hbefore hbefore (.inl rfl)
      | noStream => exact .lost hbefore hbefore (.inr rfl)
    | noContext => exact .kept .rfl hvacuous rfl
    | noStream => exact .kept .rfl hvacuous rfl

theorem SessionStep.of_begin {sessions sessions' : SrtpSessions} {dtls dtls' : DtlsSrtp}
    {deallocs : List (Option Nat)} {lost : Bool}
    (h : SessionStep sessions dtls.begin sessions' dtls' deallocs lost)
    : SessionStep sessions dtls sessions' dtls' deallocs lost := by
  have hstate := begin_state dtls
  have hsrtp := begin_srtp dtls
  cases h with
  | kept hkept hin hout =>
    rw [hstate] at hkept hin
    rw [hsrtp.1] at hin
    rw [hsrtp.2] at hout
    exact .kept hkept hin hout
  | reset hbefore hafter hout =>
    rw [hstate] at hbefore
    rw [hsrtp.2] at hout
    rw [hsrtp.1, hsrtp.2]
    exact .reset hbefore hafter hout
  | derived hbefore hafter hin hout =>
    rw [ne_eq, hstate] at hbefore
    exact .derived hbefore hafter hin hout
  | lost hbefore hafter hout =>
    rw [ne_eq, hstate] at hbefore
    rw [hsrtp.2] at hout
    exact .lost hbefore hafter hout

theorem doHandshake_step {sessions : SrtpSessions} {dtls : DtlsSrtp} {input : HandshakeInput}
    (h : LawfulHandshake dtls input)
    : let res := dtlsSrtpDoHandshake sessions dtls.begin input
      SessionStep sessions dtls res.1 res.2 [] (lostInbound input) := by
  intro res
  apply SessionStep.of_begin
  cases hexported : input.exported with
  | none =>
    simp only [res, dtlsSrtpDoHandshake, lostInbound, hexported]
    exact .kept .rfl (fun _ => rfl) rfl
  | some exported =>
    have hbefore : dtls.begin.state ≠ .connected := by
      intro hconnected
      -- Keys that have been exported are not exported again.
      rw [begin_state] at hconnected
      rw [h.1 hconnected] at hexported
      contradiction
    simp only [res, dtlsSrtpDoHandshake, lostInbound, hexported]
    exact keyDerivation_step hbefore exported

theorem handshakeServer_step {sessions : SrtpSessions} {dtls : DtlsSrtp} {input : HandshakeInput}
    (h : LawfulHandshake dtls input)
    : let res := dtlsSrtpHandshakeServer sessions dtls input
      SessionStep sessions dtls res.1 res.2.1 [] (lostInbound input) := by
  intro res
  by_cases hverify : input.ret = .helloVerifyRequired
  . obtain ⟨hexported, hbefore⟩ := h.2 hverify
    simp only [res, dtlsSrtpHandshakeServer, hverify, dtlsSrtpDoHandshake, lostInbound, hexported]
    have hout := (begin_srtp dtls).2
    refine .kept ?_ (fun h => absurd h hbefore) hout
    simpa using hbefore
  . simp only [res, dtlsSrtpHandshakeServer, hverify]
    exact doHandshake_step h

theorem handshakeAs_step {sessions : SrtpSessions} {dtls : DtlsSrtp} {input : HandshakeInput}
    (h : LawfulHandshake dtls input)
    : let res := dtlsSrtpHandshakeAs sessions dtls input
      SessionStep sessions dtls res.1 res.2.1 [] (lostInbound input) := by
  intro res
  simp only [res, dtlsSrtpHandshakeAs]
  split
  . exact handshakeServer_step h
  . exact doHandshake_step h

/-
The certificate is not one of the things that a session depends on.
-/
theorem SessionStep.checkRemoteCert {sessions sessions' : SrtpSessions} {dtls dtls' : DtlsSrtp}
    {deallocs : List (Option Nat)} {lost : Bool} (h : SessionStep sessions dtls sessions' dtls' deallocs lost)
    (peerCert : Option (List Byte))
    : SessionStep sessions dtls sessions' (checkRemoteCert dtls' peerCert).1 deallocs lost := by
  have hsame : (Peer.checkRemoteCert dtls' peerCert).1.state = dtls'.state
      ∧ (Peer.checkRemoteCert dtls' peerCert).1.srtpIn = dtls'.srtpIn
      ∧ (Peer.checkRemoteCert dtls' peerCert).1.srtpOut = dtls'.srtpOut := by
    unfold Peer.checkRemoteCert
    split
    . exact ⟨rfl, rfl, rfl⟩
    . dsimp only
      split <;> exact ⟨rfl, rfl, rfl⟩
  obtain ⟨hstate, hin, hout⟩ := hsame
  cases h with
  | kept hstate' hin' hout' =>
    exact .kept (by rw [hstate, hstate']) (fun h => hin.trans (hin' h)) (hout.trans hout')
  | reset hbefore hafter hout' => exact .reset hbefore (by rwa [hstate]) (hout.trans hout')
  | derived hbefore hafter hin' hout' =>
    exact .derived hbefore (hstate.trans hafter) (hin.trans hin') (hout.trans hout')
  | lost hbefore hafter hout' => exact .lost hbefore (by rwa [hstate]) (by rwa [hout])

theorem handshake_step {sessions : SrtpSessions} {dtls : DtlsSrtp} {input : HandshakeInput}
    (h : LawfulHandshake dtls input)
    : let res := dtlsSrtpHandshake sessions dtls input
      SessionStep sessions dtls res.1 res.2.1 [] (lostInbound input) := by
  have hstep := @handshakeAs_step sessions dtls input h
  intro res
  simp only [res, dtlsSrtpHandshake]
  split
  . exact hstep
  . exact hstep.checkRemoteCert input.peerCert

end Handshake

section Steps

theorem SessionStep.unchanged {pc pc' : PeerConnection} (hdtls : pc'.dtlsSrtp = pc.dtlsSrtp)
    (hsessions : pc'.sessions = pc.sessions)
    : SessionStep pc.sessions pc.dtlsSrtp pc'.sessions pc'.dtlsSrtp [] false := by
  rw [hdtls, hsessions]
  exact .kept .rfl (fun _ => rfl) rfl

theorem resetInit_step (sessions : SrtpSessions) (dtls : DtlsSrtp) (role : DtlsSrtpRole)
    : let reset := dtlsSrtpResetSession sessions dtls
      SessionStep sessions dtls reset.1 (dtlsSrtpInit reset.2.1 role) reset.2.2 false := by
  intro reset
  simp only [reset, dtlsSrtpResetSession]
  split
  . next hconnected => exact .reset hconnected (by simp [dtlsSrtpInit]) rfl
  . next hnot => exact .kept (by simp [dtlsSrtpInit, hnot]) (fun h => absurd h hnot) rfl

theorem createSdp_step (pc : PeerConnection) (type : SdpType) (input : SdpInput)
    : let res := peerConnectionCreateSdp pc type input
      SessionStep pc.sessions pc.dtlsSrtp res.1.sessions res.1.dtlsSrtp res.2.1.deallocs false := by
  have hreset := resetInit_step pc.sessions pc.dtlsSrtp (sdpRole type)
  intro res
  simp only [res, peerConnectionCreateSdp]
  split
  . exact .unchanged (by simp) (by simp)
  . split
    . simp only [changeState_sessions, changeState_dtlsSrtp]
      exact hreset
    . exact hreset

theorem loop_step {pc : PeerConnection} {input : LoopInput} (h : LawfulEvent pc (.loop input))
    : let res := peerConnectionLoop pc input
      SessionStep pc.sessions pc.dtlsSrtp res.1.sessions res.1.dtlsSrtp res.2.deallocs
        (eventLost pc (.loop input)) := by
  intro res
  by_cases hconnected : pc.state = .connected
  . have hstep := @handshake_step pc.sessions pc.dtlsSrtp input.handshake (h hconnected)
    simp only [res, peerConnectionLoop, hconnected, eventLost]
    split
    . simp only [changeState_sessions, changeState_dtlsSrtp]
      exact hstep
    . exact hstep
    . exact hstep
    . simp only [changeState_sessions, changeState_dtlsSrtp]
      exact hstep
    . simp only [changeState_sessions, changeState_dtlsSrtp]
      exact hstep
  . have hreceived := (receivePacket_kept pc input).2
    have hdeallocs : (receivePacket pc input).2.deallocs = [] := by
      unfold receivePacket
      split
      . rfl
      . split <;> rfl
    simp only [res, peerConnectionLoop, eventLost, if_neg hconnected]
    split
    . split
      . exact .unchanged (by simp) (by simp)
      . split
        . exact .unchanged (by simp) (by simp)
        . exact .unchanged rfl rfl
    . contradiction
    . split
      . simp only [hdeallocs]
        exact .unchanged (by simp [hreceived.1]) (by simp [hreceived.2])
      . rw [hdeallocs]
        exact .unchanged hreceived.1 hreceived.2
    . exact .unchanged rfl rfl
    . exact .unchanged rfl rfl
    . exact .unchanged rfl rfl
    . exact .unchanged rfl rfl

theorem session_step {pc : PeerConnection} {event : ConnectionEvent} (h : LawfulEvent pc event)
    : let res := connectionMachine.step pc event
      SessionStep pc.sessions pc.dtlsSrtp res.1.sessions res.1.dtlsSrtp res.2.deallocs (eventLost pc event) := by
  intro res
  cases event with
  | stateCallback set => exact .unchanged rfl rfl
  | createOffer input => apply createSdp_step pc .offer
  | createAnswer input =>
    have hsdp := createSdp_step pc .answer input
    simp only [res, connectionMachine, peerConnectionCreateAnswer]
    split
    . simp only [changeState_sessions, changeState_dtlsSrtp]
      exact hsdp
    . exact hsdp
  | setRemoteDescription sdp type remoteUfrag =>
    obtain ⟨_, hsessions, hdtls⟩ := setRemoteDescription_scanned pc sdp type remoteUfrag
    simp only [res, connectionMachine, hsessions, hdtls]
    exact .kept .rfl (fun _ => rfl) rfl
  | loop input => exact loop_step h
  | send media buf timestampUs =>
    obtain ⟨_, hdtls, hsessions⟩ := send_kept pc media buf timestampUs
    have hdeallocs : (peerConnectionSend pc media buf timestampUs).2.deallocs = [] := by
      unfold peerConnectionSend
      split
      . rfl
      . split <;> rfl
    simp only [res, connectionMachine, hdeallocs]
    exact .unchanged hdtls hsessions
  | close => exact .unchanged (by simp [res, connectionMachine]) (by simp [res, connectionMachine])

end Steps

section Balance

/--
What a connection holds, where it has started from `start` and `released` have been given back since, and `lost` have
been forgotten.
-/
structure Balance (start sessions : SrtpSessions) (dtls : DtlsSrtp) (released : List (Option Nat)) (lost : Nat)
    : Prop where
  connected : dtls.state = .connected → ∃ i j, dtls.srtpIn = some i ∧ dtls.srtpOut = some j ∧ i ≠ j
    ∧ i ∈ sessions.live ∧ j ∈ sessions.live ∧ start.created ≤ i ∧ start.created ≤ j
  disconnected : dtls.state ≠ .connected → ¬sessions.Live dtls.srtpOut
  created : start.created ≤ sessions.created
  made : ∀ i, dtls.srtpOut = some i → i < sessions.created
  nodup : released.Nodup
  past : ∀ session ∈ released, ∃ i, session = some i ∧ start.created ≤ i ∧ i < sessions.created
    ∧ i ∉ sessions.live
  count : sessions.live.length
    = start.live.length + lost + (if dtls.state = .connected then 2 else 0)

theorem not_live_none (sessions : SrtpSessions) : ¬sessions.Live none := by
  intro ⟨i, _, h⟩
  contradiction

theorem mem_remove {sessions : SrtpSessions} {i j : Nat}
    : j ∈ (sessions.remove i).live ↔ j ≠ i ∧ j ∈ sessions.live :=
  sessions.nodup.mem_erase_iff

theorem length_remove {sessions : SrtpSessions} {i : Nat} (h : i ∈ sessions.live)
    : (sessions.remove i).live.length + 1 = sessions.live.length := by
  have hpos := List.length_pos_of_mem h
  have herase := List.length_erase_of_mem h
  simp only [SrtpSessions.remove]
  omega

variable {start sessions : SrtpSessions} {dtls dtls' : DtlsSrtp} {released : List (Option Nat)} {lost : Nat}

theorem Balance.atStart (sessions : SrtpSessions) : Balance sessions sessions DtlsSrtp.zero [] 0 where
  connected h := by contradiction
  disconnected _ := not_live_none sessions
  created := Nat.le_refl _
  made _ h := by contradiction
  nodup := List.nodup_nil
  past _ h := by contradiction
  count := rfl

theorem Balance.kept (h : Balance start sessions dtls released lost)
    (hstate : dtls'.state = .connected ↔ dtls.state = .connected)
    (hin : dtls.state = .connected → dtls'.srtpIn = dtls.srtpIn) (hout : dtls'.srtpOut = dtls.srtpOut)
    : Balance start sessions dtls' released lost where
  connected hconnected := by
    rw [hin (hstate.mp hconnected), hout]
    exact h.connected (hstate.mp hconnected)
  disconnected hnot := by
    rw [hout]
    apply h.disconnected
    rwa [ne_eq, ← hstate]
  created := h.created
  made i hi := h.made i (by rwa [← hout])
  nodup := h.nodup
  past := h.past
  count := by
    rw [h.count]
    simp only [hstate]

/-
Both sessions are held before they are given back, and they are not the same.
-/
theorem Balance.reset (h : Balance start sessions dtls released lost) (hbefore : dtls.state = .connected)
    (hafter : dtls'.state ≠ .connected) (hout : dtls'.srtpOut = dtls.srtpOut)
    : Balance start (srtpDealloc (srtpDealloc sessions dtls.srtpIn) dtls.srtpOut) dtls'
      (released ++ [dtls.srtpIn, dtls.srtpOut]) lost := by
  obtain ⟨i, j, hi, hj, hne, hilive, hjlive, hifloor, hjfloor⟩ := h.connected hbefore
  have hcount := h.count
  rw [if_pos hbefore] at hcount
  have hjstill : j ∈ (sessions.remove i).live := mem_remove.mpr ⟨hne.symm, hjlive⟩
  have hfirst := length_remove hilive
  have hsecond := length_remove hjstill
  have hgone : ∀ k, k ∈ ((sessions.remove i).remove j).live → k ≠ i ∧ k ≠ j ∧ k ∈ sessions.live := by
    intro k hk
    obtain ⟨hkj, hk⟩ := mem_remove.mp hk
    obtain ⟨hki, hk⟩ := mem_remove.mp hk
    exact ⟨hki, hkj, hk⟩
  have hheld : ∀ k, k ∈ sessions.live → some k ∉ released := by
    intro k hk hreleased
    obtain ⟨k', hk', _, _, hdead⟩ := h.past (some k) hreleased
    rw [Option.some.injEq] at hk'
    rw [← hk'] at hdead
    contradiction
  have hout' : dtls'.srtpOut = some j := hout.trans hj
  rw [hi, hj]
  constructor
  . intro hconnected
    contradiction
  . intro _ ⟨k, hk, hsome⟩
    rw [hout', Option.some.injEq] at hsome
    exact (hgone k hk).2.1 hsome.symm
  . exact h.created
  . intro k hk
    rw [hout', Option.some.injEq] at hk
    rw [← hk]
    exact sessions.live_lt j hjlive
  . rw [List.nodup_append]
    refine ⟨h.nodup, by simp [hne], ?_⟩
    -- What has been given back before is not held, and these two are.
    intro a ha b hb hab
    simp only [List.mem_cons, List.not_mem_nil, or_false] at hb
    cases hb with
    | inl hb =>
      rw [hab, hb] at ha
      exact hheld i hilive ha
    | inr hb =>
      rw [hab, hb] at ha
      exact hheld j hjlive ha
  . intro session hsession
    simp only [List.mem_append, List.mem_cons, List.not_mem_nil, or_false] at hsession
    rcases hsession with hold | hin | hout
    . obtain ⟨k, hk, hfloor, hmade, hdead⟩ := h.past session hold
      exact ⟨k, hk, hfloor, hmade, fun hlive => hdead (hgone k hlive).2.2⟩
    . exact ⟨i, hin, hifloor, sessions.live_lt i hilive, fun hlive => (hgone i hlive).1 rfl⟩
    . exact ⟨j, hout, hjfloor, sessions.live_lt j hjlive, fun hlive => (hgone j hlive).2.1 rfl⟩
  . rw [if_neg hafter]
    simp only [srtpDealloc]
    omega

/-
What has been given back is not what is made next.
-/
theorem Balance.past_add (h : Balance start sessions dtls released lost)
    : ∀ session ∈ released, ∃ i, session = some i ∧ start.created ≤ i ∧ i < sessions.add.created
      ∧ i ∉ sessions.add.live := by
  intro session hsession
  obtain ⟨i, hi, hfloor, hmade, hdead⟩ := h.past session hsession
  refine ⟨i, hi, hfloor, Nat.lt_succ_of_lt hmade, ?_⟩
  intro hlive
  cases List.mem_cons.mp hlive with
  | inl heq => omega
  | inr hmem => contradiction

theorem Balance.forgotten (h : Balance start sessions dtls released lost) (hbefore : dtls.state ≠ .connected)
    (hafter : dtls'.state ≠ .connected) (hout : dtls'.srtpOut = dtls.srtpOut ∨ dtls'.srtpOut = none)
    : Balance start sessions.add dtls' released (lost + 1) := by
  have hcount := h.count
  rw [if_neg hbefore] at hcount
  constructor
  . intro hconnected
    contradiction
  . intro _
    cases hout with
    | inl hsame =>
      rw [hsame]
      intro ⟨i, hi, hsome⟩
      have hmade := h.made i hsome
      cases List.mem_cons.mp hi with
      | inl heq => omega
      | inr hmem => exact h.disconnected hbefore ⟨i, hmem, hsome⟩
    | inr hnone =>
      rw [hnone]
      apply not_live_none
  . exact Nat.le_succ_of_le h.created
  . intro i hi
    cases hout with
    | inl hsame =>
      rw [hsame] at hi
      exact Nat.lt_succ_of_lt (h.made i hi)
    | inr hnone =>
      rw [hnone] at hi
      contradiction
  . exact h.nodup
  . exact h.past_add
  . rw [if_neg hafter]
    simp only [SrtpSessions.add, List.length_cons]
    omega

theorem Balance.derived (h : Balance start sessions dtls released lost) (hbefore : dtls.state ≠ .connected)
    (hafter : dtls'.state = .connected) (hin : dtls'.srtpIn = some sessions.created)
    (hout : dtls'.srtpOut = some (sessions.created + 1))
    : Balance start sessions.add.add dtls' released lost := by
  have hcount := h.count
  have hcreated := h.created
  rw [if_neg hbefore] at hcount
  constructor
  . intro _
    refine ⟨sessions.created, sessions.created + 1, hin, hout, ?_, ?_, ?_, hcreated, ?_⟩
    . omega
    . simp [SrtpSessions.add]
    . simp [SrtpSessions.add]
    . omega
  . intro hnot
    contradiction
  . simp only [SrtpSessions.add]
    omega
  . intro i hi
    rw [hout, Option.some.injEq] at hi
    simp only [SrtpSessions.add]
    omega
  . exact h.nodup
  . intro session hsession
    obtain ⟨i, hi, hfloor, hmade, hdead⟩ := h.past_add session hsession
    refine ⟨i, hi, hfloor, Nat.lt_succ_of_lt hmade, ?_⟩
    intro hlive
    cases List.mem_cons.mp hlive with
    | inl heq => omega
    | inr hmem => contradiction
  . rw [if_pos hafter]
    simp only [SrtpSessions.add, List.length_cons]
    omega

theorem Balance.step {sessions' : SrtpSessions} {deallocs : List (Option Nat)} {more : Bool}
    (h : Balance start sessions dtls released lost)
    (hstep : SessionStep sessions dtls sessions' dtls' deallocs more)
    : Balance start sessions' dtls' (released ++ deallocs) (lost + more.toNat) := by
  cases hstep with
  | kept hstate hin hout =>
    rw [List.append_nil]
    exact h.kept hstate hin hout
  | reset hbefore hafter hout => exact h.reset hbefore hafter hout
  | derived hbefore hafter hin hout =>
    rw [List.append_nil]
    exact h.derived hbefore hafter hin hout
  | lost hbefore hafter hout =>
    rw [List.append_nil]
    exact h.forgotten hbefore hafter hout

end Balance

section Runs

def releasedBy (pc : PeerConnection) (events : List ConnectionEvent) : List (Option Nat) :=
  (connectionMachine.visits pc events).flatMap (·.obs.deallocs)

def lostBy (pc : PeerConnection) (events : List ConnectionEvent) : Nat :=
  (connectionMachine.visits pc events).countP fun v => eventLost v.pre v.event

theorem balance_run (config : ConnectionConfig) (sessions : SrtpSessions) (events : List ConnectionEvent)
    (hlawful : ∀ v ∈ connectionMachine.visits (peerConnectionCreate config sessions) events,
      LawfulEvent v.pre v.event)
    : let start := peerConnectionCreate config sessions
      let final := connectionMachine.final start events
      Balance sessions final.sessions final.dtlsSrtp (releasedBy start events) (lostBy start events) := by
  intro start
  induction events using List.reverseRecOn with
  | nil => apply Balance.atStart
  | append_singleton events event ih =>
    rw [Machine.visits_append] at hlawful
    have hbefore := ih fun v hv => hlawful v (List.mem_append_left _ hv)
    have hevent : LawfulEvent (connectionMachine.final start events) event :=
      hlawful _ (List.mem_append_right _ (List.mem_singleton.mpr rfl))
    have hafter := hbefore.step (session_step hevent)
    intro final
    have hreleased : releasedBy start (events ++ [event]) = releasedBy start events
        ++ (connectionMachine.step (connectionMachine.final start events) event).2.deallocs := by
      simp [releasedBy, Machine.visits_append]
    have hlost : lostBy start (events ++ [event])
        = lostBy start events + (eventLost (connectionMachine.final start events) event).toNat := by
      simp only [lostBy, Machine.visits_append, List.countP_append, Machine.visits_cons, Machine.visits_nil]
      rw [List.countP_singleton, Machine.visit_pre, Machine.visit_event]
      cases eventLost (connectionMachine.final start events) event <;> rfl
    rw [hreleased, hlost]
    simp only [final, Machine.final_append, Machine.final_cons, Machine.final_nil]
    exact hafter

theorem destroy_step (pc : PeerConnection)
    : let res := peerConnectionDestroy pc
      SessionStep pc.sessions pc.dtlsSrtp res.1 { pc.dtlsSrtp with state := .init } res.2 false := by
  intro res
  simp only [res, peerConnectionDestroy, dtlsSrtpDeinit]
  split
  . next hconnected => exact .reset hconnected (by simp) rfl
  . next hnot => exact .kept (by simp [hnot]) (fun h => absurd h hnot) rfl

/--
From the creation of a connection to its end it gives back sessions that it has made itself, none of them twice. Of
those it has made, one is left behind for each handshake in which the inbound session was made and the outbound one was
not.
-/
theorem connection_sessions_balance (config : ConnectionConfig) (sessions : SrtpSessions)
    (events : List ConnectionEvent)
    (hlawful : ∀ v ∈ connectionMachine.visits (peerConnectionCreate config sessions) events,
      LawfulEvent v.pre v.event)
    : let start := peerConnectionCreate config sessions
      let destroyed := peerConnectionDestroy (connectionMachine.final start events)
      let released := releasedBy start events ++ destroyed.2
      released.Nodup
        ∧ (∀ session ∈ released, ∃ i, session = some i ∧ sessions.created ≤ i ∧ i < destroyed.1.created)
        ∧ destroyed.1.live.length = sessions.live.length + lostBy start events := by
  intro start destroyed released
  have hbalance := (balance_run config sessions events hlawful).step
    (destroy_step (connectionMachine.final start events))
  refine ⟨hbalance.nodup, ?_, hbalance.count⟩
  intro session hsession
  obtain ⟨i, hi, hfloor, hmade, _⟩ := hbalance.past session hsession
  exact ⟨i, hi, hfloor, hmade⟩

/-
A handshake for which there is memory for one session only.
-/
def losingRun : List ConnectionEvent :=
  completingRun.dropLast
    ++ [.loop (tick ⟨some { exportedKeys with outbound := .noContext }, .ok, some (ascii "4A")⟩)]

theorem connection_sessions_balance_lost
    : (peerConnectionDestroy
        (connectionMachine.final (peerConnectionCreate mediaConfig noSessions) losingRun)).1.live.length = 1 := by
  rw [(connection_sessions_balance mediaConfig noSessions losingRun (by decide +kernel)).2.2]
  decide +kernel

/-
Whether the DTLS session is set up anew for a description.
-/
def resetsSession (event : ConnectionEvent) : Bool :=
  match event with
  | .createOffer input => !(input.relayUsed && !input.reopened)
  | .createAnswer _ => true
  | _ => false

theorem createSdp_connected (pc : PeerConnection) (type : SdpType) (input : SdpInput)
    : (peerConnectionCreateSdp pc type input).1.dtlsSrtp.state = .connected
      ↔ pc.dtlsSrtp.state = .connected ∧ type = .offer ∧ input.relayUsed ∧ !input.reopened := by
  have hinit : (dtlsSrtpInit (dtlsSrtpResetSession pc.sessions pc.dtlsSrtp).2.1 (sdpRole type)).state
      ≠ .connected := by simp [dtlsSrtpInit]
  unfold peerConnectionCreateSdp
  split
  . next hreopen => simp [hreopen]
  . next hreopen =>
    dsimp only
    split
    . simp only [changeState_dtlsSrtp]
      grind
    . grind

/-
In a connection that is completed nothing but a description of its own touches the DTLS session.
-/
theorem completed_step_connected {pc : PeerConnection} (hcompleted : pc.state = .completed)
    (event : ConnectionEvent)
    : (connectionMachine.step pc event).1.dtlsSrtp.state = .connected
      ↔ pc.dtlsSrtp.state = .connected ∧ resetsSession event = false := by
  cases event with
  | stateCallback set => simp [connectionMachine, resetsSession]
  | createOffer input =>
    simp only [connectionMachine, peerConnectionCreateOffer, createSdp_connected, resetsSession]
    simp
  | createAnswer input =>
    have hsdp := createSdp_connected pc .answer input
    simp only [connectionMachine, peerConnectionCreateAnswer, resetsSession]
    split
    . simp [hsdp]
    . simp [hsdp]
  | setRemoteDescription sdp type remoteUfrag =>
    simp [connectionMachine, (setRemoteDescription_scanned pc sdp type remoteUfrag).2.2, resetsSession]
  | loop input =>
    have hreceived := (receivePacket_kept pc input).2.1
    simp only [connectionMachine, peerConnectionLoop, hcompleted, resetsSession]
    split
    . simp [hreceived]
    . simp [hreceived]
  | send media buf timestampUs =>
    simp [connectionMachine, (send_kept pc media buf timestampUs).2.1, resetsSession]
  | close => simp [connectionMachine, resetsSession]

theorem completed_run_connected {pc : PeerConnection} {events : List ConnectionEvent}
    (hcompleted : ∀ part, part <+: events → (connectionMachine.final pc part).state = .completed)
    : (connectionMachine.final pc events).dtlsSrtp.state = .connected
      ↔ pc.dtlsSrtp.state = .connected ∧ ∀ event ∈ events, resetsSession event = false := by
  induction events generalizing pc with
  | nil => simp
  | cons event events ih =>
    have hpc : pc.state = .completed := hcompleted [] List.nil_prefix
    have hrest : ∀ part, part <+: events
        → (connectionMachine.final (connectionMachine.step pc event).1 part).state = .completed := by
      intro part hpart
      exact hcompleted (event :: part) ((List.prefix_cons_inj event).mpr hpart)
    rw [Machine.final_cons, ih hrest]
    rw [completed_step_connected hpc event, List.forall_mem_cons]
    exact and_assoc

theorem mem_protects {pc : PeerConnection} {media : Media} {buf : List Byte} {timestampUs : BitVec 64}
    {session : Option Nat} (h : session ∈ (peerConnectionSend pc media buf timestampUs).2.protects)
    : session = pc.dtlsSrtp.srtpOut := by
  unfold peerConnectionSend at h
  split at h
  . contradiction
  . split at h
    . contradiction
    . simp only [List.mem_map] at h
      obtain ⟨_, _, heq⟩ := h
      exact heq.symm

theorem mem_unprotects {pc : PeerConnection} {input : LoopInput} {session : Option Nat}
    (h : session ∈ (receivePacket pc input).2.unprotects) : session = pc.dtlsSrtp.srtpIn := by
  unfold receivePacket at h
  split at h
  . contradiction
  . split at h
    . exact List.mem_singleton.mp h
    . contradiction
    . exact List.mem_singleton.mp h
    . contradiction

theorem Balance.outbound_live {start sessions : SrtpSessions} {dtls : DtlsSrtp} {released : List (Option Nat)}
    {lost : Nat} (h : Balance start sessions dtls released lost)
    : sessions.Live dtls.srtpOut ↔ dtls.state = .connected := by
  constructor
  . intro hlive
    by_contra hnot
    exact h.disconnected hnot hlive
  . intro hconnected
    obtain ⟨i, j, _, hj, _, _, hjlive, _⟩ := h.connected hconnected
    exact ⟨j, hjlive, hj⟩

/--
Every packet of a completed connection goes through a session that has not been given back, exactly if the handshake
that completed it has left the sessions made and no offer or answer has set up the DTLS session anew since.
-/
theorem connection_protect_live (config : ConnectionConfig) (sessions : SrtpSessions)
    (events : List ConnectionEvent)
    (hlawful : ∀ v ∈ connectionMachine.visits (peerConnectionCreate config sessions) events,
      LawfulEvent v.pre v.event)
    (hcompleted : (connectionMachine.final (peerConnectionCreate config sessions) events).state = .completed)
    : let start := peerConnectionCreate config sessions
      let pc := connectionMachine.final start events
      ∃ before handshake after, events = before ++ .loop handshake :: after
        ∧ (connectionMachine.final start before).state = .connected
        ∧ (∀ part, part <+: after
          → (connectionMachine.final start (before ++ .loop handshake :: part)).state = .completed)
        ∧ let usable :=
            (connectionMachine.final start (before ++ [.loop handshake])).dtlsSrtp.state = .connected
              ∧ ∀ event ∈ after, resetsSession event = false
          (∀ media buf timestampUs, ∀ session ∈ (peerConnectionSend pc media buf timestampUs).2.protects,
            pc.sessions.Live session ↔ usable)
          ∧ (usable → ∀ input, ∀ session ∈ (receivePacket pc input).2.unprotects,
            pc.sessions.Live session) := by
  intro start pc
  have hnew : (peerConnectionCreate config sessions).state = .closed := rfl
  have hbalance := balance_run config sessions events hlawful
  obtain ⟨before, event, after, hevents, hnot, hstays⟩ :=
    connectionMachine.exists_entry (P := fun pc => pc.state = .completed) (by simp [hnew]) hcompleted
  have hentered := hstays [] List.nil_prefix
  rw [Machine.final_append] at hentered
  -- Only a handshake enters the completed state.
  obtain ⟨handshake, digest, hloop, hconnected, _⟩ := completed_of_step hnot hentered
  rw [hloop] at hevents hstays
  have hrun : pc.dtlsSrtp.state = .connected
      ↔ (connectionMachine.final start (before ++ [.loop handshake])).dtlsSrtp.state = .connected
        ∧ ∀ event ∈ after, resetsSession event = false := by
    have hparts : ∀ part, part <+: after → (connectionMachine.final
        (connectionMachine.final start (before ++ [.loop handshake])) part).state = .completed := by
      intro part hpart
      rw [← Machine.final_append, List.append_assoc]
      exact hstays part hpart
    rw [← completed_run_connected hparts]
    rw [← Machine.final_append, List.append_assoc, List.singleton_append, ← hevents]
  refine ⟨before, handshake, after, hevents, hconnected, hstays, ?_⟩
  constructor
  . intro media buf timestampUs session hsession
    rw [mem_protects hsession, ← hrun]
    exact hbalance.outbound_live
  . intro husable input session hsession
    rw [mem_unprotects hsession]
    obtain ⟨i, _, hi, _, _, hilive, _⟩ := hbalance.connected (hrun.mpr husable)
    exact ⟨i, hilive, hi⟩

/-
A second offer in a connection that is completed, as for another track.
-/
def reofferingRun : List ConnectionEvent := completingRun ++ [.createOffer ⟨false, true, true, true⟩]

theorem connection_protect_live_reoffered
    : let pc := connectionMachine.final (peerConnectionCreate mediaConfig noSessions) reofferingRun
      (peerConnectionSend pc .video [0, 0, 0, 1, 0x65, 1] 0).2.protects.length = 1
        ∧ ∀ session ∈ (peerConnectionSend pc .video [0, 0, 0, 1, 0x65, 1] 0).2.protects,
          ¬pc.sessions.Live session := by
  intro pc
  constructor
  . decide +kernel
  . intro session hsession
    obtain ⟨before, handshake, after, hevents, _, _, hprotects, _⟩ :=
      connection_protect_live mediaConfig noSessions reofferingRun (by decide +kernel) (by decide +kernel)
    rw [hprotects .video _ 0 session hsession]
    intro ⟨_, hquiet⟩
    have hlast : .createOffer ⟨false, true, true, true⟩ ∈ after := by
      have hgetLast := congrArg List.getLast? hevents
      rw [List.getLast?_append, List.getLast?_cons] at hgetLast
      cases hafter : after.getLast? with
      | none => simp [reofferingRun, hafter] at hgetLast
      | some last =>
        simp [reofferingRun, hafter] at hgetLast
        rw [hgetLast]
        exact List.mem_of_getLast? hafter
    exact absurd (hquiet _ hlast) (by decide)

end Runs

end Peer

import RtsmartLib.Peer.AgentChecks

/-!
This module contains what holds over all runs of the ICE agent from the moment its candidate pairs have been made:
how many requests are sent and for which pairs first, that a pair is selected only when it has been confirmed, and
that it stays selected.
-/

namespace Peer

open Lib
open StunMessage

inductive AgentEvent where
  | select
  | check (input : CheckInput)
  | recv (input : RecvInput)

structure AgentObs where
  requests : List Request := []
  datagrams : List Datagram := []
  connected : Bool := false

variable (hmacSha1 : List Byte → List Byte → Option (Vector Byte 20)) (md5 : List Byte → Vector Byte 16)

def agentMachine : Machine Agent AgentEvent AgentObs where
  step agent event :=
    match event with
    | .select => ((agentSelectCandidatePair agent).1, {})
    | .check input =>
      let res := agentConnectivityCheck hmacSha1 md5 agent input
      (res.1, ⟨res.2.1, res.2.2.1, res.2.2.2⟩)
    | .recv input =>
      let res := agentRecv hmacSha1 md5 agent input
      (res.1, { datagrams := res.2.1 })

variable {hmacSha1 md5}

/-
What any step keeps.
-/
structure StepDone (before after : Agent) (requests : List Request) : Prop where
  taken : ∃ k, Taken k after ∧ ∀ request ∈ requests, request.place < k
  same : SameSession before after
  conncheck : ∀ i < before.candidatePairsNum,
    (after.pair i).conncheck = (before.pair i).conncheck + requestCount i requests

section Step

variable {agent : Agent} {k : Nat}

theorem TakenUp.conncheck {before after : IceCandidatePair} (h : TakenUp before after)
    (hfrozen : before.state = .frozen → before.conncheck = 0) : after.conncheck = before.conncheck := by
  cases h with
  | inl hkept => rw [hkept]
  | inr htaken => rw [htaken.2.2, hfrozen htaken.1]

theorem Taken.conncheck_of_frozen (h : Taken k agent) {i : Nat} (hi : i < agent.candidatePairsNum)
    (hfrozen : (agent.pair i).state = .frozen) : (agent.pair i).conncheck = 0 := by
  cases Nat.lt_or_ge i k with
  | inl hlt => exact absurd hfrozen (h.taken i hlt)
  | inr hge => exact (h.untried i hge hi).2

theorem StepDone.select (h : Taken k agent) : StepDone agent (agentSelectCandidatePair agent).1 [] := by
  obtain ⟨htaken, hsame, hpairs⟩ := agentSelectCandidatePair_taken h
  constructor
  . obtain ⟨k', htaken⟩ := htaken
    exact ⟨k', htaken, by simp⟩
  . exact hsame
  . intro i hi
    rw [requestCount_nil, Nat.add_zero]
    exact (hpairs i hi).conncheck (h.conncheck_of_frozen hi)

theorem RecvKept.same {after : Agent} (h : RecvKept agent after) {i : Nat}
    (hpairs : after.candidatePairs = (agent.setState i .succeeded).candidatePairs) : SameSession agent after := by
  have hset := SameSession.setPair agent i (f := fun pair => { pair with state := .succeeded }) (fun _ => rfl)
    (fun _ => rfl)
  have hpair : ∀ j, after.pair j = (agent.setState i .succeeded).pair j := by
    intro j
    unfold Agent.pair
    rw [hpairs]
  constructor
  . exact h.remoteUpwd
  . exact h.remoteCandidates
  . exact h.num
  . rw [hpairs]
    exact hset.length
  . intro j
    rw [hpair]
    exact hset.remoteAt j
  . intro j
    rw [hpair]
    exact hset.priority j

theorem RecvKept.same_quiet {after : Agent} (h : RecvKept agent after)
    (hpairs : after.candidatePairs = agent.candidatePairs) : SameSession agent after := by
  have hpair : ∀ j, after.pair j = agent.pair j := by
    intro j
    unfold Agent.pair
    rw [hpairs]
  constructor
  . exact h.remoteUpwd
  . exact h.remoteCandidates
  . exact h.num
  . rw [hpairs]
  . intro j
    rw [hpair]
  . intro j
    rw [hpair]

/-
What the pairs look like after something has been received.
-/
theorem Received.pairs {input : RecvInput} {after : Agent} (h : Received hmacSha1 agent input after)
    (hkept : RecvKept agent after) (htaken : Taken k agent)
    : Taken k after ∧ SameSession agent after
        ∧ ∀ j, (after.pair j).conncheck = (agent.pair j).conncheck
          ∧ ((after.pair j).state = (agent.pair j).state
            ∨ ((after.pair j).state = .succeeded ∧ ∃ received, delivered agent input = some received
              ∧ Confirmation hmacSha1 agent.remoteUpwd (agent.remoteOf j).addr received)) := by
  cases h with
  | quiet hpairs =>
    refine ⟨htaken.congr hpairs hkept.num hkept.active, hkept.same_quiet hpairs, ?_⟩
    intro j
    unfold Agent.pair
    rw [hpairs]
    exact ⟨rfl, .inl rfl⟩
  | confirmed i received hdelivered hconfirmation hactive hstate hpairs =>
    have hi := htaken.active_lt i hactive
    have hnum := Nat.lt_of_lt_of_le hi htaken.le_num
    have hset : Taken k (agent.setState i .succeeded) := by
      apply htaken.setPair hi
      . simp
      . exact htaken.conncheck_le i hnum
      . intro pair
        rfl
      . intro pair
        rfl
    have hpair : ∀ j, after.pair j = (agent.setState i .succeeded).pair j := by
      intro j
      unfold Agent.pair
      rw [hpairs]
    refine ⟨hset.congr hpairs hkept.num hkept.active, hkept.same hpairs, ?_⟩
    intro j
    rw [hpair]
    unfold Agent.setState
    cases Nat.decEq i j with
    | isFalse hne =>
      rw [Agent.pair_setPair_of_ne hne]
      exact ⟨rfl, .inl rfl⟩
    | isTrue heq =>
      rw [← heq, Agent.pair_setPair_self (Nat.lt_of_lt_of_le hnum htaken.num_le)]
      exact ⟨rfl, .inr ⟨rfl, received, hdelivered, hconfirmation⟩⟩

theorem StepDone.recv (h : Taken k agent) (input : RecvInput)
    : StepDone agent (agentRecv hmacSha1 md5 agent input).1 [] := by
  have hreceived := agentRecv_received hmacSha1 md5 agent input
  obtain ⟨htaken, hsame, hpairs⟩ := hreceived.1.pairs hreceived.2 h
  constructor
  . exact ⟨k, htaken, by simp⟩
  . exact hsame
  . intro i _
    exact (hpairs i).1

variable (hmacSha1 md5) in
theorem StepDone.check (h : Taken k agent) (input : CheckInput)
    : StepDone agent (agentConnectivityCheck hmacSha1 md5 agent input).1
        (agentConnectivityCheck hmacSha1 md5 agent input).2.1 := by
  have hdone := checkActivePairs_done hmacSha1 md5 input h h.active_lt
  have hchecked : StepDone agent (checkActivePairs hmacSha1 md5 input agent agent.activePairs).1
      (checkActivePairs hmacSha1 md5 input agent agent.activePairs).2.1 := by
    constructor
    . exact ⟨k, hdone.taken, hdone.places⟩
    . exact hdone.same
    . intro i hi
      exact (hdone.pairs i hi).conncheck
  unfold agentConnectivityCheck
  dsimp only
  split
  . exact hchecked
  . have hreceived := agentRecv_received hmacSha1 md5
      (checkActivePairs hmacSha1 md5 input agent agent.activePairs).1 input.recv
    obtain ⟨htaken, hsame, hpairs⟩ := hreceived.1.pairs hreceived.2 hdone.taken
    have hall : StepDone agent
        (agentRecv hmacSha1 md5 (checkActivePairs hmacSha1 md5 input agent agent.activePairs).1 input.recv).1
        (checkActivePairs hmacSha1 md5 input agent agent.activePairs).2.1 := by
      constructor
      . exact ⟨k, htaken, hdone.places⟩
      . exact hchecked.same.trans hsame
      . intro i hi
        rw [(hpairs i).1]
        exact hchecked.conncheck i hi
    split
    . obtain ⟨k', htaken', hplaces⟩ := hall.taken
      constructor
      . exact ⟨k', htaken'.congr rfl rfl rfl, hplaces⟩
      . exact ⟨hall.same.remoteUpwd, hall.same.remoteCandidates, hall.same.num, hall.same.length,
          hall.same.remoteAt, hall.same.priority⟩
      . exact hall.conncheck
    . exact hall

variable (hmacSha1 md5) in
theorem StepDone.step (h : Taken k agent) (event : AgentEvent)
    : StepDone agent ((agentMachine hmacSha1 md5).step agent event).1
        ((agentMachine hmacSha1 md5).step agent event).2.requests := by
  cases event with
  | select => exact StepDone.select h
  | check input => exact StepDone.check hmacSha1 md5 h input
  | recv input => exact StepDone.recv h input

end Step

section Runs

variable {start : Agent}

variable (hmacSha1 md5) in
theorem final_done (h : ∃ k, Taken k start) (events : List AgentEvent)
    : (∃ k, Taken k ((agentMachine hmacSha1 md5).final start events))
        ∧ SameSession start ((agentMachine hmacSha1 md5).final start events)
        ∧ ∀ i < start.candidatePairsNum,
            (((agentMachine hmacSha1 md5).final start events).pair i).conncheck = (start.pair i).conncheck
              + requestCount i (((agentMachine hmacSha1 md5).observations start events).flatMap
                  AgentObs.requests) := by
  induction events generalizing start with
  | nil => exact ⟨h, SameSession.refl start, fun _ _ => rfl⟩
  | cons event events ih =>
    obtain ⟨k, htaken⟩ := h
    have hstep := StepDone.step hmacSha1 md5 htaken event
    obtain ⟨k', htaken', _⟩ := hstep.taken
    obtain ⟨hfinal, hsame, hcount⟩ := ih ⟨k', htaken'⟩
    refine ⟨hfinal, hstep.same.trans hsame, ?_⟩
    intro i hi
    rw [Machine.final_cons]
    rw [hcount i (by rw [hstep.same.num]; exact hi)]
    rw [hstep.conncheck i hi]
    simp only [Machine.observations, Machine.visits_cons, List.map_cons, List.flatMap_cons, Machine.visit_obs]
    rw [requestCount_append]
    apply Nat.add_assoc

variable (hmacSha1 md5) in
theorem visits_done (h : ∃ k, Taken k start) (events : List AgentEvent)
    : ∀ v ∈ (agentMachine hmacSha1 md5).visits start events,
        SameSession start v.pre ∧ (∃ k, Taken k v.pre) ∧ StepDone v.pre v.post v.obs.requests := by
  induction events generalizing start with
  | nil => simp
  | cons event events ih =>
    obtain ⟨k, htaken⟩ := h
    have hstep := StepDone.step hmacSha1 md5 htaken event
    obtain ⟨k', htaken', _⟩ := hstep.taken
    intro v hv
    cases List.mem_cons.mp hv with
    | inl heq =>
      rw [heq]
      exact ⟨SameSession.refl start, ⟨k, htaken⟩, hstep⟩
    | inr hrest =>
      obtain ⟨hsame, hpre, hdone⟩ := ih ⟨k', htaken'⟩ v hrest
      exact ⟨hstep.same.trans hsame, hpre, hdone⟩

theorem priority_antitone (agent : Agent) (hlocal : agent.localCandidates.length ≤ agentMaxCandidates)
    (hremote : agent.remoteCandidates.length ≤ agentMaxCandidates) {i j : Nat} (hij : i ≤ j)
    (hj : j < (agentUpdateCandidatePairs agent).candidatePairsNum)
    : ((agentUpdateCandidatePairs agent).pair j).priority.toNat
        ≤ ((agentUpdateCandidatePairs agent).pair i).priority.toNat := by
  cases Nat.lt_or_ge i j with
  | inr hge =>
    rw [Nat.le_antisymm hij hge]
  | inl hlt =>
    have hsorted := (agentUpdateCandidatePairs_sorted agent hlocal hremote).2.1
    have hle := (agentUpdateCandidatePairs_taken agent).num_le
    rw [List.pairwise_iff_getElem] at hsorted
    have hpair := hsorted i j (by rw [List.length_take]; omega) (by rw [List.length_take]; omega) hlt
    rw [List.getElem_take, List.getElem_take] at hpair
    unfold Agent.pair
    rw [List.getD_eq_getElem _ _ (by omega), List.getD_eq_getElem _ _ (by omega)]
    exact hpair

/-
In no run is a pair sent more than so many requests, no more than so many pairs are under way at a time, and no
request is sent for a pair while one with a greater priority has not been tried.
-/
theorem agentMachine_requests (agent : Agent) (hlocal : agent.localCandidates.length ≤ agentMaxCandidates)
    (hremote : agent.remoteCandidates.length ≤ agentMaxCandidates) (events : List AgentEvent)
    : let start := agentUpdateCandidatePairs agent
      let machine := agentMachine hmacSha1 md5
      (∀ i < start.candidatePairsNum,
        requestCount i ((machine.observations start events).flatMap AgentObs.requests) ≤ agentConncheckMax)
        ∧ ∀ v ∈ machine.visits start events, v.post.activePairs.length ≤ agentMaxActivePairs
          ∧ ∀ request ∈ v.obs.requests, request.place < start.candidatePairsNum
            ∧ ∀ j < start.candidatePairsNum, (v.post.pair j).state = .frozen →
                (start.pair j).priority.toNat ≤ (start.pair request.place).priority.toNat := by
  intro start machine
  have hstart : ∃ k, Taken k start := ⟨0, agentUpdateCandidatePairs_taken agent⟩
  constructor
  . intro i hi
    obtain ⟨⟨k, htaken⟩, hsame, hcount⟩ := final_done hmacSha1 md5 hstart events
    have hle := htaken.conncheck_le i (by rw [hsame.num]; exact hi)
    rw [hcount i hi] at hle
    exact Nat.le_trans (Nat.le_add_left _ _) hle
  . intro v hv
    obtain ⟨hsame, _, hdone⟩ := visits_done hmacSha1 md5 hstart events v hv
    obtain ⟨k, htaken, hplaces⟩ := hdone.taken
    have hnum : v.post.candidatePairsNum = start.candidatePairsNum := by
      rw [hdone.same.num, hsame.num]
    refine ⟨htaken.active_le, ?_⟩
    intro request hmem
    have hplace := hplaces request hmem
    have hk := htaken.le_num
    rw [hnum] at hk
    refine ⟨Nat.lt_of_lt_of_le hplace hk, ?_⟩
    intro j hj hfrozen
    apply priority_antitone agent hlocal hremote _ hj
    apply Nat.le_of_lt
    apply Nat.lt_of_lt_of_le hplace
    apply Nat.le_of_not_lt
    intro hlt
    exact htaken.taken j hlt hfrozen

/-
HMAC-SHA1 of a request and of the response to it, under the password of the agent that answers.
-/
def exchangeDigest (message _ : List Byte) : Option (Vector Byte 20) :=
  if message.length = 60 then
    some #v[0xc3, 0x96, 0x88, 0xd6, 0xed, 0x7d, 0x64, 0x80, 0x5a, 0x2a, 0x57, 0x46, 0x93, 0x65, 0x8c, 0xda, 0x07,
      0x41, 0xdc, 0x6b]
  else
    some #v[0xa4, 0xc3, 0x0e, 0x4e, 0x21, 0x97, 0xac, 0xe2, 0x22, 0x13, 0xb8, 0x4f, 0xb1, 0xf5, 0x63, 0xaf, 0x25,
      0x46, 0x10, 0xe0]

/-
No message of the exchange has a long term key.
-/
def unusedDigest (_ : List Byte) : Vector Byte 16 := Vector.replicate 16 0x00

/-
The peer of the agent above, with the candidate it prefers.
-/
def answeringAgent : Agent :=
  { offeredAgent with
    remoteUfrag := offeredAgent.localUfrag
    remoteUpwd := offeredAgent.localUpwd
    localUfrag := offeredAgent.remoteUfrag
    localUpwd := offeredAgent.remoteUpwd
    localCandidates := [hostCandidate 4 2]
    remoteCandidates := [hostCandidate 2 1]
    mode := .controlled }

def exchangeSend : SendInput := ⟨some (Vector.replicate 12 0x07), none, 0x00, 0x00, #v[0x00, 0x00, 0x00]⟩

def exchangeRecv (datagram : Option Datagram) : RecvInput :=
  ⟨datagram, 100, exchangeSend, blankMessage, blankMessage⟩

def exchangeCheck (now : BitVec 32) (datagram : Option Datagram) : CheckInput :=
  ⟨now, fun _ turn => (turn, true), fun _ => exchangeSend, exchangeRecv datagram⟩

/-
Up to the requests.
-/
def exchangeEvents : List AgentEvent := [.select, .check (exchangeCheck 100 none)]

def exchangeResponse : Option Datagram :=
  match agentCreateBindingRequest exchangeDigest unusedDigest (agentUpdateCandidatePairs offeredAgent) 0
    exchangeSend with
  | none => none
  | some request =>
    let received := some ⟨(hostCandidate 2 1).addr, request.buf⟩
    (agentRecv exchangeDigest unusedDigest answeringAgent (exchangeRecv received)).2.1.head?.map fun response =>
      ⟨(hostCandidate 4 2).addr, response.bytes⟩

theorem agentMachine_requests_exchange
    : let start := agentUpdateCandidatePairs offeredAgent
      let machine := agentMachine exchangeDigest unusedDigest
      (∀ i < start.candidatePairsNum,
        requestCount i ((machine.observations start exchangeEvents).flatMap AgentObs.requests)
          ≤ agentConncheckMax)
        ∧ ∀ v ∈ machine.visits start exchangeEvents, v.post.activePairs.length ≤ agentMaxActivePairs
          ∧ ∀ request ∈ v.obs.requests, request.place < start.candidatePairsNum
            ∧ ∀ j < start.candidatePairsNum, (v.post.pair j).state = .frozen →
                (start.pair j).priority.toNat ≤ (start.pair request.place).priority.toNat := by
  apply agentMachine_requests
  . decide
  . decide

end Runs

section Selection

/-
The agent that receives in a step, and what it receives from.
-/
def recvOf (hmacSha1 : List Byte → List Byte → Option (Vector Byte 20)) (md5 : List Byte → Vector Byte 16)
    (agent : Agent) (event : AgentEvent) : Option (Agent × RecvInput) :=
  match event with
  | .select => none
  | .check input => some ((checkActivePairs hmacSha1 md5 input agent agent.activePairs).1, input.recv)
  | .recv input => some (agent, input)

/--
A step in which something is received that confirms a pair with this address.
-/
def Confirms (hmacSha1 : List Byte → List Byte → Option (Vector Byte 20)) (md5 : List Byte → Vector Byte 16)
    (password : List Byte) (addr : Address) (agent : Agent) (event : AgentEvent) : Prop :=
  ∃ receiver input received, recvOf hmacSha1 md5 agent event = some (receiver, input)
    ∧ delivered receiver input = some received ∧ Confirmation hmacSha1 password addr received

variable {agent : Agent} {k : Nat}

theorem Checked.succeeded {before after : IceCandidatePair} {n : Nat} (h : Checked before after n)
    (hafter : after.state = .succeeded) : before.state = .succeeded := by
  cases h.state with
  | inl hkept => rw [← hkept, hafter]
  | inr hfailed =>
    rw [hfailed.2] at hafter
    contradiction

theorem TakenUp.succeeded {before after : IceCandidatePair} (h : TakenUp before after)
    (hafter : after.state = .succeeded) : before.state = .succeeded := by
  cases h with
  | inl hkept => rw [← hkept, hafter]
  | inr htaken =>
    rw [htaken.2.1] at hafter
    contradiction

/-
A pair has succeeded by the end of a step only if it had before or the step confirms it.
-/
theorem step_succeeded (h : Taken k agent) (event : AgentEvent) {i : Nat} (hi : i < agent.candidatePairsNum)
    (hsucceeded : (((agentMachine hmacSha1 md5).step agent event).1.pair i).state = .succeeded)
    : (agent.pair i).state = .succeeded
        ∨ Confirms hmacSha1 md5 agent.remoteUpwd (agent.remoteOf i).addr agent event := by
  cases event with
  | select =>
    left
    exact ((agentSelectCandidatePair_taken h).2.2 i hi).succeeded hsucceeded
  | recv input =>
    have hreceived := agentRecv_received hmacSha1 md5 agent input
    obtain ⟨_, _, hpairs⟩ := hreceived.1.pairs hreceived.2 h
    cases (hpairs i).2 with
    | inl hkept =>
      left
      rw [← hkept]
      exact hsucceeded
    | inr hconfirmed =>
      obtain ⟨_, received, hdelivered, hconfirmation⟩ := hconfirmed
      exact .inr ⟨agent, input, received, rfl, hdelivered, hconfirmation⟩
  | check input =>
    have hdone := checkActivePairs_done hmacSha1 md5 input h h.active_lt
    simp only [agentMachine] at hsucceeded
    unfold agentConnectivityCheck at hsucceeded
    dsimp only at hsucceeded
    have hreceived := agentRecv_received hmacSha1 md5
      (checkActivePairs hmacSha1 md5 input agent agent.activePairs).1 input.recv
    obtain ⟨_, _, hpairs⟩ := hreceived.1.pairs hreceived.2 hdone.taken
    have hafter : ((agentRecv hmacSha1 md5 (checkActivePairs hmacSha1 md5 input agent agent.activePairs).1
        input.recv).1.pair i).state = .succeeded → (agent.pair i).state = .succeeded
          ∨ Confirms hmacSha1 md5 agent.remoteUpwd (agent.remoteOf i).addr agent (.check input) := by
      intro hsucceeded
      cases (hpairs i).2 with
      | inl hkept =>
        left
        apply (hdone.pairs i hi).succeeded
        rw [← hkept]
        exact hsucceeded
      | inr hconfirmed =>
        obtain ⟨_, received, hdelivered, hconfirmation⟩ := hconfirmed
        rw [hdone.same.remoteUpwd, hdone.same.remoteOf] at hconfirmation
        exact .inr ⟨_, input.recv, received, rfl, hdelivered, hconfirmation⟩
    split at hsucceeded
    . left
      exact (hdone.pairs i hi).succeeded hsucceeded
    . split at hsucceeded
      . exact hafter hsucceeded
      . exact hafter hsucceeded

variable (hmacSha1 md5) in
theorem final_succeeded {start : Agent} (h : ∃ k, Taken k start) (events : List AgentEvent) {i : Nat}
    (hi : i < start.candidatePairsNum)
    (hsucceeded : (((agentMachine hmacSha1 md5).final start events).pair i).state = .succeeded)
    : (start.pair i).state = .succeeded
        ∨ ∃ v ∈ (agentMachine hmacSha1 md5).visits start events,
            Confirms hmacSha1 md5 start.remoteUpwd (start.remoteOf i).addr v.pre v.event := by
  induction events generalizing start with
  | nil => exact .inl hsucceeded
  | cons event events ih =>
    obtain ⟨k, htaken⟩ := h
    have hstep := StepDone.step hmacSha1 md5 htaken event
    obtain ⟨k', htaken', _⟩ := hstep.taken
    cases ih ⟨k', htaken'⟩ (by rw [hstep.same.num]; exact hi) hsucceeded with
    | inl hafter =>
      cases step_succeeded htaken event hi hafter with
      | inl hbefore => exact .inl hbefore
      | inr hconfirms =>
        right
        refine ⟨(agentMachine hmacSha1 md5).visit start event, ?_, hconfirms⟩
        rw [Machine.visits_cons]
        apply List.mem_cons_self
    | inr hlater =>
      right
      obtain ⟨v, hv, hconfirms⟩ := hlater
      rw [hstep.same.remoteUpwd, hstep.same.remoteOf] at hconfirms
      refine ⟨v, ?_, hconfirms⟩
      rw [Machine.visits_cons]
      exact List.mem_cons_of_mem _ hv

/-
A check that returns success has found a pair that has succeeded among the ones under way.
-/
theorem agentConnectivityCheck_connected {input : CheckInput} (h : Taken k agent)
    (hconnected : (agentConnectivityCheck hmacSha1 md5 agent input).2.2.2 = true)
    : ∃ i < agent.candidatePairsNum,
        ((agentConnectivityCheck hmacSha1 md5 agent input).1.pair i).state = .succeeded
        ∧ (agentConnectivityCheck hmacSha1 md5 agent input).1.selectedPair = some i
        ∧ (agentConnectivityCheck hmacSha1 md5 agent input).1.nominatedPair = some i := by
  have hdone := checkActivePairs_done hmacSha1 md5 input h h.active_lt
  unfold agentConnectivityCheck at hconnected ⊢
  dsimp only at hconnected ⊢
  split at hconnected
  . contradiction
  . next hany =>
    rw [if_neg hany]
    split at hconnected
    . next i hfind =>
      have hmem := List.mem_of_find?_eq_some hfind
      have hkept := (agentRecv_received hmacSha1 md5
        (checkActivePairs hmacSha1 md5 input agent agent.activePairs).1 input.recv).2
      rw [hkept.active, hdone.active] at hmem
      refine ⟨i, Nat.lt_of_lt_of_le (h.active_lt i hmem) h.le_num, ?_⟩
      have hstate := List.find?_some hfind
      rw [decide_eq_true_iff] at hstate
      exact ⟨hstate, rfl, rfl⟩
    . contradiction

/-
When the check returns success, the pair it has selected and nominated has been confirmed in this run.
-/
theorem agentConnectivityCheck_confirmed (agent : Agent) (events : List AgentEvent) (input : CheckInput)
    (hconnected : (agentConnectivityCheck hmacSha1 md5
      ((agentMachine hmacSha1 md5).final (agentUpdateCandidatePairs agent) events) input).2.2.2 = true)
    : let start := agentUpdateCandidatePairs agent
      let machine := agentMachine hmacSha1 md5
      let after := (agentConnectivityCheck hmacSha1 md5 (machine.final start events) input).1
      ∃ i < start.candidatePairsNum, after.selectedPair = some i ∧ after.nominatedPair = some i
        ∧ ∃ v ∈ machine.visits start (events ++ [.check input]),
            Confirms hmacSha1 md5 start.remoteUpwd (start.remoteOf i).addr v.pre v.event := by
  intro start machine after
  have hstart := agentUpdateCandidatePairs_taken agent
  obtain ⟨⟨k, htaken⟩, hsame, _⟩ := final_done hmacSha1 md5 ⟨0, hstart⟩ events
  obtain ⟨i, hi, hsucceeded, hselected, hnominated⟩ := agentConnectivityCheck_connected htaken hconnected
  have hnum : i < start.candidatePairsNum := by
    rw [hsame.num] at hi
    exact hi
  refine ⟨i, hnum, hselected, hnominated, ?_⟩
  have hlast := final_succeeded hmacSha1 md5 ⟨0, hstart⟩ (events ++ [.check input]) hnum
  rw [Machine.final_append] at hlast
  cases hlast hsucceeded with
  | inl hbefore =>
    rw [(hstart.untried i (Nat.zero_le i) hnum).1] at hbefore
    contradiction
  | inr hconfirmed => exact hconfirmed

theorem agentConnectivityCheck_confirmed_exchange
    : let start := agentUpdateCandidatePairs offeredAgent
      let machine := agentMachine exchangeDigest unusedDigest
      let input := exchangeCheck 200 exchangeResponse
      let after := (agentConnectivityCheck exchangeDigest unusedDigest (machine.final start exchangeEvents) input).1
      ∃ i < start.candidatePairsNum, after.selectedPair = some i ∧ after.nominatedPair = some i
        ∧ ∃ v ∈ machine.visits start (exchangeEvents ++ [.check input]),
            Confirms exchangeDigest unusedDigest start.remoteUpwd (start.remoteOf i).addr v.pre v.event := by
  apply agentConnectivityCheck_confirmed
  decide +kernel

end Selection

section Stable

variable (hmacSha1 md5) in
/-
What comes later does not replace a pair that has been selected.
-/
theorem agentRecv_nominated {agent : Agent} (input : RecvInput) {i : Nat}
    (hnominated : agent.nominatedPair = some i) (hsucceeded : agent.nominatedSucceeded = true)
    : (agentRecv hmacSha1 md5 agent input).1.nominatedPair = some i
        ∧ (agentRecv hmacSha1 md5 agent input).1.nominatedSucceeded = true
        ∧ (agentRecv hmacSha1 md5 agent input).1.remoteOf i = agent.remoteOf i
        ∧ (agentRecv hmacSha1 md5 agent input).1.selectedPair = agent.selectedPair := by
  have hreceived := agentRecv_received hmacSha1 md5 agent input
  cases hreceived.1 with
  | quiet hpairs hkept =>
    have hsame := hreceived.2.same_quiet hpairs
    refine ⟨by rw [hkept, hnominated], ?_, hsame.remoteOf i, hreceived.2.selected⟩
    unfold Agent.nominatedSucceeded Agent.pair at hsucceeded ⊢
    rw [hkept, hpairs]
    exact hsucceeded
  | confirmed j received _ _ _ _ hpairs hcases =>
    have hkept : (agentRecv hmacSha1 md5 agent input).1.nominatedPair = agent.nominatedPair := by
      cases hcases with
      | inl hkept => exact hkept
      | inr hreplaced =>
        rw [hsucceeded] at hreplaced
        exact absurd hreplaced.2 (by simp)
    have hsame := hreceived.2.same hpairs
    refine ⟨by rw [hkept, hnominated], ?_, hsame.remoteOf i, hreceived.2.selected⟩
    have hset := nominatedSucceeded_setState j hsucceeded
    unfold Agent.nominatedSucceeded Agent.pair at hset ⊢
    rw [hkept, hpairs]
    exact hset

variable (hmacSha1 md5) in
theorem final_recv_nominated {agent : Agent} {i : Nat} (hnominated : agent.nominatedPair = some i)
    (hsucceeded : agent.nominatedSucceeded = true) (inputs : List RecvInput)
    : let after := (agentMachine hmacSha1 md5).final agent (inputs.map AgentEvent.recv)
      after.nominatedPair = some i ∧ after.remoteOf i = agent.remoteOf i
        ∧ after.selectedPair = agent.selectedPair := by
  induction inputs generalizing agent with
  | nil => exact ⟨hnominated, rfl, rfl⟩
  | cons input inputs ih =>
    have hstep := agentRecv_nominated hmacSha1 md5 input hnominated hsucceeded
    have hrest := ih hstep.1 hstep.2.1
    exact ⟨hrest.1, hrest.2.1.trans hstep.2.2.1, hrest.2.2.trans hstep.2.2.2⟩

/-
After a successful check, whatever is received, the pair that the check has selected stays nominated and data goes to
its remote address, on its own or through the relay.
-/
theorem agentSend_after_check (agent : Agent) (events : List AgentEvent) (input : CheckInput)
    (inputs : List RecvInput) (send : SendInput) (buf : List Byte)
    (hconnected : (agentConnectivityCheck hmacSha1 md5
      ((agentMachine hmacSha1 md5).final (agentUpdateCandidatePairs agent) events) input).2.2.2 = true)
    : let start := agentUpdateCandidatePairs agent
      let machine := agentMachine hmacSha1 md5
      let checked := (agentConnectivityCheck hmacSha1 md5 (machine.final start events) input).1
      let after := machine.final checked (inputs.map AgentEvent.recv)
      ∃ i, checked.selectedPair = some i ∧ after.selectedPair = some i ∧ after.nominatedPair = some i
        ∧ agentSend after send buf = agentSendTo after send buf (start.remoteOf i).addr := by
  intro start machine checked after
  have hstart := agentUpdateCandidatePairs_taken agent
  obtain ⟨⟨k, htaken⟩, hsame, _⟩ := final_done hmacSha1 md5 ⟨0, hstart⟩ events
  obtain ⟨i, _, hsucceeded, hselected, hnominated⟩ := agentConnectivityCheck_connected htaken hconnected
  have hstable := final_recv_nominated hmacSha1 md5 hnominated
    (by unfold Agent.nominatedSucceeded; rw [hnominated]; simpa using hsucceeded) inputs
  refine ⟨i, hselected, hstable.2.2.trans hselected, hstable.1, ?_⟩
  unfold agentSend
  rw [hstable.1]
  dsimp only
  have hcheck := (StepDone.check hmacSha1 md5 htaken input).same
  rw [hstable.2.1, hcheck.remoteOf, hsame.remoteOf]

theorem agentSend_after_check_exchange
    : let start := agentUpdateCandidatePairs offeredAgent
      let machine := agentMachine exchangeDigest unusedDigest
      let checked := (agentConnectivityCheck exchangeDigest unusedDigest (machine.final start exchangeEvents)
        (exchangeCheck 200 exchangeResponse)).1
      let after := machine.final checked ([exchangeRecv exchangeResponse].map AgentEvent.recv)
      ∃ i, checked.selectedPair = some i ∧ after.selectedPair = some i ∧ after.nominatedPair = some i
        ∧ agentSend after exchangeSend [0x80] = agentSendTo after exchangeSend [0x80] (start.remoteOf i).addr := by
  apply agentSend_after_check
  decide +kernel

end Stable

end Peer

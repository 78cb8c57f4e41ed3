import RtsmartLib.Peer.Agent
import RtsmartLib.Peer.StunAttributes
import RtsmartLib.Lib.Machine

/-!
This module contains the connectivity checks over whole runs: which pairs there are and in which order they are
tried, how often, and what a pair has been confirmed by before it is selected.
-/

namespace Peer

open Lib
open StunMessage

section Pairs

def candidatePlaces (agent : Agent) : List (Nat × Nat) :=
  (List.range agent.localCandidates.length).flatMap fun i =>
    (List.range agent.remoteCandidates.length).map fun j => (i, j)

/-
The pairs that are tried, in the order of the candidates.
-/
def allowedPairs (agent : Agent) : List IceCandidatePair :=
  (candidatePlaces agent).filterMap fun place => candidatePairAt? agent place.1 place.2

theorem length_candidatePlaces (agent : Agent)
    : (candidatePlaces agent).length = agent.localCandidates.length * agent.remoteCandidates.length := by
  simp [candidatePlaces, List.length_flatMap]

theorem addCandidatePairs_eq (agent : Agent) (pairs : List IceCandidatePair) (places : List (Nat × Nat))
    (hroom : pairs.length + places.length ≤ agentMaxCandidatePairs)
    : addCandidatePairs agent pairs places
        = (pairs ++ places.filterMap (fun place => candidatePairAt? agent place.1 place.2), false) := by
  induction places generalizing pairs with
  | nil => simp [addCandidatePairs]
  | cons place places ih =>
    simp only [List.length_cons] at hroom
    unfold addCandidatePairs
    cases hpair : candidatePairAt? agent place.1 place.2 with
    | none =>
      simp only [List.filterMap_cons, hpair]
      apply ih
      omega
    | some pair =>
      simp only [List.filterMap_cons, hpair]
      rw [if_neg (by omega)]
      rw [ih _ (by simp; omega)]
      simp

theorem candidatePairAt?_state {agent : Agent} {i j : Nat} {pair : IceCandidatePair}
    (h : candidatePairAt? agent i j = some pair) : pair.state = .frozen ∧ pair.conncheck = 0 := by
  unfold candidatePairAt? at h
  dsimp only at h
  split_ifs at h
  rw [← Option.some.inj h]
  exact ⟨rfl, rfl⟩

theorem addCandidatePairs_state {agent : Agent} {pairs : List IceCandidatePair} {places : List (Nat × Nat)}
    (hpairs : ∀ pair ∈ pairs, pair.state = .frozen ∧ pair.conncheck = 0)
    : ∀ pair ∈ (addCandidatePairs agent pairs places).1, pair.state = .frozen ∧ pair.conncheck = 0 := by
  induction places generalizing pairs with
  | nil => exact hpairs
  | cons place places ih =>
    unfold addCandidatePairs
    cases hpair : candidatePairAt? agent place.1 place.2 with
    | none => exact ih hpairs
    | some pair =>
      dsimp only
      split
      . exact hpairs
      . apply ih
        intro pair' hmem
        cases List.mem_append.mp hmem with
        | inl hbefore => exact hpairs pair' hbefore
        | inr hlast =>
          rw [List.mem_singleton.mp hlast]
          exact candidatePairAt?_state hpair

/-
With no more candidates than an agent has room for, there is room for all pairs: they are the allowed ones,
sorted by falling priority.
-/
theorem agentUpdateCandidatePairs_sorted (agent : Agent)
    (hlocal : agent.localCandidates.length ≤ agentMaxCandidates)
    (hremote : agent.remoteCandidates.length ≤ agentMaxCandidates)
    : let updated := agentUpdateCandidatePairs agent
      let pairs := updated.candidatePairs.take updated.candidatePairsNum
      pairs.Perm (allowedPairs agent) ∧ pairs.Pairwise (fun a b => b.priority.toNat ≤ a.priority.toNat)
        ∧ ∀ pair ∈ pairs, pair.state = .frozen := by
  intro updated pairs
  have hroom : (candidatePlaces agent).length ≤ agentMaxCandidatePairs := by
    rw [length_candidatePlaces]
    apply Nat.mul_le_mul hlocal hremote
  have hadd := addCandidatePairs_eq agent [] (candidatePlaces agent) (by simpa using hroom)
  have hpairs : pairs = exchangeSort (fun pair => pair.priority.toNat) (allowedPairs agent) := by
    simp only [pairs, updated, agentUpdateCandidatePairs]
    rw [← candidatePlaces]
    rw [hadd]
    simp only [List.nil_append, Bool.false_eq_true, if_false]
    rw [List.take_left' rfl]
    rfl
  rw [hpairs]
  refine ⟨exchangeSort_perm _ _, exchangeSort_pairwise _ _, ?_⟩
  intro pair hmem
  have hallowed := (exchangeSort_perm _ _).subset hmem
  obtain ⟨place, _, hplace⟩ := List.mem_filterMap.mp hallowed
  exact (candidatePairAt?_state hplace).1

def hostCandidate (last : Byte) (priority : BitVec 32) : IceCandidate :=
  let addr : Address :=
    { (default : Address) with
      family := .inet
      sinAddr := [192, 168, 1, last]
      port := 5000
      length_sinAddr := rfl }
  ⟨.host, priority, addr⟩

/-
An agent with one candidate, whose peer has offered two.
-/
def offeredAgent : Agent where
  remoteUfrag := [0x62, 0x62, 0x62, 0x62]
  remoteUpwd := [0x70, 0x62]
  localUfrag := [0x61, 0x61, 0x61, 0x61]
  localUpwd := [0x70, 0x61]
  localCandidates := [hostCandidate 2 1]
  remoteCandidates := [hostCandidate 3 1, hostCandidate 4 2]
  bindingRequestTime := 0
  mode := .controlling
  candidatePairs := []
  candidatePairsNum := 0
  selectedPair := none
  nominatedPair := none
  activePairs := []
  transactionId := Vector.replicate 12 0x00
  turn := ⟨default, default, false, 0, false⟩

theorem agentUpdateCandidatePairs_sorted_offered
    : let updated := agentUpdateCandidatePairs offeredAgent
      let pairs := updated.candidatePairs.take updated.candidatePairsNum
      pairs.Perm (allowedPairs offeredAgent) ∧ pairs.Pairwise (fun a b => b.priority.toNat ≤ a.priority.toNat)
        ∧ ∀ pair ∈ pairs, pair.state = .frozen := by
  apply agentUpdateCandidatePairs_sorted
  . decide
  . decide

end Pairs

namespace Agent

variable {agent : Agent} {i j : Nat} {f : IceCandidatePair → IceCandidatePair}

theorem pair_setPair_of_ne (h : i ≠ j) : (agent.setPair i f).pair j = agent.pair j := by
  unfold pair setPair
  rw [List.getD_eq_getElem?_getD, List.getD_eq_getElem?_getD]
  rw [List.getElem?_modify]
  simp [h]

theorem pair_setPair_self (h : i < agent.candidatePairs.length)
    : (agent.setPair i f).pair i = f (agent.pair i) := by
  unfold pair setPair
  rw [List.getD_eq_getElem _ _ (by simpa using h), List.getD_eq_getElem _ _ h]
  rw [List.getElem_modify]
  simp

end Agent

/-
What stays as it is as long as the descriptions do.
-/
structure SameSession (before after : Agent) : Prop where
  remoteUpwd : after.remoteUpwd = before.remoteUpwd
  remoteCandidates : after.remoteCandidates = before.remoteCandidates
  num : after.candidatePairsNum = before.candidatePairsNum
  length : after.candidatePairs.length = before.candidatePairs.length
  remoteAt : ∀ i, (after.pair i).remoteAt = (before.pair i).remoteAt
  priority : ∀ i, (after.pair i).priority = (before.pair i).priority

namespace SameSession

variable {a b c : Agent}

theorem refl (a : Agent) : SameSession a a := ⟨rfl, rfl, rfl, rfl, fun _ => rfl, fun _ => rfl⟩

theorem trans (h : SameSession a b) (h' : SameSession b c) : SameSession a c := by
  constructor
  . rw [h'.remoteUpwd, h.remoteUpwd]
  . rw [h'.remoteCandidates, h.remoteCandidates]
  . rw [h'.num, h.num]
  . rw [h'.length, h.length]
  . intro i
    rw [h'.remoteAt, h.remoteAt]
  . intro i
    rw [h'.priority, h.priority]

theorem remoteOf (h : SameSession a b) (i : Nat) : b.remoteOf i = a.remoteOf i := by
  unfold Agent.remoteOf
  rw [h.remoteCandidates, h.remoteAt]

theorem setPair (a : Agent) (i : Nat) {f : IceCandidatePair → IceCandidatePair}
    (hremote : ∀ pair, (f pair).remoteAt = pair.remoteAt) (hpriority : ∀ pair, (f pair).priority = pair.priority)
    : SameSession a (a.setPair i f) := by
  have hpair : ∀ j, (a.setPair i f).pair j = a.pair j ∨ (a.setPair i f).pair j = f (a.pair j) := by
    intro j
    cases Nat.lt_or_ge i a.candidatePairs.length with
    | inl hlt =>
      cases Nat.decEq i j with
      | isTrue heq =>
        rw [← heq]
        exact .inr (Agent.pair_setPair_self hlt)
      | isFalse hne => exact .inl (Agent.pair_setPair_of_ne hne)
    | inr hge =>
      left
      unfold Agent.pair Agent.setPair
      rw [List.modify_eq_self hge]
  constructor
  . rfl
  . rfl
  . rfl
  . simp [Agent.setPair]
  . intro j
    cases hpair j with
    | inl h => rw [h]
    | inr h => rw [h, hremote]
  . intro j
    cases hpair j with
    | inl h => rw [h]
    | inr h => rw [h, hpriority]

end SameSession

/--
The pairs in front of `k` have been taken up, the ones from there on have not been tried.
-/
structure Taken (k : Nat) (agent : Agent) : Prop where
  num_le : agent.candidatePairsNum ≤ agent.candidatePairs.length
  le_num : k ≤ agent.candidatePairsNum
  taken : ∀ i < k, (agent.pair i).state ≠ .frozen
  untried : ∀ i, k ≤ i → i < agent.candidatePairsNum →
    (agent.pair i).state = .frozen ∧ (agent.pair i).conncheck = 0
  active_lt : ∀ i ∈ agent.activePairs, i < k
  active_le : agent.activePairs.length ≤ agentMaxActivePairs
  conncheck_le : ∀ i < agent.candidatePairsNum, (agent.pair i).conncheck ≤ agentConncheckMax

theorem agentUpdateCandidatePairs_taken (agent : Agent) : Taken 0 (agentUpdateCandidatePairs agent) := by
  have hpairs : ∀ i < (agentUpdateCandidatePairs agent).candidatePairsNum,
      ((agentUpdateCandidatePairs agent).pair i).state = .frozen
        ∧ ((agentUpdateCandidatePairs agent).pair i).conncheck = 0 := by
    have hadded := @addCandidatePairs_state agent [] (candidatePlaces agent) (by simp)
    have hall : ∀ pair ∈ (if (addCandidatePairs agent [] (candidatePlaces agent)).2
        then (addCandidatePairs agent [] (candidatePlaces agent)).1
        else exchangeSort (fun pair => pair.priority.toNat) (addCandidatePairs agent [] (candidatePlaces agent)).1),
        pair.state = .frozen ∧ pair.conncheck = 0 := by
      intro pair hmem
      split at hmem
      . exact hadded pair hmem
      . exact hadded pair ((exchangeSort_perm _ _).subset hmem)
    intro i hi
    unfold Agent.pair
    simp only [agentUpdateCandidatePairs] at hi ⊢
    rw [List.getD_append _ _ _ _ hi]
    rw [List.getD_eq_getElem _ _ hi]
    apply hall
    apply List.getElem_mem
  constructor
  . simp [agentUpdateCandidatePairs]
  . apply Nat.zero_le
  . intro i hi
    contradiction
  . intro i _ hi
    exact hpairs i hi
  . simp [agentUpdateCandidatePairs]
  . simp [agentUpdateCandidatePairs]
  . intro i hi
    rw [(hpairs i hi).2]
    apply Nat.zero_le

section Select

variable {agent : Agent} {k : Nat}

theorem pair_activate_self {i : Nat} (h : i < agent.candidatePairs.length)
    : (agent.activate i).pair i
        = { agent.pair i with conncheck := 0, conncheckTimestamp := 0, state := .inprogress } :=
  Agent.pair_setPair_self h

theorem pair_activate_of_ne {i j : Nat} (h : i ≠ j) : (agent.activate i).pair j = agent.pair j :=
  Agent.pair_setPair_of_ne h

theorem SameSession.activate (agent : Agent) (i : Nat) : SameSession agent (agent.activate i) := by
  have hset := SameSession.setPair agent i (f := fun pair =>
    { pair with conncheck := 0, conncheckTimestamp := 0, state := .inprogress }) (fun _ => rfl) (fun _ => rfl)
  exact ⟨hset.remoteUpwd, hset.remoteCandidates, hset.num, hset.length, hset.remoteAt, hset.priority⟩

/-
Taking up the next pair.
-/
theorem Taken.activate (h : Taken k agent) (hroom : agent.activePairs.length < agentMaxActivePairs)
    (hk : k < agent.candidatePairsNum) : Taken (k + 1) (agent.activate k) := by
  have hself := pair_activate_self (Nat.lt_of_lt_of_le hk h.num_le)
  have hsame := SameSession.activate agent k
  constructor
  . rw [hsame.num, hsame.length]
    exact h.num_le
  . exact hk
  . intro i hi
    cases Nat.decEq k i with
    | isTrue heq =>
      rw [← heq, hself]
      simp
    | isFalse hne =>
      rw [pair_activate_of_ne hne]
      apply h.taken
      omega
  . intro i hle hi
    rw [pair_activate_of_ne (by omega)]
    exact h.untried i (by omega) hi
  . intro i hmem
    cases List.mem_append.mp hmem with
    | inl hbefore =>
      have := h.active_lt i hbefore
      omega
    | inr hlast =>
      rw [List.mem_singleton.mp hlast]
      apply Nat.lt_succ_self
  . apply Nat.le_trans (Nat.le_of_eq List.length_append) hroom
  . intro i hi
    cases Nat.decEq k i with
    | isTrue heq =>
      rw [← heq, hself]
      apply Nat.zero_le
    | isFalse hne =>
      rw [pair_activate_of_ne hne]
      exact h.conncheck_le i hi

/-
What taking up pairs does to any one of them.
-/
def TakenUp (before after : IceCandidatePair) : Prop :=
  after = before ∨ (before.state = .frozen ∧ after.state = .inprogress ∧ after.conncheck = 0)

theorem activatePairs_eq_of_full (h : ¬agent.activePairs.length < agentMaxActivePairs) (places : List Nat)
    : activatePairs agent places = agent := by
  cases places with
  | nil => rfl
  | cons i places =>
    unfold activatePairs
    rw [if_neg h]

theorem activatePairs_taken (h : Taken k agent) {s m : Nat} (hs : s ≤ k)
    (hend : s + m = agent.candidatePairsNum)
    : (∃ k', Taken k' (activatePairs agent (List.range' s m)))
        ∧ SameSession agent (activatePairs agent (List.range' s m))
        ∧ ∀ i < agent.candidatePairsNum,
            TakenUp (agent.pair i) ((activatePairs agent (List.range' s m)).pair i) := by
  induction m generalizing s k agent with
  | zero => exact ⟨⟨k, h⟩, SameSession.refl agent, fun _ _ => .inl rfl⟩
  | succ m ih =>
    cases Decidable.em (agent.activePairs.length < agentMaxActivePairs) with
    | inr hfull =>
      rw [activatePairs_eq_of_full hfull]
      exact ⟨⟨k, h⟩, SameSession.refl agent, fun _ _ => .inl rfl⟩
    | inl hroom =>
      rw [List.range'_succ]
      unfold activatePairs
      rw [if_pos hroom]
      cases Nat.lt_or_ge s k with
      | inl hlt =>
        rw [if_neg (h.taken s hlt)]
        apply ih h
        . omega
        . omega
      | inr hge =>
        have hsk : s = k := Nat.le_antisymm hs hge
        have hk : k < agent.candidatePairsNum := by
          omega
        have huntried := h.untried k (Nat.le_refl k) hk
        have hself := pair_activate_self (Nat.lt_of_lt_of_le hk h.num_le)
        have hactivated := SameSession.activate agent k
        rw [hsk]
        rw [if_pos huntried.1]
        obtain ⟨htaken, hsame, hpairs⟩ := ih (h.activate hroom hk) (s := k + 1) (Nat.le_refl _)
          (by rw [hactivated.num]; omega)
        refine ⟨htaken, hactivated.trans hsame, ?_⟩
        rw [hactivated.num] at hpairs
        intro i hi
        cases Nat.decEq k i with
        | isFalse hne =>
          have hrest := hpairs i hi
          rw [pair_activate_of_ne hne] at hrest
          exact hrest
        | isTrue heq =>
          rw [← heq]
          right
          cases hpairs k hk with
          | inl hkept =>
            rw [hkept, hself]
            exact ⟨huntried.1, rfl, rfl⟩
          | inr hagain =>
            rw [hself] at hagain
            exact absurd hagain.1 (by simp)

theorem Taken.filter (h : Taken k agent) (p : Nat → Bool)
    : Taken k { agent with activePairs := agent.activePairs.filter p } := by
  constructor
  . exact h.num_le
  . exact h.le_num
  . exact h.taken
  . exact h.untried
  . intro i hmem
    exact h.active_lt i (List.mem_of_mem_filter hmem)
  . apply Nat.le_trans _ h.active_le
    apply List.length_filter_le
  . exact h.conncheck_le

/-
One call of `agent_select_candidate_pair`.
-/
theorem agentSelectCandidatePair_taken (h : Taken k agent)
    : (∃ k', Taken k' (agentSelectCandidatePair agent).1)
        ∧ SameSession agent (agentSelectCandidatePair agent).1
        ∧ ∀ i < agent.candidatePairsNum, TakenUp (agent.pair i) ((agentSelectCandidatePair agent).1.pair i) := by
  unfold agentSelectCandidatePair
  split
  . refine ⟨⟨k, ?_⟩, ⟨rfl, rfl, rfl, rfl, fun _ => rfl, fun _ => rfl⟩, fun _ _ => .inl rfl⟩
    exact ⟨h.num_le, h.le_num, h.taken, h.untried, h.active_lt, h.active_le, h.conncheck_le⟩
  . have hfilter := h.filter fun i => (agent.pair i).state ≠ .failed
    dsimp only
    rw [List.range_eq_range']
    obtain ⟨htaken, hsame, hpairs⟩ := activatePairs_taken hfilter (Nat.zero_le k) (Nat.zero_add _)
    refine ⟨htaken, ?_, hpairs⟩
    exact ⟨hsame.remoteUpwd, hsame.remoteCandidates, hsame.num, hsame.length, hsame.remoteAt, hsame.priority⟩

end Select

section Check

variable {agent : Agent} {k : Nat}

theorem Taken.congr (h : Taken k agent) {agent' : Agent} (hpairs : agent'.candidatePairs = agent.candidatePairs)
    (hnum : agent'.candidatePairsNum = agent.candidatePairsNum) (hactive : agent'.activePairs = agent.activePairs)
    : Taken k agent' := by
  have hpair : ∀ i, agent'.pair i = agent.pair i := by
    intro i
    unfold Agent.pair
    rw [hpairs]
  constructor
  . rw [hnum, hpairs]
    exact h.num_le
  . rw [hnum]
    exact h.le_num
  . intro i hi
    rw [hpair]
    exact h.taken i hi
  . intro i hle hi
    rw [hnum] at hi
    rw [hpair]
    exact h.untried i hle hi
  . rw [hactive]
    exact h.active_lt
  . rw [hactive]
    exact h.active_le
  . intro i hi
    rw [hnum] at hi
    rw [hpair]
    exact h.conncheck_le i hi

theorem Taken.setPair (h : Taken k agent) {i : Nat} (hi : i < k) {f : IceCandidatePair → IceCandidatePair}
    (hstate : (f (agent.pair i)).state ≠ .frozen) (hconncheck : (f (agent.pair i)).conncheck ≤ agentConncheckMax)
    (hremote : ∀ pair, (f pair).remoteAt = pair.remoteAt) (hpriority : ∀ pair, (f pair).priority = pair.priority)
    : Taken k (agent.setPair i f) := by
  have hsame := SameSession.setPair agent i hremote hpriority
  have hlength : i < agent.candidatePairs.length :=
    Nat.lt_of_lt_of_le hi (Nat.le_trans h.le_num h.num_le)
  constructor
  . rw [hsame.num, hsame.length]
    exact h.num_le
  . exact h.le_num
  . intro j hj
    cases Nat.decEq i j with
    | isTrue heq =>
      rw [← heq, Agent.pair_setPair_self hlength]
      exact hstate
    | isFalse hne =>
      rw [Agent.pair_setPair_of_ne hne]
      exact h.taken j hj
  . intro j hle hj
    rw [Agent.pair_setPair_of_ne (by omega)]
    exact h.untried j hle hj
  . exact h.active_lt
  . exact h.active_le
  . intro j hj
    cases Nat.decEq i j with
    | isTrue heq =>
      rw [← heq, Agent.pair_setPair_self hlength]
      exact hconncheck
    | isFalse hne =>
      rw [Agent.pair_setPair_of_ne hne]
      exact h.conncheck_le j hj

theorem pair_nominate_self {i : Nat} {now : BitVec 32} (h : i < agent.candidatePairs.length)
    : (agent.nominate i now).pair i
        = { agent.pair i with conncheck := (agent.pair i).conncheck + 1, conncheckTimestamp := now } :=
  Agent.pair_setPair_self h

theorem pair_nominate_of_ne {i j : Nat} {now : BitVec 32} (h : i ≠ j)
    : (agent.nominate i now).pair j = agent.pair j :=
  Agent.pair_setPair_of_ne h

def requestCount (i : Nat) (requests : List Request) : Nat :=
  requests.countP fun request => request.place = i

@[simp]
theorem requestCount_nil (i : Nat) : requestCount i [] = 0 := rfl

theorem requestCount_append (i : Nat) (requests requests' : List Request)
    : requestCount i (requests ++ requests') = requestCount i requests + requestCount i requests' := by
  apply List.countP_append

/-
What the checks of a round do to any one pair that `n` requests have been sent for.
-/
structure Checked (before after : IceCandidatePair) (n : Nat) : Prop where
  conncheck : after.conncheck = before.conncheck + n
  state : after.state = before.state ∨ (before.state = .inprogress ∧ after.state = .failed)

theorem Checked.trans {a b c : IceCandidatePair} {n m : Nat} (h : Checked a b n) (h' : Checked b c m)
    : Checked a c (n + m) := by
  constructor
  . rw [h'.conncheck, h.conncheck, Nat.add_assoc]
  . cases h'.state with
    | inl hkept =>
      rw [hkept]
      exact h.state
    | inr hfailed =>
      cases h.state with
      | inl hkept =>
        rw [hkept] at hfailed
        exact .inr hfailed
      | inr hfailed' =>
        rw [hfailed'.2] at hfailed
        exact absurd hfailed.1 (by simp)

structure ChecksDone (k : Nat) (before after : Agent) (requests : List Request) : Prop where
  taken : Taken k after
  same : SameSession before after
  active : after.activePairs = before.activePairs
  pairs : ∀ i < before.candidatePairsNum, Checked (before.pair i) (after.pair i) (requestCount i requests)
  places : ∀ request ∈ requests, request.place < k

namespace ChecksDone

theorem nothing (h : Taken k agent) : ChecksDone k agent agent [] :=
  ⟨h, SameSession.refl agent, rfl, fun _ _ => ⟨rfl, .inl rfl⟩, by simp⟩

theorem trans {a b c : Agent} {requests requests' : List Request} (h : ChecksDone k a b requests)
    (h' : ChecksDone k b c requests') : ChecksDone k a c (requests ++ requests') := by
  constructor
  . exact h'.taken
  . exact h.same.trans h'.same
  . rw [h'.active, h.active]
  . intro i hi
    rw [requestCount_append]
    apply (h.pairs i hi).trans
    apply h'.pairs
    rw [h.same.num]
    exact hi
  . intro request hmem
    cases List.mem_append.mp hmem with
    | inl hfirst => exact h.places request hfirst
    | inr hrest => exact h'.places request hrest

theorem setTurn (h : Taken k agent) (turn : AgentTurn) : ChecksDone k agent (agent.setTurn turn) [] :=
  ⟨h.congr rfl rfl rfl, ⟨rfl, rfl, rfl, rfl, fun _ => rfl, fun _ => rfl⟩, rfl, fun _ _ => ⟨rfl, .inl rfl⟩, by simp⟩

theorem fail (h : Taken k agent) {i : Nat} (hi : i < k) (hstate : (agent.pair i).state = .inprogress)
    : ChecksDone k agent (agent.setState i .failed) [] := by
  have hlength : i < agent.candidatePairs.length :=
    Nat.lt_of_lt_of_le hi (Nat.le_trans h.le_num h.num_le)
  constructor
  . apply h.setPair hi
    . simp
    . exact h.conncheck_le i (Nat.lt_of_lt_of_le hi h.le_num)
    . intro pair
      rfl
    . intro pair
      rfl
  . exact SameSession.setPair agent i (fun _ => rfl) (fun _ => rfl)
  . rfl
  . intro j _
    unfold Agent.setState
    cases Nat.decEq i j with
    | isTrue heq =>
      rw [← heq, Agent.pair_setPair_self hlength]
      exact ⟨rfl, .inr ⟨hstate, rfl⟩⟩
    | isFalse hne =>
      rw [Agent.pair_setPair_of_ne hne]
      exact ⟨rfl, .inl rfl⟩
  . simp

theorem request (h : Taken k agent) {i : Nat} (hi : i < k) (hroom : (agent.pair i).conncheck < agentConncheckMax)
    (now : BitVec 32) (datagrams : List Datagram)
    : ChecksDone k agent (agent.nominate i now) [⟨i, datagrams⟩] := by
  have hnominated : Taken k ({ agent with nominatedPair := some i } : Agent) := h.congr rfl rfl rfl
  have hlength : i < agent.candidatePairs.length :=
    Nat.lt_of_lt_of_le hi (Nat.le_trans h.le_num h.num_le)
  have hsame := SameSession.setPair ({ agent with nominatedPair := some i } : Agent) i
    (f := fun pair => { pair with conncheck := pair.conncheck + 1, conncheckTimestamp := now }) (fun _ => rfl)
    (fun _ => rfl)
  have hcount : ∀ j, requestCount j [⟨i, datagrams⟩] = if i = j then 1 else 0 := by
    intro j
    simp [requestCount, List.countP_cons]
  constructor
  . apply hnominated.setPair hi
    . exact h.taken i hi
    . exact hroom
    . intro pair
      rfl
    . intro pair
      rfl
  . exact ⟨hsame.remoteUpwd, hsame.remoteCandidates, hsame.num, hsame.length, hsame.remoteAt, hsame.priority⟩
  . rfl
  . intro j _
    rw [hcount]
    cases Nat.decEq i j with
    | isTrue heq =>
      rw [if_pos heq, ← heq, pair_nominate_self hlength]
      exact ⟨rfl, .inl rfl⟩
    | isFalse hne =>
      rw [if_neg hne, pair_nominate_of_ne hne]
      exact ⟨rfl, .inl rfl⟩
  . simp [hi]

end ChecksDone

variable {hmacSha1 : List Byte → List Byte → Option (Vector Byte 20)} {md5 : List Byte → Vector Byte 16}

variable (hmacSha1 md5) in
/-
The first loop of `agent_connectivity_check`.
-/
theorem checkActivePairs_done (input : CheckInput) (h : Taken k agent) {places : List Nat}
    (hplaces : ∀ i ∈ places, i < k)
    : ChecksDone k agent (checkActivePairs hmacSha1 md5 input agent places).1
        (checkActivePairs hmacSha1 md5 input agent places).2.1 := by
  induction places generalizing agent with
  | nil => exact ChecksDone.nothing h
  | cons i places ih =>
    have hi := hplaces i (by simp)
    have hrest : ∀ i ∈ places, i < k := fun i hmem => hplaces i (by simp [hmem])
    unfold checkActivePairs
    split
    . exact ih h hrest
    . next hstate =>
      rw [not_not] at hstate
      dsimp only
      generalize (if (agent.localOf i).type = .relay ∧ !agent.turn.relayReady
        then input.setupRelay i agent.turn else (agent.turn, true)) = setup
      have hturn := ChecksDone.setTurn h setup.1
      split
      . have hfail := ChecksDone.fail hturn.taken hi hstate
        exact (hturn.trans hfail).trans (ih hfail.taken hrest)
      . split
        . have hfail := ChecksDone.fail hturn.taken hi hstate
          exact (hturn.trans hfail).trans (ih hfail.taken hrest)
        . next hexhausted =>
          split
          . next hdue =>
            have hroom : (agent.pair i).conncheck < agentConncheckMax := by
              cases hdue with
              | inl hzero =>
                change (agent.pair i).conncheck = 0 at hzero
                rw [hzero]
                decide
              | inr hdue =>
                apply Nat.lt_of_not_ge
                intro hge
                exact hexhausted ⟨hge, hdue⟩
            have hrequest := ChecksDone.request hturn.taken hi hroom input.now
            exact (hturn.trans (hrequest _)).trans (ih (hrequest []).taken hrest)
          . exact hturn.trans (ih hturn.taken hrest)

end Check

section Recv

variable {hmacSha1 : List Byte → List Byte → Option (Vector Byte 20)} {md5 : List Byte → Vector Byte 16}

/--
What confirms a pair: a binding response under the peer's password that has come from the pair's remote address.
-/
structure Confirmation (hmacSha1 : List Byte → List Byte → Option (Vector Byte 20)) (password : List Byte)
    (addr : Address) (received : Datagram) : Prop where
  valid : stunMsgIsValid hmacSha1 received.bytes password = true
  stunclass : StunClass.ofType (headerType received.bytes) = .response
  stunmethod : stunMethodOfType (headerType received.bytes) = StunMethod.binding.val
  addr_eq : addrEqual addr received.addr = true

def delivered (agent : Agent) (input : RecvInput) : Option Datagram :=
  input.datagram.bind (agentReceived agent input.relayGarbage)

/-
What one call of `agent_recv` does to the pairs.
-/
inductive Received (hmacSha1 : List Byte → List Byte → Option (Vector Byte 20)) (agent : Agent)
    (input : RecvInput) (after : Agent) : Prop where
  | quiet (hpairs : after.candidatePairs = agent.candidatePairs)
      (hnominated : after.nominatedPair = agent.nominatedPair)
  | confirmed (i : Nat) (received : Datagram) (hdelivered : delivered agent input = some received)
      (hconfirmation : Confirmation hmacSha1 agent.remoteUpwd (agent.remoteOf i).addr received)
      (hactive : i ∈ agent.activePairs) (hstate : (agent.pair i).state = .inprogress)
      (hpairs : after.candidatePairs = (agent.setState i .succeeded).candidatePairs)
      (hnominated : after.nominatedPair = agent.nominatedPair
        ∨ (after.nominatedPair = some i ∧ agent.nominatedSucceeded = false))

structure RecvKept (before after : Agent) : Prop where
  remoteUpwd : after.remoteUpwd = before.remoteUpwd
  remoteCandidates : after.remoteCandidates = before.remoteCandidates
  num : after.candidatePairsNum = before.candidatePairsNum
  active : after.activePairs = before.activePairs
  selected : after.selectedPair = before.selectedPair

theorem agentProcessStunRequest_received (agent : Agent) (now : BitVec 32) (send : SendInput) (msg : StunMessage)
    (addr : Address) (input : RecvInput)
    : Received hmacSha1 agent input (agentProcessStunRequest hmacSha1 md5 agent now send msg addr).1
        ∧ RecvKept agent (agentProcessStunRequest hmacSha1 md5 agent now send msg addr).1 := by
  unfold agentProcessStunRequest
  split
  . split
    . dsimp only
      split
      . exact ⟨.quiet rfl rfl, ⟨rfl, rfl, rfl, rfl, rfl⟩⟩
      . exact ⟨.quiet rfl rfl, ⟨rfl, rfl, rfl, rfl, rfl⟩⟩
    . exact ⟨.quiet rfl rfl, ⟨rfl, rfl, rfl, rfl, rfl⟩⟩
  . exact ⟨.quiet rfl rfl, ⟨rfl, rfl, rfl, rfl, rfl⟩⟩

theorem nominatedSucceeded_setState {agent : Agent} (i : Nat) (h : agent.nominatedSucceeded = true)
    : (agent.setState i .succeeded).nominatedSucceeded = true := by
  unfold Agent.nominatedSucceeded at h ⊢
  have hnominated : (agent.setState i .succeeded).nominatedPair = agent.nominatedPair := rfl
  rw [hnominated]
  cases hpair : agent.nominatedPair with
  | none => simp [hpair] at h
  | some nominated =>
    simp only [hpair, decide_eq_true_iff] at h ⊢
    unfold Agent.setState
    cases Nat.decEq i nominated with
    | isFalse hne =>
      rw [Agent.pair_setPair_of_ne hne]
      exact h
    | isTrue heq =>
      cases Nat.lt_or_ge i agent.candidatePairs.length with
      | inl hlt =>
        rw [← heq, Agent.pair_setPair_self hlt]
      | inr hge =>
        have hkept : (agent.setPair i fun pair => { pair with state := .succeeded }).pair nominated
            = agent.pair nominated := by
          unfold Agent.pair Agent.setPair
          rw [List.modify_eq_self hge]
        rw [hkept]
        exact h

theorem agentProcessStunResponse_received {agent : Agent} {now : BitVec 32} {msg : StunMessage} {received : Datagram}
    {input : RecvInput} (hdelivered : delivered agent input = some received) (hbuf : msg.buf = received.bytes)
    (hclass : msg.stunclass = StunClass.ofType (headerType received.bytes))
    (hmethod : msg.stunmethod = stunMethodOfType (headerType received.bytes)) (hresponse : msg.stunclass = .response)
    : Received hmacSha1 agent input (agentProcessStunResponse hmacSha1 agent now msg received.addr)
        ∧ RecvKept agent (agentProcessStunResponse hmacSha1 agent now msg received.addr) := by
  unfold agentProcessStunResponse
  split
  . next hbinding =>
    split
    . next hvalid =>
      rw [hbuf] at hvalid
      dsimp only
      split
      . next i hfind =>
        have hfound := List.find?_some hfind
        rw [Bool.and_eq_true, decide_eq_true_iff] at hfound
        have hconfirmation : Confirmation hmacSha1 agent.remoteUpwd (agent.remoteOf i).addr received := by
          constructor
          . exact hvalid
          . rw [← hclass, hresponse]
          . rw [← hmethod, hbinding]
          . exact hfound.2
        have hactive := List.mem_of_find?_eq_some hfind
        have hconfirmed := fun after =>
          @Received.confirmed hmacSha1 agent input after i received hdelivered hconfirmation hactive hfound.1
        split
        . next hfresh =>
          refine ⟨hconfirmed _ rfl (.inr ⟨rfl, ?_⟩), ⟨rfl, rfl, rfl, rfl, rfl⟩⟩
          cases hbefore : agent.nominatedSucceeded with
          | false => rfl
          | true =>
            rw [nominatedSucceeded_setState i hbefore] at hfresh
            contradiction
        . split
          . exact ⟨hconfirmed _ rfl (.inl rfl), ⟨rfl, rfl, rfl, rfl, rfl⟩⟩
          . exact ⟨hconfirmed _ rfl (.inl rfl), ⟨rfl, rfl, rfl, rfl, rfl⟩⟩
      . split
        . exact ⟨.quiet rfl rfl, ⟨rfl, rfl, rfl, rfl, rfl⟩⟩
        . split
          . exact ⟨.quiet rfl rfl, ⟨rfl, rfl, rfl, rfl, rfl⟩⟩
          . exact ⟨.quiet rfl rfl, ⟨rfl, rfl, rfl, rfl, rfl⟩⟩
    . exact ⟨.quiet rfl rfl, ⟨rfl, rfl, rfl, rfl, rfl⟩⟩
  . exact ⟨.quiet rfl rfl, ⟨rfl, rfl, rfl, rfl, rfl⟩⟩

variable (hmacSha1 md5) in
theorem agentRecv_received (agent : Agent) (input : RecvInput)
    : Received hmacSha1 agent input (agentRecv hmacSha1 md5 agent input).1
        ∧ RecvKept agent (agentRecv hmacSha1 md5 agent input).1 := by
  have hquiet : Received hmacSha1 agent input agent ∧ RecvKept agent agent :=
    ⟨.quiet rfl rfl, ⟨rfl, rfl, rfl, rfl, rfl⟩⟩
  unfold agentRecv
  split
  . exact hquiet
  . next datagram hdatagram =>
    split
    . exact hquiet
    . next received hreceived =>
      have hdelivered : delivered agent input = some received := by
        unfold delivered
        rw [hdatagram]
        exact hreceived
      split
      . split
        . exact hquiet
        . split
          . exact hquiet
          . next msg hparse =>
            have hheader := stunParseMsgBuf_header hparse
            split
            . apply agentProcessStunRequest_received
            . next hresponse =>
              exact agentProcessStunResponse_received hdelivered hheader.1 hheader.2.1 hheader.2.2 hresponse
            . exact hquiet
            . exact hquiet
      . exact hquiet

end Recv

end Peer

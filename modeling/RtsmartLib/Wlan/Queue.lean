import RtsmartLib.Lib.Machine
import RtsmartLib.Wlan.Client

/-!
This module contains what becomes of the messages on the queue of a control device, and the queries that
take a message which is not the reply to them.
-/

namespace Wlan

open Lib Posix

def eventOf (q : Queued) : Option WlanOffloadEvent :=
  match wlanOffloadDecodeEvent q.message with
  | .ok event => some event
  | .error _ => none

/-
The events among queued messages, replies left out.
-/
def eventsOf (queue : List Queued) : List WlanOffloadEvent :=
  queue.filterMap fun q => if q.answers = none then eventOf q else none

inductive WlanOp where
  | arrive (arrivals : List Arrival)
  | get (call : QueryCall)
  | receive (call : ReceiveCall)

inductive WlanObs where
  | none
  | reply (result : Except Int Reply)
  | event (result : Option (Except Int WlanOffloadEvent))

def wlanStep (s : WlanState) (op : WlanOp) : WlanState × WlanObs :=
  match op with
  | .arrive arrivals => (⟨s.nextRequestId, s.kernel.arrive arrivals⟩, .none)
  | .get call =>
    let r := wlanOffloadGet s call
    (r.2, .reply r.1)
  | .receive call =>
    let r := wlanOffloadReceiveEvent s call
    (r.2, .event r.1)

def QueryCall.Written (call : QueryCall) : Prop :=
  wlanOffloadValidateInterface call.iftype = true ∧ call.writeError = none

instance (call : QueryCall) : Decidable call.Written := by
  unfold QueryCall.Written
  infer_instance

def WlanState.taken (s : WlanState) (call : QueryCall) : KernelState :=
  if call.Written then
    s.kernel.take call.kind call.iftype (wlanOffloadNextRequestId s.nextRequestId)
  else
    s.kernel

/-
The messages that the kernel puts on the queue in the course of an operation.
-/
def arrivedIn (s : WlanState) (op : WlanOp) : List Queued :=
  match op with
  | .arrive arrivals => (arrive s.kernel.outstanding arrivals).1
  | .get call => (arrive (s.taken call).outstanding call.arrivals).1
  | .receive call => (arrive s.kernel.outstanding call.arrivals).1

/-
A control device together with the events that the kernel has queued and those that have been received.
-/
structure WlanLedger where
  state : WlanState
  queued : List WlanOffloadEvent
  received : List WlanOffloadEvent

def receivedIn (obs : WlanObs) : List WlanOffloadEvent :=
  match obs with
  | .event (some (.ok event)) => [event]
  | _ => []

def wlanMachine : Machine WlanLedger WlanOp WlanObs :=
  ⟨fun s op =>
    let r := wlanStep s.state op
    (⟨r.1, s.queued ++ eventsOf (arrivedIn s.state op), s.received ++ receivedIn r.2⟩, r.2)⟩

/-
Each event that has been queued has been received once or is still on the queue, in order; nothing but
events is on the queue; each reply is returned by the query that it answers, and a query returns no other.
-/
def QueueFaithful (v : Machine.Visit WlanLedger WlanOp WlanObs) : Prop :=
  let own := v.pre.state.kernel.commands
  let arrived := arrivedIn v.pre.state v.event
  v.post.queued = v.post.received ++ eventsOf v.post.state.kernel.queue
    ∧ (∀ q ∈ v.post.state.kernel.queue, q.answers = none)
    ∧ (∀ q ∈ arrived, q.answers ≠ none → q.answers = some own
      ∧ ∃ call, v.event = .get call ∧ v.obs = .reply (.ok (call.kind.decode q.message.payload)))
    ∧ (∀ reply, v.obs = .reply (.ok reply) → ∃ q ∈ arrived, q.answers = some own
      ∧ ∃ call, v.event = .get call ∧ reply = call.kind.decode q.message.payload)

/-
A query reads a message although its reply is not the first on the queue, or more than one reply comes;
or a reply comes when no query is going to read.
-/
def Misread (v : Machine.Visit WlanLedger WlanOp WlanObs) : Prop :=
  let k := v.pre.state.kernel
  let arrived := arrivedIn v.pre.state v.event
  match v.event with
  | .get call =>
    if call.Written ∧ call.readError = none then
      k.queue ++ arrived ≠ []
        ∧ ¬(k.queue = [] ∧ ∃ first rest, arrived = first :: rest
          ∧ first.answers = some k.commands ∧ ∀ q ∈ rest, q.answers = none)
    else
      ∃ q ∈ arrived, q.answers ≠ none
  | _ => ∃ q ∈ arrived, q.answers ≠ none

structure WlanInv (s : WlanLedger) : Prop where
  events : ∀ q ∈ s.state.kernel.queue, q.answers = none ∧ IsEvent q.message
  accounts : s.queued = s.received ++ eventsOf s.state.kernel.queue
  serials : ∀ c ∈ s.state.kernel.outstanding, c.serial < s.state.kernel.commands

@[simp]
theorem eventsOf_nil : eventsOf [] = [] := rfl

@[simp]
theorem eventsOf_append (a b : List Queued) : eventsOf (a ++ b) = eventsOf a ++ eventsOf b := by
  simp [eventsOf]

theorem eventsOf_cons_event {q : Queued} {event : WlanOffloadEvent} (hanswers : q.answers = none)
    (hevent : wlanOffloadDecodeEvent q.message = .ok event) (queue : List Queued)
    : eventsOf (q :: queue) = event :: eventsOf queue := by
  simp [eventsOf, hanswers, eventOf, hevent]

theorem eventsOf_cons_reply {q : Queued} (hanswers : q.answers ≠ none) (queue : List Queued)
    : eventsOf (q :: queue) = eventsOf queue := by
  simp [eventsOf, hanswers]

theorem arrive_queued {outstanding : List Command} {arrivals : List Arrival} {q : Queued}
    (h : q ∈ (arrive outstanding arrivals).1)
    : (q.answers = none ∧ IsEvent q.message)
        ∨ ∃ c ∈ outstanding, q.answers = some c.serial
          ∧ ∃ payload, payload.length = c.kind.replySize ∧ q.message = replyMessage c payload := by
  induction arrivals generalizing outstanding with
  | nil => cases h
  | cons arrival arrivals ih =>
    cases arrival with
    | event event =>
      simp only [arrive, List.mem_cons] at h
      cases h with
      | inl h =>
        left
        rw [h]
        exact ⟨rfl, event.property⟩
      | inr h => exact ih h
    | reply index payload =>
      unfold arrive at h
      cases hcommand : outstanding[index]? with
      | none =>
        rw [hcommand] at h
        exact ih h
      | some command =>
        rw [hcommand] at h
        simp only [List.mem_cons] at h
        cases h with
        | inl h =>
          right
          rw [h]
          exact ⟨command, List.mem_of_getElem? hcommand, rfl, _, (payload command.kind).property, rfl⟩
        | inr h =>
          cases ih h with
          | inl h => exact Or.inl h
          | inr h =>
            obtain ⟨c, hc, hrest⟩ := h
            exact Or.inr ⟨c, List.mem_of_mem_eraseIdx hc, hrest⟩

theorem arrive_outstanding {outstanding : List Command} {arrivals : List Arrival} {c : Command}
    (h : c ∈ (arrive outstanding arrivals).2)
    : c ∈ outstanding := by
  induction arrivals generalizing outstanding with
  | nil => exact h
  | cons arrival arrivals ih =>
    cases arrival with
    | event event => exact ih h
    | reply index payload =>
      unfold arrive at h
      cases hcommand : outstanding[index]? with
      | none =>
        rw [hcommand] at h
        exact ih h
      | some command =>
        rw [hcommand] at h
        exact List.mem_of_mem_eraseIdx (ih h)

theorem messageAccepted_replyMessage {c : Command} {payload : List Byte}
    (hpayload : payload.length = c.kind.replySize)
    (hiftype : wlanOffloadValidateInterface c.iftype = true)
    : messageAccepted (replyMessage c payload) = true := by
  have hsize : payload.length ≤ 76 := by
    rw [hpayload]
    cases c.kind <;> decide
  have hlength : (BitVec.ofNat 32 (headerSize + payload.length)).toNat = headerSize + payload.length := by
    rw [BitVec.toNat_ofNat]
    unfold headerSize
    omega
  have hfits : headerSize + payload.length ≤ rtwoCtrlMaxMessageSize := by
    unfold headerSize rtwoCtrlMaxMessageSize
    omega
  have hinterface : c.iftype ≤ interfaceAp := by
    simp only [wlanOffloadValidateInterface, Bool.or_eq_true, beq_iff_eq] at hiftype
    cases hiftype with
    | inl h =>
      rw [h]
      decide
    | inr h =>
      rw [h]
      exact BitVec.le_refl _
  simp [messageAccepted, replyMessage, Message.length, hlength, hfits, hinterface]

section

variable {s : WlanLedger} (hs : WlanInv s) {op : WlanOp}

theorem arrivedIn_event {s : WlanLedger} {q : Queued} (hq : q ∈ arrivedIn s.state op) (hanswers : q.answers = none)
    : IsEvent q.message := by
  have hcases : ∃ outstanding arrivals, q ∈ (arrive outstanding arrivals).1 := by
    cases op with
    | arrive arrivals => exact ⟨_, _, hq⟩
    | get call => exact ⟨_, _, hq⟩
    | receive call => exact ⟨_, _, hq⟩
  obtain ⟨outstanding, arrivals, hq⟩ := hcases
  cases arrive_queued hq with
  | inl h => exact h.2
  | inr h =>
    obtain ⟨c, _, hc, _⟩ := h
    rw [hanswers] at hc
    cases hc

/-
The commands that are open after an operation have been taken before the next one is.
-/
include hs in
theorem outstanding_lt
    : ∀ c ∈ (wlanStep s.state op).1.kernel.outstanding,
        c.serial < (wlanStep s.state op).1.kernel.commands := by
  have hread : ∀ k timeoutMs failure, (wlanOffloadReadMessage k timeoutMs failure).2.outstanding
        = k.outstanding
      ∧ (wlanOffloadReadMessage k timeoutMs failure).2.commands = k.commands := by
    intro k timeoutMs failure
    unfold wlanOffloadReadMessage
    split
    . exact ⟨rfl, rfl⟩
    . split
      . exact ⟨rfl, rfl⟩
      . split <;> exact ⟨rfl, rfl⟩
  have harrive : ∀ (k : KernelState) arrivals, (∀ c ∈ k.outstanding, c.serial < k.commands) →
      ∀ c ∈ (k.arrive arrivals).outstanding, c.serial < (k.arrive arrivals).commands := by
    intro k arrivals h c hc
    exact h c (arrive_outstanding hc)
  cases op with
  | arrive arrivals => exact harrive _ _ hs.serials
  | receive call =>
    have hopen := harrive _ call.arrivals hs.serials
    obtain ⟨houtstanding, hcommands⟩ :=
      hread (s.state.kernel.arrive call.arrivals) call.timeoutMs call.readError
    have hkernel : (wlanStep s.state (.receive call)).1.kernel
        = (wlanOffloadReadMessage (s.state.kernel.arrive call.arrivals) call.timeoutMs
            call.readError).2 := by
      unfold wlanStep wlanOffloadReceiveEvent
      dsimp only
      split <;> rfl
    rw [hkernel, houtstanding, hcommands]
    exact hopen
  | get call =>
    unfold wlanStep wlanOffloadGet
    dsimp only
    split
    . split
      . exact harrive _ _ hs.serials
      . have htaken : ∀ c ∈ (s.state.kernel.take call.kind call.iftype
              (wlanOffloadNextRequestId s.state.nextRequestId)).outstanding,
            c.serial < (s.state.kernel.take call.kind call.iftype
              (wlanOffloadNextRequestId s.state.nextRequestId)).commands := by
          intro c hc
          simp only [KernelState.take, List.mem_append, List.mem_singleton] at hc ⊢
          cases hc with
          | inl h =>
            have := hs.serials c h
            omega
          | inr h =>
            rw [h]
            exact Nat.lt_succ_self _
        have hopen := harrive _ call.arrivals htaken
        obtain ⟨houtstanding, hcommands⟩ := hread ((s.state.kernel.take call.kind call.iftype
          (wlanOffloadNextRequestId s.state.nextRequestId)).arrive call.arrivals) 1000 call.readError
        split <;> try split
        all_goals
          rw [houtstanding, hcommands]
          exact hopen
    . exact harrive _ _ hs.serials

theorem visit_post_queued (s : WlanLedger) (op : WlanOp)
    : (wlanMachine.visit s op).post.queued = s.queued ++ eventsOf (arrivedIn s.state op) := rfl

theorem visit_post_received (s : WlanLedger) (op : WlanOp)
    : (wlanMachine.visit s op).post.received
        = s.received ++ receivedIn (wlanStep s.state op).2 := rfl

theorem visit_post_state (s : WlanLedger) (op : WlanOp)
    : (wlanMachine.visit s op).post.state = (wlanStep s.state op).1 := rfl

theorem visit_result (s : WlanLedger) (op : WlanOp)
    : (wlanMachine.visit s op).obs = (wlanStep s.state op).2 := rfl

/-
An operation that reads nothing.
-/
include hs in
theorem queueFaithful_of_appended
    (hqueue : (wlanStep s.state op).1.kernel.queue = s.state.kernel.queue ++ arrivedIn s.state op)
    (hreceived : receivedIn (wlanStep s.state op).2 = [])
    (hobs : ∀ reply, (wlanStep s.state op).2 ≠ .reply (.ok reply))
    : let v := wlanMachine.visit s op
      ((∀ q ∈ arrivedIn s.state op, q.answers = none) → WlanInv v.post)
        ∧ (QueueFaithful v ↔ ∀ q ∈ arrivedIn s.state op, q.answers = none) := by
  have haccounts : (wlanMachine.visit s op).post.queued
      = (wlanMachine.visit s op).post.received
        ++ eventsOf (wlanMachine.visit s op).post.state.kernel.queue := by
    rw [visit_post_queued, visit_post_received, visit_post_state, hqueue, hreceived, hs.accounts]
    simp
  constructor
  . intro hnone
    constructor
    . intro q hq
      rw [visit_post_state, hqueue, List.mem_append] at hq
      cases hq with
      | inl h => exact hs.events q h
      | inr h => exact ⟨hnone q h, arrivedIn_event h (hnone q h)⟩
    . exact haccounts
    . exact outstanding_lt hs
  . constructor
    . intro hgood q hq
      apply hgood.2.1
      rw [visit_post_state, hqueue]
      apply List.mem_append_right _ hq
    . intro hnone
      constructor
      . exact haccounts
      constructor
      . intro q hq
        rw [visit_post_state, hqueue, List.mem_append] at hq
        cases hq with
        | inl h => exact (hs.events q h).1
        | inr h => exact hnone q h
      constructor
      . intro q hq hanswers
        exact absurd (hnone q hq) hanswers
      . intro reply hreply
        exact absurd hreply (hobs reply)

/-
No operation but a query may see a reply.
-/
theorem not_queueFaithful_of_reply {s : WlanLedger} (hop : ∀ call, op ≠ .get call) {q : Queued}
    (hq : q ∈ arrivedIn s.state op) (hanswers : q.answers ≠ none)
    : ¬QueueFaithful (wlanMachine.visit s op) := by
  intro hgood
  obtain ⟨_, call, hcall, _⟩ := hgood.2.2.1 q hq hanswers
  exact hop call hcall

theorem wlanOffloadReadMessage_first {k : KernelState} {timeoutMs : Int} (htimeout : -1 ≤ timeoutMs)
    {first : Queued} {rest : List Queued} (hqueue : k.queue = first :: rest)
    : wlanOffloadReadMessage k timeoutMs none
        = (some (if messageAccepted first.message then .ok first else .error (-eproto)),
            { k with queue := rest }) := by
  unfold wlanOffloadReadMessage
  rw [if_neg (Int.not_lt.mpr htimeout), hqueue]

/-
Nothing is taken from the queue unless there is a message and the poll and the read go through.
-/
theorem wlanOffloadReadMessage_unread {k : KernelState} {timeoutMs : Int} {failure : Option Errno}
    (h : timeoutMs < -1 ∨ failure ≠ none ∨ k.queue = [])
    : (wlanOffloadReadMessage k timeoutMs failure).2 = k
        ∧ ∀ q, (wlanOffloadReadMessage k timeoutMs failure).1 ≠ some (.ok q) := by
  unfold wlanOffloadReadMessage
  split
  . exact ⟨rfl, fun q h => nomatch h⟩
  next htimeout =>
    split
    . exact ⟨rfl, fun q h => nomatch h⟩
    next hnone =>
      rw [(h.resolve_left htimeout).resolve_left (fun h => h rfl)]
      constructor
      . rfl
      . intro q
        dsimp only
        split <;> exact fun h => nomatch h

theorem wlanStep_receive {s : WlanState} {call : ReceiveCall} {message : Option (Except Int Queued)}
    {k : KernelState}
    (h : wlanOffloadReadMessage (s.kernel.arrive call.arrivals) call.timeoutMs call.readError
      = (message, k))
    : wlanStep s (.receive call)
        = (⟨s.nextRequestId, k⟩, .event (message.map fun result =>
            match result with
            | .error ret => .error ret
            | .ok first => wlanOffloadDecodeEvent first.message)) := by
  unfold wlanStep wlanOffloadReceiveEvent
  dsimp only
  rw [h]
  cases message with
  | none => rfl
  | some result => cases result <;> rfl

/-
Where the queue holds events only, the first of them is returned.
-/
include hs in
theorem receive_faithful {call : ReceiveCall} (htimeout : -1 ≤ call.timeoutMs)
    (hread : call.readError = none)
    (hsome : (s.state.kernel.arrive call.arrivals).queue ≠ [])
    (hnone : ∀ q ∈ arrivedIn s.state (.receive call), q.answers = none)
    : WlanInv (wlanMachine.visit s (.receive call)).post
        ∧ QueueFaithful (wlanMachine.visit s (.receive call)) := by
  have harrived : (s.state.kernel.arrive call.arrivals).queue
      = s.state.kernel.queue ++ arrivedIn s.state (.receive call) := rfl
  have hevents : ∀ q ∈ (s.state.kernel.arrive call.arrivals).queue,
      q.answers = none ∧ IsEvent q.message := by
    intro q hq
    rw [harrived, List.mem_append] at hq
    cases hq with
    | inl h => exact hs.events q h
    | inr h => exact ⟨hnone q h, arrivedIn_event h (hnone q h)⟩
  cases hfirst : (s.state.kernel.arrive call.arrivals).queue with
  | nil => contradiction
  | cons first rest =>
    rw [hfirst] at hevents
    obtain ⟨hanswers, haccepted, event, hevent⟩ := hevents first (List.mem_cons_self ..)
    have hstep : (wlanStep s.state (.receive call)).1.kernel.queue = rest
        ∧ (wlanStep s.state (.receive call)).2 = .event (some (.ok event)) := by
      have hmessage := wlanOffloadReadMessage_first htimeout hfirst
      rw [← hread] at hmessage
      rw [wlanStep_receive hmessage]
      simp [haccepted, hevent]
    have haccounts : (wlanMachine.visit s (.receive call)).post.queued
        = (wlanMachine.visit s (.receive call)).post.received
          ++ eventsOf (wlanMachine.visit s (.receive call)).post.state.kernel.queue := by
      rw [visit_post_queued, visit_post_received, visit_post_state, hstep.1, hstep.2, hs.accounts]
      rw [List.append_assoc, ← eventsOf_append, ← harrived, hfirst,
        eventsOf_cons_event hanswers hevent]
      simp [receivedIn]
    have hrest : ∀ q ∈ (wlanMachine.visit s (.receive call)).post.state.kernel.queue,
        q.answers = none ∧ IsEvent q.message := by
      intro q hq
      rw [visit_post_state, hstep.1] at hq
      exact hevents q (List.mem_cons_of_mem _ hq)
    constructor
    . exact ⟨hrest, haccounts, outstanding_lt hs⟩
    . constructor
      . exact haccounts
      constructor
      . exact fun q hq => (hrest q hq).1
      constructor
      . intro q hq hanswers
        exact absurd (hnone q hq) hanswers
      . intro reply hreply
        rw [visit_result, hstep.2] at hreply
        cases hreply

include hs in
theorem receive_iff (call : ReceiveCall)
    : let v := wlanMachine.visit s (.receive call)
      ((∀ q ∈ arrivedIn s.state (.receive call), q.answers = none) → WlanInv v.post)
        ∧ (QueueFaithful v ↔ ∀ q ∈ arrivedIn s.state (.receive call), q.answers = none) := by
  have harrived : (s.state.kernel.arrive call.arrivals).queue
      = s.state.kernel.queue ++ arrivedIn s.state (.receive call) := rfl
  by_cases hreads : call.timeoutMs < -1 ∨ call.readError ≠ none
      ∨ (s.state.kernel.arrive call.arrivals).queue = []
  . -- nothing is read
    have hunread := wlanOffloadReadMessage_unread hreads
    cases hread : wlanOffloadReadMessage (s.state.kernel.arrive call.arrivals) call.timeoutMs
      call.readError with
    | mk message k =>
    rw [hread] at hunread
    obtain ⟨hk, hmessage⟩ := hunread
    have hstep := wlanStep_receive hread
    have hreceived : receivedIn (wlanStep s.state (.receive call)).2 = [] := by
      rw [hstep]
      cases message with
      | none => rfl
      | some result =>
        cases result with
        | error ret => rfl
        | ok first => exact absurd rfl (hmessage first)
    apply queueFaithful_of_appended hs
    . rw [hstep]
      dsimp only at hk ⊢
      rw [hk, harrived]
    . exact hreceived
    . rw [hstep]
      exact fun reply h => nomatch h
  . simp only [not_or, not_not, Int.not_lt] at hreads
    obtain ⟨htimeout, hfailure, hqueue⟩ := hreads
    by_cases hnone : ∀ q ∈ arrivedIn s.state (.receive call), q.answers = none
    . obtain ⟨hinv, hgood⟩ := receive_faithful hs htimeout hfailure hqueue hnone
      exact ⟨fun _ => hinv, fun _ => hnone, fun _ => hgood⟩
    . -- a reply has arrived that no query waits for
      constructor
      . intro h
        contradiction
      . constructor
        . intro hgood
          simp only [not_forall] at hnone
          obtain ⟨q, hq, hanswers⟩ := hnone
          exact absurd hgood (not_queueFaithful_of_reply (fun call h => nomatch h) hq hanswers)
        . intro h
          contradiction

theorem wlanStep_get_refused {s : WlanState} {call : QueryCall} (h : ¬call.Written)
    : (wlanStep s (.get call)).1.kernel = s.kernel.arrive call.arrivals
        ∧ ∃ ret, (wlanStep s (.get call)).2 = .reply (.error ret) := by
  unfold wlanStep wlanOffloadGet
  dsimp only
  by_cases hiftype : wlanOffloadValidateInterface call.iftype = true
  . cases hwrite : call.writeError with
    | none => exact absurd ⟨hiftype, hwrite⟩ h
    | some errno =>
      rw [if_pos hiftype]
      exact ⟨rfl, _, rfl⟩
  . rw [if_neg hiftype]
    exact ⟨rfl, _, rfl⟩

theorem wlanStep_get_written {s : WlanState} {call : QueryCall} (h : call.Written)
    {message : Option (Except Int Queued)} {k : KernelState}
    (hread : wlanOffloadReadMessage ((s.taken call).arrive call.arrivals) 1000 call.readError
      = (message, k))
    : (wlanStep s (.get call)).1.kernel = k
        ∧ (wlanStep s (.get call)).2 = .reply (match message with
          | none => .error (-etimedout)
          | some (.error ret) => .error ret
          | some (.ok first) =>
            if first.message.header.type ≠ call.kind.replyType
                ∨ first.message.header.requestId ≠ wlanOffloadNextRequestId s.nextRequestId
                ∨ first.message.header.status ≠ 0#32
                ∨ first.message.length ≠ headerSize + call.kind.replySize then
              .error (-eproto)
            else
              .ok (call.kind.decode first.message.payload)) := by
  have htaken : s.taken call = s.kernel.take call.kind call.iftype
      (wlanOffloadNextRequestId s.nextRequestId) := by
    unfold WlanState.taken
    rw [if_pos h]
  rw [htaken] at hread
  unfold wlanStep wlanOffloadGet
  dsimp only
  rw [if_pos h.1, h.2]
  dsimp only
  rw [hread]
  dsimp only
  cases message with
  | none => exact ⟨rfl, rfl⟩
  | some result =>
    cases result with
    | error ret => exact ⟨rfl, rfl⟩
    | ok first =>
      dsimp only
      split <;> exact ⟨rfl, rfl⟩

theorem taken_arrive_queue (s : WlanState) (call : QueryCall)
    : ((s.taken call).arrive call.arrivals).queue = s.kernel.queue ++ arrivedIn s (.get call) := by
  have hqueue : (s.taken call).queue = s.kernel.queue := by
    unfold WlanState.taken
    split <;> rfl
  unfold KernelState.arrive
  rw [hqueue]
  rfl

theorem wlanStep_get_unread {s : WlanState} {call : QueryCall}
    (h : ¬(call.Written ∧ call.readError = none)
      ∨ s.kernel.queue ++ arrivedIn s (.get call) = [])
    : (wlanStep s (.get call)).1.kernel.queue = s.kernel.queue ++ arrivedIn s (.get call)
        ∧ ∃ ret, (wlanStep s (.get call)).2 = .reply (.error ret) := by
  by_cases hwritten : call.Written
  . have hunread : (1000 : Int) < -1 ∨ call.readError ≠ none
        ∨ ((s.taken call).arrive call.arrivals).queue = [] := by
      rw [taken_arrive_queue]
      cases h with
      | inl h => exact Or.inr (Or.inl fun hnone => h ⟨hwritten, hnone⟩)
      | inr h => exact Or.inr (Or.inr h)
    have hread := wlanOffloadReadMessage_unread hunread
    cases hresult : wlanOffloadReadMessage ((s.taken call).arrive call.arrivals) 1000
      call.readError with
    | mk message k =>
    rw [hresult] at hread
    obtain ⟨hk, hmessage⟩ := hread
    obtain ⟨hkernel, hobs⟩ := wlanStep_get_written hwritten hresult
    constructor
    . dsimp only at hk
      rw [hkernel, hk, taken_arrive_queue]
    . rw [hobs]
      cases message with
      | none => exact ⟨_, rfl⟩
      | some result =>
        cases result with
        | error ret => exact ⟨_, rfl⟩
        | ok first => exact absurd rfl (hmessage first)
  . obtain ⟨hkernel, hobs⟩ := wlanStep_get_refused (s := s) hwritten
    constructor
    . rw [hkernel, ← taken_arrive_queue]
      unfold WlanState.taken
      rw [if_neg hwritten]
    . exact hobs

/-
A query that finds an event in front fails, and the event is gone.
-/
include hs in
theorem not_queueFaithful_of_event {call : QueryCall} (hwritten : call.Written)
    (hread : call.readError = none) {first : Queued} {rest : List Queued}
    (hqueue : s.state.kernel.queue ++ arrivedIn s.state (.get call) = first :: rest)
    (hanswers : first.answers = none) (hevent : IsEvent first.message)
    : ¬QueueFaithful (wlanMachine.visit s (.get call)) := by
  intro hgood
  obtain ⟨_, event, hdecode⟩ := hevent
  have hfirst := @wlanOffloadReadMessage_first ((s.state.taken call).arrive call.arrivals) 1000
    (by decide) first rest (by rw [taken_arrive_queue, hqueue])
  rw [← hread] at hfirst
  obtain ⟨hkernel, hobs⟩ := wlanStep_get_written hwritten hfirst
  have haccounts := hgood.1
  rw [visit_post_queued, visit_post_received, visit_post_state, hkernel, hs.accounts,
    List.append_assoc, ← eventsOf_append, hqueue, eventsOf_cons_event hanswers hdecode, hobs] at haccounts
  have hlength := congrArg List.length haccounts
  simp [receivedIn] at hlength

/-
A message that answers the command of the query in this step is its reply.
-/
include hs in
theorem own_reply {call : QueryCall} (hwritten : call.Written) {first : Queued}
    (hmem : first ∈ arrivedIn s.state (.get call))
    (hown : first.answers = some s.state.kernel.commands)
    : ∃ payload, payload.length = call.kind.replySize ∧ first.message
        = replyMessage ⟨s.state.kernel.commands, call.kind, call.iftype,
            wlanOffloadNextRequestId s.state.nextRequestId⟩ payload := by
  have htaken : s.state.taken call = s.state.kernel.take call.kind call.iftype
      (wlanOffloadNextRequestId s.state.nextRequestId) := by
    unfold WlanState.taken
    rw [if_pos hwritten]
  have hmem : first ∈ (arrive (s.state.taken call).outstanding call.arrivals).1 := hmem
  cases arrive_queued hmem with
  | inl h =>
    rw [h.1] at hown
    cases hown
  | inr h =>
    obtain ⟨c, hc, hserial, payload, hpayload, hmessage⟩ := h
    rw [hown] at hserial
    have hserial := Option.some.inj hserial
    rw [htaken] at hc
    simp only [KernelState.take, List.mem_append, List.mem_singleton] at hc
    cases hc with
    | inl h =>
      have := hs.serials c h
      omega
    | inr h =>
      rw [h] at hpayload hmessage
      exact ⟨payload, hpayload, hmessage⟩

include hs in
theorem queueFaithful_of_own {call : QueryCall} (hwritten : call.Written)
    (hread : call.readError = none) (hempty : s.state.kernel.queue = []) {first : Queued}
    {rest : List Queued} (harrived : arrivedIn s.state (.get call) = first :: rest)
    (hown : first.answers = some s.state.kernel.commands) (hrest : ∀ q ∈ rest, q.answers = none)
    : WlanInv (wlanMachine.visit s (.get call)).post
        ∧ QueueFaithful (wlanMachine.visit s (.get call)) := by
  have hqueue : ((s.state.taken call).arrive call.arrivals).queue = first :: rest := by
    rw [taken_arrive_queue, hempty, harrived]
    rfl
  have hmem : first ∈ arrivedIn s.state (.get call) := by
    rw [harrived]
    apply List.mem_cons_self
  obtain ⟨payload, hpayload, hmessage⟩ := own_reply hs hwritten hmem hown
  have hfirst := wlanOffloadReadMessage_first (show (-1 : Int) ≤ 1000 by decide) hqueue
  rw [← hread, hmessage, messageAccepted_replyMessage hpayload hwritten.1] at hfirst
  obtain ⟨hkernel, hobs⟩ := wlanStep_get_written hwritten hfirst
  have hok : (wlanStep s.state (.get call)).2 = .reply (.ok (call.kind.decode first.message.payload)) := by
    rw [hobs]
    simp [hmessage, replyMessage, Message.length, hpayload]
  have haccounts : (wlanMachine.visit s (.get call)).post.queued
      = (wlanMachine.visit s (.get call)).post.received
        ++ eventsOf (wlanMachine.visit s (.get call)).post.state.kernel.queue := by
    have hanswers : first.answers ≠ none := by
      rw [hown]
      exact fun h => nomatch h
    rw [visit_post_queued, visit_post_received, visit_post_state, hkernel, hok, hs.accounts, hempty,
      harrived, eventsOf_cons_reply hanswers]
    simp [receivedIn]
  have hevents : ∀ q ∈ rest, q.answers = none ∧ IsEvent q.message := by
    intro q hq
    constructor
    . exact hrest q hq
    . have hmem : q ∈ arrivedIn s.state (.get call) := by
        rw [harrived]
        apply List.mem_cons_of_mem _ hq
      apply arrivedIn_event hmem (hrest q hq)
  constructor
  . constructor
    . rw [visit_post_state, hkernel]
      exact hevents
    . exact haccounts
    . exact outstanding_lt hs
  . constructor
    . exact haccounts
    constructor
    . rw [visit_post_state, hkernel]
      exact hrest
    constructor
    . intro q hq hanswers
      rw [Machine.visit_pre, Machine.visit_event, harrived, List.mem_cons] at hq
      cases hq with
      | inl h =>
        rw [h]
        exact ⟨hown, call, rfl, hok⟩
      | inr h => exact absurd (hrest q h) hanswers
    . intro reply hreply
      rw [visit_result, hok] at hreply
      cases hreply
      refine ⟨first, ?_, hown, call, rfl, rfl⟩
      rw [Machine.visit_pre, Machine.visit_event, harrived]
      apply List.mem_cons_self

/-
Each reply of the step is the own one, and it is returned, so that it is read first.
-/
include hs in
theorem own_of_queueFaithful {call : QueryCall} (hwritten : call.Written)
    (hread : call.readError = none)
    (hsome : s.state.kernel.queue ++ arrivedIn s.state (.get call) ≠ [])
    (hgood : QueueFaithful (wlanMachine.visit s (.get call)))
    : s.state.kernel.queue = [] ∧ ∃ first rest, arrivedIn s.state (.get call) = first :: rest
        ∧ first.answers = some s.state.kernel.commands ∧ ∀ q ∈ rest, q.answers = none := by
  cases hall : s.state.kernel.queue ++ arrivedIn s.state (.get call) with
  | nil => contradiction
  | cons first rest =>
    have hmem : first ∈ s.state.kernel.queue ++ arrivedIn s.state (.get call) := by
      rw [hall]
      apply List.mem_cons_self
    rw [List.mem_append] at hmem
    by_cases hanswers : first.answers = none
    . have hevent : IsEvent first.message := by
        cases hmem with
        | inl h => exact (hs.events first h).2
        | inr h => exact arrivedIn_event h hanswers
      exact absurd hgood (not_queueFaithful_of_event hs hwritten hread hall hanswers hevent)
    . have hnil : s.state.kernel.queue = [] := by
        cases hqueue : s.state.kernel.queue with
        | nil => rfl
        | cons head tail =>
          rw [hqueue, List.cons_append] at hall
          cases hall
          have hhead := (hs.events first (by rw [hqueue]; apply List.mem_cons_self)).1
          contradiction
      have harrived : arrivedIn s.state (.get call) = first :: rest := by
        rw [hnil] at hall
        exact hall
      have hfirst : first ∈ arrivedIn s.state (.get call) := by
        rw [harrived]
        apply List.mem_cons_self
      refine ⟨hnil, first, rest, harrived, (hgood.2.2.1 first hfirst hanswers).1, ?_⟩
      have hmessage := wlanOffloadReadMessage_first (show (-1 : Int) ≤ 1000 by decide)
        ((taken_arrive_queue s.state call).trans hall)
      rw [← hread] at hmessage
      have hpost := hgood.2.1
      rw [visit_post_state, (wlanStep_get_written hwritten hmessage).1] at hpost
      exact hpost

include hs in
theorem get_iff (call : QueryCall)
    : let v := wlanMachine.visit s (.get call)
      (¬Misread v → WlanInv v.post) ∧ (QueueFaithful v ↔ ¬Misread v) := by
  by_cases hreads : call.Written ∧ call.readError = none
  . have hmisread : Misread (wlanMachine.visit s (.get call))
        ↔ s.state.kernel.queue ++ arrivedIn s.state (.get call) ≠ []
          ∧ ¬(s.state.kernel.queue = [] ∧ ∃ first rest, arrivedIn s.state (.get call) = first :: rest
            ∧ first.answers = some s.state.kernel.commands ∧ ∀ q ∈ rest, q.answers = none) := by
      unfold Misread
      dsimp only [Machine.visit_pre, Machine.visit_event]
      rw [if_pos hreads]
    dsimp only
    rw [hmisread]
    by_cases hempty : s.state.kernel.queue ++ arrivedIn s.state (.get call) = []
    . -- the query runs into its timeout
      obtain ⟨hqueue, ret, hobs⟩ := wlanStep_get_unread (Or.inr hempty)
      have hnone : ∀ q ∈ arrivedIn s.state (.get call), q.answers = none := by
        rw [(List.append_eq_nil_iff.mp hempty).2]
        exact fun q h => nomatch h
      obtain ⟨hinv, hgood⟩ := queueFaithful_of_appended hs hqueue (by rw [hobs]; rfl)
        (by rw [hobs]; exact fun reply h => nomatch h)
      constructor
      . exact fun _ => hinv hnone
      . constructor
        . exact fun _ h => h.1 hempty
        . exact fun _ => hgood.mpr hnone
    . by_cases hown : s.state.kernel.queue = [] ∧ ∃ first rest,
          arrivedIn s.state (.get call) = first :: rest
          ∧ first.answers = some s.state.kernel.commands ∧ ∀ q ∈ rest, q.answers = none
      . -- the own reply is the first message that is read
        obtain ⟨hqueue, first, rest, harrived, hfirst, hrest⟩ := hown
        obtain ⟨hinv, hgood⟩ :=
          queueFaithful_of_own hs hreads.1 hreads.2 hqueue harrived hfirst hrest
        constructor
        . exact fun _ => hinv
        . constructor
          . exact fun _ h => h.2 ⟨hqueue, first, rest, harrived, hfirst, hrest⟩
          . exact fun _ => hgood
      . constructor
        . exact fun h => absurd ⟨hempty, hown⟩ h
        . constructor
          . intro hgood
            exact absurd (own_of_queueFaithful hs hreads.1 hreads.2 hempty hgood) hown
          . exact fun h => absurd ⟨hempty, hown⟩ h
  . -- the query fails before it reads, so that whatever has arrived stays in the queue
    obtain ⟨hqueue, ret, hobs⟩ := wlanStep_get_unread (s := s.state) (Or.inl hreads)
    obtain ⟨hinv, hgood⟩ := queueFaithful_of_appended hs hqueue (by rw [hobs]; rfl)
      (by rw [hobs]; exact fun reply h => nomatch h)
    have hmisread : Misread (wlanMachine.visit s (.get call))
        ↔ ∃ q ∈ arrivedIn s.state (.get call), q.answers ≠ none := by
      unfold Misread
      dsimp only [Machine.visit_pre, Machine.visit_event]
      rw [if_neg hreads]
    dsimp only
    rw [hmisread, hgood]
    simp only [not_exists, not_and, not_not]
    exact ⟨hinv, trivial⟩

end

theorem wlanMachine_visit_iff {s : WlanLedger} (hs : WlanInv s) (op : WlanOp)
    : let v := wlanMachine.visit s op
      (¬Misread v → WlanInv v.post) ∧ (QueueFaithful v ↔ ¬Misread v) := by
  have of_none : (∀ call, op ≠ .get call) →
      ((∀ q ∈ arrivedIn s.state op, q.answers = none) → WlanInv (wlanMachine.visit s op).post)
        ∧ (QueueFaithful (wlanMachine.visit s op)
          ↔ ∀ q ∈ arrivedIn s.state op, q.answers = none) →
      (¬Misread (wlanMachine.visit s op) → WlanInv (wlanMachine.visit s op).post)
        ∧ (QueueFaithful (wlanMachine.visit s op) ↔ ¬Misread (wlanMachine.visit s op)) := by
    intro hop h
    have hmisread : Misread (wlanMachine.visit s op)
        ↔ ∃ q ∈ arrivedIn s.state op, q.answers ≠ none := by
      cases op with
      | get call => exact absurd rfl (hop call)
      | arrive arrivals => rfl
      | receive call => rfl
    rw [hmisread, h.2]
    simp only [not_exists, not_and, not_not]
    exact ⟨h.1, trivial⟩
  cases op with
  | arrive arrivals =>
    apply of_none (fun call h => nomatch h)
    apply queueFaithful_of_appended hs
    . rfl
    . rfl
    . exact fun reply h => nomatch h
  | receive call =>
    apply of_none (fun call h => nomatch h)
    apply receive_iff hs
  | get call => apply get_iff hs

def WlanLedger.opened : WlanLedger := ⟨⟨0#32, ⟨[], [], 0⟩⟩, [], []⟩

theorem WlanInv.opened : WlanInv WlanLedger.opened where
  events := fun _ h => nomatch h
  accounts := rfl
  serials := fun _ h => nomatch h

/-
From the opening of the device on, replies and events reach the calls that they are meant for exactly if
no operation misreads the queue.
-/
theorem queueFaithful_iff (ops : List WlanOp)
    : (∀ v ∈ wlanMachine.visits .opened ops, QueueFaithful v)
        ↔ ∀ v ∈ wlanMachine.visits .opened ops, ¬Misread v := by
  apply Machine.forall_visits_iff WlanInv
  . intro s op hs
    apply (wlanMachine_visit_iff hs op).1
  . intro s op hs
    apply (wlanMachine_visit_iff hs op).2
  . exact WlanInv.opened

def scanDone : Message :=
  ⟨⟨rtwoCtrlVersion, eventScanDone, 20#32, 0#32, 0#32, interfaceStation, 0#8, 0#16⟩, []⟩

theorem scanDone_isEvent : IsEvent scanDone := by
  constructor
  . decide
  . exact ⟨_, rfl⟩

def zeroReply (kind : QueryKind) : { p : List Byte // p.length = kind.replySize } :=
  ⟨List.replicate kind.replySize 0#8, List.length_replicate⟩

/-
The end of a scan is reported between the command of `wlan_offload_get_info` and the reply: the query
fails, the event is gone, and the reception of an event meets the reply.
-/
def racingOps : List WlanOp := [
  .get ⟨.info, interfaceStation, none, [.event ⟨scanDone, scanDone_isEvent⟩, .reply 0 zeroReply], none⟩,
  .receive ⟨0, [], none⟩
]

theorem racingOps_not_faithful
    : (∃ v ∈ wlanMachine.visits .opened racingOps, v.obs = .reply (.error (-eproto))
          ∧ ¬QueueFaithful v)
        ∧ ∃ v ∈ wlanMachine.visits .opened racingOps,
          v.obs = .event (some (.error (-enomsg))) ∧ v.post.received = [] := by
  constructor
  . refine ⟨_, .head _, rfl, ?_⟩
    intro h
    exact absurd h.1 (by decide +kernel)
  . exact ⟨_, .tail _ (.head _), rfl, rfl⟩

end Wlan

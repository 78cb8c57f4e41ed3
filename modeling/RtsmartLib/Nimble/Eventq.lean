import Mathlib.Data.List.Nodup
import RtsmartLib.Nimble.Callout

/-!
This module contains the event queue of the NimBLE port: a linked list through the events with a pointer
to its last one, threads that wait for an event, and the first-in first-out queue that it implements.
-/

namespace Nimble

open Lib

structure QueuedEvent extends BleNplEvent where
  next : Option Nat
  queued : Bool
deriving DecidableEq

/-
`ble_npl_event_init`.
-/
def bleNplEventInit (event : BleNplEvent) : QueuedEvent := ⟨event, none, false⟩

def links (events : Nat → QueuedEvent) : Nat → Option Nat := fun event => (events event).next

def flags (events : Nat → QueuedEvent) : Nat → Bool := fun event => (events event).queued

/-
Events live at addresses. `waiting` are the threads that have let go of the lock to wait for an event,
each with its timeout.
-/
structure EventqState where
  events : Nat → QueuedEvent
  head : Option Nat
  tail : Option Nat
  waiting : Nat → Option BleNplTime

namespace EventqState

/-
`ble_npl_eventq_init`, with events that have been initialised.
-/
def init (events : Nat → BleNplEvent) : EventqState :=
  ⟨fun event => bleNplEventInit (events event), none, none, fun _ => none⟩

abbrev next (s : EventqState) : Nat → Option Nat := links s.events

def setNext (s : EventqState) (event : Nat) (next : Option Nat) : EventqState :=
  { s with events := Function.update s.events event { s.events event with next } }

def setQueued (s : EventqState) (event : Nat) (queued : Bool) : EventqState :=
  { s with events := Function.update s.events event { s.events event with queued } }

abbrev queued (s : EventqState) : Nat → Bool := flags s.events

end EventqState

inductive EventqObs where
  | done
  | got (event : Option Nat)
  | waits
  | stuck
deriving DecidableEq

/-
What `ble_npl_eventq_get` does with the lock, when it comes and each time it has waited. `result` is that
of the last wait.
-/
def eventqGetLocked (s : EventqState) (thread : Nat) (timeout : BleNplTime) (result : Int)
    : EventqState × EventqObs :=
  if s.head = none ∧ result = 0 ∧ timeout ≠ 0 then
    ({ s with waiting := Function.update s.waiting thread (some timeout) }, .waits)
  else
    let s := { s with waiting := Function.update s.waiting thread none }
    match s.head with
    | none => (s, .got none)
    | some event =>
      let s := { s with head := s.next event }
      let s := if s.head = none then { s with tail := none } else s
      ((s.setNext event none).setQueued event false, .got (some event))

/-
A thread that waits has no other call to make.
-/
def bleNplEventqGet (s : EventqState) (thread : Nat) (timeout : BleNplTime)
    : EventqState × EventqObs :=
  match s.waiting thread with
  | some _ => (s, .waits)
  | none => eventqGetLocked s thread timeout 0

/-
A wait comes to its end, by a signal, by itself, or because its time is over.
-/
def eventqWake (s : EventqState) (thread : Nat) (result : Int) : EventqState × EventqObs :=
  match s.waiting thread with
  | some timeout => eventqGetLocked s thread timeout result
  | none => (s, .done)

def bleNplEventqPut (s : EventqState) (event : Nat) : EventqState :=
  if s.queued event then
    s
  else
    let s := (s.setQueued event true).setNext event none
    let s :=
      match s.tail with
      | some tail => s.setNext tail (some event)
      | none => { s with head := some event }
    { s with tail := some event }

def unlinkEvent (s : EventqState) (event : Nat) (previous : Option Nat) : EventqState :=
  let next := s.next event
  let s :=
    match previous with
    | some previous => s.setNext previous next
    | none => { s with head := next }
  let s := if s.tail = some event then { s with tail := previous } else s
  (s.setNext event none).setQueued event false

/-
The loop of `ble_npl_eventq_remove`, given the time to look at `fuel` cells.
-/
def eventqRemoveLoop (s : EventqState) (event : Nat) (fuel : Nat) (previous current : Option Nat)
    : Option EventqState :=
  match fuel with
  | 0 => none
  | fuel + 1 =>
    match current with
    | none => some s
    | some c =>
      if c = event then
        some (unlinkEvent s event previous)
      else
        eventqRemoveLoop s event fuel (some c) (s.next c)

def bleNplEventqRemove (s : EventqState) (fuel : Nat) (event : Nat) : EventqState × EventqObs :=
  match eventqRemoveLoop s event fuel none s.head with
  | none => (s, .stuck)
  | some s => (s, .done)

inductive EventqOp where
  | put (event : Nat)
  | get (thread : Nat) (timeout : BleNplTime)
  | wake (thread : Nat) (result : Int)
  | remove (event : Nat)
deriving DecidableEq

def eventqMachine (fuel : Nat) : Machine EventqState EventqOp EventqObs where
  step s op :=
    match op with
    | .put event => (bleNplEventqPut s event, .done)
    | .get thread timeout => bleNplEventqGet s thread timeout
    | .wake thread result => eventqWake s thread result
    | .remove event => bleNplEventqRemove s fuel event

/--
What the queue is for. It is filled at one end and emptied at the other, and no event is in it twice. What
has been taken out and what is left is in the order in which it was put in, and what was put in has been
taken out, has been removed, or is left.
-/
structure Fifo where
  queue : List Nat
  waiting : Nat → Option BleNplTime
  accepted : List Nat
  taken : List Nat
  removed : List Nat
  nodup : queue.Nodup
  ordered : (taken ++ queue).Sublist accepted
  complete : accepted.Perm (taken ++ removed ++ queue)

def Fifo.empty : Fifo :=
  ⟨[], fun _ => none, [], [], [], List.nodup_nil, List.Sublist.refl [], List.Perm.refl []⟩

def Fifo.setWaiting (q : Fifo) (thread : Nat) (timeout : Option BleNplTime) : Fifo :=
  { q with waiting := Function.update q.waiting thread timeout }

def Fifo.put (q : Fifo) (event : Nat) : Fifo :=
  if h : event ∈ q.queue then
    q
  else
    { q with
      queue := q.queue ++ [event]
      accepted := q.accepted ++ [event]
      nodup := by
        rw [List.nodup_append]
        refine ⟨q.nodup, List.nodup_singleton event, ?_⟩
        intro a ha b hb hab
        rw [List.mem_singleton] at hb
        exact h (by rwa [← hb, ← hab])
      ordered := by
        rw [← List.append_assoc]
        exact q.ordered.append (List.Sublist.refl _)
      complete := by
        rw [← List.append_assoc]
        exact q.complete.append_right [event]
    }

def Fifo.take (q : Fifo) {event : Nat} {queue : List Nat} (h : q.queue = event :: queue) : Fifo :=
  { q with
    queue := queue
    taken := q.taken ++ [event]
    nodup := by
      have hnodup := q.nodup
      rw [h, List.nodup_cons] at hnodup
      exact hnodup.2
    ordered := by
      have hordered := q.ordered
      rw [h] at hordered
      rwa [List.append_assoc]
    complete := by
      have hcomplete := q.complete
      rw [h] at hcomplete
      apply hcomplete.trans
      rw [List.append_assoc, List.append_assoc, List.append_assoc]
      exact List.Perm.append_left _ List.perm_middle
  }

def Fifo.remove (q : Fifo) (event : Nat) : Fifo :=
  if h : event ∈ q.queue then
    { q with
      queue := q.queue.erase event
      removed := q.removed ++ [event]
      nodup := q.nodup.erase event
      ordered := by
        apply List.Sublist.trans _ q.ordered
        exact (List.Sublist.refl _).append List.erase_sublist
      complete := by
        apply q.complete.trans
        rw [← List.append_assoc, List.append_assoc _ [event]]
        exact List.Perm.append_left _ (List.perm_cons_erase h)
    }
  else
    q

def Fifo.get (q : Fifo) (thread : Nat) (timeout : BleNplTime) (result : Int) : Fifo × EventqObs :=
  match h : q.queue with
  | event :: _ => ((q.take h).setWaiting thread none, .got (some event))
  | [] =>
    if result = 0 ∧ timeout ≠ 0 then
      (q.setWaiting thread (some timeout), .waits)
    else
      (q.setWaiting thread none, .got none)

def fifoMachine : Machine Fifo EventqOp EventqObs where
  step q op :=
    match op with
    | .put event => (q.put event, .done)
    | .get thread timeout =>
      match q.waiting thread with
      | some _ => (q, .waits)
      | none => q.get thread timeout 0
    | .wake thread result =>
      match q.waiting thread with
      | some timeout => q.get thread timeout result
      | none => (q, .done)
    | .remove event => (q.remove event, .done)

/--
The linked list has the events of the queue in their order, `tail` is the last of them, and exactly they
have their flag set.
-/
structure Represents (s : EventqState) (q : Fifo) : Prop where
  list : LinkedQueue s.next s.head s.tail q.queue
  flag : ∀ event, s.queued event = true ↔ event ∈ q.queue
  waiting : s.waiting = q.waiting

namespace EventqState

variable (s : EventqState) (event : Nat)

@[simp]
theorem links_setNext (next : Option Nat)
    : links (s.setNext event next).events = Function.update (links s.events) event next := by
  funext e
  by_cases h : e = event
  . subst h
    simp [links, setNext]
  . simp [links, setNext, Function.update_of_ne h]

@[simp]
theorem links_setQueued (queued : Bool)
    : links (s.setQueued event queued).events = links s.events := by
  funext e
  by_cases h : e = event
  . subst h
    simp [links, setQueued]
  . simp [links, setQueued, Function.update_of_ne h]

@[simp]
theorem flags_setNext (next : Option Nat)
    : flags (s.setNext event next).events = flags s.events := by
  funext e
  by_cases h : e = event
  . subst h
    simp [flags, setNext]
  . simp [flags, setNext, Function.update_of_ne h]

@[simp]
theorem flags_setQueued (queued : Bool)
    : flags (s.setQueued event queued).events = Function.update (flags s.events) event queued := by
  funext e
  by_cases h : e = event
  . subst h
    simp [flags, setQueued]
  . simp [flags, setQueued, Function.update_of_ne h]

@[simp]
theorem head_setNext (next : Option Nat) : (s.setNext event next).head = s.head := rfl

@[simp]
theorem tail_setNext (next : Option Nat) : (s.setNext event next).tail = s.tail := rfl

@[simp]
theorem waiting_setNext (next : Option Nat) : (s.setNext event next).waiting = s.waiting := rfl

@[simp]
theorem head_setQueued (queued : Bool) : (s.setQueued event queued).head = s.head := rfl

@[simp]
theorem tail_setQueued (queued : Bool) : (s.setQueued event queued).tail = s.tail := rfl

@[simp]
theorem waiting_setQueued (queued : Bool) : (s.setQueued event queued).waiting = s.waiting := rfl

end EventqState

namespace Fifo

variable (q : Fifo)

@[simp]
theorem queue_setWaiting (thread : Nat) (timeout : Option BleNplTime)
    : (q.setWaiting thread timeout).queue = q.queue := rfl

@[simp]
theorem waiting_setWaiting (thread : Nat) (timeout : Option BleNplTime)
    : (q.setWaiting thread timeout).waiting = Function.update q.waiting thread timeout := rfl

theorem put_of_mem {event : Nat} (h : event ∈ q.queue) : q.put event = q := by
  unfold Fifo.put
  rw [dif_pos h]

theorem queue_put_of_not_mem {event : Nat} (h : event ∉ q.queue)
    : (q.put event).queue = q.queue ++ [event] := by
  unfold Fifo.put
  rw [dif_neg h]

@[simp]
theorem waiting_put (event : Nat) : (q.put event).waiting = q.waiting := by
  unfold Fifo.put
  split
  . rfl
  . rfl

@[simp]
theorem queue_remove (event : Nat) : (q.remove event).queue = q.queue.erase event := by
  unfold Fifo.remove
  split
  . rfl
  . next h => rw [List.erase_of_not_mem h]

@[simp]
theorem waiting_remove (event : Nat) : (q.remove event).waiting = q.waiting := by
  unfold Fifo.remove
  split
  . rfl
  . rfl

theorem get_of_empty (h : q.queue = []) (thread : Nat) (timeout : BleNplTime) (result : Int)
    : q.get thread timeout result
        =
      if result = 0 ∧ timeout ≠ 0 then
        (q.setWaiting thread (some timeout), .waits)
      else
        (q.setWaiting thread none, .got none) := by
  unfold Fifo.get
  split
  . next hqueue =>
    rw [h] at hqueue
    cases hqueue
  . rfl

theorem get_of_cons {event : Nat} {queue : List Nat} (h : q.queue = event :: queue) (thread : Nat)
    (timeout : BleNplTime) (result : Int)
    : q.get thread timeout result = ((q.take h).setWaiting thread none, .got (some event)) := by
  unfold Fifo.get
  split
  . next hqueue =>
    cases h.symm.trans hqueue
    rfl
  . next hqueue =>
    rw [h] at hqueue
    cases hqueue

end Fifo

theorem Represents.init (events : Nat → BleNplEvent) : Represents (.init events) .empty := by
  constructor
  . exact LinkedQueue.empty _
  . intro event
    simp [EventqState.init, flags, bleNplEventInit, Fifo.empty]
  . rfl

theorem flag_put {flag : Nat → Bool} {queue : List Nat} (h : ∀ e, flag e = true ↔ e ∈ queue)
    (event e : Nat)
    : Function.update flag event true e = true ↔ e ∈ queue ++ [event] := by
  by_cases he : e = event
  . subst he
    simp
  . rw [Function.update_of_ne he, h e]
    simp [he]

theorem flag_erase {flag : Nat → Bool} {queue : List Nat} (h : ∀ e, flag e = true ↔ e ∈ queue)
    (hnodup : queue.Nodup) (event e : Nat)
    : Function.update flag event false e = true ↔ e ∈ queue.erase event := by
  rw [hnodup.mem_erase_iff]
  by_cases he : e = event
  . subst he
    simp
  . rw [Function.update_of_ne he, h e]
    simp [he]

theorem Represents.put {s : EventqState} {q : Fifo} (h : Represents s q) (event : Nat)
    : Represents (bleNplEventqPut s event) (q.put event) := by
  unfold bleNplEventqPut
  by_cases hmem : event ∈ q.queue
  . rw [if_pos ((h.flag event).mpr hmem), q.put_of_mem hmem]
    exact h
  . have hqueue := q.queue_put_of_not_mem hmem
    have hwaiting := h.waiting.trans (q.waiting_put event).symm
    have hflag := flag_put h.flag event
    have hlist := h.list
    rw [← hqueue] at hflag
    rw [if_neg (mt (h.flag event).mp hmem)]
    dsimp only
    rw [EventqState.tail_setNext, EventqState.tail_setQueued]
    cases htail : s.tail with
    | none =>
      rw [htail] at hlist
      constructor
      . rw [hqueue]
        simpa [EventqState.next] using hlist.put_empty (a := event)
      . simpa [EventqState.queued] using hflag
      . exact hwaiting
    | some last =>
      rw [htail] at hlist
      constructor
      . rw [hqueue]
        simpa [EventqState.next] using hlist.put hmem
      . simpa [EventqState.queued] using hflag
      . exact hwaiting

/-
The locked part of taking an event. The thread is no longer among those that wait, or it is again.
-/
theorem Represents.get {s : EventqState} {q : Fifo} (h : Represents s q) (thread : Nat)
    (timeout : BleNplTime) (result : Int)
    : (eventqGetLocked s thread timeout result).2 = (q.get thread timeout result).2
        ∧ Represents (eventqGetLocked s thread timeout result).1 (q.get thread timeout result).1 := by
  have hhead := h.list.head_eq
  have hwaiting := h.waiting
  unfold eventqGetLocked
  cases hqueue : q.queue with
  | nil =>
    rw [hqueue, List.head?_nil] at hhead
    rw [q.get_of_empty hqueue]
    simp only [hhead, true_and]
    by_cases hwait : result = 0 ∧ timeout ≠ 0
    . rw [if_pos hwait, if_pos hwait]
      refine ⟨rfl, ⟨?_, h.flag, ?_⟩⟩
      . rw [← hhead]
        exact h.list
      . exact congrArg (Function.update · thread (some timeout)) hwaiting
    . rw [if_neg hwait, if_neg hwait]
      refine ⟨rfl, ⟨?_, h.flag, ?_⟩⟩
      . rw [← hhead]
        exact h.list
      . exact congrArg (Function.update · thread none) hwaiting
  | cons event queue =>
    rw [hqueue, List.head?_cons] at hhead
    rw [q.get_of_cons hqueue]
    simp only [hhead, reduceCtorEq, false_and, if_false, true_and]
    have hlist := h.list
    have hflag := flag_erase h.flag h.list.nodup event
    rw [hqueue] at hlist hflag
    rw [List.erase_cons_head] at hflag
    have hget := hlist.get
    split
    . next hend =>
      rw [if_pos hend] at hget
      constructor
      . simpa [EventqState.next, Fifo.take] using hget
      . simpa [EventqState.queued, Fifo.take] using hflag
      . simp [hwaiting, Fifo.take]
    . next hmore =>
      rw [if_neg hmore] at hget
      constructor
      . simpa [EventqState.next, Fifo.take] using hget
      . simpa [EventqState.queued, Fifo.take] using hflag
      . simp [hwaiting, Fifo.take]

theorem removeLoop_absent {s : EventqState} {event : Nat} {cells : List Nat} {fuel : Nat}
    {previous current : Option Nat} (h : Chain s.next current cells) (hevent : event ∉ cells)
    (hfuel : cells.length < fuel)
    : eventqRemoveLoop s event fuel previous current = some s := by
  induction cells generalizing fuel previous current with
  | nil =>
    have hend : current = none := h
    cases fuel with
    | zero => omega
    | succ fuel =>
      rw [hend]
      rfl
  | cons c cells ih =>
    cases fuel with
    | zero => omega
    | succ fuel =>
      rw [List.mem_cons, not_or] at hevent
      rw [h.1]
      unfold eventqRemoveLoop
      dsimp only
      rw [if_neg (Ne.symm hevent.1)]
      apply ih h.2 hevent.2
      simp only [List.length_cons] at hfuel
      omega

/-
The event is unlinked from behind the last cell that was looked at.
-/
theorem removeLoop_found {s : EventqState} {event : Nat} {before after : List Nat} {fuel : Nat}
    {previous current : Option Nat} (h : Chain s.next current (before ++ event :: after))
    (hevent : event ∉ before) (hfuel : before.length < fuel)
    : eventqRemoveLoop s event fuel previous current
        = some (unlinkEvent s event (before.getLast?.or previous)) := by
  induction before generalizing fuel previous current with
  | nil =>
    cases fuel with
    | zero => omega
    | succ fuel =>
      rw [h.1]
      unfold eventqRemoveLoop
      simp
  | cons c before ih =>
    cases fuel with
    | zero => omega
    | succ fuel =>
      rw [List.mem_cons, not_or] at hevent
      rw [h.1]
      unfold eventqRemoveLoop
      dsimp only
      rw [if_neg (Ne.symm hevent.1)]
      simp only [List.length_cons] at hfuel
      rw [ih h.2 hevent.2 (by omega)]
      cases before with
      | nil => rfl
      | cons d before => simp [List.getLast?_cons]

theorem unlinkEvent_queued (s : EventqState) (event : Nat) (previous : Option Nat)
    : (unlinkEvent s event previous).queued = Function.update s.queued event false := by
  unfold unlinkEvent
  cases previous with
  | none =>
    dsimp only
    split
    . simp [EventqState.queued]
    . simp [EventqState.queued]
  | some previous =>
    dsimp only
    split
    . simp [EventqState.queued]
    . simp [EventqState.queued]

theorem unlinkEvent_waiting (s : EventqState) (event : Nat) (previous : Option Nat)
    : (unlinkEvent s event previous).waiting = s.waiting := by
  unfold unlinkEvent
  cases previous with
  | none =>
    dsimp only
    split
    . rfl
    . rfl
  | some previous =>
    dsimp only
    split
    . rfl
    . rfl

theorem unlinkEvent_list {s : EventqState} {event : Nat} {before after : List Nat}
    (h : LinkedQueue s.next s.head s.tail (before ++ event :: after))
    : LinkedQueue (unlinkEvent s event before.getLast?).next (unlinkEvent s event before.getLast?).head
        (unlinkEvent s event before.getLast?).tail (before ++ after) := by
  unfold unlinkEvent
  cases hlast : before.getLast? with
  | none =>
    have hnil : before = [] := List.getLast?_eq_none_iff.mp hlast
    subst hnil
    have hremove := h.remove_head
    dsimp only
    split
    . next htail =>
      rw [if_pos htail] at hremove
      simpa [EventqState.next] using hremove
    . next htail =>
      rw [if_neg htail] at hremove
      simpa [EventqState.next] using hremove
  | some last =>
    obtain ⟨front, hfront⟩ := List.getLast?_eq_some_iff.mp hlast
    subst hfront
    simp only [List.append_assoc, List.singleton_append] at h ⊢
    have hremove := h.remove
    rw [EventqState.tail_setNext]
    split
    . next htail =>
      rw [if_pos htail] at hremove
      simpa [EventqState.next] using hremove
    . next htail =>
      rw [if_neg htail] at hremove
      simpa [EventqState.next] using hremove

/-
Unlinking an event that is in the list behind `before`.
-/
theorem Represents.unlink {s : EventqState} {q : Fifo} (h : Represents s q) {event : Nat}
    {before after : List Nat} (hqueue : q.queue = before ++ event :: after) (hevent : event ∉ before)
    : Represents (unlinkEvent s event before.getLast?) (q.remove event) := by
  have hlist := h.list
  have herase : q.queue.erase event = before ++ after := by
    rw [hqueue, List.erase_append_right _ hevent, List.erase_cons_head]
  rw [hqueue] at hlist
  constructor
  . rw [q.queue_remove, herase]
    exact unlinkEvent_list hlist
  . rw [unlinkEvent_queued, q.queue_remove]
    exact flag_erase h.flag h.list.nodup event
  . rw [unlinkEvent_waiting, q.waiting_remove]
    exact h.waiting

theorem Represents.remove {s : EventqState} {q : Fifo} (h : Represents s q) {fuel : Nat}
    (hfuel : q.queue.length < fuel) (event : Nat)
    : (bleNplEventqRemove s fuel event).2 = .done
        ∧ Represents (bleNplEventqRemove s fuel event).1 (q.remove event) := by
  unfold bleNplEventqRemove
  have hchain := h.list.chain
  by_cases hmem : event ∈ q.queue
  . obtain ⟨before, after, hqueue, hevent⟩ := List.eq_append_cons_of_mem hmem
    rw [hqueue] at hchain hfuel
    rw [List.length_append] at hfuel
    rw [removeLoop_found hchain hevent (by omega), Option.or_none]
    exact ⟨rfl, h.unlink hqueue hevent⟩
  . have hsame : q.remove event = q := by
      unfold Fifo.remove
      rw [dif_neg hmem]
    rw [removeLoop_absent hchain hmem hfuel, hsame]
    exact ⟨rfl, h⟩

/-
The list grows by one event at most, so that a traversal comes to its end in time.
-/
def Bounded (fuel n : Nat) (s : EventqState) (q : Fifo) : Prop :=
  Represents s q ∧ q.queue.length + n < fuel

theorem length_put (q : Fifo) (event : Nat)
    : (q.put event).queue.length ≤ q.queue.length + 1 := by
  by_cases hmem : event ∈ q.queue
  . rw [q.put_of_mem hmem]
    omega
  . simp [q.queue_put_of_not_mem hmem]

theorem length_get (q : Fifo) (thread : Nat) (timeout : BleNplTime) (result : Int)
    : (q.get thread timeout result).1.queue.length ≤ q.queue.length := by
  cases hqueue : q.queue with
  | nil =>
    rw [q.get_of_empty hqueue]
    split
    . simp [hqueue]
    . simp [hqueue]
  | cons event queue =>
    rw [q.get_of_cons hqueue]
    simp [Fifo.take]

theorem eventq_step {fuel n : Nat} {s : EventqState} {q : Fifo} (op : EventqOp)
    (h : Bounded fuel (n + 1) s q)
    : ((eventqMachine fuel).step s op).2 = (fifoMachine.step q op).2
        ∧ Bounded fuel n ((eventqMachine fuel).step s op).1 (fifoMachine.step q op).1 := by
  obtain ⟨h, hfuel⟩ := h
  cases op with
  | put event =>
    refine ⟨rfl, h.put event, ?_⟩
    have := length_put q event
    simp only [fifoMachine]
    omega
  | get thread timeout =>
    simp only [eventqMachine, fifoMachine, bleNplEventqGet, h.waiting]
    cases hwaiting : q.waiting thread with
    | some _ =>
      refine ⟨rfl, h, ?_⟩
      dsimp only
      omega
    | none =>
      have := length_get q thread timeout 0
      obtain ⟨hobs, hnext⟩ := h.get thread timeout 0
      exact ⟨hobs, hnext, by dsimp only; omega⟩
  | wake thread result =>
    simp only [eventqMachine, fifoMachine, eventqWake, h.waiting]
    cases hwaiting : q.waiting thread with
    | none =>
      refine ⟨rfl, h, ?_⟩
      dsimp only
      omega
    | some timeout =>
      have := length_get q thread timeout result
      obtain ⟨hobs, hnext⟩ := h.get thread timeout result
      exact ⟨hobs, hnext, by dsimp only; omega⟩
  | remove event =>
    obtain ⟨hobs, hnext⟩ := h.remove (show q.queue.length < fuel by omega) event
    refine ⟨hobs, hnext, ?_⟩
    have := List.length_erase_le (a := event) (l := q.queue)
    simp only [fifoMachine, Fifo.queue_remove]
    omega

def EventqObs.event? (obs : EventqObs) : Option Nat :=
  match obs with
  | .got event => event
  | _ => none

theorem taken_get (q : Fifo) (thread : Nat) (timeout : BleNplTime) (result : Int)
    : (q.get thread timeout result).1.taken
        = q.taken ++ (q.get thread timeout result).2.event?.toList := by
  cases hqueue : q.queue with
  | nil =>
    rw [q.get_of_empty hqueue]
    split
    . simp [EventqObs.event?, Fifo.setWaiting]
    . simp [EventqObs.event?, Fifo.setWaiting]
  | cons event queue =>
    rw [q.get_of_cons hqueue]
    rfl

theorem taken_step (q : Fifo) (op : EventqOp)
    : (fifoMachine.step q op).1.taken = q.taken ++ (fifoMachine.step q op).2.event?.toList := by
  cases op with
  | put event =>
    by_cases hmem : event ∈ q.queue
    . simp [fifoMachine, Fifo.put, hmem, EventqObs.event?]
    . simp [fifoMachine, Fifo.put, hmem, EventqObs.event?]
  | get thread timeout =>
    simp only [fifoMachine]
    split
    . simp [EventqObs.event?]
    . exact taken_get q thread timeout 0
  | wake thread result =>
    simp only [fifoMachine]
    split
    . exact taken_get q thread _ result
    . simp [EventqObs.event?]
  | remove event =>
    by_cases hmem : event ∈ q.queue
    . simp [fifoMachine, Fifo.remove, hmem, EventqObs.event?]
    . simp [fifoMachine, Fifo.remove, hmem, EventqObs.event?]

theorem taken_observations (q : Fifo) (ops : List EventqOp)
    : (fifoMachine.final q ops).taken
        = q.taken ++ (fifoMachine.observations q ops).filterMap EventqObs.event? := by
  induction ops generalizing q with
  | nil => simp [Machine.observations]
  | cons op ops ih =>
    rw [Machine.final_cons, ih, taken_step, List.append_assoc]
    apply congrArg
    cases hevent : (fifoMachine.step q op).2.event? with
    | none => simp [Machine.observations, hevent]
    | some event => simp [Machine.observations, hevent]

/--
Over every run, the linked list with its flags stands for the queue, every call returns what the queue
gives, and a put of an event that is queued changes nothing. The time for as many cells as there are calls
is enough for every traversal.
-/
theorem eventq_refines {fuel : Nat} {ops : List EventqOp} (hfuel : ops.length < fuel)
    (events : Nat → BleNplEvent)
    : (eventqMachine fuel).observations (.init events) ops = fifoMachine.observations .empty ops
        ∧ Represents ((eventqMachine fuel).final (.init events) ops) (fifoMachine.final .empty ops)
        ∧ ((eventqMachine fuel).observations (.init events) ops).filterMap EventqObs.event?
            = (fifoMachine.final .empty ops).taken
        ∧ ∀ event ∈ (fifoMachine.final .empty ops).queue,
            bleNplEventqPut ((eventqMachine fuel).final (.init events) ops) event
              = (eventqMachine fuel).final (.init events) ops := by
  have hinit : Bounded fuel ops.length (.init events) .empty :=
    ⟨.init events, by simpa [Fifo.empty] using hfuel⟩
  obtain ⟨hobs, hfinal, -⟩ := Machine.simulation (Bounded fuel)
    (fun _ _ _ op h => eventq_step op h) hinit
  refine ⟨hobs, hfinal, ?_, ?_⟩
  . rw [hobs, taken_observations]
    rfl
  . intro event hevent
    unfold bleNplEventqPut
    rw [if_pos ((hfinal.flag event).mpr hevent)]

/-
Two events are put in, the first again, and the second is removed before one is taken out.
-/
theorem eventq_refines_removed
    : 4 < 5
        ∧ (eventqMachine 5).observations (.init fun _ => ⟨none, 0⟩)
            [.put 1, .put 2, .remove 2, .get 0 0] = [.done, .done, .done, .got (some 1)]
        ∧ Represents
            ((eventqMachine 5).final (.init fun _ => ⟨none, 0⟩) [.put 1, .put 2, .remove 2, .get 0 0])
            (fifoMachine.final .empty [.put 1, .put 2, .remove 2, .get 0 0]) :=
  have h := @eventq_refines 5 [.put 1, .put 2, .remove 2, .get 0 0] (by decide)
    (fun _ => ⟨none, 0⟩)
  ⟨by decide, h.1.trans rfl, h.2.1⟩

end Nimble

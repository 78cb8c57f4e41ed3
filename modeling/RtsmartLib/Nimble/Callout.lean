import RtsmartLib.Lib.Machine
import RtsmartLib.Lib.LinkedList

/-!
This module contains the callouts of the NimBLE port: the list of callouts, the operations on it, and
the worker thread, whose locked section and whose delivery of an expiry are steps of their own.
-/

namespace Nimble

open Lib

abbrev BleNplTime := BitVec 32

structure BleNplEvent where
  fn : Option Nat
  arg : Nat
deriving DecidableEq

structure BleNplCallout where
  event : BleNplEvent
  eventq : Option Nat
  next : Option Nat
  deadline : BleNplTime
  active : Bool
  listed : Bool
deriving DecidableEq

def BleNplCallout.zero : BleNplCallout :=
  ⟨⟨none, 0⟩, none, none, 0, false, false⟩

inductive BleNplError where
  | ok
  | error
deriving DecidableEq

/-
The worker holds a due callout between the end of its locked section and the delivery of the event.
-/
inductive CalloutWorker where
  | scanning
  | waiting (waitMs : Nat)
  | holding (due : Nat)
deriving DecidableEq

/-
Callouts live at addresses. `clock` is the monotonic clock in milliseconds, of which the port sees the
low 32 bits.
-/
structure CalloutState where
  callouts : Nat → BleNplCallout
  calloutList : Option Nat
  calloutOnce : Bool
  calloutThreadReady : Bool
  clock : Nat
  worker : CalloutWorker

namespace CalloutState

def init : CalloutState :=
  ⟨fun _ => .zero, none, false, false, 0, .scanning⟩

def next (s : CalloutState) (callout : Nat) : Option Nat :=
  (s.callouts callout).next

def set (s : CalloutState) (callout : Nat) (value : BleNplCallout) : CalloutState :=
  { s with callouts := Function.update s.callouts callout value }

end CalloutState

def bleNplTimeGet (s : CalloutState) : BleNplTime :=
  BitVec.ofNat 32 s.clock

def remaining (callout : BleNplCallout) (now : BleNplTime) : Int :=
  (callout.deadline - now).toInt

inductive ScanResult where
  | due (callout : Nat)
  | wait (waitMs : Nat)
deriving DecidableEq

/-
The worker's look through the list, which does not come to an end on a list that has none.
-/
def calloutScan (s : CalloutState) (now : BleNplTime) (fuel : Nat) (callout : Option Nat)
    (waitMs : Nat) : Option ScanResult :=
  match fuel with
  | 0 => none
  | fuel + 1 =>
    match callout with
    | none => some (.wait waitMs)
    | some c =>
      let callout := s.callouts c
      if !callout.active then
        calloutScan s now fuel callout.next waitMs
      else if remaining callout now ≤ 0 then
        some (.due c)
      else
        calloutScan s now fuel callout.next (min (remaining callout now).toNat waitMs)

def uint32Max : Nat := 0xFFFFFFFF

/-
The locked section of the worker, given the time to look at `fuel` cells.
-/
def calloutWorkerScan (s : CalloutState) (fuel : Nat) : CalloutState :=
  match calloutScan s (bleNplTimeGet s) fuel s.calloutList uint32Max with
  | none => s
  | some (.due c) =>
    { s.set c { s.callouts c with active := false } with worker := .holding c }
  | some (.wait waitMs) => { s with worker := .waiting waitMs }

/-
What the worker does with an expiry after it has let go of the lock.
-/
inductive Expiry where
  | put (callout eventq : Nat)
  | run (callout : Nat) (event : BleNplEvent)
deriving DecidableEq

def calloutExpiry (s : CalloutState) (due : Nat) : Expiry :=
  let callout := s.callouts due
  match callout.eventq with
  | some eventq => .put due eventq
  | none => .run due callout.event

def Expiry.callout (e : Expiry) : Nat :=
  match e with
  | .put callout _ => callout
  | .run callout _ => callout

def calloutManagerInit (s : CalloutState) (created : Bool) : CalloutState :=
  if created then { s with calloutThreadReady := true } else s

def bleNplCalloutInit (s : CalloutState) (c : Nat) (eventq fn : Option Nat) (arg : Nat)
    (created : Bool) : CalloutState :=
  let s := s.set c { BleNplCallout.zero with event := ⟨fn, arg⟩, eventq }
  if s.calloutOnce then
    s
  else
    calloutManagerInit { s with calloutOnce := true } created

def bleNplCalloutReset (s : CalloutState) (c : Nat) (ticks : BleNplTime)
    : BleNplError × CalloutState :=
  if !s.calloutThreadReady then
    (.error, s)
  else
    let ticks := if ticks = 0 then 1 else ticks
    let callout := s.callouts c
    let s' :=
      if !callout.listed then
        { s.set c { callout with next := s.calloutList, listed := true } with calloutList := some c }
      else
        s
    (.ok,
      s'.set c { s'.callouts c with deadline := bleNplTimeGet s + ticks, active := true })

def bleNplCalloutStop (s : CalloutState) (c : Nat) : CalloutState :=
  s.set c { s.callouts c with active := false }

def bleNplCalloutIsActive (s : CalloutState) (c : Nat) : Bool :=
  (s.callouts c).active

def bleNplCalloutRemainingTicks (s : CalloutState) (c : Nat) (now : BleNplTime) : Nat :=
  if (s.callouts c).active then (remaining (s.callouts c) now).toNat else 0

/-
`created` is whether the worker thread can be created, `fuel` how many cells the worker gets to see.
-/
inductive CalloutOp where
  | init (callout : Nat) (eventq fn : Option Nat) (arg : Nat) (created : Bool)
  | reset (callout : Nat) (ticks : BleNplTime)
  | stop (callout : Nat)
  | scan (fuel : Nat)
  | deliver
  | elapse (ms : Nat)
deriving DecidableEq

/-
The worker scans again after a delivery, when it is woken, and when its wait runs out; it is only there
once the thread is.
-/
def calloutStep (s : CalloutState) (op : CalloutOp) : CalloutState × Option Expiry :=
  match op with
  | .init c eventq fn arg created => (bleNplCalloutInit s c eventq fn arg created, none)
  | .reset c ticks => ((bleNplCalloutReset s c ticks).2, none)
  | .stop c => (bleNplCalloutStop s c, none)
  | .scan fuel =>
    match s.worker with
    | .holding _ => (s, none)
    | _ => (if s.calloutThreadReady then calloutWorkerScan s fuel else s, none)
  | .deliver =>
    match s.worker with
    | .holding due => ({ s with worker := .scanning }, some (calloutExpiry s due))
    | _ => (s, none)
  | .elapse ms => ({ s with clock := s.clock + ms }, none)

section

variable (s : CalloutState) (c : Nat)

theorem next_set (value : BleNplCallout)
    : (s.set c value).next = Function.update s.next c value.next := by
  funext d
  unfold CalloutState.next CalloutState.set
  by_cases hd : d = c
  . rw [hd]
    simp
  . simp [hd]

theorem bleNplCalloutInit_frame (eventq fn : Option Nat) (arg : Nat) (created : Bool)
    : let s' := bleNplCalloutInit s c eventq fn arg created
      let value := { BleNplCallout.zero with event := ⟨fn, arg⟩, eventq }
      s'.callouts = Function.update s.callouts c value
        ∧ s'.calloutList = s.calloutList
        ∧ s'.clock = s.clock
        ∧ s'.worker = s.worker := by
  intro s' value
  unfold s' value bleNplCalloutInit calloutManagerInit
  dsimp only
  split
  . exact ⟨rfl, rfl, rfl, rfl⟩
  . split
    . exact ⟨rfl, rfl, rfl, rfl⟩
    . exact ⟨rfl, rfl, rfl, rfl⟩

variable (ticks : BleNplTime)

/-
What a reset makes of the callout: it is on the list from then on, and it is due some time later.
-/
def resetCallout : BleNplCallout :=
  { s.callouts c with
    next := if (s.callouts c).listed then (s.callouts c).next else s.calloutList
    listed := true
    deadline := bleNplTimeGet s + (if ticks = 0 then 1 else ticks)
    active := true
  }

theorem bleNplCalloutReset_error (hready : s.calloutThreadReady = false)
    : bleNplCalloutReset s c ticks = (.error, s) := by
  simp [bleNplCalloutReset, hready]

theorem bleNplCalloutReset_ok (hready : s.calloutThreadReady = true)
    : bleNplCalloutReset s c ticks
        = (.ok,
            { s.set c (resetCallout s c ticks) with
              calloutList := if (s.callouts c).listed then s.calloutList else some c
            }) := by
  unfold bleNplCalloutReset resetCallout
  rw [if_neg (by simp [hready])]
  cases hlisted : (s.callouts c).listed with
  | false => simp [CalloutState.set, hlisted]
  | true => simp [CalloutState.set, hlisted]

end

end Nimble

import RtsmartLib.Lib.Machine
import Mathlib.Data.BitVec
import Mathlib.Logic.Function.Basic

/-!
This module contains the software timer and the alarm of the TLS timing port which uses it: the steps of a
creation, what they leave behind where one of them fails, and on which instances later calls run.
-/

namespace SoftTimer

open Lib

inductive RtHwtimerMode where
  | oneshot
  | period
  deriving DecidableEq

structure Itimerspec where
  valueSec : Nat
  valueNsec : Nat
  intervalSec : Nat
  intervalNsec : Nat

inductive TimerBase where
  | softTimerType
  | other
  deriving DecidableEq

inductive IrqCallback where
  | timerIrq
  | other (callback : Nat)

/-
A `timerid` of zero is one that is `NULL`.
-/
structure DrvSoftTimerInst where
  base : TimerBase
  timerid : Nat
  started : Bool
  mode : RtHwtimerMode
  periodMs : BitVec 32
  irqArgs : Nat
  irqCallback : Option IrqCallback

inductive SigAction where
  | default
  | softTimerSigHandler
  deriving DecidableEq

/-
The memory of the instances, the variables that the callers keep their pointers in, the timers of the kernel
with what they are set to, and what is done on `SIGALRM`.
-/
structure SoftTimers where
  softTimerInUsed : Bool
  heap : Nat → Option DrvSoftTimerInst
  vars : Nat → Option Nat
  timers : Nat → Option Itimerspec
  sigalrm : SigAction
  timingAlarmed : Bool

def SoftTimers.init : SoftTimers where
  softTimerInUsed := false
  heap := fun _ => none
  vars := fun _ => none
  timers := fun _ => none
  sigalrm := .default
  timingAlarmed := false

/-
A pointer to memory that has been freed is taken for `NULL`.
-/
def SoftTimers.deref (s : SoftTimers) (inst : Option Nat) : Option (Nat × DrvSoftTimerInst) :=
  inst.bind fun p => (s.heap p).map fun i => (p, i)

def SoftTimers.store (s : SoftTimers) (p : Nat) (i : DrvSoftTimerInst) : SoftTimers :=
  { s with heap := Function.update s.heap p (some i) }

def SoftTimers.settime (s : SoftTimers) (timerid : Nat) (its : Itimerspec) : SoftTimers :=
  { s with timers := Function.update s.timers timerid ((s.timers timerid).map fun _ => its) }

/-
The setters refuse a timer that has been started.
-/
def SoftTimers.configure (s : SoftTimers) (inst : Option Nat) (set : DrvSoftTimerInst → DrvSoftTimerInst)
    : Int × SoftTimers :=
  match s.deref inst with
  | none => (-1, s)
  | some (p, i) =>
    if i.started then (-1, s)
    else (0, s.store p (set i))

def drvSoftTimerSetMode (s : SoftTimers) (inst : Option Nat) (mode : RtHwtimerMode) : Int × SoftTimers :=
  s.configure inst fun i => { i with mode := mode }

def drvSoftTimerSetPeriod (s : SoftTimers) (inst : Option Nat) (periodMs : BitVec 32) : Int × SoftTimers :=
  s.configure inst fun i => { i with periodMs := periodMs }

def drvSoftTimerRegisterIrq (s : SoftTimers) (inst : Option Nat) (callback : Option IrqCallback)
    (userargs : Nat) : Int × SoftTimers :=
  s.configure inst fun i => { i with irqArgs := userargs, irqCallback := callback }

def drvSoftTimerUnregisterIrq (s : SoftTimers) (inst : Option Nat) : Int × SoftTimers :=
  drvSoftTimerRegisterIrq s inst none 0

/-
`settime` tells whether `timer_settime` succeeds.
-/
def drvSoftTimerStart (s : SoftTimers) (inst : Option Nat) (settime : Bool) : Int × SoftTimers :=
  match s.deref inst with
  | none => (-1, s)
  | some (p, i) =>
    if i.started then (-1, s)
    else
      let ns := i.periodMs.toNat * 1000000
      let value := (ns / 1000000000, ns % 1000000000)
      let interval := if i.mode = .period then value else (0, 0)
      if !settime then (-1, s)
      else
        (0, (s.settime i.timerid ⟨value.1, value.2, interval.1, interval.2⟩).store p
          { i with started := true })

def drvSoftTimerStop (s : SoftTimers) (inst : Option Nat) (settime : Bool) : Int × SoftTimers :=
  match s.deref inst with
  | none => (-1, s)
  | some (p, i) =>
    if i.started then
      if !settime then (-1, s)
      else (0, (s.settime i.timerid ⟨0, 0, 0, 0⟩).store p { i with started := false })
    else (0, s.store p { i with started := false })

def drvSoftTimerIsStarted (s : SoftTimers) (inst : Option Nat) : Bool :=
  match s.deref inst with
  | none => false
  | some (_, i) => i.started

/-
The two handlers of `struct sigaction` are one word, so that clearing `sa_sigaction` undoes the `SIG_IGN` of
`sa_handler`.
-/
def clearedSigaction : SigAction := .default

structure DestroyAnswers where
  settime : Bool
  sigaction : Bool

def drvSoftTimerDestroy (s : SoftTimers) (var : Nat) (answers : DestroyAnswers) : SoftTimers :=
  match s.deref (s.vars var) with
  | none => s
  | some (p, i) =>
    if i.base ≠ .softTimerType then s
    else
      let s := (drvSoftTimerStop s (some p) answers.settime).2
      let s := (drvSoftTimerUnregisterIrq s (some p)).2
      { s with
        softTimerInUsed := false
        heap := Function.update s.heap p none
        vars := Function.update s.vars var none
        timers := if i.timerid ≠ 0 then Function.update s.timers i.timerid none else s.timers
        sigalrm := if answers.sigaction then clearedSigaction else s.sigalrm }

structure CreateAnswers where
  malloc : Option Nat
  sigaction : Bool
  timerCreate : Option Nat

/-
The result of `sigaction` is not looked at.
-/
def drvSoftTimerCreate (s : SoftTimers) (var : Nat) (answers : CreateAnswers) (destroy : DestroyAnswers)
    : Int × SoftTimers :=
  if s.softTimerInUsed then (-1, s)
  else
    let s :=
      match s.vars var with
      | none => s
      | some _ =>
        let s := drvSoftTimerDestroy s var destroy
        { s with vars := Function.update s.vars var none }
    match answers.malloc with
    | none => (-1, { s with vars := Function.update s.vars var none })
    | some p =>
      let i : DrvSoftTimerInst := ⟨.softTimerType, 0, false, .oneshot, 1000, 0, none⟩
      let s := { s.store p i with vars := Function.update s.vars var (some p) }
      let s := if answers.sigaction then { s with sigalrm := .softTimerSigHandler } else s
      match answers.timerCreate with
      | none => (-1, s)
      | some timerid =>
        (0, { s.store p { i with timerid := timerid } with
          timers := Function.update s.timers timerid (some ⟨0, 0, 0, 0⟩)
          softTimerInUsed := true })

/-
The variable of the TLS timing port.
-/
def timerInst : Nat := 0

structure AlarmAnswers where
  stop : Bool
  create : CreateAnswers
  destroy : DestroyAnswers
  start : Bool

/-
The second component lists the instances that the calls run on.
-/
def mbedtlsSetAlarm (s : SoftTimers) (seconds : BitVec 32) (answers : AlarmAnswers)
    : SoftTimers × List Nat :=
  let pending := s.vars timerInst ≠ none ∧ drvSoftTimerIsStarted s (s.vars timerInst) = true
  let stopped := if pending then (s.vars timerInst).toList else []
  let s := if pending then (drvSoftTimerStop s (s.vars timerInst) answers.stop).2 else s
  let s := { s with timingAlarmed := false }
  if seconds = 0 then
    ({ s with timingAlarmed := true }, stopped)
  else
    let r :=
      match s.vars timerInst with
      | none => drvSoftTimerCreate s timerInst answers.create answers.destroy
      | some _ => (0, s)
    let s := r.2
    if r.1 ≠ 0 then
      ({ s with timingAlarmed := true }, stopped)
    else
      let s := (drvSoftTimerSetMode s (s.vars timerInst) .oneshot).2
      let s := (drvSoftTimerSetPeriod s (s.vars timerInst) (seconds * 1000)).2
      let s := (drvSoftTimerRegisterIrq s (s.vars timerInst) (some .timerIrq) 0).2
      let s := (drvSoftTimerStart s (s.vars timerInst) answers.start).2
      (s, stopped ++ (s.vars timerInst).toList)

def timerIrq (s : SoftTimers) (settime : Bool) : SoftTimers × List Nat :=
  let s := { s with timingAlarmed := true }
  match s.vars timerInst with
  | none => (s, [])
  | some p => ((drvSoftTimerStop s (some p) settime).2, [p])

/-
`SIGALRM` of a timer. What other callbacks do is left to the calls that they make.
-/
def softTimerSigHandler (s : SoftTimers) (siPtr : Nat) (settime : Bool) : SoftTimers × List Nat :=
  if s.sigalrm ≠ .softTimerSigHandler then (s, [])
  else
    match s.heap siPtr with
    | none => (s, [])
    | some i =>
      if i.base ≠ .softTimerType then (s, [])
      else
        match i.irqCallback with
        | some .timerIrq => timerIrq s settime
        | _ => (s, [])

inductive TimerOp where
  | create (var : Nat) (answers : CreateAnswers) (destroy : DestroyAnswers)
  | destroy (var : Nat) (answers : DestroyAnswers)
  | setMode (var : Nat) (mode : RtHwtimerMode)
  | setPeriod (var : Nat) (periodMs : BitVec 32)
  | registerIrq (var : Nat) (callback : Option IrqCallback) (userargs : Nat)
  | start (var : Nat) (settime : Bool)
  | stop (var : Nat) (settime : Bool)
  | setAlarm (seconds : BitVec 32) (answers : AlarmAnswers)
  | signal (siPtr : Nat) (settime : Bool)

/-
What a call or a signal leaves, and the instances on which it set, started or stopped a timer.
-/
def timerStep (s : SoftTimers) (op : TimerOp) : SoftTimers × List Nat :=
  match op with
  | .create var answers destroy => ((drvSoftTimerCreate s var answers destroy).2, [])
  | .destroy var answers => (drvSoftTimerDestroy s var answers, [])
  | .setMode var mode => ((drvSoftTimerSetMode s (s.vars var) mode).2, (s.vars var).toList)
  | .setPeriod var periodMs => ((drvSoftTimerSetPeriod s (s.vars var) periodMs).2, (s.vars var).toList)
  | .registerIrq var callback userargs =>
    ((drvSoftTimerRegisterIrq s (s.vars var) callback userargs).2, (s.vars var).toList)
  | .start var settime => ((drvSoftTimerStart s (s.vars var) settime).2, (s.vars var).toList)
  | .stop var settime => ((drvSoftTimerStop s (s.vars var) settime).2, (s.vars var).toList)
  | .setAlarm seconds answers => mbedtlsSetAlarm s seconds answers
  | .signal siPtr settime => softTimerSigHandler s siPtr settime

def timerMachine : Machine SoftTimers TimerOp (List Nat) :=
  ⟨timerStep⟩

abbrev TimerVisit := Machine.Visit SoftTimers TimerOp (List Nat)

/-
All steps of the creation have been done: the instance is there, its timer exists and the signal is handled.
-/
def Created (s : SoftTimers) (p : Nat) : Prop :=
  ∃ i, s.heap p = some i ∧ (s.timers i.timerid).isSome = true ∧ s.sigalrm = .softTimerSigHandler

/-
The creation that a call makes.
-/
def createCall (s : SoftTimers) (op : TimerOp) : Option CreateAnswers :=
  match op with
  | .create _ answers _ => some answers
  | .setAlarm seconds answers =>
    if seconds ≠ 0 ∧ s.vars timerInst = none then some answers.create else none
  | _ => none

structure CreateAnswers.Succeeds (answers : CreateAnswers) : Prop where
  malloc : answers.malloc ≠ none
  sigaction : answers.sigaction = true
  timerCreate : answers.timerCreate ≠ none

structure SameResources (s s' : SoftTimers) : Prop where
  vars : s'.vars = s.vars
  heap : s'.heap = s.heap
  timers : s'.timers = s.timers
  sigalrm : s'.sigalrm = s.sigalrm
  inUsed : s'.softTimerInUsed = s.softTimerInUsed

/--
A creation that fails at some point leaves everything as it was. No pointer leads to an instance that is not
wholly created, and no call runs on one.
-/
structure CreateRight (v : TimerVisit) : Prop where
  restored : ∀ answers, createCall v.pre v.event = some answers →
    ¬(v.pre.softTimerInUsed = false ∧ answers.Succeeds) → SameResources v.pre v.post
  published : ∀ var p, v.post.vars var = some p → Created v.post p
  ran : ∀ p ∈ v.obs, Created v.post p

/--
The memory is allocated for a creation, and then the signal cannot be set up or the kernel has no timer.
-/
def FailsAfterMalloc (v : TimerVisit) : Prop :=
  ∃ answers, createCall v.pre v.event = some answers ∧ v.pre.softTimerInUsed = false
    ∧ answers.malloc ≠ none ∧ (answers.sigaction = false ∨ answers.timerCreate = none)

/-
What no call but a creation or a destruction changes.
-/
structure Keeps (s s' : SoftTimers) : Prop where
  inUsed : s'.softTimerInUsed = s.softTimerInUsed
  vars : s'.vars = s.vars
  sigalrm : s'.sigalrm = s.sigalrm
  heap : ∀ p i, s.heap p = some i → ∃ i', s'.heap p = some i' ∧ i'.timerid = i.timerid
  timers : ∀ t, (s.timers t).isSome = true → (s'.timers t).isSome = true

theorem Keeps.refl (s : SoftTimers) : Keeps s s where
  inUsed := rfl
  vars := rfl
  sigalrm := rfl
  heap := fun _ i hi => ⟨i, hi, rfl⟩
  timers := fun _ ht => ht

theorem Keeps.trans {s s' s'' : SoftTimers} (h : Keeps s s') (h' : Keeps s' s'') : Keeps s s'' where
  inUsed := h'.inUsed.trans h.inUsed
  vars := h'.vars.trans h.vars
  sigalrm := h'.sigalrm.trans h.sigalrm
  heap := by
    intro p i hi
    obtain ⟨i', hi', hid'⟩ := h.heap p i hi
    obtain ⟨i'', hi'', hid''⟩ := h'.heap p i' hi'
    exact ⟨i'', hi'', hid''.trans hid'⟩
  timers := fun t ht => h'.timers t (h.timers t ht)

theorem Keeps.store {s : SoftTimers} {p : Nat} {i i' : DrvSoftTimerInst} (hi : s.heap p = some i)
    (hid : i'.timerid = i.timerid)
    : Keeps s (s.store p i') where
  inUsed := rfl
  vars := rfl
  sigalrm := rfl
  heap := by
    intro q j hj
    by_cases hq : q = p
    . subst hq
      rw [hi, Option.some.injEq] at hj
      subst hj
      exact ⟨i', Function.update_self _ _ _, hid⟩
    . exact ⟨j, (Function.update_of_ne hq _ _).trans hj, rfl⟩
  timers := fun _ ht => ht

theorem Keeps.settime (s : SoftTimers) (timerid : Nat) (its : Itimerspec)
    : Keeps s (s.settime timerid its) where
  inUsed := rfl
  vars := rfl
  sigalrm := rfl
  heap := fun _ i hi => ⟨i, hi, rfl⟩
  timers := by
    intro t ht
    by_cases htimer : t = timerid
    . subst htimer
      dsimp only [SoftTimers.settime]
      rw [Function.update_self, Option.isSome_map]
      exact ht
    . dsimp only [SoftTimers.settime]
      rw [Function.update_of_ne htimer]
      exact ht

theorem Keeps.alarmed {s s' : SoftTimers} (h : Keeps s s') (alarmed : Bool)
    : Keeps s { s' with timingAlarmed := alarmed } where
  inUsed := h.inUsed
  vars := h.vars
  sigalrm := h.sigalrm
  heap := h.heap
  timers := h.timers

theorem heap_of_deref {s : SoftTimers} {inst : Option Nat} {p : Nat} {i : DrvSoftTimerInst}
    (h : s.deref inst = some (p, i))
    : s.heap p = some i := by
  cases inst with
  | none => cases h
  | some q =>
    simp only [SoftTimers.deref, Option.bind_some, Option.map_eq_some_iff, Prod.mk.injEq] at h
    obtain ⟨j, hj, rfl, rfl⟩ := h
    exact hj

section

variable (s : SoftTimers) (inst : Option Nat)

theorem configure_keeps {set : DrvSoftTimerInst → DrvSoftTimerInst} (hset : ∀ i, (set i).timerid = i.timerid)
    : Keeps s (s.configure inst set).2 := by
  unfold SoftTimers.configure
  split
  . exact .refl s
  next p i hderef =>
    split
    . exact .refl s
    . exact .store (heap_of_deref hderef) (hset i)

theorem drvSoftTimerSetMode_keeps (mode : RtHwtimerMode)
    : Keeps s (drvSoftTimerSetMode s inst mode).2 := by
  apply configure_keeps
  intro i
  rfl

theorem drvSoftTimerSetPeriod_keeps (periodMs : BitVec 32)
    : Keeps s (drvSoftTimerSetPeriod s inst periodMs).2 := by
  apply configure_keeps
  intro i
  rfl

theorem drvSoftTimerRegisterIrq_keeps (callback : Option IrqCallback) (userargs : Nat)
    : Keeps s (drvSoftTimerRegisterIrq s inst callback userargs).2 := by
  apply configure_keeps
  intro i
  rfl

theorem drvSoftTimerStart_keeps (settime : Bool) : Keeps s (drvSoftTimerStart s inst settime).2 := by
  unfold drvSoftTimerStart
  split
  . exact .refl s
  next p i hderef =>
    have hheap := heap_of_deref hderef
    split
    . exact .refl s
    . dsimp only
      split
      . exact .refl s
      . apply (Keeps.settime s _ _).trans
        exact .store hheap rfl

theorem drvSoftTimerStop_keeps (settime : Bool) : Keeps s (drvSoftTimerStop s inst settime).2 := by
  unfold drvSoftTimerStop
  split
  . exact .refl s
  next p i hderef =>
    have hheap := heap_of_deref hderef
    split
    . split
      . exact .refl s
      . apply (Keeps.settime s _ _).trans
        exact .store hheap rfl
    . exact .store hheap rfl

end

theorem softTimerSigHandler_keeps (s : SoftTimers) (siPtr : Nat) (settime : Bool)
    : Keeps s (softTimerSigHandler s siPtr settime).1
        ∧ ∀ p ∈ (softTimerSigHandler s siPtr settime).2, s.vars timerInst = some p := by
  unfold softTimerSigHandler
  split
  . exact ⟨.refl s, by simp⟩
  split
  . exact ⟨.refl s, by simp⟩
  split
  . exact ⟨.refl s, by simp⟩
  split
  . unfold timerIrq
    dsimp only
    split
    . exact ⟨(Keeps.refl s).alarmed true, by simp⟩
    next p hp =>
      constructor
      . exact ((Keeps.refl s).alarmed true).trans (drvSoftTimerStop_keeps _ _ _)
      . simpa using hp
  . exact ⟨.refl s, by simp⟩

/-
While calls are right, at most one caller has an instance, and none has one while none is in use.
-/
structure Inv (s : SoftTimers) : Prop where
  unused : s.softTimerInUsed = false → ∀ var, s.vars var = none
  single : ∀ var var', s.vars var ≠ none → s.vars var' ≠ none → var = var'
  created : ∀ var p, s.vars var = some p → Created s p

theorem inv_init : Inv .init where
  unused := fun _ _ => rfl
  single := fun _ _ h => absurd rfl h
  created := nofun

theorem Created.keeps {s s' : SoftTimers} (hkeeps : Keeps s s') {p : Nat} (h : Created s p)
    : Created s' p := by
  obtain ⟨i, hi, htimer, hsigalrm⟩ := h
  obtain ⟨i', hi', hid⟩ := hkeeps.heap p i hi
  refine ⟨i', hi', ?_, hkeeps.sigalrm.trans hsigalrm⟩
  rw [hid]
  exact hkeeps.timers _ htimer

theorem Inv.keeps {s s' : SoftTimers} (hkeeps : Keeps s s') (h : Inv s) : Inv s' where
  unused := by
    rw [hkeeps.inUsed, hkeeps.vars]
    exact h.unused
  single := by
    rw [hkeeps.vars]
    exact h.single
  created := by
    rw [hkeeps.vars]
    intro var p hp
    exact (h.created var p hp).keeps hkeeps

theorem Inv.of_none {s : SoftTimers} (h : ∀ var, s.vars var = none) : Inv s where
  unused := fun _ => h
  single := fun var _ hvar => absurd (h var) hvar
  created := by
    intro var p hp
    rw [h var] at hp
    cases hp

theorem Inv.of_update {s s' : SoftTimers} {var p : Nat} (hvars : s'.vars = Function.update s.vars var (some p))
    (hnone : ∀ var, s.vars var = none) (hinUsed : s'.softTimerInUsed = true) (hcreated : Created s' p)
    : Inv s' := by
  have hvar : ∀ var' q, s'.vars var' = some q → var' = var ∧ q = p := by
    intro var' q hq
    rw [hvars] at hq
    by_cases hsame : var' = var
    . subst hsame
      rw [Function.update_self, Option.some.injEq] at hq
      exact ⟨rfl, hq.symm⟩
    . rw [Function.update_of_ne hsame, hnone] at hq
      cases hq
  constructor
  . intro hunused
    rw [hinUsed] at hunused
    cases hunused
  . intro var' var'' hvar' hvar''
    obtain ⟨q', hq'⟩ := Option.ne_none_iff_exists'.mp hvar'
    obtain ⟨q'', hq''⟩ := Option.ne_none_iff_exists'.mp hvar''
    rw [(hvar var' q' hq').1, (hvar var'' q'' hq'').1]
  . intro var' q hq
    rw [(hvar var' q hq).2]
    exact hcreated

theorem Inv.destroy {s : SoftTimers} (h : Inv s) (var : Nat) (answers : DestroyAnswers)
    : Inv (drvSoftTimerDestroy s var answers) := by
  unfold drvSoftTimerDestroy
  split
  . exact h
  next p i hderef =>
    split
    . exact h
    . have hkeeps := (drvSoftTimerStop_keeps s (some p) answers.settime).trans
        (drvSoftTimerRegisterIrq_keeps _ (some p) none 0)
      have hvar : s.vars var ≠ none := by
        intro hnone
        rw [hnone] at hderef
        cases hderef
      apply Inv.of_none
      intro var'
      dsimp only [drvSoftTimerUnregisterIrq]
      by_cases hsame : var' = var
      . subst hsame
        rw [Function.update_self]
      . rw [Function.update_of_ne hsame, hkeeps.vars]
        by_contra hother
        exact hsame (h.single var' var hother hvar)

section

variable {s : SoftTimers} (h : Inv s) (var : Nat) (answers : CreateAnswers) (destroy : DestroyAnswers)
include h

theorem create_not_begun (hfails : s.softTimerInUsed = true ∨ answers.malloc = none)
    : drvSoftTimerCreate s var answers destroy = (-1, s) := by
  unfold drvSoftTimerCreate
  split
  . rfl
  next hunused =>
    have hnone := h.unused (by simpa using hunused)
    have hvars : Function.update s.vars var none = s.vars :=
      Function.update_eq_self_iff.mpr (hnone var).symm
    simp only [hnone, hfails.resolve_left hunused, hvars]

theorem create_begun (hunused : s.softTimerInUsed = false) {p : Nat} (hmalloc : answers.malloc = some p)
    : (drvSoftTimerCreate s var answers destroy).2.vars var = some p := by
  unfold drvSoftTimerCreate
  simp only [hunused, h.unused hunused, hmalloc, Bool.false_eq_true, if_false]
  split <;> split <;> apply Function.update_self

theorem create_succeeds (hunused : s.softTimerInUsed = false) (hanswers : answers.Succeeds)
    : (drvSoftTimerCreate s var answers destroy).1 = 0
        ∧ Inv (drvSoftTimerCreate s var answers destroy).2 := by
  obtain ⟨p, hp⟩ := Option.ne_none_iff_exists'.mp hanswers.malloc
  obtain ⟨t, ht⟩ := Option.ne_none_iff_exists'.mp hanswers.timerCreate
  have hnone := h.unused hunused
  unfold drvSoftTimerCreate
  simp only [hunused, hnone, hp, ht, hanswers.sigaction, Bool.false_eq_true, if_false, if_true]
  refine ⟨trivial, ?_⟩
  apply Inv.of_update rfl hnone rfl
  refine ⟨_, Function.update_self _ _ _, ?_, rfl⟩
  dsimp only
  rw [Function.update_self]
  rfl

end

section

variable (s : SoftTimers) {seconds : BitVec 32} (answers : AlarmAnswers)

theorem setAlarm_started_keeps
    : let s₁ := (drvSoftTimerSetMode s (s.vars timerInst) .oneshot).2
      let s₂ := (drvSoftTimerSetPeriod s₁ (s₁.vars timerInst) (seconds * 1000)).2
      let s₃ := (drvSoftTimerRegisterIrq s₂ (s₂.vars timerInst) (some .timerIrq) 0).2
      Keeps s (drvSoftTimerStart s₃ (s₃.vars timerInst) answers.start).2 := by
  apply (drvSoftTimerSetMode_keeps s _ _).trans
  apply (drvSoftTimerSetPeriod_keeps _ _ _).trans
  apply (drvSoftTimerRegisterIrq_keeps _ _ _ _).trans
  apply drvSoftTimerStart_keeps

/-
The alarm of an instance that is there already, or one that is cancelled.
-/
theorem setAlarm_keeps (h : seconds = 0 ∨ s.vars timerInst ≠ none)
    : Keeps s (mbedtlsSetAlarm s seconds answers).1
        ∧ ∀ p ∈ (mbedtlsSetAlarm s seconds answers).2, s.vars timerInst = some p := by
  unfold mbedtlsSetAlarm
  dsimp only
  generalize hpending : (if s.vars timerInst ≠ none ∧ drvSoftTimerIsStarted s (s.vars timerInst) = true
    then (s.vars timerInst).toList else []) = stopped
  generalize hstop : (if s.vars timerInst ≠ none ∧ drvSoftTimerIsStarted s (s.vars timerInst) = true
    then (drvSoftTimerStop s (s.vars timerInst) answers.stop).2 else s) = s'
  have hstopped : ∀ p ∈ stopped, s.vars timerInst = some p := by
    rw [← hpending]
    split <;> simp
  have hkeeps : Keeps s s' := by
    rw [← hstop]
    split
    . apply drvSoftTimerStop_keeps
    . exact .refl s
  split
  . exact ⟨hkeeps.alarmed true, hstopped⟩
  next hseconds =>
    obtain ⟨p, hp⟩ := Option.ne_none_iff_exists'.mp (h.resolve_left hseconds)
    have hp' : s'.vars timerInst = some p := hkeeps.vars ▸ hp
    simp only [hp', ne_eq, not_true, if_false]
    have hstarted := @setAlarm_started_keeps { s' with timingAlarmed := false } seconds answers
    simp only [hp'] at hstarted
    constructor
    . exact (hkeeps.alarmed false).trans hstarted
    . intro q hq
      rw [List.mem_append] at hq
      cases hq with
      | inl hq => exact hstopped q hq
      | inr hq =>
        rw [hstarted.vars] at hq
        rw [← hkeeps.vars]
        exact Option.mem_toList.mp hq

theorem setAlarm_creates (hseconds : seconds ≠ 0) (hnull : s.vars timerInst = none)
    : let r := drvSoftTimerCreate { s with timingAlarmed := false } timerInst answers.create answers.destroy
      (r.1 ≠ 0 → mbedtlsSetAlarm s seconds answers = ({ r.2 with timingAlarmed := true }, []))
        ∧ (r.1 = 0 → Keeps r.2 (mbedtlsSetAlarm s seconds answers).1
          ∧ ∀ p ∈ (mbedtlsSetAlarm s seconds answers).2, r.2.vars timerInst = some p) := by
  dsimp only
  unfold mbedtlsSetAlarm
  simp only [hnull, ne_eq, not_true, false_and, if_false, hseconds, List.nil_append]
  generalize drvSoftTimerCreate { s with timingAlarmed := false } timerInst answers.create answers.destroy = r
  constructor
  . intro hret
    rw [if_pos hret]
  . intro hret
    rw [if_neg (not_not.mpr hret)]
    have hstarted := @setAlarm_started_keeps r.2 seconds answers
    constructor
    . exact hstarted
    . intro q hq
      rw [hstarted.vars] at hq
      exact Option.mem_toList.mp hq

end

theorem CreateAnswers.cases (s : SoftTimers) (answers : CreateAnswers)
    : (s.softTimerInUsed = true ∨ answers.malloc = none)
        ∨ (s.softTimerInUsed = false ∧ answers.Succeeds)
        ∨ (s.softTimerInUsed = false ∧ answers.malloc ≠ none
          ∧ (answers.sigaction = false ∨ answers.timerCreate = none)) := by
  by_cases hbegun : s.softTimerInUsed = true ∨ answers.malloc = none
  . exact Or.inl hbegun
  . rw [not_or, Bool.not_eq_true] at hbegun
    obtain ⟨hunused, hmalloc⟩ := hbegun
    by_cases hfails : answers.sigaction = false ∨ answers.timerCreate = none
    . exact Or.inr (Or.inr ⟨hunused, hmalloc, hfails⟩)
    . rw [not_or, Bool.not_eq_false] at hfails
      exact Or.inr (Or.inl ⟨hunused, hmalloc, hfails.1, hfails.2⟩)

/-
What a call leaves that does not fail after the allocation.
-/
structure StepRight (s : SoftTimers) (op : TimerOp) : Prop where
  inv : Inv (timerStep s op).1
  ran : ∀ p ∈ (timerStep s op).2, ∃ var, (timerStep s op).1.vars var = some p
  restored : ∀ answers, createCall s op = some answers →
    ¬(s.softTimerInUsed = false ∧ answers.Succeeds) → SameResources s (timerStep s op).1

section

variable {s : SoftTimers} (h : Inv s)
include h

theorem StepRight.of_keeps {op : TimerOp} (hcreate : createCall s op = none)
    (hkeeps : Keeps s (timerStep s op).1) (hran : ∀ p ∈ (timerStep s op).2, ∃ var, s.vars var = some p)
    : StepRight s op where
  inv := h.keeps hkeeps
  ran := by
    rw [hkeeps.vars]
    exact hran
  restored := by
    intro answers hanswers
    rw [hcreate] at hanswers
    cases hanswers

theorem stepRight_create (var : Nat) {answers : CreateAnswers} {destroy : DestroyAnswers}
    (hfails : ¬FailsAfterMalloc (timerMachine.visit s (.create var answers destroy)))
    : StepRight s (.create var answers destroy) := by
  rcases answers.cases s with hbegun | ⟨hunused, hanswers⟩ | hfailed
  . have hstep : timerStep s (.create var answers destroy) = (s, []) := by
      rw [timerStep, create_not_begun h var answers destroy hbegun]
    constructor
    . rw [hstep]
      exact h
    . rw [hstep]
      simp
    . rw [hstep]
      intro _ _ _
      exact ⟨rfl, rfl, rfl, rfl, rfl⟩
  . constructor
    . exact (create_succeeds h var answers destroy hunused hanswers).2
    . nofun
    . intro answers' hanswers' hfailed
      cases hanswers'
      exact absurd ⟨hunused, hanswers⟩ hfailed
  . exact absurd ⟨answers, rfl, hfailed⟩ hfails

theorem stepRight_setAlarm (seconds : BitVec 32) (answers : AlarmAnswers)
    (hfails : ¬FailsAfterMalloc (timerMachine.visit s (.setAlarm seconds answers)))
    : StepRight s (.setAlarm seconds answers) := by
  by_cases hcreate : seconds ≠ 0 ∧ s.vars timerInst = none
  . have hcall : createCall s (.setAlarm seconds answers) = some answers.create := if_pos hcreate
    have hs' : Inv { s with timingAlarmed := false } := h.keeps ((Keeps.refl s).alarmed false)
    obtain ⟨hfailed, hstarted⟩ := setAlarm_creates s answers hcreate.1 hcreate.2
    rcases answers.create.cases s with hbegun | ⟨hunused, hanswers⟩ | hfailed'
    . rw [create_not_begun hs' timerInst answers.create answers.destroy hbegun] at hfailed
      have hstep : timerStep s (.setAlarm seconds answers) = ({ s with timingAlarmed := true }, []) :=
        hfailed (show (-1 : Int) ≠ 0 by decide)
      constructor
      . rw [hstep]
        exact h.keeps ((Keeps.refl s).alarmed true)
      . rw [hstep]
        simp
      . rw [hstep]
        intro _ _ _
        exact ⟨rfl, rfl, rfl, rfl, rfl⟩
    . obtain ⟨hret, hinv⟩ := create_succeeds hs' timerInst answers.create answers.destroy hunused hanswers
      obtain ⟨hkeeps, hran⟩ := hstarted hret
      constructor
      . exact hinv.keeps hkeeps
      . intro p hp
        refine ⟨timerInst, ?_⟩
        rw [timerStep, hkeeps.vars]
        exact hran p hp
      . intro answers' hanswers' hfailed'
        rw [hcall, Option.some.injEq] at hanswers'
        subst hanswers'
        exact absurd ⟨hunused, hanswers⟩ hfailed'
    . exact absurd ⟨answers.create, hcall, hfailed'⟩ hfails
  . have hkept : seconds = 0 ∨ s.vars timerInst ≠ none := by
      rw [not_and_or, not_not] at hcreate
      exact hcreate
    obtain ⟨hkeeps, hran⟩ := setAlarm_keeps s answers hkept
    have hcall : createCall s (.setAlarm seconds answers) = none := if_neg hcreate
    exact .of_keeps h hcall hkeeps fun p hp => ⟨timerInst, hran p hp⟩

theorem stepRight_of_not_fails (op : TimerOp) (hfails : ¬FailsAfterMalloc (timerMachine.visit s op))
    : StepRight s op := by
  have hpointer : ∀ var, ∀ p ∈ (s.vars var).toList, ∃ var, s.vars var = some p :=
    fun var p hp => ⟨var, Option.mem_toList.mp hp⟩
  cases op with
  | create var answers destroy => exact stepRight_create h var hfails
  | destroy var answers =>
    constructor
    . exact h.destroy var answers
    . nofun
    . nofun
  | setMode var mode => exact .of_keeps h rfl (drvSoftTimerSetMode_keeps _ _ _) (hpointer var)
  | setPeriod var periodMs => exact .of_keeps h rfl (drvSoftTimerSetPeriod_keeps _ _ _) (hpointer var)
  | registerIrq var callback userargs =>
    exact .of_keeps h rfl (drvSoftTimerRegisterIrq_keeps _ _ _ _) (hpointer var)
  | start var settime => exact .of_keeps h rfl (drvSoftTimerStart_keeps _ _ _) (hpointer var)
  | stop var settime => exact .of_keeps h rfl (drvSoftTimerStop_keeps _ _ _) (hpointer var)
  | setAlarm seconds answers => exact stepRight_setAlarm h seconds answers hfails
  | signal siPtr settime =>
    obtain ⟨hkeeps, hran⟩ := softTimerSigHandler_keeps s siPtr settime
    exact .of_keeps h rfl hkeeps fun p hp => ⟨timerInst, hran p hp⟩

theorem vars_of_malloc {op : TimerOp} {answers : CreateAnswers} (hcall : createCall s op = some answers)
    (hunused : s.softTimerInUsed = false) {p : Nat} (hmalloc : answers.malloc = some p)
    : ∃ var, (timerStep s op).1.vars var = some p := by
  cases op with
  | create var answers' destroy =>
    cases hcall
    exact ⟨var, create_begun h var answers destroy hunused hmalloc⟩
  | setAlarm seconds answers' =>
    simp only [createCall, Option.ite_none_right_eq_some, Option.some.injEq] at hcall
    obtain ⟨⟨hseconds, hnull⟩, rfl⟩ := hcall
    have hs' : Inv { s with timingAlarmed := false } := h.keeps ((Keeps.refl s).alarmed false)
    obtain ⟨hfailed, hstarted⟩ := setAlarm_creates s answers' hseconds hnull
    have hvar := create_begun hs' timerInst answers'.create answers'.destroy hunused hmalloc
    refine ⟨timerInst, ?_⟩
    by_cases hret : (drvSoftTimerCreate { s with timingAlarmed := false } timerInst answers'.create
        answers'.destroy).1 = 0
    . rw [timerStep, (hstarted hret).1.vars]
      exact hvar
    . rw [timerStep, hfailed hret]
      exact hvar
  | _ => cases hcall

theorem createRight_iff (op : TimerOp)
    : CreateRight (timerMachine.visit s op) ↔ ¬FailsAfterMalloc (timerMachine.visit s op) := by
  constructor
  . rintro hright ⟨answers, hcall, hunused, hmalloc, hfailed⟩
    have hsame := hright.restored answers hcall (by
      rintro ⟨-, hanswers⟩
      cases hfailed with
      | inl hsigaction => simp [hanswers.sigaction] at hsigaction
      | inr htimer => exact hanswers.timerCreate htimer)
    obtain ⟨p, hp⟩ := Option.ne_none_iff_exists'.mp hmalloc
    obtain ⟨var, hvar⟩ := vars_of_malloc h hcall hunused hp
    have hpre : s.vars var = some p := hsame.vars ▸ hvar
    rw [h.unused hunused] at hpre
    cases hpre
  . intro hfails
    have hright := stepRight_of_not_fails h op hfails
    constructor
    . exact hright.restored
    . exact hright.inv.created
    . intro p hp
      obtain ⟨var, hvar⟩ := hright.ran p hp
      exact hright.inv.created var p hvar

end

theorem timer_createRight_iff (ops : List TimerOp)
    : (∀ v ∈ timerMachine.visits .init ops, CreateRight v)
        ↔ ∀ v ∈ timerMachine.visits .init ops, ¬FailsAfterMalloc v := by
  apply Machine.forall_visits_iff Inv
  . intro s op hs hfails
    exact (stepRight_of_not_fails hs op hfails).inv
  . intro s op hs
    exact createRight_iff hs op
  . exact inv_init

/-
The kernel has no timer for the first alarm, and so the second one runs on an instance without a timer.
-/
def noTimerAnswers : AlarmAnswers := ⟨true, ⟨some 100, true, none⟩, ⟨true, true⟩, true⟩

theorem setAlarm_runs_halfCreated
    : ¬∀ (ops : List TimerOp), ∀ v ∈ timerMachine.visits .init ops, CreateRight v := by
  intro h
  have hright := h ([.setAlarm 1 noTimerAnswers] ++ [.setAlarm 2 noTimerAnswers]) _
    (Machine.visit_final_mem _ _ _ _)
  have hran : 100 ∈ (timerMachine.visit (timerMachine.final .init [.setAlarm 1 noTimerAnswers])
      (.setAlarm 2 noTimerAnswers)).obs := by decide
  obtain ⟨i, hi, htimer, -⟩ := hright.ran 100 hran
  cases hi
  revert htimer
  decide

end SoftTimer

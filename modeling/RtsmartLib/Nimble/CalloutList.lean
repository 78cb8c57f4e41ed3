import RtsmartLib.Nimble.Callout

/-!
This module contains when the list of callouts stays a list, and which steps break it.
-/

namespace Nimble

open Lib

/-
The callouts with a log of which of them have been reset since their last init.
-/
structure LoggedCallouts where
  state : CalloutState
  reset : Nat → Bool

def LoggedCallouts.init : LoggedCallouts :=
  ⟨.init, fun _ => false⟩

def resetLogStep (s : LoggedCallouts) (op : CalloutOp) : Nat → Bool :=
  match op with
  | .init c _ _ _ _ => Function.update s.reset c false
  | .reset c ticks =>
    match (bleNplCalloutReset s.state c ticks).1 with
    | .ok => Function.update s.reset c true
    | .error => s.reset
  | _ => s.reset

def loggedMachine : Machine LoggedCallouts CalloutOp (Option Expiry) :=
  ⟨fun s op => (⟨(calloutStep s.state op).1, resetLogStep s op⟩, (calloutStep s.state op).2)⟩

/-
The scan comes to an end, and if it finds nothing due then nothing active is due.
-/
def ScanFinds (s : CalloutState) : Prop :=
  ∃ fuel res, calloutScan s (bleNplTimeGet s) fuel s.calloutList uint32Max = some res
    ∧ ∀ waitMs, res = .wait waitMs →
      ∀ c, (s.callouts c).active = true → 0 < remaining (s.callouts c) (bleNplTimeGet s)

/-
The list has an end and each callout that has been reset since its last init once.
-/
structure CalloutListOk (s : LoggedCallouts) : Prop where
  list : ∃ cells, Chain s.state.next s.state.calloutList cells
    ∧ ∀ c, s.reset c = true → cells.count c = 1
  scan : ScanFinds s.state

structure CalloutInv (s : LoggedCallouts) : Prop where
  ok : CalloutListOk s
  listed : ∀ c, (s.state.callouts c).listed = s.reset c
  active : ∀ c, (s.state.callouts c).active = true → (s.state.callouts c).listed = true

theorem calloutScan_chain {s : CalloutState} {now : BleNplTime} {head : Option Nat}
    {cells : List Nat} (h : Chain s.next head cells) (waitMs : Nat)
    : ∃ fuel res, calloutScan s now fuel head waitMs = some res
        ∧ ∀ waitMs', res = .wait waitMs' →
          ∀ c ∈ cells, (s.callouts c).active = true → 0 < remaining (s.callouts c) now := by
  induction cells generalizing head waitMs with
  | nil =>
    have hhead : head = none := h
    subst hhead
    exists 1, .wait waitMs
    constructor
    . rfl
    . intro _ _ c hmem
      cases hmem
  | cons c cells ih =>
    have hhead : head = some c := h.1
    subst hhead
    by_cases hactive : (s.callouts c).active = true
    . by_cases hdue : remaining (s.callouts c) now ≤ 0
      . exists 1, .due c
        constructor
        . simp [calloutScan, hactive, hdue]
        . intro _ hres
          cases hres
      . obtain ⟨fuel, res, hscan, hfinds⟩ :=
          ih h.2 (min (remaining (s.callouts c) now).toNat waitMs)
        exists fuel + 1, res
        constructor
        . simp only [calloutScan, hactive, hdue]
          apply hscan
        . intro waitMs' hres d hmem hd
          cases hmem with
          | head => omega
          | tail _ hmem =>
            apply hfinds waitMs' hres d hmem hd
    . obtain ⟨fuel, res, hscan, hfinds⟩ := ih h.2 waitMs
      exists fuel + 1, res
      constructor
      . simp only [calloutScan, hactive]
        apply hscan
      . intro waitMs' hres d hmem hd
        cases hmem with
        | head => contradiction
        | tail _ hmem =>
          apply hfinds waitMs' hres d hmem hd

theorem ScanFinds.of_chain {s : CalloutState} {cells : List Nat}
    (h : Chain s.next s.calloutList cells) (hactive : ∀ c, (s.callouts c).active = true → c ∈ cells)
    : ScanFinds s := by
  obtain ⟨fuel, res, hscan, hfinds⟩ := @calloutScan_chain s (bleNplTimeGet s) _ _ h uint32Max
  exists fuel, res
  constructor
  . apply hscan
  . intro waitMs hres c hc
    apply hfinds waitMs hres c (hactive c hc) hc

theorem CalloutInv.of_chain {s : LoggedCallouts} {cells : List Nat}
    (h : Chain s.state.next s.state.calloutList cells) (hreset : ∀ c, s.reset c = true → c ∈ cells)
    (hlisted : ∀ c, (s.state.callouts c).listed = s.reset c)
    (hactive : ∀ c, (s.state.callouts c).active = true → (s.state.callouts c).listed = true)
    : CalloutInv s := by
  refine ⟨⟨⟨cells, h, ?_⟩, ?_⟩, hlisted, hactive⟩
  . intro c hc
    apply List.count_eq_one_of_mem h.nodup (hreset c hc)
  . apply ScanFinds.of_chain h
    intro c hc
    apply hreset
    rw [← hlisted]
    apply hactive c hc

theorem CalloutListOk.mem {s : LoggedCallouts} (hok : CalloutListOk s) {cells : List Nat}
    (h : Chain s.state.next s.state.calloutList cells) {c : Nat} (hc : s.reset c = true)
    : c ∈ cells := by
  obtain ⟨cells', h', hcount⟩ := hok.list
  rw [h.unique h']
  apply List.count_pos_iff.mp
  rw [hcount c hc]
  decide

/-
An init cuts off what comes after the callout on the list. That is harmless only if all of it has been
initialised again as well.
-/
def CutsOff (s : LoggedCallouts) (c : Nat) : Prop :=
  ∃ before after, Chain s.state.next s.state.calloutList (before ++ c :: after)
    ∧ ∃ d ∈ after, s.reset d = true

/-
A reset links a callout in that an init has made forget that it is on the list.
-/
def LinksAgain (s : LoggedCallouts) (c : Nat) : Prop :=
  s.state.calloutThreadReady = true
    ∧ s.reset c = false
    ∧ ∃ cells, Chain s.state.next s.state.calloutList cells ∧ c ∈ cells

def BreaksList (v : Machine.Visit LoggedCallouts CalloutOp (Option Expiry)) : Prop :=
  match v.event with
  | .init c _ _ _ _ => CutsOff v.pre c
  | .reset c _ => LinksAgain v.pre c
  | _ => False

section

variable {s : LoggedCallouts} (hinv : CalloutInv s)

/-
Steps that leave all links, the list and the log alone.
-/
include hinv in
theorem CalloutInv.same {state : CalloutState} (hnext : state.next = s.state.next)
    (hlist : state.calloutList = s.state.calloutList)
    (hlisted : ∀ c, (state.callouts c).listed = (s.state.callouts c).listed)
    (hactive : ∀ c, (state.callouts c).active = true → (s.state.callouts c).active = true)
    : CalloutInv ⟨state, s.reset⟩ := by
  obtain ⟨cells, hchain, _⟩ := hinv.ok.list
  apply @CalloutInv.of_chain _ cells
  . rw [hnext, hlist]
    apply hchain
  . intro c hc
    apply hinv.ok.mem hchain hc
  . intro c
    rw [hlisted]
    apply hinv.listed
  . intro c hc
    rw [hlisted]
    apply hinv.active c (hactive c hc)

theorem bleNplCalloutInit_next (s : CalloutState) (c : Nat) (eventq fn : Option Nat) (arg : Nat)
    (created : Bool)
    : (bleNplCalloutInit s c eventq fn arg created).next = Function.update s.next c none := by
  have hnext := next_set s c { BleNplCallout.zero with event := ⟨fn, arg⟩, eventq }
  have hcallouts := (bleNplCalloutInit_frame s c eventq fn arg created).1
  unfold CalloutState.next at hnext ⊢
  rw [hcallouts]
  apply hnext

/-
The list after an init, whether or not the callout is on it.
-/
include hinv in
theorem chain_init (c : Nat)
    : ∃ cells, Chain (Function.update s.state.next c none) s.state.calloutList cells
        ∧ ((∀ d, d ≠ c → s.reset d = true → d ∈ cells) ↔ ¬CutsOff s c) := by
  obtain ⟨cells, hchain, _⟩ := hinv.ok.list
  by_cases hmem : c ∈ cells
  . obtain ⟨before, after, heq⟩ := List.append_of_mem hmem
    subst heq
    exists before ++ [c]
    constructor
    . apply hchain.truncate
    . constructor
      . intro hall ⟨before', after', hchain', d, hd, hreset⟩
        have htruncate := hchain.truncate.unique hchain'.truncate
        have hnodup := hchain'.nodup
        rw [List.nodup_append, List.nodup_cons] at hnodup
        obtain ⟨_, ⟨hafter, _⟩, hdisjoint⟩ := hnodup
        have hne : d ≠ c := by
          intro heq
          rw [heq] at hd
          contradiction
        have hmem' := hall d hne hreset
        rw [htruncate, List.mem_append, List.mem_singleton] at hmem'
        obtain hmem' | hmem' := hmem'
        . apply hdisjoint d hmem' d (List.mem_cons_of_mem c hd) rfl
        . contradiction
      . intro hcut d hne hreset
        have hd := hinv.ok.mem hchain hreset
        rw [List.mem_append, List.mem_cons] at hd
        obtain hd | hd | hd := hd
        . simp [hd]
        . contradiction
        . exact absurd ⟨before, after, hchain, d, hd, hreset⟩ hcut
  . exists cells
    constructor
    . apply hchain.update_of_not_mem hmem
    . constructor
      . intro _ ⟨before, after, hchain', _⟩
        rw [hchain.unique hchain'] at hmem
        simp at hmem
      . intro _ d _ hreset
        apply hinv.ok.mem hchain hreset

include hinv in
theorem init_inv {c : Nat} (hcut : ¬CutsOff s c) (eventq fn : Option Nat) (arg : Nat)
    (created : Bool)
    : CalloutInv ⟨bleNplCalloutInit s.state c eventq fn arg created,
        Function.update s.reset c false⟩ := by
  obtain ⟨hcallouts, hlist, _, _⟩ := bleNplCalloutInit_frame s.state c eventq fn arg created
  obtain ⟨cells, hchain, hkeeps⟩ := chain_init hinv c
  apply @CalloutInv.of_chain _ cells
  . rw [bleNplCalloutInit_next, hlist]
    apply hchain
  . intro d hd
    have hne : d ≠ c := by
      intro heq
      simp [heq] at hd
    change Function.update s.reset c false d = true at hd
    rw [Function.update_of_ne hne] at hd
    apply hkeeps.mpr hcut d hne hd
  . intro d
    rw [hcallouts]
    by_cases hne : d = c
    . simp [hne, BleNplCallout.zero]
    . simp [hne, hinv.listed]
  . intro d
    rw [hcallouts]
    by_cases hne : d = c
    . simp [hne, BleNplCallout.zero]
    . simp only [Function.update_of_ne hne]
      apply hinv.active

include hinv in
theorem init_not_ok {c : Nat} (hcut : CutsOff s c) (eventq fn : Option Nat) (arg : Nat)
    (created : Bool)
    : ¬CalloutListOk ⟨bleNplCalloutInit s.state c eventq fn arg created,
        Function.update s.reset c false⟩ := by
  intro hok
  obtain ⟨cells, hchain, hkeeps⟩ := chain_init hinv c
  apply hkeeps.mp _ hcut
  intro d hne hd
  apply hok.mem
  . rw [bleNplCalloutInit_next, (bleNplCalloutInit_frame s.state c eventq fn arg created).2.1]
    apply hchain
  . change Function.update s.reset c false d = true
    rw [Function.update_of_ne hne]
    apply hd

/-
The links and the list that a reset leaves.
-/
theorem bleNplCalloutReset_links {s : CalloutState} (hready : s.calloutThreadReady = true) (c : Nat)
    (ticks : BleNplTime)
    : let res := (bleNplCalloutReset s c ticks).2
      let listed := (s.callouts c).listed
      res.next = (if listed then s.next else Function.update s.next c s.calloutList)
        ∧ res.calloutList = (if listed then s.calloutList else some c)
        ∧ (res.callouts c).listed = true
        ∧ ∀ d, d ≠ c → res.callouts d = s.callouts d := by
  intro res listed
  unfold res listed
  rw [bleNplCalloutReset_ok s c ticks hready]
  refine ⟨?_, rfl, ?_, ?_⟩
  . have hnext := next_set s c (resetCallout s c ticks)
    unfold CalloutState.next at hnext ⊢
    rw [hnext]
    cases hlisted : (s.callouts c).listed with
    | false => simp [resetCallout, hlisted]
    | true => simp [resetCallout, hlisted]
  . simp [CalloutState.set, resetCallout]
  . intro d hne
    simp [hne, CalloutState.set]

include hinv in
theorem reset_inv {c : Nat} (hready : s.state.calloutThreadReady = true) (hagain : ¬LinksAgain s c)
    (ticks : BleNplTime)
    : CalloutInv ⟨(bleNplCalloutReset s.state c ticks).2, Function.update s.reset c true⟩ := by
  obtain ⟨hnext, hlist, hlisted, hothers⟩ := bleNplCalloutReset_links hready c ticks
  obtain ⟨cells, hchain, _⟩ := hinv.ok.list
  have hlog := hinv.listed c
  have hothersInv :
      ∀ d, ((bleNplCalloutReset s.state c ticks).2.callouts d).listed
            = Function.update s.reset c true d
          ∧ (((bleNplCalloutReset s.state c ticks).2.callouts d).active = true →
            ((bleNplCalloutReset s.state c ticks).2.callouts d).listed = true) := by
    intro d
    by_cases hne : d = c
    . subst hne
      simp [hlisted]
    . rw [hothers d hne, Function.update_of_ne hne]
      exact ⟨hinv.listed d, hinv.active d⟩
  cases hreset : s.reset c with
  | false =>
    rw [hreset] at hlog
    rw [hlog] at hnext hlist
    have hmem : c ∉ cells := by
      intro hmem
      apply hagain ⟨hready, hreset, cells, hchain, hmem⟩
    apply @CalloutInv.of_chain _ (c :: cells)
    . rw [hnext, hlist]
      apply hchain.push hmem
    . intro d hd
      by_cases hne : d = c
      . simp [hne]
      . change Function.update s.reset c true d = true at hd
        rw [Function.update_of_ne hne] at hd
        apply List.mem_cons_of_mem c (hinv.ok.mem hchain hd)
    . intro d
      apply (hothersInv d).1
    . intro d
      apply (hothersInv d).2
  | true =>
    rw [hreset] at hlog
    rw [hlog] at hnext hlist
    apply @CalloutInv.of_chain _ cells
    . rw [hnext, hlist]
      apply hchain
    . intro d hd
      by_cases hne : d = c
      . rw [hne]
        apply hinv.ok.mem hchain hreset
      . change Function.update s.reset c true d = true at hd
        rw [Function.update_of_ne hne] at hd
        apply hinv.ok.mem hchain hd
    . intro d
      apply (hothersInv d).1
    . intro d
      apply (hothersInv d).2

include hinv in
theorem reset_not_ok {c : Nat} (hagain : LinksAgain s c) (ticks : BleNplTime)
    : ¬CalloutListOk ⟨(bleNplCalloutReset s.state c ticks).2, Function.update s.reset c true⟩ := by
  obtain ⟨hready, hreset, cells, hchain, hmem⟩ := hagain
  obtain ⟨hnext, hlist, _, _⟩ := bleNplCalloutReset_links hready c ticks
  have hlog := hinv.listed c
  rw [hreset] at hlog
  rw [hlog] at hnext hlist
  intro hok
  obtain ⟨cells', hchain', _⟩ := hok.list
  apply hchain.not_push_of_mem hmem
  exists cells'
  rw [hnext, hlist] at hchain'
  apply hchain'

include hinv in
theorem stop_inv (c : Nat) : CalloutInv ⟨bleNplCalloutStop s.state c, s.reset⟩ := by
  apply hinv.same
  . unfold bleNplCalloutStop
    rw [next_set]
    apply Function.update_eq_self
  . rfl
  . intro d
    by_cases hne : d = c
    . simp [hne, bleNplCalloutStop, CalloutState.set]
    . simp [hne, bleNplCalloutStop, CalloutState.set]
  . intro d
    by_cases hne : d = c
    . simp [hne, bleNplCalloutStop, CalloutState.set]
    . simp [hne, bleNplCalloutStop, CalloutState.set]

include hinv in
theorem scan_inv (fuel : Nat) : CalloutInv ⟨calloutWorkerScan s.state fuel, s.reset⟩ := by
  unfold calloutWorkerScan
  generalize calloutScan s.state _ fuel _ _ = res
  match res with
  | none => apply hinv
  | some (.wait waitMs) =>
    apply hinv.same
    . rfl
    . rfl
    . intro d
      rfl
    . intro d hd
      apply hd
  | some (.due c) =>
    -- Only the flag and the worker change, as in a stop.
    apply (stop_inv hinv c).same
    . rfl
    . rfl
    . intro d
      rfl
    . intro d hd
      apply hd

end

/-
The callout thread only unlinks what it finds expired.
-/
theorem scan_step_inv {s : LoggedCallouts} (hinv : CalloutInv s) (fuel : Nat)
    : CalloutInv (loggedMachine.step s (.scan fuel)).1 := by
  have hscan := scan_inv hinv fuel
  simp only [loggedMachine, calloutStep, resetLogStep]
  split
  . apply hinv
  . dsimp only
    split
    . apply hscan
    . apply hinv

theorem deliver_inv {s : LoggedCallouts} (hinv : CalloutInv s)
    : CalloutInv (loggedMachine.step s .deliver).1 := by
  simp only [loggedMachine, calloutStep, resetLogStep]
  split
  . apply hinv.same
    . rfl
    . rfl
    . intro d
      rfl
    . intro d hd
      apply hd
  . apply hinv

theorem elapse_inv {s : LoggedCallouts} (hinv : CalloutInv s) (ms : Nat)
    : CalloutInv (loggedMachine.step s (.elapse ms)).1 := by
  apply hinv.same
  . rfl
  . rfl
  . intro d
    rfl
  . intro d hd
    apply hd

theorem loggedMachine_step {s : LoggedCallouts} (hinv : CalloutInv s) (op : CalloutOp)
    : (¬BreaksList (loggedMachine.visit s op) → CalloutInv (loggedMachine.step s op).1)
        ∧ (CalloutListOk (loggedMachine.step s op).1 ↔ ¬BreaksList (loggedMachine.visit s op)) := by
  cases op with
  | init c eventq fn arg created =>
    constructor
    . intro hcut
      apply init_inv hinv hcut
    . constructor
      . intro hok hcut
        apply init_not_ok hinv hcut eventq fn arg created hok
      . intro hcut
        apply (init_inv hinv hcut eventq fn arg created).ok
  | reset c ticks =>
    cases hready : s.state.calloutThreadReady with
    | false =>
      have hnot : ¬BreaksList (loggedMachine.visit s (.reset c ticks)) := by
        intro hagain
        have hready' : s.state.calloutThreadReady = true := hagain.1
        rw [hready] at hready'
        contradiction
      have hstep : (loggedMachine.step s (.reset c ticks)).1 = s := by
        simp [loggedMachine, calloutStep, resetLogStep, bleNplCalloutReset, hready]
      rw [hstep]
      exact ⟨fun _ => hinv, iff_of_true hinv.ok hnot⟩
    | true =>
      have hstep : (loggedMachine.step s (.reset c ticks)).1
          = ⟨(bleNplCalloutReset s.state c ticks).2, Function.update s.reset c true⟩ := by
        simp only [loggedMachine, calloutStep, resetLogStep]
        rw [bleNplCalloutReset_ok s.state c ticks hready]
      rw [hstep]
      constructor
      . intro hagain
        apply reset_inv hinv hready hagain
      . constructor
        . intro hok hagain
          apply reset_not_ok hinv hagain ticks hok
        . intro hagain
          apply (reset_inv hinv hready hagain ticks).ok
  | stop c =>
    have hstep := stop_inv hinv c
    exact ⟨fun _ => hstep, iff_of_true hstep.ok id⟩
  | scan fuel =>
    have hstep := scan_step_inv hinv fuel
    exact ⟨fun _ => hstep, iff_of_true hstep.ok id⟩
  | deliver =>
    have hstep := deliver_inv hinv
    exact ⟨fun _ => hstep, iff_of_true hstep.ok id⟩
  | elapse ms =>
    have hstep := elapse_inv hinv ms
    exact ⟨fun _ => hstep, iff_of_true hstep.ok id⟩

theorem loggedCallouts_init_inv : CalloutInv .init := by
  apply @CalloutInv.of_chain _ []
  . exact Chain.nil
  . intro c hc
    cases hc
  . intro c
    rfl
  . intro c hc
    cases hc

theorem calloutListOk_iff (ops : List CalloutOp)
    : (∀ v ∈ loggedMachine.visits .init ops, CalloutListOk v.post)
        ↔ (∀ v ∈ loggedMachine.visits .init ops, ¬BreaksList v) := by
  apply Machine.forall_visits_iff CalloutInv
  . intro s op hinv hnot
    apply (loggedMachine_step hinv op).1 hnot
  . intro s op hinv
    apply (loggedMachine_step hinv op).2
  . apply loggedCallouts_init_inv

/-
A callout that is reset, stopped, initialised again and reset.
-/
def restartedCallout : List CalloutOp :=
  [.init 0 (some 0) none 0 true, .reset 0 1, .stop 0, .init 0 (some 0) none 0 true, .reset 0 1]

theorem restartedCallout_not_ok
    : ¬CalloutListOk (loggedMachine.final .init restartedCallout) := by
  intro hok
  obtain ⟨cells, hchain, _⟩ := hok.list
  cases cells with
  | nil =>
    have hempty : (loggedMachine.final .init restartedCallout).state.calloutList = none := hchain
    exact absurd hempty (by decide)
  | cons c cells =>
    have hnodup := hchain.nodup
    have hc : c = 0 := Option.some.inj (hchain.1.symm.trans (by decide))
    subst hc
    cases cells with
    | nil =>
      have hend : (loggedMachine.final .init restartedCallout).state.next 0 = none := hchain.2
      exact absurd hend (by decide)
    | cons d cells =>
      have hd : d = 0 := Option.some.inj (hchain.2.1.symm.trans (by decide))
      simp [hd] at hnodup

end Nimble

import RtsmartLib.Nimble.Callout
import Mathlib.Algebra.Order.Group.Nat

/-!
This module contains what the callers of reset and stop may expect of the next expiry, and the steps
after which the worker can deliver one against it.
-/

namespace Nimble

open Lib

/-
What has been said about a callout last: nothing that restricts its next expiry, that there is to be
none, or that there is to be none before a point in time.
-/
inductive Expectation where
  | any
  | stopped
  | notBefore (deadline : Nat)

def Expectation.Allows (e : Expectation) (clock : Nat) : Prop :=
  match e with
  | .any => True
  | .stopped => False
  | .notBefore deadline => deadline ≤ clock

def Expectation.delivered (e : Expectation) : Expectation :=
  match e with
  | .notBefore _ => .any
  | e => e

structure ExpectedCallouts where
  state : CalloutState
  expectation : Nat → Expectation

def ExpectedCallouts.init : ExpectedCallouts :=
  ⟨.init, fun _ => .any⟩

def resetTicks (ticks : BleNplTime) : Nat :=
  (if ticks = 0 then 1 else ticks).toNat

def expectationStep (s : ExpectedCallouts) (op : CalloutOp) : Nat → Expectation :=
  match op with
  | .init c _ _ _ _ => Function.update s.expectation c .any
  | .reset c ticks =>
    match (bleNplCalloutReset s.state c ticks).1 with
    | .ok => Function.update s.expectation c (.notBefore (s.state.clock + resetTicks ticks))
    | .error => s.expectation
  | .stop c => Function.update s.expectation c .stopped
  | .deliver =>
    match s.state.worker with
    | .holding due => Function.update s.expectation due (s.expectation due).delivered
    | _ => s.expectation
  | _ => s.expectation

def expectedMachine : Machine ExpectedCallouts CalloutOp (Option Expiry) :=
  ⟨fun s op => (⟨(calloutStep s.state op).1, expectationStep s op⟩, (calloutStep s.state op).2)⟩

/-
The worker may deliver what it holds at any moment.
-/
def DeliverySafe (s : ExpectedCallouts) : Prop :=
  ∀ c, s.state.worker = .holding c → (s.expectation c).Allows s.state.clock

def ExpiresAsExpected (v : Machine.Visit ExpectedCallouts CalloutOp (Option Expiry)) : Prop :=
  DeliverySafe v.post
    ∧ ∀ e, v.obs = some e → (v.pre.expectation e.callout).Allows v.pre.state.clock

/-
A stop or a reset comes while the worker holds the callout, or the worker takes a callout whose
deadline is 2^31 milliseconds or more away, so that the signed difference is negative.
-/
def MissesExpectation (v : Machine.Visit ExpectedCallouts CalloutOp (Option Expiry)) : Prop :=
  let s := v.pre.state
  match v.event with
  | .stop c => s.worker = .holding c
  | .reset c _ => s.calloutThreadReady = true ∧ s.worker = .holding c
  | .scan fuel =>
    (∀ c, s.worker ≠ .holding c)
      ∧ s.calloutThreadReady = true
      ∧ ∃ c deadline, calloutScan s (bleNplTimeGet s) fuel s.calloutList uint32Max = some (.due c)
        ∧ v.pre.expectation c = .notBefore deadline
        ∧ s.clock + 2 ^ 31 ≤ deadline
  | _ => False

structure ExpiryInv (s : ExpectedCallouts) : Prop where
  safe : DeliverySafe s
  held : ∀ c, s.state.worker = .holding c → (s.state.callouts c).active = false
  active : ∀ c, (s.state.callouts c).active = true →
    ∃ deadline, s.expectation c = .notBefore deadline
      ∧ (s.state.callouts c).deadline = BitVec.ofNat 32 deadline
      ∧ deadline < s.state.clock + 2 ^ 32

theorem calloutScan_due {s : CalloutState} {now : BleNplTime} {fuel : Nat} {head : Option Nat}
    {waitMs c : Nat} (h : calloutScan s now fuel head waitMs = some (.due c))
    : (s.callouts c).active = true ∧ remaining (s.callouts c) now ≤ 0 := by
  induction fuel generalizing head waitMs with
  | zero => cases h
  | succ fuel ih =>
    cases head with
    | none =>
      simp [calloutScan] at h
    | some d =>
      unfold calloutScan at h
      dsimp only at h
      split at h
      . apply ih h
      next hactive =>
        split at h
        next hdue =>
          injection h with h
          injection h with h
          subst h
          simp at hactive
          exact ⟨hactive, hdue⟩
        next =>
          apply ih h

/-
The signed 32 bit difference is right as long as the deadline is less than 2^31 milliseconds away.
-/
theorem remaining_le_zero {callout : BleNplCallout} {clock deadline : Nat}
    (hdeadline : callout.deadline = BitVec.ofNat 32 deadline) (hbound : deadline < clock + 2 ^ 32)
    (h : remaining callout (BitVec.ofNat 32 clock) ≤ 0)
    : deadline ≤ clock ∨ clock + 2 ^ 31 ≤ deadline := by
  unfold remaining at h
  rw [hdeadline, BitVec.toInt_eq_toNat_cond, BitVec.toNat_sub] at h
  simp only [BitVec.toNat_ofNat] at h
  omega

section

variable {s : ExpectedCallouts} (hinv : ExpiryInv s)

/-
Steps that change one callout and what is expected of it, and leave clock and worker alone.
-/
include hinv in
theorem ExpiryInv.set {state : CalloutState} {c : Nat} {value : BleNplCallout} {e : Expectation}
    (hcallouts : state.callouts = Function.update s.state.callouts c value)
    (hclock : state.clock = s.state.clock) (hworker : state.worker = s.state.worker)
    (hsafe : s.state.worker = .holding c → e.Allows s.state.clock ∧ value.active = false)
    (hactive : value.active = true → ∃ deadline, e = .notBefore deadline
      ∧ value.deadline = BitVec.ofNat 32 deadline ∧ deadline < s.state.clock + 2 ^ 32)
    : ExpiryInv ⟨state, Function.update s.expectation c e⟩ := by
  constructor
  . intro d hd
    dsimp only at hd ⊢
    rw [hworker] at hd
    rw [hclock]
    by_cases hne : d = c
    . subst hne
      rw [Function.update_self]
      apply (hsafe hd).1
    . rw [Function.update_of_ne hne]
      apply hinv.safe d hd
  . intro d hd
    dsimp only at hd ⊢
    rw [hworker] at hd
    rw [hcallouts]
    by_cases hne : d = c
    . subst hne
      rw [Function.update_self]
      apply (hsafe hd).2
    . rw [Function.update_of_ne hne]
      apply hinv.held d hd
  . intro d hd
    dsimp only at hd ⊢
    rw [hcallouts] at hd ⊢
    rw [hclock]
    by_cases hne : d = c
    . subst hne
      rw [Function.update_self] at hd ⊢
      rw [Function.update_self]
      apply hactive hd
    . rw [Function.update_of_ne hne] at hd ⊢
      rw [Function.update_of_ne hne]
      apply hinv.active d hd

include hinv in
theorem expiry_init (c : Nat) (eventq fn : Option Nat) (arg : Nat) (created : Bool)
    : ExpiryInv ⟨bleNplCalloutInit s.state c eventq fn arg created,
        Function.update s.expectation c .any⟩ := by
  obtain ⟨hcallouts, _, hclock, hworker⟩ :=
    bleNplCalloutInit_frame s.state c eventq fn arg created
  apply hinv.set hcallouts hclock hworker
  . intro _
    exact ⟨trivial, rfl⟩
  . intro hactive
    cases hactive

include hinv in
theorem expiry_reset {c : Nat} (hready : s.state.calloutThreadReady = true)
    (hworker : s.state.worker ≠ .holding c) (ticks : BleNplTime)
    : ExpiryInv ⟨(bleNplCalloutReset s.state c ticks).2,
        Function.update s.expectation c (.notBefore (s.state.clock + resetTicks ticks))⟩ := by
  have hticks : resetTicks ticks < 2 ^ 32 := (if ticks = 0 then 1 else ticks).isLt
  rw [bleNplCalloutReset_ok s.state c ticks hready]
  apply @ExpiryInv.set s hinv _ c (resetCallout s.state c ticks)
  . rfl
  . rfl
  . rfl
  . intro hholding
    contradiction
  . intro _
    exists s.state.clock + resetTicks ticks
    refine ⟨rfl, ?_, ?_⟩
    . simp [resetCallout, bleNplTimeGet, resetTicks, BitVec.ofNat_add]
    . omega

include hinv in
theorem expiry_stop {c : Nat} (hworker : s.state.worker ≠ .holding c)
    : ExpiryInv ⟨bleNplCalloutStop s.state c, Function.update s.expectation c .stopped⟩ := by
  apply @ExpiryInv.set s hinv _ c { s.state.callouts c with active := false }
  . rfl
  . rfl
  . rfl
  . intro hholding
    contradiction
  . intro hactive
    cases hactive

/-
The worker takes a callout only if its deadline has passed or is far away.
-/
include hinv in
theorem expiry_scan {fuel : Nat} (hfar : ¬∃ c deadline,
      calloutScan s.state (bleNplTimeGet s.state) fuel s.state.calloutList uint32Max = some (.due c)
        ∧ s.expectation c = .notBefore deadline
        ∧ s.state.clock + 2 ^ 31 ≤ deadline)
    : ExpiryInv ⟨calloutWorkerScan s.state fuel, s.expectation⟩ := by
  unfold calloutWorkerScan
  generalize hres : calloutScan s.state _ fuel _ _ = res at hfar ⊢
  match res with
  | none => apply hinv
  | some (.wait waitMs) =>
    constructor
    . intro c hc
      cases hc
    . intro c hc
      cases hc
    . apply hinv.active
  | some (.due c) =>
    obtain ⟨hactive, hdue⟩ := calloutScan_due hres
    obtain ⟨deadline, hexpectation, hdeadline, hbound⟩ := hinv.active c hactive
    constructor
    . intro d hd
      have hcd : c = d := by
        injection hd
      subst hcd
      dsimp only
      rw [hexpectation]
      obtain hle | hle := remaining_le_zero hdeadline hbound hdue
      . apply hle
      . exact absurd ⟨c, deadline, rfl, hexpectation, hle⟩ hfar
    . intro d hd
      have hcd : c = d := by
        injection hd
      subst hcd
      simp [CalloutState.set]
    . intro d hd
      by_cases hne : d = c
      . simp [hne, CalloutState.set] at hd
      . simp only [CalloutState.set, Function.update_of_ne hne] at hd ⊢
        apply hinv.active d hd

include hinv in
theorem expiry_deliver {due : Nat} (hworker : s.state.worker = .holding due)
    : ExpiryInv ⟨{ s.state with worker := .scanning },
        Function.update s.expectation due (s.expectation due).delivered⟩ := by
  constructor
  . intro c hc
    cases hc
  . intro c hc
    cases hc
  . intro c hc
    have hne : c ≠ due := by
      intro heq
      subst heq
      have hheld := hinv.held c hworker
      exact absurd (hc.symm.trans hheld) (by decide)
    dsimp only
    rw [Function.update_of_ne hne]
    apply hinv.active c hc

include hinv in
theorem expiry_elapse (ms : Nat)
    : ExpiryInv ⟨{ s.state with clock := s.state.clock + ms }, s.expectation⟩ := by
  constructor
  . intro c hc
    have hallows := hinv.safe c hc
    dsimp only
    cases hexpectation : s.expectation c with
    | any => exact trivial
    | stopped =>
      rw [hexpectation] at hallows
      exact hallows.elim
    | notBefore deadline =>
      rw [hexpectation] at hallows
      apply Nat.le_add_right_of_le hallows
  . apply hinv.held
  . intro c hc
    obtain ⟨deadline, hexpectation, hdeadline, hbound⟩ := hinv.active c hc
    exists deadline
    refine ⟨hexpectation, hdeadline, ?_⟩
    dsimp only
    omega

end

/-
One step keeps the invariant unless it is one of those that miss the expectation, and then an expiry
that comes next is against it.
-/
theorem expectedMachine_inv {s : ExpectedCallouts} (hinv : ExpiryInv s) (op : CalloutOp)
    (hmeets : ¬MissesExpectation (expectedMachine.visit s op))
    : ExpiryInv (expectedMachine.step s op).1 := by
  cases op with
  | init c eventq fn arg created => apply expiry_init hinv
  | reset c ticks =>
    cases hready : s.state.calloutThreadReady with
    | false =>
      simp only [expectedMachine, calloutStep, expectationStep]
      rw [bleNplCalloutReset_error s.state c ticks hready]
      apply hinv
    | true =>
      have hworker : s.state.worker ≠ .holding c := by
        intro hholding
        apply hmeets ⟨hready, hholding⟩
      have hreset := expiry_reset hinv hready hworker ticks
      simp only [expectedMachine, calloutStep, expectationStep]
      rw [bleNplCalloutReset_ok s.state c ticks hready] at hreset ⊢
      apply hreset
  | stop c =>
    apply expiry_stop hinv
    intro hholding
    apply hmeets hholding
  | scan fuel =>
    simp only [expectedMachine, calloutStep, expectationStep]
    split
    . apply hinv
    next hworker =>
      dsimp only
      split
      next hready =>
        apply expiry_scan hinv
        intro hfar
        apply hmeets ⟨hworker, hready, hfar⟩
      . apply hinv
  | deliver =>
    cases hworker : s.state.worker with
    | scanning =>
      simp only [expectedMachine, calloutStep, expectationStep, hworker]
      apply hinv
    | waiting waitMs =>
      simp only [expectedMachine, calloutStep, expectationStep, hworker]
      apply hinv
    | holding due =>
      simp only [expectedMachine, calloutStep, expectationStep, hworker]
      apply expiry_deliver hinv hworker
  | elapse ms => apply expiry_elapse hinv

theorem resetTicks_pos (ticks : BleNplTime) : 0 < resetTicks ticks := by
  unfold resetTicks
  split
  . decide
  next hne =>
    apply Nat.pos_of_ne_zero
    intro hzero
    apply hne
    apply BitVec.eq_of_toNat_eq hzero

theorem not_deliverySafe {s : ExpectedCallouts} {op : CalloutOp}
    (hmisses : MissesExpectation (expectedMachine.visit s op))
    : ¬DeliverySafe (expectedMachine.step s op).1 := by
  intro hsafe
  cases op with
  | init c eventq fn arg created => exact hmisses.elim
  | reset c ticks =>
    obtain ⟨hready, hworker⟩ := hmisses
    have hpos := resetTicks_pos ticks
    simp only [expectedMachine, calloutStep, expectationStep] at hsafe
    rw [bleNplCalloutReset_ok s.state c ticks hready] at hsafe
    have hallows := hsafe c hworker
    simp only [CalloutState.set, Function.update_self, Expectation.Allows] at hallows
    omega
  | stop c =>
    have hallows := hsafe c hmisses
    simp only [expectedMachine, expectationStep, Function.update_self] at hallows
    exact hallows.elim
  | scan fuel =>
    obtain ⟨hworker, hready, c, deadline, hscan, hexpectation, hfar⟩ := hmisses
    dsimp only [Machine.visit_pre] at hworker hready hscan hexpectation hfar
    have hstep : (expectedMachine.step s (.scan fuel)).1
        = ⟨calloutWorkerScan s.state fuel, s.expectation⟩ := by
      cases hholding : s.state.worker with
      | holding due => exact absurd hholding (hworker due)
      | scanning => simp [expectedMachine, calloutStep, expectationStep, hholding, hready]
      | waiting waitMs => simp [expectedMachine, calloutStep, expectationStep, hholding, hready]
    have htaken : (calloutWorkerScan s.state fuel).worker = .holding c
        ∧ (calloutWorkerScan s.state fuel).clock = s.state.clock := by
      unfold calloutWorkerScan
      rw [hscan]
      exact ⟨rfl, rfl⟩
    rw [hstep] at hsafe
    have hallows := hsafe c htaken.1
    rw [hexpectation] at hallows
    simp only [Expectation.Allows, htaken.2] at hallows
    omega
  | deliver => exact hmisses.elim
  | elapse ms => exact hmisses.elim

theorem calloutExpiry_callout (s : CalloutState) (due : Nat) : (calloutExpiry s due).callout = due := by
  unfold calloutExpiry
  dsimp only
  split
  . rfl
  . rfl

theorem calloutStep_obs {s : CalloutState} {op : CalloutOp} {e : Expiry}
    (h : (calloutStep s op).2 = some e) : s.worker = .holding e.callout := by
  cases op with
  | init c eventq fn arg created => cases h
  | reset c ticks => cases h
  | stop c => cases h
  | scan fuel =>
    simp only [calloutStep] at h
    split at h
    . cases h
    . cases h
  | deliver =>
    simp only [calloutStep] at h
    split at h
    next due hworker =>
      injection h with h
      rw [hworker, ← h, calloutExpiry_callout]
    . cases h
  | elapse ms => cases h

theorem expectedCallouts_init_inv : ExpiryInv .init := by
  constructor
  . intro c hc
    cases hc
  . intro c hc
    cases hc
  . intro c hc
    cases hc

theorem expiresAsExpected_iff (ops : List CalloutOp)
    : (∀ v ∈ expectedMachine.visits .init ops, ExpiresAsExpected v)
        ↔ (∀ v ∈ expectedMachine.visits .init ops, ¬MissesExpectation v) := by
  apply Machine.forall_visits_iff ExpiryInv
  . intro s op hinv hmeets
    apply expectedMachine_inv hinv op hmeets
  . intro s op hinv
    constructor
    . intro hexpected hmisses
      apply not_deliverySafe hmisses hexpected.1
    . intro hmeets
      constructor
      . apply (expectedMachine_inv hinv op hmeets).safe
      . intro e he
        apply hinv.safe
        apply calloutStep_obs he
  . apply expectedCallouts_init_inv

/-
The worker takes a callout that is due, and before it delivers the expiry the callout is stopped.
-/
def stoppedInWindow : List CalloutOp :=
  [.init 0 (some 0) none 0 true, .reset 0 1, .elapse 1, .scan 2, .stop 0]

/-
A reset with a timeout of 2^31 milliseconds.
-/
def farReset : List CalloutOp :=
  [.init 0 (some 0) none 0 true, .reset 0 0x80000000, .scan 2]

theorem stoppedInWindow_delivered
    : let stopped := expectedMachine.final .init stoppedInWindow
      let far := expectedMachine.final .init farReset
      (expectedMachine.step stopped .deliver).2 = some (.put 0 0)
        ∧ ¬(stopped.expectation 0).Allows stopped.state.clock
        ∧ (expectedMachine.step far .deliver).2 = some (.put 0 0)
        ∧ ¬(far.expectation 0).Allows far.state.clock := by
  intro stopped far
  refine ⟨?_, ?_, ?_, ?_⟩
  . decide
  . have hstopped : stopped.expectation 0 = .stopped := rfl
    rw [hstopped]
    exact id
  . decide
  . have hfar : far.expectation 0 = .notBefore 0x80000000 := rfl
    have hclock : far.state.clock = 0 := rfl
    rw [hfar, hclock]
    exact Nat.not_succ_le_zero _

end Nimble

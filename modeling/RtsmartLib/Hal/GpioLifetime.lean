import RtsmartLib.Hal.GpioIrq

/-!
This module contains the lifetime of instances that the kernel holds an interrupt for.
-/

namespace Gpio

open Lib

/-
Every interrupt of the kernel is for an instance that has not been freed.
-/
def IrqsLive (s : GpioState) : Prop :=
  ∀ pin cfg, s.irqs pin = some cfg → (s.heap cfg.sigval).isSome = true

def LiveThroughout (v : Machine.Visit GpioState GpioOp GpioObs) : Prop :=
  IrqsLive v.post ∧ (∀ s ∈ v.obs.moments, IrqsLive s) ∧ v.obs.outcome ≠ .dangling

/-
The instance of a variable has an interrupt that the kernel does not drop with a close.
-/
def HoldsIrq (s : GpioState) (slot : Nat) (kept : Int → Bool) : Prop :=
  ∃ address inst, s.inst? slot = some (address, inst)
    ∧ ∃ pin cfg, s.irqs pin = some cfg ∧ cfg.sigval = address
      ∧ (s.gpioFd = true ∧ s.gpioRefCnt = 1 → kept pin = true)

def FreesAttached (hwRtc : Bool) (v : Machine.Visit GpioState GpioOp GpioObs) : Prop :=
  match v.event with
  | .destroy slot _ kept => HoldsIrq v.pre slot kept
  | .create slot call =>
    drvGpioPinEnabled hwRtc call.pin = true ∧ call.isGpio = true
      ∧ ∃ opened, drvGpioOpen v.pre call.opened = some opened ∧ HoldsIrq opened slot call.kept
  | _ => False

section

variable {s t : GpioState} {address slot : Nat} {inst : DrvGpioInst}

theorem IrqsLive.mono (h : IrqsLive s)
    (hheap : ∀ other, (s.heap other).isSome = true → (t.heap other).isSome = true)
    (hirqs : ∀ pin cfg, t.irqs pin = some cfg → s.irqs pin = some cfg)
    : IrqsLive t := by
  intro pin cfg hcfg
  apply hheap
  exact h pin cfg (hirqs pin cfg hcfg)

theorem store_some_live (s : GpioState) (address : Nat) (inst : DrvGpioInst) (other : Nat)
    (h : (s.heap other).isSome = true)
    : ((s.store address (some inst)).heap other).isSome = true := by
  by_cases hother : other = address
  . simp [GpioState.store, hother]
  . simpa [GpioState.store, hother] using h

def LiveIn (res : GpioResult) : Prop := IrqsLive res.state ∧ ∀ m ∈ res.moments, IrqsLive m

theorem modeSet_live (h : IrqsLive s) (slot mode : Nat) (accepted : Bool)
    : LiveIn (drvGpioModeSet s slot mode accepted) := by
  unfold drvGpioModeSet
  split
  . exact ⟨h, by simp⟩
  next address inst hinst =>
    split
    . exact ⟨h, by simp⟩
    split
    . exact ⟨h, by simpa using h⟩
    . constructor
      . exact h.mono (store_some_live s address _) (fun _ _ hcfg => hcfg)
      . simpa using h

theorem modeSet_frame (s : GpioState) (slot mode : Nat) (accepted : Bool)
    : (drvGpioModeSet s slot mode accepted).state.irqs = s.irqs
        ∧ (drvGpioModeSet s slot mode accepted).state.gpioFd = s.gpioFd
        ∧ (drvGpioModeSet s slot mode accepted).state.gpioRefCnt = s.gpioRefCnt := by
  unfold drvGpioModeSet
  split
  . exact ⟨rfl, rfl, rfl⟩
  split
  . exact ⟨rfl, rfl, rfl⟩
  split
  . exact ⟨rfl, rfl, rfl⟩
  . exact ⟨rfl, rfl, rfl⟩

theorem close_irqs (s : GpioState) (kept : Int → Bool) (pin : Int) (cfg : GpioIrqcfg)
    : (drvGpioClose s kept).irqs pin = some cfg
        ↔ s.irqs pin = some cfg ∧ (s.gpioFd = true ∧ s.gpioRefCnt = 1 → kept pin = true) := by
  unfold drvGpioClose
  grind

theorem close_live (h : IrqsLive s) (kept : Int → Bool) : IrqsLive (drvGpioClose s kept) := by
  apply h.mono
  . intro other hother
    rw [(close_frame s kept).1]
    exact hother
  . intro pin cfg hcfg
    exact ((close_irqs s kept pin cfg).mp hcfg).1

theorem destroy_live (h : IrqsLive s) (slot : Nat) (accepted : Bool) (kept : Int → Bool)
    : LiveIn (drvGpioInstDestroy s slot accepted kept) ↔ ¬HoldsIrq s slot kept := by
  unfold drvGpioInstDestroy
  cases hinst : s.inst? slot with
  | none =>
    constructor
    . intro _ ⟨_, _, hsome, _⟩
      rw [hinst] at hsome
      cases hsome
    . intro _
      exact ⟨h, by simp⟩
  | some found =>
    obtain ⟨address, inst⟩ := found
    dsimp only
    have ⟨hmode, hmoments⟩ := modeSet_live h slot gpioDmInput accepted
    have ⟨hirqs, hfd, hrefCnt⟩ := modeSet_frame s slot gpioDmInput accepted
    have hclosed := close_live hmode kept
    have hcloses := close_irqs (drvGpioModeSet s slot gpioDmInput accepted).state kept
    rw [hirqs, hfd, hrefCnt] at hcloses
    constructor
    . intro hin ⟨_, _, hsome, pin, cfg, hcfg, hsigval, hkept⟩
      cases hinst.symm.trans hsome
      -- the interrupt that the kernel keeps is for the address that has just been freed
      have hlive := hin.1 pin cfg ((hcloses pin cfg).mpr ⟨hcfg, hkept⟩)
      simp [GpioState.store, hsigval] at hlive
    . intro hfree
      have hfreed : IrqsLive
          { (drvGpioClose (drvGpioModeSet s slot gpioDmInput accepted).state kept).store address
              none with
            slots := Function.update
              (drvGpioClose (drvGpioModeSet s slot gpioDmInput accepted).state kept).slots slot
                none } := by
        intro pin cfg hcfg
        have hheld := (hcloses pin cfg).mp hcfg
        have hother : cfg.sigval ≠ address := by
          intro hsigval
          exact hfree ⟨address, inst, hinst, pin, cfg, hheld.1, hsigval, hheld.2⟩
        have hlive := hclosed pin cfg hcfg
        simpa [GpioState.store, hother] using hlive
      constructor
      . exact hfreed
      . simp only [List.mem_append, List.mem_cons, List.not_mem_nil, or_false]
        rintro m (hm | hm | hm)
        . exact hmoments m hm
        . exact hm ▸ hclosed
        . exact hm ▸ hfreed

theorem destroy_state_mem (h : s.inst? slot = some (address, inst)) (accepted : Bool)
    (kept : Int → Bool)
    : (drvGpioInstDestroy s slot accepted kept).state
        ∈ (drvGpioInstDestroy s slot accepted kept).moments := by
  unfold drvGpioInstDestroy
  rw [h]
  simp

theorem open_irqs {opened : Bool} (h : drvGpioOpen s opened = some t) : t.irqs = s.irqs := by
  unfold drvGpioOpen at h
  split at h
  . cases h
  . cases h
    rfl

theorem create_live (h : IrqsLive s) (hwRtc : Bool) (slot : Nat) (call : CreateCall)
    : LiveIn (drvGpioInstCreate hwRtc s slot call)
        ↔ ¬(drvGpioPinEnabled hwRtc call.pin = true ∧ call.isGpio = true
          ∧ ∃ opened, drvGpioOpen s call.opened = some opened ∧ HoldsIrq opened slot call.kept) := by
  unfold drvGpioInstCreate
  by_cases hpin : drvGpioPinEnabled hwRtc call.pin = true
  . by_cases hgpio : call.isGpio = true
    . rw [if_neg (by simp [hpin]), if_neg (by simp [hgpio])]
      simp only [hpin, hgpio, true_and]
      cases hopened : drvGpioOpen s call.opened with
      | none =>
        constructor
        . intro _ ⟨_, hsome, _⟩
          cases hsome
        . intro _
          exact ⟨h, by simpa using h⟩
      | some opened =>
        have hopen : IrqsLive opened := by
          unfold IrqsLive
          rw [open_irqs hopened, (open_frame hopened).1]
          exact h
        have hdestroy := destroy_live hopen slot call.accepted call.kept
        constructor
        . intro hin ⟨_, hsome, hholds⟩
          cases hsome
          have ⟨_, _, hinst, _⟩ := hholds
          have hmoments : ∀ m ∈ (drvGpioInstDestroy opened slot call.accepted call.kept).moments,
              IrqsLive m := by
            intro m hm
            dsimp only at hin
            split at hin
            . exact hin.2 m (by simp [hm])
            . exact hin.2 m (by simp [hm])
          -- the instance is freed on the way, whatever comes after
          have hfreed := hmoments _ (destroy_state_mem hinst call.accepted call.kept)
          exact hdestroy.mp ⟨hfreed, hmoments⟩ hholds
        . intro hnot
          have ⟨hfreed, hmoments⟩ := hdestroy.mpr fun hholds => hnot ⟨opened, rfl, hholds⟩
          dsimp only
          split
          . have hclosed := close_live hfreed call.kept
            constructor
            . exact hclosed
            . simp only [List.cons_append, List.mem_cons, List.mem_append, List.not_mem_nil, or_false]
              rintro m (hm | hm | hm)
              . exact hm ▸ hopen
              . exact hmoments m hm
              . exact hm ▸ hclosed
          . constructor
            . exact hfreed.mono (store_some_live _ _ _) (fun _ _ hcfg => hcfg)
            . simp only [List.mem_cons]
              rintro m (hm | hm)
              . exact hm ▸ hopen
              . exact hmoments m hm
    . rw [if_neg (by simp [hpin]), if_pos (by simpa using hgpio)]
      exact ⟨fun _ hbad => hgpio hbad.2.1, fun _ => ⟨h, by simp⟩⟩
  . rw [if_pos (by simpa using hpin)]
    exact ⟨fun _ hbad => hpin hbad.1, fun _ => ⟨h, by simp⟩⟩

theorem IrqsLive.detach (h : IrqsLive s) (pin : Int) : IrqsLive (s.setIrq pin none) := by
  intro pin' cfg hcfg
  by_cases hpin : pin' = pin
  . simp [GpioState.setIrq, hpin] at hcfg
  . apply h pin' cfg
    simpa [GpioState.setIrq, hpin] using hcfg

theorem unregister_live (h : IrqsLive s) (slot : Nat) (accepted : Bool)
    : LiveIn (drvGpioUnregisterIrq s slot accepted) := by
  unfold drvGpioUnregisterIrq
  split
  . exact ⟨h, by simp⟩
  next address inst hinst =>
    split
    . exact ⟨h, by simp⟩
    split
    . exact ⟨h, by simpa using h⟩
    . have hdetached := h.detach inst.pin
      have hdisabled : IrqsLive (((s.setIrq inst.pin none).store address
          (some { inst with currIrqMode := gpioPeMax, irqArgs := 0, irqCallback := none })).sigaction
            inst.signo clearedSigaction) :=
        hdetached.mono (store_some_live _ _ _) (fun _ _ hcfg => hcfg)
      constructor
      . exact hdisabled
      . simp only [List.mem_cons, List.not_mem_nil, or_false]
        rintro m (hm | hm)
        . exact hm ▸ hdetached
        . exact hm ▸ hdisabled

theorem chosenIrq_live (h : IrqsLive s) (address : Nat) (inst : DrvGpioInst)
    : IrqsLive (chosenIrq s address inst) :=
  h.mono (store_some_live _ _ _) (fun _ _ hcfg => hcfg)

theorem installedIrq_live (h : IrqsLive s) (address : Nat) (inst : DrvGpioInst)
    : IrqsLive (installedIrq s address inst) :=
  (chosenIrq_live h address inst).mono (fun _ hother => hother) (fun _ _ hcfg => hcfg)

/-
The kernel gets the address of the instance that the call is for.
-/
theorem attachedIrq_live (h : IrqsLive s) (address : Nat) (inst : DrvGpioInst) (call : RegisterCall)
    : IrqsLive (attachedIrq s address inst call) := by
  intro pin cfg hcfg
  by_cases hpin : pin = inst.pin
  . simp only [attachedIrq, GpioState.setIrq, hpin, Function.update_self, Option.some.injEq] at hcfg
    subst hcfg
    simp [attachedIrq, installedIrq, chosenIrq, GpioState.setIrq, GpioState.sigaction, GpioState.store]
  . apply installedIrq_live h address inst pin cfg
    simpa [attachedIrq, GpioState.setIrq, hpin] using hcfg

theorem attach_live (h : IrqsLive s) (address : Nat) (inst : DrvGpioInst) (call : RegisterCall)
    : LiveIn (attachIrq s address inst call) := by
  have hchosen := chosenIrq_live h address inst
  have hinstalled := installedIrq_live h address inst
  cases hinstall : call.installed with
  | false =>
    rw [attachIrq_kept s address inst hinstall]
    exact ⟨hchosen, by simpa using hchosen⟩
  | true =>
    cases hioctl : drvGpioIoctl s call.attached with
    | false =>
      rw [attachIrq_refused address inst hinstall hioctl]
      have hdisabled : IrqsLive ((installedIrq s address inst).sigaction (nextSigno s) clearedSigaction) :=
        hinstalled.mono (fun _ hother => hother) (fun _ _ hcfg => hcfg)
      constructor
      . exact hdisabled
      . simp only [List.mem_cons, List.not_mem_nil, or_false]
        rintro m (hm | hm | hm)
        . exact hm ▸ hinstalled
        . exact hm ▸ hinstalled
        . exact hm ▸ hdisabled
    | true =>
      rw [attachIrq_registered address inst hinstall hioctl]
      have hattached := attachedIrq_live h address inst call
      constructor
      . exact hattached.mono (store_some_live _ _ _) (fun _ _ hcfg => hcfg)
      . simp only [List.mem_cons, List.not_mem_nil, or_false]
        rintro m (hm | hm)
        . exact hm ▸ hinstalled
        . exact hm ▸ hattached

theorem register_live (h : IrqsLive s) (slot : Nat) (call : RegisterCall)
    : LiveIn (drvGpioRegisterIrq s slot call) := by
  unfold drvGpioRegisterIrq
  split
  . exact ⟨h, by simp⟩
  next address inst hinst =>
    split
    . exact ⟨h, by simp⟩
    split
    . exact ⟨h, by simp⟩
    split
    . have ⟨hstate, hmoments⟩ := unregister_live h slot call.detached
      dsimp only
      split
      . exact ⟨hstate, hmoments⟩
      split
      . exact ⟨hstate, hmoments⟩
      next address' inst' hfound =>
        have ⟨hattached, hmoments'⟩ := attach_live hstate address' inst' call
        refine ⟨hattached, ?_⟩
        simp only [List.mem_append]
        rintro m (hm | hm)
        . exact hmoments m hm
        . exact hmoments' m hm
    . exact attach_live h address inst call

theorem irqOutcome_live (h : IrqsLive s) (pin : Int) : irqOutcome s pin ≠ .dangling := by
  unfold irqOutcome
  split
  . simp
  next cfg hcfg =>
    split
    . simp
    . simp
    . unfold drvGpioSigHandler
      split
      next hfreed =>
        have hlive := h pin cfg hcfg
        rw [hfreed] at hlive
        cases hlive
      next inst hinst =>
        split
        . simp
        . split
          . simp
          . simp

end

theorem liveThroughout_iff (hwRtc : Bool) {s : GpioState} (h : IrqsLive s) (op : GpioOp)
    : LiveThroughout ((gpioMachine hwRtc).visit s op)
        ↔ ¬FreesAttached hwRtc ((gpioMachine hwRtc).visit s op) := by
  have hquiet : ∀ {res : GpioResult}, (IrqsLive res.state ∧ (∀ m ∈ res.moments, IrqsLive m)
      ∧ IrqOutcome.quiet ≠ .dangling) ↔ LiveIn res := by
    intro res
    unfold LiveIn
    simp
  cases op with
  | create slot call => exact hquiet.trans (create_live h hwRtc slot call)
  | destroy slot accepted kept => exact hquiet.trans (destroy_live h slot accepted kept)
  | modeSet slot mode accepted =>
    exact ⟨fun _ => id, fun _ => hquiet.mpr (modeSet_live h slot mode accepted)⟩
  | setIrq slot accepted =>
    have ⟨hstate, hmoments⟩ := setIrq_state s slot accepted
    have hlive : LiveIn (drvGpioSetIrq s slot accepted) := by
      constructor
      . rw [hstate]
        exact h
      . intro m hm
        rw [hmoments m hm]
        exact h
    exact ⟨fun _ => id, fun _ => hquiet.mpr hlive⟩
  | registerIrq slot call => exact ⟨fun _ => id, fun _ => hquiet.mpr (register_live h slot call)⟩
  | unregisterIrq slot accepted =>
    exact ⟨fun _ => id, fun _ => hquiet.mpr (unregister_live h slot accepted)⟩
  | interrupt pin => exact ⟨fun _ => id, fun _ => ⟨h, by simp [gpioMachine], irqOutcome_live h pin⟩⟩

/--
In a run the kernel only holds interrupts for instances that have not been freed, at every moment, exactly
if no instance is freed while the kernel holds an interrupt for it.
-/
theorem live_iff (hwRtc : Bool) (dispositions : Int → Disposition) (ops : List GpioOp)
    : (∀ v ∈ (gpioMachine hwRtc).visits (GpioState.boot dispositions) ops, LiveThroughout v)
        ↔ ∀ v ∈ (gpioMachine hwRtc).visits (GpioState.boot dispositions) ops,
          ¬FreesAttached hwRtc v := by
  apply Machine.forall_visits_iff IrqsLive
  . intro s op hlive hnot
    exact ((liveThroughout_iff hwRtc hlive op).mpr hnot).1
  . intro s op hlive
    exact liveThroughout_iff hwRtc hlive op
  . intro pin cfg hcfg
    cases hcfg

/-
An instance that is destroyed with its callback while another instance keeps the device open, and an
interrupt after that.
-/
def danglingOps : List GpioOp :=
  [.create 0 (createPin 0), .create 1 (createPin 1), .registerIrq 0 (registerCallback 7),
    .destroy 0 true fun _ => true]

theorem destroyed_dereferenced
    : ¬∀ v ∈ (gpioMachine true).visits (GpioState.boot fun _ => .dfl)
        (danglingOps ++ [.interrupt 0]), LiveThroughout v := by
  intro h
  have hlast := h _ (Machine.visit_final_mem _ _ danglingOps (.interrupt 0))
  apply hlast.2.2
  decide +kernel

end Gpio

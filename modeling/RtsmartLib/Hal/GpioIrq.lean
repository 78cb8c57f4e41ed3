import RtsmartLib.Hal.Gpio

/-!
This module contains the delivery of callbacks by signals that several instances share.
-/

namespace Gpio

open Lib

/-
The signal of every instance with a callback is dispatched.
-/
def Delivered (s : GpioState) : Prop :=
  ∀ address inst, s.heap address = some inst → inst.irqCallback.isSome = true →
    s.dispositions inst.signo = .sigHandler

/-
Another instance has a callback on the signal.
-/
def Shares (s : GpioState) (address : Nat) (signo : Int) : Prop :=
  ∃ other inst, other ≠ address ∧ s.heap other = some inst ∧ inst.irqCallback.isSome = true
    ∧ inst.signo = signo

/-
An interrupt that the kernel has for such an instance calls its callback.
-/
theorem Delivered.irqOutcome {s : GpioState} (h : Delivered s) {pin : Int} {cfg : GpioIrqcfg}
    {inst : DrvGpioInst} {callback : Nat} (hcfg : s.irqs pin = some cfg)
    (hinst : s.heap cfg.sigval = some inst) (hsigno : inst.signo = cfg.signo)
    (hcallback : inst.irqCallback = some callback)
    : irqOutcome s pin = .handled (some (callback, inst.irqArgs)) := by
  have hhandler := h cfg.sigval inst hinst (by rw [hcallback]; rfl)
  rw [hsigno] at hhandler
  unfold Gpio.irqOutcome drvGpioSigHandler
  rw [hcfg]
  dsimp only
  rw [hhandler, hinst]
  dsimp only
  rw [if_neg (not_not.mpr hsigno), hcallback]

def DeliveredThroughout (v : Machine.Visit GpioState GpioOp GpioObs) : Prop :=
  Delivered v.post ∧ ∀ s ∈ v.obs.moments, Delivered s

/-
An instance is detached from a signal that another one uses.
-/
def DetachesShared (s : GpioState) (slot : Nat) (accepted : Bool) : Prop :=
  ∃ address inst, s.inst? slot = some (address, inst)
    ∧ ¬(inst.currIrqMode = gpioPeMax ∧ inst.irqCallback = none)
    ∧ drvGpioIoctl s accepted = true
    ∧ Shares s address inst.signo

/-
A registration detaches the previous one from a shared signal, or it gets a shared signal and is not
accepted.
-/
def RegistersShared (s : GpioState) (slot : Nat) (call : RegisterCall) : Prop :=
  ∃ address inst, s.inst? slot = some (address, inst)
    ∧ call.mode < gpioPeMax
    ∧ inst.pin < gpioIrqMaxNum
    ∧ ((inst.currIrqMode ≠ gpioPeMax ∧ drvGpioIoctl s call.detached = true
          ∧ Shares s address inst.signo)
      ∨ ((inst.currIrqMode = gpioPeMax ∨ drvGpioIoctl s call.detached = true)
          ∧ call.installed = true
          ∧ drvGpioIoctl s call.attached = false
          ∧ Shares s address (nextSigno s)))

def DisablesShared (v : Machine.Visit GpioState GpioOp GpioObs) : Prop :=
  match v.event with
  | .unregisterIrq slot accepted => DetachesShared v.pre slot accepted
  | .registerIrq slot call => RegistersShared v.pre slot call
  | _ => False

/-
An instance with a callback has a mode.
-/
def Moded (s : GpioState) : Prop :=
  ∀ address inst, s.heap address = some inst → inst.irqCallback.isSome = true →
    inst.currIrqMode ≠ gpioPeMax

section

variable {s t : GpioState} {address slot : Nat} {inst : DrvGpioInst}

theorem heap_of_inst (h : s.inst? slot = some (address, inst))
    : s.slots slot = some address ∧ s.heap address = some inst := by
  unfold GpioState.inst? at h
  split at h
  . cases h
  next held hslot =>
    split at h
    . cases h
    next found hheap =>
      cases h
      exact ⟨hslot, hheap⟩

theorem inst_of_heap (hslot : s.slots slot = some address) (hheap : s.heap address = some inst)
    : s.inst? slot = some (address, inst) := by
  unfold GpioState.inst?
  rw [hslot]
  dsimp only
  rw [hheap]

theorem Delivered.congr (h : Delivered s) (hheap : t.heap = s.heap)
    (hdispositions : t.dispositions = s.dispositions)
    : Delivered t := by
  unfold Delivered
  rw [hheap, hdispositions]
  exact h

theorem Moded.congr (h : Moded s) (hheap : t.heap = s.heap) : Moded t := by
  unfold Moded
  rw [hheap]
  exact h

/-
What holds of every instance and of the one that is stored.
-/
theorem forall_heap_store {P : DrvGpioInst → Prop} (h : ∀ address inst, s.heap address = some inst → P inst)
    (address : Nat) {stored : Option DrvGpioInst} (hstored : ∀ inst, stored = some inst → P inst)
    : ∀ other inst, (s.store address stored).heap other = some inst → P inst := by
  intro other inst hinst
  by_cases hother : other = address
  . subst hother
    apply hstored
    simpa [GpioState.store] using hinst
  . apply h other
    simpa [GpioState.store, hother] using hinst

theorem Delivered.store (h : Delivered s) (address : Nat) (stored : Option DrvGpioInst)
    (hstored : ∀ inst, stored = some inst → inst.irqCallback.isSome = true →
      s.dispositions inst.signo = .sigHandler)
    : Delivered (s.store address stored) :=
  forall_heap_store h address hstored

theorem Moded.store (h : Moded s) (address : Nat) (stored : Option DrvGpioInst)
    (hstored : ∀ inst, stored = some inst → inst.irqCallback.isSome = true →
      inst.currIrqMode ≠ gpioPeMax)
    : Moded (s.store address stored) :=
  forall_heap_store h address hstored

theorem Delivered.install (h : Delivered s) (signo : Int)
    : Delivered (s.sigaction signo .sigHandler) := by
  intro address inst hinst hcallback
  by_cases hsigno : inst.signo = signo
  . simp [GpioState.sigaction, hsigno]
  . have := h address inst hinst hcallback
    simpa [GpioState.sigaction, hsigno] using this

/-
A signal can be cleared for an instance without a callback as long as no other one uses it.
-/
theorem Delivered.clear_iff (h : Delivered s) (address : Nat)
    (hidle : ∀ inst, s.heap address = some inst → inst.irqCallback = none) (signo : Int)
    : Delivered (s.sigaction signo clearedSigaction) ↔ ¬Shares s address signo := by
  constructor
  . intro hcleared ⟨other, inst, _, hinst, hcallback, hsigno⟩
    have hhandler := hcleared other inst hinst hcallback
    simp [GpioState.sigaction, hsigno, clearedSigaction] at hhandler
  . intro hshares other inst hinst hcallback
    have hinst : s.heap other = some inst := hinst
    by_cases hsigno : inst.signo = signo
    . exfalso
      apply hshares
      refine ⟨other, inst, ?_, hinst, hcallback, hsigno⟩
      intro hother
      rw [hother] at hinst
      rw [hidle inst hinst] at hcallback
      cases hcallback
    . have := h other inst hinst hcallback
      simpa [GpioState.sigaction, hsigno] using this

theorem Shares.congr {signo : Int}
    (hheap : ∀ other, other ≠ address → t.heap other = s.heap other)
    : Shares t address signo ↔ Shares s address signo := by
  unfold Shares
  constructor
  . intro ⟨other, inst, hother, hinst, h⟩
    exact ⟨other, inst, hother, hheap other hother ▸ hinst, h⟩
  . intro ⟨other, inst, hother, hinst, h⟩
    exact ⟨other, inst, hother, (hheap other hother).symm ▸ hinst, h⟩

def DeliveredIn (res : GpioResult) : Prop :=
  Delivered res.state ∧ ∀ m ∈ res.moments, Delivered m

theorem modeSet_delivered (h : Delivered s) (slot mode : Nat) (accepted : Bool)
    : DeliveredIn (drvGpioModeSet s slot mode accepted) := by
  unfold drvGpioModeSet
  split
  . exact ⟨h, by simp⟩
  next address inst hinst =>
    have hheap := (heap_of_inst hinst).2
    split
    . exact ⟨h, by simp⟩
    split
    . exact ⟨h, by simpa using h⟩
    . constructor
      . apply h.store address
        intro stored hstored hcallback
        cases hstored
        exact h address inst hheap hcallback
      . simpa using h

theorem modeSet_moded (h : Moded s) (slot mode : Nat) (accepted : Bool)
    : Moded (drvGpioModeSet s slot mode accepted).state := by
  unfold drvGpioModeSet
  split
  . exact h
  next address inst hinst =>
    have hheap := (heap_of_inst hinst).2
    split
    . exact h
    split
    . exact h
    . apply h.store address
      intro stored hstored hcallback
      cases hstored
      exact h address inst hheap hcallback

theorem setIrq_state (s : GpioState) (slot : Nat) (accepted : Bool)
    : (drvGpioSetIrq s slot accepted).state = s
        ∧ ∀ m ∈ (drvGpioSetIrq s slot accepted).moments, m = s := by
  unfold drvGpioSetIrq
  split
  . exact ⟨rfl, by simp⟩
  split
  . exact ⟨rfl, by simp⟩
  . exact ⟨rfl, by simp⟩

theorem setIrq_delivered (h : Delivered s) (slot : Nat) (accepted : Bool)
    : DeliveredIn (drvGpioSetIrq s slot accepted) := by
  have ⟨hstate, hmoments⟩ := setIrq_state s slot accepted
  constructor
  . rw [hstate]
    exact h
  . intro m hm
    rw [hmoments m hm]
    exact h

theorem close_frame (s : GpioState) (kept : Int → Bool)
    : (drvGpioClose s kept).heap = s.heap
        ∧ (drvGpioClose s kept).dispositions = s.dispositions := by
  unfold drvGpioClose
  split
  . split
    . exact ⟨rfl, rfl⟩
    . exact ⟨rfl, rfl⟩
  . exact ⟨rfl, rfl⟩

theorem Delivered.close (h : Delivered s) (kept : Int → Bool) : Delivered (drvGpioClose s kept) :=
  h.congr (close_frame s kept).1 (close_frame s kept).2

theorem destroy_delivered (h : Delivered s) (slot : Nat) (accepted : Bool) (kept : Int → Bool)
    : DeliveredIn (drvGpioInstDestroy s slot accepted kept) := by
  unfold drvGpioInstDestroy
  split
  . exact ⟨h, by simp⟩
  next address inst hinst =>
    have ⟨hmode, hmoments⟩ := modeSet_delivered h slot gpioDmInput accepted
    have hclosed := hmode.close kept
    have hfreed : Delivered
        { (drvGpioClose (drvGpioModeSet s slot gpioDmInput accepted).state kept).store address none with
          slots := Function.update
            (drvGpioClose (drvGpioModeSet s slot gpioDmInput accepted).state kept).slots slot none } :=
      (hclosed.store address none (by simp)).congr rfl rfl
    constructor
    . exact hfreed
    . simp only [List.mem_append, List.mem_cons, List.not_mem_nil, or_false]
      rintro m (hm | hm | hm)
      . exact hmoments m hm
      . exact hm ▸ hclosed
      . exact hm ▸ hfreed

theorem destroy_moded (h : Moded s) (slot : Nat) (accepted : Bool) (kept : Int → Bool)
    : Moded (drvGpioInstDestroy s slot accepted kept).state := by
  unfold drvGpioInstDestroy
  split
  . exact h
  next address inst hinst =>
    have hmode := modeSet_moded h slot gpioDmInput accepted
    have hclosed := hmode.congr (close_frame _ kept).1
    have hfreed := hclosed.store address none (by simp)
    exact hfreed.congr rfl

theorem open_frame {opened : Bool} (h : drvGpioOpen s opened = some t)
    : t.heap = s.heap ∧ t.dispositions = s.dispositions := by
  unfold drvGpioOpen at h
  split at h
  . cases h
  . cases h
    exact ⟨rfl, rfl⟩

theorem create_delivered (h : Delivered s) (hwRtc : Bool) (slot : Nat) (call : CreateCall)
    : DeliveredIn (drvGpioInstCreate hwRtc s slot call) := by
  unfold drvGpioInstCreate
  split
  . exact ⟨h, by simp⟩
  split
  . exact ⟨h, by simp⟩
  split
  . exact ⟨h, by simpa using h⟩
  next opened hopened =>
    have hopen := h.congr (open_frame hopened).1 (open_frame hopened).2
    have ⟨hdestroyed, hmoments⟩ := destroy_delivered hopen slot call.accepted call.kept
    split
    . have hclosed := hdestroyed.close call.kept
      constructor
      . exact hclosed
      . simp only [List.cons_append, List.mem_cons, List.mem_append, List.not_mem_nil, or_false]
        rintro m (hm | hm | hm)
        . exact hm ▸ hopen
        . exact hmoments m hm
        . exact hm ▸ hclosed
    . constructor
      . have hnew := hdestroyed.store
          (drvGpioInstDestroy opened slot call.accepted call.kept).state.nextAddress
          (some ⟨call.pin, gpioDmMax, gpioPeMax, 0, none, call.signo⟩) (by simp)
        exact hnew.congr rfl rfl
      . simp only [List.mem_cons]
        rintro m (hm | hm)
        . exact hm ▸ hopen
        . exact hmoments m hm

theorem create_moded (h : Moded s) (hwRtc : Bool) (slot : Nat) (call : CreateCall)
    : Moded (drvGpioInstCreate hwRtc s slot call).state := by
  unfold drvGpioInstCreate
  split
  . exact h
  split
  . exact h
  split
  . exact h
  next opened hopened =>
    have hopen := h.congr (open_frame hopened).1
    have hdestroyed := destroy_moded hopen slot call.accepted call.kept
    split
    . exact hdestroyed.congr (close_frame _ _).1
    . have hnew := hdestroyed.store
        (drvGpioInstDestroy opened slot call.accepted call.kept).state.nextAddress
        (some ⟨call.pin, gpioDmMax, gpioPeMax, 0, none, call.signo⟩) (by simp)
      exact hnew.congr rfl

/-
What a call of `drv_gpio_unregister_irq` does that gets as far as the signal.
-/
theorem unregister_detached {accepted : Bool} (hinst : s.inst? slot = some (address, inst))
    (hregistered : ¬(inst.currIrqMode = gpioPeMax ∧ inst.irqCallback = none))
    (hioctl : drvGpioIoctl s accepted = true)
    : let detached := s.setIrq inst.pin none
      let cleared := detached.store address
        (some { inst with currIrqMode := gpioPeMax, irqArgs := 0, irqCallback := none })
      drvGpioUnregisterIrq s slot accepted
        = ⟨0, cleared.sigaction inst.signo clearedSigaction,
          [detached, cleared.sigaction inst.signo clearedSigaction]⟩ := by
  unfold drvGpioUnregisterIrq
  rw [hinst]
  dsimp only
  rw [if_neg hregistered, if_neg (by simp [hioctl])]

theorem unregister_idle {accepted : Bool} (hinst : s.inst? slot = some (address, inst))
    (hidle : (inst.currIrqMode = gpioPeMax ∧ inst.irqCallback = none)
      ∨ drvGpioIoctl s accepted = false)
    : (drvGpioUnregisterIrq s slot accepted).state = s
        ∧ ∀ m ∈ (drvGpioUnregisterIrq s slot accepted).moments, m = s := by
  unfold drvGpioUnregisterIrq
  rw [hinst]
  dsimp only
  split
  . exact ⟨rfl, by simp⟩
  next hregistered =>
    rw [if_pos (by simpa using hidle.resolve_left hregistered)]
    exact ⟨rfl, by simp⟩

theorem detached_iff (h : Delivered s) (hinst : s.inst? slot = some (address, inst))
    {accepted : Bool} (hregistered : ¬(inst.currIrqMode = gpioPeMax ∧ inst.irqCallback = none))
    (hioctl : drvGpioIoctl s accepted = true)
    : DeliveredIn (drvGpioUnregisterIrq s slot accepted) ↔ ¬Shares s address inst.signo := by
  have hres := unregister_detached hinst hregistered hioctl
  dsimp only at hres
  have hdetached : Delivered (s.setIrq inst.pin none) := h.congr rfl rfl
  have hcleared := hdetached.store address
    (some { inst with currIrqMode := gpioPeMax, irqArgs := 0, irqCallback := none }) (by simp)
  have hiff := hcleared.clear_iff address (by simp [GpioState.store]) inst.signo
  have hothers : ∀ other, other ≠ address → ((s.setIrq inst.pin none).store address
      (some { inst with currIrqMode := gpioPeMax, irqArgs := 0, irqCallback := none })).heap other
        = s.heap other := by
    intro other hother
    simp [GpioState.store, GpioState.setIrq, hother]
  -- clearing the instance first does not change who shares its signal
  rw [Shares.congr hothers] at hiff
  rw [hres, ← hiff]
  constructor
  . intro hin
    exact hin.1
  . intro hdisabled
    refine ⟨hdisabled, ?_⟩
    simp only [List.mem_cons, List.not_mem_nil, or_false]
    rintro m (hm | hm)
    . exact hm ▸ hdetached
    . exact hm ▸ hdisabled

theorem unregister_found (hinst : s.inst? slot = some (address, inst)) {accepted : Bool}
    (hregistered : inst.currIrqMode ≠ gpioPeMax) (hioctl : drvGpioIoctl s accepted = true)
    : (drvGpioUnregisterIrq s slot accepted).ret = 0
        ∧ (drvGpioUnregisterIrq s slot accepted).state.inst? slot
          = some (address,
            { inst with currIrqMode := gpioPeMax, irqArgs := 0, irqCallback := none }) := by
  rw [unregister_detached hinst (fun hidle => hregistered hidle.1) hioctl]
  refine ⟨rfl, ?_⟩
  apply inst_of_heap
  . exact (heap_of_inst hinst).1
  . simp [GpioState.store, GpioState.sigaction]

theorem unregister_failed (hinst : s.inst? slot = some (address, inst)) {accepted : Bool}
    (hregistered : inst.currIrqMode ≠ gpioPeMax) (hioctl : drvGpioIoctl s accepted = false)
    : drvGpioUnregisterIrq s slot accepted = ⟨-1, s, [s]⟩ := by
  unfold drvGpioUnregisterIrq
  rw [hinst]
  dsimp only
  rw [if_neg (fun hidle => hregistered hidle.1), if_pos (by simp [hioctl])]

theorem unregister_iff (h : Delivered s) (slot : Nat) (accepted : Bool)
    : DeliveredIn (drvGpioUnregisterIrq s slot accepted) ↔ ¬DetachesShared s slot accepted := by
  cases hinst : s.inst? slot with
  | none =>
    constructor
    . intro _ ⟨address, inst, hsome, _⟩
      rw [hinst] at hsome
      cases hsome
    . intro _
      unfold drvGpioUnregisterIrq
      rw [hinst]
      exact ⟨h, by simp⟩
  | some found =>
    obtain ⟨address, inst⟩ := found
    by_cases hdetaches : ¬(inst.currIrqMode = gpioPeMax ∧ inst.irqCallback = none)
        ∧ drvGpioIoctl s accepted = true
    . rw [detached_iff h hinst hdetaches.1 hdetaches.2]
      constructor
      . intro hshares ⟨_, _, hsome, _, _, hshared⟩
        cases hinst.symm.trans hsome
        exact hshares hshared
      . intro hnot hshared
        exact hnot ⟨address, inst, hinst, hdetaches.1, hdetaches.2, hshared⟩
    . constructor
      . intro _ ⟨_, _, hsome, hregistered, hioctl, _⟩
        cases hinst.symm.trans hsome
        exact hdetaches ⟨hregistered, hioctl⟩
      . intro _
        have hidle : (inst.currIrqMode = gpioPeMax ∧ inst.irqCallback = none)
            ∨ drvGpioIoctl s accepted = false := by
          by_cases hregistered : inst.currIrqMode = gpioPeMax ∧ inst.irqCallback = none
          . exact Or.inl hregistered
          . exact Or.inr (by simpa using fun hioctl => hdetaches ⟨hregistered, hioctl⟩)
        have ⟨hstate, hmoments⟩ := unregister_idle hinst hidle
        constructor
        . rw [hstate]
          exact h
        . intro m hm
          rw [hmoments m hm]
          exact h

theorem unregister_moded (h : Moded s) (slot : Nat) (accepted : Bool)
    : Moded (drvGpioUnregisterIrq s slot accepted).state := by
  unfold drvGpioUnregisterIrq
  split
  . exact h
  next address inst hinst =>
    split
    . exact h
    split
    . exact h
    . have hcleared := h.store address
        (some { inst with currIrqMode := gpioPeMax, irqArgs := 0, irqCallback := none }) (by simp)
      exact hcleared.congr rfl

/-
The states on the way to a registration: the instance has its signal, the signal its handler, and the
kernel the interrupt.
-/
def chosenIrq (s : GpioState) (address : Nat) (inst : DrvGpioInst) : GpioState :=
  { s.store address (some { inst with signo := nextSigno s }) with registerCnt := s.registerCnt + 1 }

def installedIrq (s : GpioState) (address : Nat) (inst : DrvGpioInst) : GpioState :=
  (chosenIrq s address inst).sigaction (nextSigno s) .sigHandler

def attachedIrq (s : GpioState) (address : Nat) (inst : DrvGpioInst) (call : RegisterCall) : GpioState :=
  (installedIrq s address inst).setIrq inst.pin
    (some ⟨call.mode, BitVec.ofInt 16 (max 10 call.debounce), nextSigno s, address⟩)

section

variable {call : RegisterCall}

variable (s address inst) in
theorem attachIrq_kept (hinstall : call.installed = false)
    : attachIrq s address inst call = ⟨-1, chosenIrq s address inst, [chosenIrq s address inst]⟩ := by
  unfold attachIrq
  dsimp only
  rw [if_pos (by simp [hinstall])]
  rfl

variable (address inst) in
theorem attachIrq_refused (hinstall : call.installed = true)
    (hioctl : drvGpioIoctl s call.attached = false)
    : let disabled := (installedIrq s address inst).sigaction (nextSigno s) clearedSigaction
      attachIrq s address inst call
        = ⟨-1, disabled, [installedIrq s address inst, installedIrq s address inst, disabled]⟩ := by
  unfold attachIrq
  dsimp only
  rw [if_neg (by simp [hinstall]), hioctl]
  rfl

variable (address inst) in
theorem attachIrq_registered (hinstall : call.installed = true)
    (hioctl : drvGpioIoctl s call.attached = true)
    : attachIrq s address inst call
        = ⟨0,
          (attachedIrq s address inst call).store address
            (some
              {
                inst with
                signo := nextSigno s
                currIrqMode := call.mode
                irqArgs := call.userargs
                irqCallback := call.callback
              }),
          [installedIrq s address inst, attachedIrq s address inst call]⟩ := by
  unfold attachIrq
  dsimp only
  rw [if_neg (by simp [hinstall]), hioctl]
  rfl

theorem chosenIrq_delivered (h : Delivered s) (hnone : inst.irqCallback = none) (address : Nat)
    : Delivered (chosenIrq s address inst) :=
  (h.store address (some { inst with signo := nextSigno s }) (by simp [hnone])).congr rfl rfl

variable (s inst) in
theorem installedIrq_heap {other : Nat} (hother : other ≠ address)
    : (installedIrq s address inst).heap other = s.heap other := by
  simp [installedIrq, chosenIrq, GpioState.store, GpioState.sigaction, hother]

/-
A refused registration clears the signal.
-/
theorem refused_iff (h : Delivered s) (hnone : inst.irqCallback = none) (address : Nat)
    (hinstall : call.installed = true) (hioctl : drvGpioIoctl s call.attached = false)
    : DeliveredIn (attachIrq s address inst call) ↔ ¬Shares s address (nextSigno s) := by
  have hinstalled : Delivered (installedIrq s address inst) :=
    (chosenIrq_delivered h hnone address).install (nextSigno s)
  have hiff := hinstalled.clear_iff address
    (by simp [installedIrq, chosenIrq, GpioState.store, GpioState.sigaction, hnone]) (nextSigno s)
  rw [Shares.congr (fun other hother => installedIrq_heap s inst hother)] at hiff
  rw [attachIrq_refused address inst hinstall hioctl, ← hiff]
  constructor
  . intro hin
    exact hin.1
  . intro hdisabled
    refine ⟨hdisabled, ?_⟩
    simp only [List.mem_cons, List.not_mem_nil, or_false]
    rintro m (hm | hm | hm)
    . exact hm ▸ hinstalled
    . exact hm ▸ hinstalled
    . exact hm ▸ hdisabled

theorem registered_delivered (h : Delivered s) (hnone : inst.irqCallback = none) (address : Nat)
    (hinstall : call.installed = true) (hioctl : drvGpioIoctl s call.attached = true)
    : DeliveredIn (attachIrq s address inst call) := by
  have hinstalled : Delivered (installedIrq s address inst) :=
    (chosenIrq_delivered h hnone address).install (nextSigno s)
  have hattached : Delivered (attachedIrq s address inst call) := hinstalled.congr rfl rfl
  rw [attachIrq_registered address inst hinstall hioctl]
  constructor
  . apply hattached.store address
    intro stored hstored _
    cases hstored
    simp [attachedIrq, installedIrq, GpioState.sigaction, GpioState.setIrq]
  . simp only [List.mem_cons, List.not_mem_nil, or_false]
    rintro m (hm | hm)
    . exact hm ▸ hinstalled
    . exact hm ▸ hattached

/-
A registration for an instance without a callback.
-/
theorem attach_iff (h : Delivered s) (hnone : inst.irqCallback = none) (address : Nat)
    (call : RegisterCall)
    : DeliveredIn (attachIrq s address inst call)
        ↔ ¬(call.installed = true ∧ drvGpioIoctl s call.attached = false
          ∧ Shares s address (nextSigno s)) := by
  cases hinstall : call.installed with
  | false =>
    rw [attachIrq_kept s address inst hinstall]
    have hchosen := chosenIrq_delivered h hnone address
    constructor
    . intro _ hbad
      cases hbad.1
    . intro _
      exact ⟨hchosen, by simpa using hchosen⟩
  | true =>
    cases hioctl : drvGpioIoctl s call.attached with
    | false =>
      rw [refused_iff h hnone address hinstall hioctl]
      simp only [true_and]
    | true =>
      constructor
      . intro _ hbad
        cases hbad.2.1
      . intro _
        exact registered_delivered h hnone address hinstall hioctl

theorem attach_moded (h : Moded s) (hnone : inst.irqCallback = none) {call : RegisterCall}
    (hmode : call.mode < gpioPeMax) (address : Nat)
    : Moded (attachIrq s address inst call).state := by
  have hchosen : Moded (chosenIrq s address inst) :=
    (h.store address (some { inst with signo := nextSigno s }) (by simp [hnone])).congr rfl
  cases hinstall : call.installed with
  | false =>
    rw [attachIrq_kept s address inst hinstall]
    exact hchosen
  | true =>
    cases hioctl : drvGpioIoctl s call.attached with
    | false =>
      rw [attachIrq_refused address inst hinstall hioctl]
      exact hchosen.congr rfl
    | true =>
      rw [attachIrq_registered address inst hinstall hioctl]
      apply Moded.store
      . exact hchosen.congr rfl
      . intro stored hstored _
        cases hstored
        exact Nat.ne_of_lt hmode

end

theorem DeliveredIn.append {res res' : GpioResult} (h : DeliveredIn res)
    : DeliveredIn { res' with moments := res.moments ++ res'.moments } ↔ DeliveredIn res' := by
  unfold DeliveredIn
  simp only [List.mem_append]
  constructor
  . intro ⟨hstate, hmoments⟩
    exact ⟨hstate, fun m hm => hmoments m (Or.inr hm)⟩
  . intro ⟨hstate, hmoments⟩
    refine ⟨hstate, ?_⟩
    rintro m (hm | hm)
    . exact h.2 m hm
    . exact hmoments m hm

theorem Moded.callback (h : Moded s) (hheap : s.heap address = some inst)
    (hmax : inst.currIrqMode = gpioPeMax)
    : inst.irqCallback = none := by
  have hmode := h address inst hheap
  cases hcallback : inst.irqCallback with
  | none => rfl
  | some callback => exact absurd hmax (hmode (by simp [hcallback]))

theorem registersShared_iff {call : RegisterCall} (hinst : s.inst? slot = some (address, inst))
    : RegistersShared s slot call
        ↔ call.mode < gpioPeMax ∧ inst.pin < gpioIrqMaxNum
          ∧ ((inst.currIrqMode ≠ gpioPeMax ∧ drvGpioIoctl s call.detached = true
              ∧ Shares s address inst.signo)
            ∨ ((inst.currIrqMode = gpioPeMax ∨ drvGpioIoctl s call.detached = true)
              ∧ call.installed = true
              ∧ drvGpioIoctl s call.attached = false
              ∧ Shares s address (nextSigno s))) := by
  constructor
  . intro ⟨_, _, hsome, hmode, hpin, hshared⟩
    cases hinst.symm.trans hsome
    exact ⟨hmode, hpin, hshared⟩
  . intro ⟨hmode, hpin, hshared⟩
    exact ⟨address, inst, hinst, hmode, hpin, hshared⟩

/-
A registration that replaces another one: the signal is first cleared and then chosen again.
-/
theorem replace_iff (h : Delivered s) (hinst : s.inst? slot = some (address, inst))
    (hregistered : inst.currIrqMode ≠ gpioPeMax) {call : RegisterCall}
    (hioctl : drvGpioIoctl s call.detached = true)
    : let unregistered := drvGpioUnregisterIrq s slot call.detached
      let cleared := { inst with currIrqMode := gpioPeMax, irqArgs := 0, irqCallback := none }
      let res := attachIrq unregistered.state address cleared call
      DeliveredIn { res with moments := unregistered.moments ++ res.moments }
        ↔ ¬(Shares s address inst.signo
          ∨ (call.installed = true ∧ drvGpioIoctl s call.attached = false
            ∧ Shares s address (nextSigno s))) := by
  intro unregistered cleared res
  have hnotIdle : ¬(inst.currIrqMode = gpioPeMax ∧ inst.irqCallback = none) :=
    fun hidle => hregistered hidle.1
  have hiff := detached_iff h hinst hnotIdle hioctl
  have hres := unregister_detached hinst hnotIdle hioctl
  dsimp only at hres
  -- if the old signal is shared, the harm is done before the new one is chosen
  by_cases hshared : Shares s address inst.signo
  . constructor
    . intro hin
      exfalso
      apply hiff.mp _ hshared
      have hmem : unregistered.state ∈ unregistered.moments ++ res.moments := by
        unfold unregistered
        rw [hres]
        simp
      constructor
      . exact hin.2 _ hmem
      . intro m hm
        exact hin.2 m (List.mem_append_left _ hm)
    . intro hnot
      exact absurd (Or.inl hshared) hnot
  . have hin := hiff.mpr hshared
    have hattach := attach_iff hin.1 (show cleared.irqCallback = none from rfl) address call
    have hothers : ∀ other, other ≠ address → unregistered.state.heap other = s.heap other := by
      intro other hother
      unfold unregistered
      rw [hres]
      simp [GpioState.store, GpioState.sigaction, GpioState.setIrq, hother]
    have hsigno : nextSigno unregistered.state = nextSigno s := by
      unfold unregistered
      rw [hres]
      rfl
    have hopen : drvGpioIoctl unregistered.state call.attached = drvGpioIoctl s call.attached := by
      unfold unregistered
      rw [hres]
      rfl
    rw [hsigno, hopen, Shares.congr hothers] at hattach
    rw [hin.append, hattach, not_or]
    constructor
    . intro hnot
      exact ⟨hshared, hnot⟩
    . intro hnot
      exact hnot.2

theorem register_iff (h : Delivered s) (hmoded : Moded s) (slot : Nat) (call : RegisterCall)
    : DeliveredIn (drvGpioRegisterIrq s slot call) ↔ ¬RegistersShared s slot call := by
  unfold drvGpioRegisterIrq
  cases hinst : s.inst? slot with
  | none =>
    constructor
    . intro _ ⟨_, _, hsome, _⟩
      rw [hinst] at hsome
      cases hsome
    . intro _
      exact ⟨h, by simp⟩
  | some found =>
    obtain ⟨address, inst⟩ := found
    rw [registersShared_iff hinst]
    dsimp only
    by_cases hmode : gpioPeMax ≤ call.mode
    . rw [if_pos hmode]
      exact ⟨fun _ hbad => Nat.not_lt.mpr hmode hbad.1, fun _ => ⟨h, by simp⟩⟩
    rw [if_neg hmode]
    by_cases hpin : gpioIrqMaxNum ≤ inst.pin
    . rw [if_pos hpin]
      exact ⟨fun _ hbad => Int.not_lt.mpr hpin hbad.2.1, fun _ => ⟨h, by simp⟩⟩
    rw [if_neg hpin]
    have hmode : call.mode < gpioPeMax := Nat.lt_of_not_le hmode
    have hpin : inst.pin < gpioIrqMaxNum := Int.lt_of_not_ge hpin
    simp only [hmode, hpin, true_and]
    by_cases hregistered : inst.currIrqMode ≠ gpioPeMax
    . rw [if_pos hregistered]
      by_cases hioctl : drvGpioIoctl s call.detached = true
      . have ⟨hret, hfound⟩ := unregister_found hinst hregistered hioctl
        rw [if_neg (by simp [hret]), hfound]
        dsimp only
        apply (replace_iff h hinst hregistered hioctl).trans
        simp [hregistered, hioctl]
      . have hioctl : drvGpioIoctl s call.detached = false := by simpa using hioctl
        rw [unregister_failed hinst hregistered hioctl, if_pos (show (-1 : Int) ≠ 0 by decide)]
        constructor
        . simp [hregistered, hioctl]
        . intro _
          exact ⟨h, by simpa using h⟩
    . rw [if_neg hregistered]
      -- an instance without an interrupt mode has no callback, so there is nothing to clear
      have hmax := not_not.mp hregistered
      have hnone := hmoded.callback (heap_of_inst hinst).2 hmax
      rw [attach_iff h hnone]
      simp [hmax]

theorem register_moded (h : Moded s) (slot : Nat) (call : RegisterCall)
    : Moded (drvGpioRegisterIrq s slot call).state := by
  unfold drvGpioRegisterIrq
  split
  . exact h
  next address inst hinst =>
    split
    . exact h
    next hmode =>
      have hmode : call.mode < gpioPeMax := Nat.lt_of_not_le hmode
      split
      . exact h
      split
      next hregistered =>
        by_cases hioctl : drvGpioIoctl s call.detached = true
        . have ⟨hret, hfound⟩ := unregister_found hinst hregistered hioctl
          dsimp only
          rw [if_neg (by simp [hret]), hfound]
          exact attach_moded (unregister_moded h slot call.detached) rfl hmode address
        . have hioctl : drvGpioIoctl s call.detached = false := by simpa using hioctl
          dsimp only
          rw [unregister_failed hinst hregistered hioctl, if_pos (show (-1 : Int) ≠ 0 by decide)]
          exact h
      next hmax =>
        have hnone := h.callback (heap_of_inst hinst).2 (not_not.mp hmax)
        exact attach_moded h hnone hmode address

end

/-
Nothing but the two calls on the signals touches the delivery.
-/
theorem deliveredThroughout_iff (hwRtc : Bool) {s : GpioState} (h : Delivered s) (hmoded : Moded s)
    (op : GpioOp)
    : DeliveredThroughout ((gpioMachine hwRtc).visit s op)
        ↔ ¬DisablesShared ((gpioMachine hwRtc).visit s op) := by
  cases op with
  | create slot call => exact ⟨fun _ => id, fun _ => create_delivered h hwRtc slot call⟩
  | destroy slot accepted kept => exact ⟨fun _ => id, fun _ => destroy_delivered h slot accepted kept⟩
  | modeSet slot mode accepted => exact ⟨fun _ => id, fun _ => modeSet_delivered h slot mode accepted⟩
  | setIrq slot accepted =>
    exact ⟨fun _ => id, fun _ => setIrq_delivered h slot accepted⟩
  | registerIrq slot call => exact register_iff h hmoded slot call
  | unregisterIrq slot accepted => exact unregister_iff h slot accepted
  | interrupt pin => exact ⟨fun _ => id, fun _ => ⟨h, by simp [gpioMachine]⟩⟩

theorem gpioMachine_moded (hwRtc : Bool) {s : GpioState} (h : Moded s) (op : GpioOp)
    : Moded ((gpioMachine hwRtc).step s op).1 := by
  cases op with
  | create slot call => exact create_moded h hwRtc slot call
  | destroy slot accepted kept => exact destroy_moded h slot accepted kept
  | modeSet slot mode accepted => exact modeSet_moded h slot mode accepted
  | setIrq slot accepted => exact h.congr (congrArg GpioState.heap (setIrq_state s slot accepted).1)
  | registerIrq slot call => exact register_moded h slot call
  | unregisterIrq slot accepted => exact unregister_moded h slot accepted
  | interrupt pin => exact h

/--
In a run every callback is delivered at every moment exactly if no call clears a signal on which another
instance has its callback.
-/
theorem delivered_iff (hwRtc : Bool) (dispositions : Int → Disposition) (ops : List GpioOp)
    : (∀ v ∈ (gpioMachine hwRtc).visits (GpioState.boot dispositions) ops, DeliveredThroughout v)
        ↔ ∀ v ∈ (gpioMachine hwRtc).visits (GpioState.boot dispositions) ops, ¬DisablesShared v := by
  apply Machine.forall_visits_iff (fun s => Delivered s ∧ Moded s)
  . intro s op ⟨hdelivered, hmoded⟩ hnot
    have hgood := (deliveredThroughout_iff hwRtc hdelivered hmoded op).mpr hnot
    exact ⟨hgood.1, gpioMachine_moded hwRtc hmoded op⟩
  . intro s op ⟨hdelivered, hmoded⟩
    exact deliveredThroughout_iff hwRtc hdelivered hmoded op
  . constructor
    . intro address inst hinst
      cases hinst
    . intro address inst hinst
      cases hinst

/-
Two instances: the first registers once, the second eight times, so that it ends up on the signal of the
first, and then unregisters.
-/
def createPin (pin : Int) : CreateCall := ⟨pin, true, true, true, 0, true, fun _ => true⟩

def registerCallback (callback : Nat) : RegisterCall := ⟨0, 10, some callback, 0, true, true, true⟩

def sharingOps : List GpioOp :=
  [.create 0 (createPin 0), .create 1 (createPin 1), .registerIrq 0 (registerCallback 7)]
    ++ List.replicate 8 (.registerIrq 1 (registerCallback 8))

theorem sharedSignal_disabled
    : ¬∀ v ∈ (gpioMachine true).visits (GpioState.boot fun _ => .dfl)
        (sharingOps ++ [.unregisterIrq 1 true]), DeliveredThroughout v := by
  intro h
  have hlast := h _ (Machine.visit_final_mem _ _ sharingOps (.unregisterIrq 1 true))
  have hhandler := hlast.1 0 ⟨0, gpioDmMax, 0, 0, some 7, 42⟩ (by decide +kernel) (by decide)
  revert hhandler
  decide +kernel

end Gpio

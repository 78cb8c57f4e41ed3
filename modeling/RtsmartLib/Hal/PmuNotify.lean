import RtsmartLib.Hal.PmuSignal

/-!
This module contains what becomes of power-key notifications in a run of the driver: whether each of them is
left to the waiting call.
-/

namespace Pmu

open Lib

section

variable {sigs : Signals} {blocked : Int → Bool} {s t : PmuState} {slot : Nat}

def Rest (s : PmuState) : Prop := ∀ slot, RestAt s slot

theorem RestAt.of_eq (h : RestAt s slot) (heq : t.insts slot = s.insts slot) : RestAt t slot := by
  intro inst hinst
  rw [heq] at hinst
  exact h inst hinst

theorem modifyInst_same (s : PmuState) (slot : Nat) (f : DrvPmuInst → DrvPmuInst)
    : (s.modifyInst slot f).insts slot = (s.insts slot).map f := by
  simp [PmuState.modifyInst, PmuState.setInst]

theorem modifyInst_other (s : PmuState) (f : DrvPmuInst → DrvPmuInst) {other : Nat}
    (hother : other ≠ slot)
    : (s.modifyInst slot f).insts other = s.insts other := by
  simp [PmuState.modifyInst, PmuState.setInst, hother]

theorem unregisterIoctl_frame (s : PmuState) (slot : Nat) (accepted : Bool)
    : let t := (unregisterIoctl slot accepted s).2
      t.insts = s.insts ∧ t.mask = s.mask ∧ t.pending = s.pending ∧ t.delivered = s.delivered := by
  unfold unregisterIoctl
  split
  . exact ⟨rfl, rfl, rfl, rfl⟩
  . split
    . exact ⟨rfl, rfl, rfl, rfl⟩
    . exact ⟨rfl, rfl, rfl, rfl⟩

theorem RestAt.isOpen (h : RestAt s slot) {inst : DrvPmuInst} (hinst : s.insts slot = some inst)
    : drvPmuIsOpen s slot = true := by
  unfold drvPmuIsOpen
  rw [hinst]
  simpa using (h inst hinst).1

/-
An instance gives its signal up, after notifications that have come before.
-/
theorem giveUp_sound (h : Inv sigs blocked s) {inst : DrvPmuInst} (hinst : s.insts slot = some inst)
    (hsigno : 0 ≤ inst.signo) (hrest : ∀ other, other ≠ slot → RestAt s other) (fds : List Int)
    {α : Type} {f : Unit → PmuM α} {post : α → PmuState → Prop}
    (hf : ∀ t inst', Inv sigs blocked t → (∀ other, other ≠ slot → RestAt t other) →
      t.insts slot = some inst' → inst'.fd = inst.fd → inst'.notifyRegistered = inst.notifyRegistered →
        inst'.signo = 0 → Traced.Sound LeftToWait (Exposes sigs blocked) (f ()) t post)
    : Traced.Sound LeftToWait (Exposes sigs blocked)
        (arrive sigs fds >>= fun _ => unblockSignal sigs slot >>= f) s post := by
  apply Traced.Sound.bind (arrive_sound h fds)
  intro _ t₁ ⟨hinv₁, hinsts₁⟩
  apply Traced.Sound.bind (unblock_sound hinv₁ (hinsts₁ ▸ hinst) hsigno
    fun other hother => (hrest other hother).of_eq (congrFun hinsts₁ other))
  intro _ t₂ ⟨hinv₂, hothers, inst', hinst', hfd, hsame, hzero⟩
  apply hf t₂ inst' hinv₂ _ hinst' hfd hsame hzero
  intro other hother
  apply (hrest other hother).of_eq
  rw [hothers other hother, hinsts₁]

/-
After it an instance has no signal.
-/
theorem unregister_sound (h : Inv sigs blocked s) (hrest : Rest s) {inst : DrvPmuInst}
    (hinst : s.insts slot = some inst) (call : UnregisterCall)
    : Traced.Sound LeftToWait (Exposes sigs blocked) (drvPmuKeyUnregisterNotify sigs slot call) s
        fun _ t => Inv sigs blocked t ∧ Rest t
          ∧ ∃ inst', t.insts slot = some inst' ∧ inst'.signo = 0 := by
  unfold drvPmuKeyUnregisterNotify
  apply Traced.Sound.read
  rw [if_neg (by simp [(hrest slot).isOpen hinst])]
  have ⟨hfd, hsigno, hregistered⟩ := hrest slot inst hinst
  have hnotify : s.notifyRegistered slot = inst.notifyRegistered := by
    unfold PmuState.notifyRegistered
    rw [hinst]
  rw [hnotify]
  cases hhas : inst.notifyRegistered with
  | false =>
    apply Traced.Sound.pure
    refine ⟨h, hrest, inst, hinst, ?_⟩
    rw [hhas] at hregistered
    simpa using hregistered
  | true =>
    have ⟨hinsts, hmask, hpending, hdelivered⟩ := unregisterIoctl_frame s slot call.accepted
    refine Traced.Sound.bind (quiet_step h hinsts hmask (by simp [hpending]) hdelivered id) ?_
    rintro ret t₁ ⟨_, _, hinv₁, hinsts₁⟩
    apply giveUp_sound hinv₁ (hinsts₁ ▸ hinst) hsigno
      fun other _ => (hrest other).of_eq (congrFun hinsts₁ other)
    intro t₂ inst' hinv₂ hrest₂ hinst' hfd' _ hzero
    apply Traced.Sound.change
    apply Traced.Sound.pure
    refine ⟨hinv₂.modifyInst hinst' _ ⟨rfl, rfl, rfl⟩, ?_,
      { inst' with notifyRegistered := false }, ?_, hzero⟩
    . intro other
      by_cases hother : other = slot
      . intro inst'' hinst''
        rw [hother, modifyInst_same, hinst'] at hinst''
        cases hinst''
        simp [hzero, hfd', hfd]
      . exact (hrest₂ other hother).of_eq (modifyInst_other _ _ hother)
    . rw [modifyInst_same, hinst']
      rfl

theorem registerIoctl_frame (s : PmuState) (slot : Nat) (signo : Int) (accepted : Bool)
    : let t := (registerIoctl slot signo accepted s).2
      t.insts = s.insts ∧ t.mask = s.mask ∧ t.pending = s.pending ∧ t.delivered = s.delivered := by
  unfold registerIoctl
  split
  . exact ⟨rfl, rfl, rfl, rfl⟩
  . split
    . exact ⟨rfl, rfl, rfl, rfl⟩
    . exact ⟨rfl, rfl, rfl, rfl⟩

theorem block_sound (h : Inv sigs blocked s) {inst : DrvPmuInst} (hinst : s.insts slot = some inst)
    (hnone : inst.signo = 0) (signo : Int)
    : Traced.Sound LeftToWait (Exposes sigs blocked)
        (Traced.step (.blockSignal slot) (drvPmuBlockSignal sigs slot signo)) s
        fun ret t => ret = 0 ∧ Inv sigs blocked t
          ∧ t.insts = (s.setInst slot (some (blockedInst sigs s inst signo))).insts := by
  have ⟨hret, hinsts, _, hdelivered, hmask⟩ := blockSignal_frame sigs hinst signo
  apply Traced.Sound.step
  . constructor
    . intro _
      exact id
    . intro _
      apply leftToWait_of_kept
      . intro signo' hpre
        exact (hmask signo').mpr (.inl hpre)
      . exact hdelivered.trans h.delivered
  . intro _
    exact ⟨hret, h.block hinst hnone signo, hinsts⟩

/-
An instance has its signal from before the kernel has it until the kernel does not.
-/
theorem registerNotify_sound (h : Inv sigs blocked s) (hrest : Rest s) {inst : DrvPmuInst}
    (hinst : s.insts slot = some inst) (hnone : inst.signo = 0) {signo : Int} (hpos : 0 < signo)
    (call : RegisterCall)
    : Traced.Sound LeftToWait (Exposes sigs blocked) (registerNotify sigs slot signo call) s
        fun _ t => Inv sigs blocked t ∧ Rest t := by
  obtain ⟨hfd, _, hregistered⟩ := hrest slot inst hinst
  unfold registerNotify
  apply Traced.Sound.bind (block_sound h hinst hnone signo)
  rintro _ t₁ ⟨rfl, hinv₁, hinsts₁⟩
  have hslot₁ : t₁.insts slot = some (blockedInst sigs s inst signo) := by
    rw [hinsts₁]
    simp [PmuState.setInst]
  have hothers₁ : ∀ other, other ≠ slot → t₁.insts other = s.insts other := by
    intro other hother
    rw [hinsts₁]
    simp [PmuState.setInst, hother]
  rw [if_neg (by decide)]
  apply Traced.Sound.bind (arrive_sound hinv₁ call.blocked)
  rintro _ t₂ ⟨hinv₂, hinsts₂⟩
  obtain ⟨hinsts, hmask, hpending, hdelivered⟩ := registerIoctl_frame t₂ slot signo call.accepted
  refine Traced.Sound.bind (quiet_step hinv₂ hinsts hmask (by simp [hpending]) hdelivered id) ?_
  rintro ret t₃ ⟨_, _, hinv₃, hinsts₃⟩
  have heq₃ : t₃.insts = t₁.insts := hinsts₃.trans hinsts₂
  have hslot₃ : t₃.insts slot = some (blockedInst sigs s inst signo) := heq₃ ▸ hslot₁
  have hrest₃ : ∀ other, other ≠ slot → RestAt t₃ other := by
    intro other hother
    apply (hrest other).of_eq
    rw [heq₃, hothers₁ other hother]
  -- a refused registration gives the signal up again
  split
  . apply giveUp_sound hinv₃ hslot₃ (Int.le_of_lt hpos) hrest₃
    intro t₄ inst' hinv₄ hrest₄ hinst' hfd' hsame' hzero
    apply Traced.Sound.pure
    refine ⟨hinv₄, ?_⟩
    intro other
    by_cases hother : other = slot
    . intro inst'' hinst''
      rw [hother, hinst'] at hinst''
      cases hinst''
      have hfree : inst'.notifyRegistered = inst.notifyRegistered := hsame'
      have hopen : inst'.fd = inst.fd := hfd'
      rw [hfree, hopen, hregistered, hnone, hzero]
      exact ⟨hfd, Int.le_refl 0, Iff.rfl⟩
    . exact hrest₄ other hother
  . apply Traced.Sound.change
    apply Traced.Sound.pure
    refine ⟨hinv₃.modifyInst hslot₃ _ ⟨rfl, rfl, rfl⟩, ?_⟩
    intro other
    by_cases hother : other = slot
    . intro inst'' hinst''
      rw [hother, modifyInst_same, hslot₃] at hinst''
      cases hinst''
      refine ⟨hfd, Int.le_of_lt hpos, ?_⟩
      simp only [blockedInst, ne_eq, true_iff]
      omega
    . exact (hrest₃ other hother).of_eq (modifyInst_other _ _ hother)

theorem Rest.of_eq (h : Rest s) (heq : t.insts = s.insts) : Rest t :=
  fun slot => (h slot).of_eq (congrFun heq slot)

/-
Between two operations.
-/
def Settled (sigs : Signals) (blocked : Int → Bool) (s : PmuState) : Prop :=
  Inv sigs blocked s ∧ Rest s

theorem isOpen_inst (h : drvPmuIsOpen s slot = true) : ∃ inst, s.insts slot = some inst := by
  unfold drvPmuIsOpen at h
  split at h
  . cases h
  next inst hinst => exact ⟨inst, hinst⟩

theorem arrive_settled (h : Settled sigs blocked s) (fds : List Int)
    : Traced.Sound LeftToWait (Exposes sigs blocked) (arrive sigs fds) s
        fun _ t => Settled sigs blocked t ∧ t.insts = s.insts := by
  apply (arrive_sound h.1 fds).mono
  intro _ t ⟨hinv, hinsts⟩
  exact ⟨⟨hinv, h.2.of_eq hinsts⟩, hinsts⟩

theorem register_sound (h : Settled sigs blocked s) (slot : Nat) (signo : Int) (call : RegisterCall)
    : Traced.Sound LeftToWait (Exposes sigs blocked)
        (drvPmuKeyRegisterNotify sigs slot signo call) s fun _ => Settled sigs blocked := by
  have hpos : 0 < if 0 < signo then signo else drvPmuDefaultSigno := by
    split
    . assumption
    . decide
  unfold drvPmuKeyRegisterNotify
  apply Traced.Sound.read
  split
  . exact Traced.Sound.pure h
  next hopen =>
    have ⟨inst, hinst⟩ := isOpen_inst (by simpa using hopen : drvPmuIsOpen s slot = true)
    have ⟨_, _, hregistered⟩ := h.2 slot inst hinst
    have hnotify : s.notifyRegistered slot = inst.notifyRegistered := by
      unfold PmuState.notifyRegistered
      rw [hinst]
    split
    . apply Traced.Sound.bind (unregister_sound h.1 h.2 hinst call.unregister)
      intro ret t ⟨hinv, hrest, inst', hinst', hzero⟩
      split
      . exact Traced.Sound.pure ⟨hinv, hrest⟩
      . apply Traced.Sound.bind (arrive_settled ⟨hinv, hrest⟩ call.unregistered)
        intro _ t' ⟨hsettled, hinsts⟩
        exact registerNotify_sound hsettled.1 hsettled.2 (hinsts ▸ hinst') hzero hpos call
    next hnot =>
      rw [hnotify] at hnot
      -- without a registration there is no signal to give up
      have hzero : inst.signo = 0 := by
        by_contra hne
        exact hnot (hregistered.mpr hne)
      exact registerNotify_sound h.1 h.2 hinst hzero hpos call

theorem unregister_settled (h : Settled sigs blocked s) (slot : Nat) (call : UnregisterCall)
    : Traced.Sound LeftToWait (Exposes sigs blocked) (drvPmuKeyUnregisterNotify sigs slot call) s
        fun _ => Settled sigs blocked := by
  cases hinst : s.insts slot with
  | some inst =>
    apply (unregister_sound h.1 h.2 hinst call).mono
    intro _ t ⟨hinv, hrest, _⟩
    exact ⟨hinv, hrest⟩
  | none =>
    unfold drvPmuKeyUnregisterNotify
    apply Traced.Sound.read
    rw [if_pos (by simp [drvPmuIsOpen, hinst])]
    exact Traced.Sound.pure h

theorem sigwait_frame (set : Sigset) (errno : Int) (s : PmuState)
    : let t := (sigwait set errno s).2
      t.insts = s.insts ∧ t.mask = s.mask ∧ (∀ signo, t.pending signo ≠ 0 → s.pending signo ≠ 0)
        ∧ t.delivered = s.delivered := by
  unfold sigwait
  split
  next signo _ =>
    refine ⟨rfl, rfl, ?_, rfl⟩
    intro signo' hsome
    by_cases hsigno : signo' = signo
    . rw [hsigno] at hsome ⊢
      simp only [Function.update_self] at hsome
      omega
    . simpa [hsigno] using hsome
  . exact ⟨rfl, rfl, fun _ => id, rfl⟩

theorem waitSignal_frame (slot : Nat) (errno : Int) (s : PmuState)
    : let t := (drvPmuWaitSignal slot errno s).2
      t.insts = s.insts ∧ t.mask = s.mask ∧ (∀ signo, t.pending signo ≠ 0 → s.pending signo ≠ 0)
        ∧ t.delivered = s.delivered := by
  unfold drvPmuWaitSignal
  split
  . exact ⟨rfl, rfl, fun _ => id, rfl⟩
  next inst _ =>
    have hframe := sigwait_frame inst.waitset errno s
    split
    next hwait =>
      rw [hwait] at hframe
      exact hframe
    next hwait =>
      rw [hwait] at hframe
      split
      . exact hframe
      . exact hframe

theorem readShutdownRequest_state (slot : Nat) (accepted : Bool) (pending : BitVec 32) (s : PmuState)
    : (drvPmuReadShutdownRequest slot accepted pending s).2 = s := by
  unfold drvPmuReadShutdownRequest
  split
  . rfl
  . split
    . rfl
    . rfl

theorem wait_sound (h : Settled sigs blocked s) (slot : Nat) (call : WaitCall)
    : Traced.Sound LeftToWait (Exposes sigs blocked) (drvPmuKeyWaitShutdown sigs slot call) s
        fun _ => Settled sigs blocked := by
  unfold drvPmuKeyWaitShutdown
  apply Traced.Sound.read
  split
  . exact Traced.Sound.pure h
  . have ⟨hinsts, hmask, hpending, hdelivered⟩ := waitSignal_frame slot call.errno s
    refine Traced.Sound.bind (quiet_step h.1 hinsts hmask hpending hdelivered id) ?_
    rintro ret t ⟨_, _, hinv, hinsts'⟩
    have hsettled : Settled sigs blocked t := ⟨hinv, h.2.of_eq hinsts'⟩
    split
    . exact Traced.Sound.pure hsettled
    . apply Traced.Sound.bind (arrive_settled hsettled call.waited)
      intro _ t' ⟨hsettled', _⟩
      have hsame := readShutdownRequest_state slot call.accepted call.pending t'
      refine (quiet_step hsettled'.1 (congrArg PmuState.insts hsame)
        (congrArg PmuState.mask hsame) (by simp [hsame]) (congrArg PmuState.delivered hsame) id).mono ?_
      rintro _ t'' ⟨_, rfl, hinv', hinsts''⟩
      exact ⟨hinv', hsettled'.2.of_eq hinsts''⟩

theorem closeFd_frame (s : PmuState) (slot : Nat) (kept : Bool)
    : (closeFd slot kept s).mask = s.mask ∧ (closeFd slot kept s).pending = s.pending
        ∧ (closeFd slot kept s).delivered = s.delivered
        ∧ ∀ other, other ≠ slot → (closeFd slot kept s).insts other = s.insts other := by
  unfold closeFd
  split
  . exact ⟨rfl, rfl, rfl, fun _ _ => rfl⟩
  . split
    . refine ⟨rfl, rfl, rfl, ?_⟩
      intro other hother
      rw [modifyInst_other _ _ hother]
    . exact ⟨rfl, rfl, rfl, fun _ _ => rfl⟩

theorem close_sound (h : Inv sigs blocked s) (slot : Nat) (kept : Bool)
    : Traced.Sound LeftToWait (Exposes sigs blocked)
        (Traced.step (.close slot) fun s => ((), closeFd slot kept s)) s
        fun _ t => t = closeFd slot kept s := by
  have ⟨hmask, _, hdelivered, _⟩ := closeFd_frame s slot kept
  apply Traced.Sound.step
  . constructor
    . intro _
      exact id
    . intro _
      apply leftToWait_of_kept
      . intro signo hpre
        rw [hmask]
        exact hpre
      . exact hdelivered.trans h.delivered
  . intro _
    rfl

/-
Neither the closed descriptor nor the freed memory has been one with a signal.
-/
theorem Settled.free (h : Settled sigs blocked s) {inst : DrvPmuInst}
    (hinst : s.insts slot = some inst) (hzero : inst.signo = 0) (kept : Bool)
    : Settled sigs blocked ((closeFd slot kept s).setInst slot none) := by
  have ⟨hinv, hrest⟩ := h
  have ⟨hmask, hpending, hdelivered, hothers⟩ := closeFd_frame s slot kept
  have hfreed : ∀ other, ((closeFd slot kept s).setInst slot none).insts other
      = if other = slot then none else s.insts other := by
    intro other
    by_cases hother : other = slot
    . simp [PmuState.setInst, hother]
    . simp [PmuState.setInst, hother, hothers]
  constructor
  . refine hinv.frame ?_ ?_ hmask ?_ hdelivered
    . intro other found hfound hpos
      have hother : other ≠ slot := by
        intro heq
        rw [heq, hinst, Option.some.injEq] at hfound
        rw [← hfound, hzero] at hpos
        cases hpos
      rw [hfreed, if_neg hother]
      exact ⟨found, hfound, rfl, rfl, rfl⟩
    . intro other found hfound _
      rw [hfreed] at hfound
      split at hfound
      . cases hfound
      . exact ⟨found, hfound, rfl, rfl, rfl⟩
    . intro signo hsome
      left
      rw [← hpending]
      exact hsome
  . intro other found hfound
    rw [hfreed] at hfound
    split at hfound
    . cases hfound
    . exact hrest other found hfound

/-
An instance that is freed has no signal.
-/
theorem destroy_sound (h : Settled sigs blocked s) (slot : Nat) (call : DestroyCall)
    : Traced.Sound LeftToWait (Exposes sigs blocked) (drvPmuInstDestroy sigs slot call) s
        fun _ t => Settled sigs blocked t ∧ t.insts slot = none := by
  unfold drvPmuInstDestroy
  apply Traced.Sound.read
  cases hinst : s.insts slot with
  | none => exact Traced.Sound.pure ⟨h, hinst⟩
  | some inst =>
    rw [if_neg (by simp)]
    apply Traced.Sound.bind (unregister_sound h.1 h.2 hinst call.unregister)
    intro _ t₁ ⟨hinv₁, hrest₁, inst₁, hinst₁, hzero⟩
    apply Traced.Sound.bind (arrive_settled ⟨hinv₁, hrest₁⟩ call.unregistered)
    intro _ t₂ ⟨hsettled₂, hinsts₂⟩
    apply Traced.Sound.bind (close_sound hsettled₂.1 slot call.kept)
    rintro _ _ rfl
    apply Traced.Sound.change
    apply Traced.Sound.pure
    refine ⟨hsettled₂.free (hinsts₂ ▸ hinst₁) hzero call.kept, ?_⟩
    simp [PmuState.setInst]

theorem create_sound (h : Settled sigs blocked s) (slot : Nat) (call : CreateCall)
    : Traced.Sound LeftToWait (Exposes sigs blocked) (drvPmuInstCreate sigs slot call) s
        fun _ => Settled sigs blocked := by
  unfold drvPmuInstCreate
  apply Traced.Sound.bind (destroy_sound h slot call.destroy)
  intro _ t₁ ⟨hsettled₁, hnone₁⟩
  apply Traced.Sound.bind (arrive_settled hsettled₁ call.destroyed)
  intro _ t₂ ⟨hsettled₂, hinsts₂⟩
  split
  . exact Traced.Sound.pure hsettled₂
  have ⟨hinsts, hmask, hpending, hdelivered⟩ : (openDevice call.opened t₂).2.insts = t₂.insts
      ∧ (openDevice call.opened t₂).2.mask = t₂.mask
      ∧ (openDevice call.opened t₂).2.pending = t₂.pending
      ∧ (openDevice call.opened t₂).2.delivered = t₂.delivered := by
    unfold openDevice
    split
    . exact ⟨rfl, rfl, rfl, rfl⟩
    . exact ⟨rfl, rfl, rfl, rfl⟩
  refine Traced.Sound.bind
    (quiet_step hsettled₂.1 hinsts hmask (by simp [hpending]) hdelivered id) ?_
  rintro fd t₃ ⟨_, _, hinv₃, hinsts₃⟩
  have hrest₃ := hsettled₂.2.of_eq hinsts₃
  split
  . exact Traced.Sound.pure ⟨hinv₃, hrest₃⟩
  next hfd =>
    apply Traced.Sound.change
    apply Traced.Sound.pure
    constructor
    . apply hinv₃.setInst
      . intro inst hinst _
        rw [hinsts₃, hinsts₂, hnone₁] at hinst
        cases hinst
      . intro inst hinst hpos
        cases hinst
        cases hpos
    . intro other
      by_cases hother : other = slot
      . intro inst hinst
        simp only [PmuState.setInst, hother, Function.update_self, Option.some.injEq] at hinst
        subst hinst
        exact ⟨Int.not_lt.mp hfd, Int.le_refl 0, by simp⟩
      . apply (hrest₃ other).of_eq
        simp [PmuState.setInst, hother]

theorem perform_sound (op : PmuOp) (h : Settled sigs blocked s)
    : Traced.Sound LeftToWait (Exposes sigs blocked) (perform sigs op) s
        fun _ => Settled sigs blocked := by
  cases op with
  | create slot call => exact create_sound h slot call
  | destroy slot call =>
    apply Traced.Sound.bind (destroy_sound h slot call)
    intro _ t ⟨hsettled, _⟩
    exact Traced.Sound.pure hsettled
  | registerNotify slot signo call => exact register_sound h slot signo call
  | unregisterNotify slot call => exact unregister_settled h slot call
  | waitShutdown slot call => exact wait_sound h slot call
  | raise fd =>
    apply Traced.Sound.bind (raise_sound h.1 fd)
    intro _ t ⟨hinv, hinsts⟩
    exact Traced.Sound.pure ⟨hinv, h.2.of_eq hinsts⟩

theorem boot_settled (sigs : Signals) (blocked : Int → Bool)
    : Settled sigs blocked (PmuState.boot sigs blocked) := by
  constructor
  . constructor
    . intro signo
      simp [PmuState.boot, Guarded, and_comm]
    . intro signo hsome
      exact absurd rfl hsome
    . intro slot inst hinst
      cases hinst
    . intro slot inst hinst
      cases hinst
    . intro slot inst hinst
      cases hinst
    . rfl
  . intro slot inst hinst
    cases hinst

end

/--
In a run all notifications are left to the waiting calls exactly if no registration exposes one: the
instance that has found a signal unblocked is the last to give it up, with no notification pending, and none
comes for a registration that the driver has given up or with a signal that cannot be blocked.
-/
theorem leftToWait_iff (sigs : Signals) (blocked : Int → Bool) (ops : List PmuOp)
    : (∀ v ∈ (pmuMachine sigs).visits (PmuState.boot sigs blocked) ops, ∀ st ∈ v.obs.2,
        LeftToWait st)
        ↔ ∀ v ∈ (pmuMachine sigs).visits (PmuState.boot sigs blocked) ops, ∀ st ∈ v.obs.2,
          ¬Exposes sigs blocked st :=
  Traced.forall_steps_iff (Settled sigs blocked) (fun op _ h => perform_sound op h)
    (boot_settled sigs blocked) ops

/-
Signals from 1 to 64, where 9 and 19 cannot be blocked.
-/
def standardSignals : Signals where
  valid signo := decide (0 < signo ∧ signo ≤ 64)
  blockable signo := decide (0 < signo ∧ signo ≤ 64 ∧ signo ≠ 9 ∧ signo ≠ 19)
  queued signo := decide (32 ≤ signo)
  pos := by
    intro signo h
    exact (of_decide_eq_true h).1
  blockable_valid := by
    intro signo h
    have := of_decide_eq_true h
    simp [this.1, this.2.1]

def quietUnregister : UnregisterCall := ⟨true, []⟩

def quietRegister : RegisterCall := ⟨quietUnregister, [], [], true, []⟩

def quietCreate : CreateCall := ⟨⟨quietUnregister, [], false⟩, [], true, true⟩

/-
Two instances with the default signal, of which the first gives it up. Then the key is pressed.
-/
def sharedOps : List PmuOp :=
  [.create 0 quietCreate, .create 1 quietCreate, .registerNotify 0 0 quietRegister,
    .registerNotify 1 0 quietRegister, .unregisterNotify 0 quietUnregister]

theorem sharedSignal_exposed
    : ¬∀ v ∈ (pmuMachine standardSignals).visits (PmuState.boot standardSignals fun _ => false)
        (sharedOps ++ [.raise 1]), ∀ st ∈ v.obs.2, LeftToWait st := by
  intro h
  have hlast := h _ (Machine.visit_final_mem _ _ sharedOps (.raise 1))
  have hkept : (((pmuMachine standardSignals).visit ((pmuMachine standardSignals).final
      (PmuState.boot standardSignals fun _ => false) sharedOps) (.raise 1)).obs.2.all
        fun st => !st.post.delivered) = true := by
    rw [List.all_eq_true]
    intro st hst
    rw [(hlast st hst).2]
    rfl
  revert hkept
  decide +kernel

end Pmu

import RtsmartLib.Hal.Pmu

/-!
This module contains which signals the instances keep blocked for power-key notifications, and what each
system call of the driver makes of them.
-/

namespace Pmu

open Lib

/-
No signal is unblocked while a notification of it is pending or another instance is registered with it, and
none has been delivered.
-/
def LeftToWait (st : Traced.Step PmuState PmuEvent) : Prop :=
  (∀ signo, st.pre.mask signo = true → st.post.mask signo = false →
      st.pre.pending signo = 0
        ∧ ∀ slot inst, st.event ≠ .unblockSignal slot → st.pre.insts slot = some inst →
          ¬(inst.notifyRegistered = true ∧ inst.signo = signo))
    ∧ st.post.delivered = false

/-
The signals in `blocked` were blocked before the first call, the others are while an instance has them.
-/
def Guarded (sigs : Signals) (blocked : Int → Bool) (s : PmuState) (signo : Int) : Prop :=
  sigs.blockable signo = true
    ∧ (blocked signo = true ∨ ∃ slot inst, s.insts slot = some inst ∧ inst.signo = signo)

/-
A notification comes for a registration that the driver does not know of, or with a signal that cannot be
blocked, or the instance that has found its signal unblocked gives it up before another one that is
registered with it or before a notification has been waited for.
-/
def Exposes (sigs : Signals) (blocked : Int → Bool) (st : Traced.Step PmuState PmuEvent) : Prop :=
  match st.event with
  | .raise fd =>
    ∃ signo, st.pre.attached fd = some signo ∧ sigs.valid signo = true
      ∧ ¬Guarded sigs blocked st.pre signo
  | .unblockSignal slot =>
    ∃ inst, st.pre.insts slot = some inst ∧ inst.signalWasBlocked = false
      ∧ sigs.blockable inst.signo = true
      ∧ (st.pre.pending inst.signo ≠ 0
        ∨ ∃ other found, other ≠ slot ∧ st.pre.insts other = some found
          ∧ found.notifyRegistered = true ∧ found.signo = inst.signo)
  | _ => False

/-
A signal that is blocked was so from the start, or an instance has found it unblocked.
-/
def HasOwner (blocked : Int → Bool) (s : PmuState) (signo : Int) : Prop :=
  blocked signo = true
    ∨ ∃ slot inst, s.insts slot = some inst ∧ inst.signo = signo ∧ inst.signalWasBlocked = false

/-
Of the instances that have a signal one has found it unblocked, unless it was blocked from the start.
-/
structure Inv (sigs : Signals) (blocked : Int → Bool) (s : PmuState) : Prop where
  mask : ∀ signo, s.mask signo = true ↔ Guarded sigs blocked s signo
  pending : ∀ signo, s.pending signo ≠ 0 → s.mask signo = true
  waitset : ∀ slot inst, s.insts slot = some inst → 0 < inst.signo →
    inst.waitset = sigaddset sigs sigemptyset inst.signo
  wasBlocked : ∀ slot inst, s.insts slot = some inst → sigs.blockable inst.signo = true →
    inst.signalWasBlocked = true → HasOwner blocked s inst.signo
  owner : ∀ slot inst, s.insts slot = some inst → sigs.blockable inst.signo = true →
    inst.signalWasBlocked = false →
      blocked inst.signo = false
        ∧ ∀ other found, s.insts other = some found → found.signo = inst.signo →
          found.signalWasBlocked = false → other = slot
  delivered : s.delivered = false

/-
Between two calls an instance has a signal exactly if it is registered.
-/
def RestAt (s : PmuState) (slot : Nat) : Prop :=
  ∀ inst, s.insts slot = some inst →
    0 ≤ inst.fd ∧ 0 ≤ inst.signo ∧ (inst.notifyRegistered = true ↔ inst.signo ≠ 0)

section

variable {sigs : Signals} {blocked : Int → Bool} {s t : PmuState} {slot : Nat}

theorem Signals.blockable_pos (sigs : Signals) {signo : Int} (h : sigs.blockable signo = true)
    : 0 < signo :=
  sigs.pos signo (sigs.blockable_valid signo h)

def SameSignal (inst inst' : DrvPmuInst) : Prop :=
  inst'.signo = inst.signo ∧ inst'.signalWasBlocked = inst.signalWasBlocked
    ∧ inst'.waitset = inst.waitset

/-
Whoever has a signal in `s` has it in `t`.
-/
def SignalsWithin (s t : PmuState) : Prop :=
  ∀ slot inst, s.insts slot = some inst → 0 < inst.signo →
    ∃ inst', t.insts slot = some inst' ∧ SameSignal inst inst'

theorem SignalsWithin.of_eq (h : t.insts = s.insts) : SignalsWithin s t := by
  intro slot inst hinst _
  refine ⟨inst, ?_, rfl, rfl, rfl⟩
  rw [h]
  exact hinst

theorem SignalsWithin.guarded (h : SignalsWithin s t) {signo : Int} (hs : Guarded sigs blocked s signo)
    : Guarded sigs blocked t signo := by
  refine ⟨hs.1, ?_⟩
  rcases hs.2 with hstart | ⟨slot, inst, hinst, hsigno⟩
  . exact .inl hstart
  . have ⟨inst', hinst', hsame, _⟩ := h slot inst hinst (hsigno ▸ sigs.blockable_pos hs.1)
    exact .inr ⟨slot, inst', hinst', hsame.trans hsigno⟩

/-
The invariant is about the signals only, of the instances that have one.
-/
theorem Inv.frame (h : Inv sigs blocked s) (hout : SignalsWithin s t) (hin : SignalsWithin t s)
    (hmask : t.mask = s.mask)
    (hpending : ∀ signo, t.pending signo ≠ 0 → s.pending signo ≠ 0 ∨ s.mask signo = true)
    (hdelivered : t.delivered = s.delivered)
    : Inv sigs blocked t where
  mask := by
    intro signo
    rw [hmask, h.mask]
    exact ⟨hout.guarded, hin.guarded⟩
  pending := by
    intro signo hsome
    rw [hmask]
    cases hpending signo hsome with
    | inl hwas => exact h.pending signo hwas
    | inr hmasked => exact hmasked
  waitset := by
    intro slot inst hinst hpos
    have ⟨inst', hinst', hsigno, _, hwaitset⟩ := hin slot inst hinst hpos
    rw [← hwaitset, ← hsigno]
    exact h.waitset slot inst' hinst' (hsigno ▸ hpos)
  wasBlocked := by
    intro slot inst hinst hblockable hwas
    have ⟨inst', hinst', hsigno, hsame, _⟩ := hin slot inst hinst (sigs.blockable_pos hblockable)
    rw [← hsigno] at hblockable ⊢
    rcases h.wasBlocked slot inst' hinst' hblockable (hsame.trans hwas) with
      hstart | ⟨other, found, hfound, hother, hunblocked⟩
    . exact .inl hstart
    . have hpos : 0 < found.signo := by
        rw [hother]
        exact sigs.blockable_pos hblockable
      have ⟨found', hfound', hsigno', hsame', _⟩ := hout other found hfound hpos
      exact .inr ⟨other, found', hfound', hsigno'.trans hother, hsame'.trans hunblocked⟩
  owner := by
    intro slot inst hinst hblockable hwas
    have ⟨inst', hinst', hsigno, hsame, _⟩ := hin slot inst hinst (sigs.blockable_pos hblockable)
    rw [← hsigno] at hblockable ⊢
    have ⟨hstart, honly⟩ := h.owner slot inst' hinst' hblockable (hsame.trans hwas)
    refine ⟨hstart, ?_⟩
    intro other found hfound hother hunblocked
    have hpos : 0 < found.signo := by
      rw [hother]
      exact sigs.blockable_pos hblockable
    have ⟨found', hfound', hsigno', hsame', _⟩ := hin other found hfound hpos
    exact honly other found' hfound' (hsigno'.trans hother) (hsame'.trans hunblocked)
  delivered := by
    rw [hdelivered]
    exact h.delivered

theorem leftToWait_of_kept {st : Traced.Step PmuState PmuEvent}
    (hmask : ∀ signo, st.pre.mask signo = true → st.post.mask signo = true)
    (hdelivered : st.post.delivered = false)
    : LeftToWait st := by
  constructor
  . intro signo hpre hpost
    rw [hmask signo hpre] at hpost
    cases hpost
  . exact hdelivered

/-
A system call that leaves the blocked signals as they are is good.
-/
theorem quiet_step {α : Type} {event : PmuEvent} {f : PmuState → α × PmuState}
    (h : Inv sigs blocked s) (hinsts : (f s).2.insts = s.insts) (hmask : (f s).2.mask = s.mask)
    (hpending : ∀ signo, (f s).2.pending signo ≠ 0 → s.pending signo ≠ 0)
    (hdelivered : (f s).2.delivered = s.delivered)
    (hevent : ¬Exposes sigs blocked ⟨s, event, (f s).2⟩)
    : Traced.Sound LeftToWait (Exposes sigs blocked) (Traced.step event f) s
        fun ret t => ret = (f s).1 ∧ t = (f s).2 ∧ Inv sigs blocked t ∧ t.insts = s.insts := by
  apply Traced.Sound.step
  . constructor
    . intro _
      exact hevent
    . intro _
      apply leftToWait_of_kept
      . intro signo hpre
        rw [hmask]
        exact hpre
      . exact hdelivered.trans h.delivered
  . intro _
    refine ⟨rfl, rfl, ?_, hinsts⟩
    exact h.frame (.of_eq hinsts) (.of_eq hinsts.symm) hmask
      (fun signo hsome => .inl (hpending signo hsome)) hdelivered

theorem notify_frame (sigs : Signals) (s : PmuState) (fd : Int)
    : (s.notify sigs fd).insts = s.insts ∧ (s.notify sigs fd).mask = s.mask
        ∧ ∀ signo, (s.notify sigs fd).pending signo ≠ 0 →
          s.pending signo ≠ 0 ∨ s.mask signo = true := by
  unfold PmuState.notify
  split
  . exact ⟨rfl, rfl, fun _ => .inl⟩
  next signo _ =>
    split
    . exact ⟨rfl, rfl, fun _ => .inl⟩
    split
    next hmask =>
      refine ⟨rfl, rfl, ?_⟩
      intro signo' hsome
      by_cases hsigno : signo' = signo
      . rw [hsigno]
        exact .inr hmask
      . left
        simpa [hsigno] using hsome
    . exact ⟨rfl, rfl, fun _ => .inl⟩

/-
A notification is pending until it is waited for, if its signal is blocked.
-/
theorem notify_delivered (h : Inv sigs blocked s) (fd : Int)
    : (s.notify sigs fd).delivered = false
        ↔ ¬∃ signo, s.attached fd = some signo ∧ sigs.valid signo = true
          ∧ ¬Guarded sigs blocked s signo := by
  unfold PmuState.notify
  split
  next hnone => simp [hnone, h.delivered]
  next signo hsome =>
    simp only [hsome, Option.some.injEq, ← h.mask]
    split
    next hvalid =>
      simp only [Bool.not_eq_eq_eq_not, Bool.not_true] at hvalid
      simp [hvalid, h.delivered]
    next hvalid =>
      simp only [Bool.not_eq_eq_eq_not, Bool.not_true, Bool.not_eq_false] at hvalid
      split
      next hmask => simp [hmask, h.delivered]
      next hmask => simp [hvalid, hmask]

theorem raise_sound (h : Inv sigs blocked s) (fd : Int)
    : Traced.Sound LeftToWait (Exposes sigs blocked) (raise sigs fd) s
        fun _ t => Inv sigs blocked t ∧ t.insts = s.insts := by
  have ⟨hinsts, hmask, hpending⟩ := notify_frame sigs s fd
  have hdelivered := notify_delivered h fd
  unfold raise
  apply Traced.Sound.step
  . constructor
    . intro hgood
      exact hdelivered.mp hgood.2
    . intro hnot
      apply leftToWait_of_kept
      . intro signo hpre
        rw [hmask]
        exact hpre
      . exact hdelivered.mpr hnot
  . intro hnot
    -- the notification is pending on a signal that is blocked
    refine ⟨?_, hinsts⟩
    apply h.frame (.of_eq hinsts) (.of_eq hinsts.symm) hmask hpending
    rw [h.delivered]
    exact hdelivered.mpr hnot

theorem arrive_sound (h : Inv sigs blocked s) (fds : List Int)
    : Traced.Sound LeftToWait (Exposes sigs blocked) (arrive sigs fds) s
        fun _ t => Inv sigs blocked t ∧ t.insts = s.insts := by
  unfold arrive
  apply Traced.Sound.each fun t => Inv sigs blocked t ∧ t.insts = s.insts
  . intro fd t ⟨hinv, hinsts⟩
    rw [← hinsts]
    exact raise_sound hinv fd
  . exact ⟨h, rfl⟩

theorem setInst_iff (s : PmuState) (slot : Nat) (inst : DrvPmuInst) (other : Nat) (found : DrvPmuInst)
    : (s.setInst slot (some inst)).insts other = some found
        ↔ (other = slot ∧ found = inst) ∨ (other ≠ slot ∧ s.insts other = some found) := by
  unfold PmuState.setInst
  by_cases hother : other = slot
  . simp [hother, eq_comm]
  . simp [hother]

theorem sigaddset_contains (sigs : Signals) (signo signo' : Int)
    : (sigaddset sigs sigemptyset signo).contains signo' = true
        ↔ signo' = signo ∧ sigs.valid signo = true := by
  unfold sigaddset sigemptyset
  split
  next hvalid => simp [hvalid]
  next hvalid => simp [hvalid]

/-
The instance after its signal has been blocked.
-/
def blockedInst (sigs : Signals) (s : PmuState) (inst : DrvPmuInst) (signo : Int) : DrvPmuInst :=
  { inst with
    waitset := sigaddset sigs sigemptyset signo
    signalWasBlocked := sigs.valid signo && s.mask signo
    signo := signo }

theorem blockSignal_frame (sigs : Signals) {inst : DrvPmuInst} (hinst : s.insts slot = some inst)
    (signo : Int)
    : (drvPmuBlockSignal sigs slot signo s).1 = 0
        ∧ (drvPmuBlockSignal sigs slot signo s).2.insts
          = (s.setInst slot (some (blockedInst sigs s inst signo))).insts
        ∧ (drvPmuBlockSignal sigs slot signo s).2.pending = s.pending
        ∧ (drvPmuBlockSignal sigs slot signo s).2.delivered = s.delivered
        ∧ ∀ signo', (drvPmuBlockSignal sigs slot signo s).2.mask signo' = true
          ↔ s.mask signo' = true ∨ (signo' = signo ∧ sigs.blockable signo' = true) := by
  refine ⟨rfl, ?_, rfl, rfl, ?_⟩
  . unfold drvPmuBlockSignal pthreadSigmask PmuState.modifyInst PmuState.setInst blockedInst
    simp [hinst]
  . intro signo'
    have hmask : (drvPmuBlockSignal sigs slot signo s).2.mask signo'
        = (s.mask signo' || ((sigaddset sigs sigemptyset signo).contains signo'
          && sigs.blockable signo')) := rfl
    rw [hmask, Bool.or_eq_true, Bool.and_eq_true, sigaddset_contains]
    constructor
    . rintro (hwas | ⟨⟨heq, _⟩, hblockable⟩)
      . exact .inl hwas
      . exact .inr ⟨heq, hblockable⟩
    . rintro (hwas | ⟨heq, hblockable⟩)
      . exact .inl hwas
      . exact .inr ⟨⟨heq, heq ▸ sigs.blockable_valid signo' hblockable⟩, hblockable⟩

theorem Inv.mask_owner (h : Inv sigs blocked s) {signo : Int} (hmask : s.mask signo = true)
    : HasOwner blocked s signo := by
  have ⟨hblockable, hguarded⟩ := (h.mask signo).mp hmask
  rcases hguarded with hstart | ⟨slot, inst, hinst, rfl⟩
  . exact .inl hstart
  . cases hwas : inst.signalWasBlocked with
    | false => exact .inr ⟨slot, inst, hinst, rfl, hwas⟩
    | true => exact h.wasBlocked slot inst hinst hblockable hwas

/-
The instance that has found a signal unblocked is not the one that had none.
-/
theorem block_owner {inst : DrvPmuInst} (hinst : s.insts slot = some inst) (hnone : inst.signo = 0)
    (signo : Int) {signo' : Int} (hblockable : sigs.blockable signo' = true)
    (howner : HasOwner blocked s signo')
    : HasOwner blocked (drvPmuBlockSignal sigs slot signo s).2 signo' := by
  rcases howner with hstart | ⟨owner, inst', howner, hsame, hunblocked⟩
  . exact .inl hstart
  . right
    refine ⟨owner, inst', ?_, hsame, hunblocked⟩
    rw [(blockSignal_frame sigs hinst signo).2.1, setInst_iff]
    right
    refine ⟨?_, howner⟩
    intro heq
    rw [heq, hinst, Option.some.injEq] at howner
    have := sigs.blockable_pos hblockable
    rw [← howner, hnone] at hsame
    omega

theorem Inv.block_alone {inst : DrvPmuInst} (h : Inv sigs blocked s) (hinst : s.insts slot = some inst)
    (signo : Int) {other : Nat} {found : DrvPmuInst}
    (hfound : (drvPmuBlockSignal sigs slot signo s).2.insts other = some found)
    (hblockable : sigs.blockable found.signo = true) (hwas : found.signalWasBlocked = false)
    : blocked found.signo = false
        ∧ ∀ other' found', (drvPmuBlockSignal sigs slot signo s).2.insts other' = some found' →
          found'.signo = found.signo → found'.signalWasBlocked = false → other' = other := by
  have ⟨_, hinsts, _⟩ := blockSignal_frame sigs hinst signo
  -- whoever has the signal keeps it blocked, so that the instance cannot find it unblocked too
  have hmasked : ∀ {other' found'}, s.insts other' = some found' →
      found'.signo = found.signo → s.mask found.signo = true := by
    intro other' found' hfound' hsigno
    exact (h.mask found.signo).mpr ⟨hblockable, .inr ⟨other', found', hfound', hsigno⟩⟩
  have hunmasked : (blockedInst sigs s inst signo).signalWasBlocked = false →
      found.signo = signo → s.mask found.signo = false := by
    intro hunblocked hsigno
    unfold blockedInst at hunblocked
    rw [← hsigno, sigs.blockable_valid _ hblockable] at hunblocked
    exact hunblocked
  rw [hinsts, setInst_iff] at hfound
  simp only [hinsts, setInst_iff]
  rcases hfound with ⟨hother, rfl⟩ | ⟨hother, hfound⟩
  . have hfree := hunmasked hwas rfl
    constructor
    . rw [Bool.eq_false_iff]
      intro hstart
      have := (h.mask _).mpr ⟨hblockable, .inl hstart⟩
      rw [hfree] at this
      cases this
    . rintro other' found' (⟨hother', _⟩ | ⟨_, hfound'⟩) hsigno _
      . rw [hother', hother]
      . rw [hmasked hfound' hsigno] at hfree
        cases hfree
  . have ⟨hstart, honly⟩ := h.owner other found hfound hblockable hwas
    refine ⟨hstart, ?_⟩
    rintro other' found' (⟨_, rfl⟩ | ⟨_, hfound'⟩) hsigno hunblocked
    . have hfree := hunmasked hunblocked hsigno.symm
      rw [hmasked hfound rfl] at hfree
      cases hfree
    . exact honly other' found' hfound' hsigno hunblocked

/-
An instance that has no signal gets one.
-/
theorem Inv.block {inst : DrvPmuInst} (h : Inv sigs blocked s) (hinst : s.insts slot = some inst)
    (hnone : inst.signo = 0) (signo : Int)
    : Inv sigs blocked (drvPmuBlockSignal sigs slot signo s).2 := by
  have ⟨_, hinsts, hpending, hdelivered, hmask⟩ := blockSignal_frame sigs hinst signo
  have hpos : ∀ signo', sigs.blockable signo' = true → 0 < signo' :=
    fun _ => sigs.blockable_pos
  constructor
  . intro signo'
    rw [hmask, h.mask]
    unfold Guarded
    rw [hinsts]
    simp only [setInst_iff]
    grind [blockedInst]
  . intro signo' hsome
    rw [hpending] at hsome
    rw [hmask]
    exact .inl (h.pending signo' hsome)
  . intro other found hfound hsigno
    rw [hinsts, setInst_iff] at hfound
    rcases hfound with ⟨_, heq⟩ | ⟨_, hfound⟩
    . rw [heq]
      rfl
    . exact h.waitset other found hfound hsigno
  . intro other found hfound hblockable hwas
    apply block_owner hinst hnone signo hblockable
    rw [hinsts, setInst_iff] at hfound
    rcases hfound with ⟨_, rfl⟩ | ⟨_, hfound⟩
    . apply h.mask_owner
      unfold blockedInst at hwas
      rw [Bool.and_eq_true] at hwas
      exact hwas.2
    . exact h.wasBlocked other found hfound hblockable hwas
  . intro other found hfound hblockable hwas
    exact h.block_alone hinst signo hfound hblockable hwas
  . rw [hdelivered]
    exact h.delivered

theorem sigmask_unblock (sigs : Signals) (s : PmuState) (signo : Int)
    : let t := (pthreadSigmask sigs sigUnblock (sigaddset sigs sigemptyset signo) s).2
      t.insts = s.insts
        ∧ (∀ signo', t.mask signo' = true
          ↔ s.mask signo' = true ∧ ¬(signo' = signo ∧ sigs.valid signo = true))
        ∧ (∀ signo', t.pending signo' ≠ 0
          ↔ s.pending signo' ≠ 0 ∧ ¬(signo' = signo ∧ sigs.valid signo = true))
        ∧ (t.delivered = true
          ↔ s.delivered = true ∨ (sigs.valid signo = true ∧ s.pending signo ≠ 0)) := by
  intro t
  have hcontains := sigaddset_contains sigs signo
  have hmask : ∀ signo', t.mask signo'
      = (s.mask signo' && !(sigaddset sigs sigemptyset signo).contains signo') := fun _ => rfl
  have hpending : ∀ signo', t.pending signo'
      = if (sigaddset sigs sigemptyset signo).contains signo' then 0 else s.pending signo' :=
    fun _ => rfl
  have hdelivered : t.delivered = (s.delivered
      || (sigaddset sigs sigemptyset signo).any fun signo' => decide (0 < s.pending signo')) := rfl
  refine ⟨rfl, ?_, ?_, ?_⟩
  . intro signo'
    rw [hmask, Bool.and_eq_true, Bool.not_eq_true', Bool.eq_false_iff, ne_eq, hcontains]
  . intro signo'
    rw [hpending, ← hcontains]
    split
    next hin => exact ⟨fun hne => absurd rfl hne, fun hand => absurd hin hand.2⟩
    next hout => exact ⟨fun hne => ⟨hne, hout⟩, fun hand => hand.1⟩
  . rw [hdelivered, Bool.or_eq_true]
    unfold sigaddset sigemptyset
    split
    next hvalid => simp [hvalid, Nat.pos_iff_ne_zero]
    next hvalid => simp [hvalid]

/-
The instance after it has given its signal up.
-/
def clearedInst (inst : DrvPmuInst) : DrvPmuInst :=
  { inst with waitset := sigemptyset, signalWasBlocked := false, signo := 0 }

theorem unblockSignal_none {inst : DrvPmuInst} (hinst : s.insts slot = some inst)
    (hnone : inst.signo ≤ 0)
    : drvPmuUnblockSignal sigs slot s = s := by
  unfold drvPmuUnblockSignal
  rw [hinst]
  dsimp only
  rw [if_pos hnone]

/-
The signal is unblocked by the instance that has found it so.
-/
def Unblocks (sigs : Signals) (inst : DrvPmuInst) (signo : Int) : Prop :=
  inst.signalWasBlocked = false ∧ signo = inst.signo ∧ sigs.valid inst.signo = true

theorem unblockSignal_frame (h : Inv sigs blocked s) {inst : DrvPmuInst}
    (hinst : s.insts slot = some inst) (hsome : 0 < inst.signo)
    : (drvPmuUnblockSignal sigs slot s).insts = (s.setInst slot (some (clearedInst inst))).insts
        ∧ (∀ signo, (drvPmuUnblockSignal sigs slot s).mask signo = true
          ↔ s.mask signo = true ∧ ¬Unblocks sigs inst signo)
        ∧ (∀ signo, (drvPmuUnblockSignal sigs slot s).pending signo ≠ 0
          ↔ s.pending signo ≠ 0 ∧ ¬Unblocks sigs inst signo)
        ∧ ((drvPmuUnblockSignal sigs slot s).delivered = true
          ↔ Unblocks sigs inst inst.signo ∧ s.pending inst.signo ≠ 0) := by
  have hwaitset := h.waitset slot inst hinst hsome
  unfold drvPmuUnblockSignal Unblocks
  rw [hinst]
  dsimp only
  rw [if_neg (by omega), hwaitset]
  cases hwas : inst.signalWasBlocked with
  | true =>
    refine ⟨?_, ?_, ?_, ?_⟩
    . simp [PmuState.modifyInst, PmuState.setInst, hinst, clearedInst]
    . simp [PmuState.modifyInst, PmuState.setInst]
    . simp [PmuState.modifyInst, PmuState.setInst]
    . simp [PmuState.modifyInst, PmuState.setInst, h.delivered]
  | false =>
    have ⟨hinsts, hmask, hpending, hdelivered⟩ := sigmask_unblock sigs s inst.signo
    simp only [Bool.not_false, if_true, true_and]
    refine ⟨?_, ?_, ?_, ?_⟩
    . unfold PmuState.modifyInst PmuState.setInst
      rw [hinsts, hinst]
      rfl
    . exact hmask
    . exact hpending
    . rw [h.delivered] at hdelivered
      simpa [PmuState.modifyInst, PmuState.setInst] using hdelivered

/-
What the driver asks for with this step: that no notification is left and no other instance.
-/
theorem unblockSignal_good (h : Inv sigs blocked s) {inst : DrvPmuInst}
    (hinst : s.insts slot = some inst) (hsome : 0 < inst.signo)
    : LeftToWait ⟨s, .unblockSignal slot, drvPmuUnblockSignal sigs slot s⟩
        ↔ ¬Exposes sigs blocked ⟨s, .unblockSignal slot, drvPmuUnblockSignal sigs slot s⟩ := by
  have ⟨_, hmask, _, hdelivered⟩ := unblockSignal_frame h hinst hsome
  constructor
  . intro ⟨hkept, _⟩ ⟨inst', hinst', hwas, hblockable, hleft⟩
    cases hinst.symm.trans hinst'
    -- the instance has the signal, so that it is blocked and becomes unblocked
    have hpre : s.mask inst.signo = true :=
      (h.mask inst.signo).mpr ⟨hblockable, .inr ⟨slot, inst, hinst, rfl⟩⟩
    have hpost : (drvPmuUnblockSignal sigs slot s).mask inst.signo = false := by
      rw [Bool.eq_false_iff, ne_eq, hmask]
      intro ⟨_, hnot⟩
      exact hnot ⟨hwas, rfl, sigs.blockable_valid _ hblockable⟩
    have ⟨hpending, hothers⟩ := hkept inst.signo hpre hpost
    rcases hleft with hleft | ⟨other, found, hother, hfound, hregistered⟩
    . exact hleft hpending
    . apply hothers other found _ hfound hregistered
      intro heq
      exact hother (PmuEvent.unblockSignal.inj heq).symm
  . intro hnot
    constructor
    . intro signo hpre hpost
      have hunblocks : Unblocks sigs inst signo := by
        by_contra hkept
        have := (hmask signo).mpr ⟨hpre, hkept⟩
        dsimp only at hpost
        rw [hpost] at this
        cases this
      have ⟨hwas, hsigno, hvalid⟩ := hunblocks
      have hblockable := ((h.mask signo).mp hpre).1
      rw [hsigno] at hblockable
      constructor
      . by_contra hpending
        rw [hsigno] at hpending
        exact hnot ⟨inst, hinst, hwas, hblockable, .inl hpending⟩
      . intro other found hevent hfound ⟨hregistered, hsame⟩
        apply hnot
        refine ⟨inst, hinst, hwas, hblockable, .inr ⟨other, found, ?_, hfound, hregistered, ?_⟩⟩
        . intro hother
          exact hevent (hother ▸ rfl)
        . rw [hsame, hsigno]
    . rw [Bool.eq_false_iff, ne_eq, hdelivered]
      intro ⟨⟨hwas, _, _⟩, hpending⟩
      have hblockable := ((h.mask _).mp (h.pending _ hpending)).1
      exact hnot ⟨inst, hinst, hwas, hblockable, .inl hpending⟩

/-
The signal is not unblocked as long as another instance has it.
-/
theorem unblock_last {inst : DrvPmuInst} (hinst : s.insts slot = some inst)
    (hrest : ∀ other, other ≠ slot → RestAt s other)
    (hnot : ¬Exposes sigs blocked ⟨s, .unblockSignal slot, drvPmuUnblockSignal sigs slot s⟩)
    {other : Nat} {found : DrvPmuInst} (hother : other ≠ slot) (hfound : s.insts other = some found)
    (hblockable : sigs.blockable found.signo = true) (hsame : found.signo = inst.signo)
    : inst.signalWasBlocked = true := by
  rw [← Bool.not_eq_false]
  intro hwas
  apply hnot
  refine ⟨inst, hinst, hwas, hsame ▸ hblockable, .inr ⟨other, found, hother, hfound, ?_, hsame⟩⟩
  have hpos := sigs.blockable_pos hblockable
  exact (hrest other hother found hfound).2.2.mpr (by omega)

/-
Those that have a signal afterwards are the other ones that had one.
-/
theorem unblock_found (h : Inv sigs blocked s) {inst : DrvPmuInst}
    (hinst : s.insts slot = some inst) (hsome : 0 < inst.signo) {other : Nat} {found : DrvPmuInst}
    (hpos : 0 < found.signo)
    : (drvPmuUnblockSignal sigs slot s).insts other = some found
        ↔ other ≠ slot ∧ s.insts other = some found := by
  rw [(unblockSignal_frame h hinst hsome).1, setInst_iff]
  constructor
  . rintro (⟨_, rfl⟩ | hfound)
    . cases hpos
    . exact hfound
  . exact .inr

theorem unblock_guarded (h : Inv sigs blocked s) {inst : DrvPmuInst}
    (hinst : s.insts slot = some inst) (hsome : 0 < inst.signo)
    (hrest : ∀ other, other ≠ slot → RestAt s other)
    (hnot : ¬Exposes sigs blocked ⟨s, .unblockSignal slot, drvPmuUnblockSignal sigs slot s⟩)
    (signo : Int)
    : Guarded sigs blocked (drvPmuUnblockSignal sigs slot s) signo
        ↔ Guarded sigs blocked s signo ∧ ¬Unblocks sigs inst signo := by
  constructor
  . rintro ⟨hblockable, hstart | ⟨other, found, hfound, rfl⟩⟩
    . refine ⟨⟨hblockable, .inl hstart⟩, ?_⟩
      rintro ⟨hwas, rfl, _⟩
      rw [(h.owner slot inst hinst hblockable hwas).1] at hstart
      cases hstart
    . have ⟨hother, hfound⟩ := (unblock_found h hinst hsome (sigs.blockable_pos hblockable)).mp hfound
      refine ⟨⟨hblockable, .inr ⟨other, found, hfound, rfl⟩⟩, ?_⟩
      rintro ⟨hwas, hsame, _⟩
      rw [unblock_last hinst hrest hnot hother hfound hblockable hsame] at hwas
      cases hwas
  . rintro ⟨⟨hblockable, hstart | ⟨other, found, hfound, rfl⟩⟩, hkept⟩
    . exact ⟨hblockable, .inl hstart⟩
    . have hpos := sigs.blockable_pos hblockable
      refine ⟨hblockable, ?_⟩
      by_cases hother : other = slot
      . rw [hother, hinst, Option.some.injEq] at hfound
        subst hfound
        have hwas : inst.signalWasBlocked = true := by
          rw [← Bool.not_eq_false]
          intro hwas
          exact hkept ⟨hwas, rfl, sigs.blockable_valid _ hblockable⟩
        -- the one that has found the signal unblocked still has it
        rcases h.wasBlocked slot inst hinst hblockable hwas with
          hstart | ⟨owner, inst', howner, hsame, hunblocked⟩
        . exact .inl hstart
        . refine .inr ⟨owner, inst', (unblock_found h hinst hsome (hsame ▸ hpos)).mpr ⟨?_, howner⟩, hsame⟩
          intro heq
          rw [heq, hinst, Option.some.injEq] at howner
          rw [← howner, hwas] at hunblocked
          cases hunblocked
      . exact .inr ⟨other, found, (unblock_found h hinst hsome hpos).mpr ⟨hother, hfound⟩, rfl⟩

theorem Inv.unblock (h : Inv sigs blocked s) {inst : DrvPmuInst}
    (hinst : s.insts slot = some inst) (hsome : 0 < inst.signo)
    (hrest : ∀ other, other ≠ slot → RestAt s other)
    (hnot : ¬Exposes sigs blocked ⟨s, .unblockSignal slot, drvPmuUnblockSignal sigs slot s⟩)
    : Inv sigs blocked (drvPmuUnblockSignal sigs slot s) := by
  have ⟨_, hmask, hpending, _⟩ := unblockSignal_frame h hinst hsome
  constructor
  . intro signo
    rw [hmask, h.mask, unblock_guarded h hinst hsome hrest hnot]
  . intro signo hsomePending
    have ⟨hwas, hkept⟩ := (hpending signo).mp hsomePending
    exact (hmask signo).mpr ⟨h.pending signo hwas, hkept⟩
  . intro other found hfound hpos
    have ⟨_, hfound⟩ := (unblock_found h hinst hsome hpos).mp hfound
    exact h.waitset other found hfound hpos
  . intro other found hfound hblockable hwas
    have hpos := sigs.blockable_pos hblockable
    have ⟨hother, hfound⟩ := (unblock_found h hinst hsome hpos).mp hfound
    rcases h.wasBlocked other found hfound hblockable hwas with
      hstart | ⟨owner, inst', howner, hsame, hunblocked⟩
    . exact .inl hstart
    . right
      refine ⟨owner, inst', (unblock_found h hinst hsome (hsame ▸ hpos)).mpr ⟨?_, howner⟩, hsame,
        hunblocked⟩
      intro heq
      rw [heq, hinst, Option.some.injEq] at howner
      subst howner
      rw [unblock_last hinst hrest hnot hother hfound hblockable hsame.symm] at hunblocked
      cases hunblocked
  . intro other found hfound hblockable hwas
    have hpos := sigs.blockable_pos hblockable
    have ⟨_, hfound⟩ := (unblock_found h hinst hsome hpos).mp hfound
    have ⟨hstart, honly⟩ := h.owner other found hfound hblockable hwas
    refine ⟨hstart, ?_⟩
    intro other' found' hfound' hsame hunblocked
    have ⟨_, hfound'⟩ := (unblock_found h hinst hsome (hsame ▸ hpos)).mp hfound'
    exact honly other' found' hfound' hsame hunblocked
  . exact ((unblockSignal_good h hinst hsome).mpr hnot).2

/-
An instance gives its signal up, if it has one.
-/
theorem unblock_sound (h : Inv sigs blocked s) {inst : DrvPmuInst}
    (hinst : s.insts slot = some inst) (hsigno : 0 ≤ inst.signo)
    (hrest : ∀ other, other ≠ slot → RestAt s other)
    : Traced.Sound LeftToWait (Exposes sigs blocked) (unblockSignal sigs slot) s
        fun _ t => Inv sigs blocked t ∧ (∀ other, other ≠ slot → t.insts other = s.insts other)
          ∧ ∃ inst', t.insts slot = some inst' ∧ inst'.fd = inst.fd
            ∧ inst'.notifyRegistered = inst.notifyRegistered ∧ inst'.signo = 0 := by
  unfold unblockSignal
  by_cases hsome : 0 < inst.signo
  . have hinsts := (unblockSignal_frame h hinst hsome).1
    apply Traced.Sound.step (unblockSignal_good h hinst hsome)
    intro hnot
    refine ⟨h.unblock hinst hsome hrest hnot, ?_, clearedInst inst, ?_, rfl, rfl, rfl⟩
    . intro other hother
      dsimp only
      rw [hinsts]
      simp [PmuState.setInst, hother]
    . dsimp only
      rw [hinsts]
      simp [PmuState.setInst]
  . have hzero : inst.signo = 0 := by omega
    have hsame : drvPmuUnblockSignal sigs slot s = s := unblockSignal_none hinst (by omega)
    refine (quiet_step h (congrArg PmuState.insts hsame) (congrArg PmuState.mask hsame) ?_
      (congrArg PmuState.delivered hsame) ?_).mono ?_
    . intro signo hpending
      rw [← hsame]
      exact hpending
    . rintro ⟨inst', hinst', _, hblockable, _⟩
      cases hinst.symm.trans hinst'
      exact hsome (sigs.blockable_pos hblockable)
    . rintro _ t ⟨_, _, hinv, hinsts⟩
      rw [hinsts]
      exact ⟨hinv, fun _ _ => rfl, inst, hinst, rfl, rfl, hzero⟩

/-
What the driver itself changes of an instance leaves its signal as it is.
-/
theorem Inv.setInst (h : Inv sigs blocked s) {changed : Option DrvPmuInst}
    (hout : ∀ inst, s.insts slot = some inst → 0 < inst.signo →
      ∃ inst', changed = some inst' ∧ SameSignal inst inst')
    (hin : ∀ inst', changed = some inst' → 0 < inst'.signo →
      ∃ inst, s.insts slot = some inst ∧ SameSignal inst' inst)
    : Inv sigs blocked (s.setInst slot changed) := by
  refine h.frame ?_ ?_ rfl (fun _ hne => .inl hne) rfl
  . intro other inst hinst hpos
    unfold PmuState.setInst
    by_cases hother : other = slot
    . rw [hother] at hinst ⊢
      simpa using hout inst hinst hpos
    . exact ⟨inst, by simpa [hother] using hinst, rfl, rfl, rfl⟩
  . intro other inst hinst hpos
    unfold PmuState.setInst at hinst
    by_cases hother : other = slot
    . rw [hother] at hinst ⊢
      exact hin inst (by simpa using hinst) hpos
    . exact ⟨inst, by simpa [hother] using hinst, rfl, rfl, rfl⟩

/-
An instance that keeps its signal.
-/
theorem Inv.modifyInst (h : Inv sigs blocked s) {inst : DrvPmuInst} (hinst : s.insts slot = some inst)
    (f : DrvPmuInst → DrvPmuInst) (hf : SameSignal inst (f inst))
    : Inv sigs blocked (s.modifyInst slot f) := by
  unfold PmuState.modifyInst
  rw [hinst]
  have ⟨hsigno, hwas, hwaitset⟩ := hf
  apply h.setInst
  . intro inst' hinst' _
    cases hinst.symm.trans hinst'
    exact ⟨f inst, rfl, hf⟩
  . intro inst' hinst' _
    cases hinst'
    exact ⟨inst, hinst, hsigno.symm, hwas.symm, hwaitset.symm⟩

end

end Pmu

import RtsmartLib.Input.PointerFrames

/-!
This module contains the events of a connection that returned frames have not delivered, and the frames
that leave out such events or hold events of a device that is gone.
-/

namespace Input

open Lib Posix

inductive InputOp where
  | readPointerFrame
  | poll (timeoutMs : Int)
  | getInfo (answer : Except Errno DrvInputInfo)
  | markDisconnected
  | tryReconnect
  | setAutoReconnect (kind : Nat)

def inputStep (inst : DrvInputInst) (kernel : InputKernel) (op : InputOp)
    : Option PointerResult × DrvInputInst × InputKernel :=
  match op with
  | .readPointerFrame =>
    let r := drvInputReadPointerFrame inst kernel
    (some r, r.inst, r.kernel)
  | .poll timeoutMs =>
    let r := drvInputPoll inst kernel timeoutMs
    (none, r.inst, r.kernel)
  | .getInfo answer => (none, (drvInputGetInfo inst answer).2, kernel)
  | .markDisconnected => (none, drvInputInstMarkDisconnected inst, kernel)
  | .tryReconnect =>
    let r := drvInputInstTryReconnect inst kernel
    (none, r.inst, r.kernel)
  | .setAutoReconnect kind => (none, drvInputInstSetAutoReconnect inst kind, kernel)

/-
An instance together with the events that its present connection has given to the calls: those that
returned frames have delivered, and those that calls have consumed since without returning a frame.
-/
structure InputLedger where
  inst : DrvInputInst
  kernel : InputKernel
  delivered : List InputEvent
  undelivered : List InputEvent

def InputLedger.create (kernel : InputKernel) : InputLedger :=
  ⟨drvInputInstCreate kernel.nextFd, { kernel with nextFd := kernel.nextFd + 1 }, [], []⟩

def InputLedger.record (s : InputLedger) (r : Option PointerResult) (inst : DrvInputInst)
    (kernel : InputKernel) : InputLedger :=
  if inst.fd = s.inst.fd then
    match r with
    | none => ⟨inst, kernel, s.delivered, s.undelivered⟩
    | some r =>
      if 0 < r.ret then
        ⟨inst, kernel, s.delivered ++ (s.undelivered ++ r.rawFrame.events), []⟩
      else
        ⟨inst, kernel, s.delivered, s.undelivered ++ r.rawFrame.events⟩
  else
    ⟨inst, kernel, [], []⟩

def ledgerMachine : Machine InputLedger InputOp (Option PointerResult) :=
  ⟨fun s op =>
    let r := inputStep s.inst s.kernel op
    (s.record r.1 r.2.1 r.2.2, r.1)⟩

/-
The button state is that of the events which the connected device has delivered. A returned frame is
made of the events of this device that no earlier frame has delivered, and of no others.
-/
def FrameFaithful (v : Machine.Visit InputLedger InputOp (Option PointerResult)) : Prop :=
  v.post.inst.buttonState = buttonFold 0#32 v.post.delivered
    ∧ ∀ r, v.obs = some r → 0 < r.ret →
      let due :=
        if v.post.inst.fd = v.pre.inst.fd then v.pre.undelivered ++ r.rawFrame.events else []
      r.rawFrame.events = due
        ∧ (∀ axis, r.frame.delta axis = totalDelta due axis)
        ∧ r.frame.buttons = buttonFold 0#32 v.post.delivered

/-
The automatic reconnect is on, a device of the preferred kind is there, and it can be opened.
-/
def Reconnects (inst : DrvInputInst) (kernel : InputKernel) : Prop :=
  inst.autoReconnect = true ∧ inst.preferredKind ≠ deviceUnknown
    ∧ ∃ probe probes info, kernel.probes = probe :: probes
      ∧ drvInputFindFirstByType probe inst.preferredKind = some info
      ∧ probe.openError = none

/-
A frame is read on a connection with an event first, and either the device is lost before the frame
ends and another one is opened in its place, or the frame ends without a failure although an earlier one
of the same connection has failed after events.
-/
def MisplacesEvents (v : Machine.Visit InputLedger InputOp (Option PointerResult)) : Prop :=
  let cut := frameCut drvInputMaxFrameEvents v.pre.kernel.reads
  v.event = .readPointerFrame ∧ v.pre.inst.fd.isSome = true ∧ cut.events ≠ []
    ∧ match cut.stop with
      | .error _ => False
      | .disconnect => Reconnects v.pre.inst v.pre.kernel
      | _ => v.pre.undelivered ≠ []

/-
What a call other than a read does to the connection.
-/
inductive ConnectionStep (inst : DrvInputInst) (kernel : InputKernel) (inst' : DrvInputInst)
    (kernel' : InputKernel) : Prop where
  | kept (hfd : inst'.fd = inst.fd) (hbuttons : inst'.buttonState = inst.buttonState)
      (hnext : kernel'.nextFd = kernel.nextFd)
  | lost (hfd : inst'.fd = none) (hbuttons : inst'.buttonState = 0#32)
      (hnext : kernel'.nextFd = kernel.nextFd)
  | opened (hfd : inst'.fd = some kernel.nextFd) (hbuttons : inst'.buttonState = 0#32)
      (hnext : kernel'.nextFd = kernel.nextFd + 1)

theorem drvInputInstTryReconnect_step (inst : DrvInputInst) (kernel : InputKernel)
    : ConnectionStep inst kernel (drvInputInstTryReconnect inst kernel).inst
        (drvInputInstTryReconnect inst kernel).kernel := by
  unfold drvInputInstTryReconnect
  split
  . exact .kept rfl rfl rfl
  split
  . exact .kept rfl rfl rfl
  split
  . exact .kept rfl rfl rfl
  dsimp only
  split
  . exact .kept rfl rfl rfl
  split
  . exact .kept rfl rfl rfl
  . exact .opened rfl rfl rfl

theorem ConnectionStep.of_lost {inst lost inst' : DrvInputInst} {kernel kernel' : InputKernel}
    (hfd : lost.fd = none) (hbuttons : lost.buttonState = 0#32)
    (h : ConnectionStep lost kernel inst' kernel')
    : ConnectionStep inst kernel inst' kernel' := by
  cases h with
  | kept hfd' hbuttons' hnext => exact .lost (hfd'.trans hfd) (hbuttons'.trans hbuttons) hnext
  | lost hfd hbuttons hnext => exact .lost hfd hbuttons hnext
  | opened hfd hbuttons hnext => exact .opened hfd hbuttons hnext

theorem drvInputHandleDisconnect_step (inst : DrvInputInst) (kernel : InputKernel)
    : ConnectionStep inst kernel (drvInputHandleDisconnect inst kernel).inst
        (drvInputHandleDisconnect inst kernel).kernel := by
  have hreconnect := drvInputInstTryReconnect_step (drvInputInstMarkDisconnected inst) kernel
  unfold drvInputHandleDisconnect
  dsimp only
  split
  . split
    . apply hreconnect.of_lost rfl rfl
    . apply hreconnect.of_lost rfl rfl
  . exact .lost rfl rfl rfl

theorem ConnectionStep.with_polls {inst inst' : DrvInputInst} {kernel kernel' : InputKernel}
    (polls : List PollSlice) (h : ConnectionStep inst { kernel with polls := polls } inst' kernel')
    : ConnectionStep inst kernel inst' kernel' := by
  cases h with
  | kept hfd hbuttons hnext => exact .kept hfd hbuttons hnext
  | lost hfd hbuttons hnext => exact .lost hfd hbuttons hnext
  | opened hfd hbuttons hnext => exact .opened hfd hbuttons hnext

theorem drvInputPollLoop_step (inst : DrvInputInst) (kernel : InputKernel)
    (timeoutMs remainingMs : Int) (slices : List PollSlice)
    : ConnectionStep inst kernel
        (drvInputPollLoop inst kernel timeoutMs remainingMs slices).inst
        (drvInputPollLoop inst kernel timeoutMs remainingMs slices).kernel := by
  induction slices generalizing remainingMs with
  | nil =>
    unfold drvInputPollLoop
    split <;> exact .kept rfl rfl rfl
  | cons slice slices ih =>
    have hlost := drvInputHandleDisconnect_step inst { kernel with polls := slices }
    unfold drvInputPollLoop
    split
    . dsimp only
      split
      . split
        . apply hlost.with_polls
        . exact .kept rfl rfl rfl
      split
      . exact .kept rfl rfl rfl
      split
      . apply hlost.with_polls
      . apply ih
    . exact .kept rfl rfl rfl

theorem drvInputPoll_step (inst : DrvInputInst) (kernel : InputKernel) (timeoutMs : Int)
    : ConnectionStep inst kernel (drvInputPoll inst kernel timeoutMs).inst
        (drvInputPoll inst kernel timeoutMs).kernel := by
  unfold drvInputPoll
  split
  . split
    . apply drvInputInstTryReconnect_step
    . exact .kept rfl rfl rfl
  . split
    . split
      . exact .kept rfl rfl rfl
      next slice slices _ =>
        dsimp only
        split
        . have hlost := drvInputHandleDisconnect_step inst { kernel with polls := slices }
          apply hlost.with_polls
        . exact .kept rfl rfl rfl
    . apply drvInputPollLoop_step

theorem inputStep_step (inst : DrvInputInst) (kernel : InputKernel) {op : InputOp}
    (hop : op ≠ .readPointerFrame)
    : (inputStep inst kernel op).1 = none
        ∧ ConnectionStep inst kernel (inputStep inst kernel op).2.1 (inputStep inst kernel op).2.2 := by
  cases op with
  | readPointerFrame => contradiction
  | poll timeoutMs => exact ⟨rfl, drvInputPoll_step inst kernel timeoutMs⟩
  | getInfo answer =>
    constructor
    . rfl
    . unfold inputStep drvInputGetInfo
      dsimp only
      split
      . exact .kept rfl rfl rfl
      . split <;> exact .kept rfl rfl rfl
  | markDisconnected => exact ⟨rfl, .lost rfl rfl rfl⟩
  | tryReconnect => exact ⟨rfl, drvInputInstTryReconnect_step inst kernel⟩
  | setAutoReconnect kind => exact ⟨rfl, .kept rfl rfl rfl⟩

theorem drvInputInstTryReconnect_cases {inst : DrvInputInst} (hfd : inst.fd = none)
    (kernel : InputKernel)
    : let r := drvInputInstTryReconnect inst kernel
      let found := inst.preferredKind ≠ deviceUnknown
        ∧ ∃ probe probes info, kernel.probes = probe :: probes
          ∧ drvInputFindFirstByType probe inst.preferredKind = some info
          ∧ probe.openError = none
      (found ∧ r.ret = 0 ∧ r.inst.fd = some kernel.nextFd ∧ r.inst.buttonState = 0#32
          ∧ r.kernel.nextFd = kernel.nextFd + 1)
        ∨ (¬found ∧ r.ret ≠ 0 ∧ r.inst = inst ∧ r.kernel.nextFd = kernel.nextFd) := by
  unfold drvInputInstTryReconnect
  dsimp only
  rw [if_neg (by simp [hfd])]
  split
  next hkind =>
    exact Or.inr ⟨fun h => h.1 hkind, (show -(einval : Int) ≠ 0 by decide), rfl, rfl⟩
  next hkind =>
    split
    next hprobes =>
      exact Or.inr ⟨by simp [hprobes], (show -(enoent : Int) ≠ 0 by decide), rfl, rfl⟩
    next probe probes hprobes =>
      split
      next hfind =>
        exact Or.inr ⟨by simp [hprobes, hfind], (show -(enoent : Int) ≠ 0 by decide), rfl, rfl⟩
      next info hfind =>
        split
        next errno hopen =>
          have herrno : (-errno : Int) ≠ 0 := Int.ne_of_lt errno.neg_lt
          exact Or.inr ⟨by simp [hprobes, hopen], herrno, rfl, rfl⟩
        next hopen =>
          exact Or.inl ⟨⟨hkind, probe, probes, info, hprobes, hfind, hopen⟩, rfl, rfl, rfl, rfl⟩

theorem drvInputHandleDisconnect_cases (inst : DrvInputInst) (kernel : InputKernel)
    : let r := drvInputHandleDisconnect inst kernel
      (Reconnects inst kernel ∧ r.ret = 0 ∧ r.inst.fd = some kernel.nextFd
          ∧ r.inst.buttonState = 0#32 ∧ r.kernel.nextFd = kernel.nextFd + 1)
        ∨ (¬Reconnects inst kernel ∧ r.ret = -enodev ∧ r.inst.fd = none
          ∧ r.inst.buttonState = 0#32 ∧ r.kernel.nextFd = kernel.nextFd) := by
  have hcases := @drvInputInstTryReconnect_cases (drvInputInstMarkDisconnected inst) rfl kernel
  unfold drvInputHandleDisconnect Reconnects
  dsimp only
  by_cases hauto : inst.autoReconnect = true
  . rw [if_pos (show (drvInputInstMarkDisconnected inst).autoReconnect = true from hauto)]
    rcases hcases with ⟨hfound, hret, hfd, hbuttons, hnext⟩ | ⟨hfound, hret, hinst, hnext⟩
    . rw [if_pos hret]
      exact Or.inl ⟨⟨hauto, hfound⟩, hret, hfd, hbuttons, hnext⟩
    . rw [if_neg hret]
      dsimp only
      rw [hinst]
      exact Or.inr ⟨fun h => hfound h.2, rfl, rfl, rfl, hnext⟩
  . rw [if_neg (show ¬(drvInputInstMarkDisconnected inst).autoReconnect = true from hauto)]
    exact Or.inr ⟨fun h => hauto h.1, rfl, rfl, rfl, rfl⟩

section

variable {inst : DrvInputInst} {fd : Nat} (hfd : inst.fd = some fd) (kernel : InputKernel)
    {cut : FrameCut} (hcut : frameCut drvInputMaxFrameEvents kernel.reads = cut)

include hfd hcut

theorem drvInputReadPointerFrame_failed {errno : Errno} (hstop : cut.stop = .error errno)
    : drvInputReadPointerFrame inst kernel
        = ⟨-errno, .zero, cut.frame, inst, { kernel with reads := cut.rest }⟩ := by
  have hframe := drvInputReadFrame_eq hfd kernel
  rw [hcut, FrameCut.result, hstop] at hframe
  rw [drvInputReadPointerFrame_of_nonpos hframe]
  apply Int.le_of_lt errno.neg_lt

theorem drvInputReadPointerFrame_lost (hstop : cut.stop = .disconnect)
    (hreconnects : ¬Reconnects inst kernel)
    : let r := drvInputReadPointerFrame inst kernel
      r.ret < 0 ∧ r.inst.fd = none ∧ r.inst.buttonState = 0#32
        ∧ r.kernel.nextFd = kernel.nextFd := by
  have hframe := drvInputReadFrame_eq hfd kernel
  rw [hcut, FrameCut.result, hstop] at hframe
  rcases drvInputHandleDisconnect_cases inst { kernel with reads := cut.rest } with h | h
  . exact absurd h.1 hreconnects
  . obtain ⟨_, hret, hfd', hbuttons, hnext⟩ := h
    have hneg : (-enodev : Int) < 0 := by decide
    dsimp only at hframe
    rw [hret, if_pos hneg] at hframe
    rw [drvInputReadPointerFrame_of_nonpos hframe (Int.le_of_lt hneg)]
    exact ⟨hneg, hfd', hbuttons, hnext⟩

theorem drvInputReadPointerFrame_replaced (hstop : cut.stop = .disconnect)
    (hreconnects : Reconnects inst kernel)
    : let r := drvInputReadPointerFrame inst kernel
      r.ret = cut.events.length ∧ r.rawFrame = cut.frame ∧ r.inst.fd = some kernel.nextFd
        ∧ r.inst.buttonState = buttonFold 0#32 cut.events
        ∧ r.kernel.nextFd = kernel.nextFd + 1 := by
  have hframe := drvInputReadFrame_eq hfd kernel
  rw [hcut, FrameCut.result, hstop] at hframe
  rcases drvInputHandleDisconnect_cases inst { kernel with reads := cut.rest } with h | h
  . obtain ⟨_, hret, hfd', hbuttons, hnext⟩ := h
    dsimp only at hframe
    rw [hret, if_neg (Int.lt_irrefl 0)] at hframe
    by_cases hempty : cut.events = []
    . rw [drvInputReadPointerFrame_of_nonpos hframe (by simp [FrameCut.frame, hempty])]
      rw [hempty]
      exact ⟨by simp [FrameCut.frame, hempty], rfl, hfd', hbuttons, hnext⟩
    . rw [drvInputReadPointerFrame_eq_pointer hframe rfl hempty]
      dsimp only
      rw [pointer_inst, hbuttons]
      exact ⟨rfl, rfl, hfd', rfl, hnext⟩
  . exact absurd hreconnects h.1

theorem drvInputReadFrame_ended (herror : ∀ errno, cut.stop ≠ .error errno)
    (hdisconnect : cut.stop ≠ .disconnect)
    : drvInputReadFrame inst kernel
        = ⟨cut.frame.events.length, cut.frame, inst, { kernel with reads := cut.rest }⟩ := by
  rw [drvInputReadFrame_eq hfd kernel, hcut]
  unfold FrameCut.result
  split
  next errno h => exact absurd h (herror errno)
  next h => exact absurd h hdisconnect
  next => rfl

theorem drvInputReadPointerFrame_returned (herror : ∀ errno, cut.stop ≠ .error errno)
    (hdisconnect : cut.stop ≠ .disconnect) (hevents : cut.events ≠ [])
    : drvInputReadPointerFrame inst kernel
        = cut.frame.pointer inst { kernel with reads := cut.rest } := by
  have hframe := drvInputReadFrame_ended hfd kernel hcut herror hdisconnect
  apply drvInputReadPointerFrame_eq_pointer hframe rfl hevents

theorem drvInputReadPointerFrame_ended (herror : ∀ errno, cut.stop ≠ .error errno)
    (hdisconnect : cut.stop ≠ .disconnect)
    : let r := drvInputReadPointerFrame inst kernel
      r.ret = cut.events.length ∧ r.rawFrame = cut.frame ∧ r.inst.fd = inst.fd
        ∧ r.inst.buttonState = buttonFold inst.buttonState cut.events
        ∧ r.kernel.nextFd = kernel.nextFd
        ∧ (cut.events ≠ [] → r.frame.buttons = r.inst.buttonState
          ∧ ∀ axis, r.frame.delta axis = totalDelta cut.events axis) := by
  by_cases hempty : cut.events = []
  . have hframe := drvInputReadFrame_ended hfd kernel hcut herror hdisconnect
    rw [drvInputReadPointerFrame_of_nonpos hframe (by simp [FrameCut.frame, hempty])]
    rw [hempty]
    exact ⟨by simp [FrameCut.frame, hempty], rfl, rfl, rfl, rfl, fun h => absurd rfl h⟩
  . rw [drvInputReadPointerFrame_returned hfd kernel hcut herror hdisconnect hempty]
    dsimp only
    rw [pointer_inst, pointer_buttons]
    exact ⟨rfl, rfl, rfl, rfl, rfl, fun _ => ⟨rfl, pointer_delta cut.frame inst _⟩⟩

end

structure LedgerInv (s : InputLedger) : Prop where
  buttons : s.inst.buttonState = buttonFold 0#32 s.delivered
  closed : s.inst.fd = none → s.delivered = [] ∧ s.undelivered = []
  fresh : ∀ fd, s.inst.fd = some fd → fd < s.kernel.nextFd

theorem LedgerInv.create (kernel : InputKernel) : LedgerInv (InputLedger.create kernel) where
  buttons := rfl
  closed := fun h => nomatch h
  fresh := by
    intro fd h
    simp only [InputLedger.create, drvInputInstCreate, Option.some.injEq] at h
    dsimp only [InputLedger.create]
    omega

theorem LedgerInv.of_changed {s : InputLedger} {r : Option PointerResult} {inst : DrvInputInst}
    {kernel : InputKernel} (hchanged : inst.fd ≠ s.inst.fd) (hbuttons : inst.buttonState = 0#32)
    (hfresh : ∀ fd, inst.fd = some fd → fd < kernel.nextFd)
    : LedgerInv (s.record r inst kernel) := by
  unfold InputLedger.record
  rw [if_neg hchanged]
  exact ⟨hbuttons, fun _ => ⟨rfl, rfl⟩, hfresh⟩

theorem LedgerInv.of_connectionStep {s : InputLedger} (hs : LedgerInv s) {inst : DrvInputInst}
    {kernel : InputKernel} (h : ConnectionStep s.inst s.kernel inst kernel)
    : LedgerInv (s.record none inst kernel) := by
  cases h with
  | kept hfd hbuttons hnext =>
    unfold InputLedger.record
    rw [if_pos hfd]
    constructor
    . rw [hbuttons]
      exact hs.buttons
    . intro h
      apply hs.closed
      rw [← hfd]
      exact h
    . intro fd h
      rw [hnext]
      apply hs.fresh
      rw [← hfd]
      exact h
  | lost hfd hbuttons hnext =>
    by_cases hclosed : s.inst.fd = none
    . unfold InputLedger.record
      rw [if_pos (hfd.trans hclosed.symm)]
      constructor
      . rw [hbuttons, (hs.closed hclosed).1]
        rfl
      . intro _
        apply hs.closed hclosed
      . simp [hfd]
    . apply LedgerInv.of_changed
      . rw [hfd]
        exact fun h => hclosed h.symm
      . exact hbuttons
      . simp [hfd]
  | opened hfd hbuttons hnext =>
    apply LedgerInv.of_changed
    . rw [hfd]
      intro h
      have := hs.fresh _ h.symm
      omega
    . exact hbuttons
    . intro fd h
      rw [hfd] at h
      cases h
      omega

theorem FrameFaithful.of_no_frame {v : Machine.Visit InputLedger InputOp (Option PointerResult)}
    (hpost : LedgerInv v.post) (hret : ∀ r, v.obs = some r → r.ret ≤ 0)
    : FrameFaithful v := by
  constructor
  . exact hpost.buttons
  . intro r hr hpos
    have := hret r hr
    omega

section

variable {s : InputLedger} (hs : LedgerInv s) {fd : Nat} (hfd : s.inst.fd = some fd)
    {cut : FrameCut} (hcut : frameCut drvInputMaxFrameEvents s.kernel.reads = cut)

theorem readVisit_post (s : InputLedger)
    : (ledgerMachine.visit s .readPointerFrame).post
        = s.record (some (drvInputReadPointerFrame s.inst s.kernel))
            (drvInputReadPointerFrame s.inst s.kernel).inst
            (drvInputReadPointerFrame s.inst s.kernel).kernel := rfl

theorem readVisit_obs (s : InputLedger)
    : (ledgerMachine.visit s .readPointerFrame).obs
        = some (drvInputReadPointerFrame s.inst s.kernel) := rfl

theorem readVisit_faithful_of_nonpos
    (hpost : LedgerInv (ledgerMachine.visit s .readPointerFrame).post)
    (hret : (drvInputReadPointerFrame s.inst s.kernel).ret ≤ 0)
    : FrameFaithful (ledgerMachine.visit s .readPointerFrame) := by
  apply FrameFaithful.of_no_frame hpost
  intro r hr
  rw [readVisit_obs] at hr
  cases hr
  exact hret

include hs hfd hcut

theorem readVisit_failed {errno : Errno} (hstop : cut.stop = .error errno)
    : LedgerInv (ledgerMachine.visit s .readPointerFrame).post
        ∧ FrameFaithful (ledgerMachine.visit s .readPointerFrame) := by
  have hread := drvInputReadPointerFrame_failed hfd s.kernel hcut hstop
  have hneg : ¬0 < -(errno : Int) := by
    have := errno.neg_lt
    omega
  have hinv : LedgerInv (ledgerMachine.visit s .readPointerFrame).post := by
    rw [readVisit_post, hread]
    unfold InputLedger.record
    rw [if_pos rfl]
    dsimp only
    rw [if_neg hneg]
    constructor
    . exact hs.buttons
    . intro h
      rw [hfd] at h
      cases h
    . exact hs.fresh
  constructor
  . exact hinv
  . apply readVisit_faithful_of_nonpos hinv
    rw [hread]
    exact Int.not_lt.mp hneg

omit hs in
theorem readVisit_lost (hstop : cut.stop = .disconnect) (hreconnects : ¬Reconnects s.inst s.kernel)
    : LedgerInv (ledgerMachine.visit s .readPointerFrame).post
        ∧ FrameFaithful (ledgerMachine.visit s .readPointerFrame) := by
  obtain ⟨hret, hfd', hbuttons, hnext⟩ :=
    drvInputReadPointerFrame_lost hfd s.kernel hcut hstop hreconnects
  have hinv : LedgerInv (ledgerMachine.visit s .readPointerFrame).post := by
    rw [readVisit_post]
    apply LedgerInv.of_changed
    . rw [hfd', hfd]
      simp
    . exact hbuttons
    . simp [hfd']
  constructor
  . exact hinv
  . apply readVisit_faithful_of_nonpos hinv
    apply Int.le_of_lt hret

/-
The events of the lost device are in a frame of the device that has replaced it.
-/
theorem readVisit_replaced (hstop : cut.stop = .disconnect) (hreconnects : Reconnects s.inst s.kernel)
    : (cut.events = [] → LedgerInv (ledgerMachine.visit s .readPointerFrame).post
          ∧ FrameFaithful (ledgerMachine.visit s .readPointerFrame))
        ∧ (cut.events ≠ [] → ¬FrameFaithful (ledgerMachine.visit s .readPointerFrame)) := by
  obtain ⟨hret, hraw, hfd', hbuttons, hnext⟩ :=
    drvInputReadPointerFrame_replaced hfd s.kernel hcut hstop hreconnects
  have hchanged : (drvInputReadPointerFrame s.inst s.kernel).inst.fd ≠ s.inst.fd := by
    have hlt := hs.fresh fd hfd
    rw [hfd', hfd]
    intro h
    cases h
    omega
  constructor
  . intro hempty
    have hinv : LedgerInv (ledgerMachine.visit s .readPointerFrame).post := by
      rw [readVisit_post]
      apply LedgerInv.of_changed hchanged
      . rw [hbuttons, hempty]
        rfl
      . intro fd h
        rw [hfd'] at h
        cases h
        omega
    constructor
    . exact hinv
    . apply readVisit_faithful_of_nonpos hinv
      simp [hret, hempty]
  . intro hempty hfaithful
    have hpos : 0 < cut.events.length := List.length_pos_iff.mpr hempty
    have hdue := (hfaithful.2 _ (readVisit_obs s) (by omega)).1
    have hpost : (ledgerMachine.visit s .readPointerFrame).post.inst.fd
        ≠ (ledgerMachine.visit s .readPointerFrame).pre.inst.fd := by
      rw [readVisit_post]
      unfold InputLedger.record
      rw [if_neg hchanged]
      exact hchanged
    rw [if_neg hpost, hraw] at hdue
    exact hempty hdue

theorem readVisit_kept (herror : ∀ errno, cut.stop ≠ .error errno) (hdisconnect : cut.stop ≠ .disconnect)
    : (drvInputReadPointerFrame s.inst s.kernel).inst.fd ≠ none
        ∧ (∀ fd', (drvInputReadPointerFrame s.inst s.kernel).inst.fd = some fd' →
          fd' < (drvInputReadPointerFrame s.inst s.kernel).kernel.nextFd)
        ∧ (ledgerMachine.visit s .readPointerFrame).post.inst.fd
          = (ledgerMachine.visit s .readPointerFrame).pre.inst.fd
        ∧ (ledgerMachine.visit s .readPointerFrame).post
          = if 0 < (drvInputReadPointerFrame s.inst s.kernel).ret then
              ⟨(drvInputReadPointerFrame s.inst s.kernel).inst,
                (drvInputReadPointerFrame s.inst s.kernel).kernel,
                s.delivered ++ (s.undelivered ++ cut.events), []⟩
            else
              ⟨(drvInputReadPointerFrame s.inst s.kernel).inst,
                (drvInputReadPointerFrame s.inst s.kernel).kernel, s.delivered,
                s.undelivered ++ cut.events⟩ := by
  obtain ⟨_, hraw, hfd', _, hnext, _⟩ :=
    drvInputReadPointerFrame_ended hfd s.kernel hcut herror hdisconnect
  have hevents : (drvInputReadPointerFrame s.inst s.kernel).rawFrame.events = cut.events := by
    rw [hraw]
    rfl
  have hpost := readVisit_post s
  unfold InputLedger.record at hpost
  rw [if_pos hfd'] at hpost
  dsimp only at hpost
  rw [hevents] at hpost
  refine ⟨?_, ?_, ?_, hpost⟩
  . rw [hfd', hfd]
    simp
  . intro fd' h
    rw [hnext]
    apply hs.fresh
    rw [← hfd']
    exact h
  . rw [hpost]
    split
    . exact hfd'
    . exact hfd'

/-
Nothing was read: no frame is returned, and what was left over stays so.
-/
theorem readVisit_nothing (herror : ∀ errno, cut.stop ≠ .error errno)
    (hdisconnect : cut.stop ≠ .disconnect) (hempty : cut.events = [])
    : LedgerInv (ledgerMachine.visit s .readPointerFrame).post
        ∧ FrameFaithful (ledgerMachine.visit s .readPointerFrame) := by
  obtain ⟨hret, _, _, hbuttons, _, _⟩ :=
    drvInputReadPointerFrame_ended hfd s.kernel hcut herror hdisconnect
  obtain ⟨hopen, hfresh, _, hpost⟩ := readVisit_kept hs hfd hcut herror hdisconnect
  have hzero : (drvInputReadPointerFrame s.inst s.kernel).ret = 0 := by
    simp [hret, hempty]
  have hinv : LedgerInv (ledgerMachine.visit s .readPointerFrame).post := by
    rw [hpost, hzero, if_neg (Int.lt_irrefl 0)]
    constructor
    . rw [hbuttons, hempty]
      exact hs.buttons
    . intro h
      exact absurd h hopen
    . exact hfresh
  constructor
  . exact hinv
  . apply readVisit_faithful_of_nonpos hinv (Int.le_of_eq hzero)

/-
A frame is returned, and nothing was left over before it.
-/
theorem readVisit_returned (herror : ∀ errno, cut.stop ≠ .error errno)
    (hdisconnect : cut.stop ≠ .disconnect) (hsome : cut.events ≠ []) (hnone : s.undelivered = [])
    : LedgerInv (ledgerMachine.visit s .readPointerFrame).post
        ∧ FrameFaithful (ledgerMachine.visit s .readPointerFrame) := by
  obtain ⟨hret, hraw, _, hbuttons, _, hframe⟩ :=
    drvInputReadPointerFrame_ended hfd s.kernel hcut herror hdisconnect
  obtain ⟨hopen, hfresh, hsame, hpost⟩ := readVisit_kept hs hfd hcut herror hdisconnect
  have hevents : (drvInputReadPointerFrame s.inst s.kernel).rawFrame.events = cut.events := by
    rw [hraw]
    rfl
  have hpos : 0 < (drvInputReadPointerFrame s.inst s.kernel).ret := by
    have := List.length_pos_iff.mpr hsome
    omega
  rw [if_pos hpos] at hpost
  obtain ⟨hstate, hdelta⟩ := hframe hsome
  have hfold : (drvInputReadPointerFrame s.inst s.kernel).inst.buttonState
      = buttonFold 0#32 (s.delivered ++ (s.undelivered ++ cut.events)) := by
    rw [hbuttons, hs.buttons, hnone, List.nil_append, buttonFold_append]
  constructor
  . rw [hpost]
    constructor
    . exact hfold
    . intro h
      exact absurd h hopen
    . exact hfresh
  . constructor
    . rw [hpost]
      exact hfold
    . intro r hr _
      rw [readVisit_obs] at hr
      cases hr
      dsimp only
      rw [if_pos hsame, hpost, Machine.visit_pre, hnone, List.nil_append, hevents]
      constructor
      . rfl
      constructor
      . exact hdelta
      . rw [hstate]
        rw [hnone] at hfold
        exact hfold

/-
The frame that is due starts with what was left over, the one returned does not.
-/
theorem readVisit_leftOver (herror : ∀ errno, cut.stop ≠ .error errno)
    (hdisconnect : cut.stop ≠ .disconnect) (hsome : cut.events ≠ []) (hleft : s.undelivered ≠ [])
    : ¬FrameFaithful (ledgerMachine.visit s .readPointerFrame) := by
  obtain ⟨hret, hraw, _, _, _, _⟩ :=
    drvInputReadPointerFrame_ended hfd s.kernel hcut herror hdisconnect
  obtain ⟨_, _, hsame, _⟩ := readVisit_kept hs hfd hcut herror hdisconnect
  have hpos : 0 < (drvInputReadPointerFrame s.inst s.kernel).ret := by
    have := List.length_pos_iff.mpr hsome
    omega
  intro hfaithful
  have hdue := (hfaithful.2 _ (readVisit_obs s) hpos).1
  rw [if_pos hsame, Machine.visit_pre, hraw] at hdue
  have hlen := congrArg List.length hdue
  rw [List.length_append] at hlen
  have : 0 < s.undelivered.length := List.length_pos_iff.mpr hleft
  omega

end

theorem misplacesEvents_readPointerFrame {s : InputLedger} {fd : Nat} (hfd : s.inst.fd = some fd)
    : MisplacesEvents (ledgerMachine.visit s .readPointerFrame)
        ↔ (frameCut drvInputMaxFrameEvents s.kernel.reads).events ≠ []
          ∧ match (frameCut drvInputMaxFrameEvents s.kernel.reads).stop with
            | .error _ => False
            | .disconnect => Reconnects s.inst s.kernel
            | _ => s.undelivered ≠ [] := by
  simp [MisplacesEvents, hfd]

/-
One read on a connection: the ledger stays right unless the read misplaces events, and the frame is
right exactly if it does not.
-/
theorem readVisit_iff {s : InputLedger} (hs : LedgerInv s) {fd : Nat} (hfd : s.inst.fd = some fd)
    : let v := ledgerMachine.visit s .readPointerFrame
      (¬MisplacesEvents v → LedgerInv v.post) ∧ (FrameFaithful v ↔ ¬MisplacesEvents v) := by
  have hmisplaces := misplacesEvents_readPointerFrame hfd
  generalize hcut : frameCut drvInputMaxFrameEvents s.kernel.reads = cut at hmisplaces
  have of_both : LedgerInv (ledgerMachine.visit s .readPointerFrame).post
        ∧ FrameFaithful (ledgerMachine.visit s .readPointerFrame) →
      ¬MisplacesEvents (ledgerMachine.visit s .readPointerFrame) →
      let v := ledgerMachine.visit s .readPointerFrame
      (¬MisplacesEvents v → LedgerInv v.post) ∧ (FrameFaithful v ↔ ¬MisplacesEvents v) := by
    intro h hnot
    exact ⟨fun _ => h.1, fun _ => hnot, fun _ => h.2⟩
  have of_neither : ¬FrameFaithful (ledgerMachine.visit s .readPointerFrame) →
      MisplacesEvents (ledgerMachine.visit s .readPointerFrame) →
      let v := ledgerMachine.visit s .readPointerFrame
      (¬MisplacesEvents v → LedgerInv v.post) ∧ (FrameFaithful v ↔ ¬MisplacesEvents v) := by
    intro h hmis
    exact ⟨fun hnot => absurd hmis hnot, fun hgood => absurd hgood h, fun hnot => absurd hmis hnot⟩
  by_cases herror : ∃ errno, cut.stop = .error errno
  . obtain ⟨errno, hstop⟩ := herror
    apply of_both (readVisit_failed hs hfd hcut hstop)
    rw [hmisplaces, hstop]
    exact fun h => h.2
  by_cases hstop : cut.stop = .disconnect
  . by_cases hreconnects : Reconnects s.inst s.kernel
    . obtain ⟨hgood, hbad⟩ := readVisit_replaced hs hfd hcut hstop hreconnects
      by_cases hempty : cut.events = []
      . apply of_both (hgood hempty)
        rw [hmisplaces]
        exact fun h => h.1 hempty
      . apply of_neither (hbad hempty)
        rw [hmisplaces, hstop]
        exact ⟨hempty, hreconnects⟩
    . apply of_both (readVisit_lost hfd hcut hstop hreconnects)
      rw [hmisplaces, hstop]
      exact fun h => hreconnects h.2
  . have herror : ∀ errno, cut.stop ≠ .error errno := by
      intro errno h
      exact herror ⟨errno, h⟩
    have hleft : MisplacesEvents (ledgerMachine.visit s .readPointerFrame)
        ↔ cut.events ≠ [] ∧ s.undelivered ≠ [] := by
      rw [hmisplaces]
      cases h : cut.stop with
      | error errno => exact absurd h (herror errno)
      | disconnect => contradiction
      | sync => rfl
      | again => rfl
      | full => rfl
    by_cases hboth : cut.events ≠ [] ∧ s.undelivered ≠ []
    . apply of_neither (readVisit_leftOver hs hfd hcut herror hstop hboth.1 hboth.2)
      rw [hleft]
      exact hboth
    . apply of_both
      . by_cases hempty : cut.events = []
        . exact readVisit_nothing hs hfd hcut herror hstop hempty
        . apply readVisit_returned hs hfd hcut herror hstop hempty
          by_contra hsome
          exact hboth ⟨hempty, hsome⟩
      . rw [hleft]
        exact hboth

theorem drvInputReadPointerFrame_closed {inst : DrvInputInst} (hfd : inst.fd = none)
    (kernel : InputKernel)
    : (drvInputReadPointerFrame inst kernel).ret ≤ 0
        ∧ (drvInputReadPointerFrame inst kernel).rawFrame.events = []
        ∧ ConnectionStep inst kernel (drvInputReadPointerFrame inst kernel).inst
            (drvInputReadPointerFrame inst kernel).kernel := by
  have henodev : (-enodev : Int) ≤ 0 := by decide
  unfold drvInputReadPointerFrame drvInputReadFrame
  rw [hfd]
  dsimp only
  by_cases hauto : inst.autoReconnect = true
  . have hreconnect := drvInputInstTryReconnect_step inst kernel
    rw [if_pos hauto]
    by_cases hret : (drvInputInstTryReconnect inst kernel).ret = 0
    . simp [hret, hreconnect]
    . simp [hret, hreconnect, enodev]
  . rw [if_neg hauto]
    exact ⟨henodev, rfl, .kept rfl rfl rfl⟩

theorem closedVisit_iff {s : InputLedger} (hs : LedgerInv s) (hfd : s.inst.fd = none)
    : let v := ledgerMachine.visit s .readPointerFrame
      LedgerInv v.post ∧ FrameFaithful v ∧ ¬MisplacesEvents v := by
  obtain ⟨hret, hraw, hconnection⟩ := drvInputReadPointerFrame_closed hfd s.kernel
  have hrecord : (ledgerMachine.visit s .readPointerFrame).post
      = s.record none (drvInputReadPointerFrame s.inst s.kernel).inst
          (drvInputReadPointerFrame s.inst s.kernel).kernel := by
    rw [readVisit_post]
    unfold InputLedger.record
    split
    . dsimp only
      rw [if_neg (Int.not_lt.mpr hret), hraw, List.append_nil]
    . rfl
  have hinv : LedgerInv (ledgerMachine.visit s .readPointerFrame).post := by
    rw [hrecord]
    apply hs.of_connectionStep hconnection
  constructor
  . exact hinv
  constructor
  . apply readVisit_faithful_of_nonpos hinv hret
  . intro h
    have hopen : s.inst.fd.isSome = true := h.2.1
    rw [hfd] at hopen
    cases hopen

theorem ledgerMachine_visit_iff {s : InputLedger} (hs : LedgerInv s) (op : InputOp)
    : let v := ledgerMachine.visit s op
      (¬MisplacesEvents v → LedgerInv v.post) ∧ (FrameFaithful v ↔ ¬MisplacesEvents v) := by
  by_cases hop : op = .readPointerFrame
  . rw [hop]
    cases hfd : s.inst.fd with
    | none =>
      obtain ⟨hinv, hgood, hnot⟩ := closedVisit_iff hs hfd
      exact ⟨fun _ => hinv, fun _ => hnot, fun _ => hgood⟩
    | some fd =>
      apply readVisit_iff hs hfd
  . -- the other calls return no frame
    obtain ⟨hobs, hconnection⟩ := inputStep_step s.inst s.kernel hop
    have hinv : LedgerInv (ledgerMachine.visit s op).post := by
      have hpost : (ledgerMachine.visit s op).post
          = s.record (inputStep s.inst s.kernel op).1 (inputStep s.inst s.kernel op).2.1
              (inputStep s.inst s.kernel op).2.2 := rfl
      rw [hpost, hobs]
      apply hs.of_connectionStep hconnection
    have hnone : (ledgerMachine.visit s op).obs = none := hobs
    constructor
    . intro _
      exact hinv
    constructor
    . intro _ h
      exact hop h.1
    . intro _
      apply FrameFaithful.of_no_frame hinv
      intro r hr
      rw [hnone] at hr
      cases hr

/-
In a run every frame is made of the undelivered events of the connected device exactly if no read of the
run misplaces events.
-/
theorem framesFaithful_iff (kernel : InputKernel) (ops : List InputOp)
    : (∀ v ∈ ledgerMachine.visits (.create kernel) ops, FrameFaithful v)
        ↔ ∀ v ∈ ledgerMachine.visits (.create kernel) ops, ¬MisplacesEvents v := by
  apply Machine.forall_visits_iff LedgerInv
  . intro s op hs
    apply (ledgerMachine_visit_iff hs op).1
  . intro s op hs
    apply (ledgerMachine_visit_iff hs op).2
  . apply LedgerInv.create

def mouseInfo : DrvInputInfo := ⟨2, 7#32, 7#32, 3#32, 0#32, "mouse"⟩

/-
A mouse goes away after a button press and another one takes its place; a call is interrupted in the
middle of a movement.
-/
def unpluggedKernel : InputKernel :=
  ⟨[.event ⟨evKey, btnLeft, keyPressed⟩, .error enodev], [], [⟨fun _ => some mouseInfo, none⟩], 0⟩

def interruptedKernel : InputKernel :=
  ⟨[.event ⟨evRel, relX, 5#32⟩, .error eintr, .event ⟨evRel, relX, 1#32⟩,
    .event ⟨evSyn, synReport, 0#32⟩], [], [], 0⟩

theorem unplugged_interrupted_not_faithful
    : (∃ v ∈ ledgerMachine.visits (.create unpluggedKernel) [.setAutoReconnect 2, .readPointerFrame],
          v.post.inst.fd = some 1 ∧ v.post.delivered = [] ∧ v.post.inst.buttonState = 1#32
          ∧ ¬FrameFaithful v)
        ∧ (∃ v ∈ ledgerMachine.visits (.create interruptedKernel) [.readPointerFrame, .readPointerFrame],
          v.obs.map (fun r => r.frame.relX) = some 1#32
          ∧ v.pre.undelivered = [⟨evRel, relX, 5#32⟩]
          ∧ ¬FrameFaithful v) := by
  constructor
  . refine ⟨_, .tail _ (.head _), by decide +kernel, by decide +kernel, by decide +kernel, ?_⟩
    intro h
    exact absurd h.1 (by decide +kernel)
  . refine ⟨_, .tail _ (.head _), by decide +kernel, by decide +kernel, ?_⟩
    intro h
    have hdue := (h.2 _ rfl (by decide +kernel)).1
    exact absurd hdue (by decide +kernel)

end Input

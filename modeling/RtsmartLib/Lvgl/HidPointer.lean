import RtsmartLib.Input.Reconnect
import RtsmartLib.Lvgl.HidKeys

/-!
This module contains the LVGL input device for HID pointers, and when it reports a press that the connected
device has not sent.
-/

namespace Lvgl

open Input Lib Posix

def lvK230HidBtnLeftMask : BitVec 32 := 1#32 <<< 0
def lvK230HidBtnTouchMask : BitVec 32 := 1#32 <<< 7

/-
The resolution of the display that an input device belongs to.
-/
structure LvDisplay where
  horizontalResolution : Int
  verticalResolution : Int

structure LvPoint where
  x : BitVec 32
  y : BitVec 32
  deriving DecidableEq

structure LvK230HidPointerCtx where
  inst : DrvInputInst
  point : LvPoint
  pointInitialized : Bool
  pointerState : LvIndevState

structure LvPointerData where
  state : LvIndevState
  point : LvPoint
  continueReading : Bool
  deriving DecidableEq

structure PointerReadResult where
  data : LvPointerData
  ctx : LvK230HidPointerCtx
  kernel : InputKernel

def lvK230HidPointerKindOk (kind : Nat) : Bool :=
  kind == deviceMouse || kind == deviceTouch

/-
The device at the path has been opened and has given its info.
-/
def lvK230HidCreatePointer (info : DrvInputInfo) (kernel : InputKernel)
    : Option (LvK230HidPointerCtx × InputKernel) :=
  if lvK230HidPointerKindOk info.kind then
    let inst := { drvInputInstCreate kernel.nextFd with info := some info }
    let kind := if info.kind = deviceTouch then deviceTouch else deviceMouse
    some (⟨drvInputInstSetAutoReconnect inst kind, ⟨0#32, 0#32⟩, false, .released⟩,
      { kernel with nextFd := kernel.nextFd + 1 })
  else
    none

def lvK230HidInitPointerPosition (display : Option LvDisplay) (ctx : LvK230HidPointerCtx)
    : LvK230HidPointerCtx :=
  if ctx.pointInitialized then
    ctx
  else
    match display with
    | none => ctx
    | some display =>
      let width := display.horizontalResolution
      let height := display.verticalResolution
      { ctx with
        point := ⟨if width > 0 then .ofInt 32 (width / 2) else 0#32,
          if height > 0 then .ofInt 32 (height / 2) else 0#32⟩
        pointInitialized := true }

def clampCoordinate (value : BitVec 32) (size : Int) : BitVec 32 :=
  if size > 0 then
    if value.toInt < 0 then 0#32
    else if value.toInt ≥ size then .ofInt 32 (size - 1)
    else value
  else
    value

def lvK230HidClampPoint (display : Option LvDisplay) (point : LvPoint) : LvPoint :=
  match display with
  | none => point
  | some display =>
    ⟨clampCoordinate point.x display.horizontalResolution,
      clampCoordinate point.y display.verticalResolution⟩

def isPressed (buttons : BitVec 32) : Bool :=
  (buttons &&& (lvK230HidBtnLeftMask ||| lvK230HidBtnTouchMask)) != 0#32

/-
The report at the end of a call. The time of the report is left out.
-/
def PointerReadResult.report (display : Option LvDisplay) (ctx : LvK230HidPointerCtx)
    (kernel : InputKernel) (continueReading : Bool) : PointerReadResult :=
  let ctx := { ctx with point := lvK230HidClampPoint display ctx.point }
  ⟨⟨ctx.pointerState, ctx.point, continueReading⟩, ctx, kernel⟩

def lvK230HidPointerReadCb (display : Option LvDisplay) (ctx : LvK230HidPointerCtx)
    (kernel : InputKernel) : PointerReadResult :=
  let ctx := lvK230HidInitPointerPosition display ctx
  let r := drvInputReadPointerFrame ctx.inst kernel
  let ctx := { ctx with inst := r.inst }
  if r.ret > 0 then
    let ctx :=
      if r.frame.hasAbs then
        { ctx with point := ⟨r.frame.absX, r.frame.absY⟩, pointInitialized := true }
      else ctx
    let ctx :=
      if r.frame.hasRel then
        { ctx with
          point := ⟨ctx.point.x + r.frame.relX, ctx.point.y + r.frame.relY⟩
          pointInitialized := true }
      else ctx
    let ctx := { ctx with pointerState := if isPressed r.frame.buttons then .pressed else .released }
    if ctx.inst.fd.isSome then
      let p := drvInputPoll ctx.inst r.kernel 0
      .report display { ctx with inst := p.inst } p.kernel (p.ret.any (0 < ·))
    else
      .report display ctx r.kernel false
  else
    .report display ctx r.kernel false

def lvK230HidSetAutoReconnect (ctx : LvK230HidPointerCtx) (enabled : Bool) : LvK230HidPointerCtx :=
  if enabled then
    { ctx with inst := drvInputInstSetAutoReconnect ctx.inst ctx.inst.preferredKind }
  else
    { ctx with inst := { ctx.inst with autoReconnect := false } }

inductive HidPointerOp where
  | readCb (display : Option LvDisplay)
  | setAutoReconnect (enabled : Bool)

/-
A pointer with the events that its present connection has given to the calls.
-/
structure HidPointerLog where
  ctx : LvK230HidPointerCtx
  kernel : InputKernel
  sent : List InputEvent

def HidPointerLog.readCb (s : HidPointerLog) (display : Option LvDisplay)
    : HidPointerLog × Option LvPointerData :=
  let r := lvK230HidPointerReadCb display s.ctx s.kernel
  let events := (drvInputReadPointerFrame s.ctx.inst s.kernel).rawFrame.events
  (⟨r.ctx, r.kernel, if r.ctx.inst.fd = s.ctx.inst.fd then s.sent ++ events else []⟩, some r.data)

def hidPointerMachine : Machine HidPointerLog HidPointerOp (Option LvPointerData) :=
  ⟨fun s op =>
    match op with
    | .readCb display => s.readCb display
    | .setAutoReconnect enabled => ({ s with ctx := lvK230HidSetAutoReconnect s.ctx enabled }, none)⟩

abbrev HidPointerVisit := Machine.Visit HidPointerLog HidPointerOp (Option LvPointerData)

def IsPress (event : InputEvent) : Prop :=
  drvInputIsKeyEvent event = true ∧ event.value = Input.keyPressed
    ∧ (event.code = btnLeft ∨ event.code = btnTouch)

/-
A press is reported only while a device is connected, and only after this device has sent one.
-/
def PressedByDevice (v : HidPointerVisit) : Prop :=
  ∀ data, v.obs = some data → data.state = .pressed →
    v.post.ctx.inst.fd ≠ none ∧ ∃ event ∈ v.post.sent, IsPress event

/-
The check for further events after a frame finds that the path belongs to another device by now.
-/
def PollFindsRebound (inst : DrvInputInst) (kernel : InputKernel) : Prop :=
  ∃ slice slices, kernel.polls = slice :: slices ∧ drvInputPollOnce slice = 0
    ∧ drvInputPathRebound inst slice.info = true

/--
The connection is lost by the end of a call, and what counts for the report is pressed: the buttons of the
frame where the call gets one, and the state of the last report where it does not.
-/
def LosesPressed (v : HidPointerVisit) : Prop :=
  let inst := v.pre.ctx.inst
  let cut := frameCut drvInputMaxFrameEvents v.pre.kernel.reads
  (∃ display, v.event = .readCb display) ∧ inst.fd ≠ none
    ∧ match cut.stop with
      | .error _ => False
      | .disconnect =>
        (cut.events ≠ [] ∧ Reconnects inst v.pre.kernel ∧ isPressed (buttonFold 0#32 cut.events) = true)
          ∨ (¬(cut.events ≠ [] ∧ Reconnects inst v.pre.kernel) ∧ v.pre.ctx.pointerState = .pressed)
      | _ =>
        cut.events ≠ [] ∧ PollFindsRebound inst v.pre.kernel
          ∧ isPressed (buttonFold inst.buttonState cut.events) = true

theorem isPressed_zero : isPressed 0#32 = false := rfl

theorem isPressed_or {a b : BitVec 32} (h : isPressed (a ||| b) = true)
    : isPressed a = true ∨ isPressed b = true := by
  unfold isPressed at h ⊢
  rw [BitVec.and_or_distrib_right] at h
  rw [bne_iff_ne] at h ⊢
  rw [bne_iff_ne]
  by_contra hnot
  rw [not_or, not_ne_iff, not_ne_iff] at hnot
  apply h
  rw [hnot.1, hnot.2, BitVec.or_zero]

theorem isPressed_of_and {a b : BitVec 32} (h : isPressed (a &&& b) = true) : isPressed a = true := by
  unfold isPressed at h ⊢
  by_cases ha : a &&& (lvK230HidBtnLeftMask ||| lvK230HidBtnTouchMask) = 0#32
  . rw [BitVec.and_assoc, BitVec.and_comm b, ← BitVec.and_assoc, ha] at h
    simp at h
  . simp [ha]

theorem isPressed_buttonMask {code : BitVec 16} (h : isPressed (drvInputButtonMask code) = true)
    : code = btnLeft ∨ code = btnTouch := by
  unfold drvInputButtonMask at h
  split_ifs at h with hleft hright hmiddle hside hextra hforward hback htouch
  . exact Or.inl hleft
  . exact absurd h (by decide)
  . exact absurd h (by decide)
  . exact absurd h (by decide)
  . exact absurd h (by decide)
  . exact absurd h (by decide)
  . exact absurd h (by decide)
  . exact Or.inr htouch
  . exact absurd h (by decide)

theorem isPressed_buttonStep {buttons : BitVec 32} {event : InputEvent}
    (h : isPressed (buttonStep buttons event) = true)
    : isPressed buttons = true ∨ IsPress event := by
  unfold buttonStep at h
  split at h
  next hkey =>
    split at h
    next hpressed =>
      cases isPressed_or h with
      | inl h => exact Or.inl h
      | inr h => exact Or.inr ⟨hkey, hpressed, isPressed_buttonMask h⟩
    next =>
      split at h
      . exact Or.inl (isPressed_of_and h)
      . exact Or.inl h
  next => exact Or.inl h

theorem isPressed_buttonFold {buttons : BitVec 32} {events : List InputEvent}
    (h : isPressed (buttonFold buttons events) = true)
    : isPressed buttons = true ∨ ∃ event ∈ events, IsPress event := by
  induction events generalizing buttons with
  | nil => exact Or.inl h
  | cons event events ih =>
    rw [buttonFold_cons] at h
    cases ih h with
    | inl h =>
      cases isPressed_buttonStep h with
      | inl h => exact Or.inl h
      | inr h => exact Or.inr ⟨event, List.mem_cons_self, h⟩
    | inr h =>
      obtain ⟨press, hmem, hpress⟩ := h
      exact Or.inr ⟨press, List.mem_cons_of_mem event hmem, hpress⟩

theorem drvInputReadPointerFrame_buttons {inst : DrvInputInst} {kernel : InputKernel}
    (h : 0 < (drvInputReadPointerFrame inst kernel).ret)
    : (drvInputReadPointerFrame inst kernel).frame.buttons
        = (drvInputReadPointerFrame inst kernel).inst.buttonState := by
  unfold drvInputReadPointerFrame at h ⊢
  dsimp only at h ⊢
  split
  next hneg =>
    rw [if_pos hneg] at h
    dsimp only at h
    omega
  next hneg =>
    split
    next hzero =>
      rw [if_neg hneg, if_pos hzero] at h
      dsimp only at h
      omega
    next => rfl

theorem drvInputReadPointerFrame_framed {inst : DrvInputInst} {fd : Nat} (hfd : inst.fd = some fd)
    (kernel : InputKernel) {cut : FrameCut} (hcut : frameCut drvInputMaxFrameEvents kernel.reads = cut)
    (herror : ∀ errno, cut.stop ≠ .error errno) (hdisconnect : cut.stop ≠ .disconnect)
    (hevents : cut.events ≠ [])
    : let r := drvInputReadPointerFrame inst kernel
      0 < r.ret ∧ r.rawFrame.events = cut.events
        ∧ r.inst = { inst with buttonState := buttonFold inst.buttonState cut.events }
        ∧ r.kernel = { kernel with reads := cut.rest } := by
  have hlen : 0 < cut.events.length := List.length_pos_iff.mpr hevents
  rw [drvInputReadPointerFrame_returned hfd kernel hcut herror hdisconnect hevents]
  exact ⟨Int.natCast_pos.mpr hlen, rfl, pointer_inst _ _ _, rfl⟩

theorem initPointerPosition_inst (display : Option LvDisplay) (ctx : LvK230HidPointerCtx)
    : (lvK230HidInitPointerPosition display ctx).inst = ctx.inst
        ∧ (lvK230HidInitPointerPosition display ctx).pointerState = ctx.pointerState := by
  unfold lvK230HidInitPointerPosition
  split
  . exact ⟨rfl, rfl⟩
  . split <;> exact ⟨rfl, rfl⟩

/-
What a call does to the connection and to the state that it reports, leaving the point aside.
-/
structure ReadCbEffect (state : LvIndevState) (inst : DrvInputInst) (kernel : InputKernel)
    (r : PointerReadResult) : Prop where
  inst : r.ctx.inst = inst
  kernel : r.kernel = kernel
  pointerState : r.ctx.pointerState = state
  reported : r.data.state = state

theorem readCb_without_frame (display : Option LvDisplay) (ctx : LvK230HidPointerCtx)
    {kernel : InputKernel} {r : PointerResult} (hr : drvInputReadPointerFrame ctx.inst kernel = r)
    (hret : r.ret ≤ 0)
    : ReadCbEffect ctx.pointerState r.inst r.kernel (lvK230HidPointerReadCb display ctx kernel) := by
  obtain ⟨hinst, hstate⟩ := initPointerPosition_inst display ctx
  unfold lvK230HidPointerReadCb
  dsimp only
  rw [hinst, hr, if_neg (by omega)]
  exact ⟨rfl, rfl, hstate, hstate⟩

theorem readCb_with_frame (display : Option LvDisplay) (ctx : LvK230HidPointerCtx)
    {kernel : InputKernel} {r : PointerResult} (hr : drvInputReadPointerFrame ctx.inst kernel = r)
    (hret : 0 < r.ret) (hfd : r.inst.fd ≠ none)
    : ReadCbEffect (if isPressed r.inst.buttonState then .pressed else .released)
        (drvInputPoll r.inst r.kernel 0).inst (drvInputPoll r.inst r.kernel 0).kernel
        (lvK230HidPointerReadCb display ctx kernel) := by
  obtain ⟨hinst, _⟩ := initPointerPosition_inst display ctx
  have hbuttons : r.frame.buttons = r.inst.buttonState := by
    subst hr
    apply drvInputReadPointerFrame_buttons hret
  have hopen : r.inst.fd.isSome = true := Option.isSome_iff_ne_none.mpr hfd
  unfold lvK230HidPointerReadCb
  dsimp only
  rw [hinst, hr, if_pos hret, hbuttons]
  -- the point is set in between, which changes neither the instance nor the button state
  cases r.frame.hasAbs <;> cases r.frame.hasRel
  all_goals
    simp only [Bool.false_eq_true, if_false, if_true]
    rw [if_pos hopen]
    exact ⟨rfl, rfl, rfl, rfl⟩

theorem drvInputPoll_not_rebound {inst : DrvInputInst} {kernel : InputKernel} (hfd : inst.fd ≠ none)
    (h : ¬PollFindsRebound inst kernel)
    : (drvInputPoll inst kernel 0).inst = inst ∧ (drvInputPoll inst kernel 0).kernel.nextFd = kernel.nextFd := by
  unfold drvInputPoll
  split
  next hnone => exact absurd hnone hfd
  next =>
    rw [if_pos rfl]
    split
    . exact ⟨rfl, rfl⟩
    next slice slices hpolls =>
      have hnot : ¬(drvInputPollOnce slice = 0 ∧ drvInputPathRebound inst slice.info = true) := by
        intro hrebound
        exact h ⟨slice, slices, hpolls, hrebound⟩
      dsimp only
      rw [if_neg hnot]
      exact ⟨rfl, rfl⟩

theorem drvInputPoll_rebound {inst : DrvInputInst} {kernel : InputKernel} (hfd : inst.fd ≠ none)
    (h : PollFindsRebound inst kernel)
    : let r := drvInputPoll inst kernel 0
      (r.inst.fd = none ∨ r.inst.fd = some kernel.nextFd) ∧ r.inst.buttonState = 0#32
        ∧ ∀ fd, r.inst.fd = some fd → fd < r.kernel.nextFd := by
  obtain ⟨slice, slices, hpolls, hrebound⟩ := h
  obtain ⟨fd, hsome⟩ := Option.ne_none_iff_exists'.mp hfd
  have hcases := drvInputHandleDisconnect_cases inst { kernel with polls := slices }
  unfold drvInputPoll
  rw [hsome]
  dsimp only
  rw [if_pos rfl, hpolls]
  dsimp only
  rw [if_pos hrebound]
  dsimp only [PollResult.of]
  rcases hcases with ⟨_, _, hfd', hbuttons, hnext⟩ | ⟨_, _, hfd', hbuttons, _⟩
  . refine ⟨Or.inr hfd', hbuttons, ?_⟩
    intro fd' h
    rw [hfd'] at h
    cases h
    rw [hnext]
    apply Nat.lt_succ_self
  . refine ⟨Or.inl hfd', hbuttons, ?_⟩
    intro fd' h
    rw [hfd'] at h
    cases h

theorem released_of_zero {buttons : BitVec 32} (h : buttons = 0#32) {p : Prop}
    : isPressed buttons = true → p := by
  rw [h, isPressed_zero]
  intro hpressed
  cases hpressed

theorem closed_lt {fd : Option Nat} (hfd : fd = none) {next : Nat} : ∀ k, fd = some k → k < next := by
  rw [hfd]
  intro k h
  cases h

theorem opened_lt {fd : Option Nat} {next next' : Nat} (hfd : fd = some next) (hnext : next' = next + 1)
    : ∀ k, fd = some k → k < next' := by
  rw [hfd, hnext]
  intro k h
  cases h
  apply Nat.lt_succ_self

structure HidPointerInv (s : HidPointerLog) : Prop where
  pressed : s.ctx.pointerState = .pressed → s.ctx.inst.fd ≠ none ∧ ∃ event ∈ s.sent, IsPress event
  buttons : isPressed s.ctx.inst.buttonState = true → ∃ event ∈ s.sent, IsPress event
  fresh : ∀ fd, s.ctx.inst.fd = some fd → fd < s.kernel.nextFd

theorem HidPointerInv.create {info : DrvInputInfo} {kernel kernel' : InputKernel}
    {ctx : LvK230HidPointerCtx} (h : lvK230HidCreatePointer info kernel = some (ctx, kernel'))
    : HidPointerInv ⟨ctx, kernel', []⟩ := by
  unfold lvK230HidCreatePointer at h
  split at h
  . simp only [Option.some.injEq, Prod.mk.injEq] at h
    obtain ⟨rfl, rfl⟩ := h
    constructor
    . intro h
      cases h
    . intro h
      simp [drvInputInstSetAutoReconnect, drvInputInstCreate, isPressed_zero] at h
    . intro fd h
      simp only [drvInputInstSetAutoReconnect, drvInputInstCreate, Option.some.injEq] at h
      dsimp only
      omega
  . cases h

section

variable {s : HidPointerLog} {display : Option LvDisplay} {state : LvIndevState} {inst : DrvInputInst}
    {kernel : InputKernel}
    (heffect : ReadCbEffect state inst kernel (lvK230HidPointerReadCb display s.ctx s.kernel))

include heffect

/-
The connection is another one after the call, and nothing has come from it so far.
-/
theorem readCbVisit_changed (hchanged : inst.fd ≠ s.ctx.inst.fd)
    (hbuttons : isPressed inst.buttonState = true → state = .pressed)
    (hfresh : ∀ fd, inst.fd = some fd → fd < kernel.nextFd)
    (hloses : LosesPressed (hidPointerMachine.visit s (.readCb display)) ↔ state = .pressed)
    : let v := hidPointerMachine.visit s (.readCb display)
      (¬LosesPressed v → HidPointerInv v.post) ∧ (PressedByDevice v ↔ ¬LosesPressed v) := by
  obtain ⟨hinst, hkernel, hstate, hreported⟩ := heffect
  have hpost : (hidPointerMachine.visit s (.readCb display)).post.sent = [] := by
    simp only [hidPointerMachine, HidPointerLog.readCb, Machine.visit_post]
    rw [hinst, if_neg hchanged]
  dsimp only
  rw [hloses]
  constructor
  . intro hnot
    constructor
    . intro h
      exact absurd (hstate.symm.trans h) hnot
    . intro h
      exact absurd (hbuttons (hinst ▸ h)) hnot
    . intro fd h
      have hlt := hfresh fd (hinst ▸ h)
      rw [← hkernel] at hlt
      exact hlt
  . constructor
    . intro hgood hpressed
      obtain ⟨_, event, hmem, _⟩ := hgood _ rfl (hreported.trans hpressed)
      rw [hpost] at hmem
      cases hmem
    . intro hnot data hdata h
      cases hdata
      exact absurd (hreported.symm.trans h) hnot

theorem readCbVisit_kept (hkept : inst.fd = s.ctx.inst.fd) {sent : List InputEvent}
    (hsent : sent = s.sent ++ (drvInputReadPointerFrame s.ctx.inst s.kernel).rawFrame.events)
    (hpressed : state = .pressed → inst.fd ≠ none ∧ ∃ event ∈ sent, IsPress event)
    (hbuttons : isPressed inst.buttonState = true → ∃ event ∈ sent, IsPress event)
    (hfresh : ∀ fd, inst.fd = some fd → fd < kernel.nextFd)
    (hloses : ¬LosesPressed (hidPointerMachine.visit s (.readCb display)))
    : let v := hidPointerMachine.visit s (.readCb display)
      (¬LosesPressed v → HidPointerInv v.post) ∧ (PressedByDevice v ↔ ¬LosesPressed v) := by
  obtain ⟨hinst, hkernel, hstate, hreported⟩ := heffect
  have hpost : (hidPointerMachine.visit s (.readCb display)).post
      = ⟨(lvK230HidPointerReadCb display s.ctx s.kernel).ctx,
          (lvK230HidPointerReadCb display s.ctx s.kernel).kernel, sent⟩ := by
    simp only [hidPointerMachine, HidPointerLog.readCb, Machine.visit_post]
    rw [hinst, if_pos hkept, hsent]
  dsimp only
  rw [hpost]
  constructor
  . intro _
    constructor
    . intro h
      dsimp only
      rw [hinst]
      exact hpressed (hstate.symm.trans h)
    . intro h
      exact hbuttons (hinst ▸ h)
    . intro fd h
      exact hkernel ▸ hfresh fd (hinst ▸ h)
  . constructor
    . intro _
      exact hloses
    . intro _ data hdata h
      cases hdata
      rw [hpost]
      dsimp only
      rw [hinst]
      exact hpressed (hreported.symm.trans h)

end

theorem losesPressed_open {s : HidPointerLog} (hfd : s.ctx.inst.fd ≠ none) (display : Option LvDisplay)
    : LosesPressed (hidPointerMachine.visit s (.readCb display))
        ↔ match (frameCut drvInputMaxFrameEvents s.kernel.reads).stop with
          | .error _ => False
          | .disconnect =>
            ((frameCut drvInputMaxFrameEvents s.kernel.reads).events ≠ [] ∧ Reconnects s.ctx.inst s.kernel
                ∧ isPressed (buttonFold 0#32 (frameCut drvInputMaxFrameEvents s.kernel.reads).events) = true)
              ∨ (¬((frameCut drvInputMaxFrameEvents s.kernel.reads).events ≠ []
                  ∧ Reconnects s.ctx.inst s.kernel) ∧ s.ctx.pointerState = .pressed)
          | _ =>
            (frameCut drvInputMaxFrameEvents s.kernel.reads).events ≠ []
              ∧ PollFindsRebound s.ctx.inst s.kernel
              ∧ isPressed (buttonFold s.ctx.inst.buttonState
                  (frameCut drvInputMaxFrameEvents s.kernel.reads).events) = true := by
  unfold LosesPressed
  simp only [Machine.visit_pre, Machine.visit_event, HidPointerOp.readCb.injEq, exists_eq', ne_eq, hfd,
    not_false_eq_true, true_and]

/-
A device without a connection may get one, and then nothing is pressed.
-/
theorem readCbVisit_closed {s : HidPointerLog} (hs : HidPointerInv s) (hfd : s.ctx.inst.fd = none)
    (display : Option LvDisplay)
    : let v := hidPointerMachine.visit s (.readCb display)
      (¬LosesPressed v → HidPointerInv v.post) ∧ (PressedByDevice v ↔ ¬LosesPressed v) := by
  obtain ⟨hret, hraw, hconnection⟩ := drvInputReadPointerFrame_closed hfd s.kernel
  have heffect := readCb_without_frame display s.ctx rfl hret
  have hloses : ¬LosesPressed (hidPointerMachine.visit s (.readCb display)) := by
    intro h
    exact h.2.1 hfd
  have hreleased : s.ctx.pointerState ≠ .pressed := by
    intro h
    exact (hs.pressed h).1 hfd
  cases hconnection with
  | kept hfd' hbuttons hnext =>
    apply readCbVisit_kept heffect hfd' rfl _ _ _ hloses
    . intro h
      exact absurd h hreleased
    . rw [hraw, List.append_nil, hbuttons]
      exact hs.buttons
    . rw [hfd', hnext]
      exact hs.fresh
  | lost hfd' hbuttons hnext =>
    apply readCbVisit_kept heffect (hfd'.trans hfd.symm) rfl _ _ _ hloses
    . intro h
      exact absurd h hreleased
    . exact released_of_zero hbuttons
    . rw [hfd']
      intro fd h
      cases h
  | opened hfd' hbuttons hnext =>
    apply readCbVisit_changed heffect
    . rw [hfd', hfd]
      exact Option.some_ne_none _
    . exact released_of_zero hbuttons
    . rw [hfd', hnext]
      intro fd h
      cases h
      apply Nat.lt_succ_self
    . constructor
      . intro h
        exact absurd h hloses
      . intro h
        exact absurd h hreleased

section

variable {s : HidPointerLog} (hs : HidPointerInv s) {fd : Nat} (hfd : s.ctx.inst.fd = some fd)
    (display : Option LvDisplay) {cut : FrameCut}
    (hcut : frameCut drvInputMaxFrameEvents s.kernel.reads = cut)

include hs hfd hcut

theorem readCbVisit_failed {errno : Errno} (hstop : cut.stop = .error errno)
    : let v := hidPointerMachine.visit s (.readCb display)
      (¬LosesPressed v → HidPointerInv v.post) ∧ (PressedByDevice v ↔ ¬LosesPressed v) := by
  have hread := drvInputReadPointerFrame_failed hfd s.kernel hcut hstop
  have heffect := readCb_without_frame display s.ctx hread (Int.le_of_lt errno.neg_lt)
  have hopen : s.ctx.inst.fd ≠ none := by
    rw [hfd]
    exact Option.some_ne_none fd
  apply readCbVisit_kept heffect rfl rfl
  . intro h
    obtain ⟨hopen, event, hmem, hpress⟩ := hs.pressed h
    exact ⟨hopen, event, List.mem_append_left _ hmem, hpress⟩
  . intro h
    obtain ⟨event, hmem, hpress⟩ := hs.buttons h
    exact ⟨event, List.mem_append_left _ hmem, hpress⟩
  . exact hs.fresh
  . rw [losesPressed_open hopen, hcut, hstop]
    exact id

/-
The connection is lost without a frame, so that the state of the last report stays.
-/
theorem readCbVisit_lost (hstop : cut.stop = .disconnect)
    (hnone : ¬(cut.events ≠ [] ∧ Reconnects s.ctx.inst s.kernel))
    : let v := hidPointerMachine.visit s (.readCb display)
      (¬LosesPressed v → HidPointerInv v.post) ∧ (PressedByDevice v ↔ ¬LosesPressed v) := by
  have hopen : s.ctx.inst.fd ≠ none := by
    rw [hfd]
    exact Option.some_ne_none fd
  have hloses : LosesPressed (hidPointerMachine.visit s (.readCb display))
      ↔ s.ctx.pointerState = .pressed := by
    rw [losesPressed_open hopen, hcut, hstop]
    dsimp only
    rw [← and_assoc]
    simp only [hnone, false_and, false_or, not_false_eq_true, true_and]
  by_cases hreconnects : Reconnects s.ctx.inst s.kernel
  . obtain ⟨hret, _, hfd', hbuttons, hnext⟩ :=
      drvInputReadPointerFrame_replaced hfd s.kernel hcut hstop hreconnects
    have hempty : cut.events = [] := by
      by_contra h
      exact hnone ⟨h, hreconnects⟩
    -- without events the new connection has no frame either, and the call reports what it reported last
    rw [hempty] at hret hbuttons
    have heffect := readCb_without_frame display s.ctx rfl (Int.le_of_eq hret)
    apply readCbVisit_changed heffect _ _ _ hloses
    . rw [hfd']
      intro h
      exact Nat.lt_irrefl _ (hs.fresh _ h.symm)
    . exact released_of_zero (by rw [hbuttons, buttonFold_nil])
    . rw [hfd', hnext]
      intro fd h
      cases h
      apply Nat.lt_succ_self
  . obtain ⟨hret, hfd', hbuttons, _⟩ := drvInputReadPointerFrame_lost hfd s.kernel hcut hstop hreconnects
    have heffect := readCb_without_frame display s.ctx rfl (Int.le_of_lt hret)
    apply readCbVisit_changed heffect _ _ _ hloses
    . rw [hfd']
      exact hopen.symm
    . exact released_of_zero hbuttons
    . rw [hfd']
      intro fd h
      cases h

/-
The events before the loss are in a frame of the connection that has replaced the lost one.
-/
theorem readCbVisit_replaced (hstop : cut.stop = .disconnect) (hevents : cut.events ≠ [])
    (hreconnects : Reconnects s.ctx.inst s.kernel)
    : let v := hidPointerMachine.visit s (.readCb display)
      (¬LosesPressed v → HidPointerInv v.post) ∧ (PressedByDevice v ↔ ¬LosesPressed v) := by
  obtain ⟨hret, _, hfd', hbuttons, hnext⟩ :=
    drvInputReadPointerFrame_replaced hfd s.kernel hcut hstop hreconnects
  have hopen : s.ctx.inst.fd ≠ none := by
    rw [hfd]
    exact Option.some_ne_none fd
  have hpos : 0 < (drvInputReadPointerFrame s.ctx.inst s.kernel).ret := by
    have := List.length_pos_iff.mpr hevents
    omega
  have hopen' : (drvInputReadPointerFrame s.ctx.inst s.kernel).inst.fd ≠ none := by
    rw [hfd']
    exact Option.some_ne_none _
  have heffect := readCb_with_frame display s.ctx rfl hpos hopen'
  rw [hbuttons] at heffect
  have hlt := hs.fresh fd hfd
  have hloses : LosesPressed (hidPointerMachine.visit s (.readCb display))
      ↔ (if isPressed (buttonFold 0#32 cut.events) = true then LvIndevState.pressed
          else LvIndevState.released) = .pressed := by
    rw [losesPressed_open hopen, hcut, hstop]
    simp [hevents, hreconnects]
  -- the check for further events may lose the new connection as well
  have hpoll := drvInputPoll_step (drvInputReadPointerFrame s.ctx.inst s.kernel).inst
    (drvInputReadPointerFrame s.ctx.inst s.kernel).kernel 0
  cases hpoll with
  | kept hpfd hpbuttons hpnext =>
    apply readCbVisit_changed heffect _ _ _ hloses
    . rw [hpfd, hfd', hfd]
      intro h
      cases h
      exact Nat.lt_irrefl _ hlt
    . rw [hpbuttons, hbuttons]
      intro h
      rw [if_pos h]
    . apply opened_lt (hpfd.trans hfd') (hpnext.trans hnext)
  | lost hpfd hpbuttons hpnext =>
    apply readCbVisit_changed heffect _ _ _ hloses
    . rw [hpfd]
      exact hopen.symm
    . exact released_of_zero hpbuttons
    . apply closed_lt hpfd
  | opened hpfd hpbuttons hpnext =>
    apply readCbVisit_changed heffect _ _ _ hloses
    . rw [hpfd, hfd, hnext]
      intro h
      cases h
      omega
    . exact released_of_zero hpbuttons
    . apply opened_lt hpfd hpnext

theorem readCbVisit_nothing (herror : ∀ errno, cut.stop ≠ .error errno) (hdisconnect : cut.stop ≠ .disconnect)
    (hempty : cut.events = [])
    : let v := hidPointerMachine.visit s (.readCb display)
      (¬LosesPressed v → HidPointerInv v.post) ∧ (PressedByDevice v ↔ ¬LosesPressed v) := by
  obtain ⟨hret, hraw, hfd', hbuttons, hnext, _⟩ :=
    drvInputReadPointerFrame_ended hfd s.kernel hcut herror hdisconnect
  have hopen : s.ctx.inst.fd ≠ none := by
    rw [hfd]
    exact Option.some_ne_none fd
  rw [hempty] at hret hbuttons
  have heffect := readCb_without_frame display s.ctx rfl (Int.le_of_eq hret)
  apply readCbVisit_kept heffect hfd' rfl
  . rw [hraw, hfd', FrameCut.frame, hempty, List.append_nil]
    exact hs.pressed
  . rw [hraw, hbuttons, FrameCut.frame, hempty, List.append_nil]
    exact hs.buttons
  . rw [hfd', hnext]
    exact hs.fresh
  . rw [losesPressed_open hopen, hcut, hempty]
    split
    . exact id
    next hstop => exact absurd hstop hdisconnect
    . intro h
      exact h.1 rfl

theorem readCbVisit_returned (herror : ∀ errno, cut.stop ≠ .error errno)
    (hdisconnect : cut.stop ≠ .disconnect) (hevents : cut.events ≠ [])
    : let v := hidPointerMachine.visit s (.readCb display)
      (¬LosesPressed v → HidPointerInv v.post) ∧ (PressedByDevice v ↔ ¬LosesPressed v) := by
  obtain ⟨hpos, hraw, hinst, hkernel⟩ :=
    drvInputReadPointerFrame_framed hfd s.kernel hcut herror hdisconnect hevents
  generalize hread : drvInputReadPointerFrame s.ctx.inst s.kernel = r at hpos hraw hinst hkernel
  have hopen : s.ctx.inst.fd ≠ none := by
    rw [hfd]
    exact Option.some_ne_none fd
  have hopen' : r.inst.fd ≠ none := by
    rw [hinst]
    exact hopen
  have heffect := readCb_with_frame display s.ctx hread hpos hopen'
  have hloses : LosesPressed (hidPointerMachine.visit s (.readCb display))
      ↔ PollFindsRebound s.ctx.inst s.kernel
        ∧ isPressed (buttonFold s.ctx.inst.buttonState cut.events) = true := by
    rw [losesPressed_open hopen, hcut]
    split
    next errno hstop => exact absurd hstop (herror errno)
    next hstop => exact absurd hstop hdisconnect
    next => exact and_iff_right hevents
  have hrebound : PollFindsRebound s.ctx.inst s.kernel ↔ PollFindsRebound r.inst r.kernel := by
    rw [hinst, hkernel]
    rfl
  have hsent : isPressed (buttonFold s.ctx.inst.buttonState cut.events) = true →
      ∃ event ∈ s.sent ++ cut.events, IsPress event := by
    intro h
    cases isPressed_buttonFold h with
    | inl h =>
      obtain ⟨event, hmem, hpress⟩ := hs.buttons h
      exact ⟨event, List.mem_append_left _ hmem, hpress⟩
    | inr h =>
      obtain ⟨event, hmem, hpress⟩ := h
      exact ⟨event, List.mem_append_right _ hmem, hpress⟩
  have hstate : r.inst.buttonState = buttonFold s.ctx.inst.buttonState cut.events := by
    rw [hinst]
  have hsame : r.inst.fd = s.ctx.inst.fd := by
    rw [hinst]
  rw [hstate] at heffect
  -- the check for further events may find the device bound anew, and then the frame was of another connection
  by_cases hfinds : PollFindsRebound s.ctx.inst s.kernel
  . obtain ⟨hpfd, hpbuttons, hpfresh⟩ := drvInputPoll_rebound hopen' (hrebound.mp hfinds)
    refine readCbVisit_changed heffect ?_ ?_ hpfresh ?_
    . intro h
      rw [h, hfd, hkernel] at hpfd
      rcases hpfd with h | h
      . cases h
      . have hlt := hs.fresh fd hfd
        rw [Option.some.inj h] at hlt
        exact Nat.lt_irrefl _ hlt
    . exact released_of_zero hpbuttons
    . rw [hloses]
      simp [hfinds]
  . obtain ⟨hpinst, hpnext⟩ := drvInputPoll_not_rebound hopen' (fun h => hfinds (hrebound.mpr h))
    rw [hpinst] at heffect
    have hnext : (drvInputPoll r.inst r.kernel 0).kernel.nextFd = s.kernel.nextFd := by
      rw [hpnext, hkernel]
    refine readCbVisit_kept heffect hsame rfl ?_ ?_ ?_ ?_
    . intro h
      refine ⟨hopen', ?_⟩
      rw [hread, hraw]
      apply hsent
      by_contra hnot
      rw [if_neg hnot] at h
      cases h
    . rw [hread, hraw, hstate]
      exact hsent
    . rw [hsame, hnext]
      exact hs.fresh
    . rw [hloses]
      exact fun h => hfinds h.1

end

/-
One call: the report is right exactly if the call does not lose a connection while a button counts as
pressed.
-/
theorem hidPointerMachine_visit_iff {s : HidPointerLog} (hs : HidPointerInv s) (op : HidPointerOp)
    : let v := hidPointerMachine.visit s op
      (¬LosesPressed v → HidPointerInv v.post) ∧ (PressedByDevice v ↔ ¬LosesPressed v) := by
  cases op with
  | setAutoReconnect enabled =>
    have hloses : ¬LosesPressed (hidPointerMachine.visit s (.setAutoReconnect enabled)) := by
      intro h
      obtain ⟨display, hop⟩ := h.1
      cases hop
    constructor
    . intro _
      cases enabled
      . exact ⟨hs.pressed, hs.buttons, hs.fresh⟩
      . exact ⟨hs.pressed, hs.buttons, hs.fresh⟩
    constructor
    . intro _
      exact hloses
    . intro _ data hdata
      cases hdata
  | readCb display =>
    cases hfd : s.ctx.inst.fd with
    | none => apply readCbVisit_closed hs hfd
    | some fd =>
      generalize hcut : frameCut drvInputMaxFrameEvents s.kernel.reads = cut
      by_cases herror : ∃ errno, cut.stop = .error errno
      . obtain ⟨errno, hstop⟩ := herror
        apply readCbVisit_failed hs hfd display hcut hstop
      by_cases hstop : cut.stop = .disconnect
      . by_cases hframe : cut.events ≠ [] ∧ Reconnects s.ctx.inst s.kernel
        . apply readCbVisit_replaced hs hfd display hcut hstop hframe.1 hframe.2
        . apply readCbVisit_lost hs hfd display hcut hstop hframe
      . have herror : ∀ errno, cut.stop ≠ .error errno := by
          intro errno h
          exact herror ⟨errno, h⟩
        by_cases hempty : cut.events = []
        . apply readCbVisit_nothing hs hfd display hcut herror hstop hempty
        . apply readCbVisit_returned hs hfd display hcut herror hstop hempty

/-
In a run no report is pressed without a press of the connected device exactly if no call loses a connection
while a button counts as pressed.
-/
theorem hidPointerMachine_released {info : DrvInputInfo} {kernel kernel' : InputKernel}
    {ctx : LvK230HidPointerCtx} (h : lvK230HidCreatePointer info kernel = some (ctx, kernel'))
    (ops : List HidPointerOp)
    : (∀ v ∈ hidPointerMachine.visits ⟨ctx, kernel', []⟩ ops, PressedByDevice v)
        ↔ ∀ v ∈ hidPointerMachine.visits ⟨ctx, kernel', []⟩ ops, ¬LosesPressed v := by
  apply Machine.forall_visits_iff HidPointerInv
  . intro s op hs
    apply (hidPointerMachine_visit_iff hs op).1
  . intro s op hs
    apply (hidPointerMachine_visit_iff hs op).2
  . apply HidPointerInv.create h

/-
The button of a mouse is pressed, the mouse is unplugged, and there is no other one.
-/
def unpluggedWhilePressed : InputKernel :=
  ⟨[.event ⟨evKey, btnLeft, Input.keyPressed⟩, .event ⟨evSyn, synReport, 0#32⟩, .error enodev], [], [], 0⟩

def mousePointer : LvK230HidPointerCtx :=
  ⟨⟨some 0, 0#32, some mouseInfo, deviceMouse, true⟩, ⟨0#32, 0#32⟩, false, .released⟩

theorem hidPointerMachine_released_mouse
    : (∀ v ∈ hidPointerMachine.visits ⟨mousePointer, { unpluggedWhilePressed with nextFd := 1 }, []⟩
          [.readCb none, .setAutoReconnect false, .readCb none], PressedByDevice v)
        ↔ ∀ v ∈ hidPointerMachine.visits ⟨mousePointer, { unpluggedWhilePressed with nextFd := 1 }, []⟩
          [.readCb none, .setAutoReconnect false, .readCb none], ¬LosesPressed v :=
  @hidPointerMachine_released mouseInfo unpluggedWhilePressed _ _ rfl _

theorem hidPointerMachine_holds_press
    : lvK230HidCreatePointer mouseInfo unpluggedWhilePressed
          = some (mousePointer, { unpluggedWhilePressed with nextFd := 1 })
        ∧ ∃ v ∈ hidPointerMachine.visits ⟨mousePointer, { unpluggedWhilePressed with nextFd := 1 }, []⟩
            [.readCb none, .readCb none, .readCb none],
          v.pre.ctx.inst.fd = none ∧ v.post.ctx.inst.fd = none
          ∧ v.obs.map (·.state) = some .pressed ∧ ¬PressedByDevice v := by
  constructor
  . rfl
  . refine ⟨_, .tail _ (.tail _ (.head _)), by decide +kernel, by decide +kernel, by decide +kernel, ?_⟩
    intro h
    obtain ⟨hopen, _⟩ := h _ rfl (by decide +kernel)
    exact hopen (by decide +kernel)

end Lvgl

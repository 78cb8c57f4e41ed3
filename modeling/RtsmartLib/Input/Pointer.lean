import RtsmartLib.Lib.Machine
import RtsmartLib.Input.Driver
import Mathlib.Data.BitVec

/-!
This module contains what a frame is cut out of a stream of reads, and that the pointer frames of a device
account for each event that it has delivered.
-/

namespace Input

open Lib Posix

inductive PointerAxis where
  | relX
  | relY
  | wheel
  | hwheel

def PointerAxis.code (axis : PointerAxis) : BitVec 16 :=
  match axis with
  | .relX => Input.relX
  | .relY => Input.relY
  | .wheel => relWheel
  | .hwheel => relHwheel

def DrvPointerFrame.delta (frame : DrvPointerFrame) (axis : PointerAxis) : BitVec 32 :=
  match axis with
  | .relX => frame.relX
  | .relY => frame.relY
  | .wheel => frame.wheel
  | .hwheel => frame.hwheel

def InputEvent.delta (event : InputEvent) (axis : PointerAxis) : BitVec 32 :=
  if drvInputIsRelEvent event = true ∧ event.code = axis.code then event.value else 0#32

/-
The sum of the deltas modulo 2^32.
-/
def totalDelta (events : List InputEvent) (axis : PointerAxis) : BitVec 32 :=
  (events.map (·.delta axis)).sum

def buttonStep (buttons : BitVec 32) (event : InputEvent) : BitVec 32 :=
  if drvInputIsKeyEvent event then
    if event.value = keyPressed then buttons ||| drvInputButtonMask event.code
    else if event.value = keyReleased then buttons &&& ~~~drvInputButtonMask event.code
    else buttons
  else
    buttons

def buttonFold (buttons : BitVec 32) (events : List InputEvent) : BitVec 32 :=
  events.foldl buttonStep buttons

@[simp]
theorem totalDelta_nil (axis : PointerAxis) : totalDelta [] axis = 0#32 := rfl

theorem totalDelta_cons (event : InputEvent) (events : List InputEvent) (axis : PointerAxis)
    : totalDelta (event :: events) axis = event.delta axis + totalDelta events axis := by
  simp [totalDelta]

theorem totalDelta_append (a b : List InputEvent) (axis : PointerAxis)
    : totalDelta (a ++ b) axis = totalDelta a axis + totalDelta b axis := by
  simp [totalDelta]

@[simp]
theorem buttonFold_nil (buttons : BitVec 32) : buttonFold buttons [] = buttons := rfl

@[simp]
theorem buttonFold_cons (buttons : BitVec 32) (event : InputEvent) (events : List InputEvent)
    : buttonFold buttons (event :: events) = buttonFold (buttonStep buttons event) events := rfl

theorem buttonFold_append (buttons : BitVec 32) (a b : List InputEvent)
    : buttonFold buttons (a ++ b) = buttonFold (buttonFold buttons a) b := by
  simp [buttonFold]

theorem delta_of_isSyncEvent {event : InputEvent} (h : drvInputIsSyncEvent event = true)
    (axis : PointerAxis)
    : event.delta axis = 0#32 := by
  have htype : event.type = evSyn := by
    simp [drvInputIsSyncEvent] at h
    exact h.1
  simp [InputEvent.delta, drvInputIsRelEvent, htype, evSyn, evRel]

theorem buttonStep_of_isSyncEvent {event : InputEvent} (h : drvInputIsSyncEvent event = true)
    (buttons : BitVec 32)
    : buttonStep buttons event = buttons := by
  have htype : event.type = evSyn := by
    simp [drvInputIsSyncEvent] at h
    exact h.1
  simp [buttonStep, drvInputIsKeyEvent, htype, evSyn, evKey]

theorem totalDelta_filter_sync (events : List InputEvent) (axis : PointerAxis)
    : totalDelta (events.filter (!drvInputIsSyncEvent ·)) axis = totalDelta events axis := by
  induction events with
  | nil => rfl
  | cons event events ih =>
    rw [List.filter_cons]
    cases h : drvInputIsSyncEvent event with
    | false =>
      simp [totalDelta_cons, ih]
    | true =>
      simp [totalDelta_cons, ih, delta_of_isSyncEvent h]

theorem buttonFold_filter_sync (events : List InputEvent) (buttons : BitVec 32)
    : buttonFold buttons (events.filter (!drvInputIsSyncEvent ·)) = buttonFold buttons events := by
  induction events generalizing buttons with
  | nil => rfl
  | cons event events ih =>
    rw [List.filter_cons]
    cases h : drvInputIsSyncEvent event with
    | false =>
      simp [ih]
    | true =>
      simp [ih, buttonStep_of_isSyncEvent h]

theorem pointerFrameEvent_delta (s : DrvPointerFrame × BitVec 32) (event : InputEvent)
    (axis : PointerAxis)
    : (pointerFrameEvent s event).1.delta axis = s.1.delta axis + event.delta axis := by
  unfold pointerFrameEvent InputEvent.delta
  cases hrel : drvInputIsRelEvent event with
  | true =>
    -- the four codes differ, so that the branch of one axis leaves the others alone
    by_cases hx : event.code = relX
    . cases axis <;> simp [hx, DrvPointerFrame.delta, PointerAxis.code, relX, relY, relWheel, relHwheel]
    . by_cases hy : event.code = relY
      . cases axis <;> simp [hy, DrvPointerFrame.delta, PointerAxis.code, relX, relY, relWheel, relHwheel]
      . by_cases hwheel : event.code = relWheel
        . cases axis <;>
            simp [hwheel, DrvPointerFrame.delta, PointerAxis.code, relX, relY, relWheel, relHwheel]
        . by_cases hhwheel : event.code = relHwheel
          . cases axis <;>
              simp [hhwheel, DrvPointerFrame.delta, PointerAxis.code, relX, relY, relWheel, relHwheel]
          . cases axis <;> simp [hx, hy, hwheel, hhwheel, DrvPointerFrame.delta, PointerAxis.code]
  | false =>
    have hzero : ∀ p : Prop, [Decidable p] →
        (if false = true ∧ p then event.value else 0#32) = 0#32 := by
      simp
    rw [hzero, BitVec.add_zero]
    dsimp only
    rw [if_neg Bool.false_ne_true]
    repeat' split
    all_goals
      cases axis <;> rfl

theorem pointerFrameEvent_button (s : DrvPointerFrame × BitVec 32) (event : InputEvent)
    : (pointerFrameEvent s event).2 = buttonStep s.2 event := by
  unfold pointerFrameEvent buttonStep
  cases hkey : drvInputIsKeyEvent event with
  | true =>
    have htype : event.type = evKey := by
      simpa [drvInputIsKeyEvent] using hkey
    have hrel : drvInputIsRelEvent event = false := by
      simp [drvInputIsRelEvent, htype, evKey, evRel]
    have habs : drvInputIsAbsEvent event = false := by
      simp [drvInputIsAbsEvent, htype, evKey, evAbs]
    simp only [hrel, habs, Bool.false_eq_true, if_false, if_true]
    by_cases hmask : drvInputButtonMask event.code = 0#32
    . have hall : s.2 &&& ~~~0#32 = s.2 := by
        rw [BitVec.not_zero, BitVec.and_allOnes]
      rw [if_pos hmask, hmask, BitVec.or_zero, hall]
      simp
    . rw [if_neg hmask]
      split_ifs <;> rfl
  | false =>
    simp only [Bool.false_eq_true, if_false]
    split_ifs <;> rfl

theorem pointerFrameEvent_foldl_delta (events : List InputEvent) (s : DrvPointerFrame × BitVec 32)
    (axis : PointerAxis)
    : (events.foldl pointerFrameEvent s).1.delta axis = s.1.delta axis + totalDelta events axis := by
  induction events generalizing s with
  | nil => simp
  | cons event events ih =>
    rw [List.foldl_cons, ih, pointerFrameEvent_delta, totalDelta_cons]
    apply add_assoc

theorem pointerFrameEvent_foldl_button (events : List InputEvent) (s : DrvPointerFrame × BitVec 32)
    : (events.foldl pointerFrameEvent s).2 = buttonFold s.2 events := by
  induction events generalizing s with
  | nil => rfl
  | cons event events ih =>
    rw [List.foldl_cons, ih, pointerFrameEvent_button]
    rfl

inductive FrameStop where
  | sync
  | again
  | full
  | disconnect
  | error (errno : Errno)
  deriving DecidableEq

/-
What a frame with space for `room` events takes from the reads: its events, the reason for which it
ends, and the reads that it leaves.
-/
structure FrameCut where
  events : List InputEvent
  stop : FrameStop
  rest : List ReadResult

def frameCut (room : Nat) (reads : List ReadResult) : FrameCut :=
  match room, reads with
  | 0, reads => ⟨[], .full, reads⟩
  | _ + 1, [] => ⟨[], .again, []⟩
  | room + 1, .event event :: reads =>
    if drvInputIsSyncEvent event then
      ⟨[], .sync, reads⟩
    else
      let cut := frameCut room reads
      { cut with events := event :: cut.events }
  | _ + 1, .short _ :: reads => ⟨[], .disconnect, reads⟩
  | _ + 1, .error errno :: reads =>
    if errno = eagain then ⟨[], .again, reads⟩
    else if drvInputRetIsDisconnect (-errno) then ⟨[], .disconnect, reads⟩
    else ⟨[], .error errno, reads⟩

def FrameCut.frame (cut : FrameCut) : DrvInputFrame :=
  ⟨cut.events, cut.stop == .sync⟩

/-
How a frame of a connected instance ends after what has been cut out of the reads.
-/
def FrameCut.result (cut : FrameCut) (frame : DrvInputFrame) (inst : DrvInputInst)
    (kernel : InputKernel) : FrameResult :=
  match cut.stop with
  | .error errno => ⟨-errno, frame, inst, kernel⟩
  | .disconnect =>
    let r := drvInputHandleDisconnect inst kernel
    ⟨if r.ret < 0 then r.ret else frame.events.length, frame, r.inst, r.kernel⟩
  | _ => ⟨frame.events.length, frame, inst, kernel⟩

theorem drvInputHandleDisconnect_ret (inst : DrvInputInst) (kernel : InputKernel)
    : (drvInputHandleDisconnect inst kernel).ret = 0
        ∨ (drvInputHandleDisconnect inst kernel).ret = -enodev := by
  unfold drvInputHandleDisconnect
  dsimp only
  split
  . split
    next h => exact Or.inl h
    next => exact Or.inr rfl
  . exact Or.inr rfl

theorem drvInputReadFrameLoop_of_nonpos {room : Nat} {frame : DrvInputFrame} {inst : DrvInputInst}
    {kernel : InputKernel} {r : EventResult} (hr : drvInputReadEvent inst kernel = r) (hret : r.ret ≤ 0)
    : drvInputReadFrameLoop (room + 1) frame inst kernel
        =
      ⟨if r.ret < 0 then r.ret else frame.events.length, frame, r.inst, r.kernel⟩ := by
  unfold drvInputReadFrameLoop
  rw [hr]
  dsimp only
  by_cases hneg : r.ret < 0
  . rw [if_pos hneg, if_pos hneg]
  . have hzero : r.ret = 0 := by
      omega
    rw [if_neg hneg, if_neg hneg, if_pos hzero]

theorem drvInputReadFrameLoop_eq {inst : DrvInputInst} {fd : Nat} (hfd : inst.fd = some fd)
    (room : Nat) (events : List InputEvent) (kernel : InputKernel)
    : drvInputReadFrameLoop room ⟨events, false⟩ inst kernel
        =
      (frameCut room kernel.reads).result
        ⟨events ++ (frameCut room kernel.reads).events, (frameCut room kernel.reads).stop == .sync⟩
        inst { kernel with reads := (frameCut room kernel.reads).rest } := by
  induction room generalizing events kernel with
  | zero =>
    simp [drvInputReadFrameLoop, frameCut, FrameCut.result]
  | succ room ih =>
    cases hreads : kernel.reads with
    | nil =>
      have hread : drvInputReadEvent inst kernel = .of ⟨0, inst, kernel⟩ := by
        simp [drvInputReadEvent, hfd, hreads]
      rw [drvInputReadFrameLoop_of_nonpos hread (Int.le_refl 0)]
      simp [frameCut, FrameCut.result, EventResult.of, ← hreads]
    | cons read reads =>
      have hdisconnected : ∀ h : drvInputReadEvent inst kernel
            = .of (drvInputHandleDisconnect inst { kernel with reads := reads }),
          drvInputReadFrameLoop (room + 1) ⟨events, false⟩ inst kernel
            = (FrameCut.mk [] .disconnect reads).result ⟨events, false⟩ inst
                { kernel with reads := reads } := by
        intro h
        have hret : (drvInputHandleDisconnect inst { kernel with reads := reads }).ret ≤ 0 := by
          rcases drvInputHandleDisconnect_ret inst { kernel with reads := reads } with h | h
          . apply Int.le_of_eq h
          . rw [h]
            decide
        apply drvInputReadFrameLoop_of_nonpos h hret
      cases read with
      | event event =>
        -- the loop goes on unless this is the SYN event that ends the frame
        have hread : drvInputReadEvent inst kernel = ⟨1, event, inst, { kernel with reads := reads }⟩ := by
          simp [drvInputReadEvent, hfd, hreads]
        unfold drvInputReadFrameLoop
        rw [hread]
        dsimp only
        rw [if_neg (by decide), if_neg (by decide)]
        cases hsync : drvInputIsSyncEvent event with
        | true =>
          simp [frameCut, hsync, FrameCut.result]
        | false =>
          rw [if_neg Bool.false_ne_true, ih]
          simp [frameCut, hsync, FrameCut.result]
      | short bytes =>
        rw [hdisconnected (by simp [drvInputReadEvent, hfd, hreads])]
        simp only [frameCut, List.append_nil]
        rfl
      | error errno =>
        by_cases hagain : errno = eagain
        . have hread : drvInputReadEvent inst kernel = .of ⟨0, inst, { kernel with reads := reads }⟩ := by
            simp [drvInputReadEvent, hfd, hreads, hagain]
          rw [drvInputReadFrameLoop_of_nonpos hread (Int.le_refl 0)]
          simp [frameCut, hagain, FrameCut.result, EventResult.of]
        . cases hdisconnect : drvInputRetIsDisconnect (-errno) with
          | true =>
            rw [hdisconnected (by simp [drvInputReadEvent, hfd, hreads, hagain, hdisconnect])]
            simp only [frameCut, hagain, hdisconnect, if_false, if_true, List.append_nil]
            rfl
          | false =>
            have hread : drvInputReadEvent inst kernel
                = .of ⟨-errno, inst, { kernel with reads := reads }⟩ := by
              simp [drvInputReadEvent, hfd, hreads, hagain, hdisconnect]
            have hneg := errno.neg_lt
            rw [drvInputReadFrameLoop_of_nonpos hread (Int.le_of_lt hneg)]
            simp [frameCut, hagain, hdisconnect, FrameCut.result, EventResult.of, errno.property]

theorem drvInputReadFrame_eq {inst : DrvInputInst} {fd : Nat} (hfd : inst.fd = some fd)
    (kernel : InputKernel)
    : drvInputReadFrame inst kernel
        =
      (frameCut drvInputMaxFrameEvents kernel.reads).result
        (frameCut drvInputMaxFrameEvents kernel.reads).frame inst
        { kernel with reads := (frameCut drvInputMaxFrameEvents kernel.reads).rest } := by
  unfold drvInputReadFrame
  rw [hfd]
  dsimp only
  rw [drvInputReadFrameLoop_eq hfd]
  rfl

/-
The pointer frame made of a raw frame.
-/
def DrvInputFrame.pointer (frame : DrvInputFrame) (inst : DrvInputInst) (kernel : InputKernel)
    : PointerResult :=
  let s := frame.events.foldl pointerFrameEvent
    ({ DrvPointerFrame.zero with complete := frame.complete }, inst.buttonState)
  ⟨frame.events.length, { s.1 with buttons := s.2 }, frame, { inst with buttonState := s.2 }, kernel⟩

theorem pointer_delta (frame : DrvInputFrame) (inst : DrvInputInst) (kernel : InputKernel)
    (axis : PointerAxis)
    : (frame.pointer inst kernel).frame.delta axis = totalDelta frame.events axis := by
  have hfold := pointerFrameEvent_foldl_delta frame.events
    ({ DrvPointerFrame.zero with complete := frame.complete }, inst.buttonState) axis
  have hzero : ({ DrvPointerFrame.zero with complete := frame.complete }).delta axis = 0#32 := by
    cases axis <;> rfl
  rw [hzero, BitVec.zero_add] at hfold
  rw [← hfold]
  cases axis <;> rfl

theorem pointer_inst (frame : DrvInputFrame) (inst : DrvInputInst) (kernel : InputKernel)
    : (frame.pointer inst kernel).inst
        = { inst with buttonState := buttonFold inst.buttonState frame.events } := by
  unfold DrvInputFrame.pointer
  dsimp only
  rw [pointerFrameEvent_foldl_button]

theorem pointer_buttons (frame : DrvInputFrame) (inst : DrvInputInst) (kernel : InputKernel)
    : (frame.pointer inst kernel).frame.buttons = buttonFold inst.buttonState frame.events := by
  unfold DrvInputFrame.pointer
  dsimp only
  rw [pointerFrameEvent_foldl_button]

theorem drvInputReadPointerFrame_eq_pointer {inst : DrvInputInst} {kernel : InputKernel}
    {r : FrameResult} (hr : drvInputReadFrame inst kernel = r)
    (hret : r.ret = (r.frame.events.length : Int)) (hpos : r.frame.events ≠ [])
    : drvInputReadPointerFrame inst kernel = r.frame.pointer r.inst r.kernel := by
  have hlen : 0 < r.frame.events.length := List.length_pos_iff.mpr hpos
  unfold drvInputReadPointerFrame
  rw [hr]
  dsimp only
  rw [if_neg (by omega), if_neg (by omega)]
  rfl

theorem drvInputReadPointerFrame_of_nonpos {inst : DrvInputInst} {kernel : InputKernel}
    {r : FrameResult} (hr : drvInputReadFrame inst kernel = r) (hret : r.ret ≤ 0)
    : drvInputReadPointerFrame inst kernel = ⟨r.ret, .zero, r.frame, r.inst, r.kernel⟩ := by
  unfold drvInputReadPointerFrame
  rw [hr]
  dsimp only
  by_cases hneg : r.ret < 0
  . rw [if_pos hneg]
  . have hzero : r.ret = 0 := by
      omega
    rw [if_neg hneg, if_pos hzero, hzero]

end Input

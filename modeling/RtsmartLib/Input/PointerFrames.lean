import RtsmartLib.Input.Pointer

/-!
This module contains that the pointer frames of a connected device account for the events that it has
delivered, however the stream of events is cut into frames.
-/

namespace Input

open Lib Posix

def readEvents (reads : List ReadResult) : List InputEvent :=
  reads.filterMap fun read =>
    match read with
    | .event event => some event
    | _ => none

def ReadResult.Undisturbed (read : ReadResult) : Prop :=
  match read with
  | .event _ => True
  | .short _ => False
  | .error errno => errno = eagain

def withoutSync (events : List InputEvent) : List InputEvent :=
  events.filter (!drvInputIsSyncEvent ·)

def pointerMachine : Machine (DrvInputInst × InputKernel) Unit PointerResult :=
  ⟨fun s _ =>
    let r := drvInputReadPointerFrame s.1 s.2
    ((r.inst, r.kernel), r)⟩

/-
A call returns a frame if its return value is positive.
-/
def returnedFrames (visits : List (Machine.Visit (DrvInputInst × InputKernel) Unit PointerResult))
    : List DrvPointerFrame :=
  visits.filterMap fun v => if 0 < v.obs.ret then some v.obs.frame else none

@[simp]
theorem readEvents_append (a b : List ReadResult)
    : readEvents (a ++ b) = readEvents a ++ readEvents b := by
  simp [readEvents]

@[simp]
theorem withoutSync_append (a b : List InputEvent)
    : withoutSync (a ++ b) = withoutSync a ++ withoutSync b := by
  simp [withoutSync]

theorem frameCut_taken (room : Nat) (reads : List ReadResult)
    : ∃ taken, reads = taken ++ (frameCut room reads).rest
        ∧ withoutSync (readEvents taken) = (frameCut room reads).events := by
  induction room generalizing reads with
  | zero =>
    exists []
  | succ room ih =>
    cases reads with
    | nil =>
      exists []
    | cons read reads =>
      cases read with
      | event event =>
        cases hsync : drvInputIsSyncEvent event with
        | true =>
          exists [.event event]
          simp [frameCut, hsync, readEvents, withoutSync]
        | false =>
          obtain ⟨taken, hreads, hevents⟩ := ih reads
          exists .event event :: taken
          constructor
          . simp only [frameCut, hsync, Bool.false_eq_true, if_false, List.cons_append]
            rw [← hreads]
          . simp only [frameCut, hsync, Bool.false_eq_true, if_false]
            rw [← hevents]
            simp [readEvents, withoutSync, hsync]
      | short bytes =>
        exists [.short bytes]
      | error errno =>
        exists [.error errno]
        unfold frameCut
        split
        . simp [readEvents, withoutSync]
        . split <;> simp [readEvents, withoutSync]

theorem frameCut_stop_of_undisturbed {room : Nat} {reads : List ReadResult}
    (h : ∀ read ∈ reads, read.Undisturbed)
    : (frameCut room reads).stop = .sync ∨ (frameCut room reads).stop = .again
        ∨ (frameCut room reads).stop = .full := by
  induction room generalizing reads with
  | zero =>
    simp [frameCut]
  | succ room ih =>
    cases reads with
    | nil =>
      simp [frameCut]
    | cons read reads =>
      simp only [List.forall_mem_cons] at h
      cases read with
      | event event =>
        unfold frameCut
        split
        . exact Or.inl rfl
        . apply ih h.2
      | short bytes =>
        exact absurd h.1 id
      | error errno =>
        have hagain : errno = eagain := h.1
        simp [frameCut, hagain]

theorem frameCut_result_of_undisturbed {reads : List ReadResult} {room : Nat}
    (h : ∀ read ∈ reads, read.Undisturbed) (frame : DrvInputFrame) (inst : DrvInputInst)
    (kernel : InputKernel)
    : (frameCut room reads).result frame inst kernel = ⟨frame.events.length, frame, inst, kernel⟩ := by
  unfold FrameCut.result
  rcases @frameCut_stop_of_undisturbed room reads h with h | h | h
  all_goals
    rw [h]

/-
What one call takes from the reads is in its frame, and in the button state.
-/
theorem drvInputReadPointerFrame_taken {inst : DrvInputInst} {fd : Nat} (hfd : inst.fd = some fd)
    {kernel : InputKernel} (hreads : ∀ read ∈ kernel.reads, read.Undisturbed)
    : ∃ taken,
        let r := drvInputReadPointerFrame inst kernel
        kernel.reads = taken ++ r.kernel.reads
          ∧ r.inst.fd = some fd
          ∧ r.rawFrame.events = withoutSync (readEvents taken)
          ∧ r.inst.buttonState = buttonFold inst.buttonState (readEvents taken)
          ∧ (∀ axis, r.frame.delta axis = totalDelta (readEvents taken) axis)
          ∧ (0 < r.ret → r.frame.buttons = r.inst.buttonState) := by
  obtain ⟨taken, htaken, hevents⟩ := frameCut_taken drvInputMaxFrameEvents kernel.reads
  have hframe := drvInputReadFrame_eq hfd kernel
  rw [frameCut_result_of_undisturbed hreads] at hframe
  exists taken
  have hdelta : ∀ axis, totalDelta (frameCut drvInputMaxFrameEvents kernel.reads).events axis
      = totalDelta (readEvents taken) axis := by
    intro axis
    rw [← hevents]
    apply totalDelta_filter_sync
  have hbutton : buttonFold inst.buttonState (frameCut drvInputMaxFrameEvents kernel.reads).events
      = buttonFold inst.buttonState (readEvents taken) := by
    rw [← hevents]
    apply buttonFold_filter_sync
  by_cases hempty : (frameCut drvInputMaxFrameEvents kernel.reads).events = []
  . -- nothing but a sync event has been taken, so that the zero frame is right
    rw [drvInputReadPointerFrame_of_nonpos hframe (by simp [FrameCut.frame, hempty])]
    rw [hempty] at hevents hdelta hbutton
    dsimp only
    constructor
    . exact htaken
    constructor
    . exact hfd
    constructor
    . simp [FrameCut.frame, hempty, hevents]
    constructor
    . exact hbutton
    constructor
    . intro axis
      rw [← hdelta axis]
      cases axis <;> rfl
    . simp [FrameCut.frame, hempty]
  . rw [drvInputReadPointerFrame_eq_pointer hframe rfl hempty]
    dsimp only
    rw [pointer_inst]
    dsimp only [FrameCut.frame]
    constructor
    . exact htaken
    constructor
    . exact hfd
    constructor
    . exact hevents.symm
    constructor
    . exact hbutton
    constructor
    . intro axis
      rw [pointer_delta]
      apply hdelta
    . intro _
      rw [pointer_buttons]

theorem delta_sum_returnedFrames_cons
    (v : Machine.Visit (DrvInputInst × InputKernel) Unit PointerResult)
    (visits : List (Machine.Visit (DrvInputInst × InputKernel) Unit PointerResult)) (axis : PointerAxis)
    (hzero : ¬0 < v.obs.ret → v.obs.frame.delta axis = 0#32)
    : ((returnedFrames (v :: visits)).map (·.delta axis)).sum
        = v.obs.frame.delta axis + ((returnedFrames visits).map (·.delta axis)).sum := by
  unfold returnedFrames
  rw [List.filterMap_cons]
  by_cases hpos : 0 < v.obs.ret
  . simp [hpos]
  . simp [hpos, hzero hpos]

theorem drvInputReadPointerFrame_delta_of_nonpos {inst : DrvInputInst} {kernel : InputKernel}
    (h : ¬0 < (drvInputReadPointerFrame inst kernel).ret) (axis : PointerAxis)
    : (drvInputReadPointerFrame inst kernel).frame.delta axis = 0#32 := by
  unfold drvInputReadPointerFrame at h ⊢
  dsimp only at h ⊢
  split
  . cases axis <;> rfl
  next hneg =>
    rw [if_neg hneg] at h
    split
    . cases axis <;> rfl
    next hzero =>
      rw [if_neg hzero] at h
      have hempty : (drvInputReadFrame inst kernel).frame.events = [] := by
        have : ¬0 < (drvInputReadFrame inst kernel).frame.events.length := by
          intro hlen
          apply h
          dsimp only
          omega
        rw [← List.length_eq_zero_iff]
        omega
      have := pointer_delta (drvInputReadFrame inst kernel).frame (drvInputReadFrame inst kernel).inst
        (drvInputReadFrame inst kernel).kernel axis
      rw [hempty] at this
      exact this

/-
Over any number of calls on a connected device that answers with events and `EAGAIN` only, the deltas of
the returned frames are those of the events taken, the raw frames hold these events in their order, and
the button state is their fold, in each returned frame that of the events taken up to this frame.
-/
theorem pointerFrames_account {inst : DrvInputInst} {kernel : InputKernel}
    (hfd : inst.fd.isSome = true) (hreads : ∀ read ∈ kernel.reads, read.Undisturbed)
    (calls : List Unit)
    : ∃ taken,
        let visits := pointerMachine.visits (inst, kernel) calls
        let last := pointerMachine.final (inst, kernel) calls
        kernel.reads = taken ++ last.2.reads
          ∧ (∀ axis, ((returnedFrames visits).map (·.delta axis)).sum
              = totalDelta (readEvents taken) axis)
          ∧ (visits.map (·.obs.rawFrame.events)).flatten = withoutSync (readEvents taken)
          ∧ last.1.buttonState = buttonFold inst.buttonState (readEvents taken)
          ∧ ∀ v ∈ visits, 0 < v.obs.ret → ∃ upTo, kernel.reads = upTo ++ v.post.2.reads
              ∧ v.obs.frame.buttons = buttonFold inst.buttonState (readEvents upTo) := by
  induction calls generalizing inst kernel with
  | nil =>
    exists []
    simp [returnedFrames, readEvents, withoutSync]
  | cons call calls ih =>
    obtain ⟨fd, hfd⟩ := Option.isSome_iff_exists.mp hfd
    obtain ⟨first, hfirst⟩ := drvInputReadPointerFrame_taken hfd hreads
    have hnonpos := @drvInputReadPointerFrame_delta_of_nonpos inst kernel
    have hvisits : pointerMachine.visits (inst, kernel) (call :: calls)
        = pointerMachine.visit (inst, kernel) call
          :: pointerMachine.visits ((drvInputReadPointerFrame inst kernel).inst,
              (drvInputReadPointerFrame inst kernel).kernel) calls := rfl
    have hfinal : pointerMachine.final (inst, kernel) (call :: calls)
        = pointerMachine.final ((drvInputReadPointerFrame inst kernel).inst,
              (drvInputReadPointerFrame inst kernel).kernel) calls := rfl
    have hobs : (pointerMachine.visit (inst, kernel) call).obs
        = drvInputReadPointerFrame inst kernel := rfl
    have hpost : (pointerMachine.visit (inst, kernel) call).post.2
        = (drvInputReadPointerFrame inst kernel).kernel := rfl
    rw [hvisits, hfinal]
    generalize drvInputReadPointerFrame inst kernel = r at *
    obtain ⟨htaken, hopen, hraw, hstate, hdelta, hbuttons⟩ := hfirst
    have hrest : ∀ read ∈ r.kernel.reads, read.Undisturbed := by
      intro read hread
      apply hreads
      rw [htaken]
      apply List.mem_append_right _ hread
    have hsome : r.inst.fd.isSome = true := by
      rw [hopen]
      rfl
    -- what all calls take is what the first one takes and then what the others take
    obtain ⟨later, hlater, hsums, hraws, hlast, hall⟩ := ih hsome hrest
    exists first ++ later
    dsimp only
    constructor
    . rw [List.append_assoc, ← hlater, ← htaken]
    constructor
    . intro axis
      rw [delta_sum_returnedFrames_cons _ _ axis (by rw [hobs]; intro h; exact hnonpos h axis), hobs,
        hdelta, hsums axis, readEvents_append, totalDelta_append]
    constructor
    . rw [List.map_cons, List.flatten_cons, hraws, hobs, hraw, readEvents_append, withoutSync_append]
    constructor
    . rw [hlast, hstate, readEvents_append, buttonFold_append]
    . intro v hv hret
      simp only [List.mem_cons] at hv
      cases hv with
      | inl h =>
        rw [h, hobs] at hret ⊢
        exists first
        rw [hpost]
        constructor
        . exact htaken
        . rw [hbuttons hret, hstate]
      | inr h =>
        obtain ⟨upTo, hupTo, hfold⟩ := hall v h hret
        exists first ++ upTo
        constructor
        . rw [List.append_assoc, ← hupTo, ← htaken]
        . rw [hfold, hstate, readEvents_append, buttonFold_append]

def dragReads : List ReadResult :=
  [.event ⟨evKey, btnLeft, keyPressed⟩, .event ⟨evRel, relX, 5#32⟩, .error eagain,
    .event ⟨evRel, relX, -3#32⟩, .event ⟨evSyn, synReport, 0#32⟩, .event ⟨evSyn, synReport, 0#32⟩]

theorem dragReads_account
    : ∃ taken,
        let run := pointerMachine.visits (drvInputInstCreate 0, ⟨dragReads, [], [], 1⟩) [(), (), ()]
        dragReads = taken
          ∧ (∀ axis, ((returnedFrames run).map (·.delta axis)).sum = totalDelta (readEvents taken) axis)
          ∧ totalDelta (readEvents taken) .relX = 2#32
          ∧ ∀ v ∈ run, 0 < v.obs.ret → v.obs.frame.buttons = 1#32 := by
  have hreads : ∀ read ∈ dragReads, read.Undisturbed := by
    simp [dragReads, ReadResult.Undisturbed]
  obtain ⟨taken, htaken, hsums, _⟩ := @pointerFrames_account (drvInputInstCreate 0)
    ⟨dragReads, [], [], 1⟩ rfl hreads [(), (), ()]
  have hall : dragReads = taken := by
    have hrest : (pointerMachine.final (drvInputInstCreate 0, ⟨dragReads, [], [], 1⟩)
        [(), (), ()]).2.reads = [] := by
      decide +kernel
    rw [hrest, List.append_nil] at htaken
    exact htaken
  exists taken
  constructor
  . exact hall
  constructor
  . exact hsums
  constructor
  . rw [← hall]
    decide +kernel
  . decide +kernel

end Input

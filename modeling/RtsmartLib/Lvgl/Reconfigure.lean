import RtsmartLib.Lib.Ledger
import RtsmartLib.Lib.Machine
import Mathlib.Algebra.Order.Group.Nat

/-!
This module contains the reconfiguration of the LVGL display port: a second set of buffers is allocated for
the new color format, and only when VO accepts it is the first set released.
-/

namespace Lvgl

open Lib

inductive LvColorFormat where
  | l8
  | al88
  | rgb565
  | rgb888
  | rgb565a8
  | argb8888
  | xrgb8888
  | other (code : Nat)
  deriving DecidableEq, Repr

inductive KPixelFormat where
  | rgbMonochrome8bpp
  | rgb565
  | rgb565Le
  | rgb888
  | bgr888
  | argb8888
  | bgra8888
  | butt
  | other (code : Nat)
  deriving DecidableEq, Repr

def lvK230MapColorFormatToPixelSize (colorFormat : LvColorFormat) : Nat :=
  match colorFormat with
  | .l8 => 1
  | .al88 | .rgb565 => 2
  | .rgb888 | .rgb565a8 => 3
  | .argb8888 | .xrgb8888 => 4
  | .other _ => 0

def lvK230MapColorFormatToPixelFormat (colorFormat : LvColorFormat) : KPixelFormat :=
  match colorFormat with
  | .l8 => .rgbMonochrome8bpp
  | .rgb565 => .rgb565Le
  | .rgb888 => .bgr888
  | .argb8888 | .xrgb8888 => .argb8888
  | .al88 | .rgb565a8 | .other _ => .butt

def lvK230OsdLayerPixelFmtBpp (pixelFmt : KPixelFormat) : Nat :=
  match pixelFmt with
  | .rgbMonochrome8bpp => 1
  | .rgb565 | .rgb565Le => 2
  | .rgb888 | .bgr888 => 3
  | .argb8888 | .bgra8888 => 4
  | .butt | .other _ => 0

structure KVoLayerAttr where
  layerId : Nat
  positionX : Nat
  positionY : Nat
  width : Nat
  height : Nat
  pixelFormat : KPixelFormat
  globalAlpha : Nat
  func : Nat
  rotBufNr : Nat
  rotBufBpp : Nat
  deriving DecidableEq, Repr

structure KVideoFrameInfo where
  poolId : Option Nat
  width : Nat
  height : Nat
  stride : Nat
  pixelFormat : KPixelFormat
  physAddr : Nat
  deriving DecidableEq, Repr

structure LvDrawBuf where
  width : Nat
  height : Nat
  colorFormat : LvColorFormat
  stride : Nat
  data : Option Nat
  dataSize : Nat
  deriving DecidableEq, Repr

structure Rows where
  valid : Bool
  y1 : Int
  y2 : Int
  deriving DecidableEq, Repr

structure LvK230DisplayBuffer where
  bufferAddr : Option Nat
  bufferSize : Nat
  dataSize : Nat
  blockHandle : Option Nat
  vfInfo : KVideoFrameInfo
  drawBuf : LvDrawBuf
  syncRows : Rows
  deriving DecidableEq, Repr

/-
A buffer after the `memset`, with its handle invalid.
-/
def LvK230DisplayBuffer.empty : LvK230DisplayBuffer :=
  {
    bufferAddr := none
    bufferSize := 0
    dataSize := 0
    blockHandle := none
    vfInfo := ⟨some 0, 0, 0, 0, .other 0, 0⟩
    drawBuf := ⟨0, 0, .other 0, 0, none, 0⟩
    syncRows := ⟨false, 0, 0⟩
  }

structure LvK230DisplayInstance where
  osdLayerAttr : KVoLayerAttr
  colorFormat : LvColorFormat
  bufferPoolId : Option Nat
  buffer : List LvK230DisplayBuffer
  bufferCached : Bool
  lastBuffer : Option Nat
  reconfigureFailed : Bool
  dirtyRows : Rows
  deriving DecidableEq, Repr

/--
What LVGL and the video buffer pool compute: `lv_draw_buf_width_to_stride` and `kd_mpi_vb_handle_to_phyaddr`.
-/
structure Platform where
  widthToStride : Nat → LvColorFormat → Nat
  handleToPhyaddr : Nat → Nat

inductive DisplayResource where
  | pool (id : Nat)
  | block (handle : Nat)
  | mapping (addr size : Nat)
  | registration (addr : Nat)
  deriving DecidableEq, Repr

/-
What the calls for one buffer return: `kd_mpi_vb_get_block` and the mapping of the block.
-/
structure BufferCalls where
  block : Option Nat
  addr : Option Nat

/-
Whether each call succeeds.
-/
structure LayerCalls where
  disable : Bool
  setAttr : Bool
  enable : Bool

structure ReconfigureCalls where
  usesVglite : Bool
  pool : Option Nat
  buffer : Nat → BufferCalls
  replace : LayerCalls
  restore : LayerCalls

structure VoLayer where
  enabled : Bool
  attr : Option KVoLayerAttr
  frame : Option KVideoFrameInfo
  deriving DecidableEq, Repr

/-
The refresh timer. LVGL stops it by itself while nothing is invalid.
-/
inductive RefrTimer where
  | running
  | idle
  | paused
  deriving DecidableEq, Repr

structure DisplayPort where
  inst : LvK230DisplayInstance
  timer : RefrTimer
  layer : VoLayer
  drawBuffer : Option Nat
  deriving DecidableEq, Repr

/-
`k_u32` multiplication.
-/
def mulU32 (a b : Nat) : Nat := a * b % 2 ^ 32

def displayStride (platform : Platform) (width : Nat) (colorFormat : LvColorFormat) (bpp : Nat) : Nat :=
  let stride := platform.widthToStride width colorFormat
  if stride = 0 then mulU32 width bpp else stride

namespace LvK230DisplayBuffer

def allocateSingle (platform : Platform) (buffer : LvK230DisplayBuffer) (bufferSize : Nat)
    (calls : BufferCalls) : LvK230DisplayBuffer × Bool × List (Transfer DisplayResource) :=
  match calls.block with
  | none => ({ buffer with blockHandle := none }, false, [])
  | some handle =>
    let buffer :=
      {
        buffer with
        blockHandle := some handle
        bufferSize
        vfInfo := { buffer.vfInfo with physAddr := platform.handleToPhyaddr handle }
        bufferAddr := calls.addr
      }
    match calls.addr with
    | none =>
      ({ buffer with blockHandle := none }, false,
        [.acquire (.block handle), .release (.block handle)])
    | some addr =>
      (buffer, true,
        [.acquire (.block handle), .acquire (.mapping addr bufferSize), .acquire (.registration addr)])

def setupFrameInfo (platform : Platform) (inst : LvK230DisplayInstance) (buffer : LvK230DisplayBuffer)
    : LvK230DisplayBuffer :=
  let attr := inst.osdLayerAttr
  let stride := displayStride platform attr.width inst.colorFormat
    (lvK230OsdLayerPixelFmtBpp attr.pixelFormat)
  {
    buffer with
    vfInfo :=
      {
        buffer.vfInfo with
        poolId := inst.bufferPoolId
        width := attr.width
        height := attr.height
        stride
        pixelFormat := attr.pixelFormat
      }
    dataSize := mulU32 stride attr.height
    drawBuf := ⟨attr.width, attr.height, inst.colorFormat, stride, buffer.bufferAddr, buffer.bufferSize⟩
  }

def deinit (buffer : LvK230DisplayBuffer) : LvK230DisplayBuffer × List (Transfer DisplayResource) :=
  let unmap :=
    match buffer.bufferAddr with
    | some addr => [.release (.registration addr), .release (.mapping addr buffer.bufferSize)]
    | none => []
  let release :=
    match buffer.blockHandle with
    | some handle => [.release (.block handle)]
    | none => []
  ({ buffer with bufferAddr := none, blockHandle := none }, unmap ++ release)

end LvK230DisplayBuffer

/-
The loop over the buffers, which stops at the first one that cannot be allocated.
-/
def allocateBuffers (platform : Platform) (replacement : LvK230DisplayInstance) (bufferSize : Nat)
    (calls : Nat → BufferCalls) (i : Nat) (buffers : List LvK230DisplayBuffer)
    : List LvK230DisplayBuffer × Bool × List (Transfer DisplayResource) :=
  match buffers with
  | [] => ([], true, [])
  | buffer :: rest =>
    let (buffer, ok, ts) := buffer.allocateSingle platform bufferSize (calls i)
    if !ok then
      (buffer :: rest, false, ts)
    else
      let buffer := buffer.setupFrameInfo platform replacement
      let (rest, ok, us) := allocateBuffers platform replacement bufferSize calls (i + 1) rest
      (buffer :: rest, ok, ts ++ us)

/-
The copy of the instance that the new buffers go into.
-/
def LvK230DisplayInstance.replacement (inst : LvK230DisplayInstance) (colorFormat : LvColorFormat)
    (usesVglite : Bool) (poolId : Nat) : LvK230DisplayInstance :=
  {
    inst with
    colorFormat
    osdLayerAttr :=
      { inst.osdLayerAttr with pixelFormat := lvK230MapColorFormatToPixelFormat colorFormat }
    buffer := inst.buffer.map fun _ => .empty
    bufferCached := !usesVglite
    bufferPoolId := some poolId
  }

def LvK230DisplayInstance.allocate (platform : Platform) (replacement : LvK230DisplayInstance)
    (bufferSize : Nat) (calls : Nat → BufferCalls)
    : LvK230DisplayInstance × Bool × List (Transfer DisplayResource) :=
  let (buffer, ok, ts) := allocateBuffers platform replacement bufferSize calls 0 replacement.buffer
  ({ replacement with buffer }, ok, ts)

def k230DisplayBufferDeinit (inst : LvK230DisplayInstance)
    : LvK230DisplayInstance × List (Transfer DisplayResource) :=
  let destroy :=
    match inst.bufferPoolId with
    | some id => [.release (.pool id)]
    | none => []
  ({ inst with buffer := inst.buffer.map (·.deinit.1), bufferPoolId := none },
    inst.buffer.flatMap (·.deinit.2) ++ destroy)

def k230DisplayConfigureOsd (layer : VoLayer) (attr : KVoLayerAttr) (calls : LayerCalls)
    : VoLayer × Bool :=
  if !calls.disable then
    (layer, false)
  else
    let layer := { layer with enabled := false }
    if !calls.setAttr then
      (layer, false)
    else
      let layer := { layer with attr := some attr }
      if !calls.enable then
        (layer, false)
      else
        ({ layer with enabled := true }, true)

namespace DisplayPort

def pushLastFrame (s : DisplayPort) : DisplayPort :=
  match s.inst.lastBuffer.bind (s.inst.buffer[·]?) with
  | some buffer => { s with layer := { s.layer with frame := some buffer.vfInfo } }
  | none => s

/-
After VO has refused the replacement.
-/
def rollback (s : DisplayPort) (calls : LayerCalls) : DisplayPort :=
  if s.inst.bufferPoolId = none then
    s
  else
    let (layer, ok) := k230DisplayConfigureOsd s.layer s.inst.osdLayerAttr calls
    let s := { s with layer }
    if !ok then
      { s with inst := { s.inst with reconfigureFailed := true }, timer := .paused }
    else
      let s := s.pushLastFrame
      if s.inst.reconfigureFailed then
        { s with inst := { s.inst with reconfigureFailed := false }, timer := .running }
      else
        s

/-
LVGL resumes the timer when something is invalidated, and then calls `event_cb` with
`LV_EVENT_REFR_REQUEST`.
-/
def invalidate (s : DisplayPort) : DisplayPort :=
  let s := { s with timer := .running }
  if s.inst.reconfigureFailed then { s with timer := .paused } else s

/-
VO has accepted the replacement.
-/
def replace (s : DisplayPort) (replacement : LvK230DisplayInstance) : DisplayPort :=
  let s :=
    {
      s with
      inst :=
        {
          s.inst with
          colorFormat := replacement.colorFormat
          osdLayerAttr := replacement.osdLayerAttr
          bufferPoolId := replacement.bufferPoolId
          bufferCached := replacement.bufferCached
          buffer := replacement.buffer
          lastBuffer := none
          dirtyRows := { s.inst.dirtyRows with valid := false }
        }
      drawBuffer := some 0
    }
  let s :=
    if s.inst.reconfigureFailed then
      { s with inst := { s.inst with reconfigureFailed := false }, timer := .running }
    else
      s
  s.invalidate

/-
The return value, and what has been acquired and released.
-/
structure Outcome where
  ret : Int
  transfers : List (Transfer DisplayResource)
  deriving DecidableEq, Repr

def k230DisplayReconfigure (platform : Platform) (s : DisplayPort) (colorFormat : LvColorFormat)
    (calls : ReconfigureCalls) : DisplayPort × Outcome :=
  let inst := s.inst
  let stride := displayStride platform inst.osdLayerAttr.width colorFormat
    (lvK230MapColorFormatToPixelSize colorFormat)
  let bufferSize := mulU32 stride inst.osdLayerAttr.height
  if bufferSize = 0 then
    (s, ⟨-1, []⟩)
  else
    match calls.pool with
    | none => (s, ⟨-1, []⟩)
    | some id =>
      let replacement := inst.replacement colorFormat calls.usesVglite id
      let (replacement, ok, ts) := replacement.allocate platform bufferSize calls.buffer
      let ts := .acquire (.pool id) :: ts
      if !ok then
        (s, ⟨-1, ts ++ (k230DisplayBufferDeinit replacement).2⟩)
      else
        let (layer, ok) := k230DisplayConfigureOsd s.layer replacement.osdLayerAttr calls.replace
        let s := { s with layer }
        if !ok then
          (s.rollback calls.restore, ⟨-1, ts ++ (k230DisplayBufferDeinit replacement).2⟩)
        else
          let us := if inst.bufferPoolId = none then [] else (k230DisplayBufferDeinit inst).2
          (s.replace replacement, ⟨0, ts ++ us⟩)

end DisplayPort

/-
A call, and what happens to the display between two calls: something is invalidated, LVGL stops its timer
because nothing is, or a frame is rendered and flushed.
-/
inductive DisplayPortEvent where
  | reconfigure (colorFormat : LvColorFormat) (calls : ReconfigureCalls)
  | invalidate
  | idle
  | refresh (drawBuffer lastBuffer : Option Nat) (dirtyRows : Rows) (syncRows : Nat → Rows)

def displayPortMachine (platform : Platform)
    : Machine DisplayPort DisplayPortEvent (Option DisplayPort.Outcome) where
  step s event :=
    match event with
    | .reconfigure colorFormat calls =>
      let (s, outcome) := s.k230DisplayReconfigure platform colorFormat calls
      (s, some outcome)
    | .invalidate => (s.invalidate, none)
    | .idle => (if s.timer = .running then { s with timer := .idle } else s, none)
    | .refresh drawBuffer lastBuffer dirtyRows syncRows =>
      let buffer := s.inst.buffer.mapIdx fun i buffer => { buffer with syncRows := syncRows i }
      let s := { s with inst := { s.inst with lastBuffer, dirtyRows, buffer }, drawBuffer }
      (s.pushLastFrame, none)

/-
The display of `lv_k230_display_create` before its buffers are allocated.
-/
def DisplayPort.create (attr : KVoLayerAttr) (colorFormat : LvColorFormat) (layer : VoLayer)
    : DisplayPort :=
  {
    inst :=
      {
        osdLayerAttr := attr
        colorFormat
        bufferPoolId := none
        buffer := List.replicate 3 .empty
        bufferCached := false
        lastBuffer := none
        reconfigureFailed := false
        dirtyRows := ⟨false, 0, 0⟩
      }
    timer := .running
    layer
    drawBuffer := none
  }

abbrev DisplayPortVisit := Machine.Visit DisplayPort DisplayPortEvent (Option DisplayPort.Outcome)

/-
VO shows what the instance says.
-/
def DisplayPort.Shown (s : DisplayPort) : Prop :=
  s.layer.enabled = true ∧ s.layer.attr = some s.inst.osdLayerAttr

/--
The call starts with nothing of its own and ends with nothing of its own, and all that it has changed of the
instance is whether the reconfiguration has failed.
-/
structure Contained (v : DisplayPortVisit) (transfers : List (Transfer DisplayResource)) : Prop where
  inst : v.post.inst = { v.pre.inst with reconfigureFailed := v.post.inst.reconfigureFailed }
  released : Ledger.settle 0 transfers = some 0
  timer : v.post.timer = .paused ↔ v.post.inst.reconfigureFailed = true
  shown : v.pre.inst.bufferPoolId ≠ none → v.post.inst.reconfigureFailed = false → v.post.Shown

def FailureContained (v : DisplayPortVisit) : Prop :=
  ∀ outcome, v.obs = some outcome → outcome.ret = -1 → Contained v outcome.transfers

def LvK230DisplayBuffer.owned (buffer : LvK230DisplayBuffer) : Multiset DisplayResource :=
  (match buffer.bufferAddr with
    | some addr => {.registration addr, .mapping addr buffer.bufferSize}
    | none => 0)
  + (match buffer.blockHandle with
    | some handle => {.block handle}
    | none => 0)

def buffersOwned (buffers : List LvK230DisplayBuffer) : Multiset DisplayResource :=
  (buffers.map (·.owned)).sum

def LvK230DisplayInstance.owned (inst : LvK230DisplayInstance) : Multiset DisplayResource :=
  buffersOwned inst.buffer
  + (match inst.bufferPoolId with
    | some id => {.pool id}
    | none => 0)

@[simp]
theorem buffersOwned_nil : buffersOwned [] = 0 := rfl

@[simp]
theorem buffersOwned_cons (buffer : LvK230DisplayBuffer) (buffers : List LvK230DisplayBuffer)
    : buffersOwned (buffer :: buffers) = buffer.owned + buffersOwned buffers := by
  simp [buffersOwned]

namespace LvK230DisplayBuffer

theorem deinit_settle (buffer : LvK230DisplayBuffer) (rest : Multiset DisplayResource)
    : Ledger.settle (buffer.owned + rest) buffer.deinit.2 = some rest := by
  unfold owned deinit
  cases buffer.bufferAddr with
  | none =>
    cases buffer.blockHandle with
    | none => simp
    | some handle => simp
  | some addr =>
    cases buffer.blockHandle with
    | none => simp
    | some handle => simp

theorem allocateSingle_settle (platform : Platform) {buffer : LvK230DisplayBuffer}
    (haddr : buffer.bufferAddr = none) (bufferSize : Nat) (calls : BufferCalls)
    (held : Multiset DisplayResource)
    : Ledger.settle held (buffer.allocateSingle platform bufferSize calls).2.2
        = some ((buffer.allocateSingle platform bufferSize calls).1.owned + held) := by
  unfold allocateSingle owned
  cases calls.block with
  | none => simp [haddr]
  | some handle =>
    cases calls.addr with
    | none => simp
    | some addr => simp [Multiset.insert_eq_cons]

theorem setupFrameInfo_owned (platform : Platform) (inst : LvK230DisplayInstance)
    (buffer : LvK230DisplayBuffer)
    : (buffer.setupFrameInfo platform inst).owned = buffer.owned := rfl

end LvK230DisplayBuffer

theorem deinit_settle (buffers : List LvK230DisplayBuffer) (rest : Multiset DisplayResource)
    : Ledger.settle (buffersOwned buffers + rest) (buffers.flatMap (·.deinit.2)) = some rest := by
  induction buffers with
  | nil => simp
  | cons buffer buffers ih =>
    rw [List.flatMap_cons, buffersOwned_cons, Multiset.add_assoc, Ledger.settle_seq (buffer.deinit_settle _)]
    exact ih

theorem k230DisplayBufferDeinit_settle (inst : LvK230DisplayInstance)
    (rest : Multiset DisplayResource)
    : Ledger.settle (inst.owned + rest) (k230DisplayBufferDeinit inst).2 = some rest := by
  unfold k230DisplayBufferDeinit LvK230DisplayInstance.owned
  rw [Multiset.add_assoc, Ledger.settle_seq (deinit_settle inst.buffer _)]
  cases inst.bufferPoolId with
  | none => simp
  | some id => simp

theorem buffersOwned_empty {buffers : List LvK230DisplayBuffer}
    (hbuffers : ∀ buffer ∈ buffers, buffer = .empty)
    : buffersOwned buffers = 0 := by
  induction buffers with
  | nil => rfl
  | cons buffer rest ih =>
    obtain ⟨rfl, hrest⟩ := List.forall_mem_cons.mp hbuffers
    rw [buffersOwned_cons, ih hrest]
    rfl

theorem allocateBuffers_settle (platform : Platform) (replacement : LvK230DisplayInstance)
    (bufferSize : Nat) (calls : Nat → BufferCalls) {i : Nat} {buffers : List LvK230DisplayBuffer}
    (hbuffers : ∀ buffer ∈ buffers, buffer = .empty) (held : Multiset DisplayResource)
    : Ledger.settle held (allocateBuffers platform replacement bufferSize calls i buffers).2.2
        = some (buffersOwned (allocateBuffers platform replacement bufferSize calls i buffers).1
            + held) := by
  induction buffers generalizing i held with
  | nil => simp [allocateBuffers]
  | cons buffer rest ih =>
    obtain ⟨rfl, hrest⟩ := List.forall_mem_cons.mp hbuffers
    have hfirst := @LvK230DisplayBuffer.allocateSingle_settle platform .empty rfl bufferSize
      (calls i) held
    unfold allocateBuffers
    generalize LvK230DisplayBuffer.empty.allocateSingle platform bufferSize (calls i) = first at hfirst
    obtain ⟨buffer, ok, ts⟩ := first
    dsimp only at hfirst ⊢
    cases ok with
    | false =>
      simp only [Bool.not_false, ↓reduceIte]
      rw [hfirst, buffersOwned_cons, buffersOwned_empty hrest, Multiset.add_zero]
    | true =>
      have hnext := ih hrest (i := i + 1) (buffer.owned + held)
      generalize allocateBuffers platform replacement bufferSize calls (i + 1) rest = others at hnext
      obtain ⟨others, ok, us⟩ := others
      simp only [Bool.not_true, Bool.false_eq_true, ↓reduceIte] at hnext ⊢
      rw [Ledger.settle_seq hfirst, hnext, buffersOwned_cons,
        LvK230DisplayBuffer.setupFrameInfo_owned]
      rw [← Multiset.add_assoc, Multiset.add_comm (buffersOwned others)]

theorem allocate_settle (platform : Platform) (inst : LvK230DisplayInstance)
    (colorFormat : LvColorFormat) (usesVglite : Bool) (poolId bufferSize : Nat)
    (calls : Nat → BufferCalls) {replacement : LvK230DisplayInstance} {ok : Bool}
    {ts : List (Transfer DisplayResource)}
    (h : (inst.replacement colorFormat usesVglite poolId).allocate platform bufferSize calls
      = (replacement, ok, ts))
    : Ledger.settle {.pool poolId} ts = some replacement.owned
        ∧ replacement.bufferPoolId = some poolId := by
  simp only [LvK230DisplayInstance.allocate, Prod.mk.injEq] at h
  obtain ⟨rfl, -, rfl⟩ := h
  refine ⟨?_, rfl⟩
  apply allocateBuffers_settle
  intro buffer hbuffer
  obtain ⟨_, _, rfl⟩ := List.mem_map.mp hbuffer
  rfl

/-
Failing calls leave the layer as it is, so what counts is the call that succeeds last.
-/
theorem k230DisplayConfigureOsd_ok {layer layer' : VoLayer} {attr : KVoLayerAttr} {calls : LayerCalls}
    (h : k230DisplayConfigureOsd layer attr calls = (layer', true))
    : layer'.enabled = true ∧ layer'.attr = some attr := by
  unfold k230DisplayConfigureOsd at h
  cases hdisable : calls.disable with
  | false => simp [hdisable] at h
  | true =>
    cases hset : calls.setAttr with
    | false => simp [hdisable, hset] at h
    | true =>
      cases henable : calls.enable with
      | false => simp [hdisable, hset, henable] at h
      | true =>
        simp only [hdisable, hset, henable, Bool.not_true, Bool.false_eq_true, ↓reduceIte,
          Prod.mk.injEq, and_true] at h
        rw [← h]
        exact ⟨rfl, rfl⟩

namespace DisplayPort

theorem pushLastFrame_same (s : DisplayPort)
    : s.pushLastFrame.inst = s.inst ∧ s.pushLastFrame.timer = s.timer
        ∧ s.pushLastFrame.layer.enabled = s.layer.enabled
        ∧ s.pushLastFrame.layer.attr = s.layer.attr := by
  unfold pushLastFrame
  cases s.inst.lastBuffer.bind (s.inst.buffer[·]?) with
  | none => exact ⟨rfl, rfl, rfl, rfl⟩
  | some buffer => exact ⟨rfl, rfl, rfl, rfl⟩

/-
What holds between two calls.
-/
structure Steady (s : DisplayPort) : Prop where
  timer : s.timer = .paused ↔ s.inst.reconfigureFailed = true
  shown : s.inst.bufferPoolId ≠ none → s.inst.reconfigureFailed = false → s.Shown
  failed : s.inst.bufferPoolId = none → s.inst.reconfigureFailed = false
  unallocated : s.inst.bufferPoolId = none → buffersOwned s.inst.buffer = 0

/--
A call is refused before VO is asked, or VO refuses the replacement, or VO accepts it. In the first two
cases the replacement is gone again.
-/
theorem k230DisplayReconfigure_cases (platform : Platform) (s : DisplayPort)
    (colorFormat : LvColorFormat) (calls : ReconfigureCalls)
    : (∃ ts, Ledger.settle 0 ts = some 0
          ∧ s.k230DisplayReconfigure platform colorFormat calls = (s, ⟨-1, ts⟩))
        ∨ (∃ layer ts, Ledger.settle 0 ts = some 0
          ∧ s.k230DisplayReconfigure platform colorFormat calls
              = (rollback { s with layer } calls.restore, ⟨-1, ts⟩))
        ∨ (∃ layer replacement ts us, Ledger.settle 0 ts = some replacement.owned
          ∧ us = (if s.inst.bufferPoolId = none then [] else (k230DisplayBufferDeinit s.inst).2)
          ∧ layer.enabled = true ∧ layer.attr = some replacement.osdLayerAttr
          ∧ replacement.bufferPoolId ≠ none
          ∧ s.k230DisplayReconfigure platform colorFormat calls
              = (replace { s with layer } replacement, ⟨0, ts ++ us⟩)) := by
  unfold k230DisplayReconfigure
  dsimp only
  split
  . exact .inl ⟨[], rfl, rfl⟩
  . cases calls.pool with
    | none => exact .inl ⟨[], rfl, rfl⟩
    | some id =>
      dsimp only
      generalize hallocate : LvK230DisplayInstance.allocate _ _ _ _ = allocated
      obtain ⟨replacement, ok, ts⟩ := allocated
      obtain ⟨hsettle, hpool⟩ := allocate_settle platform s.inst colorFormat calls.usesVglite id _ _
        hallocate
      have hgone : Ledger.settle 0
          (.acquire (.pool id) :: ts ++ (k230DisplayBufferDeinit replacement).2) = some 0 := by
        rw [List.cons_append, Ledger.settle_acquire_cons]
        rw [show DisplayResource.pool id ::ₘ 0 = {.pool id} from rfl, Ledger.settle_seq hsettle]
        simpa using k230DisplayBufferDeinit_settle replacement 0
      dsimp only
      cases ok with
      | false => exact .inl ⟨_, hgone, rfl⟩
      | true =>
        simp only [Bool.not_true, Bool.false_eq_true, ↓reduceIte]
        generalize hconfigure : k230DisplayConfigureOsd s.layer replacement.osdLayerAttr calls.replace
          = configured
        obtain ⟨layer, ok⟩ := configured
        dsimp only
        cases ok with
        | false => exact .inr (.inl ⟨layer, _, hgone, rfl⟩)
        | true =>
          obtain ⟨henabled, hattr⟩ := k230DisplayConfigureOsd_ok hconfigure
          refine .inr (.inr ⟨layer, replacement, _, _, ?_, rfl, henabled, hattr, ?_, rfl⟩)
          . exact hsettle
          . rw [hpool]
            exact Option.some_ne_none id

/-
What a failed call may change.
-/
structure FlagOnly (s s' : DisplayPort) : Prop where
  inst : s'.inst = { s.inst with reconfigureFailed := s'.inst.reconfigureFailed }
  timer : s'.timer = .paused ↔ s'.inst.reconfigureFailed = true
  shown : s.inst.bufferPoolId ≠ none → s'.inst.reconfigureFailed = false → s'.Shown
  failed : s.inst.bufferPoolId = none → s'.inst.reconfigureFailed = false

theorem Steady.flagOnly {s : DisplayPort} (hs : s.Steady) : FlagOnly s s :=
  ⟨rfl, hs.timer, hs.shown, hs.failed⟩

theorem FlagOnly.steady {s s' : DisplayPort} (h : FlagOnly s s') (hs : s.Steady) : s'.Steady := by
  have hpool : s'.inst.bufferPoolId = s.inst.bufferPoolId := by
    rw [h.inst]
  have hbuffer : s'.inst.buffer = s.inst.buffer := by
    rw [h.inst]
  constructor
  . exact h.timer
  . rw [hpool]
    exact h.shown
  . rw [hpool]
    exact h.failed
  . rw [hpool, hbuffer]
    exact hs.unallocated

theorem FlagOnly.owned {s s' : DisplayPort} (h : FlagOnly s s') : s'.inst.owned = s.inst.owned := by
  rw [h.inst]
  rfl

theorem Steady.rollback {s : DisplayPort} (hs : s.Steady) (layer : VoLayer) (calls : LayerCalls)
    : FlagOnly s (rollback { s with layer } calls) := by
  unfold DisplayPort.rollback
  dsimp only
  split
  . next hpool => exact ⟨rfl, hs.timer, fun h => absurd hpool h, hs.failed⟩
  . next hpool =>
    generalize hconfigure : k230DisplayConfigureOsd layer s.inst.osdLayerAttr calls = configured
    obtain ⟨layer', ok⟩ := configured
    cases ok with
    | false =>
      refine ⟨rfl, ?_, ?_, fun h => absurd h hpool⟩
      . simp
      . simp
    | true =>
      have hshown := k230DisplayConfigureOsd_ok hconfigure
      dsimp only
      simp only [Bool.not_true, Bool.false_eq_true, ↓reduceIte]
      have hsame := pushLastFrame_same { s with layer := layer' }
      generalize pushLastFrame { s with layer := layer' } = pushed at hsame
      obtain ⟨hinst, htimer, henabled, hattr⟩ := hsame
      have hpushed : pushed.layer.enabled = true ∧ pushed.layer.attr = some s.inst.osdLayerAttr :=
        ⟨henabled.trans hshown.1, hattr.trans hshown.2⟩
      rw [hinst]
      dsimp only
      split
      . exact ⟨rfl, by simp, fun _ _ => hpushed, fun _ => rfl⟩
      . next hfailed =>
        rw [Bool.not_eq_true] at hfailed
        refine ⟨?_, ?_, ?_, ?_⟩
        . rw [hinst]
        . rw [htimer, hinst]
          exact hs.timer
        . intro _ _
          unfold Shown
          rw [hinst]
          exact hpushed
        . intro _
          rw [hinst]
          exact hfailed

/-
Whether it was paused or not, the timer runs after the invalidation.
-/
theorem replace_eq (s : DisplayPort) (replacement : LvK230DisplayInstance)
    : s.replace replacement
        = {
            s with
            inst :=
              {
                replacement with
                lastBuffer := none
                dirtyRows := { s.inst.dirtyRows with valid := false }
                reconfigureFailed := false
              }
            timer := .running
            drawBuffer := some 0
          } := by
  unfold replace invalidate
  cases hfailed : s.inst.reconfigureFailed with
  | false => simp [hfailed]
  | true => simp [hfailed]

theorem replace_steady {s : DisplayPort} {replacement : LvK230DisplayInstance}
    (henabled : s.layer.enabled = true) (hattr : s.layer.attr = some replacement.osdLayerAttr)
    (hpool : replacement.bufferPoolId ≠ none)
    : (s.replace replacement).Steady := by
  rw [replace_eq]
  constructor
  . simp
  . intro _ _
    exact ⟨henabled, hattr⟩
  . intro h
    exact absurd h hpool
  . intro h
    exact absurd h hpool

theorem replace_owned (s : DisplayPort) (replacement : LvK230DisplayInstance)
    : (s.replace replacement).inst.owned = replacement.owned := by
  rw [replace_eq]
  rfl

theorem Steady.invalidate {s : DisplayPort} (hs : s.Steady)
    : s.invalidate.Steady ∧ s.invalidate.inst = s.inst := by
  unfold DisplayPort.invalidate
  dsimp only
  cases hfailed : s.inst.reconfigureFailed with
  | false => exact ⟨⟨by simp [hfailed], hs.shown, hs.failed, hs.unallocated⟩, rfl⟩
  | true => exact ⟨⟨by simp [hfailed], hs.shown, hs.failed, hs.unallocated⟩, rfl⟩

theorem Steady.idle {s : DisplayPort} (hs : s.Steady) (htimer : s.timer = .running)
    : ({ s with timer := .idle } : DisplayPort).Steady := by
  have hfailed : ¬s.inst.reconfigureFailed = true := by
    rw [← hs.timer, htimer]
    decide
  exact ⟨by simp [hfailed], hs.shown, hs.failed, hs.unallocated⟩

end DisplayPort

/-
The sync rows of a buffer are no resource.
-/
theorem buffersOwned_syncRows (buffers : List LvK230DisplayBuffer) (syncRows : Nat → Rows)
    : buffersOwned (buffers.mapIdx fun i buffer => { buffer with syncRows := syncRows i })
        = buffersOwned buffers := by
  induction buffers generalizing syncRows with
  | nil => rfl
  | cons buffer buffers ih =>
    rw [List.mapIdx_cons, buffersOwned_cons, buffersOwned_cons]
    exact congrArg (buffer.owned + ·) (ih fun i => syncRows (i + 1))

namespace DisplayPort

theorem Steady.refresh {s : DisplayPort} (hs : s.Steady) (drawBuffer lastBuffer : Option Nat)
    (dirtyRows : Rows) (syncRows : Nat → Rows) {buffer : List LvK230DisplayBuffer}
    (hbuffer : buffer = s.inst.buffer.mapIdx fun i buffer => { buffer with syncRows := syncRows i })
    : (pushLastFrame
          { s with inst := { s.inst with lastBuffer, dirtyRows, buffer }, drawBuffer }).Steady := by
  have howned : buffersOwned buffer = buffersOwned s.inst.buffer := by
    rw [hbuffer, buffersOwned_syncRows]
  have hsame := pushLastFrame_same
    { s with inst := { s.inst with lastBuffer, dirtyRows, buffer }, drawBuffer }
  generalize pushLastFrame _ = pushed at hsame
  obtain ⟨hinst, htimer, henabled, hattr⟩ := hsame
  constructor
  . rw [hinst, htimer]
    exact hs.timer
  . unfold Shown
    rw [hinst, henabled, hattr]
    exact hs.shown
  . rw [hinst]
    exact hs.failed
  . rw [hinst, howned]
    exact hs.unallocated

end DisplayPort

theorem DisplayPort.create_steady (attr : KVoLayerAttr) (colorFormat : LvColorFormat) (layer : VoLayer)
    : (DisplayPort.create attr colorFormat layer).Steady := by
  constructor
  . simp [create]
  . intro h
    exact absurd rfl h
  . intro _
    rfl
  . intro _
    rfl

section

variable {platform : Platform} {s : DisplayPort}

theorem DisplayPort.Steady.reconfigure (hs : s.Steady) (colorFormat : LvColorFormat)
    (calls : ReconfigureCalls)
    : (s.k230DisplayReconfigure platform colorFormat calls).1.Steady
        ∧ ((s.k230DisplayReconfigure platform colorFormat calls).2.ret = -1 →
            FlagOnly s (s.k230DisplayReconfigure platform colorFormat calls).1
              ∧ Ledger.settle 0 (s.k230DisplayReconfigure platform colorFormat calls).2.transfers
                = some 0) := by
  have hcases := k230DisplayReconfigure_cases platform s colorFormat calls
  generalize s.k230DisplayReconfigure platform colorFormat calls = result at hcases
  rcases hcases with ⟨ts, hts, rfl⟩ | ⟨layer, ts, hts, rfl⟩
    | ⟨layer, replacement, ts, us, -, -, henabled, hattr, hpool, rfl⟩
  . exact ⟨hs, fun _ => ⟨hs.flagOnly, hts⟩⟩
  . have hflag := hs.rollback layer calls.restore
    exact ⟨hflag.steady hs, fun _ => ⟨hflag, hts⟩⟩
  . refine ⟨replace_steady henabled hattr hpool, ?_⟩
    intro h
    exact absurd (show (0 : Int) = -1 from h) (by decide)

theorem DisplayPort.Steady.reconfigure_owned (hs : s.Steady) (colorFormat : LvColorFormat)
    (calls : ReconfigureCalls)
    : Ledger.settle s.inst.owned (s.k230DisplayReconfigure platform colorFormat calls).2.transfers
        = some (s.k230DisplayReconfigure platform colorFormat calls).1.inst.owned := by
  have hcases := k230DisplayReconfigure_cases platform s colorFormat calls
  generalize s.k230DisplayReconfigure platform colorFormat calls = result at hcases
  rcases hcases with ⟨ts, hts, rfl⟩ | ⟨layer, ts, hts, rfl⟩
    | ⟨layer, replacement, ts, us, hts, hus, -, -, -, rfl⟩
  . simpa using Ledger.settle_add hts s.inst.owned
  . dsimp only
    rw [(hs.rollback layer calls.restore).owned]
    simpa using Ledger.settle_add hts s.inst.owned
  . have hboth := Ledger.settle_add hts s.inst.owned
    rw [Multiset.zero_add] at hboth
    dsimp only
    rw [Ledger.settle_seq hboth, replace_owned, hus]
    split
    . next hpool =>
      have howned : s.inst.owned = 0 := by
        unfold LvK230DisplayInstance.owned
        rw [hs.unallocated hpool, hpool]
        rfl
      rw [howned]
      simp
    . rw [Multiset.add_comm]
      exact k230DisplayBufferDeinit_settle s.inst replacement.owned

theorem DisplayPort.Steady.step (hs : s.Steady) (event : DisplayPortEvent)
    : ((displayPortMachine platform).step s event).1.Steady := by
  cases event with
  | reconfigure colorFormat calls => exact (hs.reconfigure colorFormat calls).1
  | invalidate => exact hs.invalidate.1
  | idle =>
    unfold displayPortMachine
    dsimp only
    split
    . next htimer => exact hs.idle htimer
    . exact hs
  | refresh drawBuffer lastBuffer dirtyRows syncRows =>
    exact hs.refresh drawBuffer lastBuffer dirtyRows syncRows rfl

theorem DisplayPort.Steady.contained (hs : s.Steady) (event : DisplayPortEvent)
    : FailureContained ((displayPortMachine platform).visit s event) := by
  intro outcome hobs hret
  cases event with
  | reconfigure colorFormat calls =>
    obtain ⟨hflag, hts⟩ := (hs.reconfigure colorFormat calls).2
      ((congrArg Outcome.ret (Option.some.inj hobs)).trans hret)
    rw [← Option.some.inj hobs]
    exact ⟨hflag.inst, hts, hflag.timer, hflag.shown⟩
  | invalidate => cases hobs
  | idle => cases hobs
  | refresh drawBuffer lastBuffer dirtyRows syncRows => cases hobs

def visitTransfers (v : DisplayPortVisit) : List (Transfer DisplayResource) :=
  match v.obs with
  | some outcome => outcome.transfers
  | none => []

theorem DisplayPort.Steady.step_owned (hs : s.Steady) (event : DisplayPortEvent)
    : Ledger.settle s.inst.owned
          (visitTransfers ((displayPortMachine platform).visit s event))
        = some ((displayPortMachine platform).step s event).1.inst.owned := by
  cases event with
  | reconfigure colorFormat calls => exact hs.reconfigure_owned colorFormat calls
  | invalidate =>
    show some s.inst.owned = some s.invalidate.inst.owned
    rw [hs.invalidate.2]
  | idle =>
    unfold displayPortMachine
    show some s.inst.owned = some (ite _ _ _ : DisplayPort).inst.owned
    split
    . rfl
    . rfl
  | refresh drawBuffer lastBuffer dirtyRows syncRows =>
    show some s.inst.owned = some (pushLastFrame _).inst.owned
    rw [(pushLastFrame_same _).1]
    unfold LvK230DisplayInstance.owned
    dsimp only
    rw [buffersOwned_syncRows]

/-
At any time in a run the display holds what the instance names, and nothing else.
-/
theorem DisplayPort.Steady.run_owned (platform : Platform) (hs : s.Steady) (events : List DisplayPortEvent)
    : Ledger.settle s.inst.owned
          (((displayPortMachine platform).visits s events).flatMap visitTransfers)
        = some ((displayPortMachine platform).final s events).inst.owned := by
  induction events generalizing s with
  | nil => rfl
  | cons event events ih =>
    rw [Machine.visits_cons, List.flatMap_cons, Ledger.settle_seq (hs.step_owned event)]
    exact ih (hs.step event)

theorem DisplayPort.create_owned (attr : KVoLayerAttr) (colorFormat : LvColorFormat) (layer : VoLayer)
    : (DisplayPort.create attr colorFormat layer).inst.owned = 0 := rfl

end

/--
Whatever the calls return, a display that is deleted after any run has released all that it has acquired.
-/
theorem deleted_released (platform : Platform) (attr : KVoLayerAttr) (colorFormat : LvColorFormat)
    (layer : VoLayer) (events : List DisplayPortEvent) {s : DisplayPort}
    (hs : s = (displayPortMachine platform).final (DisplayPort.create attr colorFormat layer) events)
    : Ledger.settle 0
          (((displayPortMachine platform).visits (DisplayPort.create attr colorFormat layer)
                events).flatMap visitTransfers
            ++ (k230DisplayBufferDeinit s.inst).2)
        = some 0 := by
  have hrun := (DisplayPort.create_steady attr colorFormat layer).run_owned platform events
  rw [← hs, DisplayPort.create_owned] at hrun
  have hdeinit := k230DisplayBufferDeinit_settle s.inst 0
  rw [Multiset.add_zero] at hdeinit
  rw [Ledger.settle_seq hrun]
  exact hdeinit

/--
Whatever the calls return, and whatever happens to the display between them.
-/
theorem failureContained (platform : Platform) (attr : KVoLayerAttr) (colorFormat : LvColorFormat)
    (layer : VoLayer) (events : List DisplayPortEvent)
    : ∀ v ∈ (displayPortMachine platform).visits (DisplayPort.create attr colorFormat layer) events,
        FailureContained v := by
  refine Machine.forall_visits_of_inv DisplayPort.Steady (fun _ => True) ?_ ?_
    (DisplayPort.create_steady attr colorFormat layer) (fun _ _ => trivial)
  . intro s event _ hs
    exact hs.step event
  . intro s event _ hs
    exact hs.contained event

/-
VO takes the first buffers, then refuses the new ones and the restored old ones; an invalidation and a call
without a pool come in between before a third format is accepted.
-/
def refusedReconfigure : List DisplayPortEvent :=
  let buffer := fun i => (⟨some (10 + i), some (4096 * (i + 1))⟩ : BufferCalls)
  let accepted : LayerCalls := ⟨true, true, true⟩
  [
    .reconfigure .argb8888 ⟨false, some 1, buffer, accepted, accepted⟩,
    .reconfigure .rgb565 ⟨false, some 2, buffer, ⟨true, false, true⟩, ⟨true, true, false⟩⟩,
    .invalidate,
    .reconfigure .rgb565 ⟨false, none, buffer, accepted, accepted⟩,
    .reconfigure .rgb565 ⟨false, some 3, fun i => ⟨some i, if i = 0 then some 4096 else none⟩,
      accepted, accepted⟩,
    .reconfigure .rgb888 ⟨true, some 4, buffer, accepted, accepted⟩
  ]

def osdLayerAttr : KVoLayerAttr := ⟨3, 0, 0, 8, 4, .argb8888, 255, 0, 2, 4⟩

theorem refusedReconfigure_contained
    : ((displayPortMachine ⟨fun _ _ => 0, id⟩).visits
            (DisplayPort.create osdLayerAttr .argb8888 ⟨false, none, none⟩) refusedReconfigure).map
          (fun v => (v.obs.map (·.ret), v.post.timer))
          = [(some 0, .running), (some (-1), .paused), (none, .paused), (some (-1), .paused),
              (some (-1), .paused), (some 0, .running)]
        ∧ ∀ v ∈ (displayPortMachine ⟨fun _ _ => 0, id⟩).visits
              (DisplayPort.create osdLayerAttr .argb8888 ⟨false, none, none⟩) refusedReconfigure,
            FailureContained v :=
  ⟨by decide, failureContained _ _ _ _ _⟩

end Lvgl

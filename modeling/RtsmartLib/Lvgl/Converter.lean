import RtsmartLib.Lib.Ledger
import RtsmartLib.Lib.Machine
import RtsmartLib.Lvgl.MppSource

/-!
This module contains the NonAI-2D converter behind the image conversion: how it is made, grown, used and deleted, and
what it takes from the system for that.
-/

namespace Lvgl

open Lib

def cscMinPixels : Nat := 64 * 64

structure CscBufferMap where
  phys : Nat
  virt : Option Nat
deriving DecidableEq

/-
What is looked at of a frame that the converter gives out.
-/
structure CscFrame where
  physAddr : Nat
  width : BitVec 32
  height : BitVec 32
  stride : BitVec 32
  pixelFormat : MppPixelFormat
deriving DecidableEq

/--
A frame of the greatest size fits into the size of the buffers, which is a 32-bit number. An output is held while there
is an `outputFrame`.
-/
structure ImageConverter where
  maxWidth : Nat
  maxHeight : Nat
  frameSize : Nat
  channel : Nat
  poolId : Option Nat
  channelRequested : Bool
  poolAttached : Bool
  channelCreated : Bool
  channelStarted : Bool
  outputFrame : Option CscFrame
  maps : CscBufferMap × CscBufferMap
  frameSize_eq : frameSize = maxWidth * maxHeight * 4
  frameSize_le : frameSize ≤ uint32Max

inductive ConverterResource where
  | memory
  | channel (id : Nat)
  | pool (id : Nat)
  | attachment (channel : Nat)
  | created (channel : Nat)
  | started (channel : Nat)
  | frame (physAddr : Nat)
  | mapping (virt size : Nat)
  | gsdma
deriving DecidableEq

def releaseMap (map : CscBufferMap) (frameSize : Nat) : List (Transfer ConverterResource) :=
  map.virt.toList.map fun virt => .release (.mapping virt frameSize)

def releaseIf (held : Bool) (resource : ConverterResource) : List (Transfer ConverterResource) :=
  if held then [.release resource] else []

def converterReleaseOutput (converter : ImageConverter) : ImageConverter × List (Transfer ConverterResource) :=
  ({ converter with outputFrame := none },
    converter.outputFrame.toList.map fun frame => .release (.frame frame.physAddr))

def converterDelete (converter : ImageConverter) : List (Transfer ConverterResource) :=
  (converterReleaseOutput converter).2
    ++ releaseMap converter.maps.1 converter.frameSize
    ++ releaseMap converter.maps.2 converter.frameSize
    ++ releaseIf converter.channelStarted (.started converter.channel)
    ++ releaseIf converter.poolAttached (.attachment converter.channel)
    ++ releaseIf converter.channelCreated (.created converter.channel)
    ++ (converter.poolId.toList.map fun id => .release (.pool id))
    ++ releaseIf converter.channelRequested (.channel converter.channel)
    ++ [.release .memory]

/--
What the calls return that make a converter.
-/
structure CreateCalls where
  calloc : Bool
  channel : Option Nat
  pool : Option Nat
  attach : Bool
  create : Bool
  start : Bool

def SizeFits (maxWidth maxHeight : Nat) : Prop :=
  maxWidth ≠ 0 ∧ maxHeight ≠ 0 ∧ maxWidth ≤ uint32Max / 4 ∧ maxHeight ≤ uint32Max / (maxWidth * 4)

instance (maxWidth maxHeight : Nat) : Decidable (SizeFits maxWidth maxHeight) :=
  inferInstanceAs (Decidable (_ ∧ _ ∧ _ ∧ _))

theorem SizeFits.frameSize_le {maxWidth maxHeight : Nat} (h : SizeFits maxWidth maxHeight)
    : maxWidth * maxHeight * 4 ≤ uint32Max := by
  rw [Nat.mul_comm maxWidth maxHeight, Nat.mul_assoc]
  exact Nat.mul_le_of_le_div _ _ _ h.2.2.2

/-
A converter after `calloc`, with its size set and its pool invalid.
-/
def ImageConverter.blank {maxWidth maxHeight : Nat} (h : SizeFits maxWidth maxHeight) : ImageConverter where
  maxWidth := maxWidth
  maxHeight := maxHeight
  frameSize := maxWidth * maxHeight * 4
  channel := 0
  poolId := none
  channelRequested := false
  poolAttached := false
  channelCreated := false
  channelStarted := false
  outputFrame := none
  maps := (⟨0, none⟩, ⟨0, none⟩)
  frameSize_eq := rfl
  frameSize_le := h.frameSize_le

/-
The calls on a converter that has its memory, up to the first one that fails.
-/
def converterSetup (converter : ImageConverter) (calls : CreateCalls)
    : ImageConverter × List (Transfer ConverterResource) × Bool :=
  match calls.channel with
  | none => (converter, [], false)
  | some channel =>
    let converter := { converter with channel, channelRequested := true }
    match calls.pool with
    | none => (converter, [.acquire (.channel channel)], false)
    | some id =>
      let converter := { converter with poolId := some id }
      if calls.attach = false then
        (converter, [.acquire (.channel channel), .acquire (.pool id)], false)
      else
        let converter := { converter with poolAttached := true }
        if calls.create = false then
          (converter, [.acquire (.channel channel), .acquire (.pool id), .acquire (.attachment channel)], false)
        else
          let converter := { converter with channelCreated := true }
          if calls.start = false then
            (converter,
              [.acquire (.channel channel), .acquire (.pool id), .acquire (.attachment channel),
                .acquire (.created channel)], false)
          else
            ({ converter with channelStarted := true },
              [.acquire (.channel channel), .acquire (.pool id), .acquire (.attachment channel),
                .acquire (.created channel), .acquire (.started channel)], true)

def converterCreate (maxWidth maxHeight : Nat) (calls : CreateCalls)
    : Option ImageConverter × List (Transfer ConverterResource) :=
  if h : SizeFits maxWidth maxHeight then
    if calls.calloc = false then
      (none, [])
    else
      let res := converterSetup (ImageConverter.blank h) calls
      if res.2.2 then
        (some res.1, .acquire .memory :: res.2.1)
      else
        (none, .acquire .memory :: res.2.1 ++ converterDelete res.1)
  else
    (none, [])

inductive CscBackend where
  | none
  | cscSdma
  | cscMemcpy
deriving DecidableEq

/--
The variables of the file that the conversion uses.
-/
structure CscState where
  converter : Option ImageConverter
  gsdmaInited : Bool
  cscInitFailed : Bool
  lastBackend : CscBackend
  copyNeedsFlush : Bool

def CscState.init : CscState :=
  ⟨none, false, false, .none, true⟩

def deleteConverter (converter : Option ImageConverter) : List (Transfer ConverterResource) :=
  match converter with
  | none => []
  | some converter => converterDelete converter

def ensureConverter (s : CscState) (width height : Nat) (calls : CreateCalls)
    : CscState × List (Transfer ConverterResource) × Bool :=
  if s.cscInitFailed then
    (s, [], false)
  else
    match s.converter with
    | none =>
      let res := converterCreate width height calls
      ({ s with converter := res.1, cscInitFailed := res.1.isNone }, res.2, res.1.isSome)
    | some converter =>
      if width ≤ converter.maxWidth ∧ height ≤ converter.maxHeight then
        (s, [], true)
      else
        -- The old converter is deleted first: where the new one cannot be made, there is none.
        let res := converterCreate (max width converter.maxWidth) (max height converter.maxHeight) calls
        ({ s with converter := res.1, cscInitFailed := res.1.isNone }, converterDelete converter ++ res.2,
          res.1.isSome)

/-
The address that a block is mapped at: the one it has been mapped at before, or a new one if there is a map left.
-/
def mapOutput (converter : ImageConverter) (phys : Nat) (mmap : Option Nat)
    : ImageConverter × List (Transfer ConverterResource) × Option Nat :=
  if converter.maps.1.virt.isSome ∧ converter.maps.1.phys = phys then
    (converter, [], converter.maps.1.virt)
  else if converter.maps.2.virt.isSome ∧ converter.maps.2.phys = phys then
    (converter, [], converter.maps.2.virt)
  else
    match mmap with
    | none => (converter, [], none)
    | some virt =>
      if converter.maps.1.virt.isNone then
        ({ converter with maps := (⟨phys, some virt⟩, converter.maps.2) },
          [.acquire (.mapping virt converter.frameSize)], some virt)
      else if converter.maps.2.virt.isNone then
        ({ converter with maps := (converter.maps.1, ⟨phys, some virt⟩) },
          [.acquire (.mapping virt converter.frameSize)], some virt)
      else
        -- Both maps are taken and the call is not made.
        (converter, [], none)

/--
What the calls return that take a frame through the converter.
-/
structure RunCalls where
  sendFrame : Bool
  getFrame : Option CscFrame
  mmap : Option Nat

structure CscOutput where
  phys : Nat
  virt : Nat
  stride : BitVec 32

def converterRun (converter : ImageConverter) (width height : BitVec 32) (calls : RunCalls)
    : ImageConverter × List (Transfer ConverterResource) × Option CscOutput :=
  if converter.outputFrame.isSome ∨ width.toNat > converter.maxWidth ∨ height.toNat > converter.maxHeight then
    (converter, [], none)
  else if calls.sendFrame = false then
    (converter, [], none)
  else
    match calls.getFrame with
    | none => (converter, [], none)
    | some converted =>
      let frame := ConverterResource.frame converted.physAddr
      -- A frame that is refused is given back at once, it has not become the output.
      if converted.pixelFormat ≠ .bgra8888 ∨ converted.width ≠ width ∨ converted.height ≠ height then
        (converter, [.acquire frame, .release frame], none)
      else
        let mapped := mapOutput converter converted.physAddr calls.mmap
        match mapped.2.2 with
        | none => (mapped.1, .acquire frame :: mapped.2.1 ++ [.release frame], none)
        | some virt =>
          ({ mapped.1 with outputFrame := some converted }, .acquire frame :: mapped.2.1,
            some ⟨converted.physAddr, virt, strideOr converted.stride (width * 4)⟩)

/--
What is looked at of the draw buffer to convert into. `phys` is where it is for the hardware, if it can reach it.
-/
structure CscDest where
  colorFormat : MppColorFormat
  stride : BitVec 32
  data : Nat
  phys : Option Nat

/--
A conversion that is asked for, with what it finds in the registry and what its calls return.
-/
structure CscRequest where
  dest : CscDest
  source : MppImage
  registry : MppRegistry
  poolOf : Nat → Option Nat
  width : BitVec 32
  height : BitVec 32
  allowSmall : Bool
  create : CreateCalls
  run : RunCalls
  gsdmaInit : Bool
  sdmaMemcpy : Bool

/--
The copy at the end of a conversion, by DMA or by the processor.
-/
structure CscCopy where
  phys : Nat
  virt : Nat
  destPhys : Nat
  destData : Nat
  bytes : Nat
  sdma : Bool
deriving DecidableEq

structure CscObs where
  transfers : List (Transfer ConverterResource)
  copied : Option CscCopy
deriving DecidableEq

/-
The checks before the converter is needed.
-/
def CscRequest.accepted (request : CscRequest) : Option (MppSource × Nat) :=
  if request.allowSmall = false ∧ request.width.toNat * request.height.toNat < cscMinPixels then
    none
  else if request.dest.colorFormat ≠ .xrgb8888 ∧ request.dest.colorFormat ≠ .argb8888 then
    none
  else
    match resolveMppSource request.registry request.poolOf request.source with
    | none => none
    | some source =>
      if source.format = .rgb565 ∨ source.format = .bgr565 ∨ source.poolId = none
          ∨ request.dest.stride ≠ request.width * 4 then
        none
      else
        request.dest.phys.map fun phys => (source, phys)

/-
`kd_mpi_gsdma_init` is called once it has succeeded no more.
-/
def copyOutput (s : CscState) (request : CscRequest) (destPhys : Nat) (output : CscOutput)
    : CscState × List (Transfer ConverterResource) × CscCopy :=
  let inits := !s.gsdmaInited && request.gsdmaInit
  let inited := s.gsdmaInited || inits
  let sdma := inited && request.sdmaMemcpy
  ({ s with
      gsdmaInited := inited
      lastBackend := if sdma then .cscSdma else .cscMemcpy
      copyNeedsFlush := !sdma },
    if inits then [.acquire .gsdma] else [],
    ⟨output.phys, output.virt, destPhys, request.dest.data, output.stride.toNat * request.height.toNat, sdma⟩)

/-
The converter is there, the frame is taken through it.
-/
def convertWith (s : CscState) (converter : ImageConverter) (request : CscRequest) (destPhys : Nat)
    : CscState × CscObs :=
  let ran := converterRun converter request.width request.height request.run
  let released := converterReleaseOutput ran.1
  match ran.2.2 with
  | none => ({ s with converter := some released.1 }, ⟨ran.2.1 ++ released.2, none⟩)
  | some output =>
    -- All lines are copied at once, so they have to follow each other.
    if output.stride = request.width * 4 then
      let copied := copyOutput { s with converter := some released.1 } request destPhys output
      (copied.1, ⟨ran.2.1 ++ copied.2.1 ++ released.2, some copied.2.2⟩)
    else
      ({ s with converter := some released.1 }, ⟨ran.2.1 ++ released.2, none⟩)

def cscConvertFull (s : CscState) (request : CscRequest) : CscState × CscObs :=
  match request.accepted with
  | none => (s, ⟨[], none⟩)
  | some (_, destPhys) =>
    let ensured := ensureConverter s request.width.toNat request.height.toNat request.create
    match ensured.1.converter with
    | none => (ensured.1, ⟨ensured.2.1, none⟩)
    | some converter =>
      if ensured.2.2 = false then
        (ensured.1, ⟨ensured.2.1, none⟩)
      else
        let res := convertWith ensured.1 converter request destPhys
        (res.1, ⟨ensured.2.1 ++ res.2.transfers, res.2.copied⟩)

def lvK230ImageConvertDeinit (s : CscState) : CscState × CscObs :=
  (CscState.init,
    ⟨deleteConverter s.converter ++ (if s.gsdmaInited then [.release .gsdma] else []), none⟩)

inductive CscEvent where
  | convert (request : CscRequest)
  | deinit

def cscMachine : Machine CscState CscEvent CscObs where
  step s event :=
    match event with
    | .convert request => cscConvertFull s request
    | .deinit => lvK230ImageConvertDeinit s

end Lvgl

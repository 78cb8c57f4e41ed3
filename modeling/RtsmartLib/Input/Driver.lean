import RtsmartLib.Lib.Errno
import Mathlib.Data.List.Basic

/-!
This module contains the input event driver: single events, frames of events, pointer frames, polling
and the reconnect of a lost device.
-/

namespace Input

open Posix

structure InputEvent where
  type : BitVec 16
  code : BitVec 16
  value : BitVec 32
  deriving DecidableEq

def evSyn : BitVec 16 := 0x00#16
def evKey : BitVec 16 := 0x01#16
def evRel : BitVec 16 := 0x02#16
def evAbs : BitVec 16 := 0x03#16

def synReport : BitVec 16 := 0#16

def keyReleased : BitVec 32 := 0#32
def keyPressed : BitVec 32 := 1#32

def relX : BitVec 16 := 0x00#16
def relY : BitVec 16 := 0x01#16
def relHwheel : BitVec 16 := 0x06#16
def relWheel : BitVec 16 := 0x08#16

def absX : BitVec 16 := 0x00#16
def absY : BitVec 16 := 0x01#16
def absPressure : BitVec 16 := 0x18#16

def btnLeft : BitVec 16 := 0x110#16
def btnRight : BitVec 16 := 0x111#16
def btnMiddle : BitVec 16 := 0x112#16
def btnSide : BitVec 16 := 0x113#16
def btnExtra : BitVec 16 := 0x114#16
def btnForward : BitVec 16 := 0x115#16
def btnBack : BitVec 16 := 0x116#16
def btnTouch : BitVec 16 := 0x14a#16

def drvInputIsKeyEvent (event : InputEvent) : Bool := event.type == evKey
def drvInputIsRelEvent (event : InputEvent) : Bool := event.type == evRel
def drvInputIsAbsEvent (event : InputEvent) : Bool := event.type == evAbs
def drvInputIsSyncEvent (event : InputEvent) : Bool :=
  event.type == evSyn && event.code == synReport

def drvInputButtonMask (code : BitVec 16) : BitVec 32 :=
  if code = btnLeft then 1#32 <<< 0
  else if code = btnRight then 1#32 <<< 1
  else if code = btnMiddle then 1#32 <<< 2
  else if code = btnSide then 1#32 <<< 3
  else if code = btnExtra then 1#32 <<< 4
  else if code = btnForward then 1#32 <<< 5
  else if code = btnBack then 1#32 <<< 6
  else if code = btnTouch then 1#32 <<< 7
  else 0#32

def drvInputRetIsDisconnect (ret : Int) : Bool :=
  ret == -enodev || ret == -eio || ret == -enxio

def deviceUnknown : Nat := 0
def deviceMouse : Nat := 2
def deviceTouch : Nat := 3

def drvInputMaxFrameEvents : Nat := 32

def drvInputPollSliceMs : Int := 200

structure DrvInputInfo where
  kind : Nat
  evBits : BitVec 32
  keyBits : BitVec 32
  relBits : BitVec 32
  absBits : BitVec 32
  name : String
  deriving DecidableEq

/-
One `read` of a whole event on an open device: the event, fewer bytes than an event has, or an error.
-/
inductive ReadResult where
  | event (event : InputEvent)
  | short (bytes : Fin 8)
  | error (errno : Errno)
  deriving DecidableEq

inductive PollOnce where
  | error (errno : Errno)
  | hangup
  | idle
  | ready
  deriving DecidableEq

/-
What one slice of a poll meets, and the answer to the query for the device's info after an idle one.
-/
structure PollSlice where
  once : PollOnce
  info : Option DrvInputInfo

/-
What a search for a device meets: the info of each `/dev/input/event%d` that can be opened and answers,
and how the `open` of the one that is found ends.
-/
structure Probe where
  devices : Nat → Option DrvInputInfo
  openError : Option Errno

/-
What the kernel is going to answer. Each open device has a number of its own.
-/
structure InputKernel where
  reads : List ReadResult
  polls : List PollSlice
  probes : List Probe
  nextFd : Nat

structure DrvInputInst where
  fd : Option Nat
  buttonState : BitVec 32
  info : Option DrvInputInfo
  preferredKind : Nat
  autoReconnect : Bool

/-
The instance that `drv_input_inst_create` sets up for a device that it has opened.
-/
def drvInputInstCreate (fd : Nat) : DrvInputInst where
  fd := some fd
  buttonState := 0#32
  info := none
  preferredKind := deviceUnknown
  autoReconnect := false

def drvInputInstMarkDisconnected (inst : DrvInputInst) : DrvInputInst :=
  { inst with fd := none, buttonState := 0#32, info := none }

def drvInputFindFirstByType (probe : Probe) (kind : Nat) : Option DrvInputInfo :=
  (List.range 32).findSome? fun id =>
    match probe.devices id with
    | some info => if info.kind = kind then some info else none
    | none => none

structure InstResult where
  ret : Int
  inst : DrvInputInst
  kernel : InputKernel

def drvInputInstTryReconnect (inst : DrvInputInst) (kernel : InputKernel) : InstResult :=
  if inst.fd.isSome then
    ⟨0, inst, kernel⟩
  else if inst.preferredKind = deviceUnknown then
    ⟨-einval, inst, kernel⟩
  else
    match kernel.probes with
    | [] => ⟨-enoent, inst, kernel⟩
    | probe :: probes =>
      let kernel := { kernel with probes := probes }
      match drvInputFindFirstByType probe inst.preferredKind with
      | none => ⟨-enoent, inst, kernel⟩
      | some info =>
        match probe.openError with
        | some errno => ⟨-errno, inst, kernel⟩
        | none =>
          ⟨0, { inst with fd := some kernel.nextFd, buttonState := 0#32, info := some info },
            { kernel with nextFd := kernel.nextFd + 1 }⟩

def drvInputInstSetAutoReconnect (inst : DrvInputInst) (kind : Nat) : DrvInputInst :=
  { inst with preferredKind := kind, autoReconnect := kind != deviceUnknown }

def drvInputHandleDisconnect (inst : DrvInputInst) (kernel : InputKernel) : InstResult :=
  let inst := drvInputInstMarkDisconnected inst
  if inst.autoReconnect then
    let r := drvInputInstTryReconnect inst kernel
    if r.ret = 0 then r else { r with ret := -enodev }
  else
    ⟨-enodev, inst, kernel⟩

def drvInputGetInfo (inst : DrvInputInst) (answer : Except Errno DrvInputInfo) : Int × DrvInputInst :=
  match inst.fd with
  | none => (-1, inst)
  | some _ =>
    match answer with
    | .error errno => (-errno, inst)
    | .ok info => (0, { inst with info := some info })

/-
An instance whose info has not been read, or is of unknown kind, counts as bound to its path.
-/
def drvInputPathRebound (inst : DrvInputInst) (answer : Option DrvInputInfo) : Bool :=
  match inst.fd, inst.info with
  | none, _ => true
  | some _, none => false
  | some _, some known =>
    if known.kind = deviceUnknown then
      false
    else
      match answer with
      | none => true
      | some info => info != known

def drvInputPollOnce (slice : PollSlice) : Int :=
  match slice.once with
  | .error errno => -errno
  | .hangup => -eio
  | .idle => 0
  | .ready => 1

/-
What a poll returns, if it ends, and the timeouts that it passes to `poll`.
-/
structure PollResult where
  ret : Option Int
  inst : DrvInputInst
  kernel : InputKernel
  waits : List Int

def PollResult.of (r : InstResult) (waits : List Int) : PollResult :=
  ⟨some r.ret, r.inst, r.kernel, waits⟩

/-
How long the next slice waits.
-/
def pollSliceMs (timeoutMs : Int) (remainingMs : Int) : Int :=
  if timeoutMs < 0 then drvInputPollSliceMs
  else if remainingMs > drvInputPollSliceMs then drvInputPollSliceMs
  else remainingMs

/-
The slices of a poll with a timeout. The poll is still waiting where the slices end.
-/
def drvInputPollLoop (inst : DrvInputInst) (kernel : InputKernel) (timeoutMs : Int)
    (remainingMs : Int) (slices : List PollSlice) : PollResult :=
  if timeoutMs < 0 ∨ remainingMs > 0 then
    let sliceMs := pollSliceMs timeoutMs remainingMs
    match slices with
    | [] => ⟨none, inst, { kernel with polls := [] }, [sliceMs]⟩
    | slice :: slices =>
      let ret := drvInputPollOnce slice
      if ret < 0 then
        let kernel := { kernel with polls := slices }
        if drvInputRetIsDisconnect ret then
          .of (drvInputHandleDisconnect inst kernel) [sliceMs]
        else
          ⟨some ret, inst, kernel, [sliceMs]⟩
      else if ret > 0 then
        ⟨some ret, inst, { kernel with polls := slices }, [sliceMs]⟩
      else if drvInputPathRebound inst slice.info then
        .of (drvInputHandleDisconnect inst { kernel with polls := slices }) [sliceMs]
      else
        let r := drvInputPollLoop inst kernel timeoutMs
          (if timeoutMs > 0 then remainingMs - sliceMs else remainingMs) slices
        { r with waits := sliceMs :: r.waits }
  else
    ⟨some 0, inst, { kernel with polls := slices }, []⟩

def drvInputPoll (inst : DrvInputInst) (kernel : InputKernel) (timeoutMs : Int) : PollResult :=
  match inst.fd with
  | none =>
    if inst.autoReconnect then
      let r := drvInputInstTryReconnect inst kernel
      ⟨some (if r.ret = 0 then 1 else -enodev), r.inst, r.kernel, []⟩
    else
      ⟨some (-enodev), inst, kernel, []⟩
  | some _ =>
    if timeoutMs = 0 then
      match kernel.polls with
      | [] => ⟨some 0, inst, kernel, [0]⟩
      | slice :: slices =>
        let kernel := { kernel with polls := slices }
        let ret := drvInputPollOnce slice
        if ret = 0 ∧ drvInputPathRebound inst slice.info = true then
          .of (drvInputHandleDisconnect inst kernel) [0]
        else
          ⟨some ret, inst, kernel, [0]⟩
    else
      drvInputPollLoop inst kernel timeoutMs timeoutMs kernel.polls

structure EventResult where
  ret : Int
  event : InputEvent
  inst : DrvInputInst
  kernel : InputKernel

def emptyEvent : InputEvent := ⟨0#16, 0#16, 0#32⟩

def EventResult.of (r : InstResult) : EventResult :=
  ⟨r.ret, emptyEvent, r.inst, r.kernel⟩

/-
A device that has nothing more to deliver answers with `EAGAIN`.
-/
def drvInputReadEvent (inst : DrvInputInst) (kernel : InputKernel) : EventResult :=
  match inst.fd with
  | none =>
    if inst.autoReconnect then
      let r := drvInputInstTryReconnect inst kernel
      .of (if r.ret = 0 then r else { r with ret := -enodev })
    else
      .of ⟨-enodev, inst, kernel⟩
  | some _ =>
    match kernel.reads with
    | [] => .of ⟨0, inst, kernel⟩
    | read :: reads =>
      let kernel := { kernel with reads := reads }
      match read with
      | .event event => ⟨1, event, inst, kernel⟩
      | .short _ => .of (drvInputHandleDisconnect inst kernel)
      | .error errno =>
        if errno = eagain then
          .of ⟨0, inst, kernel⟩
        else if drvInputRetIsDisconnect (-errno) then
          .of (drvInputHandleDisconnect inst kernel)
        else
          .of ⟨-errno, inst, kernel⟩

structure DrvInputFrame where
  events : List InputEvent
  complete : Bool

structure FrameResult where
  ret : Int
  frame : DrvInputFrame
  inst : DrvInputInst
  kernel : InputKernel

/-
`room` is the number of events for which the frame has space left.
-/
def drvInputReadFrameLoop (room : Nat) (frame : DrvInputFrame) (inst : DrvInputInst)
    (kernel : InputKernel) : FrameResult :=
  match room with
  | 0 => ⟨frame.events.length, frame, inst, kernel⟩
  | room + 1 =>
    let r := drvInputReadEvent inst kernel
    if r.ret < 0 then
      ⟨r.ret, frame, r.inst, r.kernel⟩
    else if r.ret = 0 then
      ⟨frame.events.length, frame, r.inst, r.kernel⟩
    else if drvInputIsSyncEvent r.event then
      ⟨frame.events.length, { frame with complete := true }, r.inst, r.kernel⟩
    else
      drvInputReadFrameLoop room { frame with events := frame.events ++ [r.event] } r.inst r.kernel

def drvInputReadFrame (inst : DrvInputInst) (kernel : InputKernel) : FrameResult :=
  let frame : DrvInputFrame := ⟨[], false⟩
  match inst.fd with
  | none =>
    if inst.autoReconnect then
      let r := drvInputInstTryReconnect inst kernel
      ⟨if r.ret = 0 then 0 else -enodev, frame, r.inst, r.kernel⟩
    else
      ⟨-enodev, frame, inst, kernel⟩
  | some _ => drvInputReadFrameLoop drvInputMaxFrameEvents frame inst kernel

structure DrvPointerFrame where
  complete : Bool
  hasRel : Bool
  hasAbs : Bool
  touchSeen : Bool
  touchDown : Bool
  relX : BitVec 32
  relY : BitVec 32
  wheel : BitVec 32
  hwheel : BitVec 32
  absX : BitVec 32
  absY : BitVec 32
  pressure : BitVec 32
  buttons : BitVec 32
  pressedMask : BitVec 32
  releasedMask : BitVec 32
  deriving DecidableEq

def DrvPointerFrame.zero : DrvPointerFrame where
  complete := false
  hasRel := false
  hasAbs := false
  touchSeen := false
  touchDown := false
  relX := 0#32
  relY := 0#32
  wheel := 0#32
  hwheel := 0#32
  absX := 0#32
  absY := 0#32
  pressure := 0#32
  buttons := 0#32
  pressedMask := 0#32
  releasedMask := 0#32

/-
The body of the loop over the events of a raw frame. It works on the frame and on the instance's
button state.
-/
def pointerFrameEvent (s : DrvPointerFrame × BitVec 32) (event : InputEvent)
    : DrvPointerFrame × BitVec 32 :=
  let (frame, buttonState) := s
  if drvInputIsRelEvent event then
    let frame := { frame with hasRel := true }
    let frame :=
      if event.code = relX then { frame with relX := frame.relX + event.value }
      else if event.code = relY then { frame with relY := frame.relY + event.value }
      else if event.code = relWheel then { frame with wheel := frame.wheel + event.value }
      else if event.code = relHwheel then { frame with hwheel := frame.hwheel + event.value }
      else frame
    (frame, buttonState)
  else if drvInputIsAbsEvent event then
    let frame := { frame with hasAbs := true }
    let frame :=
      if event.code = absX then { frame with absX := event.value }
      else if event.code = absY then { frame with absY := event.value }
      else if event.code = absPressure then { frame with pressure := event.value }
      else frame
    (frame, buttonState)
  else if drvInputIsKeyEvent event then
    let mask := drvInputButtonMask event.code
    if mask = 0#32 then
      (frame, buttonState)
    else
      let (frame, buttonState) :=
        if event.value = keyPressed then
          ({ frame with pressedMask := frame.pressedMask ||| mask }, buttonState ||| mask)
        else if event.value = keyReleased then
          ({ frame with releasedMask := frame.releasedMask ||| mask }, buttonState &&& ~~~mask)
        else
          (frame, buttonState)
      if event.code = btnTouch then
        ({ frame with touchSeen := true, touchDown := event.value == keyPressed }, buttonState)
      else
        (frame, buttonState)
  else
    (frame, buttonState)

/-
`rawFrame` is the local frame of raw events.
-/
structure PointerResult where
  ret : Int
  frame : DrvPointerFrame
  rawFrame : DrvInputFrame
  inst : DrvInputInst
  kernel : InputKernel

def drvInputReadPointerFrame (inst : DrvInputInst) (kernel : InputKernel) : PointerResult :=
  let r := drvInputReadFrame inst kernel
  if r.ret < 0 then
    ⟨r.ret, .zero, r.frame, r.inst, r.kernel⟩
  else if r.ret = 0 then
    ⟨0, .zero, r.frame, r.inst, r.kernel⟩
  else
    let frame := { DrvPointerFrame.zero with complete := r.frame.complete }
    let (frame, buttonState) := r.frame.events.foldl pointerFrameEvent (frame, r.inst.buttonState)
    ⟨r.frame.events.length, { frame with buttons := buttonState }, r.frame,
      { r.inst with buttonState := buttonState }, r.kernel⟩

end Input

import RtsmartLib.Lib.Machine
import Mathlib.Logic.Function.Basic

/-!
This module contains the GPIO driver: the instances, the device that they share, and the callbacks that
are registered through signals.
-/

namespace Gpio

open Lib

def gpioIrqMaxNum : Int := 64

def gpioMaxNum : Int := 64 + 8

def gpioPeMax : Nat := 5

def gpioDmInput : Nat := 1

def gpioDmMax : Nat := 5

def sigrtmin : Int := 35

def kdTimerMaxNum : Int := 6

def kdGpioSig : Int := sigrtmin + 1 + kdTimerMaxNum

/-
What a signal does: its default action, nothing, or `drv_gpio_sig_handler`.
-/
inductive Disposition where
  | dfl
  | ign
  | sigHandler
  deriving DecidableEq

/-
An instance is in the heap under its address. A callback is the address of a function.
-/
structure DrvGpioInst where
  pin : Int
  currMode : Nat
  currIrqMode : Nat
  irqArgs : Nat
  irqCallback : Option Nat
  signo : Int
  deriving DecidableEq

/-
The interrupt of a pin as the kernel holds it. `sigval` is the address of the instance.
-/
structure GpioIrqcfg where
  mode : Nat
  debounceMs : BitVec 16
  signo : Int
  sigval : Nat
  deriving DecidableEq

/-
The instances, the variables of the callers that point to them, and the dispositions of signals. No address is
used twice, so that an address also tells which instance has been there.
-/
structure GpioState where
  gpioFd : Bool
  gpioRefCnt : Nat
  registerCnt : BitVec 32
  slots : Nat → Option Nat
  heap : Nat → Option DrvGpioInst
  nextAddress : Nat
  dispositions : Int → Disposition
  irqs : Int → Option GpioIrqcfg

/-
What a call returns, and the state after each of its system calls and after an instance has been freed.
-/
structure GpioResult where
  ret : Int
  state : GpioState
  moments : List GpioState

/-
The instance that a variable points to.
-/
def GpioState.inst? (s : GpioState) (slot : Nat) : Option (Nat × DrvGpioInst) :=
  match s.slots slot with
  | none => none
  | some address =>
    match s.heap address with
    | none => none
    | some inst => some (address, inst)

def GpioState.store (s : GpioState) (address : Nat) (inst : Option DrvGpioInst) : GpioState :=
  { s with heap := Function.update s.heap address inst }

def GpioState.sigaction (s : GpioState) (signo : Int) (disposition : Disposition) : GpioState :=
  { s with dispositions := Function.update s.dispositions signo disposition }

def GpioState.setIrq (s : GpioState) (pin : Int) (cfg : Option GpioIrqcfg) : GpioState :=
  { s with irqs := Function.update s.irqs pin cfg }

/-
An ioctl that the kernel accepts or not.
-/
def drvGpioIoctl (s : GpioState) (accepted : Bool) : Bool := s.gpioFd && accepted

def drvGpioPinEnabled (hwRtc : Bool) (pin : Int) : Bool :=
  !(decide (pin < 0) || decide (pin ≥ gpioMaxNum)) && (hwRtc || decide (pin < 64))

def drvGpioOpen (s : GpioState) (opened : Bool) : Option GpioState :=
  if !s.gpioFd && !opened then
    none
  else
    some { s with gpioFd := true, gpioRefCnt := s.gpioRefCnt + 1 }

/-
With the last close of the device the kernel keeps the interrupts of the pins in `kept`.
-/
def drvGpioClose (s : GpioState) (kept : Int → Bool) : GpioState :=
  if s.gpioFd ∧ s.gpioRefCnt > 0 then
    if s.gpioRefCnt = 1 then
      { s with
        gpioRefCnt := 0
        gpioFd := false
        irqs := fun pin => if kept pin then s.irqs pin else none
      }
    else
      { s with gpioRefCnt := s.gpioRefCnt - 1 }
  else
    s

def drvGpioModeSet (s : GpioState) (slot mode : Nat) (accepted : Bool) : GpioResult :=
  match s.inst? slot with
  | none => ⟨-1, s, []⟩
  | some (address, inst) =>
    if mode = inst.currMode then
      ⟨0, s, []⟩
    else if !drvGpioIoctl s accepted then
      ⟨-1, s, [s]⟩
    else
      ⟨0, s.store address (some { inst with currMode := mode }), [s]⟩

/-
Frees an instance without a look at its callback.
-/
def drvGpioInstDestroy (s : GpioState) (slot : Nat) (accepted : Bool) (kept : Int → Bool)
    : GpioResult :=
  match s.inst? slot with
  | none => ⟨0, s, []⟩
  | some (address, _) =>
    let mode := drvGpioModeSet s slot gpioDmInput accepted
    -- the interrupt is left to the kernel
    let closed := drvGpioClose mode.state kept
    let freed := { closed.store address none with slots := Function.update closed.slots slot none }
    ⟨0, freed, mode.moments ++ [closed, freed]⟩

/-
What decides about the creation of an instance. `signo` is what the memory of the new one happens to hold.
-/
structure CreateCall where
  pin : Int
  isGpio : Bool
  opened : Bool
  hasMemory : Bool
  signo : Int
  accepted : Bool
  kept : Int → Bool

def drvGpioInstCreate (hwRtc : Bool) (s : GpioState) (slot : Nat) (call : CreateCall) : GpioResult :=
  if !drvGpioPinEnabled hwRtc call.pin then
    ⟨-1, s, []⟩
  else if !call.isGpio then
    ⟨-1, s, []⟩
  else
    match drvGpioOpen s call.opened with
    | none => ⟨-1, s, [s]⟩
    | some opened =>
      let destroyed := drvGpioInstDestroy opened slot call.accepted call.kept
      if !call.hasMemory then
        let closed := drvGpioClose destroyed.state call.kept
        ⟨-1, closed, opened :: destroyed.moments ++ [closed]⟩
      else
        let t := destroyed.state
        let inst : DrvGpioInst := {
          pin := call.pin
          currMode := gpioDmMax
          currIrqMode := gpioPeMax
          irqArgs := 0
          irqCallback := none
          signo := call.signo
        }
        ⟨0,
          { t.store t.nextAddress (some inst) with
            slots := Function.update t.slots slot (some t.nextAddress)
            nextAddress := t.nextAddress + 1 },
          opened :: destroyed.moments⟩

/-
Enables or disables the interrupt of a pin, which stays attached.
-/
def drvGpioSetIrq (s : GpioState) (slot : Nat) (accepted : Bool) : GpioResult :=
  match s.inst? slot with
  | none => ⟨-1, s, []⟩
  | some _ => if !drvGpioIoctl s accepted then ⟨-1, s, [s]⟩ else ⟨0, s, [s]⟩

/-
The two handlers of `struct sigaction` are one word, so that clearing `sa_sigaction` undoes the `SIG_IGN` of
`sa_handler`.
-/
def clearedSigaction : Disposition := .dfl

def drvGpioUnregisterIrq (s : GpioState) (slot : Nat) (accepted : Bool) : GpioResult :=
  match s.inst? slot with
  | none => ⟨-1, s, []⟩
  | some (address, inst) =>
    if inst.currIrqMode = gpioPeMax ∧ inst.irqCallback = none then
      ⟨0, s, []⟩
    else if !drvGpioIoctl s accepted then
      ⟨-1, s, [s]⟩
    else
      let detached := s.setIrq inst.pin none
      let cleared := detached.store address
        (some { inst with currIrqMode := gpioPeMax, irqArgs := 0, irqCallback := none })
      -- the disposition is that of the process, whoever else has the signal
      let disabled := cleared.sigaction inst.signo clearedSigaction
      ⟨0, disabled, [detached, disabled]⟩

/-
What decides about a registration: whether the kernel detaches the previous one, installs the handler and
attaches the interrupt.
-/
structure RegisterCall where
  mode : Nat
  debounce : Int
  callback : Option Nat
  userargs : Nat
  detached : Bool
  installed : Bool
  attached : Bool

/-
The signal of the next registration.
-/
def nextSigno (s : GpioState) : Int := kdGpioSig + s.registerCnt.toInt.tmod 8

/-
A registration for an instance that has none.
-/
def attachIrq (s : GpioState) (address : Nat) (inst : DrvGpioInst) (call : RegisterCall)
    : GpioResult :=
  let signo := nextSigno s
  let inst := { inst with signo }
  let chosen := { s.store address (some inst) with registerCnt := s.registerCnt + 1 }
  if !call.installed then
    ⟨-1, chosen, [chosen]⟩
  else
    let installed := chosen.sigaction signo .sigHandler
    if !drvGpioIoctl s call.attached then
      -- the refused registration takes the handler away
      let disabled := installed.sigaction signo clearedSigaction
      ⟨-1, disabled, [installed, installed, disabled]⟩
    else
      let cfg : GpioIrqcfg := {
        mode := call.mode
        debounceMs := BitVec.ofInt 16 (max 10 call.debounce)
        signo
        sigval := address
      }
      let attached := installed.setIrq inst.pin (some cfg)
      let registered := attached.store address
        (some { inst with
          currIrqMode := call.mode
          irqArgs := call.userargs
          irqCallback := call.callback })
      ⟨0, registered, [installed, attached]⟩

def drvGpioRegisterIrq (s : GpioState) (slot : Nat) (call : RegisterCall) : GpioResult :=
  match s.inst? slot with
  | none => ⟨-1, s, []⟩
  | some (address, inst) =>
    if gpioPeMax ≤ call.mode then
      ⟨-1, s, []⟩
    else if gpioIrqMaxNum ≤ inst.pin then
      ⟨-1, s, []⟩
    else if inst.currIrqMode ≠ gpioPeMax then
      let unregistered := drvGpioUnregisterIrq s slot call.detached
      if unregistered.ret ≠ 0 then
        ⟨-1, unregistered.state, unregistered.moments⟩
      else
        match unregistered.state.inst? slot with
        | none => ⟨-1, unregistered.state, unregistered.moments⟩
        | some (address, inst) =>
          let res := attachIrq unregistered.state address inst call
          { res with moments := unregistered.moments ++ res.moments }
    else
      attachIrq s address inst call

/-
What comes of an interrupt. An instance that has been freed is no instance to look into.
-/
inductive IrqOutcome where
  | quiet
  | ignored
  | terminated
  | dangling
  | handled (called : Option (Nat × Nat))
  deriving DecidableEq

def drvGpioSigHandler (s : GpioState) (sig : Int) (sival : Nat) : IrqOutcome :=
  match s.heap sival with
  | none => .dangling
  | some inst =>
    if inst.signo ≠ sig then
      .handled none
    else
      match inst.irqCallback with
      | none => .handled none
      | some callback => .handled (some (callback, inst.irqArgs))

def irqOutcome (s : GpioState) (pin : Int) : IrqOutcome :=
  match s.irqs pin with
  | none => .quiet
  | some cfg =>
    match s.dispositions cfg.signo with
    | .dfl => .terminated
    | .ign => .ignored
    | .sigHandler => drvGpioSigHandler s cfg.signo cfg.sigval

inductive GpioOp where
  | create (slot : Nat) (call : CreateCall)
  | destroy (slot : Nat) (accepted : Bool) (kept : Int → Bool)
  | modeSet (slot mode : Nat) (accepted : Bool)
  | setIrq (slot : Nat) (accepted : Bool)
  | registerIrq (slot : Nat) (call : RegisterCall)
  | unregisterIrq (slot : Nat) (accepted : Bool)
  | interrupt (pin : Int)

structure GpioObs where
  ret : Int
  moments : List GpioState
  outcome : IrqOutcome

def GpioResult.step (res : GpioResult) : GpioState × GpioObs := (res.state, ⟨res.ret, res.moments, .quiet⟩)

def gpioMachine (hwRtc : Bool) : Machine GpioState GpioOp GpioObs :=
  ⟨fun s op =>
    match op with
    | .create slot call => (drvGpioInstCreate hwRtc s slot call).step
    | .destroy slot accepted kept => (drvGpioInstDestroy s slot accepted kept).step
    | .modeSet slot mode accepted => (drvGpioModeSet s slot mode accepted).step
    | .setIrq slot accepted => (drvGpioSetIrq s slot accepted).step
    | .registerIrq slot call => (drvGpioRegisterIrq s slot call).step
    | .unregisterIrq slot accepted => (drvGpioUnregisterIrq s slot accepted).step
    | .interrupt pin => (s, ⟨0, [], irqOutcome s pin⟩)⟩

/-
Before the first call. The signals may have been used for something else.
-/
def GpioState.boot (dispositions : Int → Disposition) : GpioState where
  gpioFd := false
  gpioRefCnt := 0
  registerCnt := 0#32
  slots := fun _ => none
  heap := fun _ => none
  nextAddress := 0
  dispositions := dispositions
  irqs := fun _ => none

end Gpio

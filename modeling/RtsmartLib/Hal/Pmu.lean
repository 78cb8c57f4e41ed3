import RtsmartLib.Lib.Errno
import RtsmartLib.Lib.Traced
import Mathlib.Logic.Function.Basic

/-!
This module contains the PMU driver: the instances, the signals that they block for power-key notifications,
and how the kernel raises these.
-/

namespace Pmu

open Lib Posix

def drvPmuDefaultSigno : Int := 10

/-
The signals there are: those that can be blocked, and those of which more than one can be pending.
-/
structure Signals where
  valid : Int → Bool
  blockable : Int → Bool
  queued : Int → Bool
  pos : ∀ signo, valid signo = true → 0 < signo
  blockable_valid : ∀ signo, blockable signo = true → valid signo = true

abbrev Sigset := List Int

def sigemptyset : Sigset := []

def sigaddset (sigs : Signals) (set : Sigset) (signo : Int) : Sigset :=
  if sigs.valid signo then signo :: set else set

structure DrvPmuInst where
  fd : Int
  signo : Int
  notifyRegistered : Bool
  signalWasBlocked : Bool
  waitset : Sigset
  deriving DecidableEq

/-
The instances that the callers' variables point to, and the one thread that uses them: the signals it blocks,
the notifications that are pending for it, and whether one has met the default action of its signal. The
kernel has a signal for each descriptor that is registered. No descriptor is used twice.
-/
structure PmuState where
  insts : Nat → Option DrvPmuInst
  nextFd : Nat
  mask : Int → Bool
  pending : Int → Nat
  attached : Int → Option Int
  delivered : Bool

inductive PmuEvent where
  | raise (fd : Int)
  | blockSignal (slot : Nat)
  | unblockSignal (slot : Nat)
  | registerNotify (slot : Nat)
  | unregisterNotify (slot : Nat)
  | waitSignal (slot : Nat)
  | getShutdownRequest (slot : Nat)
  | openDevice (slot : Nat)
  | close (slot : Nat)
  deriving DecidableEq

abbrev PmuM := Traced PmuState PmuEvent

def PmuState.setInst (s : PmuState) (slot : Nat) (inst : Option DrvPmuInst) : PmuState :=
  { s with insts := Function.update s.insts slot inst }

def PmuState.modifyInst (s : PmuState) (slot : Nat) (f : DrvPmuInst → DrvPmuInst) : PmuState :=
  s.setInst slot ((s.insts slot).map f)

def PmuState.notifyRegistered (s : PmuState) (slot : Nat) : Bool :=
  match s.insts slot with
  | none => false
  | some inst => inst.notifyRegistered

/-
A power-key press with a long enough hold: the kernel raises the signal that the descriptor is registered
with, which becomes pending where it is blocked.
-/
def PmuState.notify (sigs : Signals) (s : PmuState) (fd : Int) : PmuState :=
  match s.attached fd with
  | none => s
  | some signo =>
    if !sigs.valid signo then
      s
    else if s.mask signo then
      let count := if sigs.queued signo then s.pending signo + 1 else 1
      { s with pending := Function.update s.pending signo count }
    else
      { s with delivered := true }

def sigBlock : Int := 0

def sigUnblock : Int := 1

/-
Unblocking a signal that is pending delivers it. There is no other way to fail than an unknown `how`.
-/
def pthreadSigmask (sigs : Signals) (how : Int) (set : Sigset) (s : PmuState) : Int × PmuState :=
  if how = sigBlock then
    (0, { s with mask := fun signo => s.mask signo || (set.contains signo && sigs.blockable signo) })
  else if how = sigUnblock then
    (0,
      { s with
        mask := fun signo => s.mask signo && !set.contains signo
        pending := fun signo => if set.contains signo then 0 else s.pending signo
        delivered := s.delivered || set.any fun signo => decide (0 < s.pending signo) })
  else
    (einval, s)

/-
Fetches a notification that is pending. Without one the wait ends with `errno`, after whatever time. One that
comes during the wait is as if it came before.
-/
def sigwait (set : Sigset) (errno : Int) (s : PmuState) : Except Int Int × PmuState :=
  match set.find? fun signo => decide (0 < s.pending signo) with
  | some signo =>
    (.ok signo, { s with pending := Function.update s.pending signo (s.pending signo - 1) })
  | none => (.error errno, s)

def drvPmuIsOpen (s : PmuState) (slot : Nat) : Bool :=
  match s.insts slot with
  | none => false
  | some inst => decide (0 ≤ inst.fd)

/-
An ioctl that the kernel accepts or not.
-/
def drvPmuIoctl (s : PmuState) (slot : Nat) (accepted : Bool) : Int :=
  if !drvPmuIsOpen s slot then
    -1
  else if !accepted then
    -1
  else
    0

def drvPmuWaitSignal (slot : Nat) (errno : Int) (s : PmuState) : Int × PmuState :=
  match s.insts slot with
  | none => (-1, s)
  | some inst =>
    match sigwait inst.waitset errno s with
    | (.ok _, t) => (0, t)
    | (.error errno, t) => if errno = eagain ∨ errno = eintr then (1, t) else (-1, t)

def drvPmuReadShutdownRequest (slot : Nat) (accepted : Bool) (pending : BitVec 32) (s : PmuState)
    : Int × PmuState :=
  if drvPmuIoctl s slot accepted < 0 then
    (-1, s)
  else if pending ≠ 0 then
    (0, s)
  else
    (1, s)

def drvPmuBlockSignal (sigs : Signals) (slot : Nat) (signo : Int) (s : PmuState) : Int × PmuState :=
  let waitset := sigaddset sigs sigemptyset signo
  let waiting := s.modifyInst slot fun inst => { inst with waitset := waitset }
  let (ret, blocked) := pthreadSigmask sigs sigBlock waitset waiting
  if ret ≠ 0 then
    (-1, blocked)
  else
    -- `sigismember` does not know an invalid signal
    let signalWasBlocked := sigs.valid signo && s.mask signo
    (0, blocked.modifyInst slot fun inst =>
      { inst with signalWasBlocked := signalWasBlocked, signo := signo })

def drvPmuUnblockSignal (sigs : Signals) (slot : Nat) (s : PmuState) : PmuState :=
  match s.insts slot with
  | none => s
  | some inst =>
    if inst.signo ≤ 0 then
      s
    else
      -- the mask is that of the thread, whoever else has blocked the signal meanwhile
      let unblocked :=
        if !inst.signalWasBlocked then (pthreadSigmask sigs sigUnblock inst.waitset s).2 else s
      unblocked.modifyInst slot fun inst =>
        { inst with waitset := sigemptyset, signalWasBlocked := false, signo := 0 }

/-
The ioctl that has the kernel raise `signo` for the descriptor.
-/
def registerIoctl (slot : Nat) (signo : Int) (accepted : Bool) (s : PmuState) : Int × PmuState :=
  match s.insts slot with
  | none => (-1, s)
  | some inst =>
    if drvPmuIoctl s slot accepted < 0 then
      (-1, s)
    else
      (0, { s with attached := Function.update s.attached inst.fd (some signo) })

/-
The kernel keeps the registration if it does not accept the ioctl.
-/
def unregisterIoctl (slot : Nat) (accepted : Bool) (s : PmuState) : Int × PmuState :=
  match s.insts slot with
  | none => (-1, s)
  | some inst =>
    if drvPmuIoctl s slot accepted < 0 then
      (-1, s)
    else
      (0, { s with attached := Function.update s.attached inst.fd none })

section

variable (sigs : Signals)

def raise (fd : Int) : PmuM Unit :=
  Traced.step (.raise fd) fun s => ((), s.notify sigs fd)

/-
Notifications that come before the next system call of the driver, each for a descriptor.
-/
def arrive (fds : List Int) : PmuM Unit := Traced.each (raise sigs) fds

def unblockSignal (slot : Nat) : PmuM Unit :=
  Traced.step (.unblockSignal slot) fun s => ((), drvPmuUnblockSignal sigs slot s)

/-
What decides about giving a registration up: whether the kernel accepts that, and what comes before the signal
is unblocked.
-/
structure UnregisterCall where
  accepted : Bool
  ioctled : List Int

def drvPmuKeyUnregisterNotify (slot : Nat) (call : UnregisterCall) : PmuM Int := do
  let s ← Traced.read
  if !drvPmuIsOpen s slot then
    pure (-1)
  else if !s.notifyRegistered slot then
    pure 0
  else
    let ret ← Traced.step (.unregisterNotify slot) (unregisterIoctl slot call.accepted)
    -- the registration is given up even if the kernel does not accept that
    arrive sigs call.ioctled
    unblockSignal sigs slot
    Traced.change fun s => s.modifyInst slot fun inst => { inst with notifyRegistered := false }
    pure ret

structure RegisterCall where
  unregister : UnregisterCall
  unregistered : List Int
  blocked : List Int
  accepted : Bool
  refused : List Int

/-
The registration of an instance that has none.
-/
def registerNotify (slot : Nat) (signo : Int) (call : RegisterCall) : PmuM Int := do
  let ret ← Traced.step (.blockSignal slot) (drvPmuBlockSignal sigs slot signo)
  if ret < 0 then
    pure (-1)
  else
    arrive sigs call.blocked
    let ret ← Traced.step (.registerNotify slot) (registerIoctl slot signo call.accepted)
    if ret < 0 then
      arrive sigs call.refused
      unblockSignal sigs slot
      pure (-1)
    else
      Traced.change fun s => s.modifyInst slot fun inst => { inst with notifyRegistered := true }
      pure 0

def drvPmuKeyRegisterNotify (slot : Nat) (signo : Int) (call : RegisterCall) : PmuM Int := do
  let cfgSigno := if 0 < signo then signo else drvPmuDefaultSigno
  let s ← Traced.read
  if !drvPmuIsOpen s slot then
    pure (-1)
  else if s.notifyRegistered slot then
    let ret ← drvPmuKeyUnregisterNotify sigs slot call.unregister
    if ret < 0 then
      pure (-1)
    else
      arrive sigs call.unregistered
      registerNotify sigs slot cfgSigno call
  else
    registerNotify sigs slot cfgSigno call

structure WaitCall where
  errno : Int
  waited : List Int
  accepted : Bool
  pending : BitVec 32

def drvPmuKeyWaitShutdown (slot : Nat) (call : WaitCall) : PmuM Int := do
  let s ← Traced.read
  if !s.notifyRegistered slot then
    pure (-1)
  else
    let ret ← Traced.step (.waitSignal slot) (drvPmuWaitSignal slot call.errno)
    if ret ≠ 0 then
      pure ret
    else
      arrive sigs call.waited
      Traced.step (.getShutdownRequest slot)
        (drvPmuReadShutdownRequest slot call.accepted call.pending)

/-
`kept` is whether the kernel keeps a registration whose descriptor is closed.
-/
structure DestroyCall where
  unregister : UnregisterCall
  unregistered : List Int
  kept : Bool

def closeFd (slot : Nat) (kept : Bool) (s : PmuState) : PmuState :=
  match s.insts slot with
  | none => s
  | some inst =>
    if 0 ≤ inst.fd then
      let attached := if kept then s.attached else Function.update s.attached inst.fd none
      PmuState.modifyInst { s with attached := attached } slot fun inst => { inst with fd := -1 }
    else
      s

def drvPmuInstDestroy (slot : Nat) (call : DestroyCall) : PmuM Unit := do
  let s ← Traced.read
  if (s.insts slot).isNone then
    pure ()
  else
    let _ ← drvPmuKeyUnregisterNotify sigs slot call.unregister
    arrive sigs call.unregistered
    Traced.step (.close slot) fun s => ((), closeFd slot call.kept s)
    Traced.change fun s => s.setInst slot none
    pure ()

/-
The number of a descriptor that has not been used, if the device can be opened.
-/
def openDevice (opened : Bool) (s : PmuState) : Int × PmuState :=
  if opened then (s.nextFd, { s with nextFd := s.nextFd + 1 }) else (-1, s)

structure CreateCall where
  destroy : DestroyCall
  destroyed : List Int
  hasMemory : Bool
  opened : Bool

def drvPmuInstCreate (slot : Nat) (call : CreateCall) : PmuM Int := do
  drvPmuInstDestroy sigs slot call.destroy
  arrive sigs call.destroyed
  if !call.hasMemory then
    pure (-1)
  else
    let fd ← Traced.step (.openDevice slot) (openDevice call.opened)
    if fd < 0 then
      pure (-1)
    else
      let pmu : DrvPmuInst := {
        fd := fd
        signo := 0
        notifyRegistered := false
        signalWasBlocked := false
        waitset := sigemptyset
      }
      Traced.change fun s => s.setInst slot (some pmu)
      pure 0

end

inductive PmuOp where
  | create (slot : Nat) (call : CreateCall)
  | destroy (slot : Nat) (call : DestroyCall)
  | registerNotify (slot : Nat) (signo : Int) (call : RegisterCall)
  | unregisterNotify (slot : Nat) (call : UnregisterCall)
  | waitShutdown (slot : Nat) (call : WaitCall)
  | raise (fd : Int)

def perform (sigs : Signals) (op : PmuOp) : PmuM Int :=
  match op with
  | .create slot call => drvPmuInstCreate sigs slot call
  | .destroy slot call => do
    drvPmuInstDestroy sigs slot call
    pure 0
  | .registerNotify slot signo call => drvPmuKeyRegisterNotify sigs slot signo call
  | .unregisterNotify slot call => drvPmuKeyUnregisterNotify sigs slot call
  | .waitShutdown slot call => drvPmuKeyWaitShutdown sigs slot call
  | .raise fd => do
    raise sigs fd
    pure 0

def pmuMachine (sigs : Signals) : Machine PmuState PmuOp (Int × List (Traced.Step PmuState PmuEvent)) :=
  Traced.machine (perform sigs)

/-
Before the first call. The thread may have blocked signals for something else.
-/
def PmuState.boot (sigs : Signals) (blocked : Int → Bool) : PmuState where
  insts := fun _ => none
  nextFd := 0
  mask := fun signo => blocked signo && sigs.blockable signo
  pending := fun _ => 0
  attached := fun _ => none
  delivered := false

end Pmu

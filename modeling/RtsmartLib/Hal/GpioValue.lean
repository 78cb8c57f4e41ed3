import RtsmartLib.Hal.Gpio
import RtsmartLib.Lib.Shadow

/-!
This module contains the value of a GPIO pin: the output latch and the level of the pin, which are the
hardware's, and the last value that the instance remembers.
-/

namespace Gpio

open Lib

inductive GpioPinValue where
  | low
  | high
  deriving DecidableEq

def GpioPinValue.toInt (value : GpioPinValue) : Int :=
  match value with
  | .low => 0
  | .high => 1

def gpioDmOutput : Nat := 0

/-
The instance of the pin is the one behind `slot`, and `currVal` is its field `curr_val`. The kernel has
put the pin in `mode`. `since` belongs to no one: it is what the latch held at the last reading of the
pin, if the latch has not been written since.
-/
structure ValueState where
  gpio : GpioState
  currVal : Int
  mode : Nat
  latch : GpioPinValue
  since : Option GpioPinValue

/-
The level of a pin by its mode, its latch and what drives it from outside.
-/
abbrev PinLevel := Nat → GpioPinValue → GpioPinValue → GpioPinValue

/-
The kernel finds the pin or not, and takes the value or not.
-/
def drvGpioValueSet (s : ValueState) (slot : Nat) (val : GpioPinValue) (sought written : Bool)
    : ValueState × Int :=
  match s.gpio.inst? slot with
  | none => (s, -1)
  | some _ =>
    if !s.gpio.gpioFd then
      (s, -1)
    else if s.currVal = val.toInt then
      (s, 0)
    else if !sought then
      (s, -1)
    else if written then
      ({ s with currVal := val.toInt, latch := val, since := none }, 0)
    else
      (s, -1)

def drvGpioValueGet (level : PinLevel) (s : ValueState) (slot : Nat) (external : GpioPinValue)
    (sought got : Bool)
    : ValueState × Int :=
  match s.gpio.inst? slot with
  | none => (s, GpioPinValue.low.toInt)
  | some _ =>
    if !s.gpio.gpioFd then
      (s, -1)
    else if !sought then
      (s, -1)
    else if !got then
      (s, -1)
    else
      let value := (level s.mode s.latch external).toInt
      ({ s with currVal := value, since := some s.latch }, value)

/-
The kernel changes the mode with the ioctl that it accepts.
-/
def valueModeSet (s : ValueState) (slot mode : Nat) (accepted : Bool) : ValueState × Int :=
  let res := drvGpioModeSet s.gpio slot mode accepted
  let mode := if res.ret = 0 ∧ res.moments ≠ [] then mode else s.mode
  ({ s with gpio := res.state, mode }, res.ret)

inductive ValueOp where
  | valueSet (val : GpioPinValue) (sought written : Bool)
  | valueGet (external : GpioPinValue) (sought got : Bool)
  | modeSet (mode : Nat) (accepted : Bool)
  deriving DecidableEq

def valueMachine (level : PinLevel) (slot : Nat) : Machine ValueState ValueOp Int where
  step s op :=
    match op with
    | .valueSet val sought written => drvGpioValueSet s slot val sought written
    | .valueGet external sought got => drvGpioValueGet level s slot external sought got
    | .modeSet mode accepted => valueModeSet s slot mode accepted

/-
The instance as `drv_gpio_inst_create` leaves it, whatever the pin has been used for before.
-/
def ValueState.created (gpio : GpioState) (mode : Nat) (latch : GpioPinValue) : ValueState :=
  ⟨gpio, -1, mode, latch, none⟩

abbrev ValueVisit := Machine.Visit ValueState ValueOp Int

/--
A value that has been set is in the latch.
-/
def LatchHolds (v : ValueVisit) : Prop :=
  ∀ val sought written, v.event = .valueSet val sought written → v.obs = 0 → v.post.latch = val

/--
The value that is to be set is the one that the pin was last read at, while the latch held another.
-/
def SetsMisread (slot : Nat) (v : ValueVisit) : Prop :=
  ∃ val sought written, v.event = .valueSet val sought written ∧ v.pre.gpio.gpioFd = true
    ∧ v.pre.gpio.inst? slot ≠ none ∧ v.pre.currVal = val.toInt
    ∧ ∃ w, v.pre.since = some w ∧ w ≠ val

def GpioPinValue.ofInt (value : Int) : Option GpioPinValue :=
  if value = 0 then some .low else if value = 1 then some .high else none

theorem GpioPinValue.ofInt_toInt (value : GpioPinValue) : ofInt value.toInt = some value := by
  cases value with
  | low => rfl
  | high => rfl

/-
What the instance believes of the latch.
-/
def ValueState.copy (s : ValueState) : Unit → Option (Unit × GpioPinValue) :=
  fun _ => (GpioPinValue.ofInt s.currVal).map ((), ·)

def ValueState.Tracks (s : ValueState) : Prop :=
  Lib.Tracks (fun (_ : Unit) => s.latch) s.copy (fun _ => s.since)

theorem copy_of_currVal {s : ValueState} {val : GpioPinValue} (h : s.currVal = val.toInt)
    : s.copy = fun _ => some ((), val) := by
  unfold ValueState.copy
  rw [h, GpioPinValue.ofInt_toInt]
  rfl

theorem ValueState.Tracks.created (gpio : GpioState) (mode : Nat) (latch : GpioPinValue)
    : (ValueState.created gpio mode latch).Tracks :=
  Lib.Tracks.none _ _

theorem ValueState.Tracks.valueSet {s : ValueState} (hs : s.Tracks) (slot : Nat)
    (val : GpioPinValue) (sought written : Bool)
    : (drvGpioValueSet s slot val sought written).1.Tracks := by
  unfold drvGpioValueSet
  split
  . exact hs
  . split
    . exact hs
    . split
      . exact hs
      . split
        . exact hs
        . split
          . have h := (hs.set () val).keep () (k := ()) (v := val) rfl
            simp only [Function.update_eq_const_of_subsingleton] at h
            unfold ValueState.Tracks
            rw [@copy_of_currVal _ val rfl]
            exact h
          . exact hs

theorem ValueState.Tracks.valueGet {s : ValueState} (hs : s.Tracks) (level : PinLevel) (slot : Nat)
    (external : GpioPinValue) (sought got : Bool)
    : (drvGpioValueGet level s slot external sought got).1.Tracks := by
  unfold drvGpioValueGet
  split
  . exact hs
  . split
    . exact hs
    . split
      . exact hs
      . split
        . exact hs
        . have h := hs.see () () (level s.mode s.latch external)
          simp only [Function.update_eq_const_of_subsingleton] at h
          unfold ValueState.Tracks
          rw [@copy_of_currVal _ (level s.mode s.latch external) rfl]
          exact h

theorem valueStep_tracks {s : ValueState} (hs : s.Tracks) (level : PinLevel) (slot : Nat)
    (op : ValueOp)
    : ((valueMachine level slot).step s op).1.Tracks := by
  cases op with
  | valueSet val sought written => exact hs.valueSet slot val sought written
  | valueGet external sought got => exact hs.valueGet level slot external sought got
  | modeSet mode accepted => exact hs

/-
A write that the kernel has taken is in the latch, one that failed promises nothing.
-/
theorem latch_of_written {s : ValueState} {slot : Nat} {val : GpioPinValue} {sought written : Bool}
    (hnew : s.currVal ≠ val.toInt) (hret : (drvGpioValueSet s slot val sought written).2 = 0)
    : (drvGpioValueSet s slot val sought written).1.latch = val := by
  unfold drvGpioValueSet at hret ⊢
  split at hret
  . cases hret
  . split at hret
    . cases hret
    . next hfd =>
      split at hret
      . cases hret
      . next hsought =>
        split at hret
        . next hwritten =>
          rw [if_neg hfd, if_neg hnew, if_neg hsought, if_pos hwritten]
        . cases hret

/-
The shortcut of the cached value is right unless the value was misread.
-/
theorem latch_of_skipped {s : ValueState} (hs : s.Tracks) {val : GpioPinValue}
    (hold : s.currVal = val.toInt)
    : s.latch = val ↔ ¬∃ w, s.since = some w ∧ w ≠ val := by
  apply hs.right_iff (i := ()) (k := ())
  rw [copy_of_currVal hold]

theorem latchHolds_iff {s : ValueState} (hs : s.Tracks) (level : PinLevel) (slot : Nat)
    (op : ValueOp)
    : LatchHolds ((valueMachine level slot).visit s op)
        ↔ ¬SetsMisread slot ((valueMachine level slot).visit s op) := by
  cases op with
  | valueGet external sought got =>
    constructor
    . rintro - ⟨_, _, _, hevent, -⟩
      cases hevent
    . intro _ _ _ _ hevent
      cases hevent
  | modeSet mode accepted =>
    constructor
    . rintro - ⟨_, _, _, hevent, -⟩
      cases hevent
    . intro _ _ _ _ hevent
      cases hevent
  | valueSet val sought written =>
    by_cases hskip : s.gpio.gpioFd = true ∧ s.gpio.inst? slot ≠ none ∧ s.currVal = val.toInt
    . obtain ⟨hfd, hinst, hold⟩ := hskip
      have hres : drvGpioValueSet s slot val sought written = (s, 0) := by
        unfold drvGpioValueSet
        split
        . next hnone => exact absurd hnone hinst
        . rw [if_neg (by simp [hfd]), if_pos hold]
      constructor
      . rintro h ⟨_, _, _, hevent, -, -, -, hother⟩
        cases hevent
        have hlatch := h val sought written rfl (congrArg Prod.snd hres)
        apply (latch_of_skipped hs hold).mp _ hother
        simpa [valueMachine, hres] using hlatch
      . intro h _ _ _ hevent _
        cases hevent
        simp only [valueMachine, Machine.visit_post, hres]
        apply (latch_of_skipped hs hold).mpr
        intro hother
        exact h ⟨val, sought, written, rfl, hfd, hinst, hold, hother⟩
    . constructor
      . rintro - ⟨_, _, _, hevent, hfd, hinst, hold, -⟩
        cases hevent
        exact hskip ⟨hfd, hinst, hold⟩
      . intro _ _ _ _ hevent hret
        cases hevent
        by_cases hold : s.currVal = val.toInt
        . exfalso
          apply hskip
          simp only [valueMachine, Machine.visit_obs] at hret
          unfold drvGpioValueSet at hret
          split at hret
          . cases hret
          . next hinst =>
            split at hret
            . cases hret
            . next hfd =>
              refine ⟨by simpa using hfd, by simp [hinst], hold⟩
        . exact latch_of_written hold hret

/--
In every run over the pin, whatever drives it from outside and whatever the kernel answers, a value
that was set is in the latch, if and only if no value is set that the pin was misread at.
-/
theorem latchHolds_runs_iff (level : PinLevel) (slot : Nat) (gpio : GpioState) (mode : Nat)
    (latch : GpioPinValue) (ops : List ValueOp)
    : (∀ v ∈ (valueMachine level slot).visits (.created gpio mode latch) ops, LatchHolds v)
        ↔ ∀ v ∈ (valueMachine level slot).visits (.created gpio mode latch) ops,
            ¬SetsMisread slot v := by
  apply Machine.forall_visits_iff ValueState.Tracks
  . intro s op hs _
    exact valueStep_tracks hs level slot op
  . intro s op hs
    exact latchHolds_iff hs level slot op
  . exact ValueState.Tracks.created gpio mode latch

/-
An output shows its latch and an input what drives it from outside.
-/
def plainLevel : PinLevel :=
  fun mode latch external => if mode = gpioDmOutput then latch else external

def pinOpened : GpioState where
  gpioFd := true
  gpioRefCnt := 1
  registerCnt := 0#32
  slots := fun _ => some 0
  heap := fun _ => some ⟨5, gpioDmMax, gpioPeMax, 0, none, 0⟩
  nextAddress := 1
  dispositions := fun _ => .dfl
  irqs := fun _ => none

/--
An input that is driven high is read. Then it becomes an output and is set high, which is skipped.
-/
theorem latchHolds_fails
    : ¬∀ v ∈ (valueMachine plainLevel 0).visits (.created pinOpened gpioDmInput .low)
          [.modeSet gpioDmInput true, .valueGet .high true true, .modeSet gpioDmOutput true,
            .valueSet .high true true],
        LatchHolds v := by
  intro h
  have hv := h _ ((valueMachine plainLevel 0).visit_final_mem _
    [.modeSet gpioDmInput true, .valueGet .high true true, .modeSet gpioDmOutput true]
    (.valueSet .high true true))
  have hlatch := hv _ _ _ rfl rfl
  cases hlatch

end Gpio

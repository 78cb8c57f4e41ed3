import RtsmartLib.Lib.Machine
import Mathlib.Data.BitVec
import Mathlib.Data.Rat.Floor
import Mathlib.Algebra.Order.Floor.Semifield
import Mathlib.Tactic.FieldSimp

/-!
This module contains the hardware timer: its frequency and its period, which are set by separate calls, and
which sequences of calls keep the period within the range of the counter.
-/

namespace HardTimer

open Lib

/-
`int32_t` frequencies are compared with unsigned ones, and so they are taken for unsigned.
-/
structure RtHwtimerInfo where
  maxfreq : BitVec 32
  minfreq : BitVec 32
  maxcnt : BitVec 32

structure DrvHardTimerInst where
  started : Bool
  currFreqHz : BitVec 32
  currPeriodMs : BitVec 32

/-
An instance, and the frequency that is in force at its timer.
-/
structure TimerState where
  inst : DrvHardTimerInst
  freq : BitVec 32

structure RtHwtimerval where
  sec : Int
  usec : Int
  deriving DecidableEq

def drvHardTimerSetFreq (info : RtHwtimerInfo) (s : TimerState) (freq : BitVec 32) : Int × TimerState :=
  if s.inst.started then (-1, s)
  else if freq > info.maxfreq ∨ freq < info.minfreq then (-1, s)
  else if s.inst.currFreqHz ≠ freq then
    (0, ⟨{ s.inst with currFreqHz := freq }, freq⟩)
  else (0, s)

def drvHardTimerGetFreq (s : TimerState) : TimerState :=
  { s with inst := { s.inst with currFreqHz := s.freq } }

/-
The quotient of two `float`s, taken as exact; `none` is one that is not finite.
-/
def floatDiv (a b : ℚ) : Option ℚ :=
  if b = 0 then none else some (a / b)

/-
The conversion of a `float` to `uint32_t`, which saturates on the target.
-/
def toUint32 (x : Option ℚ) : BitVec 32 :=
  match x with
  | none => 0xffffffff
  | some q => BitVec.ofNat 32 (min ⌊q⌋₊ 0xffffffff)

def freqKHz (freq : BitVec 32) : ℚ :=
  freq.toNat / 1000

def minPeriodMs (freq : BitVec 32) : Option ℚ :=
  floatDiv 1 (freqKHz freq)

def maxPeriodMs (info : RtHwtimerInfo) (freq : BitVec 32) : Option ℚ :=
  floatDiv info.maxcnt.toNat (freqKHz freq)

def drvHardTimerSetPeriod (info : RtHwtimerInfo) (s : TimerState) (periodMs : BitVec 32)
    : Int × TimerState :=
  let s := drvHardTimerGetFreq s
  if s.inst.started then (-1, s)
  else if periodMs > toUint32 (maxPeriodMs info s.inst.currFreqHz)
      ∨ periodMs < toUint32 (minPeriodMs s.inst.currFreqHz) then
    (-1, s)
  else
    (0, { s with inst := { s.inst with currPeriodMs := periodMs } })

/-
`writes` tells whether the device takes the value that is written to it.
-/
def drvHardTimerStart (s : TimerState) (writes : Bool) : Int × Option RtHwtimerval × TimerState :=
  let periodMs := s.inst.currPeriodMs
  let tv : RtHwtimerval := ⟨(periodMs / 1000).toNat, (periodMs % 1000 * 1000).toNat⟩
  if !writes then (-1, none, s)
  else (0, some tv, { s with inst := { s.inst with started := true } })

def drvHardTimerStop (s : TimerState) : Int × TimerState :=
  (0, { s with inst := { s.inst with started := false } })

inductive TimerOp where
  | setFreq (freq : BitVec 32)
  | setPeriod (periodMs : BitVec 32)
  | start (writes : Bool)
  | stop

structure TimerObs where
  ret : Int
  programmed : Option RtHwtimerval

def timerMachine (info : RtHwtimerInfo) : Machine TimerState TimerOp TimerObs :=
  ⟨fun s op =>
    match op with
    | .setFreq freq =>
      let r := drvHardTimerSetFreq info s freq
      (r.2, ⟨r.1, none⟩)
    | .setPeriod periodMs =>
      let r := drvHardTimerSetPeriod info s periodMs
      (r.2, ⟨r.1, none⟩)
    | .start writes =>
      let r := drvHardTimerStart s writes
      (r.2.2, ⟨r.1, r.2.1⟩)
    | .stop =>
      let r := drvHardTimerStop s
      (r.2, ⟨r.1, none⟩)⟩

def RtHwtimerval.periodMs (tv : RtHwtimerval) : Int :=
  tv.sec * 1000 + tv.usec / 1000

abbrev TimerVisit := Machine.Visit TimerState TimerOp TimerObs

/--
A start that returns zero programs a period that is not zero and that the counter can count at the frequency
in force.
-/
def StartRight (info : RtHwtimerInfo) (v : TimerVisit) : Prop :=
  ∀ writes, v.event = .start writes → v.obs.ret = 0 →
    ∃ tv, v.obs.programmed = some tv ∧ tv.periodMs ≠ 0
      ∧ tv.periodMs * v.post.freq.toNat ≤ 1000 * info.maxcnt.toNat

/--
So does the call, if it is a start, and a start that comes next.
-/
def StartsRight (info : RtHwtimerInfo) (v : TimerVisit) : Prop :=
  StartRight info v ∧ ∀ writes, StartRight info ((timerMachine info).visit v.post (.start writes))

/--
The call sets a frequency that is too high for the period, or the period to zero. A stopped timer accepts the
one if it is within the limits and is not what the instance takes for the frequency, and the other at more
than 1000 Hz.
-/
def LeavesRange (info : RtHwtimerInfo) (v : TimerVisit) : Prop :=
  v.pre.inst.started = false
    ∧ ((∃ freq, v.event = .setFreq freq ∧ info.minfreq ≤ freq ∧ freq ≤ info.maxfreq
        ∧ freq ≠ v.pre.inst.currFreqHz ∧ 1000 * info.maxcnt.toNat < v.pre.inst.currPeriodMs.toNat * freq.toNat)
      ∨ (v.event = .setPeriod 0 ∧ 1000 < v.pre.freq.toNat))

structure InRange (info : RtHwtimerInfo) (s : TimerState) : Prop where
  pos : s.inst.currPeriodMs.toNat ≠ 0
  fits : s.inst.currPeriodMs.toNat * s.freq.toNat ≤ 1000 * info.maxcnt.toNat

theorem toNat_toUint32_floatDiv {n f : Nat} (hf : f ≠ 0)
    : (toUint32 (floatDiv n (f / 1000))).toNat = min (1000 * n / f) 0xffffffff := by
  have hfloor : ⌊(n : ℚ) / ((f : ℚ) / 1000)⌋₊ = 1000 * n / f := by
    have hquot : (n : ℚ) / ((f : ℚ) / 1000) = ((1000 * n : Nat) : ℚ) / (f : Nat) := by
      have hf' : (f : ℚ) ≠ 0 := by exact_mod_cast hf
      push_cast
      field_simp
    rw [hquot, Nat.floor_div_eq_div]
  have hne : ¬(f : ℚ) / 1000 = 0 := by
    intro h
    rw [div_eq_zero_iff] at h
    cases h with
    | inl h => exact hf (by exact_mod_cast h)
    | inr h => norm_num at h
  unfold floatDiv toUint32
  rw [if_neg hne]
  dsimp only
  rw [hfloor, BitVec.toNat_ofNat, Nat.mod_eq_of_lt]
  omega

/-
A period that passes the check for the longest one can be counted.
-/
theorem fits_of_le_maxPeriodMs {info : RtHwtimerInfo} {freq periodMs : BitVec 32}
    (h : periodMs ≤ toUint32 (maxPeriodMs info freq))
    : periodMs.toNat * freq.toNat ≤ 1000 * info.maxcnt.toNat := by
  by_cases hfreq : freq.toNat = 0
  . rw [hfreq]
    omega
  . have hle : periodMs.toNat ≤ 1000 * info.maxcnt.toNat / freq.toNat := by
      rw [BitVec.le_def] at h
      unfold maxPeriodMs freqKHz at h
      rw [toNat_toUint32_floatDiv hfreq] at h
      omega
    exact (Nat.le_div_iff_mul_le (Nat.pos_of_ne_zero hfreq)).mp hle

/-
The check for the shortest period lets zero through above 1000 Hz, where it is less than a millisecond.
-/
theorem minPeriodMs_le_zero_iff (freq : BitVec 32)
    : toUint32 (minPeriodMs freq) ≤ 0#32 ↔ 1000 < freq.toNat := by
  rw [BitVec.le_def]
  unfold minPeriodMs freqKHz
  by_cases hfreq : freq.toNat = 0
  . rw [hfreq]
    norm_num [floatDiv, toUint32]
    decide
  . have hmin := toNat_toUint32_floatDiv (n := 1) hfreq
    rw [Nat.cast_one] at hmin
    rw [hmin]
    have hdiv : 1000 * 1 / freq.toNat = 0 ↔ 1000 < freq.toNat := by
      rw [Nat.div_eq_zero_iff]
      omega
    rw [← hdiv, BitVec.toNat_zero]
    omega

theorem periodMs_tv (periodMs : BitVec 32)
    : RtHwtimerval.periodMs ⟨(periodMs / 1000).toNat, (periodMs % 1000 * 1000).toNat⟩ = periodMs.toNat := by
  have hdiv : (periodMs / 1000).toNat = periodMs.toNat / 1000 := BitVec.toNat_udiv
  have hmod : (periodMs % 1000 * 1000).toNat = periodMs.toNat % 1000 * 1000 := by
    have h1000 : (1000 : BitVec 32).toNat = 1000 := rfl
    rw [BitVec.toNat_mul, BitVec.toNat_umod, h1000]
    omega
  unfold RtHwtimerval.periodMs
  rw [hdiv, hmod]
  dsimp only
  omega

theorem startRight_start_iff (info : RtHwtimerInfo) (s : TimerState)
    : (∀ writes, StartRight info ((timerMachine info).visit s (.start writes))) ↔ InRange info s := by
  constructor
  . intro h
    obtain ⟨tv, htv, hpos, hfits⟩ := h true true rfl rfl
    cases htv
    rw [periodMs_tv] at hpos hfits
    constructor
    . exact_mod_cast hpos
    . exact_mod_cast hfits
  . intro h writes writes' hevent hret
    cases hevent
    cases writes with
    | false => cases hret
    | true =>
      refine ⟨_, rfl, ?_, ?_⟩
      . rw [periodMs_tv]
        exact_mod_cast h.pos
      . rw [periodMs_tv]
        exact_mod_cast h.fits

theorem leavesRange_setFreq_iff (info : RtHwtimerInfo) (s : TimerState) (freq : BitVec 32)
    : LeavesRange info ((timerMachine info).visit s (.setFreq freq)) ↔
        s.inst.started = false ∧ info.minfreq ≤ freq ∧ freq ≤ info.maxfreq ∧ freq ≠ s.inst.currFreqHz
          ∧ 1000 * info.maxcnt.toNat < s.inst.currPeriodMs.toNat * freq.toNat := by
  simp [LeavesRange]

theorem leavesRange_setPeriod_iff (info : RtHwtimerInfo) (s : TimerState) (periodMs : BitVec 32)
    : LeavesRange info ((timerMachine info).visit s (.setPeriod periodMs)) ↔
        s.inst.started = false ∧ periodMs = 0 ∧ 1000 < s.freq.toNat := by
  simp [LeavesRange]

theorem inRange_setFreq_iff {info : RtHwtimerInfo} {s : TimerState} (h : InRange info s) (freq : BitVec 32)
    : InRange info (drvHardTimerSetFreq info s freq).2
        ↔ ¬LeavesRange info ((timerMachine info).visit s (.setFreq freq)) := by
  rw [leavesRange_setFreq_iff]
  unfold drvHardTimerSetFreq
  split
  next hstarted =>
    rw [hstarted]
    simp [h]
  next hstarted =>
    split
    next hlimits =>
      apply iff_of_true h
      rintro ⟨-, hmin, hmax, -⟩
      cases hlimits with
      | inl hlt => exact BitVec.not_lt.mpr hmax hlt
      | inr hlt => exact BitVec.not_lt.mpr hmin hlt
    next hlimits =>
      rw [not_or, gt_iff_lt, BitVec.not_lt, BitVec.not_lt] at hlimits
      split
      next hne =>
        constructor
        . intro h' hleaves
          exact absurd h'.fits (Nat.not_le.mpr hleaves.2.2.2.2)
        . intro hleaves
          refine ⟨h.pos, ?_⟩
          by_contra hfits
          exact hleaves ⟨by simpa using hstarted, hlimits.2, hlimits.1, hne.symm, Nat.not_le.mp hfits⟩
      next heq =>
        apply iff_of_true h
        rintro ⟨-, -, -, hne, -⟩
        exact heq hne.symm

theorem inRange_setPeriod_iff {info : RtHwtimerInfo} {s : TimerState} (h : InRange info s)
    (periodMs : BitVec 32)
    : InRange info (drvHardTimerSetPeriod info s periodMs).2
        ↔ ¬LeavesRange info ((timerMachine info).visit s (.setPeriod periodMs)) := by
  -- The frequency that is read back changes neither the one in force nor the period.
  have hread : InRange info (drvHardTimerGetFreq s) := ⟨h.pos, h.fits⟩
  rw [leavesRange_setPeriod_iff]
  unfold drvHardTimerSetPeriod
  dsimp only
  split
  next hstarted =>
    apply iff_of_true hread
    rintro ⟨hstopped, -⟩
    rw [drvHardTimerGetFreq, hstopped] at hstarted
    cases hstarted
  next hstarted =>
    split
    next hlimits =>
      apply iff_of_true hread
      rintro ⟨-, rfl, hfreq⟩
      cases hlimits with
      | inl hlt => exact BitVec.not_lt_zero hlt
      | inr hlt => exact BitVec.not_lt.mpr ((minPeriodMs_le_zero_iff s.freq).mpr hfreq) hlt
    next hlimits =>
      rw [not_or, gt_iff_lt, BitVec.not_lt, BitVec.not_lt] at hlimits
      constructor
      . rintro h' ⟨-, rfl, -⟩
        exact h'.pos rfl
      . intro hleaves
        refine ⟨?_, fits_of_le_maxPeriodMs hlimits.1⟩
        intro hzero
        have hzero : periodMs = 0 := BitVec.eq_of_toNat_eq hzero
        subst hzero
        exact hleaves ⟨by simpa [drvHardTimerGetFreq] using hstarted, rfl,
          (minPeriodMs_le_zero_iff s.freq).mp hlimits.2⟩

theorem inRange_step_iff {info : RtHwtimerInfo} {s : TimerState} (h : InRange info s) (op : TimerOp)
    : InRange info ((timerMachine info).step s op).1
        ↔ ¬LeavesRange info ((timerMachine info).visit s op) := by
  cases op with
  | setFreq freq => exact inRange_setFreq_iff h freq
  | setPeriod periodMs => exact inRange_setPeriod_iff h periodMs
  | start writes =>
    cases writes with
    | false => simp [timerMachine, drvHardTimerStart, LeavesRange, h]
    | true => simpa [timerMachine, drvHardTimerStart, LeavesRange] using ⟨h.pos, h.fits⟩
  | stop => simpa [timerMachine, drvHardTimerStop, LeavesRange] using ⟨h.pos, h.fits⟩

theorem startsRight_iff {info : RtHwtimerInfo} {s : TimerState} (h : InRange info s) (op : TimerOp)
    : StartsRight info ((timerMachine info).visit s op)
        ↔ ¬LeavesRange info ((timerMachine info).visit s op) := by
  rw [← inRange_step_iff h op, ← startRight_start_iff]
  apply and_iff_right
  cases op with
  | start writes => exact (startRight_start_iff info s).mpr h writes
  | setFreq freq => nofun
  | setPeriod periodMs => nofun
  | stop => nofun

theorem timer_startsRight_iff {info : RtHwtimerInfo} {s : TimerState} (h : InRange info s)
    (ops : List TimerOp)
    : (∀ v ∈ (timerMachine info).visits s ops, StartsRight info v)
        ↔ ∀ v ∈ (timerMachine info).visits s ops, ¬LeavesRange info v := by
  apply Machine.forall_visits_iff (InRange info)
  . intro s op hs hleaves
    exact (inRange_step_iff hs op).mpr hleaves
  . intro s op hs
    exact startsRight_iff hs op
  . exact h

def exampleInfo : RtHwtimerInfo := ⟨100000000, 1000, 0xffffffff⟩

def exampleTimer : TimerState := ⟨⟨false, 12500000, 1000⟩, 12500000⟩

theorem exampleTimer_inRange : InRange exampleInfo exampleTimer := by
  constructor <;> decide

theorem timer_startsRight_initialPeriod
    : (∀ v ∈ (timerMachine exampleInfo).visits exampleTimer [.setFreq 25000000, .start true],
        StartsRight exampleInfo v)
      ↔ ∀ v ∈ (timerMachine exampleInfo).visits exampleTimer [.setFreq 25000000, .start true],
        ¬LeavesRange exampleInfo v :=
  timer_startsRight_iff exampleTimer_inRange _

/-
A period that is set at 1000 Hz is programmed at 25 MHz, where the counter ends after 171 seconds.
-/
def exampleOps : List TimerOp :=
  [.setFreq 1000, .setPeriod 1000000, .setFreq 25000000]

theorem timer_start_beyondCounter
    : ¬∀ (info : RtHwtimerInfo) (s : TimerState) (ops : List TimerOp), InRange info s →
        ∀ v ∈ (timerMachine info).visits s ops, StartRight info v := by
  intro h
  have hstart := h exampleInfo exampleTimer (exampleOps ++ [.start true]) exampleTimer_inRange _
    (Machine.visit_final_mem _ _ _ _) true rfl rfl
  obtain ⟨tv, htv, -, hfits⟩ := hstart
  have hprogrammed : ((timerMachine exampleInfo).visit
      ((timerMachine exampleInfo).final exampleTimer exampleOps) (.start true)).obs.programmed
        = some ⟨1000, 0⟩ := by
    decide +kernel
  have hfreq : ((timerMachine exampleInfo).visit
      ((timerMachine exampleInfo).final exampleTimer exampleOps) (.start true)).post.freq = 25000000 := by
    decide +kernel
  rw [hprogrammed] at htv
  cases htv
  rw [hfreq] at hfits
  revert hfits
  decide

end HardTimer

import RtsmartLib.Lib.Checked
import RtsmartLib.Lib.Machine
import RtsmartLib.Lib.Memory
import Mathlib.Logic.Function.Basic

/-!
This module contains the PWM calls that set and read the frequency and the duty of a channel, with the
arithmetic between frequency, period, pulse and duty.
-/

namespace Pwm

open Lib

def nsecPerSec : Nat := 1000000000

/-
In nanoseconds.
-/
structure RtPwmConfiguration where
  period : BitVec 32
  pulse : BitVec 32
  deriving DecidableEq, Repr

/-
Whether the device is open, and what the kernel has stored for each channel.
-/
structure PwmState where
  fd : Bool
  configs : Int → RtPwmConfiguration

/-
What the kernel answers to a call: to the open, where there is one, and to the ioctl.
-/
structure PwmCall where
  openOk : Bool
  ret : Int

def pwmIoctl (s : PwmState) (call : PwmCall) : PwmState × Int :=
  if !s.fd && !call.openOk then
    (s, -1)
  else
    ({ s with fd := true }, call.ret)

/-
`PWM_CHECK_CHANNEL`
-/
def pwmChannelOk (channel : Int) : Bool :=
  !(0 > channel || 5 < channel)

def drvPwmGetCfg (s : PwmState) (channel : Int) (call : PwmCall)
    : PwmState × Option RtPwmConfiguration :=
  if !pwmChannelOk channel then
    (s, none)
  else
    let (s, ret) := pwmIoctl s call
    if ret ≠ 0 then
      (s, none)
    else
      (s, some (s.configs channel))

def pwmSetCfg (s : PwmState) (channel : Int) (cfg : RtPwmConfiguration) (call : PwmCall)
    : PwmState × Int :=
  let (s, ret) := pwmIoctl s call
  if ret ≠ 0 then
    (s, -1)
  else
    ({ s with configs := Function.update s.configs channel cfg }, 0)

structure PwmCalls where
  getCfg : PwmCall
  setCfg : PwmCall

/-
The pulse that keeps the ratio of pulse to period, in 64 bits until it is stored.
-/
def pwmRescale (period : BitVec 32) (old : RtPwmConfiguration) : Except ArithFault (BitVec 32) := do
  let pulse ←
    if old.pulse ≠ 0 ∧ old.period ≠ 0 then
      let product ← checkedMul 64 period.toNat old.pulse.toNat
      checkedDiv product old.period.toNat
    else
      pure 0
  let pulse := BitVec.ofNat 32 pulse
  return if pulse > period then period else pulse

def drvPwmSetFreq (s : PwmState) (channel : Int) (freq : BitVec 32) (calls : PwmCalls)
    : Except ArithFault (PwmState × Int) :=
  if !pwmChannelOk channel then
    return (s, -1)
  else if freq = 0 ∨ freq.toNat > nsecPerSec then
    return (s, -1)
  else
    match drvPwmGetCfg s channel calls.getCfg with
    | (s, none) => return (s, -1)
    | (s, some old) => do
      let period ← checkedDiv nsecPerSec freq.toNat
      let period := BitVec.ofNat 32 period
      if period = 0 then
        return (s, -1)
      else
        let pulse ← pwmRescale period old
        return pwmSetCfg s channel ⟨period, pulse⟩ calls.setCfg

/-
A call that reads gives nothing where it returns -1.
-/
def drvPwmGetFreq (s : PwmState) (channel : Int) (call : PwmCall)
    : Except ArithFault (PwmState × Option (BitVec 32)) :=
  match drvPwmGetCfg s channel call with
  | (s, none) => return (s, none)
  | (s, some cfg) =>
    if cfg.period = 0 then
      return (s, none)
    else do
      let freq ← checkedDiv nsecPerSec cfg.period.toNat
      return (s, some (BitVec.ofNat 32 freq))

def drvPwmSetDuty (s : PwmState) (channel : Int) (duty : BitVec 32) (calls : PwmCalls)
    : Except ArithFault (PwmState × Int) :=
  if !pwmChannelOk channel then
    return (s, -1)
  else if duty > 100 then
    return (s, -1)
  else
    match drvPwmGetCfg s channel calls.getCfg with
    | (s, none) => return (s, -1)
    | (s, some cfg) => do
      let pulse ←
        if duty ≠ 0 then
          let product ← checkedMul 64 cfg.period.toNat duty.toNat
          checkedDiv product 100
        else
          pure 0
      return pwmSetCfg s channel ⟨cfg.period, BitVec.ofNat 32 pulse⟩ calls.setCfg

def drvPwmGetDuty (s : PwmState) (channel : Int) (call : PwmCall)
    : Except ArithFault (PwmState × Option (BitVec 32)) :=
  match drvPwmGetCfg s channel call with
  | (s, none) => return (s, none)
  | (s, some cfg) =>
    if cfg.period = 0 then
      return (s, some 0)
    else if cfg.pulse ≠ 0 then do
      let product ← checkedMul 64 cfg.pulse.toNat 100
      let duty ← checkedDiv product cfg.period.toNat
      return (s, some (BitVec.ofNat 32 duty))
    else
      return (s, some 0)

def drvPwmSetDutyU16 (s : PwmState) (channel : Int) (dutyU16 : BitVec 16) (calls : PwmCalls)
    : Except ArithFault (PwmState × Int) :=
  match drvPwmGetCfg s channel calls.getCfg with
  | (s, none) => return (s, -1)
  | (s, some cfg) => do
    let product ← checkedMul 64 cfg.period.toNat dutyU16.toNat
    return pwmSetCfg s channel ⟨cfg.period, BitVec.ofNat 32 (product >>> 16)⟩ calls.setCfg

def drvPwmGetDutyU16 (s : PwmState) (channel : Int) (call : PwmCall)
    : Except ArithFault (PwmState × Option (BitVec 16)) :=
  match drvPwmGetCfg s channel call with
  | (s, none) => return (s, none)
  | (s, some cfg) =>
    if cfg.period = 0 then
      return (s, some 0)
    else do
      let product ← checkedMul 64 cfg.pulse.toNat 65535
      let duty ← checkedDiv product cfg.period.toNat
      return (s, some (BitVec.ofNat 16 duty))

def drvPwmSetDutyNs (s : PwmState) (channel : Int) (pulseNs : BitVec 32) (calls : PwmCalls)
    : Except ArithFault (PwmState × Int) :=
  match drvPwmGetCfg s channel calls.getCfg with
  | (s, none) => return (s, -1)
  | (s, some cfg) =>
    if pulseNs > cfg.period then
      return (s, -1)
    else
      return pwmSetCfg s channel ⟨cfg.period, pulseNs⟩ calls.setCfg

def RtPwmConfiguration.Ok (cfg : RtPwmConfiguration) : Prop :=
  cfg.pulse.toNat ≤ cfg.period.toNat

theorem pwmIoctl_configs (s : PwmState) (call : PwmCall) : (pwmIoctl s call).1.configs = s.configs := by
  unfold pwmIoctl
  split
  . rfl
  . rfl

theorem drvPwmGetCfg_cases (s : PwmState) (channel : Int) (call : PwmCall)
    : ∃ s', s'.configs = s.configs
        ∧ (drvPwmGetCfg s channel call = (s', none)
          ∨ drvPwmGetCfg s channel call = (s', some (s.configs channel))) := by
  have hconfigs := pwmIoctl_configs s call
  unfold drvPwmGetCfg
  generalize pwmIoctl s call = res at hconfigs
  split
  . exact ⟨s, rfl, .inl rfl⟩
  . refine ⟨res.1, hconfigs, ?_⟩
    dsimp only
    rw [hconfigs]
    split
    . exact .inl rfl
    . exact .inr rfl

/-
What a call that sets can do: nothing to the configurations, or store one whose pulse fits its period.
It never runs into an arithmetic fault.
-/
inductive PwmEffect (s : PwmState) (channel : Int) : Except ArithFault (PwmState × Int) → Prop where
  | kept {s' : PwmState} (hkept : s'.configs = s.configs) : PwmEffect s channel (.ok (s', -1))
  | stored {s' : PwmState} {cfg : RtPwmConfiguration} (hok : cfg.Ok)
      (hstored : s'.configs = Function.update s.configs channel cfg)
    : PwmEffect s channel (.ok (s', 0))

theorem pwmSetCfg_effect {s s' : PwmState} {channel : Int} (hs : s'.configs = s.configs)
    {cfg : RtPwmConfiguration} (hok : cfg.Ok) (call : PwmCall)
    : PwmEffect s channel (.ok (pwmSetCfg s' channel cfg call)) := by
  have hconfigs := (pwmIoctl_configs s' call).trans hs
  unfold pwmSetCfg
  generalize pwmIoctl s' call = res at hconfigs
  dsimp only
  split
  . exact .kept hconfigs
  . apply PwmEffect.stored hok
    rw [hconfigs]

theorem toNat_ne_zero {w : Nat} {a : BitVec w} (h : a ≠ 0) : a.toNat ≠ 0 := by
  intro hzero
  exact h (BitVec.eq_of_toNat_eq hzero)

theorem pwmRescale_ok (period : BitVec 32) (old : RtPwmConfiguration)
    : ∃ pulse, pwmRescale period old = .ok pulse ∧ pulse.toNat ≤ period.toNat := by
  have hclamp : ∀ pulse : BitVec 32,
      (if pulse > period then period else pulse).toNat ≤ period.toNat := by
    intro pulse
    split
    . exact Nat.le_refl _
    . next hle => exact BitVec.not_lt.mp hle
  unfold pwmRescale
  by_cases hratio : old.pulse ≠ 0 ∧ old.period ≠ 0
  . rw [if_pos hratio]
    rw [checkedMul_halves (w := 32) period.isLt old.pulse.isLt]
    rw [ok_bind, checkedDiv_ok _ (toNat_ne_zero hratio.2)]
    exact ⟨_, rfl, hclamp _⟩
  . rw [if_neg hratio]
    exact ⟨_, rfl, hclamp _⟩

theorem toNat_nsecPerSec_div (freq : BitVec 32)
    : (BitVec.ofNat 32 (nsecPerSec / freq.toNat)).toNat = nsecPerSec / freq.toNat := by
  have hle := Nat.div_le_self nsecPerSec freq.toNat
  have hlit : nsecPerSec = 1000000000 := rfl
  rw [BitVec.toNat_ofNat, Nat.mod_eq_of_lt (by omega)]

theorem drvPwmSetFreq_effect (s : PwmState) (channel : Int) (freq : BitVec 32) (calls : PwmCalls)
    : PwmEffect s channel (drvPwmSetFreq s channel freq calls) := by
  unfold drvPwmSetFreq
  split
  . exact .kept rfl
  . split
    . exact .kept rfl
    . next hfreq =>
      obtain ⟨s', hs, hget | hget⟩ := drvPwmGetCfg_cases s channel calls.getCfg
      . rw [hget]
        exact .kept hs
      . rw [hget]
        dsimp only
        rw [checkedDiv_ok _ (toNat_ne_zero fun h => hfreq (.inl h)), ok_bind]
        split
        . exact .kept hs
        . obtain ⟨pulse, hpulse, hle⟩ :=
            pwmRescale_ok (BitVec.ofNat 32 (nsecPerSec / freq.toNat)) (s.configs channel)
          have hok : RtPwmConfiguration.Ok ⟨BitVec.ofNat 32 (nsecPerSec / freq.toNat), pulse⟩ := hle
          rw [hpulse, ok_bind]
          exact pwmSetCfg_effect hs hok calls.setCfg

/-
A part of a period that is no more than the whole, as it is stored.
-/
theorem stored_part (period : BitVec 32) {d c : Nat} (hc : 0 < c) (hd : d ≤ c)
    : (BitVec.ofNat 32 (period.toNat * d / c)).toNat = period.toNat * d / c
        ∧ RtPwmConfiguration.Ok ⟨period, BitVec.ofNat 32 (period.toNat * d / c)⟩ := by
  have hle : period.toNat * d / c ≤ period.toNat := by
    calc
      period.toNat * d / c ≤ period.toNat * c / c :=
        Nat.div_le_div_right (Nat.mul_le_mul_left _ hd)
      _ = period.toNat := Nat.mul_div_cancel _ hc
  have hperiod := period.isLt
  have hstored : (BitVec.ofNat 32 (period.toNat * d / c)).toNat = period.toNat * d / c := by
    rw [BitVec.toNat_ofNat, Nat.mod_eq_of_lt (by omega)]
  refine ⟨hstored, ?_⟩
  unfold RtPwmConfiguration.Ok
  dsimp only
  rw [hstored]
  exact hle

theorem drvPwmSetDuty_effect (s : PwmState) (channel : Int) (duty : BitVec 32) (calls : PwmCalls)
    : PwmEffect s channel (drvPwmSetDuty s channel duty calls) := by
  unfold drvPwmSetDuty
  split
  . exact .kept rfl
  . split
    . exact .kept rfl
    . next hduty =>
      obtain ⟨s', hs, hget | hget⟩ := drvPwmGetCfg_cases s channel calls.getCfg
      . rw [hget]
        exact .kept hs
      . rw [hget]
        dsimp only
        split
        . rw [checkedMul_halves (w := 32) (s.configs channel).period.isLt duty.isLt, ok_bind]
          rw [checkedDiv_ok _ (by omega), ok_bind]
          have hle : duty.toNat ≤ 100 := BitVec.not_lt.mp hduty
          exact pwmSetCfg_effect hs (stored_part _ (by omega) hle).2 calls.setCfg
        . exact pwmSetCfg_effect hs (Nat.zero_le _) calls.setCfg

theorem mul_u16_lt (period : BitVec 32) (dutyU16 : BitVec 16)
    : period.toNat * dutyU16.toNat < 2 ^ 64 := by
  have hle : dutyU16.toNat ≤ 2 ^ 16 := Nat.le_of_lt dutyU16.isLt
  have hmul : period.toNat * dutyU16.toNat ≤ period.toNat * 2 ^ 16 := Nat.mul_le_mul_left _ hle
  have hperiod := period.isLt
  omega

theorem drvPwmSetDutyU16_effect (s : PwmState) (channel : Int) (dutyU16 : BitVec 16)
    (calls : PwmCalls)
    : PwmEffect s channel (drvPwmSetDutyU16 s channel dutyU16 calls) := by
  unfold drvPwmSetDutyU16
  obtain ⟨s', hs, hget | hget⟩ := drvPwmGetCfg_cases s channel calls.getCfg
  . rw [hget]
    exact .kept hs
  . rw [hget]
    dsimp only
    rw [checkedMul_ok (mul_u16_lt _ _), ok_bind, Nat.shiftRight_eq_div_pow]
    have hle : dutyU16.toNat ≤ 2 ^ 16 := Nat.le_of_lt dutyU16.isLt
    exact pwmSetCfg_effect hs (stored_part _ (by omega) hle).2 calls.setCfg

theorem drvPwmSetDutyNs_effect (s : PwmState) (channel : Int) (pulseNs : BitVec 32)
    (calls : PwmCalls)
    : PwmEffect s channel (drvPwmSetDutyNs s channel pulseNs calls) := by
  unfold drvPwmSetDutyNs
  obtain ⟨s', hs, hget | hget⟩ := drvPwmGetCfg_cases s channel calls.getCfg
  . rw [hget]
    exact .kept hs
  . rw [hget]
    dsimp only
    split
    . exact .kept hs
    . next hle => exact pwmSetCfg_effect hs (BitVec.not_lt.mp hle) calls.setCfg

inductive PwmOp where
  | setFreq (channel : Int) (freq : BitVec 32) (calls : PwmCalls)
  | setDuty (channel : Int) (duty : BitVec 32) (calls : PwmCalls)
  | setDutyU16 (channel : Int) (dutyU16 : BitVec 16) (calls : PwmCalls)
  | setDutyNs (channel : Int) (pulseNs : BitVec 32) (calls : PwmCalls)

def PwmOp.channel (op : PwmOp) : Int :=
  match op with
  | .setFreq channel .. => channel
  | .setDuty channel .. => channel
  | .setDutyU16 channel .. => channel
  | .setDutyNs channel .. => channel

def PwmOp.run (op : PwmOp) (s : PwmState) : Except ArithFault (PwmState × Int) :=
  match op with
  | .setFreq channel freq calls => drvPwmSetFreq s channel freq calls
  | .setDuty channel duty calls => drvPwmSetDuty s channel duty calls
  | .setDutyU16 channel dutyU16 calls => drvPwmSetDutyU16 s channel dutyU16 calls
  | .setDutyNs channel pulseNs calls => drvPwmSetDutyNs s channel pulseNs calls

def pwmMachine : Lib.Machine PwmState PwmOp (Except ArithFault Int) where
  step s op :=
    match op.run s with
    | .ok (s, ret) => (s, .ok ret)
    | .error fault => (s, .error fault)

theorem run_effect (s : PwmState) (op : PwmOp) : PwmEffect s op.channel (op.run s) := by
  cases op with
  | setFreq channel freq calls => exact drvPwmSetFreq_effect s channel freq calls
  | setDuty channel duty calls => exact drvPwmSetDuty_effect s channel duty calls
  | setDutyU16 channel dutyU16 calls => exact drvPwmSetDutyU16_effect s channel dutyU16 calls
  | setDutyNs channel pulseNs calls => exact drvPwmSetDutyNs_effect s channel pulseNs calls

theorem step_ok {s : PwmState} {channel : Int} (hs : (s.configs channel).Ok) (op : PwmOp)
    : ((pwmMachine.step s op).1.configs channel).Ok
        ∧ ∃ ret, (pwmMachine.step s op).2 = .ok ret := by
  have heffect := run_effect s op
  unfold pwmMachine
  dsimp only
  generalize op.run s = res at heffect
  cases heffect with
  | kept hkept => exact ⟨hkept ▸ hs, _, rfl⟩
  | stored hok hstored =>
    refine ⟨?_, _, rfl⟩
    dsimp only
    rw [hstored]
    by_cases hchannel : channel = op.channel
    . rw [hchannel, Function.update_self]
      exact hok
    . rw [Function.update_of_ne hchannel]
      exact hs

theorem step_ok_final {s : PwmState} {channel : Int} (hs : (s.configs channel).Ok) (ops : List PwmOp)
    : ((pwmMachine.final s ops).configs channel).Ok := by
  induction ops generalizing s with
  | nil => exact hs
  | cons op ops ih => exact ih (step_ok hs op).1

/-
A pulse that fits its period is at most 100 of its hundredths.
-/
theorem measured_le {cfg : RtPwmConfiguration} (hok : cfg.Ok) (hperiod : cfg.period ≠ 0) (c : Nat)
    : cfg.pulse.toNat * c / cfg.period.toNat ≤ c := by
  have hmul : cfg.pulse.toNat * c ≤ cfg.period.toNat * c := Nat.mul_le_mul_right c hok
  have hpos := Nat.pos_of_ne_zero (toNat_ne_zero hperiod)
  calc
    cfg.pulse.toNat * c / cfg.period.toNat ≤ cfg.period.toNat * c / cfg.period.toNat :=
      Nat.div_le_div_right hmul
    _ = c := Nat.mul_div_cancel_left c hpos

theorem drvPwmGetDuty_le {s : PwmState} {channel : Int} (hs : (s.configs channel).Ok) (call : PwmCall)
    : ∃ s' read, drvPwmGetDuty s channel call = .ok (s', read) ∧ ∀ duty ∈ read, duty.toNat ≤ 100 := by
  unfold drvPwmGetDuty
  obtain ⟨s', _, hget | hget⟩ := drvPwmGetCfg_cases s channel call
  . rw [hget]
    exact ⟨s', none, rfl, by simp⟩
  . rw [hget]
    dsimp only
    split
    . exact ⟨s', some 0, rfl, by simp⟩
    . next hperiod =>
      split
      . have hle := measured_le hs hperiod 100
        have hpulse := (s.configs channel).pulse.isLt
        rw [checkedMul_ok (by omega), ok_bind]
        rw [checkedDiv_ok _ (toNat_ne_zero hperiod), ok_bind]
        refine ⟨s', _, rfl, ?_⟩
        intro duty hduty
        cases hduty
        rw [BitVec.toNat_ofNat, Nat.mod_eq_of_lt (by omega)]
        exact hle
      . exact ⟨s', some 0, rfl, by simp⟩

/-
The cast to 16 bits cuts nothing off.
-/
theorem drvPwmGetDutyU16_le {s : PwmState} {channel : Int} (hs : (s.configs channel).Ok)
    (call : PwmCall)
    : ∃ s' read, drvPwmGetDutyU16 s channel call = .ok (s', read)
        ∧ ∀ duty ∈ read, duty.toNat = (s.configs channel).pulse.toNat * 65535
            / (s.configs channel).period.toNat
          ∧ duty.toNat ≤ 65535 := by
  unfold drvPwmGetDutyU16
  obtain ⟨s', _, hget | hget⟩ := drvPwmGetCfg_cases s channel call
  . rw [hget]
    exact ⟨s', none, rfl, by simp⟩
  . rw [hget]
    dsimp only
    split
    . next hperiod =>
      refine ⟨s', some 0, rfl, ?_⟩
      intro duty hduty
      cases hduty
      rw [hperiod]
      simp
    . next hperiod =>
      have hle := measured_le hs hperiod 65535
      have hpulse := (s.configs channel).pulse.isLt
      rw [checkedMul_ok (by omega), ok_bind]
      rw [checkedDiv_ok _ (toNat_ne_zero hperiod), ok_bind]
      refine ⟨s', _, rfl, ?_⟩
      intro duty hduty
      cases hduty
      rw [BitVec.toNat_ofNat, Nat.mod_eq_of_lt (by omega)]
      exact ⟨rfl, hle⟩

/--
Whatever is set in whatever order, no product overflows, nothing is divided by zero, the pulse of the
channel fits its period, and what is read back is in range.
-/
theorem pwmInv_runs {s : PwmState} {channel : Int} (hs : (s.configs channel).Ok) (ops : List PwmOp)
    : (∀ v ∈ pwmMachine.visits s ops, (v.post.configs channel).Ok ∧ ∃ ret, v.obs = .ok ret)
        ∧ ∀ call,
          (∃ s' read, drvPwmGetDuty (pwmMachine.final s ops) channel call = .ok (s', read)
            ∧ ∀ duty ∈ read, duty.toNat ≤ 100)
          ∧ ∃ s' read, drvPwmGetDutyU16 (pwmMachine.final s ops) channel call = .ok (s', read)
            ∧ ∀ duty ∈ read,
                duty.toNat = ((pwmMachine.final s ops).configs channel).pulse.toNat * 65535
                  / ((pwmMachine.final s ops).configs channel).period.toNat
                ∧ duty.toNat ≤ 65535 := by
  constructor
  . intro v hv
    have hpre := @Lib.Machine.visits_inv _ _ _ pwmMachine (fun s => (s.configs channel).Ok)
      (fun s op hs => (step_ok hs op).1) s hs ops v hv
    rw [Lib.Machine.eq_visit_of_mem hv]
    exact step_ok hpre v.event
  . intro call
    have hfinal := step_ok_final hs ops
    exact ⟨drvPwmGetDuty_le hfinal call, drvPwmGetDutyU16_le hfinal call⟩

theorem pwmInv_runs_unset
    : let s : PwmState := ⟨false, fun _ => ⟨0, 0⟩⟩
      let ok : PwmCalls := ⟨⟨true, 0⟩, ⟨true, 0⟩⟩
      let ops : List PwmOp := [.setDuty 0 50 ok, .setFreq 0 1000 ok, .setDutyU16 0 65535 ok]
      (∀ v ∈ pwmMachine.visits s ops, (v.post.configs 0).Ok ∧ ∃ ret, v.obs = .ok ret)
        ∧ ∀ call,
          (∃ s' read, drvPwmGetDuty (pwmMachine.final s ops) 0 call = .ok (s', read)
            ∧ ∀ duty ∈ read, duty.toNat ≤ 100)
          ∧ ∃ s' read, drvPwmGetDutyU16 (pwmMachine.final s ops) 0 call = .ok (s', read)
            ∧ ∀ duty ∈ read,
                duty.toNat = ((pwmMachine.final s ops).configs 0).pulse.toNat * 65535
                  / ((pwmMachine.final s ops).configs 0).period.toNat
                ∧ duty.toNat ≤ 65535 := by
  intro s ok ops
  have hs : (s.configs 0).Ok := Nat.le_refl 0
  exact pwmInv_runs hs ops

end Pwm

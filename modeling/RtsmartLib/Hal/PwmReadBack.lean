import RtsmartLib.Hal.Pwm

/-!
This module contains what the PWM calls read back after a call that has set something: the frequency is
stable, the duty is often one less than what was set.
-/

namespace Pwm

open Lib

theorem drvPwmGetCfg_some {s s' : PwmState} {channel : Int} {call : PwmCall}
    {cfg : RtPwmConfiguration} (h : drvPwmGetCfg s channel call = (s', some cfg))
    : cfg = s.configs channel ∧ s'.configs = s.configs := by
  obtain ⟨t, hconfigs, hget | hget⟩ := drvPwmGetCfg_cases s channel call
  . rw [hget] at h
    cases h
  . rw [hget] at h
    cases h
    exact ⟨rfl, hconfigs⟩

theorem pwmSetCfg_ok {s s' : PwmState} {channel : Int} {cfg : RtPwmConfiguration} {call : PwmCall}
    (h : pwmSetCfg s channel cfg call = (s', 0))
    : s'.configs = Function.update s.configs channel cfg := by
  have hconfigs := pwmIoctl_configs s call
  unfold pwmSetCfg at h
  generalize pwmIoctl s call = res at h hconfigs
  dsimp only at h
  split at h
  . cases h
  . cases h
    rw [hconfigs]

theorem drvPwmSetDuty_ok {s s' : PwmState} {channel : Int} {duty : BitVec 32} {calls : PwmCalls}
    (h : drvPwmSetDuty s channel duty calls = .ok (s', 0))
    : (s'.configs channel).period = (s.configs channel).period
        ∧ (s'.configs channel).pulse.toNat = (s.configs channel).period.toNat * duty.toNat / 100
        ∧ (s'.configs channel).Ok := by
  unfold drvPwmSetDuty at h
  split at h
  . cases h
  . split at h
    . cases h
    . next hduty =>
      have hle : duty.toNat ≤ 100 := BitVec.not_lt.mp hduty
      have hpart := stored_part (s.configs channel).period (by omega) hle
      split at h
      . cases h
      . next t cfg hget =>
        obtain ⟨rfl, hconfigs⟩ := drvPwmGetCfg_some hget
        split at h
        . rw [checkedMul_halves (w := 32) (s.configs channel).period.isLt duty.isLt, ok_bind] at h
          rw [checkedDiv_ok _ (by omega), ok_bind] at h
          rw [pwmSetCfg_ok (Except.ok.inj h), Function.update_self]
          exact ⟨rfl, hpart⟩
        . next hzero =>
          have hzero : duty = 0 := Classical.not_not.mp hzero
          rw [pwmSetCfg_ok (Except.ok.inj h), Function.update_self, hzero]
          exact ⟨rfl, by simp, Nat.zero_le _⟩

theorem drvPwmSetDutyU16_ok {s s' : PwmState} {channel : Int} {dutyU16 : BitVec 16}
    {calls : PwmCalls} (h : drvPwmSetDutyU16 s channel dutyU16 calls = .ok (s', 0))
    : (s'.configs channel).period = (s.configs channel).period
        ∧ (s'.configs channel).pulse.toNat
          = (s.configs channel).period.toNat * dutyU16.toNat / 65536
        ∧ (s'.configs channel).Ok := by
  unfold drvPwmSetDutyU16 at h
  split at h
  . cases h
  . next t cfg hget =>
    obtain ⟨rfl, hconfigs⟩ := drvPwmGetCfg_some hget
    have hle : dutyU16.toNat ≤ 2 ^ 16 := Nat.le_of_lt dutyU16.isLt
    rw [checkedMul_ok (mul_u16_lt _ _), ok_bind, Nat.shiftRight_eq_div_pow] at h
    rw [pwmSetCfg_ok (Except.ok.inj h), Function.update_self]
    exact ⟨rfl, stored_part (s.configs channel).period (by omega) hle⟩

theorem drvPwmGetDuty_some {s s' : PwmState} {channel : Int} {call : PwmCall} {duty : BitVec 32}
    (h : drvPwmGetDuty s channel call = .ok (s', some duty))
    : duty = BitVec.ofNat 32
        ((s.configs channel).pulse.toNat * 100 / (s.configs channel).period.toNat) := by
  unfold drvPwmGetDuty at h
  split at h
  . cases h
  . next t cfg hget =>
    obtain ⟨rfl, _⟩ := drvPwmGetCfg_some hget
    split at h
    . next hperiod =>
      cases h
      rw [hperiod]
      simp
    . next hperiod =>
      split at h
      . have hpulse := (s.configs channel).pulse.isLt
        rw [checkedMul_ok (by omega), ok_bind] at h
        rw [checkedDiv_ok _ (toNat_ne_zero hperiod), ok_bind] at h
        cases h
        rfl
      . next hpulse =>
        have hpulse : (s.configs channel).pulse = 0 := Classical.not_not.mp hpulse
        cases h
        rw [hpulse]
        simp

theorem drvPwmGetDutyU16_some {s s' : PwmState} {channel : Int} {call : PwmCall} {duty : BitVec 16}
    (h : drvPwmGetDutyU16 s channel call = .ok (s', some duty))
    : duty = BitVec.ofNat 16
        ((s.configs channel).pulse.toNat * 65535 / (s.configs channel).period.toNat) := by
  unfold drvPwmGetDutyU16 at h
  split at h
  . cases h
  . next t cfg hget =>
    obtain ⟨rfl, _⟩ := drvPwmGetCfg_some hget
    split at h
    . next hperiod =>
      cases h
      rw [hperiod]
      simp
    . next hperiod =>
      have hpulse := (s.configs channel).pulse.isLt
      rw [checkedMul_ok (by omega), ok_bind] at h
      rw [checkedDiv_ok _ (toNat_ne_zero hperiod), ok_bind] at h
      cases h
      rfl

theorem drvPwmSetFreq_ok {s s' : PwmState} {channel : Int} {freq : BitVec 32} {calls : PwmCalls}
    (h : drvPwmSetFreq s channel freq calls = .ok (s', 0))
    : freq ≠ 0 ∧ freq.toNat ≤ nsecPerSec
        ∧ ∃ pulse, pwmRescale (BitVec.ofNat 32 (nsecPerSec / freq.toNat)) (s.configs channel) = .ok pulse
          ∧ s'.configs = Function.update s.configs channel
              ⟨BitVec.ofNat 32 (nsecPerSec / freq.toNat), pulse⟩ := by
  unfold drvPwmSetFreq at h
  split at h
  . cases h
  . split at h
    . cases h
    . next hfreq =>
      simp only [not_or, Nat.not_lt] at hfreq
      split at h
      . cases h
      . next t cfg hget =>
        obtain ⟨rfl, hconfigs⟩ := drvPwmGetCfg_some hget
        rw [checkedDiv_ok _ (toNat_ne_zero hfreq.1), ok_bind] at h
        dsimp only at h
        split at h
        . cases h
        . obtain ⟨pulse, hpulse, hle⟩ :=
            pwmRescale_ok (BitVec.ofNat 32 (nsecPerSec / freq.toNat)) (s.configs channel)
          rw [hpulse, ok_bind] at h
          refine ⟨hfreq.1, hfreq.2, pulse, hpulse, ?_⟩
          rw [pwmSetCfg_ok (Except.ok.inj h), hconfigs]

/-
The calls, of which the one that sets has succeeded and the one that reads has given something.
-/
theorem duty_readBack_iff {s s' s'' : PwmState} {channel : Int} {duty read : BitVec 32}
    {calls : PwmCalls} {call : PwmCall} (hperiod : (s.configs channel).period ≠ 0)
    (hset : drvPwmSetDuty s channel duty calls = .ok (s', 0))
    (hget : drvPwmGetDuty s' channel call = .ok (s'', some read))
    : read = duty ↔ 100 ∣ (s.configs channel).period.toNat * duty.toNat := by
  have hpos := Nat.pos_of_ne_zero (toNat_ne_zero hperiod)
  obtain ⟨hkept, hpulse, hok⟩ := drvPwmSetDuty_ok hset
  have hle := measured_le hok (hkept ▸ hperiod) 100
  rw [drvPwmGetDuty_some hget, ← BitVec.toNat_inj]
  rw [BitVec.toNat_ofNat, Nat.mod_eq_of_lt (by omega)]
  rw [hkept, hpulse]
  exact mul_div_mul_div_eq_iff hpos

theorem dutyU16_readBack_iff {s s' s'' : PwmState} {channel : Int} {duty read : BitVec 16}
    {calls : PwmCalls} {call : PwmCall} (hperiod : (s.configs channel).period ≠ 0)
    (hset : drvPwmSetDutyU16 s channel duty calls = .ok (s', 0))
    (hget : drvPwmGetDutyU16 s' channel call = .ok (s'', some read))
    : read = duty ↔ duty = 0 := by
  have hpos := Nat.pos_of_ne_zero (toNat_ne_zero hperiod)
  obtain ⟨hkept, hpulse, hok⟩ := drvPwmSetDutyU16_ok hset
  have hle := measured_le hok (hkept ▸ hperiod) 65535
  have hread : read.toNat = (s.configs channel).period.toNat * duty.toNat / 65536 * 65535
      / (s.configs channel).period.toNat := by
    rw [drvPwmGetDutyU16_some hget]
    rw [BitVec.toNat_ofNat, Nat.mod_eq_of_lt (by omega)]
    rw [hkept, hpulse]
  constructor
  . intro heq
    apply Classical.byContradiction
    intro hne
    have hlt := mul_div_mul_div_lt (show 65535 < 65536 by omega) hpos
      (Nat.pos_of_ne_zero (toNat_ne_zero hne))
    rw [← hread, heq] at hlt
    exact Nat.lt_irrefl _ hlt
  . intro hzero
    apply BitVec.eq_of_toNat_eq
    rw [hread, hzero]
    simp

/--
On a channel with an accepted frequency a percentage is read back as it was set exactly if it makes a
whole pulse, and a duty in 16 bits exactly if it is 0.
-/
theorem pwmDuty_readBack_iff {s s1 : PwmState} {channel : Int} {freq : BitVec 32} {calls : PwmCalls}
    (hfreq : drvPwmSetFreq s channel freq calls = .ok (s1, 0))
    (hperiod : 65536 ≤ nsecPerSec / freq.toNat)
    : (∀ (duty read : BitVec 32) (s2 s3 : PwmState) (calls : PwmCalls) (call : PwmCall),
          drvPwmSetDuty s1 channel duty calls = .ok (s2, 0) →
          drvPwmGetDuty s2 channel call = .ok (s3, some read) →
            (read = duty ↔ 100 ∣ nsecPerSec / freq.toNat * duty.toNat))
        ∧ ∀ (duty read : BitVec 16) (s2 s3 : PwmState) (calls : PwmCalls) (call : PwmCall),
            drvPwmSetDutyU16 s1 channel duty calls = .ok (s2, 0) →
            drvPwmGetDutyU16 s2 channel call = .ok (s3, some read) →
              (read = duty ↔ duty = 0) := by
  obtain ⟨_, _, pulse, _, hstored⟩ := drvPwmSetFreq_ok hfreq
  have hnat : (s1.configs channel).period.toNat = nsecPerSec / freq.toNat := by
    rw [hstored, Function.update_self, toNat_nsecPerSec_div]
  have hne : (s1.configs channel).period ≠ 0 := by
    intro hzero
    rw [hzero] at hnat
    simp at hnat
    omega
  constructor
  . intro duty read s2 s3 calls call hset hget
    rw [duty_readBack_iff hne hset hget, hnat]
  . intro duty read s2 s3 calls call hset hget
    exact dutyU16_readBack_iff hne hset hget

theorem pwmDuty_readBack_iff_1kHz
    : let ok : PwmCalls := ⟨⟨true, 0⟩, ⟨true, 0⟩⟩
      let s1 : PwmState := ⟨true, Function.update (fun _ => ⟨0, 0⟩) 0 ⟨1000000, 0⟩⟩
      drvPwmSetFreq ⟨false, fun _ => ⟨0, 0⟩⟩ 0 1000 ok = .ok (s1, 0)
        ∧ (∀ (duty read : BitVec 32) (s2 s3 : PwmState) (calls : PwmCalls) (call : PwmCall),
          drvPwmSetDuty s1 0 duty calls = .ok (s2, 0) →
          drvPwmGetDuty s2 0 call = .ok (s3, some read) →
            (read = duty ↔ 100 ∣ nsecPerSec / (1000 : BitVec 32).toNat * duty.toNat))
        ∧ ∀ (duty read : BitVec 16) (s2 s3 : PwmState) (calls : PwmCalls) (call : PwmCall),
            drvPwmSetDutyU16 s1 0 duty calls = .ok (s2, 0) →
            drvPwmGetDutyU16 s2 0 call = .ok (s3, some read) →
              (read = duty ↔ duty = 0) := by
  intro ok s1
  have hset : drvPwmSetFreq ⟨false, fun _ => ⟨0, 0⟩⟩ 0 1000 ok = .ok (s1, 0) := rfl
  exact ⟨hset, pwmDuty_readBack_iff hset (by decide)⟩

/-
At 1 kHz a duty of one half in 16 bits is read back as 32767.
-/
theorem pwmDuty_readBack_fails
    : ¬∀ (s s1 : PwmState) (channel : Int) (freq : BitVec 32) (calls : PwmCalls),
        drvPwmSetFreq s channel freq calls = .ok (s1, 0) → 65536 ≤ nsecPerSec / freq.toNat →
          (∀ (duty read : BitVec 32) (s2 s3 : PwmState),
            drvPwmSetDuty s1 channel duty calls = .ok (s2, 0) →
            drvPwmGetDuty s2 channel calls.getCfg = .ok (s3, some read) → read = duty)
          ∧ ∀ (duty read : BitVec 16) (s2 s3 : PwmState),
            drvPwmSetDutyU16 s1 channel duty calls = .ok (s2, 0) →
            drvPwmGetDutyU16 s2 channel calls.getCfg = .ok (s3, some read) → read = duty := by
  intro h
  have hset : drvPwmSetDutyU16 ⟨true, Function.update (fun _ => ⟨0, 0⟩) 0 ⟨1000000, 0⟩⟩ 0 32768
      ⟨⟨true, 0⟩, ⟨true, 0⟩⟩
      = .ok (⟨true, Function.update (Function.update (fun _ => ⟨0, 0⟩) 0 ⟨1000000, 0⟩) 0
          ⟨1000000, 500000⟩⟩, 0) := by
    unfold drvPwmSetDutyU16
    change (checkedMul 64 1000000 32768 >>= _) = _
    rw [checkedMul_ok (by decide), ok_bind]
    rfl
  have hget : drvPwmGetDutyU16 ⟨true, Function.update
      (Function.update (fun _ => ⟨0, 0⟩) 0 ⟨1000000, 0⟩) 0 ⟨1000000, 500000⟩⟩ 0 ⟨true, 0⟩
      = .ok (⟨true, Function.update (Function.update (fun _ => ⟨0, 0⟩) 0 ⟨1000000, 0⟩) 0
          ⟨1000000, 500000⟩⟩, some 32767) := by
    unfold drvPwmGetDutyU16
    change (checkedMul 64 500000 65535 >>= _) = _
    rw [checkedMul_ok (by decide), ok_bind]
    rfl
  have hboth := h ⟨true, fun _ => ⟨0, 0⟩⟩ _ 0 1000 ⟨⟨true, 0⟩, ⟨true, 0⟩⟩ rfl (by decide)
  have hbad := hboth.2 32768 32767 _ _ hset hget
  revert hbad
  decide

theorem pwmRescale_self {cfg : RtPwmConfiguration} (hok : cfg.Ok)
    : pwmRescale cfg.period cfg = .ok cfg.pulse := by
  unfold pwmRescale
  have hle : ¬cfg.pulse > cfg.period := BitVec.not_lt.mpr hok
  by_cases hratio : cfg.pulse ≠ 0 ∧ cfg.period ≠ 0
  . have hperiod := toNat_ne_zero hratio.2
    rw [if_pos hratio]
    rw [checkedMul_halves (w := 32) cfg.period.isLt cfg.pulse.isLt, ok_bind]
    rw [checkedDiv_ok _ hperiod, Nat.mul_div_cancel_left _ (Nat.pos_of_ne_zero hperiod), ok_bind]
    dsimp only
    rw [BitVec.ofNat_toNat, BitVec.setWidth_eq, if_neg hle]
    rfl
  . have hpulse : cfg.pulse = 0 := by
      apply Classical.byContradiction
      intro hne
      have hperiod : cfg.period = 0 := Classical.byContradiction fun h => hratio ⟨hne, h⟩
      unfold RtPwmConfiguration.Ok at hok
      rw [hperiod] at hok
      exact toNat_ne_zero hne (Nat.le_zero.mp hok)
    rw [if_neg hratio, hpulse]
    rw [hpulse] at hle
    have hzero : ¬(BitVec.ofNat 32 0 > cfg.period) := hle
    change Except.ok (if BitVec.ofNat 32 0 > cfg.period then cfg.period else BitVec.ofNat 32 0) = _
    rw [if_neg hzero]
    rfl

theorem drvPwmGetFreq_some {s s' : PwmState} {channel : Int} {call : PwmCall} {freq : BitVec 32}
    (h : drvPwmGetFreq s channel call = .ok (s', some freq))
    : freq = BitVec.ofNat 32 (nsecPerSec / (s.configs channel).period.toNat)
        ∧ s'.configs = s.configs := by
  unfold drvPwmGetFreq at h
  split at h
  . cases h
  . next t cfg hget =>
    obtain ⟨rfl, hconfigs⟩ := drvPwmGetCfg_some hget
    split at h
    . cases h
    . next hperiod =>
      rw [checkedDiv_ok _ (toNat_ne_zero hperiod), ok_bind] at h
      cases h
      exact ⟨rfl, hconfigs⟩

/--
The frequency that is read after one has been set is one that changes nothing when it is set.
-/
theorem drvPwmSetFreq_stable {s s1 s2 : PwmState} {channel : Int} {freq read : BitVec 32}
    {calls : PwmCalls} {call : PwmCall}
    (hset : drvPwmSetFreq s channel freq calls = .ok (s1, 0))
    (hget : drvPwmGetFreq s1 channel call = .ok (s2, some read)) (calls' : PwmCalls)
    : ∃ s3 ret, drvPwmSetFreq s2 channel read calls' = .ok (s3, ret) ∧ s3.configs = s1.configs := by
  obtain ⟨hne, hmax, pulse, hpulse, hstored⟩ := drvPwmSetFreq_ok hset
  obtain ⟨hread, hkept⟩ := drvPwmGetFreq_some hget
  have hok : (s1.configs channel).Ok := by
    obtain ⟨pulse', hpulse', hle⟩ :=
      pwmRescale_ok (BitVec.ofNat 32 (nsecPerSec / freq.toNat)) (s.configs channel)
    rw [hpulse] at hpulse'
    cases hpulse'
    rw [hstored, Function.update_self]
    exact hle
  have hperiod : (s1.configs channel).period = BitVec.ofNat 32 (nsecPerSec / freq.toNat) := by
    rw [hstored, Function.update_self]
  -- the period of the frequency that is read is the period that is stored
  have hback : BitVec.ofNat 32 (nsecPerSec / read.toNat) = (s1.configs channel).period := by
    rw [hread, toNat_nsecPerSec_div, hperiod, toNat_nsecPerSec_div]
    rw [div_div_div_self (Nat.pos_of_ne_zero (toNat_ne_zero hne)) hmax]
  have heffect := drvPwmSetFreq_effect s2 channel read calls'
  generalize hres : drvPwmSetFreq s2 channel read calls' = res at heffect
  cases heffect with
  | kept hkept' => exact ⟨_, _, rfl, hkept'.trans hkept⟩
  | stored _ _ =>
    refine ⟨_, _, rfl, ?_⟩
    obtain ⟨_, _, pulse', hpulse', hstored'⟩ := drvPwmSetFreq_ok hres
    rw [hback, hkept, pwmRescale_self hok] at hpulse'
    cases hpulse'
    rw [hstored', hback, hkept]
    exact Function.update_eq_self channel s1.configs

theorem drvPwmSetFreq_stable_15kHz
    : let ok : PwmCalls := ⟨⟨true, 0⟩, ⟨true, 0⟩⟩
      let s1 : PwmState := ⟨true, Function.update (fun _ => ⟨100, 50⟩) 0 ⟨66666, 33333⟩⟩
      ∃ s3 ret, drvPwmSetFreq s1 0 15000 ok = .ok (s3, ret) ∧ s3.configs = s1.configs := by
  intro ok s1
  have hset : drvPwmSetFreq ⟨true, fun _ => ⟨100, 50⟩⟩ 0 15000 ok = .ok (s1, 0) := rfl
  have hget : drvPwmGetFreq s1 0 ok.getCfg = .ok (s1, some (BitVec.ofNat 32 15000)) := by
    unfold drvPwmGetFreq
    have : drvPwmGetCfg s1 0 ok.getCfg = (s1, some ⟨66666, 33333⟩) := rfl
    rw [this]
    dsimp only
    rfl
  exact drvPwmSetFreq_stable hset hget ok

end Pwm

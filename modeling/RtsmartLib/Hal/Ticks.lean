import Mathlib.Data.Nat.Basic
import Mathlib.Data.BitVec

/-!
This module contains the helpers that turn ticks of the CPU timer into units of time, and up to which tick
they agree.
-/

namespace Ticks

def cpuTicksPerSecond : Nat := 27 * 1000 * 1000

def utilsCpuTicksMs (time : BitVec 64) : BitVec 64 :=
  time / BitVec.ofNat 64 (cpuTicksPerSecond / 1000)

def utilsCpuTicksUs (time : BitVec 64) : BitVec 64 :=
  time / BitVec.ofNat 64 (cpuTicksPerSecond / 1000000)

def utilsCpuTicksNs (time : BitVec 64) : BitVec 64 :=
  time * 1000000000#64 / BitVec.ofNat 64 cpuTicksPerSecond

/-
The time in whole nanoseconds, as a number that nothing bounds.
-/
def trueNs (time : BitVec 64) : Nat :=
  time.toNat * 1000000000 / cpuTicksPerSecond

/--
At this tick each helper is the next finer one cut off, and none has been ahead of it at an earlier tick.
-/
structure TicksRight (time : BitVec 64) : Prop where
  us : (utilsCpuTicksNs time).toNat / 1000 = (utilsCpuTicksUs time).toNat
  ms : (utilsCpuTicksUs time).toNat / 1000 = (utilsCpuTicksMs time).toNat
  nsMono : ∀ earlier ≤ time, utilsCpuTicksNs earlier ≤ utilsCpuTicksNs time
  usMono : ∀ earlier ≤ time, utilsCpuTicksUs earlier ≤ utilsCpuTicksUs time
  msMono : ∀ earlier ≤ time, utilsCpuTicksMs earlier ≤ utilsCpuTicksMs time

theorem toNat_ms (time : BitVec 64) : (utilsCpuTicksMs time).toNat = time.toNat / 27000 := by
  apply BitVec.toNat_udiv

theorem toNat_us (time : BitVec 64) : (utilsCpuTicksUs time).toNat = time.toNat / 27 := by
  apply BitVec.toNat_udiv

theorem toNat_ns (time : BitVec 64)
    : (utilsCpuTicksNs time).toNat = time.toNat * 1000000000 % 2 ^ 64 / 27000000 := by
  unfold utilsCpuTicksNs
  rw [BitVec.toNat_udiv, BitVec.toNat_mul]
  rfl

/-
What the product has lost by wrapping is more than one microsecond.
-/
theorem ns_lt_us {t : Nat} (h : 2 ^ 64 ≤ t * 1000000000)
    : t * 1000000000 % 2 ^ 64 / 27000000 / 1000 < t / 27 := by
  omega

theorem ticksRight_iff (time : BitVec 64)
    : TicksRight time ↔ time.toNat * 1000000000 < 2 ^ 64 := by
  constructor
  . intro h
    have hus := h.us
    rw [toNat_ns, toNat_us] at hus
    by_contra hwraps
    have hlt := ns_lt_us (Nat.not_lt.mp hwraps)
    rw [hus] at hlt
    exact Nat.lt_irrefl _ hlt
  . intro h
    constructor
    . rw [toNat_ns, toNat_us, Nat.mod_eq_of_lt h]
      omega
    . rw [toNat_us, toNat_ms]
      omega
    . intro earlier hle
      rw [BitVec.le_def] at hle ⊢
      have hmul := Nat.mul_le_mul_right 1000000000 hle
      rw [toNat_ns, toNat_ns, Nat.mod_eq_of_lt h, Nat.mod_eq_of_lt (Nat.lt_of_le_of_lt hmul h)]
      apply Nat.div_le_div_right hmul
    . intro earlier hle
      rw [BitVec.le_def] at hle ⊢
      rw [toNat_us, toNat_us]
      apply Nat.div_le_div_right hle
    . intro earlier hle
      rw [BitVec.le_def] at hle ⊢
      rw [toNat_ms, toNat_ms]
      apply Nat.div_le_div_right hle

/-
After less than twelve minutes the nanoseconds start again.
-/
theorem not_ticksRight_wrapped
    : trueNs 18446744074#64 = 683212743481 ∧ (utilsCpuTicksNs 18446744074#64).toNat = 10
        ∧ ¬TicksRight 18446744074#64 := by
  refine ⟨by decide, by decide, ?_⟩
  rw [ticksRight_iff]
  decide

end Ticks

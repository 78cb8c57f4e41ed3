import RtsmartLib.Input.Reconnect

/-!
This module contains what a poll reports of a device that it finds lost, with each kind of timeout, and how
long it waits.
-/

namespace Input

open Posix

def EndsPoll (inst : DrvInputInst) (slice : PollSlice) : Prop :=
  drvInputPollOnce slice ≠ 0 ∨ drvInputPathRebound inst slice.info = true

/--
The poll of an open device comes to this slice, and ends there.
-/
structure EndsAt (inst : DrvInputInst) (timeoutMs : Int) (polls : List PollSlice) (slice : PollSlice)
    (rest : List PollSlice) : Prop where
  opened : inst.fd.isSome = true
  idle : ∃ idle, polls = idle ++ slice :: rest ∧ (∀ s ∈ idle, ¬EndsPoll inst s)
    ∧ (timeoutMs < 0 ∨ idle = [] ∨ drvInputPollSliceMs * idle.length < timeoutMs)
  ends : EndsPoll inst slice

def FindsLost (inst : DrvInputInst) (slice : PollSlice) : Prop :=
  drvInputRetIsDisconnect (drvInputPollOnce slice) = true
    ∨ (drvInputPollOnce slice = 0 ∧ drvInputPathRebound inst slice.info = true)

def PollResult.report (r : PollResult) : Option Int × DrvInputInst × InputKernel :=
  (r.ret, r.inst, r.kernel)

/-
The report of a disconnect: it depends on the instance and on what can be opened in its place, and not on
the timeout.
-/
def disconnectReport (inst : DrvInputInst) (kernel : InputKernel)
    : Option Int × DrvInputInst × InputKernel :=
  let r := drvInputHandleDisconnect inst kernel
  (some r.ret, r.inst, r.kernel)

structure PollRight (inst : DrvInputInst) (kernel : InputKernel) (timeoutMs : Int) : Prop where
  reported : ∀ slice rest, EndsAt inst timeoutMs kernel.polls slice rest → FindsLost inst slice →
    (drvInputPoll inst kernel timeoutMs).report = disconnectReport inst { kernel with polls := rest }
  ready : ∀ ret > 0, (drvInputPoll inst kernel timeoutMs).ret = some ret →
    (drvInputPoll inst kernel timeoutMs).inst.fd.isSome = true
      ∧ ∀ slice rest, EndsAt inst timeoutMs kernel.polls slice rest →
        ¬FindsLost inst slice ∧ drvInputPathRebound inst slice.info = false
  waits : 0 ≤ timeoutMs → (drvInputPoll inst kernel timeoutMs).waits.sum ≤ timeoutMs

/--
The poll ends at an error that means a disconnect, or at a hangup, and its timeout is zero; or it ends at
data that is ready on a path which another device has taken.
-/
def Misreports (inst : DrvInputInst) (kernel : InputKernel) (timeoutMs : Int) : Prop :=
  ∃ slice rest, EndsAt inst timeoutMs kernel.polls slice rest
    ∧ ((timeoutMs = 0 ∧ drvInputRetIsDisconnect (drvInputPollOnce slice) = true)
      ∨ (slice.once = .ready ∧ drvInputPathRebound inst slice.info = true))

theorem pollOnce_pos_iff (slice : PollSlice) : 0 < drvInputPollOnce slice ↔ slice.once = .ready := by
  unfold drvInputPollOnce
  cases slice.once with
  | error errno =>
    have := errno.neg_lt
    simp only [reduceCtorEq, iff_false]
    omega
  | hangup => decide
  | idle => decide
  | ready => decide

theorem neg_of_retIsDisconnect {ret : Int} (h : drvInputRetIsDisconnect ret = true) : ret < 0 := by
  simp only [drvInputRetIsDisconnect, Bool.or_eq_true, beq_iff_eq] at h
  rcases h with (rfl | rfl) | rfl
  . exact enodev.neg_lt
  . exact eio.neg_lt
  . exact enxio.neg_lt

theorem disconnectReport_cases (inst : DrvInputInst) (kernel : InputKernel)
    : ((disconnectReport inst kernel).1 = some 0)
        ∨ ((disconnectReport inst kernel).1 = some (-(enodev : Int))
            ∧ (disconnectReport inst kernel).2.1.fd = none) := by
  rcases drvInputHandleDisconnect_cases inst kernel with ⟨-, hret, -⟩ | ⟨-, hret, hfd, -⟩
  . exact Or.inl (congrArg some hret)
  . exact Or.inr ⟨congrArg some hret, hfd⟩

theorem disconnectReport_not_pos (inst : DrvInputInst) (kernel : InputKernel) {ret : Int} (hpos : 0 < ret)
    : (disconnectReport inst kernel).1 ≠ some ret := by
  have henodev := enodev.neg_lt
  rcases disconnectReport_cases inst kernel with hzero | ⟨hlost, -⟩
  . rw [hzero, ne_eq, Option.some.injEq]
    omega
  . rw [hlost, ne_eq, Option.some.injEq]
    omega

section

variable {inst : DrvInputInst} (kernel : InputKernel) {timeoutMs remainingMs : Int}

theorem pollLoop_cons_idle {slice : PollSlice} (hidle : ¬EndsPoll inst slice) (slices : List PollSlice)
    (hwaits : timeoutMs < 0 ∨ remainingMs > 0)
    : (drvInputPollLoop inst kernel timeoutMs remainingMs (slice :: slices)).report =
        (drvInputPollLoop inst kernel timeoutMs
          (if timeoutMs > 0 then remainingMs - pollSliceMs timeoutMs remainingMs else remainingMs)
          slices).report := by
  rw [EndsPoll, not_or, not_not, Bool.not_eq_true] at hidle
  obtain ⟨honce, hbound⟩ := hidle
  rw [drvInputPollLoop, if_pos hwaits]
  simp only [honce, hbound, lt_irrefl]
  rfl

/-
A slice that is not the last one is a full one, and so the next slice is waited for.
-/
theorem pollLoop_append_idle {idle : List PollSlice} (hidle : ∀ s ∈ idle, ¬EndsPoll inst s)
    (rest : List PollSlice)
    (hwaits : timeoutMs < 0 ∨ (0 < timeoutMs ∧ drvInputPollSliceMs * idle.length < remainingMs))
    : ∃ remainingMs', (timeoutMs < 0 ∨ remainingMs' > 0)
        ∧ (drvInputPollLoop inst kernel timeoutMs remainingMs (idle ++ rest)).report =
            (drvInputPollLoop inst kernel timeoutMs remainingMs' rest).report := by
  induction idle generalizing remainingMs with
  | nil =>
    refine ⟨remainingMs, ?_, rfl⟩
    simp only [List.length_nil] at hwaits
    omega
  | cons slice idle ih =>
    simp only [List.forall_mem_cons] at hidle
    have hlength : drvInputPollSliceMs * (slice :: idle).length =
        drvInputPollSliceMs * idle.length + drvInputPollSliceMs := by
      rw [List.length_cons, Nat.cast_succ, Int.mul_add, Int.mul_one]
    have hslice : 0 < drvInputPollSliceMs ∧ 0 ≤ drvInputPollSliceMs * idle.length := by
      constructor
      . decide
      . apply Int.mul_nonneg (by decide) (Int.natCast_nonneg _)
    rw [hlength] at hwaits
    rw [List.cons_append, pollLoop_cons_idle kernel hidle.1 _ (by omega)]
    apply ih hidle.2
    cases hwaits with
    | inl hinfinite => exact Or.inl hinfinite
    | inr hfinite =>
      obtain ⟨hpos, hlong⟩ := hfinite
      right
      rw [if_pos hpos, pollSliceMs, if_neg (by omega), if_pos (by omega)]
      constructor <;> omega

theorem pollLoop_cons_ends {slice : PollSlice} (hends : EndsPoll inst slice) (rest : List PollSlice)
    (hwaits : timeoutMs < 0 ∨ remainingMs > 0)
    : (drvInputPollLoop inst kernel timeoutMs remainingMs (slice :: rest)).report =
        if drvInputRetIsDisconnect (drvInputPollOnce slice) = true ∨ drvInputPollOnce slice = 0 then
          disconnectReport inst { kernel with polls := rest }
        else
          (some (drvInputPollOnce slice), inst, { kernel with polls := rest }) := by
  rw [drvInputPollLoop, if_pos hwaits]
  dsimp only
  rcases Int.lt_trichotomy (drvInputPollOnce slice) 0 with hneg | hzero | hpos
  . rw [if_pos hneg]
    have hne : drvInputPollOnce slice ≠ 0 := Int.ne_of_lt hneg
    simp only [hne, or_false]
    cases drvInputRetIsDisconnect (drvInputPollOnce slice) with
    | true => rfl
    | false => rfl
  . have hrebound : drvInputPathRebound inst slice.info = true :=
      hends.resolve_left fun h => h hzero
    rw [if_pos (Or.inr hzero)]
    simp only [hzero, hrebound, lt_irrefl]
    rfl
  . have hconnected : ¬(drvInputRetIsDisconnect (drvInputPollOnce slice) = true
        ∨ drvInputPollOnce slice = 0) := by
      rintro (hdisconnect | hzero)
      . have := neg_of_retIsDisconnect hdisconnect
        omega
      . omega
    rw [if_neg hconnected, if_neg (by omega), if_pos hpos]
    rfl

theorem pollLoop_pos {slices : List PollSlice} {ret : Int} (hpos : 0 < ret)
    (h : (drvInputPollLoop inst kernel timeoutMs remainingMs slices).report.1 = some ret)
    : (drvInputPollLoop inst kernel timeoutMs remainingMs slices).report.2.1 = inst := by
  induction slices generalizing remainingMs with
  | nil =>
    unfold drvInputPollLoop
    split <;> rfl
  | cons slice slices ih =>
    by_cases hwaits : timeoutMs < 0 ∨ remainingMs > 0
    . by_cases hends : EndsPoll inst slice
      . rw [pollLoop_cons_ends kernel hends slices hwaits] at h ⊢
        split at h
        . exact absurd h (disconnectReport_not_pos inst _ hpos)
        next hconnected => rw [if_neg hconnected]
      . rw [pollLoop_cons_idle kernel hends slices hwaits] at h ⊢
        exact ih h
    . rw [drvInputPollLoop, if_neg hwaits]
      rfl

theorem poll_ends_zero {slice : PollSlice} {rest : List PollSlice}
    (hend : EndsAt inst 0 kernel.polls slice rest)
    : (drvInputPoll inst kernel 0).report =
        if drvInputPollOnce slice = 0 then disconnectReport inst { kernel with polls := rest }
        else (some (drvInputPollOnce slice), inst, { kernel with polls := rest }) := by
  obtain ⟨idle, hpolls, -, hidle⟩ := hend.idle
  have hslice : 0 ≤ drvInputPollSliceMs * idle.length := by
    apply Int.mul_nonneg (by decide) (Int.natCast_nonneg _)
  have hnil : idle = [] := by
    rcases hidle with hneg | hnil | hlong
    . omega
    . exact hnil
    . omega
  obtain ⟨fd, hfd⟩ := Option.isSome_iff_exists.mp hend.opened
  rw [hnil, List.nil_append] at hpolls
  unfold drvInputPoll
  rw [hfd, hpolls]
  dsimp only
  rw [if_pos rfl]
  by_cases honce : drvInputPollOnce slice = 0
  . rw [if_pos honce, if_pos ⟨honce, hend.ends.resolve_left fun h => h honce⟩]
    rfl
  . rw [if_neg honce, if_neg fun h => honce h.1]
    rfl

theorem poll_ends_loop (htimeout : timeoutMs ≠ 0) {slice : PollSlice} {rest : List PollSlice}
    (hend : EndsAt inst timeoutMs kernel.polls slice rest)
    : (drvInputPoll inst kernel timeoutMs).report =
        if drvInputRetIsDisconnect (drvInputPollOnce slice) = true ∨ drvInputPollOnce slice = 0 then
          disconnectReport inst { kernel with polls := rest }
        else
          (some (drvInputPollOnce slice), inst, { kernel with polls := rest }) := by
  obtain ⟨idle, hpolls, hidle, hlength⟩ := hend.idle
  obtain ⟨fd, hfd⟩ := Option.isSome_iff_exists.mp hend.opened
  have hwaits : timeoutMs < 0 ∨ (0 < timeoutMs ∧ drvInputPollSliceMs * idle.length < timeoutMs) := by
    rcases hlength with hneg | rfl | hlong
    . exact Or.inl hneg
    . rw [List.length_nil]
      omega
    . omega
  obtain ⟨remainingMs, hremaining, hloop⟩ := pollLoop_append_idle kernel hidle (slice :: rest) hwaits
  unfold drvInputPoll
  rw [hfd]
  dsimp only
  rw [if_neg htimeout, hpolls, hloop, pollLoop_cons_ends kernel hend.ends rest hremaining]

theorem poll_reports {slice : PollSlice} {rest : List PollSlice}
    (hend : EndsAt inst timeoutMs kernel.polls slice rest) (hlost : FindsLost inst slice)
    (htimeout : timeoutMs = 0 → drvInputRetIsDisconnect (drvInputPollOnce slice) = false)
    : (drvInputPoll inst kernel timeoutMs).report = disconnectReport inst { kernel with polls := rest } := by
  by_cases hzero : timeoutMs = 0
  . subst hzero
    rw [poll_ends_zero kernel hend, if_pos]
    cases hlost with
    | inl hdisconnect => simp [htimeout rfl] at hdisconnect
    | inr hrebound => exact hrebound.1
  . rw [poll_ends_loop kernel hzero hend, if_pos]
    cases hlost with
    | inl hdisconnect => exact Or.inl hdisconnect
    | inr hrebound => exact Or.inr hrebound.1

theorem poll_returns {slice : PollSlice} {rest : List PollSlice}
    (hend : EndsAt inst timeoutMs kernel.polls slice rest) (honce : drvInputPollOnce slice ≠ 0)
    (htimeout : timeoutMs ≠ 0 → drvInputRetIsDisconnect (drvInputPollOnce slice) = false)
    : (drvInputPoll inst kernel timeoutMs).report =
        (some (drvInputPollOnce slice), inst, { kernel with polls := rest }) := by
  by_cases hzero : timeoutMs = 0
  . subst hzero
    rw [poll_ends_zero kernel hend, if_neg honce]
  . rw [poll_ends_loop kernel hzero hend, htimeout hzero]
    simp [honce]

theorem poll_pos_connected {ret : Int} (hpos : 0 < ret)
    (h : (drvInputPoll inst kernel timeoutMs).report.1 = some ret)
    : (drvInputPoll inst kernel timeoutMs).report.2.1.fd.isSome = true := by
  unfold drvInputPoll at h ⊢
  have henodev := enodev.neg_lt
  split at h
  next hfd =>
    split at h
    next hauto =>
      rw [if_pos hauto]
      dsimp only [PollResult.report] at h ⊢
      rcases drvInputInstTryReconnect_cases hfd kernel with ⟨-, -, hfd', -⟩ | ⟨-, hret, -⟩
      . rw [hfd']
        rfl
      . rw [if_neg hret, Option.some.injEq] at h
        omega
    next hauto =>
      dsimp only [PollResult.report] at h
      rw [Option.some.injEq] at h
      omega
  next fd hfd =>
    have hopened : inst.fd.isSome = true := by
      rw [hfd]
      rfl
    split at h
    next hzero =>
      rw [if_pos hzero]
      split at h
      . exact hopened
      next slice rest hpolls =>
        dsimp only at h ⊢
        split at h
        . exact absurd h (disconnectReport_not_pos inst _ hpos)
        next hbound =>
          rw [if_neg hbound]
          exact hopened
    next hzero =>
      rw [if_neg hzero, pollLoop_pos kernel hpos h]
      exact hopened

theorem ready_of_poll_pos {slice : PollSlice} {rest : List PollSlice}
    (hend : EndsAt inst timeoutMs kernel.polls slice rest) {ret : Int} (hpos : 0 < ret)
    (h : (drvInputPoll inst kernel timeoutMs).report.1 = some ret)
    : slice.once = .ready := by
  rw [← pollOnce_pos_iff]
  by_cases honce : drvInputPollOnce slice = 0
  . have hlost : FindsLost inst slice := Or.inr ⟨honce, hend.ends.resolve_left fun h => h honce⟩
    rw [poll_reports kernel hend hlost (fun _ => by rw [honce]; rfl)] at h
    exact absurd h (disconnectReport_not_pos inst _ hpos)
  . by_cases hreported : timeoutMs ≠ 0 ∧ drvInputRetIsDisconnect (drvInputPollOnce slice) = true
    . rw [poll_reports kernel hend (Or.inl hreported.2) (fun hzero => absurd hzero hreported.1)] at h
      exact absurd h (disconnectReport_not_pos inst _ hpos)
    . rw [not_and, Bool.not_eq_true] at hreported
      rw [poll_returns kernel hend honce hreported, Option.some.injEq] at h
      omega

theorem pollSliceMs_bounds (hpos : 0 < timeoutMs) (hremaining : 0 ≤ remainingMs)
    : 0 ≤ pollSliceMs timeoutMs remainingMs ∧ pollSliceMs timeoutMs remainingMs ≤ remainingMs := by
  have hslice : drvInputPollSliceMs = 200 := rfl
  unfold pollSliceMs
  split
  . omega
  . split <;> omega

theorem pollLoop_waits_sum_le (hpos : 0 < timeoutMs) (hremaining : 0 ≤ remainingMs) (slices : List PollSlice)
    : (drvInputPollLoop inst kernel timeoutMs remainingMs slices).waits.sum ≤ remainingMs := by
  have hbounds := pollSliceMs_bounds hpos hremaining
  induction slices generalizing remainingMs with
  | nil =>
    unfold drvInputPollLoop
    split
    . dsimp only
      rw [List.sum_singleton]
      exact hbounds.2
    . exact hremaining
  | cons slice slices ih =>
    have hlast : [pollSliceMs timeoutMs remainingMs].sum ≤ remainingMs := by
      rw [List.sum_singleton]
      exact hbounds.2
    unfold drvInputPollLoop
    split
    . dsimp only
      split
      . split
        . exact hlast
        . exact hlast
      split
      . exact hlast
      split
      . exact hlast
      . -- what is left goes to the slices that follow
        dsimp only
        rw [List.sum_cons]
        have hrest := @ih (remainingMs - pollSliceMs timeoutMs remainingMs) (by omega)
          (pollSliceMs_bounds hpos (by omega))
        omega
    . exact hremaining

theorem poll_waits_sum_le (h : 0 ≤ timeoutMs)
    : (drvInputPoll inst kernel timeoutMs).waits.sum ≤ timeoutMs := by
  unfold drvInputPoll
  split
  . split
    . exact h
    . exact h
  split
  . split
    . exact h
    . dsimp only
      split
      . exact h
      . exact h
  next hzero =>
    apply pollLoop_waits_sum_le kernel _ h
    omega

end

theorem not_misreports_of_pollRight {inst : DrvInputInst} {kernel : InputKernel} {timeoutMs : Int}
    (h : PollRight inst kernel timeoutMs)
    : ¬Misreports inst kernel timeoutMs := by
  rintro ⟨slice, rest, hend, ⟨hzero, hdisconnect⟩ | ⟨hready, hrebound⟩⟩
  -- The instance keeps the device that it has lost.
  . have hneg := neg_of_retIsDisconnect hdisconnect
    have hreported := h.reported slice rest hend (Or.inl hdisconnect)
    rw [poll_returns kernel hend (Int.ne_of_lt hneg) (fun hne => absurd hzero hne)] at hreported
    have hopened := hend.opened
    rcases disconnectReport_cases inst { kernel with polls := rest } with hret | ⟨-, hfd⟩
    . rw [← hreported, Option.some.injEq] at hret
      omega
    . rw [← hreported] at hfd
      rw [hfd] at hopened
      cases hopened
  . have hpos := (pollOnce_pos_iff slice).mpr hready
    have hconnected : drvInputRetIsDisconnect (drvInputPollOnce slice) = false := by
      rw [drvInputPollOnce, hready]
      rfl
    have hret := congrArg Prod.fst
      (poll_returns kernel hend (Int.ne_of_gt hpos) (fun _ => hconnected))
    have hbound := ((h.ready _ hpos hret).2 slice rest hend).2
    rw [hrebound] at hbound
    cases hbound

theorem pollRight_of_not_misreports {inst : DrvInputInst} {kernel : InputKernel} {timeoutMs : Int}
    (h : ¬Misreports inst kernel timeoutMs)
    : PollRight inst kernel timeoutMs := by
  constructor
  . intro slice rest hend hlost
    apply poll_reports kernel hend hlost
    intro hzero
    rw [Bool.eq_false_iff]
    intro hdisconnect
    exact h ⟨slice, rest, hend, Or.inl ⟨hzero, hdisconnect⟩⟩
  . intro ret hpos hret
    refine ⟨poll_pos_connected kernel hpos hret, ?_⟩
    intro slice rest hend
    have hready := ready_of_poll_pos kernel hend hpos hret
    refine ⟨?_, ?_⟩
    . rintro (hdisconnect | ⟨hzero, -⟩)
      . rw [drvInputPollOnce, hready] at hdisconnect
        cases hdisconnect
      . rw [drvInputPollOnce, hready] at hzero
        cases hzero
    . rw [Bool.eq_false_iff]
      intro hrebound
      exact h ⟨slice, rest, hend, Or.inr ⟨hready, hrebound⟩⟩
  . exact poll_waits_sum_le kernel

theorem pollRight_iff (inst : DrvInputInst) (kernel : InputKernel) (timeoutMs : Int)
    : PollRight inst kernel timeoutMs ↔ ¬Misreports inst kernel timeoutMs :=
  ⟨not_misreports_of_pollRight, pollRight_of_not_misreports⟩

/-
A mouse that is unplugged. Only its poll without a timeout does not close it.
-/
def unpluggedSlice : PollSlice := ⟨.hangup, none⟩

theorem poll_unplugged_zeroTimeout
    : ¬∀ (inst : DrvInputInst) (kernel : InputKernel) (timeoutMs : Int), PollRight inst kernel timeoutMs := by
  intro h
  have hend : EndsAt (drvInputInstCreate 3) 0 [unpluggedSlice] unpluggedSlice [] :=
    ⟨rfl, ⟨[], rfl, by simp, Or.inr (Or.inl rfl)⟩, Or.inl (by decide)⟩
  have hreported := (h (drvInputInstCreate 3) ⟨[], [unpluggedSlice], [], 4⟩ 0).reported
    unpluggedSlice [] hend (Or.inl (by decide))
  have hret := congrArg Prod.fst hreported
  revert hret
  decide

end Input

import Mathlib.Data.List.Basic
import Mathlib.Data.BitVec

/-!
This module contains the receiving of a vector of messages within a timeout, and for which readings of the clock
the waits for the messages keep to the timeout.
-/

namespace Syscalls

structure Timespec where
  sec : Int
  nsec : Int
  deriving DecidableEq

def iovMax : Nat := 1024

def msgDontwait : BitVec 32 := 0x40
def msgWaitforone : BitVec 32 := 0x10000

def timespecToTimeoutMs (timeout : Option Timespec) : Int :=
  match timeout with
  | none => -1
  | some timeout =>
    if timeout.sec < 0 ∨ timeout.nsec < 0 ∨ timeout.nsec ≥ 1000000000 then -2
    else if timeout.sec > 0x7fffffff / 1000 then 0x7fffffff
    else
      let milliseconds := timeout.sec * 1000 + (timeout.nsec + 999999).tdiv 1000000
      if milliseconds > 0x7fffffff then 0x7fffffff else milliseconds

def timeoutMsToTimespec (timeoutMs : Int) : Timespec :=
  ⟨timeoutMs.tdiv 1000, timeoutMs.tmod 1000 * 1000000⟩

/-
The monotonic clock at a number of nanoseconds.
-/
def clockGettime (now : Nat) : Timespec :=
  ⟨(now / 1000000000 : Nat), (now % 1000000000 : Nat)⟩

def elapsedMs (started now : Timespec) : Int :=
  (now.sec - started.sec) * 1000 + (now.nsec - started.nsec).tdiv 1000000

/-
When the socket gets a message, or when `poll` fails, in nanoseconds from where the wait begins.
-/
inductive Arrival where
  | message (after : Nat)
  | error (after : Nat)
  | never

/-
What `poll` returns, and how long it has waited: no longer than its timeout.
-/
def poll (arrival : Arrival) (timeoutMs : Int) : Int × Nat :=
  let limit := timeoutMs.toNat * 1000000
  match arrival with
  | .message after => if after ≤ limit then (1, after) else (0, limit)
  | .error after => if after ≤ limit then (-1, after) else (0, limit)
  | .never => (0, limit)

/-
What the calls of one turn of the loop meet: `received` is the length that `recvmsg` returns, if it succeeds,
and `spent` is how much time the turn takes besides the wait.
-/
structure Turn where
  arrival : Arrival
  received : Option Nat
  spent : Nat
  clockFails : Bool

/-
One wait, with the readings of the clock up to it, the last one first.
-/
structure Wait where
  timeoutMs : Int
  readings : List Nat
  waited : Nat

structure RecvRun where
  ret : Int
  msgLens : List Nat
  timeout : Option Timespec
  waits : List Wait

def RecvRun.stop (ret : Int) (timeout : Option Timespec) : RecvRun :=
  ⟨ret, [], timeout, []⟩

/-
The message of a turn, and then the turns that follow.
-/
def RecvRun.received (msgLen : Nat) (run : RecvRun) : RecvRun :=
  { run with msgLens := msgLen :: run.msgLens }

def RecvRun.after (wait : Option Wait) (run : RecvRun) : RecvRun :=
  { run with waits := wait.toList ++ run.waits }

/-
The loop without a timeout.
-/
def recvLoop (turns : Nat → Turn) (remaining i : Nat) : RecvRun :=
  match remaining with
  | 0 => .stop i none
  | remaining + 1 =>
    match (turns i).received with
    | none => .stop (if i ≠ 0 then i else -1) none
    | some msgLen => .received msgLen (recvLoop turns remaining (i + 1))

/-
The loop with a timeout. `readings` are the readings of the clock, of which the code keeps the last one, and
`left` is what the caller's timeout holds.
-/
def recvTimedLoop (flags : BitVec 32) (turns : Nat → Turn) (remaining i : Nat) (timeoutMs : Int)
    (started : Nat) (readings : List Nat) (left : Timespec) : RecvRun :=
  match remaining with
  | 0 => .stop i (some left)
  | remaining + 1 =>
    let turn := turns i
    let receiveFlags := flags &&& ~~~msgWaitforone
    let receiveFlags :=
      if i ≠ 0 ∧ flags &&& msgWaitforone ≠ 0 then receiveFlags ||| msgDontwait else receiveFlags
    let polled :=
      if receiveFlags &&& msgDontwait = 0 then some (poll turn.arrival timeoutMs) else none
    let wait := polled.map fun p => ⟨timeoutMs, readings, p.2⟩
    let ready := (polled.map Prod.fst).getD 1
    .after wait <|
      if ready = 0 then .stop i (some (timeoutMsToTimespec 0))
      else if ready < 0 then .stop (if i ≠ 0 then i else -1) (some left)
      else
        match turn.received with
        | none => .stop (if i ≠ 0 then i else -1) (some left)
        | some msgLen =>
          .received msgLen <|
            if turn.clockFails then
              .stop (i + 1) (some left)
            else
              let now := started + (polled.map Prod.snd).getD 0 + turn.spent
              let elapsed := elapsedMs (clockGettime started) (clockGettime now)
              let timeoutMs := if elapsed ≥ timeoutMs then 0 else timeoutMs - elapsed
              recvTimedLoop flags turns remaining (i + 1) timeoutMs now (now :: readings)
                (timeoutMsToTimespec timeoutMs)

/-
What a call meets: the pointer to the messages may be null, and the first reading of the clock may fail.
-/
structure RecvCall where
  messages : Bool
  vlen : Nat
  flags : BitVec 32
  timeout : Option Timespec
  start : Nat
  startFails : Bool
  turns : Nat → Turn

def recvmmsg (call : RecvCall) : RecvRun :=
  if call.vlen = 0 ∨ call.vlen > iovMax then .stop (-1) call.timeout
  else if !call.messages then .stop (-1) call.timeout
  else
    let timeoutMs := timespecToTimeoutMs call.timeout
    if timeoutMs = -2 then .stop (-1) call.timeout
    else
      match call.timeout with
      | none => recvLoop call.turns call.vlen 0
      | some timeout =>
        if call.startFails then .stop (-1) (some timeout)
        else
          recvTimedLoop call.flags call.turns call.vlen 0 timeoutMs call.start [call.start] timeout

/-
The time since the call began, by the readings of the clock.
-/
def Wait.elapsed (w : Wait) : Nat :=
  w.readings.headD 0 - w.readings.getLastD 0

def RecvRun.waited (run : RecvRun) : Nat :=
  (run.waits.map (·.waited)).sum

/--
Each wait has no more than what the whole milliseconds since the call began leave of the timeout, and all waits
together are no longer than the timeout and one millisecond.
-/
structure WithinBudget (call : RecvCall) : Prop where
  each : ∀ w ∈ (recvmmsg call).waits,
    w.timeoutMs = 0 ∨ w.timeoutMs + (w.elapsed / 1000000 : Nat) ≤ timespecToTimeoutMs call.timeout
  total : (recvmmsg call).waited ≤ (timespecToTimeoutMs call.timeout + 1).toNat * 1000000

/-
The milliseconds between each reading and the one before it.
-/
def countedMs (readings : List Nat) : Int :=
  match readings with
  | now :: started :: past =>
    elapsedMs (clockGettime started) (clockGettime now) + countedMs (started :: past)
  | _ => 0

/-
What is cut off of the nanoseconds between each reading and the one before it; it is below zero where
the nanoseconds start again within a millisecond.
-/
def lostNs (readings : List Nat) : Int :=
  match readings with
  | now :: started :: past =>
    ((clockGettime now).nsec - (clockGettime started).nsec).tmod 1000000 + lostNs (started :: past)
  | _ => 0

theorem sub_eq_elapsedMs (started now : Nat)
    : (now : Int) - started = elapsedMs (clockGettime started) (clockGettime now) * 1000000
        + ((clockGettime now).nsec - (clockGettime started).nsec).tmod 1000000 := by
  have hsplit := Int.tdiv_mul_add_tmod ((clockGettime now).nsec - (clockGettime started).nsec) 1000000
  unfold elapsedMs
  simp only [clockGettime] at hsplit ⊢
  omega

theorem elapsedMs_nonneg {started now : Nat} (h : started ≤ now)
    : 0 ≤ elapsedMs (clockGettime started) (clockGettime now) := by
  have hsub := sub_eq_elapsedMs started now
  have hlt := Int.tmod_lt_of_pos ((clockGettime now).nsec - (clockGettime started).nsec)
    (show (0 : Int) < 1000000 by decide)
  omega

theorem headD_sub_getLastD (readings : List Nat)
    : ((readings.headD 0 : Nat) : Int) - (readings.getLastD 0 : Nat)
        = countedMs readings * 1000000 + lostNs readings := by
  induction readings with
  | nil => rfl
  | cons now past ih =>
    cases past with
    | nil => simp [countedMs, lostNs]
    | cons started past =>
      have hsub := sub_eq_elapsedMs started now
      rw [countedMs, lostNs]
      simp only [List.headD_cons, List.getLastD_cons] at ih ⊢
      omega

theorem poll_le (arrival : Arrival) (timeoutMs : Int)
    : (poll arrival timeoutMs).2 ≤ timeoutMs.toNat * 1000000 := by
  unfold poll
  dsimp only
  split
  . split
    . assumption
    . apply Nat.le_refl
  . split
    . assumption
    . apply Nat.le_refl
  . apply Nat.le_refl

@[simp]
theorem waits_stop (ret : Int) (timeout : Option Timespec) : (RecvRun.stop ret timeout).waits = [] := rfl

@[simp]
theorem waits_received (msgLen : Nat) (run : RecvRun) : (run.received msgLen).waits = run.waits := rfl

@[simp]
theorem waits_after (wait : Option Wait) (run : RecvRun)
    : (run.after wait).waits = wait.toList ++ run.waits := rfl

def nextTimeoutMs (timeoutMs elapsed : Int) : Int :=
  if elapsed ≥ timeoutMs then 0 else timeoutMs - elapsed

section

variable {flags : BitVec 32} {turns : Nat → Turn}

/-
A turn waits once or not at all, and the loop stops there or goes on with a later reading of the clock.
-/
theorem recvTimedLoop_succ (remaining i : Nat) (timeoutMs : Int) (started : Nat) (readings : List Nat)
    (left : Timespec)
    : ∃ wait : Option Wait,
        (∀ w ∈ wait, w = ⟨timeoutMs, readings, (poll (turns i).arrival timeoutMs).2⟩)
        ∧ ((recvTimedLoop flags turns (remaining + 1) i timeoutMs started readings left).waits = wait.toList
          ∨ ∃ now left', started + (wait.map (·.waited)).getD 0 ≤ now
            ∧ (recvTimedLoop flags turns (remaining + 1) i timeoutMs started readings left).waits
              = wait.toList ++ (recvTimedLoop flags turns remaining (i + 1)
                  (nextTimeoutMs timeoutMs (elapsedMs (clockGettime started) (clockGettime now))) now
                  (now :: readings) left').waits) := by
  rw [recvTimedLoop]
  dsimp only
  generalize hflags :
    (if i ≠ 0 ∧ flags &&& msgWaitforone ≠ 0 then flags &&& ~~~msgWaitforone ||| msgDontwait
      else flags &&& ~~~msgWaitforone) = receiveFlags
  generalize hpolled :
    (if receiveFlags &&& msgDontwait = 0 then some (poll (turns i).arrival timeoutMs) else none) = polled
  refine ⟨polled.map fun p => ⟨timeoutMs, readings, p.2⟩, ?_, ?_⟩
  . intro w hw
    obtain ⟨p, hp, hw⟩ := Option.map_eq_some_iff.mp hw
    rw [hp] at hpolled
    split at hpolled
    . cases hpolled
      exact hw.symm
    . cases hpolled
  . rw [waits_after]
    split
    . left
      simp
    split
    . left
      simp
    cases (turns i).received with
    | none =>
      left
      simp
    | some msgLen =>
      dsimp only
      rw [waits_received]
      by_cases hclock : (turns i).clockFails = true
      . left
        rw [if_pos hclock]
        simp
      . right
        rw [if_neg hclock]
        refine ⟨_, _, ?_, rfl⟩
        rw [Option.map_map]
        apply Nat.le_add_right

/-
What holds where a turn begins: the timeout is what the counted milliseconds leave of it.
-/
structure LoopInv (total timeoutMs : Int) (started : Nat) (readings : List Nat) : Prop where
  timeout : timeoutMs = max 0 (total - countedMs readings)
  head : ∃ past, readings = started :: past
  since : readings.getLastD 0 ≤ started

theorem LoopInv.next {total timeoutMs : Int} {started now : Nat} {readings : List Nat}
    (h : LoopInv total timeoutMs started readings) (hnow : started ≤ now)
    : LoopInv total (nextTimeoutMs timeoutMs (elapsedMs (clockGettime started) (clockGettime now))) now
        (now :: readings) := by
  obtain ⟨past, hpast⟩ := h.head
  constructor
  . have helapsed := elapsedMs_nonneg hnow
    have htimeout := h.timeout
    rw [hpast] at htimeout ⊢
    rw [countedMs]
    unfold nextTimeoutMs
    split
    . omega
    . omega
  . exact ⟨_, rfl⟩
  . have hsince := h.since
    rw [hpast] at hsince ⊢
    simp only [List.getLastD_cons] at hsince ⊢
    exact Nat.le_trans hsince hnow

theorem waits_inv {total timeoutMs : Int} {started : Nat} {readings : List Nat} (remaining : Nat)
    (i : Nat) (left : Timespec) (h : LoopInv total timeoutMs started readings)
    : ∀ w ∈ (recvTimedLoop flags turns remaining i timeoutMs started readings left).waits,
        LoopInv total w.timeoutMs (w.readings.headD 0) w.readings := by
  induction remaining generalizing i timeoutMs started readings left with
  | zero =>
    intro w hw
    cases hw
  | succ remaining ih =>
    obtain ⟨wait, hwait, hwaits⟩ :=
      @recvTimedLoop_succ flags turns remaining i timeoutMs started readings left
    have hfirst : ∀ w ∈ wait.toList, LoopInv total w.timeoutMs (w.readings.headD 0) w.readings := by
      intro w hw
      obtain ⟨past, hpast⟩ := h.head
      rw [hwait w (Option.mem_toList.mp hw)]
      rw [hpast] at h ⊢
      exact h
    intro w hw
    cases hwaits with
    | inl hstop =>
      rw [hstop] at hw
      exact hfirst w hw
    | inr hnext =>
      obtain ⟨now, left', hnow, hnext⟩ := hnext
      rw [hnext, List.mem_append] at hw
      cases hw with
      | inl hw => exact hfirst w hw
      | inr hw => exact ih (i + 1) left' (h.next (Nat.le_trans (Nat.le_add_right ..) hnow)) w hw

/-
A wait is no longer than its timeout, which the time since the call began has lowered.
-/
theorem before_add_waited_le {total : Int} {before : Nat} {w : Wait}
    (hpoll : w.waited ≤ w.timeoutMs.toNat * 1000000) (hsince : before ≤ w.elapsed)
    (hbefore : before ≤ (total + 1).toNat * 1000000)
    (hbudget : w.timeoutMs = 0 ∨ w.timeoutMs + (w.elapsed / 1000000 : Nat) ≤ total)
    : before + w.waited ≤ (total + 1).toNat * 1000000 := by
  cases hbudget with
  | inl hzero =>
    rw [hzero] at hpoll
    omega
  | inr hle => omega

/-
How long a call has waited before a turn: no longer than since it began, and no longer than it may wait.
-/
theorem waited_le {total timeoutMs : Int} {started first before : Nat} {readings : List Nat} (remaining : Nat)
    (i : Nat) (left : Timespec) (hreadings : ∃ past, readings = started :: past)
    (hfirst : readings.getLastD 0 = first) (hsince : first + before ≤ started)
    (hbefore : before ≤ (total + 1).toNat * 1000000)
    (hwaits : ∀ w ∈ (recvTimedLoop flags turns remaining i timeoutMs started readings left).waits,
      w.timeoutMs = 0 ∨ w.timeoutMs + (w.elapsed / 1000000 : Nat) ≤ total)
    : before + (recvTimedLoop flags turns remaining i timeoutMs started readings left).waited
        ≤ (total + 1).toNat * 1000000 := by
  induction remaining generalizing i timeoutMs started readings left before with
  | zero => exact hbefore
  | succ remaining ih =>
    obtain ⟨wait, hwait, hcases⟩ :=
      @recvTimedLoop_succ flags turns remaining i timeoutMs started readings left
    obtain ⟨past, hpast⟩ := hreadings
    have hthis : (∀ w ∈ wait, w.timeoutMs = 0 ∨ w.timeoutMs + (w.elapsed / 1000000 : Nat) ≤ total) →
        before + (wait.map (·.waited)).getD 0 ≤ (total + 1).toNat * 1000000 := by
      intro hbudget
      cases hsome : wait with
      | none => exact hbefore
      | some w =>
        have hw := hwait w hsome
        have helapsed : w.elapsed = started - first := by
          rw [hw, Wait.elapsed, hfirst, hpast]
          rfl
        apply before_add_waited_le _ (by omega) hbefore (hbudget w hsome)
        rw [hw]
        apply poll_le
    unfold RecvRun.waited at ih ⊢
    cases hcases with
    | inl hstop =>
      rw [hstop] at hwaits ⊢
      have hbound := hthis fun w hw => hwaits w (Option.mem_toList.mpr hw)
      cases hsome : wait with
      | none => simpa [hsome] using hbound
      | some w => simpa [hsome] using hbound
    | inr hnext =>
      obtain ⟨now, left', hnow, hnext⟩ := hnext
      rw [hnext] at hwaits ⊢
      rw [List.forall_mem_append] at hwaits
      have hbound := hthis fun w hw => hwaits.1 w (Option.mem_toList.mpr hw)
      have hlast : (now :: readings).getLastD 0 = first := by
        rw [← hfirst, hpast]
        simp only [List.getLastD_cons]
      have hrest := ih (i + 1) left' ⟨_, rfl⟩ hlast (by omega) hbound hwaits.2
      rw [List.map_append, List.sum_append]
      cases hsome : wait with
      | none => simpa [hsome] using hrest
      | some w =>
        rw [hsome] at hrest
        simp at hrest ⊢
        omega

end

theorem waits_recvLoop (turns : Nat → Turn) (remaining i : Nat)
    : (recvLoop turns remaining i).waits = [] := by
  induction remaining generalizing i with
  | zero => rfl
  | succ remaining ih =>
    rw [recvLoop]
    cases (turns i).received with
    | none => rfl
    | some msgLen => apply ih

theorem timespecToTimeoutMs_nonneg {timeout : Timespec} (h : timespecToTimeoutMs (some timeout) ≠ -2)
    : 0 ≤ timespecToTimeoutMs (some timeout) := by
  unfold timespecToTimeoutMs at h ⊢
  dsimp only at h ⊢
  split at h
  . exact absurd rfl h
  next hvalid =>
    rw [if_neg hvalid]
    split
    . decide
    split
    . decide
    . have hdiv := Int.tdiv_nonneg (show 0 ≤ timeout.nsec + 999999 by omega) (show (0 : Int) ≤ 1000000 by decide)
      omega

/-
A call does not wait, or it runs the loop with a timeout.
-/
theorem recvmmsg_cases (call : RecvCall)
    : (recvmmsg call).waits = []
        ∨ ∃ left, 0 ≤ timespecToTimeoutMs call.timeout
          ∧ recvmmsg call = recvTimedLoop call.flags call.turns call.vlen 0 (timespecToTimeoutMs call.timeout)
            call.start [call.start] left := by
  unfold recvmmsg
  dsimp only
  split
  . exact Or.inl rfl
  split
  . exact Or.inl rfl
  split
  . exact Or.inl rfl
  next hvalid =>
    cases htimeout : call.timeout with
    | none =>
      left
      apply waits_recvLoop
    | some timeout =>
      dsimp only
      split
      . exact Or.inl rfl
      . right
        rw [htimeout] at hvalid
        exact ⟨timeout, timespecToTimeoutMs_nonneg hvalid, rfl⟩

theorem budget_iff {total : Int} {w : Wait} (h : LoopInv total w.timeoutMs (w.readings.headD 0) w.readings)
    : (w.timeoutMs = 0 ∨ w.timeoutMs + (w.elapsed / 1000000 : Nat) ≤ total)
        ↔ lostNs w.readings < 1000000 ∨ total ≤ countedMs w.readings := by
  have htimeout := h.timeout
  have hsince := h.since
  have hreadings := headD_sub_getLastD w.readings
  unfold Wait.elapsed
  omega

/-
A call keeps to its timeout exactly if at each of its waits the readings of the clock have lost less than a
millisecond to rounding, or the milliseconds that have been counted use up the timeout.
-/
theorem recvmmsg_withinBudget_iff (call : RecvCall)
    : WithinBudget call ↔ ∀ w ∈ (recvmmsg call).waits,
        lostNs w.readings < 1000000 ∨ timespecToTimeoutMs call.timeout ≤ countedMs w.readings := by
  cases recvmmsg_cases call with
  | inl hnone =>
    constructor
    . intro _ w hw
      rw [hnone] at hw
      cases hw
    . intro _
      constructor
      . intro w hw
        rw [hnone] at hw
        cases hw
      . unfold RecvRun.waited
        rw [hnone]
        apply Nat.zero_le
  | inr hloop =>
    obtain ⟨left, hnonneg, hrun⟩ := hloop
    have hinit : LoopInv (timespecToTimeoutMs call.timeout) (timespecToTimeoutMs call.timeout) call.start
        [call.start] := by
      constructor
      . simp only [countedMs]
        omega
      . exact ⟨_, rfl⟩
      . apply Nat.le_refl
    have hinv : ∀ w ∈ (recvmmsg call).waits,
        LoopInv (timespecToTimeoutMs call.timeout) w.timeoutMs (w.readings.headD 0) w.readings := by
      rw [hrun]
      apply waits_inv call.vlen 0 left hinit
    constructor
    . intro h w hw
      exact (budget_iff (hinv w hw)).mp (h.each w hw)
    . intro h
      have heach : ∀ w ∈ (recvmmsg call).waits,
          w.timeoutMs = 0 ∨ w.timeoutMs + (w.elapsed / 1000000 : Nat) ≤ timespecToTimeoutMs call.timeout := by
        intro w hw
        exact (budget_iff (hinv w hw)).mpr (h w hw)
      refine ⟨heach, ?_⟩
      rw [hrun] at heach ⊢
      have hbound := waited_le call.vlen 0 left ⟨_, rfl⟩ rfl (Nat.le_refl (call.start + 0)) (Nat.zero_le _) heach
      rw [Nat.zero_add] at hbound
      exact hbound

/-
Five messages come 900 microseconds apart, and then none.
-/
def slowMessages : RecvCall where
  messages := true
  vlen := 6
  flags := 0
  timeout := some ⟨0, 2000000⟩
  start := 0
  startFails := false
  turns i := ⟨if i < 5 then .message 900000 else .never, some 1, 0, false⟩

/-
The last wait still has the whole timeout of two milliseconds, after four and a half have gone by, and all waits
together are three times as long as the timeout.
-/
theorem slowMessages_not_withinBudget
    : (recvmmsg slowMessages).waited = 6500000 ∧ ¬WithinBudget slowMessages := by
  have hwaited : (recvmmsg slowMessages).waited = 6500000 := by
    decide +kernel
  refine ⟨hwaited, ?_⟩
  intro h
  have htotal := h.total
  rw [hwaited] at htotal
  exact absurd htotal (by decide)

end Syscalls

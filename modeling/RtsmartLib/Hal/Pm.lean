import RtsmartLib.Lib.Errno
import RtsmartLib.Lib.Machine
import Mathlib.Logic.Function.Basic

/-!
This module contains the power management calls by which the stages of AI2D and KPU switch the clock and
the power of the domain that they share.
-/

namespace Pm

open Lib Posix

inductive KPmDomain where
  | cpu
  | kpu
  | dpu
  | vpu
  | display
  | media
  deriving DecidableEq, Repr

def kPmErrIds : List Int := [3, 4, 5, 6, 7, 8, 9, 12, 16, 17, 18]

def kErrPm (errid : Int) : Int :=
  (0xA0000000#32 ||| (23#32 <<< 16) ||| (4#32 <<< 13) ||| BitVec.ofInt 32 errid).toInt

def pmConvertRet (ret : Int) : Int :=
  if ret ≤ 0 then ret else if ret ∈ kPmErrIds then kErrPm ret else ret

/-
Whether the device is open, and what the kernel does with each domain.
-/
structure PmState where
  fd : Bool
  clock : KPmDomain → Bool
  power : KPmDomain → Bool

/-
What the kernel answers to a call: to the open, where there is one, and to the ioctl.
-/
structure PmCall where
  openErrno : Option Errno
  ret : Int
  errno : Errno

def pmCheckOpen (s : PmState) (call : PmCall) : PmState × Int :=
  if !s.fd then
    match call.openErrno with
    | some errno => (s, -errno)
    | none => ({ s with fd := true }, 0)
  else
    (s, 0)

def pmIoctl (call : PmCall) : Int :=
  if call.ret = -1 then -call.errno else pmConvertRet call.ret

/-
`K_IOC_PM_SET_CLOCK` and `K_IOC_PM_SET_POWER`.
-/
inductive PmRequest where
  | clock
  | power
  deriving DecidableEq, Repr

def PmState.apply (s : PmState) (request : PmRequest) (domain : KPmDomain) (enable : Bool)
    : PmState :=
  match request with
  | .clock => { s with clock := Function.update s.clock domain enable }
  | .power => { s with power := Function.update s.power domain enable }

def setDomainBool (request : PmRequest) (s : PmState) (domain : KPmDomain) (enable : Bool)
    (call : PmCall)
    : PmState × Int :=
  let (s, ret) := pmCheckOpen s call
  if ret ≠ 0 then
    (s, ret)
  else
    let ret := pmIoctl call
    (if ret = 0 then s.apply request domain enable else s, ret)

def kdMpiPmSetClock (s : PmState) (domain : KPmDomain) (enable : Bool) (call : PmCall)
    : PmState × Int :=
  setDomainBool .clock s domain enable call

def kdMpiPmSetPower (s : PmState) (domain : KPmDomain) (enable : Bool) (call : PmCall)
    : PmState × Int :=
  setDomainBool .power s domain enable call

inductive KRuntimestageId where
  | ai2dStart
  | ai2dStop
  | kpuStart
  | kpuStop
  | cpuStart
  | cpuStop
  deriving DecidableEq, Repr

/-
The calls of a stage: the first, the second, and the one that undoes the first.
-/
structure StageCalls where
  first : PmCall
  second : PmCall
  undo : PmCall

def kdMpiPmRuntimeRunstage (s : PmState) (stage : KRuntimestageId) (calls : StageCalls)
    : PmState × Int :=
  if stage = .ai2dStart ∨ stage = .kpuStart then
    let (s, ret) := kdMpiPmSetClock s .kpu true calls.first
    if ret = 0 then
      let (s, ret) := kdMpiPmSetPower s .kpu true calls.second
      if ret ≠ 0 then
        ((kdMpiPmSetClock s .kpu false calls.undo).1, ret)
      else
        (s, ret)
    else
      (s, ret)
  else if stage = .ai2dStop ∨ stage = .kpuStop then
    let (s, ret) := kdMpiPmSetPower s .kpu false calls.first
    if ret = 0 then
      let (s, ret) := kdMpiPmSetClock s .kpu false calls.second
      if ret ≠ 0 then
        ((kdMpiPmSetPower s .kpu true calls.undo).1, ret)
      else
        (s, ret)
    else
      (s, ret)
  else
    (s, 0)

inductive PmClient where
  | ai2d
  | kpu
  deriving DecidableEq, Repr

inductive StageKind where
  | start (client : PmClient)
  | stop (client : PmClient)
  | other
  deriving DecidableEq, Repr

def KRuntimestageId.kind (stage : KRuntimestageId) : StageKind :=
  match stage with
  | .ai2dStart => .start .ai2d
  | .ai2dStop => .stop .ai2d
  | .kpuStart => .start .kpu
  | .kpuStop => .stop .kpu
  | .cpuStart | .cpuStop => .other

/-
`started` are the clients whose last successful stage is a start.
-/
structure StageState where
  pm : PmState
  started : PmClient → Bool

def StageKind.note (kind : StageKind) (started : PmClient → Bool) : PmClient → Bool :=
  match kind with
  | .start client => Function.update started client true
  | .stop client => Function.update started client false
  | .other => started

def stageMachine : Machine StageState (KRuntimestageId × StageCalls) Int where
  step s op :=
    let (pm, ret) := kdMpiPmRuntimeRunstage s.pm op.1 op.2
    (⟨pm, if ret = 0 then op.1.kind.note s.started else s.started⟩, ret)

abbrev StageVisit := Machine.Visit StageState (KRuntimestageId × StageCalls) Int

/-
A client that has been started has its domain.
-/
def Served (s : StageState) : Prop :=
  ∀ client, s.started client = true → s.pm.power .kpu = true ∧ s.pm.clock .kpu = true

/--
Clients that are started have their domain, and a stage that fails leaves the domain as it was.
-/
structure StageHolds (v : StageVisit) : Prop where
  served : Served v.post
  restored : v.obs ≠ 0 → v.post.pm.power .kpu = v.pre.pm.power .kpu
    ∧ v.post.pm.clock .kpu = v.pre.pm.clock .kpu

/-
The first call of a stage takes effect.
-/
def PmState.Accepts (s : PmState) (call : PmCall) : Prop :=
  (s.fd = true ∨ call.openErrno = none) ∧ call.ret = 0

/--
A start that fails at the power and leaves a clock off that was on, or on that was off; a stop that is
complete while the other client is started; a stop that fails at the clock and leaves the power
otherwise than it was.
-/
def StageBreaks (v : StageVisit) : Prop :=
  v.pre.pm.Accepts v.event.2.first ∧
    match v.event.1.kind with
    | .start _ => v.event.2.second.ret ≠ 0
        ∧ (v.pre.pm.clock .kpu = true ↔ v.event.2.undo.ret = 0)
    | .stop client =>
      if v.event.2.second.ret = 0 then
        ∃ other, other ≠ client ∧ v.pre.started other = true
      else
        ¬(v.pre.pm.power .kpu = true ↔ v.event.2.undo.ret = 0)
    | .other => False

theorem pmConvertRet_eq_zero (ret : Int) : pmConvertRet ret = 0 ↔ ret = 0 := by
  have herr : ∀ errid ∈ kPmErrIds, kErrPm errid ≠ 0 := by decide
  unfold pmConvertRet
  split
  . rfl
  . next hpos =>
    split
    . next herrid =>
      have := herr ret herrid
      omega
    . rfl

theorem pmIoctl_eq_zero (call : PmCall) : pmIoctl call = 0 ↔ call.ret = 0 := by
  unfold pmIoctl
  split
  . next hret =>
    have := call.errno.neg_lt
    omega
  . exact pmConvertRet_eq_zero call.ret

/-
A call takes effect and returns 0, or it leaves the domains alone and does not.
-/
theorem setDomainBool_accepts {s : PmState} {call : PmCall} (h : s.Accepts call)
    (request : PmRequest) (domain : KPmDomain) (enable : Bool)
    : setDomainBool request s domain enable call
        = (({ s with fd := true } : PmState).apply request domain enable, 0) := by
  obtain ⟨hfd, hret⟩ := h
  have hopen : pmCheckOpen s call = ({ s with fd := true }, 0) := by
    unfold pmCheckOpen
    cases hs : s.fd with
    | false =>
      have hnone : call.openErrno = none := by simpa [hs] using hfd
      simp [hnone]
    | true => simp [← hs]
  unfold setDomainBool
  rw [hopen]
  simp [(pmIoctl_eq_zero call).mpr hret]

theorem setDomainBool_refuses {s : PmState} {call : PmCall} (h : ¬s.Accepts call)
    (request : PmRequest) (domain : KPmDomain) (enable : Bool)
    : ∃ fd ret, (s.fd = true → fd = true) ∧ ret ≠ 0
        ∧ setDomainBool request s domain enable call = ({ s with fd }, ret) := by
  by_cases hfd : s.fd = true ∨ call.openErrno = none
  . have hret : pmIoctl call ≠ 0 := by
      intro hzero
      exact h ⟨hfd, (pmIoctl_eq_zero call).mp hzero⟩
    have hopen : pmCheckOpen s call = ({ s with fd := true }, 0) := by
      unfold pmCheckOpen
      cases hs : s.fd with
      | false =>
        have hnone : call.openErrno = none := by simpa [hs] using hfd
        simp [hnone]
      | true => simp [← hs]
    refine ⟨true, pmIoctl call, fun _ => rfl, hret, ?_⟩
    unfold setDomainBool
    rw [hopen]
    simp [hret]
  . simp only [not_or, Bool.not_eq_true] at hfd
    obtain ⟨errno, herrno⟩ := Option.ne_none_iff_exists'.mp hfd.2
    have hneg : -(errno : Int) ≠ 0 := by
      have := errno.neg_lt
      omega
    have hopen : pmCheckOpen s call = (s, -(errno : Int)) := by
      unfold pmCheckOpen
      simp [hfd.1, herrno]
    refine ⟨s.fd, -errno, id, hneg, ?_⟩
    unfold setDomainBool
    rw [hopen]
    dsimp only
    rw [if_pos hneg]

/-
What a start and a stop have in common.
-/
def bothCalls (request other : PmRequest) (enable : Bool) (s : PmState) (calls : StageCalls)
    : PmState × Int :=
  let (s, ret) := setDomainBool request s .kpu enable calls.first
  if ret = 0 then
    let (s, ret) := setDomainBool other s .kpu enable calls.second
    if ret ≠ 0 then
      ((setDomainBool request s .kpu (!enable) calls.undo).1, ret)
    else
      (s, ret)
  else
    (s, ret)

theorem runstage_start {stage : KRuntimestageId} {client : PmClient} (h : stage.kind = .start client)
    (s : PmState) (calls : StageCalls)
    : kdMpiPmRuntimeRunstage s stage calls = bothCalls .clock .power true s calls := by
  cases stage with
  | ai2dStart => rfl
  | kpuStart => rfl
  | _ => cases h

theorem runstage_stop {stage : KRuntimestageId} {client : PmClient} (h : stage.kind = .stop client)
    (s : PmState) (calls : StageCalls)
    : kdMpiPmRuntimeRunstage s stage calls = bothCalls .power .clock false s calls := by
  cases stage with
  | ai2dStop => rfl
  | kpuStop => rfl
  | _ => cases h

theorem runstage_other {stage : KRuntimestageId} (h : stage.kind = .other) (s : PmState)
    (calls : StageCalls)
    : kdMpiPmRuntimeRunstage s stage calls = (s, 0) := by
  cases stage with
  | cpuStart => rfl
  | cpuStop => rfl
  | _ => cases h

/-
The first call fails.
-/
theorem bothCalls_refused {s : PmState} {calls : StageCalls} (h : ¬s.Accepts calls.first)
    (request other : PmRequest) (enable : Bool)
    : ∃ fd ret, ret ≠ 0 ∧ bothCalls request other enable s calls = ({ s with fd }, ret) := by
  obtain ⟨fd, ret, -, hret, hfirst⟩ := setDomainBool_refuses h request .kpu enable
  refine ⟨fd, ret, hret, ?_⟩
  unfold bothCalls
  rw [hfirst]
  dsimp only
  rw [if_neg hret]

@[simp]
theorem fd_apply (s : PmState) (request : PmRequest) (domain : KPmDomain) (enable : Bool)
    : (s.apply request domain enable).fd = s.fd := by
  cases request with
  | clock => rfl
  | power => rfl

theorem accepts_open {s : PmState} (hfd : s.fd = true) (call : PmCall)
    : s.Accepts call ↔ call.ret = 0 := by
  simp [PmState.Accepts, hfd]

/-
The last of two settings of one domain counts.
-/
theorem apply_apply (s : PmState) (fd : Bool) (request : PmRequest) (domain : KPmDomain)
    (enable enable' : Bool)
    : ({ s.apply request domain enable with fd } : PmState).apply request domain enable'
        = ({ s with fd } : PmState).apply request domain enable' := by
  cases request with
  | clock => simp [PmState.apply]
  | power => simp [PmState.apply]

/-
Both calls succeed.
-/
theorem bothCalls_done {s : PmState} {calls : StageCalls} (h : s.Accepts calls.first)
    (hsecond : calls.second.ret = 0) (request other : PmRequest) (enable : Bool)
    : bothCalls request other enable s calls
        = ((({ s with fd := true } : PmState).apply request .kpu enable).apply other .kpu enable, 0)
    := by
  have hnext := (accepts_open (s := ({ s with fd := true } : PmState).apply request .kpu enable)
    (fd_apply _ _ _ _) calls.second).mpr hsecond
  unfold bothCalls
  rw [setDomainBool_accepts h]
  dsimp only
  rw [if_pos rfl, setDomainBool_accepts hnext]
  cases request with
  | clock => rfl
  | power => rfl

/-
The second call fails, and the first is undone as far as the kernel lets it.
-/
theorem bothCalls_undone {s : PmState} {calls : StageCalls} (h : s.Accepts calls.first)
    (hsecond : calls.second.ret ≠ 0) (request other : PmRequest) (enable : Bool)
    : ∃ fd ret, ret ≠ 0 ∧ bothCalls request other enable s calls
        = (({ s with fd } : PmState).apply request .kpu
            (if calls.undo.ret = 0 then !enable else enable), ret) := by
  let first := ({ s with fd := true } : PmState).apply request .kpu enable
  have hfd : first.fd = true := fd_apply _ _ _ _
  obtain ⟨fd, ret, hkeep, hret, hrefused⟩ :=
    setDomainBool_refuses (mt (accepts_open hfd calls.second).mp hsecond) other .kpu enable
  let second : PmState := { first with fd }
  have hboth : bothCalls request other enable s calls
      = ((setDomainBool request second .kpu (!enable) calls.undo).1, ret) := by
    unfold bothCalls
    rw [setDomainBool_accepts h]
    dsimp only
    rw [if_pos rfl, hrefused]
    dsimp only
    rw [if_pos hret]
  have hundo := accepts_open (s := second) (hkeep hfd) calls.undo
  by_cases hzero : calls.undo.ret = 0
  . refine ⟨true, ret, hret, ?_⟩
    rw [hboth, setDomainBool_accepts (hundo.mpr hzero), if_pos hzero]
    exact congrArg (·, ret) (apply_apply { s with fd := true } true request .kpu enable (!enable))
  . obtain ⟨fd', ret', -, -, hrefused'⟩ :=
      setDomainBool_refuses (mt hundo.mp hzero) request .kpu (!enable)
    refine ⟨fd', ret, hret, ?_⟩
    rw [hboth, hrefused', if_neg hzero]
    cases request with
    | clock => rfl
    | power => rfl

theorem stageHolds_failed {v : StageVisit} (hpre : Served v.pre) (hobs : v.obs ≠ 0)
    (hstarted : v.post.started = v.pre.started)
    : StageHolds v ↔ v.post.pm.power .kpu = v.pre.pm.power .kpu
        ∧ v.post.pm.clock .kpu = v.pre.pm.clock .kpu := by
  constructor
  . intro h
    exact h.restored hobs
  . intro h
    constructor
    . intro client hclient
      rw [hstarted] at hclient
      rw [h.1, h.2]
      exact hpre client hclient
    . intro _
      exact h

theorem stageHolds_done {v : StageVisit} (hobs : v.obs = 0) : StageHolds v ↔ Served v.post := by
  constructor
  . exact StageHolds.served
  . intro h
    constructor
    . exact h
    . intro hne
      exact absurd hobs hne

theorem stageStep_eq {s : StageState} {op : KRuntimestageId × StageCalls} {pm : PmState} {ret : Int}
    (h : kdMpiPmRuntimeRunstage s.pm op.1 op.2 = (pm, ret))
    : stageMachine.step s op
        = (⟨pm, if ret = 0 then op.1.kind.note s.started else s.started⟩, ret) := by
  simp [stageMachine, h]

/-
A stage whose first call is refused changes nothing.
-/
theorem stageHolds_refused {s : StageState} (hs : Served s) {op : KRuntimestageId × StageCalls}
    {fd : Bool} {ret : Int} (hret : ret ≠ 0)
    (h : kdMpiPmRuntimeRunstage s.pm op.1 op.2 = ({ s.pm with fd }, ret))
    : StageHolds (stageMachine.visit s op) := by
  have hstep := stageStep_eq h
  rw [if_neg hret] at hstep
  apply (stageHolds_failed hs _ _).mpr
  . simp [hstep]
  . simpa [hstep] using hret
  . simp [hstep]

theorem start_holds_iff {s : StageState} (hs : Served s) {op : KRuntimestageId × StageCalls}
    {client : PmClient} (hkind : op.1.kind = .start client)
    : StageHolds (stageMachine.visit s op) ↔ ¬StageBreaks (stageMachine.visit s op) := by
  have hrun := runstage_start hkind s.pm op.2
  simp only [StageBreaks, Machine.visit_event, Machine.visit_pre, hkind]
  by_cases hfirst : s.pm.Accepts op.2.first
  . by_cases hsecond : op.2.second.ret = 0
    . rw [bothCalls_done hfirst hsecond] at hrun
      have hstep := stageStep_eq hrun
      have hholds : StageHolds (stageMachine.visit s op) := by
        apply (stageHolds_done (by simp [hstep])).mpr
        intro client hclient
        simp [hstep, PmState.apply]
      simp [hholds, hsecond]
    . obtain ⟨fd, ret, hret, hundone⟩ := bothCalls_undone hfirst hsecond .clock .power true
      have hstep := stageStep_eq (hrun.trans hundone)
      rw [if_neg hret] at hstep
      rw [stageHolds_failed hs (by simpa [hstep] using hret) (by simp [hstep])]
      simp only [Machine.visit_post, Machine.visit_pre, hstep, PmState.apply, Function.update_self,
        true_and, hfirst, hsecond, not_false_eq_true, ne_eq]
      by_cases hundo : op.2.undo.ret = 0
      . simp [hundo]
      . simp [hundo]
  . obtain ⟨fd, ret, hret, hrefused⟩ := bothCalls_refused hfirst .clock .power true
    have := stageHolds_refused hs hret (hrun.trans hrefused)
    simp [this, hfirst]

theorem stop_holds_iff {s : StageState} (hs : Served s) {op : KRuntimestageId × StageCalls}
    {client : PmClient} (hkind : op.1.kind = .stop client)
    : StageHolds (stageMachine.visit s op) ↔ ¬StageBreaks (stageMachine.visit s op) := by
  have hrun := runstage_stop hkind s.pm op.2
  simp only [StageBreaks, Machine.visit_event, Machine.visit_pre, hkind]
  by_cases hfirst : s.pm.Accepts op.2.first
  . by_cases hsecond : op.2.second.ret = 0
    . rw [bothCalls_done hfirst hsecond] at hrun
      have hstep := stageStep_eq hrun
      rw [stageHolds_done (by simp [hstep])]
      simp only [Machine.visit_post, hstep, if_true, hfirst, hsecond, true_and, not_exists, not_and]
      constructor
      . intro h other hne hother
        have hpower := (h other (by simpa [hkind, StageKind.note, hne] using hother)).1
        simp [PmState.apply] at hpower
      . intro h other hother
        exfalso
        -- the domain is off, so that nobody may be left who is started
        by_cases hne : other = client
        . simp [hkind, StageKind.note, hne] at hother
        . exact h other hne (by simpa [hkind, StageKind.note, hne] using hother)
    . obtain ⟨fd, ret, hret, hundone⟩ := bothCalls_undone hfirst hsecond .power .clock false
      have hstep := stageStep_eq (hrun.trans hundone)
      rw [if_neg hret] at hstep
      rw [stageHolds_failed hs (by simpa [hstep] using hret) (by simp [hstep])]
      simp only [Machine.visit_post, Machine.visit_pre, hstep, PmState.apply, Function.update_self,
        and_true, true_and, hfirst, hsecond, if_false, Bool.not_false]
      by_cases hundo : op.2.undo.ret = 0
      . cases hpower : s.pm.power .kpu with
        | false => simp [hundo]
        | true => simp [hundo]
      . cases hpower : s.pm.power .kpu with
        | false => simp [hundo]
        | true => simp [hundo]
  . obtain ⟨fd, ret, hret, hrefused⟩ := bothCalls_refused hfirst .power .clock false
    have := stageHolds_refused hs hret (hrun.trans hrefused)
    simp [this, hfirst]

/-
One stage. A started client has its domain before.
-/
theorem stageHolds_iff {s : StageState} (hs : Served s) (op : KRuntimestageId × StageCalls)
    : StageHolds (stageMachine.visit s op) ↔ ¬StageBreaks (stageMachine.visit s op) := by
  cases hkind : op.1.kind with
  | start client => exact start_holds_iff hs hkind
  | stop client => exact stop_holds_iff hs hkind
  | other =>
    have hstep := stageStep_eq (runstage_other hkind s.pm op.2)
    have hholds : StageHolds (stageMachine.visit s op) := by
      apply (stageHolds_done (by simp [hstep])).mpr
      simpa [hstep, hkind, StageKind.note] using hs
    simp [hholds, StageBreaks, hkind]

/--
Over a whole run of stages and failures a started client has its domain and a failed stage leaves the
domain as it was, if and only if no stage of the run breaks it.
-/
theorem stageHolds_runs_iff (pm : PmState) (ops : List (KRuntimestageId × StageCalls))
    : (∀ v ∈ stageMachine.visits ⟨pm, fun _ => false⟩ ops, StageHolds v)
        ↔ ∀ v ∈ stageMachine.visits ⟨pm, fun _ => false⟩ ops, ¬StageBreaks v := by
  apply Machine.forall_visits_iff Served
  . intro s op hs hbreaks
    exact ((stageHolds_iff hs op).mpr hbreaks).served
  . intro s op hs
    exact stageHolds_iff hs op
  . intro client hclient
    cases hclient

def PmCall.ok : PmCall := ⟨none, 0, eio⟩

def StageCalls.ok : StageCalls := ⟨.ok, .ok, .ok⟩

/--
AI2D and KPU overlap, and the first that stops switches off the domain of the other.
-/
theorem stageHolds_fails
    : ¬∀ v ∈ stageMachine.visits ⟨⟨false, fun _ => false, fun _ => false⟩, fun _ => false⟩
          [(.ai2dStart, .ok), (.kpuStart, .ok), (.ai2dStop, .ok), (.kpuStop, .ok)],
        StageHolds v := by
  intro h
  have hv := h _ (.tail _ (.tail _ (.head _)))
  have hpower := (hv.served .kpu (by decide)).1
  revert hpower
  decide

end Pm

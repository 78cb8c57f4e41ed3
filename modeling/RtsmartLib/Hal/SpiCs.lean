import RtsmartLib.Hal.Spi

/-!
This module contains the chip select of an SPI instance: what the driver records of it, what it is on
the wire, and the transfers after which the two are apart.
-/

namespace Spi

/-
What a transfer is called with and what the kernel answers to its two ioctls.
-/
structure TransferCall where
  txData : Bool
  rxData : Bool
  len : Nat
  csChange : Bool
  configRet : Int
  rwRet : Int
  deriving DecidableEq

/-
The calls on the instance. Other instances of the bus may configure it in between.
-/
inductive CsOp where
  | transfer (txData rxData : Bool) (len : Nat) (csChange : Bool) (configRet rwRet : Int)
  | read (rxData : Bool) (len : Nat) (csChange : Bool) (configRet rwRet : Int)
  | write (txData : Bool) (len : Nat) (csChange : Bool) (configRet rwRet : Int)
  | others (bus : SpiBus)

def CsOp.transferCall (op : CsOp) : Option TransferCall :=
  match op with
  | .transfer txData rxData len csChange configRet rwRet =>
    some ⟨txData, rxData, len, csChange, configRet, rwRet⟩
  | .read rxData len csChange configRet rwRet =>
    some ⟨false, rxData, len, csChange, configRet, rwRet⟩
  | .write txData len csChange configRet rwRet =>
    some ⟨txData, false, len, csChange, configRet, rwRet⟩
  | .others _ => none

/-
`wire` tells whether the chip select is active.
-/
structure CsState where
  inst : DrvSpiInst
  bus : SpiBus
  wire : Bool

/-
The state in which an instance is handed out.
-/
def CsState.created (a : CreateArgs) (devFd : Int) (handleId : Nat) (bus : SpiBus) : CsState :=
  ⟨a.inst devFd handleId, bus, false⟩

def CsState.recorded (s : CsState) : Bool := s.inst.csStatus == csActive

/-
A message takes the chip select, is sent and releases it. One that fails leaves it as it was.
-/
def wireAfter (wire : Bool) (msg : RtQspiMessage) (succeeded : Bool) : Bool :=
  if succeeded then (wire || msg.csTake) && !msg.csRelease else wire

/-
A message as the kernel gets it and whether all of it was transferred.
-/
structure Message where
  msg : RtQspiMessage
  succeeded : Bool

def CsState.finish (s : CsState) (res : SpiResult) : CsState × Option Message :=
  let inst := res.inst.getD s.inst
  match res.sent with
  | none => (⟨inst, res.bus, s.wire⟩, none)
  | some sent =>
    let succeeded := res.ret == (sent.msg.length : Int)
    (⟨inst, res.bus, wireAfter s.wire sent.msg succeeded⟩, some ⟨sent.msg, succeeded⟩)

def csMachine : Lib.Machine CsState CsOp (Option Message) where
  step s op :=
    match op with
    | .transfer txData rxData len csChange configRet rwRet =>
      s.finish (drvSpiTransfer (some s.inst) txData rxData len csChange configRet rwRet s.bus)
    | .read rxData len csChange configRet rwRet =>
      s.finish (drvSpiRead (some s.inst) rxData len csChange configRet rwRet s.bus)
    | .write txData len csChange configRet rwRet =>
      s.finish (drvSpiWrite (some s.inst) txData len csChange configRet rwRet s.bus)
    | .others bus => ({ s with bus }, none)

abbrev CsVisit := Lib.Machine.Visit CsState CsOp (Option Message)

def CsVisit.asksRelease (v : CsVisit) : Bool := v.event.transferCall.any (·.csChange)

def CsVisit.succeeded (v : CsVisit) : Bool := v.obs.any (·.succeeded)

/-
The chip select was active before the call or was taken in it, and is inactive afterwards.
-/
def CsVisit.released (v : CsVisit) : Bool :=
  (v.pre.wire || v.obs.any (fun m => m.succeeded && m.msg.csTake)) && !v.post.wire

/--
What is recorded is what is on the wire, no message is sent without the chip select, and the chip
select is released by the messages that ask for it and get through, and by no others.
-/
structure CsFaithful (v : CsVisit) : Prop where
  recorded : v.post.recorded = v.post.wire
  takes : ∀ m, v.obs = some m → v.pre.wire = false → m.msg.csTake = true
  releases : CsVisit.released v = (CsVisit.succeeded v && CsVisit.asksRelease v)

/-
The call gets as far as its message.
-/
structure TransferCall.Reaches (call : TransferCall) (s : CsState) : Prop where
  devFd : 0 ≤ s.inst.devFd
  len : 0 < call.len
  lenMax : call.len ≤ intMax
  data : call.txData = true ∨ call.rxData = true
  config : s.bus.gHandleId s.inst.spiId = s.inst.handleId ∨ call.configRet = 0

/--
A message that fails although its success would have left the chip select in another state than
before: one that was to keep an inactive chip select active, or to release an active one.
-/
def FailedChange (v : CsVisit) : Prop :=
  ∃ call, v.event.transferCall = some call ∧ call.Reaches v.pre ∧ call.rwRet ≠ (call.len : Int)
    ∧ call.csChange = v.pre.recorded

theorem recorded_takeCs {s : CsState} (hpin : s.inst.csPin ≠ -1) (csChange : Bool) (bus : SpiBus)
    (wire : Bool)
    : CsState.recorded ⟨(takeCs s.inst csChange).1, bus, wire⟩ = !csChange
        ∧ (takeCs s.inst csChange).2 = (!s.recorded, csChange) := by
  unfold takeCs CsState.recorded
  rw [if_pos hpin]
  cases csChange with
  | false => exact ⟨rfl, rfl⟩
  | true => exact ⟨rfl, rfl⟩

theorem csPin_takeCs (inst : DrvSpiInst) (csChange : Bool)
    : (takeCs inst csChange).1.csPin = inst.csPin := by
  unfold takeCs
  split
  . cases csChange with
    | false => rfl
    | true => rfl
  . rfl

theorem lazyConfig_ret (inst : DrvSpiInst) (configRet : Int) (b : SpiBus)
    : (lazyConfig inst configRet b).1 = 0
        ↔ b.gHandleId inst.spiId = inst.handleId ∨ configRet = 0 := by
  unfold lazyConfig
  split
  . next hother =>
    dsimp only
    split
    . next hret => simp [hret, hother]
    . next hret =>
      simp only [true_iff]
      exact .inr (Decidable.not_not.mp hret)
  . next howner =>
    simp only [true_iff]
    exact .inl (Decidable.not_not.mp howner)

/-
A call that does not get as far as its message changes nothing but the configuration of the bus.
-/
theorem transfer_not_reaches {s : CsState} {call : TransferCall} (h : ¬call.Reaches s)
    : ∃ bus, s.finish (drvSpiTransfer (some s.inst) call.txData call.rxData call.len call.csChange
        call.configRet call.rwRet s.bus) = (⟨s.inst, bus, s.wire⟩, none) := by
  unfold drvSpiTransfer
  dsimp only
  split
  . exact ⟨_, rfl⟩
  . next hfd =>
    split
    . exact ⟨_, rfl⟩
    . next hlen =>
      split
      . exact ⟨_, rfl⟩
      . next hdata =>
        split
        . exact ⟨_, rfl⟩
        . next hret =>
          exfalso
          apply h
          simp only [not_or, not_and, Bool.not_eq_true', Bool.not_eq_false] at hdata
          constructor
          . omega
          . omega
          . omega
          . cases htx : call.txData with
            | false => exact .inr (hdata.2 htx)
            | true => exact .inl rfl
          . exact (lazyConfig_ret s.inst call.configRet s.bus).mp (Decidable.not_not.mp hret)

/-
A call that gets as far as its message records what the chip select is to be, whatever becomes of
the message.
-/
theorem transfer_reaches {s : CsState} {call : TransferCall} (h : call.Reaches s)
    (hpin : s.inst.csPin ≠ -1)
    : ∃ bus msg, msg.csTake = !s.recorded ∧ msg.csRelease = call.csChange
        ∧ s.finish (drvSpiTransfer (some s.inst) call.txData call.rxData call.len call.csChange
            call.configRet call.rwRet s.bus)
          =
        (⟨(takeCs s.inst call.csChange).1, bus,
            wireAfter s.wire msg (call.rwRet == (call.len : Int))⟩,
          some ⟨msg, call.rwRet == (call.len : Int)⟩) := by
  have hfd := h.devFd
  have hlen := h.len
  have hmax := h.lenMax
  have hdata : ¬(call.len > intMax ∨ (!call.txData) = true ∧ (!call.rxData) = true) := by
    simp only [not_or, not_and, Bool.not_eq_true', Bool.not_eq_false]
    constructor
    . omega
    . intro htx
      simpa [htx] using h.data
  have hret := (lazyConfig_ret s.inst call.configRet s.bus).mpr h.config
  have htake := (recorded_takeCs hpin call.csChange s.bus s.wire).2
  unfold drvSpiTransfer
  dsimp only
  rw [if_neg (by omega), if_neg (by omega), if_neg hdata, if_neg (by simp [hret])]
  exact ⟨_, _, congrArg Prod.fst htake, congrArg Prod.snd htake, rfl⟩

structure CsInv (s : CsState) : Prop where
  pin : s.inst.csPin ≠ -1
  recorded : s.recorded = s.wire

theorem CsInv.created {a : CreateArgs} (hpin : a.csPin ≠ -1) (devFd : Int) (handleId : Nat)
    (bus : SpiBus)
    : CsInv (.created a devFd handleId bus) := by
  constructor
  . exact hpin
  . rfl

theorem csMachine_call {s : CsState} {op : CsOp} {call : TransferCall}
    (h : op.transferCall = some call)
    : csMachine.step s op = s.finish (drvSpiTransfer (some s.inst) call.txData call.rxData call.len
        call.csChange call.configRet call.rwRet s.bus) := by
  cases op with
  | transfer => cases h; rfl
  | read => cases h; rfl
  | write => cases h; rfl
  | others => cases h

/-
A message of an instance whose record is right.
-/
theorem wireAfter_taken (s : CsState) (hs : s.recorded = s.wire) {msg : RtQspiMessage}
    (htake : msg.csTake = !s.recorded) (succeeded : Bool)
    : wireAfter s.wire msg succeeded = if succeeded then !msg.csRelease else s.recorded := by
  unfold wireAfter
  rw [htake, ← hs]
  simp

/-
A visit without a message and without a change of what is recorded or on the wire.
-/
theorem csFaithful_quiet {v : CsVisit} (hv : CsInv v.pre) (hinst : v.post.inst = v.pre.inst)
    (hwire : v.post.wire = v.pre.wire) (hobs : v.obs = none)
    : CsFaithful v := by
  constructor
  . unfold CsState.recorded
    rw [hinst, hwire]
    exact hv.recorded
  . intro m hm
    rw [hobs] at hm
    cases hm
  . unfold CsVisit.released CsVisit.succeeded
    rw [hobs, hwire]
    simp

/-
A visit with a message. It is faithful unless the message fails and what is recorded changes.
-/
theorem csFaithful_message {v : CsVisit} (hv : CsInv v.pre) {msg : RtQspiMessage} {succeeded : Bool}
    (hobs : v.obs = some ⟨msg, succeeded⟩) (htake : msg.csTake = !v.pre.recorded)
    (hrelease : msg.csRelease = CsVisit.asksRelease v)
    (hrecorded : v.post.recorded = !CsVisit.asksRelease v)
    (hwire : v.post.wire = wireAfter v.pre.wire msg succeeded)
    : CsFaithful v ↔ ¬(succeeded = false ∧ CsVisit.asksRelease v = v.pre.recorded) := by
  rw [wireAfter_taken v.pre hv.recorded htake, hrelease] at hwire
  cases succeeded with
  | true =>
    simp only [Bool.true_eq_false, false_and, not_false_eq_true, iff_true]
    simp only [if_true] at hwire
    constructor
    . rw [hrecorded, hwire]
    . intro m hm hpre
      rw [hobs] at hm
      cases hm
      rw [htake, hv.recorded, hpre]
      rfl
    . unfold CsVisit.released CsVisit.succeeded
      rw [hobs, hwire]
      simp [htake, hv.recorded]
  | false =>
    simp only [Bool.false_eq_true, if_false] at hwire
    simp only [true_and]
    constructor
    . intro h hsame
      have := h.recorded
      rw [hrecorded, hwire, hsame] at this
      cases hpre : v.pre.recorded with
      | false => simp [hpre] at this
      | true => simp [hpre] at this
    . intro hne
      have hpost : (!CsVisit.asksRelease v) = v.pre.recorded := by
        cases hask : CsVisit.asksRelease v with
        | false => simpa [hask] using hne
        | true => simpa [hask] using hne
      constructor
      . rw [hrecorded, hwire, hpost]
      . intro m hm hpre
        rw [hobs] at hm
        cases hm
        rw [htake, hv.recorded, hpre]
        rfl
      . unfold CsVisit.released CsVisit.succeeded
        rw [hobs, hwire]
        simp [hv.recorded]

theorem csStep {s : CsState} (hs : CsInv s) (op : CsOp)
    : (CsFaithful (csMachine.visit s op) ↔ ¬FailedChange (csMachine.visit s op))
        ∧ (csMachine.step s op).1.inst.csPin ≠ -1 := by
  cases hcall : op.transferCall with
  | none =>
    cases op with
    | others bus =>
      constructor
      . simp only [csFaithful_quiet (v := csMachine.visit s (.others bus)) hs rfl rfl rfl, true_iff]
        rintro ⟨call, hcall, -⟩
        cases hcall
      . exact hs.pin
    | _ => cases hcall
  | some call =>
    by_cases hreach : call.Reaches s
    . obtain ⟨bus, msg, htake, hrelease, hfinish⟩ := transfer_reaches hreach hs.pin
      have hstep := (csMachine_call hcall).trans hfinish
      have hasks : CsVisit.asksRelease (csMachine.visit s op) = call.csChange := by
        simp [CsVisit.asksRelease, hcall]
      constructor
      . rw [csFaithful_message hs (congrArg Prod.snd hstep) htake (hrelease.trans hasks.symm)
          _ (congrArg (·.1.wire) hstep)]
        . unfold FailedChange
          simp [hcall, hreach, hasks]
        . rw [hasks]
          simp only [Lib.Machine.visit_post, hstep]
          exact (recorded_takeCs hs.pin _ _ _).1
      . rw [hstep]
        simpa [csPin_takeCs] using hs.pin
    . obtain ⟨bus, hfinish⟩ := transfer_not_reaches hreach
      have hstep := (csMachine_call hcall).trans hfinish
      constructor
      . have hquiet : CsFaithful (csMachine.visit s op) := by
          apply csFaithful_quiet hs
          . simp [hstep]
          . simp [hstep]
          . simp [hstep]
        simp only [hquiet, true_iff]
        rintro ⟨call', hcall', hreach', -⟩
        cases hcall.symm.trans hcall'
        exact hreach hreach'
      . rw [hstep]
        exact hs.pin

/--
The record is what is on the wire, every message has its chip select and releases are exact, over a
whole run, if and only if no transfer fails whose success would have changed the chip select.
-/
theorem csFaithful_iff {a : CreateArgs} (hpin : a.csPin ≠ -1) (devFd : Int) (handleId : Nat)
    (bus : SpiBus) (ops : List CsOp)
    : (∀ v ∈ csMachine.visits (.created a devFd handleId bus) ops, CsFaithful v)
        ↔ ∀ v ∈ csMachine.visits (.created a devFd handleId bus) ops, ¬FailedChange v := by
  apply Lib.Machine.forall_visits_iff CsInv
  . intro s op hs hbad
    constructor
    . exact (csStep hs op).2
    . exact ((csStep hs op).1.mpr hbad).recorded
  . intro s op hs
    exact (csStep hs op).1
  . exact .created hpin devFd handleId bus

/-
An instance on bus 0 with pin 19 as its chip select.
-/
def pinnedArgs : CreateArgs := ⟨0, true, 0, 1000000, 8, 19, 1⟩

def pinnedState : CsState := .created pinnedArgs 3 1 ⟨fun _ => 1, fun _ => none⟩

theorem csFaithful_iff_pinned
    : pinnedArgs.csPin ≠ -1
        ∧ ((∀ v ∈ csMachine.visits pinnedState [.write true 1 false 0 1, .read true 4 true 0 4],
              CsFaithful v)
            ↔ ∀ v ∈ csMachine.visits pinnedState [.write true 1 false 0 1, .read true 4 true 0 4],
                ¬FailedChange v) :=
  ⟨by decide, csFaithful_iff (by decide) 3 1 _ _⟩

/--
The first write fails and was to keep the chip select. The next message is sent without it.
-/
theorem csFaithful_fails
    : ¬∀ v ∈ csMachine.visits pinnedState [.write true 1 false 0 (-1), .write true 1 true 0 1],
        CsFaithful v := by
  intro h
  have hv := h _ (csMachine.visit_final_mem pinnedState [.write true 1 false 0 (-1)]
    (.write true 1 true 0 1))
  have htake := hv.takes _ rfl rfl
  revert htake
  decide

end Spi

import RtsmartLib.Hal.Spi

/-!
This module contains the invariant of the owner cache of an SPI bus and what follows from it: a
message is sent under the configuration that its instance's settings describe, unless the lazy path
of a transfer overrides a switched off chip select.
-/

namespace Spi

def DrvSpiInst.settings (inst : DrvSpiInst) : RtQspiConfiguration :=
  {
    mode := inst.mode
    dataWidth := inst.dataBits
    hardCs := 0
    softCs := if inst.csPin ≠ -1 ∧ inst.useHwCs then softCsOf inst.csPin else 0
    maxHz := inst.baudrate
    qspiDlWidth := inst.dataLine
  }

def SpiBus.configured (b : SpiBus) (inst : DrvSpiInst) (config : RtQspiConfiguration) : SpiBus :=
  {
    gHandleId := Function.update b.gHandleId inst.spiId inst.handleId
    applied := Function.update b.applied inst.spiId (some config)
  }

theorem ioctlConfig_setOwner (b : SpiBus) (inst : DrvSpiInst) (config : RtQspiConfiguration)
    : (b.ioctlConfig 0 inst.spiId config).setOwner inst = b.configured inst config := by
  simp [SpiBus.ioctlConfig, SpiBus.setOwner, SpiBus.configured]

theorem ioctlConfig_fail (b : SpiBus) {ret : Int} (hret : ret ≠ 0) (spiId : Int)
    (config : RtQspiConfiguration)
    : b.ioctlConfig ret spiId config = b := by
  simp [SpiBus.ioctlConfig, hret]

theorem pinConfig_eq_settings {inst : DrvSpiInst} (h : inst.csPin = -1 ∨ inst.useHwCs = true)
    : inst.pinConfig = inst.settings := by
  unfold DrvSpiInst.pinConfig DrvSpiInst.settings
  cases h with
  | inl h => simp [h]
  | inr h => simp [h]

theorem softCsOf_ne_zero (csPin : Int) : softCsOf csPin ≠ 0 := by
  intro h
  have hbit : (csPin.toNat ||| 0x80).testBit 7 = true := by
    rw [Nat.testBit_or]
    exact (Bool.or_eq_true _ _).mpr (.inr (by decide))
  have hmod : (csPin.toNat ||| 0x80) % 256 = 0 := by
    simpa [softCsOf] using congrArg UInt8.toNat h
  have : ((csPin.toNat ||| 0x80) % 2 ^ 8).testBit 7 = true := by
    rw [Nat.testBit_mod_two_pow]
    simp [hbit]
  simp [hmod] at this

theorem pinConfig_ne_settings {inst : DrvSpiInst} (hpin : inst.csPin ≠ -1)
    (hcs : inst.useHwCs = false)
    : inst.pinConfig ≠ inst.settings := by
  intro h
  have hsoft := congrArg RtQspiConfiguration.softCs h
  simp [DrvSpiInst.pinConfig, DrvSpiInst.settings, hpin, hcs] at hsoft
  exact softCsOf_ne_zero inst.csPin hsoft

theorem pinConfig_eq_settings_iff {inst : DrvSpiInst}
    : inst.pinConfig = inst.settings ↔ ¬(inst.csPin ≠ -1 ∧ inst.useHwCs = false) := by
  by_cases hpin : inst.csPin = -1
  . simp only [pinConfig_eq_settings (.inl hpin), hpin, ne_eq, not_true_eq_false, false_and,
      not_false_eq_true]
  . cases hcs : inst.useHwCs with
    | true =>
      simp only [pinConfig_eq_settings (.inr hcs), Bool.true_eq_false, and_false, not_false_eq_true]
    | false =>
      simp only [pinConfig_ne_settings hpin hcs, ne_eq, hpin, not_false_eq_true, and_self,
        not_true_eq_false]

def SpiOp.messageRet (op : SpiOp) : Option Int :=
  match op with
  | .transfer _ txData rxData len _ ret _ => reachesBus txData rxData len ret
  | .read _ rxData len _ ret _ => reachesBus false rxData len ret
  | .write _ txData len _ ret _ => reachesBus txData false len ret
  | .transferMessage _ (some msg) ret _ => if msg.length > intMax then none else some ret
  | _ => none
where
  reachesBus (txData rxData : Bool) (len : Nat) (ret : Int) : Option Int :=
    if len = 0 ∨ len > intMax ∨ (!txData ∧ !rxData) then none else some ret

structure Keeps (inst inst' : DrvSpiInst) : Prop where
  handleId : inst'.handleId = inst.handleId
  spiId : inst'.spiId = inst.spiId
  devFd : inst'.devFd = inst.devFd
  pin : inst'.useHwCs = true → inst'.csPin ≠ -1

inductive CallEffect (inst : DrvSpiInst) (b : SpiBus) : Option DrvSpiInst → SpiBus → Prop where
  | gone : CallEffect inst b none b
  | same {inst' : DrvSpiInst} (hkeep : Keeps inst inst') (hset : inst'.settings = inst.settings)
    : CallEffect inst b (some inst') b
  | configured {inst' : DrvSpiInst} (hkeep : Keeps inst inst')
    : CallEffect inst b (some inst') (b.configured inst inst'.settings)

structure SpiInv (s : SpiState) : Prop where
  fresh : ∀ p inst, s.insts p = some inst → inst.handleId < s.idx
  distinct : ∀ p q inst inst', s.insts p = some inst → s.insts q = some inst' →
    inst.handleId = inst'.handleId → p = q
  isOpen : ∀ p inst, s.insts p = some inst → 0 ≤ inst.devFd
  pin : ∀ p inst, s.insts p = some inst → inst.useHwCs = true → inst.csPin ≠ -1
  owner : ∀ p inst, s.insts p = some inst → s.bus.gHandleId inst.spiId = inst.handleId →
    s.bus.applied inst.spiId = some inst.settings

theorem SpiInv.init (applied : Int → Option RtQspiConfiguration) : SpiInv (SpiState.init applied) := by
  constructor
  all_goals simp [SpiState.init]

theorem lazyConfig_cases (inst : DrvSpiInst) (ret : Int) (b : SpiBus)
    : (b.gHandleId inst.spiId = inst.handleId ∧ lazyConfig inst ret b = (0, b))
        ∨ (ret ≠ 0 ∧ lazyConfig inst ret b = (ret, b))
        ∨ (b.gHandleId inst.spiId ≠ inst.handleId ∧ ret = 0
            ∧ lazyConfig inst ret b = (0, b.configured inst inst.pinConfig)) := by
  unfold lazyConfig
  split
  . next howner =>
    dsimp
    split
    . next hret =>
      rw [ioctlConfig_fail b hret]
      exact .inr (.inl ⟨hret, rfl⟩)
    . next hret =>
      have hret : ret = 0 := by simpa using hret
      subst hret
      rw [ioctlConfig_setOwner]
      exact .inr (.inr ⟨howner, rfl, rfl⟩)
  . next howner =>
    exact .inl ⟨by simpa using howner, rfl⟩

theorem lazyConfig_failed {inst : DrvSpiInst} {ret : Int} {b : SpiBus}
    (h : (lazyConfig inst ret b).1 ≠ 0)
    : ret ≠ 0 ∧ (lazyConfig inst ret b).2 = b := by
  rcases lazyConfig_cases inst ret b with hcase | hcase | hcase
  . simp [hcase.2] at h
  . exact ⟨hcase.1, by rw [hcase.2]⟩
  . simp [hcase.2.2] at h

theorem lazyConfig_done {inst : DrvSpiInst} {ret : Int} {b : SpiBus}
    (h : (lazyConfig inst ret b).1 = 0)
    : (b.gHandleId inst.spiId = inst.handleId ∧ (lazyConfig inst ret b).2 = b)
        ∨ (ret = 0 ∧ b.gHandleId inst.spiId ≠ inst.handleId
            ∧ (lazyConfig inst ret b).2 = b.configured inst inst.pinConfig) := by
  rcases lazyConfig_cases inst ret b with hcase | hcase | hcase
  . exact .inl ⟨hcase.1, by rw [hcase.2]⟩
  . rw [hcase.2] at h
    exact absurd h hcase.1
  . exact .inr ⟨hcase.2.1, hcase.1, by rw [hcase.2.2]⟩

theorem Keeps.refl {inst : DrvSpiInst} (hpin : inst.useHwCs = true → inst.csPin ≠ -1)
    : Keeps inst inst :=
  ⟨rfl, rfl, rfl, hpin⟩

theorem drvSpiUpdateConfig_cases {inst : DrvSpiInst}
    (hpin : inst.useHwCs = true → inst.csPin ≠ -1) (ret : Int) (b : SpiBus)
    : (ret ≠ 0 ∧ drvSpiUpdateConfig inst ret b = (ret, b))
        ∨ (ret = 0 ∧ drvSpiUpdateConfig inst ret b = (0, b.configured inst inst.settings)) := by
  unfold drvSpiUpdateConfig
  have hguard : ¬(inst.csPin = -1 ∧ inst.useHwCs = true) := by
    intro ⟨h1, h2⟩
    exact hpin h2 h1
  simp only [hguard, ↓reduceIte]
  split
  . next hret =>
    rw [ioctlConfig_fail b hret]
    exact .inl ⟨hret, rfl⟩
  . next hret =>
    have hret : ret = 0 := by simpa using hret
    subst hret
    rw [ioctlConfig_setOwner]
    exact .inr ⟨rfl, rfl⟩

theorem changeSetting_effect {inst : DrvSpiInst} {change : DrvSpiInst → DrvSpiInst}
    (hpin : inst.useHwCs = true → inst.csPin ≠ -1) (hkeep : Keeps inst (change inst)) (ret : Int)
    (b : SpiBus)
    : CallEffect inst b (changeSetting inst change ret b).inst (changeSetting inst change ret b).bus
        ∧ (changeSetting inst change ret b).sent = none := by
  have hconf : b.configured (change inst) (change inst).settings
      = b.configured inst (change inst).settings := by
    simp [SpiBus.configured, hkeep.spiId, hkeep.handleId]
  unfold changeSetting
  cases drvSpiUpdateConfig_cases hkeep.pin ret b with
  | inl h =>
    rw [h.2]
    simp only [ne_eq, h.1, not_false_eq_true, ↓reduceIte, and_true]
    exact .same (Keeps.refl hpin) rfl
  | inr h =>
    rw [h.2, hconf]
    simp only [ne_eq, not_true_eq_false, ↓reduceIte, and_true]
    exact .configured hkeep

theorem drvSpiTransfer_idle (inst : DrvSpiInst) {txData rxData : Bool} {len : Nat} {ret : Int}
    (h : SpiOp.messageRet.reachesBus txData rxData len ret = none) (csChange : Bool) (rwRet : Int)
    (b : SpiBus)
    : (drvSpiTransfer (some inst) txData rxData len csChange ret rwRet b).inst = some inst
        ∧ (drvSpiTransfer (some inst) txData rxData len csChange ret rwRet b).bus = b
        ∧ (drvSpiTransfer (some inst) txData rxData len csChange ret rwRet b).sent = none := by
  unfold SpiOp.messageRet.reachesBus at h
  unfold drvSpiTransfer
  dsimp only
  split at h
  . next hguard =>
    split
    . exact ⟨rfl, rfl, rfl⟩
    . split
      . exact ⟨rfl, rfl, rfl⟩
      . next hlen =>
        have hguard : len > intMax ∨ (!txData) = true ∧ (!rxData) = true := by
          cases hguard with
          | inl hzero => exact absurd hzero hlen
          | inr hguard => exact hguard
        rw [if_pos hguard]
        exact ⟨rfl, rfl, rfl⟩
  . simp at h

theorem call_idle (op : SpiOp) {inst : DrvSpiInst} (hopen : 0 ≤ inst.devFd)
    (hpin : inst.useHwCs = true → inst.csPin ≠ -1) (b : SpiBus) (hop : op.messageRet = none)
    : CallEffect inst b (op.call (some inst) b).inst (op.call (some inst) b).bus
        ∧ (op.call (some inst) b).sent = none := by
  have hsame : CallEffect inst b (some inst) b := .same (Keeps.refl hpin) rfl
  have hfd : ¬(inst.devFd < 0) := by omega
  cases op with
  | create => exact ⟨hsame, rfl⟩
  | destroy => exact ⟨.gone, rfl⟩
  | setBaudrate =>
    simp only [SpiOp.call, drvSpiSetBaudrate]
    split
    . exact ⟨hsame, rfl⟩
    . exact changeSetting_effect hpin ⟨rfl, rfl, rfl, hpin⟩ _ b
  | setDatamode =>
    simp only [SpiOp.call, drvSpiSetDatamode]
    split
    . exact ⟨hsame, rfl⟩
    . exact changeSetting_effect hpin ⟨rfl, rfl, rfl, hpin⟩ _ b
  | setCsPolarity =>
    simp only [SpiOp.call, drvSpiSetCsPolarity, hfd, ↓reduceIte]
    split
    . exact changeSetting_effect hpin ⟨rfl, rfl, rfl, hpin⟩ _ b
    . exact ⟨hsame, rfl⟩
  | setCsMode p useHwCs =>
    simp only [SpiOp.call, drvSpiSetCsMode, hfd, ↓reduceIte]
    split
    . exact ⟨hsame, rfl⟩
    . next hmode =>
      refine changeSetting_effect hpin ⟨rfl, rfl, rfl, ?_⟩ _ b
      intro huse hcs
      exact hmode ⟨huse, hcs⟩
  | setDataBits =>
    simp only [SpiOp.call, drvSpiSetDataBits]
    split
    . exact ⟨hsame, rfl⟩
    . exact changeSetting_effect hpin ⟨rfl, rfl, rfl, hpin⟩ _ b
  | transfer p txData rxData len csChange ret rwRet =>
    have h := drvSpiTransfer_idle inst hop csChange rwRet b
    simp only [SpiOp.call, h]
    exact ⟨hsame, trivial⟩
  | read p rxData len csChange ret rwRet =>
    have h := drvSpiTransfer_idle inst hop csChange rwRet b
    simp only [SpiOp.call, drvSpiRead, h]
    exact ⟨hsame, trivial⟩
  | write p txData len csChange ret rwRet =>
    have h := drvSpiTransfer_idle inst hop csChange rwRet b
    simp only [SpiOp.call, drvSpiWrite, h]
    exact ⟨hsame, trivial⟩
  | transferMessage p msg ret rwRet =>
    cases msg with
    | none => exact ⟨hsame, rfl⟩
    | some msg =>
      have hlen : msg.length > intMax := by
        simp only [SpiOp.messageRet] at hop
        split at hop
        . assumption
        . simp at hop
      simp only [SpiOp.call, drvSpiTransferMessage, hlen, or_true, ↓reduceIte]
      exact ⟨hsame, trivial⟩

theorem takeCs_settings (inst : DrvSpiInst) (csChange : Bool)
    : (takeCs inst csChange).1.settings = inst.settings := by
  unfold takeCs
  split
  . split <;> rfl
  . rfl

theorem takeCs_spiId (inst : DrvSpiInst) (csChange : Bool)
    : (takeCs inst csChange).1.spiId = inst.spiId := by
  unfold takeCs
  split
  . split <;> rfl
  . rfl

theorem takeCs_keeps {inst : DrvSpiInst} (hpin : inst.useHwCs = true → inst.csPin ≠ -1)
    (csChange : Bool)
    : Keeps inst (takeCs inst csChange).1 := by
  unfold takeCs
  split
  . split <;> exact ⟨rfl, rfl, rfl, hpin⟩
  . exact Keeps.refl hpin

inductive MessageEffect (inst : DrvSpiInst) (b : SpiBus) (ret : Int) : SpiResult → Prop where
  | rejected {r : SpiResult} (hlazy : (lazyConfig inst ret b).1 ≠ 0) (hinst : r.inst = some inst)
      (hbus : r.bus = (lazyConfig inst ret b).2) (hsent : r.sent = none)
    : MessageEffect inst b ret r
  | sent {r : SpiResult} {inst' : DrvSpiInst} {msg : RtQspiMessage}
      (hlazy : (lazyConfig inst ret b).1 = 0) (hkeep : Keeps inst inst')
      (hset : inst'.settings = inst.settings) (hinst : r.inst = some inst')
      (hbus : r.bus = (lazyConfig inst ret b).2)
      (hsent : r.sent = some ⟨inst', msg, (lazyConfig inst ret b).2.applied inst.spiId⟩)
    : MessageEffect inst b ret r

theorem drvSpiTransfer_effect {inst : DrvSpiInst} (hopen : 0 ≤ inst.devFd)
    (hpin : inst.useHwCs = true → inst.csPin ≠ -1) {txData rxData : Bool} {len : Nat}
    {ret ret' : Int} (h : SpiOp.messageRet.reachesBus txData rxData len ret = some ret')
    (csChange : Bool) (rwRet : Int) (b : SpiBus)
    : MessageEffect inst b ret' (drvSpiTransfer (some inst) txData rxData len csChange ret rwRet b) := by
  unfold SpiOp.messageRet.reachesBus at h
  split at h
  . simp at h
  . next hguard =>
    have hret : ret = ret' := by simpa using h
    subst hret
    simp only [not_or] at hguard
    obtain ⟨hzero, hmax, hbuf⟩ := hguard
    have hfd : ¬(inst.devFd < 0) := by omega
    have hguard : ¬(len > intMax ∨ (!txData) = true ∧ (!rxData) = true) := by
      simp only [not_or]
      exact ⟨hmax, hbuf⟩
    simp only [drvSpiTransfer, hfd, hzero, hguard, ↓reduceIte]
    split
    . next hlazy => exact .rejected hlazy rfl rfl rfl
    . next hlazy =>
      rw [takeCs_spiId]
      exact .sent (by simpa using hlazy) (takeCs_keeps hpin csChange)
        (takeCs_settings inst csChange) rfl rfl rfl

theorem call_message (op : SpiOp) {inst : DrvSpiInst} (hopen : 0 ≤ inst.devFd)
    (hpin : inst.useHwCs = true → inst.csPin ≠ -1) (b : SpiBus) {ret : Int}
    (hop : op.messageRet = some ret)
    : MessageEffect inst b ret (op.call (some inst) b) := by
  cases op with
  | transfer p txData rxData len csChange =>
    exact drvSpiTransfer_effect hopen hpin hop csChange _ b
  | read p rxData len csChange =>
    exact drvSpiTransfer_effect hopen hpin hop csChange _ b
  | write p txData len csChange =>
    exact drvSpiTransfer_effect hopen hpin hop csChange _ b
  | transferMessage p msg ret' =>
    cases msg with
    | none => simp [SpiOp.messageRet] at hop
    | some msg =>
      simp only [SpiOp.messageRet] at hop
      split at hop
      . simp at hop
      . next hlen =>
        have hret : ret' = ret := by simpa using hop
        subst hret
        have hguard : ¬(inst.devFd < 0 ∨ msg.length > intMax) := by omega
        simp only [SpiOp.call, drvSpiTransferMessage, hguard, ↓reduceIte]
        split
        . next hlazy => exact .rejected hlazy rfl rfl rfl
        . next hlazy => exact .sent (by simpa using hlazy) (Keeps.refl hpin) rfl rfl rfl rfl
  | _ => simp [SpiOp.messageRet] at hop

theorem call_none (op : SpiOp) (b : SpiBus)
    : (op.call none b).inst = none ∧ (op.call none b).bus = b ∧ (op.call none b).sent = none := by
  cases op
  all_goals exact ⟨rfl, rfl, rfl⟩

theorem update_some_cases {insts : Nat → Option DrvSpiInst} {p q : Nat} {x : Option DrvSpiInst}
    {inst : DrvSpiInst} (h : Function.update insts p x q = some inst)
    : (q = p ∧ x = some inst) ∨ (q ≠ p ∧ insts q = some inst) := by
  by_cases hq : q = p
  . subst hq
    rw [Function.update_self] at h
    exact .inl ⟨rfl, h⟩
  . rw [Function.update_of_ne hq] at h
    exact .inr ⟨hq, h⟩

theorem SpiInv.gone {s : SpiState} (hs : SpiInv s) (p : Nat)
    : SpiInv { s with insts := Function.update s.insts p none } := by
  have hold : ∀ q inst, Function.update s.insts p none q = some inst → s.insts q = some inst := by
    intro q inst h
    cases update_some_cases h with
    | inl h => simp at h
    | inr h => exact h.2
  constructor
  . intro q inst hq
    exact hs.fresh q inst (hold q inst hq)
  . intro q r inst inst' hq hr
    exact hs.distinct q r inst inst' (hold q inst hq) (hold r inst' hr)
  . intro q inst hq
    exact hs.isOpen q inst (hold q inst hq)
  . intro q inst hq
    exact hs.pin q inst (hold q inst hq)
  . intro q inst hq
    exact hs.owner q inst (hold q inst hq)

/-
An instance that a call changes keeps its handle and its bus, so only the last field of the
invariant depends on what the call did to the bus.
-/
theorem SpiInv.replace {s : SpiState} (hs : SpiInv s) {p : Nat} {inst inst' : DrvSpiInst}
    (hinst : s.insts p = some inst) (hkeep : Keeps inst inst') {b : SpiBus}
    (hself : b.gHandleId inst.spiId = inst.handleId → b.applied inst.spiId = some inst'.settings)
    (hother : ∀ q other, q ≠ p → s.insts q = some other →
      b.gHandleId other.spiId = other.handleId → b.applied other.spiId = some other.settings)
    : SpiInv { s with insts := Function.update s.insts p (some inst'), bus := b } := by
  have hold : ∀ q new, Function.update s.insts p (some inst') q = some new →
      ∃ old, s.insts q = some old ∧ Keeps old new := by
    intro q new h
    cases update_some_cases h with
    | inl h =>
      obtain ⟨rfl, hnew⟩ := h
      cases hnew
      exact ⟨inst, hinst, hkeep⟩
    | inr h =>
      exact ⟨new, h.2, Keeps.refl (hs.pin q new h.2)⟩
  constructor
  . intro q new hq
    obtain ⟨old, hold, hk⟩ := hold q new hq
    rw [hk.handleId]
    exact hs.fresh q old hold
  . intro q r new new' hq hr heq
    obtain ⟨old, hqold, hk⟩ := hold q new hq
    obtain ⟨old', hrold, hk'⟩ := hold r new' hr
    rw [hk.handleId, hk'.handleId] at heq
    exact hs.distinct q r old old' hqold hrold heq
  . intro q new hq
    obtain ⟨old, hqold, hk⟩ := hold q new hq
    rw [hk.devFd]
    exact hs.isOpen q old hqold
  . intro q new hq
    obtain ⟨_, _, hk⟩ := hold q new hq
    exact hk.pin
  . intro q new hq howner
    cases update_some_cases hq with
    | inl h =>
      obtain ⟨rfl, hnew⟩ := h
      cases hnew
      rw [hkeep.spiId] at howner ⊢
      rw [hkeep.handleId] at howner
      exact hself howner
    | inr h =>
      exact hother q new h.1 h.2 howner

theorem SpiInv.same {s : SpiState} (hs : SpiInv s) {p : Nat} {inst inst' : DrvSpiInst}
    (hinst : s.insts p = some inst) (hkeep : Keeps inst inst')
    (hset : inst'.settings = inst.settings)
    : SpiInv { s with insts := Function.update s.insts p (some inst') } := by
  apply hs.replace hinst hkeep
  . rw [hset]
    exact hs.owner p inst hinst
  . intro q other _ hq
    exact hs.owner q other hq

theorem SpiInv.configured {s : SpiState} (hs : SpiInv s) {p : Nat} {inst inst' : DrvSpiInst}
    (hinst : s.insts p = some inst) (hkeep : Keeps inst inst')
    : SpiInv
        {
          s with
          insts := Function.update s.insts p (some inst')
          bus := s.bus.configured inst inst'.settings
        } := by
  apply hs.replace hinst hkeep
  . intro _
    simp [SpiBus.configured]
  . intro q other hne hq
    simp only [SpiBus.configured]
    by_cases hbus : other.spiId = inst.spiId
    . -- the bus is now owned by `p`, whose handle no other instance has
      rw [hbus, Function.update_self]
      intro heq
      exact absurd (hs.distinct q p other inst hq hinst heq.symm) hne
    . rw [Function.update_of_ne hbus, Function.update_of_ne hbus]
      exact hs.owner q other hq

theorem CallEffect.inv {s : SpiState} (hs : SpiInv s) {p : Nat} {inst : DrvSpiInst}
    (hinst : s.insts p = some inst) {r : SpiResult} (h : CallEffect inst s.bus r.inst r.bus)
    : SpiInv (s.finish p r) := by
  obtain ⟨ret, inst', b, sent⟩ := r
  unfold SpiState.finish
  dsimp only at h ⊢
  cases h with
  | gone => exact hs.gone p
  | same hkeep hset => exact hs.same hinst hkeep hset
  | configured hkeep => exact hs.configured hinst hkeep

inductive CreateEffect (old : Option DrvSpiInst) (a : CreateArgs) (idx : Nat) (b : SpiBus)
    : SpiResult × Nat → Prop where
  | rejected (ret : Int) : CreateEffect old a idx b (⟨ret, old, b, none⟩, idx)
  | failed (ret : Int) {idx' : Nat} (hidx : idx ≤ idx')
    : CreateEffect old a idx b (⟨ret, none, b, none⟩, idx')
  | created {devFd : Int} (hfd : 0 ≤ devFd)
    : CreateEffect old a idx b
        (⟨0, some (a.inst devFd idx), b.configured (a.inst devFd idx) (a.inst devFd idx).settings,
          none⟩, idx + 1)

theorem inst_pin (a : CreateArgs) (devFd : Int) (idx : Nat)
    : (a.inst devFd idx).useHwCs = true → (a.inst devFd idx).csPin ≠ -1 := by
  simp [CreateArgs.inst]

theorem drvSpiInstCreate_effect (old : Option DrvSpiInst) (a : CreateArgs) (env : CreateEnv)
    (idx : Nat) (b : SpiBus)
    : CreateEffect old a idx b (drvSpiInstCreate old a env idx b) := by
  unfold drvSpiInstCreate
  split
  . exact .rejected (-1)
  . split
    . exact .failed (-1) (Nat.le_refl idx)
    . split
      . exact .failed (-1) (Nat.le_refl idx)
      . split
        . exact .failed (-1) (Nat.le_refl idx)
        . next hfd =>
          dsimp only
          split
          . next hret =>
            rw [ioctlConfig_fail b hret]
            exact .failed env.configRet (Nat.le_succ idx)
          . next hret =>
            have hret : env.configRet = 0 := by simpa using hret
            have hconfig : (a.inst env.devFd idx).pinConfig = (a.inst env.devFd idx).settings := by
              rw [pinConfig_eq_settings_iff]
              simp [CreateArgs.inst]
            rw [hret, ioctlConfig_setOwner, hconfig]
            exact .created (by omega)

theorem SpiInv.created {s : SpiState} (hs : SpiInv s) (p : Nat) (a : CreateArgs) {devFd : Int}
    (hfd : 0 ≤ devFd)
    : SpiInv
        {
          insts := Function.update s.insts p (some (a.inst devFd s.idx))
          idx := s.idx + 1
          bus := s.bus.configured (a.inst devFd s.idx) (a.inst devFd s.idx).settings
        } := by
  have hid : (a.inst devFd s.idx).handleId = s.idx := rfl
  constructor
  . intro q inst hq
    cases update_some_cases hq with
    | inl h =>
      cases h.2
      exact Nat.lt_succ_self s.idx
    | inr h =>
      exact Nat.lt_succ_of_lt (hs.fresh q inst h.2)
  . intro q r inst inst' hq hr heq
    cases update_some_cases hq with
    | inl h =>
      cases update_some_cases hr with
      | inl h' => rw [h.1, h'.1]
      | inr h' =>
        cases h.2
        have := hs.fresh r inst' h'.2
        omega
    | inr h =>
      cases update_some_cases hr with
      | inl h' =>
        cases h'.2
        have := hs.fresh q inst h.2
        omega
      | inr h' => exact hs.distinct q r inst inst' h.2 h'.2 heq
  . intro q inst hq
    cases update_some_cases hq with
    | inl h =>
      cases h.2
      exact hfd
    | inr h => exact hs.isOpen q inst h.2
  . intro q inst hq
    cases update_some_cases hq with
    | inl h =>
      cases h.2
      exact inst_pin a devFd s.idx
    | inr h => exact hs.pin q inst h.2
  . intro q inst hq
    simp only [SpiBus.configured]
    cases update_some_cases hq with
    | inl h =>
      cases h.2
      simp
    | inr h =>
      by_cases hbus : inst.spiId = (a.inst devFd s.idx).spiId
      . rw [hbus, Function.update_self, hid]
        intro heq
        have := hs.fresh q inst h.2
        omega
      . rw [Function.update_of_ne hbus, Function.update_of_ne hbus]
        exact hs.owner q inst h.2

theorem SpiInv.idx_le {s : SpiState} (hs : SpiInv s) {idx : Nat} (hidx : s.idx ≤ idx)
    : SpiInv { s with idx := idx } :=
  {
    hs with
    fresh := by
      intro p inst hp
      exact Nat.lt_of_lt_of_le (hs.fresh p inst hp) hidx
  }

theorem step_create_inv {s : SpiState} (hs : SpiInv s) (p : Nat) (a : CreateArgs) (env : CreateEnv)
    : SpiInv (spiMachine.step s (.create p a env)).1
        ∧ (spiMachine.step s (.create p a env)).2 = none := by
  have heffect := drvSpiInstCreate_effect (s.insts p) a env s.idx s.bus
  unfold spiMachine
  dsimp only
  generalize drvSpiInstCreate (s.insts p) a env s.idx s.bus = res at heffect
  cases heffect with
  | rejected ret =>
    refine ⟨?_, rfl⟩
    simp only [SpiState.finish, Function.update_eq_self]
    exact hs
  | failed ret hidx => exact ⟨(hs.gone p).idx_le hidx, rfl⟩
  | created hfd => exact ⟨hs.created p a hfd, rfl⟩

def CsOverride (v : Lib.Machine.Visit SpiState SpiOp (Option Sent)) : Prop :=
  ∃ inst, v.pre.insts v.event.target = some inst
    ∧ v.event.messageRet = some 0
    ∧ v.pre.bus.gHandleId inst.spiId ≠ inst.handleId
    ∧ inst.csPin ≠ -1
    ∧ inst.useHwCs = false

def SentAsSet (v : Lib.Machine.Visit SpiState SpiOp (Option Sent)) : Prop :=
  ∀ sent ∈ v.obs, sent.applied = some sent.inst.settings

theorem step_call_eq (s : SpiState) (op : SpiOp) (hop : ∀ p a env, op ≠ .create p a env)
    : spiMachine.step s op
        = (s.finish op.target (op.call (s.insts op.target) s.bus),
            (op.call (s.insts op.target) s.bus).sent) := by
  cases op with
  | create p a env => exact absurd rfl (hop p a env)
  | _ => rfl

theorem sentAsSet_of_none {s : SpiState} {op : SpiOp} (h : (spiMachine.step s op).2 = none)
    : SentAsSet (spiMachine.visit s op) := by
  intro sent hsent
  simp [h] at hsent

theorem not_csOverride_of_idle {s : SpiState} {op : SpiOp} (h : op.messageRet = none)
    : ¬CsOverride (spiMachine.visit s op) := by
  intro ⟨_, _, hret, _⟩
  simp [h] at hret

theorem step_idle {s : SpiState} (hs : SpiInv s) {op : SpiOp} (hop : op.messageRet = none)
    : SpiInv (spiMachine.step s op).1 ∧ (spiMachine.step s op).2 = none := by
  by_cases hcreate : ∃ p a env, op = .create p a env
  . obtain ⟨p, a, env, rfl⟩ := hcreate
    exact step_create_inv hs p a env
  . simp only [not_exists] at hcreate
    rw [step_call_eq s op hcreate]
    cases hinst : s.insts op.target with
    | none =>
      obtain ⟨h1, h2, h3⟩ := call_none op s.bus
      simp only [SpiState.finish, h1, h2, h3, and_true]
      exact hs.gone op.target
    | some inst =>
      have heffect := call_idle op (hs.isOpen _ inst hinst) (hs.pin _ inst hinst) s.bus hop
      exact ⟨heffect.1.inv hs hinst, heffect.2⟩

def DrvSpiInst.Overrides (inst : DrvSpiInst) (b : SpiBus) (ret : Int) : Prop :=
  ret = 0 ∧ b.gHandleId inst.spiId ≠ inst.handleId ∧ inst.csPin ≠ -1 ∧ inst.useHwCs = false

/-
The bus was set up by this instance already, could not be set up, or is set up now.
-/
theorem MessageEffect.inv {s : SpiState} (hs : SpiInv s) {p : Nat} {inst : DrvSpiInst}
    (hinst : s.insts p = some inst) {ret : Int} {r : SpiResult} (h : MessageEffect inst s.bus ret r)
    (hno : ¬inst.Overrides s.bus ret)
    : SpiInv (s.finish p r) := by
  unfold SpiState.finish
  cases h with
  | rejected hlazy hri hrb hrs =>
    rw [hri, hrb, (lazyConfig_failed hlazy).2]
    exact hs.same hinst (Keeps.refl (hs.pin p inst hinst)) rfl
  | @sent inst' msg hlazy hkeep hset hri hrb hrs =>
    rw [hri, hrb]
    cases lazyConfig_done hlazy with
    | inl howned =>
      rw [howned.2]
      exact hs.same hinst hkeep hset
    | inr hconfig =>
      obtain ⟨hret, howner, hbus⟩ := hconfig
      have hpin : inst.pinConfig = inst'.settings := by
        rw [hset, pinConfig_eq_settings_iff]
        intro hcs
        exact hno ⟨hret, howner, hcs⟩
      rw [hbus, hpin]
      exact hs.configured hinst hkeep

theorem MessageEffect.sentAsSet_iff {s : SpiState} (hs : SpiInv s) {p : Nat} {inst : DrvSpiInst}
    (hinst : s.insts p = some inst) {ret : Int} {r : SpiResult} (h : MessageEffect inst s.bus ret r)
    : (∀ sent ∈ r.sent, sent.applied = some sent.inst.settings) ↔ ¬inst.Overrides s.bus ret := by
  cases h with
  | rejected hlazy hri hrb hrs =>
    have hno : ¬inst.Overrides s.bus ret := by
      intro hover
      exact (lazyConfig_failed hlazy).1 hover.1
    rw [hrs]
    simp only [Option.mem_def, reduceCtorEq, false_implies, implies_true, hno, not_false_eq_true]
  | @sent inst' msg hlazy hkeep hset hri hrb hrs =>
    rw [hrs]
    simp only [Option.mem_def, Option.some.injEq, forall_eq', hset]
    cases lazyConfig_done hlazy with
    | inl howned =>
      have hno : ¬inst.Overrides s.bus ret := by
        intro hover
        exact hover.2.1 howned.1
      rw [howned.2, hs.owner p inst hinst howned.1]
      simp only [hno, not_false_eq_true]
    | inr hconfig =>
      obtain ⟨hret, howner, hbus⟩ := hconfig
      have hover : inst.Overrides s.bus ret ↔ inst.csPin ≠ -1 ∧ inst.useHwCs = false := by
        simp only [DrvSpiInst.Overrides, hret, howner, ne_eq, not_false_eq_true, true_and]
      rw [hbus, hover, ← pinConfig_eq_settings_iff]
      simp only [SpiBus.configured, Function.update_self, Option.some.injEq]

/-
The only step at which the invariant can break: a transfer by an instance that is not the owner of
its bus writes the chip select pin into the configuration without looking at `use_hw_cs`.
-/
theorem step_message {s : SpiState} (hs : SpiInv s) {op : SpiOp} {ret : Int}
    (hop : op.messageRet = some ret)
    : (¬CsOverride (spiMachine.visit s op) → SpiInv (spiMachine.step s op).1)
        ∧ (SentAsSet (spiMachine.visit s op) ↔ ¬CsOverride (spiMachine.visit s op)) := by
  have hcreate : ∀ p a env, op ≠ .create p a env := by
    intro p a env h
    simp [h, SpiOp.messageRet] at hop
  have hstep := step_call_eq s op hcreate
  cases hinst : s.insts op.target with
  | none =>
    obtain ⟨h1, h2, h3⟩ := call_none op s.bus
    have hno : ¬CsOverride (spiMachine.visit s op) := by
      intro ⟨inst, hsome, _⟩
      simp [hinst] at hsome
    have hnone : (spiMachine.step s op).2 = none := by
      rw [hstep, hinst]
      exact h3
    refine ⟨?_, ⟨fun _ => hno, fun _ => sentAsSet_of_none hnone⟩⟩
    intro _
    rw [hstep, hinst]
    simp only [SpiState.finish, h1, h2]
    exact hs.gone op.target
  | some inst =>
    have hover : CsOverride (spiMachine.visit s op) ↔ inst.Overrides s.bus ret := by
      simp [CsOverride, DrvSpiInst.Overrides, hinst, hop]
    have heffect := call_message op (hs.isOpen _ inst hinst) (hs.pin _ inst hinst) s.bus hop
    rw [hover]
    unfold SentAsSet
    simp only [Lib.Machine.visit_obs]
    rw [hstep, hinst]
    exact ⟨heffect.inv hs hinst, heffect.sentAsSet_iff hs hinst⟩

theorem step_inv {s : SpiState} (hs : SpiInv s) (op : SpiOp)
    (hno : ¬CsOverride (spiMachine.visit s op))
    : SpiInv (spiMachine.step s op).1 := by
  cases hop : op.messageRet with
  | none => exact (step_idle hs hop).1
  | some ret => exact (step_message hs hop).1 hno

theorem sentAsSet_iff {s : SpiState} (hs : SpiInv s) (op : SpiOp)
    : SentAsSet (spiMachine.visit s op) ↔ ¬CsOverride (spiMachine.visit s op) := by
  cases hop : op.messageRet with
  | none =>
    have := sentAsSet_of_none (step_idle hs hop).2
    simp only [this, not_csOverride_of_idle hop, not_false_eq_true]
  | some ret => exact (step_message hs hop).2

/--
Whatever the application calls and whatever the ioctls return, all messages are sent under the
settings of their instances exactly if no transfer overrides a switched off chip select.
-/
theorem sentAsSet_iff_no_csOverride (applied : Int → Option RtQspiConfiguration)
    (ops : List SpiOp)
    : (∀ v ∈ spiMachine.visits (SpiState.init applied) ops, SentAsSet v)
        ↔ (∀ v ∈ spiMachine.visits (SpiState.init applied) ops, ¬CsOverride v) := by
  apply Lib.Machine.forall_visits_iff SpiInv
  . intro s op hs hno
    exact step_inv hs op hno
  . intro s op hs
    exact sentAsSet_iff hs op
  . exact SpiInv.init applied

/-
Two instances on one bus. The first one switches its chip select off, the second one then becomes
the owner, and the next transfer of the first one brings the chip select back.
-/
def twoInstances : List SpiOp :=
  [
    .create 0 ⟨1, true, 0, 1000000, 8, 5, 1⟩ ⟨true, 0, 0, 0, 3, 0⟩,
    .setCsMode 0 false 0,
    .create 1 ⟨1, true, 0, 2000000, 8, 6, 1⟩ ⟨true, 0, 0, 0, 4, 0⟩,
    .transfer 0 true false 4 true 0 4
  ]

instance (v : Lib.Machine.Visit SpiState SpiOp (Option Sent)) : Decidable (SentAsSet v) :=
  match h : v.obs with
  | none => .isTrue (by simp [SentAsSet, h])
  | some sent =>
    decidable_of_iff (sent.applied = some sent.inst.settings) (by simp [SentAsSet, h])

theorem twoInstances_not_sentAsSet
    : ¬∀ v ∈ spiMachine.visits (SpiState.init fun _ => none) twoInstances, SentAsSet v := by
  decide

end Spi

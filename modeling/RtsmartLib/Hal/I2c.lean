import RtsmartLib.Lib.Machine
import RtsmartLib.Lib.Shadow

/-!
This module contains the I2C master driver: the instances that a bus may have, the clock and the timeout
that the kernel keeps for the bus, and the setters that leave out what the instance has already set. The
note of the buses in use is left out, it is only ever printed.
-/

namespace I2c

open Lib

def kdHardI2cMaxNum : Int := 5

inductive I2cType where
  | hard
  | soft
  deriving DecidableEq, Repr

structure DrvI2cInst where
  type : I2cType
  id : Int
  fd : Int
  freq : UInt32
  timeoutMs : UInt32
  deriving DecidableEq, Repr

/-
`RT_I2C_DEV_CTRL_CLK` and `RT_I2C_DEV_CTRL_TIMEOUT`.
-/
inductive I2cSetting where
  | clk
  | timeout
  deriving DecidableEq, Repr

def DrvI2cInst.get (inst : DrvI2cInst) (setting : I2cSetting) : UInt32 :=
  match setting with
  | .clk => inst.freq
  | .timeout => inst.timeoutMs

def DrvI2cInst.put (inst : DrvI2cInst) (setting : I2cSetting) (value : UInt32) : DrvI2cInst :=
  match setting with
  | .clk => { inst with freq := value }
  | .timeout => { inst with timeoutMs := value }

/-
The variables of the callers and what they point to, and for each setting what the kernel keeps for each
bus. `since` belongs to no one: it is the last value that others have set on the bus of an instance since the
instance itself did.
-/
structure I2cState where
  insts : Nat → Option DrvI2cInst
  actual : I2cSetting → Int → UInt32
  since : I2cSetting → Nat → Option UInt32

def I2cState.boot (actual : I2cSetting → Int → UInt32) : I2cState :=
  ⟨fun _ => none, actual, fun _ _ => none⟩

/-
What the instances believe of the buses.
-/
def copies (insts : Nat → Option DrvI2cInst) (setting : I2cSetting) : Nat → Option (Int × UInt32) :=
  fun p => (insts p).map (fun inst => (inst.id, inst.get setting))

/-
A setting that the kernel has accepted.
-/
def I2cState.accept (s : I2cState) (setting : I2cSetting) (id : Int) (value : UInt32) : I2cState :=
  { s with
    actual := Function.update s.actual setting (Function.update (s.actual setting) id value)
    since :=
      Function.update s.since setting (noteSet (copies s.insts setting) (s.since setting) id value)
  }

/-
A new instance has set what it holds.
-/
def I2cState.hold (s : I2cState) (p : Nat) (inst : DrvI2cInst) : I2cState :=
  { s with
    insts := Function.update s.insts p (some inst)
    since := fun setting => Function.update (s.since setting) p none
  }

def I2cState.putCached (s : I2cState) (p : Nat) (inst : DrvI2cInst) (setting : I2cSetting)
    (value : UInt32)
    : I2cState :=
  { s with
    insts := Function.update s.insts p (some (inst.put setting value))
    since := Function.update s.since setting (Function.update (s.since setting) p none)
  }

def drvI2cIoctl (inst : DrvI2cInst) (accepted : Bool) : Bool := !decide (inst.fd < 0) && accepted

/-
Destroying an instance leaves the settings of its bus.
-/
def drvI2cInstDestroy (s : I2cState) (p : Nat) : I2cState :=
  { s with insts := Function.update s.insts p none }

/-
The arguments of a creation and what the kernel answers.
-/
structure CreateCall where
  id : Int
  freq : UInt32
  timeoutMs : UInt32
  scl : UInt8
  sda : UInt8
  softCreated : Bool
  fd : Int
  hasMemory : Bool
  clkAccepted : Bool
  timeoutAccepted : Bool

def CreateCall.inst (call : CreateCall) (type : I2cType) : DrvI2cInst :=
  ⟨type, call.id, call.fd, call.freq, call.timeoutMs⟩

/-
The part after the device is there.
-/
def openInst (s : I2cState) (p : Nat) (call : CreateCall) (type : I2cType) : I2cState × Int :=
  if call.fd < 0 then
    (s, -1)
  else if !call.hasMemory then
    (s, -1)
  else
    let inst := call.inst type
    match type with
    | .soft => (s.hold p inst, 0)
    | .hard =>
      if !drvI2cIoctl inst call.clkAccepted then
        (s, -1)
      else
        let s := s.accept .clk call.id call.freq
        if !drvI2cIoctl inst call.timeoutAccepted then
          -- the bus keeps the clock of the instance that has failed
          (s, -1)
        else
          ((s.accept .timeout call.id call.timeoutMs).hold p inst, 0)

/-
A soft bus is created with both of its settings.
-/
def drvI2cInstCreate (s : I2cState) (p : Nat) (call : CreateCall) : I2cState × Int :=
  if call.id < 0 ∨ call.freq = 0 ∨ call.timeoutMs = 0 then
    (s, -1)
  else
    let s := drvI2cInstDestroy s p
    if call.id < kdHardI2cMaxNum then
      openInst s p call .hard
    else if 64 ≤ call.scl ∨ 64 ≤ call.sda then
      (s, -1)
    else if !call.softCreated then
      (s, -1)
    else
      openInst ((s.accept .clk call.id call.freq).accept .timeout call.id call.timeoutMs) p call .soft

def setSetting (setting : I2cSetting) (s : I2cState) (p : Nat) (value : UInt32) (accepted : Bool)
    : I2cState × Int :=
  match s.insts p with
  | none => (s, -1)
  | some inst =>
    if value = 0 then
      (s, -1)
    else if value = inst.get setting then
      (s, 0)
    else if !drvI2cIoctl inst accepted then
      (s, -1)
    else
      ((s.accept setting inst.id value).putCached p inst setting value, 0)

def drvI2cSetFreq (s : I2cState) (p : Nat) (freq : UInt32) (accepted : Bool) : I2cState × Int :=
  setSetting .clk s p freq accepted

def drvI2cSetTimeout (s : I2cState) (p : Nat) (timeoutMs : UInt32) (accepted : Bool)
    : I2cState × Int :=
  setSetting .timeout s p timeoutMs accepted

inductive I2cOp where
  | create (p : Nat) (call : CreateCall)
  | destroy (p : Nat)
  | setFreq (p : Nat) (freq : UInt32) (accepted : Bool)
  | setTimeout (p : Nat) (timeoutMs : UInt32) (accepted : Bool)

def i2cMachine : Machine I2cState I2cOp Int where
  step s op :=
    match op with
    | .create p call => drvI2cInstCreate s p call
    | .destroy p => (drvI2cInstDestroy s p, 0)
    | .setFreq p freq accepted => drvI2cSetFreq s p freq accepted
    | .setTimeout p timeoutMs accepted => drvI2cSetTimeout s p timeoutMs accepted

abbrev I2cVisit := Machine.Visit I2cState I2cOp Int

def I2cOp.sets (op : I2cOp) : Option (Nat × I2cSetting × UInt32) :=
  match op with
  | .setFreq p freq _ => some (p, .clk, freq)
  | .setTimeout p timeoutMs _ => some (p, .timeout, timeoutMs)
  | _ => none

/--
What has been set successfully is what the bus of the instance has.
-/
def SettingHolds (v : I2cVisit) : Prop :=
  ∀ p setting value, v.event.sets = some (p, setting, value) → v.obs = 0 →
    ∀ inst, v.pre.insts p = some inst → v.post.actual setting inst.id = value

/--
An instance sets what it last set itself, and others have set something else on the bus since.
-/
def SetsOvertaken (v : I2cVisit) : Prop :=
  ∃ p setting value inst, v.event.sets = some (p, setting, value) ∧ v.pre.insts p = some inst
    ∧ value ≠ 0 ∧ inst.get setting = value ∧ ∃ w, v.pre.since setting p = some w ∧ w ≠ value

def I2cInv (s : I2cState) : Prop :=
  ∀ setting, Tracks (s.actual setting) (copies s.insts setting) (s.since setting)

theorem copies_update (insts : Nat → Option DrvI2cInst) (p : Nat) (inst : Option DrvI2cInst)
    (setting : I2cSetting)
    : copies (Function.update insts p inst) setting
        =
      Function.update (copies insts setting) p
        (inst.map (fun inst => (inst.id, inst.get setting))) := by
  funext q
  unfold copies
  by_cases hq : q = p
  . subst hq
    simp
  . simp [Function.update_of_ne hq]

@[simp]
theorem get_put_self (inst : DrvI2cInst) (setting : I2cSetting) (value : UInt32)
    : (inst.put setting value).get setting = value := by
  cases setting with
  | clk => rfl
  | timeout => rfl

@[simp]
theorem id_put (inst : DrvI2cInst) (setting : I2cSetting) (value : UInt32)
    : (inst.put setting value).id = inst.id := by
  cases setting with
  | clk => rfl
  | timeout => rfl

theorem get_put_of_ne (inst : DrvI2cInst) {setting other : I2cSetting} (h : other ≠ setting)
    (value : UInt32)
    : (inst.put setting value).get other = inst.get other := by
  cases setting with
  | clk =>
    cases other with
    | clk => exact absurd rfl h
    | timeout => rfl
  | timeout =>
    cases other with
    | clk => rfl
    | timeout => exact absurd rfl h

theorem I2cInv.boot (actual : I2cSetting → Int → UInt32) : I2cInv (.boot actual) := by
  intro setting
  exact Tracks.none _ _

theorem I2cInv.destroy {s : I2cState} (hs : I2cInv s) (p : Nat) : I2cInv (drvI2cInstDestroy s p) := by
  intro setting
  unfold drvI2cInstDestroy
  dsimp only
  rw [copies_update]
  exact (hs setting).drop p

theorem I2cInv.accept {s : I2cState} (hs : I2cInv s) (setting : I2cSetting) (id : Int)
    (value : UInt32)
    : I2cInv (s.accept setting id value) := by
  intro other
  unfold I2cState.accept
  by_cases h : other = setting
  . subst h
    simpa only [Function.update_self] using (hs other).set id value
  . simpa only [Function.update_of_ne h] using hs other

theorem I2cInv.hold {s : I2cState} (hs : I2cInv s) (p : Nat) {inst : DrvI2cInst}
    (hinst : ∀ setting, s.actual setting inst.id = inst.get setting)
    : I2cInv (s.hold p inst) := by
  intro setting
  unfold I2cState.hold
  dsimp only
  rw [copies_update]
  exact (hs setting).keep p (hinst setting)

/-
The copy of the other setting is what it was.
-/
theorem I2cInv.putCached {s : I2cState} (hs : I2cInv s) {p : Nat} {inst : DrvI2cInst}
    (hp : s.insts p = some inst) {setting : I2cSetting} {value : UInt32}
    (hvalue : s.actual setting inst.id = value)
    : I2cInv (s.putCached p inst setting value) := by
  intro other
  unfold I2cState.putCached
  dsimp only
  rw [copies_update]
  by_cases h : other = setting
  . subst h
    simp only [Option.map_some, id_put, get_put_self, Function.update_self]
    exact (hs other).keep p hvalue
  . simp only [Option.map_some, id_put, get_put_of_ne inst h, Function.update_of_ne h]
    have hsame : some (inst.id, inst.get other) = copies s.insts other p := by
      simp [copies, hp]
    rw [hsame, Function.update_eq_self]
    exact hs other

@[simp]
theorem actual_accept (s : I2cState) (setting : I2cSetting) (id : Int) (value : UInt32)
    : (s.accept setting id value).actual setting id = value := by
  simp [I2cState.accept]

theorem actual_accept_of_ne (s : I2cState) {setting other : I2cSetting} (h : other ≠ setting)
    (id : Int) (value : UInt32)
    : (s.accept setting id value).actual other = s.actual other := by
  simp [I2cState.accept, Function.update_of_ne h]

/-
A new instance has set both of its settings.
-/
theorem I2cInv.hold_created {s : I2cState} (hs : I2cInv s) (p : Nat) (call : CreateCall)
    (type : I2cType)
    : I2cInv (((s.accept .clk call.id call.freq).accept .timeout call.id call.timeoutMs).hold p
        (call.inst type)) := by
  apply ((hs.accept _ _ _).accept _ _ _).hold
  intro setting
  cases setting with
  | clk =>
    rw [actual_accept_of_ne _ (by decide)]
    exact actual_accept s _ _ _
  | timeout => exact actual_accept _ _ _ _

theorem I2cInv.openHard {s : I2cState} (hs : I2cInv s) (p : Nat) (call : CreateCall)
    : I2cInv (openInst s p call .hard).1 := by
  unfold openInst
  split
  . exact hs
  . split
    . exact hs
    . dsimp only
      split
      . exact hs
      . split
        . exact hs.accept _ _ _
        . exact hs.hold_created p call .hard

theorem I2cInv.openSoft {s : I2cState} (hs : I2cInv s) (p : Nat) (call : CreateCall)
    : I2cInv (openInst ((s.accept .clk call.id call.freq).accept .timeout call.id call.timeoutMs) p
        call .soft).1 := by
  unfold openInst
  split
  . exact (hs.accept _ _ _).accept _ _ _
  . split
    . exact (hs.accept _ _ _).accept _ _ _
    . exact hs.hold_created p call .soft

theorem I2cInv.create {s : I2cState} (hs : I2cInv s) (p : Nat) (call : CreateCall)
    : I2cInv (drvI2cInstCreate s p call).1 := by
  unfold drvI2cInstCreate
  split
  . exact hs
  . dsimp only
    split
    . exact (hs.destroy p).openHard p call
    . split
      . exact hs.destroy p
      . split
        . exact hs.destroy p
        . exact (hs.destroy p).openSoft p call

theorem I2cInv.setSetting {s : I2cState} (hs : I2cInv s) (setting : I2cSetting) (p : Nat)
    (value : UInt32) (accepted : Bool)
    : I2cInv (setSetting setting s p value accepted).1 := by
  unfold I2c.setSetting
  split
  . exact hs
  . next inst hp =>
    split
    . exact hs
    . split
      . exact hs
      . split
        . exact hs
        . exact (hs.accept _ _ _).putCached hp (actual_accept s _ _ _)

theorem i2cStep {s : I2cState} (hs : I2cInv s) (op : I2cOp) : I2cInv (i2cMachine.step s op).1 := by
  cases op with
  | create p call => exact hs.create p call
  | destroy p => exact hs.destroy p
  | setFreq p freq accepted => exact hs.setSetting .clk p freq accepted
  | setTimeout p timeoutMs accepted => exact hs.setSetting .timeout p timeoutMs accepted

theorem step_of_sets (s : I2cState) {op : I2cOp} {p : Nat} {setting : I2cSetting} {value : UInt32}
    (h : op.sets = some (p, setting, value))
    : ∃ accepted, i2cMachine.step s op = setSetting setting s p value accepted := by
  cases op with
  | create => cases h
  | destroy => cases h
  | setFreq p freq accepted =>
    cases h
    exact ⟨accepted, rfl⟩
  | setTimeout p timeoutMs accepted =>
    cases h
    exact ⟨accepted, rfl⟩

/-
A setter that takes the shortcut.
-/
theorem setSetting_cached {s : I2cState} {setting : I2cSetting} {p : Nat} {inst : DrvI2cInst}
    {value : UInt32} (hp : s.insts p = some inst) (hvalue : value ≠ 0)
    (hcached : inst.get setting = value) (accepted : Bool)
    : setSetting setting s p value accepted = (s, 0) := by
  unfold setSetting
  rw [hp]
  dsimp only
  rw [if_neg hvalue, if_pos hcached.symm]

/-
A setter that does not take the shortcut and succeeds.
-/
theorem setSetting_accepted {s : I2cState} {setting : I2cSetting} {p : Nat} {inst : DrvI2cInst}
    {value : UInt32} (hp : s.insts p = some inst) (hnew : inst.get setting ≠ value)
    {accepted : Bool} (hret : (setSetting setting s p value accepted).2 = 0)
    : (setSetting setting s p value accepted).1.actual setting inst.id = value := by
  unfold setSetting at hret ⊢
  rw [hp] at hret ⊢
  dsimp only at hret ⊢
  split at hret
  . cases hret
  . next hzero =>
    split at hret
    . next hcached => exact absurd hcached.symm hnew
    . next hcached =>
      split at hret
      . cases hret
      . next hioctl =>
        rw [if_neg hzero, if_neg hcached, if_neg hioctl]
        exact actual_accept s setting inst.id value

theorem setSetting_zero (s : I2cState) (setting : I2cSetting) (p : Nat) (accepted : Bool)
    : (setSetting setting s p 0 accepted).2 = -1 := by
  unfold setSetting
  split
  . rfl
  . rfl

/-
The copy of an instance is right unless others have come between.
-/
theorem settingHolds_iff {s : I2cState} (hs : I2cInv s) (op : I2cOp)
    : SettingHolds (i2cMachine.visit s op) ↔ ¬SetsOvertaken (i2cMachine.visit s op) := by
  constructor
  . rintro h ⟨p, setting, value, inst, hsets, hp, hvalue, hcached, hother⟩
    simp only [Machine.visit_event, Machine.visit_pre] at hsets hp hother
    obtain ⟨accepted, hstep⟩ := step_of_sets s hsets
    have hstay := hstep.trans (setSetting_cached hp hvalue hcached accepted)
    have hactual := h p setting value hsets (congrArg Prod.snd hstay) inst hp
    simp only [Machine.visit_post, hstay] at hactual
    have hcopy : copies s.insts setting p = some (inst.id, value) := by
      simp [copies, hp, hcached]
    exact ((hs setting).right_iff hcopy).mp hactual hother
  . intro h p setting value hsets hret inst hp
    simp only [Machine.visit_event, Machine.visit_pre] at hsets hp
    obtain ⟨accepted, hstep⟩ := step_of_sets s hsets
    simp only [Machine.visit_obs, hstep] at hret
    simp only [Machine.visit_post, hstep]
    by_cases hcached : inst.get setting = value
    . have hvalue : value ≠ 0 := by
        intro hzero
        rw [hzero, setSetting_zero] at hret
        cases hret
      rw [setSetting_cached hp hvalue hcached accepted]
      have hcopy : copies s.insts setting p = some (inst.id, value) := by
        simp [copies, hp, hcached]
      apply ((hs setting).right_iff hcopy).mpr
      intro hother
      exact h ⟨p, setting, value, inst, hsets, hp, hvalue, hcached, hother⟩
    . exact setSetting_accepted hp hcached hret

/--
In every run over any number of instances, every setting that was made is in force on its bus, if and
only if no instance makes a setting that it made before and that others have replaced since.
-/
theorem settingHolds_runs_iff (actual : I2cSetting → Int → UInt32) (ops : List I2cOp)
    : (∀ v ∈ i2cMachine.visits (.boot actual) ops, SettingHolds v)
        ↔ ∀ v ∈ i2cMachine.visits (.boot actual) ops, ¬SetsOvertaken v := by
  apply Machine.forall_visits_iff I2cInv
  . intro s op hs _
    exact i2cStep hs op
  . intro s op hs
    exact settingHolds_iff hs op
  . exact I2cInv.boot actual

/-
Two instances of bus 2, the second of them slower, after which the first asks for its own clock.
-/
def twoClocks : List I2cOp :=
  [.create 0 ⟨2, 400000, 1000, 0, 0, false, 3, true, true, true⟩,
    .create 1 ⟨2, 100000, 1000, 0, 0, false, 4, true, true, true⟩]

theorem settingHolds_fails
    : ¬∀ v ∈ i2cMachine.visits (.boot fun _ _ => 0) (twoClocks ++ [.setFreq 0 400000 true]),
        SettingHolds v := by
  intro h
  have hv := h _ (i2cMachine.visit_final_mem _ twoClocks (.setFreq 0 400000 true))
  have hclock := hv 0 .clk 400000 rfl (by decide) ⟨.hard, 2, 3, 400000, 1000⟩ (by decide)
  revert hclock
  decide

end I2c

import RtsmartLib.Hal.FpioaRun

/-!
This module contains what setting the function of a pin does to all registers: which pins are rewritten,
with what, and which calls fail after they have rewritten one.
-/

namespace Fpioa

/-
The register of a pin as it is in its bank.
-/
def rawReg (s : FpioaState) (pin : Nat) : BitVec 32 :=
  if pin < 64 then s.iomux.regs pin else s.pmuIomux.regs (pin - 64)

def sameBank (pin q : Nat) : Bool := decide (pin < 64) == decide (q < 64)

/-
What a write leaves in a register of the bank of a pin.
-/
def written (pin : Nat) (reg value : BitVec 32) : BitVec 32 :=
  (reg &&& 0x200#32) ||| (if pin < 64 then value else convertIomuxToPmu value)

theorem pinReg_eq (s : FpioaState) (pin : Nat)
    : pinReg s pin = if pin < 64 then rawReg s pin else convertPmuToIomux (rawReg s pin) := by
  unfold pinReg rawReg
  by_cases hpin : pin < 64
  . simp [hpin]
  . simp [hpin]

theorem selectedFunc_congr {hwRtc : Bool} {s s' : FpioaState} {q : Nat}
    (h : rawReg s' q = rawReg s q)
    : selectedFunc hwRtc s' q = selectedFunc hwRtc s q := by
  unfold selectedFunc
  rw [pinReg_eq, pinReg_eq, h]

@[simp]
theorem rawReg_touch (s : FpioaState) (pin q : Nat) : rawReg (touch s pin) q = rawReg s q := by
  unfold touch rawReg
  by_cases hpin : pin < 64
  . simp [hpin, mmapIomux_regs]
  . simp [hpin, mmapIomux_regs]

/-
A released pin keeps its voltage selection and nothing else.
-/
theorem written_release (s : FpioaState) (pin : Nat)
    : written pin (rawReg s pin) (setMsc (setIoSel 0#32 0) (pinReg s pin))
        = rawReg s pin &&& fieldMsc := by
  have hsel : setIoSel 0#32 0 = 0#32 := by decide
  unfold written
  rw [hsel, pinReg_eq]
  by_cases hpin : pin < 64
  . rw [if_pos hpin, if_pos hpin]
    simp [setMsc, fieldMsc]
  . have hdrop : fieldMsc &&& fieldPmu = 0#32 := by decide
    rw [if_neg hpin, if_neg hpin]
    simp only [setMsc, convertIomuxToPmu, BitVec.zero_and, BitVec.zero_or, BitVec.and_assoc, hdrop,
      BitVec.and_zero, BitVec.or_zero]
    rfl

theorem msc_written (s : FpioaState) (pin : Nat) (cfg : BitVec 32) (sel : Nat)
    : written pin (rawReg s pin) (setMsc (setIoSel cfg sel) (pinReg s pin)) &&& fieldMsc
        = rawReg s pin &&& fieldMsc := by
  have hkeep : rawReg s pin &&& 0x200#32 &&& fieldMsc = rawReg s pin &&& fieldMsc := by
    rw [BitVec.and_assoc]
    rfl
  unfold written
  rw [BitVec.and_or_distrib_right, hkeep, pinReg_eq]
  by_cases hpin : pin < 64
  . rw [if_pos hpin, if_pos hpin]
    unfold setMsc
    rw [BitVec.and_or_distrib_right, BitVec.and_assoc, BitVec.and_assoc (rawReg s pin),
      BitVec.and_comm (~~~fieldMsc), BitVec.and_not_self, BitVec.and_self]
    simp
  . have hdrop : fieldPmu &&& fieldMsc = 0#32 := by decide
    rw [if_neg hpin]
    unfold convertIomuxToPmu
    rw [BitVec.and_assoc _ fieldPmu, hdrop]
    simp

section

variable {hwRtc : Bool}

theorem rawReg_storeReg (s : FpioaState) (pin : Nat) (value : BitVec 32) (q : Nat)
    : rawReg (storeReg s pin value) q
        = if q = pin then written pin (rawReg s pin) value else rawReg s q := by
  by_cases hq : q = pin
  . rw [if_pos hq, hq]
    by_cases hpin : pin < 64
    . simp [storeReg, rawReg, hpin, written, mmapIomux_regs]
    . simp [storeReg, rawReg, hpin, written, mmapIomux_regs]
  . rw [if_neg hq]
    by_cases hpin : pin < 64
    . simp [storeReg, rawReg, hpin, mmapIomux_regs, Function.update_of_ne hq]
    . by_cases hq64 : q < 64
      . simp [storeReg, rawReg, hpin, hq64]
      . have hne : q - 64 ≠ pin - 64 := by
          omega
        simp [storeReg, rawReg, hpin, hq64, mmapIomux_regs, Function.update_of_ne hne]

theorem drvFpioaSetPinCfg_raw {pin : Nat} (h : drvFpioaPinEnabled hwRtc pin = true)
    {s : FpioaState} (hmapped : pinFailures s pin = 0) (value : BitVec 32)
    : (drvFpioaSetPinCfg hwRtc s pin value).1 = 0
        ∧ ∀ q, rawReg (drvFpioaSetPinCfg hwRtc s pin value).2 q
          = if q = pin then written pin (rawReg s pin) value else rawReg s q := by
  rw [drvFpioaSetPinCfg_eq h hmapped]
  exact ⟨rfl, rawReg_storeReg s pin value⟩

/-
What the loop body does to the registers.
-/
theorem setPinFuncRelease_raw {func : Nat} (s : FpioaState) {altPin : Nat}
    (h : drvFpioaPinEnabled hwRtc altPin = true) (q : Nat)
    : rawReg (setPinFuncRelease hwRtc func s altPin) q
        = if q = altPin ∧ pinFailures s altPin = 0 ∧ selectedFunc hwRtc s altPin = some func then
            rawReg s q &&& fieldMsc
          else
            rawReg s q := by
  unfold setPinFuncRelease
  rw [drvFpioaGetPinFunc_eq h]
  dsimp only
  by_cases hmapped : pinFailures s altPin = 0
  . by_cases hfunc : selectedFunc hwRtc s altPin = some func
    . have hagain : pinFailures (touch s altPin) altPin = 0 := by
        rw [pinFailures_touch_same s Iff.rfl, hmapped]
      have hthird : pinFailures (touch (touch s altPin) altPin) altPin = 0 := by
        rw [pinFailures_touch_same _ Iff.rfl, hagain]
      rw [if_pos hmapped, if_pos hfunc, drvFpioaGetPinCfg_eq h, if_pos hagain]
      dsimp only
      rw [(drvFpioaSetPinCfg_raw h hthird _).2 q]
      by_cases hq : q = altPin
      . rw [if_pos hq, if_pos ⟨hq, hmapped, hfunc⟩, hq, rawReg_touch, rawReg_touch,
          pinReg_touch]
        exact written_release s altPin
      . rw [if_neg hq, if_neg (fun h => hq h.1), rawReg_touch, rawReg_touch]
    . rw [if_pos hmapped, if_neg hfunc, if_neg (fun h => hfunc h.2.2), rawReg_touch]
  . rw [if_neg hmapped, if_neg (by simp), if_neg (fun h => hmapped h.2.1), rawReg_touch]

theorem sameBank_iff {pin q : Nat} : sameBank q pin = true ↔ (pin < 64 ↔ q < 64) := by
  unfold sameBank
  by_cases hpin : pin < 64
  . simp [hpin]
  . simp [hpin]

theorem setPinFuncRelease_failures {func : Nat} (s : FpioaState) {altPin : Nat}
    (h : drvFpioaPinEnabled hwRtc altPin = true) (q : Nat)
    : pinFailures (setPinFuncRelease hwRtc func s altPin) q
        = pinFailures s q - (if sameBank q altPin then 1 else 0) := by
  rw [(setPinFuncRelease_eq h).2 q]
  by_cases hsame : altPin < 64 ↔ q < 64
  . rw [if_pos hsame, if_pos (sameBank_iff.mpr hsame)]
  . rw [if_neg hsame, if_neg (mt sameBank_iff.mp hsame), Nat.sub_zero]

theorem release_foldl_failures {func : Nat} {alts : List Nat}
    (halts : ∀ alt ∈ alts, drvFpioaPinEnabled hwRtc alt = true) (s : FpioaState) (q : Nat)
    : pinFailures (alts.foldl (setPinFuncRelease hwRtc func) s) q
        = pinFailures s q - alts.countP (sameBank q) := by
  induction alts generalizing s with
  | nil => rfl
  | cons alt alts ih =>
    simp only [List.forall_mem_cons] at halts
    rw [List.foldl_cons, ih halts.2, setPinFuncRelease_failures s halts.1, List.countP_cons]
    omega

variable (hwRtc) in
/-
A pin that has the function, and whose bank is mapped or can be mapped when its turn comes. Each pin of
the bank before it has been an attempt to map it.
-/
def Released (func : Nat) (s : FpioaState) (alts : List Nat) (q : Nat) : Prop :=
  selectedFunc hwRtc s q = some func
    ∧ ∃ before after, alts = before ++ q :: after ∧ pinFailures s q ≤ before.countP (sameBank q)

theorem released_mem {func : Nat} {s : FpioaState} {alts : List Nat} {q : Nat}
    (h : Released hwRtc func s alts q)
    : q ∈ alts := by
  obtain ⟨-, before, after, halts, -⟩ := h
  rw [halts]
  simp

/-
A pin other than the first one.
-/
theorem released_cons_of_ne {func : Nat} {s : FpioaState} {alt q : Nat} {alts : List Nat}
    (h : drvFpioaPinEnabled hwRtc alt = true) (hne : q ≠ alt)
    : Released hwRtc func s (alt :: alts) q
        ↔ Released hwRtc func (setPinFuncRelease hwRtc func s alt) alts q := by
  have hraw : rawReg (setPinFuncRelease hwRtc func s alt) q = rawReg s q := by
    rw [setPinFuncRelease_raw s h, if_neg (fun h => hne h.1)]
  unfold Released
  rw [selectedFunc_congr hraw, setPinFuncRelease_failures s h]
  apply and_congr_right
  intro _
  constructor
  . rintro ⟨before, after, halts, hfailures⟩
    cases before with
    | nil =>
      injection halts with halt
      exact absurd halt.symm hne
    | cons b before =>
      injection halts with halt halts
      subst halt
      refine ⟨before, after, halts, ?_⟩
      rw [List.countP_cons] at hfailures
      omega
  . rintro ⟨before, after, halts, hfailures⟩
    refine ⟨alt :: before, after, by rw [halts, List.cons_append], ?_⟩
    rw [List.countP_cons]
    omega

theorem released_head {func : Nat} {s : FpioaState} {alt : Nat} {alts : List Nat}
    (hnodup : (alt :: alts).Nodup)
    : Released hwRtc func s (alt :: alts) alt
        ↔ pinFailures s alt = 0 ∧ selectedFunc hwRtc s alt = some func := by
  constructor
  . rintro ⟨hfunc, before, after, halts, hfailures⟩
    cases before with
    | nil => exact ⟨Nat.le_zero.mp hfailures, hfunc⟩
    | cons b before =>
      injection halts with halt halts
      rw [halts] at hnodup
      simp at hnodup
  . intro ⟨hmapped, hfunc⟩
    refine ⟨hfunc, [], alts, rfl, ?_⟩
    omega

/-
The loop rewrites the pins that it releases and no others.
-/
theorem release_foldl_raw {func : Nat} {alts : List Nat} (hnodup : alts.Nodup)
    (halts : ∀ alt ∈ alts, drvFpioaPinEnabled hwRtc alt = true) (s : FpioaState) (q : Nat)
    : (Released hwRtc func s alts q →
          rawReg (alts.foldl (setPinFuncRelease hwRtc func) s) q = rawReg s q &&& fieldMsc)
        ∧ (¬Released hwRtc func s alts q →
          rawReg (alts.foldl (setPinFuncRelease hwRtc func) s) q = rawReg s q) := by
  induction alts generalizing s with
  | nil =>
    constructor
    . intro h
      exact absurd (released_mem h) (by simp)
    . intro _
      rfl
  | cons alt alts ih =>
    simp only [List.forall_mem_cons] at halts
    have hraw : rawReg (setPinFuncRelease hwRtc func s alt) q = _ :=
      setPinFuncRelease_raw s halts.1 q
    obtain ⟨hreleased, hkept⟩ := ih (List.nodup_cons.mp hnodup).2 halts.2
      (setPinFuncRelease hwRtc func s alt)
    rw [List.foldl_cons]
    by_cases hq : q = alt
    . subst hq
      -- the pin does not come again
      rw [hkept (fun h => (List.nodup_cons.mp hnodup).1 (released_mem h)), hraw,
        released_head hnodup]
      constructor
      . intro h
        rw [if_pos ⟨rfl, h⟩]
      . intro h
        rw [if_neg (fun h' => h h'.2)]
    . rw [if_neg (fun h => hq h.1)] at hraw
      rw [released_cons_of_ne halts.1 hq, ← hraw]
      exact ⟨hreleased, hkept⟩

theorem setPinFunc_unsupported {s : FpioaState} {pin : Int} {func : Nat}
    (h : drvFpioaPinEnabled hwRtc pin = true → funcSel pin.toNat func = none)
    : drvFpioaSetPinFunc hwRtc s pin func = (-1, s) := by
  unfold drvFpioaSetPinFunc
  split
  . next henabled => rw [h henabled]
  . rfl

/-
The pins have been released when the configuration is looked up.
-/
theorem setPinFunc_noCfg {s : FpioaState} {pin : Int} {func : Nat}
    (hpin : drvFpioaPinEnabled hwRtc pin = true) (hsel : (funcSel pin.toNat func).isSome = true)
    (hcfg : drvFpioaGetFuncCfg func = none)
    : drvFpioaSetPinFunc hwRtc s pin func
        = (-1, (drvFpioaFuncAvailablePins hwRtc func).foldl (setPinFuncRelease hwRtc func) s) := by
  obtain ⟨sel, hsel⟩ := Option.isSome_iff_exists.mp hsel
  unfold drvFpioaSetPinFunc
  rw [if_pos hpin, hsel, hcfg]

theorem setPinFunc_raw {pin func sel : Nat} {cfg : BitVec 32}
    (hpin : drvFpioaPinEnabled hwRtc pin = true) (hsel : funcSel pin func = some sel)
    (hcfg : drvFpioaGetFuncCfg func = some cfg) (s : FpioaState)
    : let s₁ := (drvFpioaFuncAvailablePins hwRtc func).foldl (setPinFuncRelease hwRtc func) s
      let r := drvFpioaSetPinFunc hwRtc s pin func
      (pinFailures s₁ pin ≠ 0 → r.1 = -1 ∧ ∀ q, rawReg r.2 q = rawReg s₁ q)
        ∧ (pinFailures s₁ pin = 0 → r.1 = 0 ∧ pinFailures r.2 pin = 0 ∧ ∀ q, rawReg r.2 q
          = if q = pin then
              written pin (rawReg s₁ pin) (setMsc (setIoSel cfg sel) (pinReg s₁ pin))
            else
              rawReg s₁ q) := by
  unfold drvFpioaSetPinFunc
  rw [if_pos hpin, Int.toNat_natCast, hsel]
  dsimp only
  rw [hcfg]
  dsimp only
  generalize (drvFpioaFuncAvailablePins hwRtc func).foldl (setPinFuncRelease hwRtc func) s = s₁
  rw [drvFpioaGetPinCfg_eq hpin]
  constructor
  . intro hunmapped
    rw [if_neg hunmapped]
    exact ⟨rfl, fun q => rawReg_touch s₁ pin q⟩
  . intro hmapped
    have hagain : pinFailures (touch s₁ pin) pin = 0 := by
      rw [pinFailures_touch_same s₁ Iff.rfl, hmapped]
    rw [if_pos hmapped]
    dsimp only
    obtain ⟨hret, hraw⟩ := drvFpioaSetPinCfg_raw hpin hagain
      (setMsc (setIoSel cfg sel) (pinReg s₁ pin))
    have hfailures := (drvFpioaSetPinCfg_mapped hpin hagain
      (setMsc (setIoSel cfg sel) (pinReg s₁ pin))).2.2 pin
    refine ⟨hret, ?_, ?_⟩
    . rw [hfailures, pinFailures_touch_same _ Iff.rfl, hagain]
    . intro q
      rw [hraw q, rawReg_touch, rawReg_touch]

variable (hwRtc) in
/--
A call that is refused for want of a configuration, or because the bank of its pin cannot be mapped, after
it has taken the function from a pin whose register had more in it than the voltage selection.
-/
def RejectedLate (s : FpioaState) (pin : Int) (func : Nat) : Prop :=
  drvFpioaPinEnabled hwRtc pin = true ∧ (funcSel pin.toNat func).isSome = true
    ∧ (drvFpioaGetFuncCfg func = none
      ∨ (drvFpioaFuncAvailablePins hwRtc func).countP (sameBank pin.toNat)
          < pinFailures s pin.toNat)
    ∧ ∃ q, Released hwRtc func s (drvFpioaFuncAvailablePins hwRtc func) q
      ∧ rawReg s q &&& fieldMsc ≠ rawReg s q

theorem natCast_of_enabled {pin : Int} (h : drvFpioaPinEnabled hwRtc pin = true)
    : ∃ n : Nat, pin = n := by
  apply Int.eq_ofNat_of_zero_le
  unfold drvFpioaPinEnabled at h
  split at h
  . cases h
  . omega

/-
The loop leaves all registers alone exactly if each pin that it releases had only its voltage selection.
-/
theorem release_unchanged_iff (s : FpioaState) (func : Nat)
    : (∀ q, rawReg ((drvFpioaFuncAvailablePins hwRtc func).foldl (setPinFuncRelease hwRtc func) s) q
          = rawReg s q)
        ↔ ¬∃ q, Released hwRtc func s (drvFpioaFuncAvailablePins hwRtc func) q
          ∧ rawReg s q &&& fieldMsc ≠ rawReg s q := by
  have hraw := @release_foldl_raw hwRtc func _ (availablePins_nodup func)
    (availablePins_enabled func) s
  constructor
  . rintro h ⟨q, hreleased, hne⟩
    exact hne (((hraw q).1 hreleased).symm.trans (h q))
  . intro h q
    by_cases hreleased : Released hwRtc func s (drvFpioaFuncAvailablePins hwRtc func) q
    . rw [(hraw q).1 hreleased]
      by_cases hsame : rawReg s q &&& fieldMsc = rawReg s q
      . exact hsame
      . exact absurd ⟨q, hreleased, hsame⟩ h
    . exact (hraw q).2 hreleased

/--
A refused call leaves all registers as they were, if and only if it is not refused late.
-/
theorem setPinFunc_rejected_iff (s : FpioaState) (pin : Int) (func : Nat)
    : ((drvFpioaSetPinFunc hwRtc s pin func).1 = -1 →
          ∀ q, rawReg (drvFpioaSetPinFunc hwRtc s pin func).2 q = rawReg s q)
        ↔ ¬RejectedLate hwRtc s pin func := by
  by_cases hsupported : drvFpioaPinEnabled hwRtc pin = true ∧ (funcSel pin.toNat func).isSome = true
  . obtain ⟨hpin, hsel⟩ := hsupported
    obtain ⟨n, hn⟩ := natCast_of_enabled hpin
    subst hn
    unfold RejectedLate
    simp only [hpin, hsel, true_and, not_and]
    simp only [Int.toNat_natCast] at hsel ⊢
    rw [← release_unchanged_iff s func]
    cases hcfg : drvFpioaGetFuncCfg func with
    | none =>
      rw [setPinFunc_noCfg hpin (by simpa using hsel) hcfg]
      simp
    | some cfg =>
      obtain ⟨sel, hsel⟩ := Option.isSome_iff_exists.mp hsel
      obtain ⟨hunmapped, hmapped⟩ := setPinFunc_raw hpin hsel hcfg s
      rw [release_foldl_failures (availablePins_enabled func)] at hunmapped hmapped
      by_cases hlate : (drvFpioaFuncAvailablePins hwRtc func).countP (sameBank n)
          < pinFailures s n
      . obtain ⟨hret, hraw⟩ := hunmapped (by omega)
        simp [hret, hraw, hlate]
      . obtain ⟨hret, -⟩ := hmapped (by omega)
        simp [hret, hlate]
  . have hnone : drvFpioaPinEnabled hwRtc pin = true → funcSel pin.toNat func = none := by
      intro hpin
      simpa [hpin] using hsupported
    rw [setPinFunc_unsupported hnone]
    constructor
    . intro _ hlate
      exact hsupported ⟨hlate.1, hlate.2.1⟩
    . intro _ _ q
      rfl

/-
Pins 14 and 20 can have TEST_PIN5, which has no configuration. Pin 14 has it, and pin 20 asks for it.
-/
def testPin5State : FpioaState :=
  ⟨⟨fun pin => if pin = 14 then 0x1000#32 else 0#32, true, []⟩, resetBank []⟩

end

theorem setPinFunc_testPin5
    : ¬((drvFpioaSetPinFunc true testPin5State 20 FpioaFunc.testPin5.code).1 = -1 →
        ∀ q, rawReg (drvFpioaSetPinFunc true testPin5State 20 FpioaFunc.testPin5.code).2 q
          = rawReg testPin5State q) := by
  intro h
  have hreg := h (by decide +kernel) 14
  revert hreg
  decide +kernel

section

variable {hwRtc : Bool}

variable (hwRtc) in
/--
The pin reads back the function, no other pin has it unless it is a GPIO function, every pin keeps its
voltage selection, and the pins that are neither the target nor had the function are as they were.
-/
structure FuncSet (s s' : FpioaState) (pin func : Nat) : Prop where
  reads : (drvFpioaGetPinFunc hwRtc s' pin).1 = some func
  exclusive : gpio71Code < func → ∀ q, q ≠ pin → selectedFunc hwRtc s' q ≠ some func
  msc : ∀ q, rawReg s' q &&& fieldMsc = rawReg s q &&& fieldMsc
  frame : ∀ q, q ≠ pin → selectedFunc hwRtc s q ≠ some func → rawReg s' q = rawReg s q

variable (hwRtc) in
/--
Another pin that has the function is passed over, as its bank cannot be mapped when its turn comes, but
the bank can be mapped before the function is set.
-/
def PassedOver (s : FpioaState) (pin func : Nat) : Prop :=
  drvFpioaPinEnabled hwRtc pin = true ∧ gpio71Code < func
    ∧ pinFailures s pin ≤ (drvFpioaFuncAvailablePins hwRtc func).length
    ∧ ∃ q ∈ (drvFpioaFuncAvailablePins hwRtc func).take (pinFailures s pin),
        q ≠ pin ∧ selectedFunc hwRtc s q = some func

/-
The selector of a GPIO function does not depend on the row, and the rows are made for it.
-/
theorem availFunc_gpio
    : ∀ pin < fpioaPinMaxNum, ∀ func ∈ availFunc pin, func ≤ gpio71Code →
        (availFunc pin)[if gpio63Code < func then 1 else 0]? = some func := by
  decide +kernel

theorem chosenFunc_supported {pin func : Nat} (hpin : pin < fpioaPinMaxNum)
    (hfunc : func ∈ availFunc pin)
    : chosenFunc pin func = some func := by
  unfold chosenFunc
  split
  . next hgpio => exact availFunc_gpio pin hpin func hfunc hgpio
  . rfl

theorem release_foldl_msc (s : FpioaState) (func q : Nat)
    : rawReg ((drvFpioaFuncAvailablePins hwRtc func).foldl (setPinFuncRelease hwRtc func) s) q
        &&& fieldMsc = rawReg s q &&& fieldMsc := by
  obtain ⟨hreleased, hkept⟩ := @release_foldl_raw hwRtc func _ (availablePins_nodup func)
    (availablePins_enabled func) s q
  by_cases h : Released hwRtc func s (drvFpioaFuncAvailablePins hwRtc func) q
  . rw [hreleased h, BitVec.and_assoc, BitVec.and_self]
  . rw [hkept h]

theorem countP_sameBank_proper {pin func : Nat} (hpin : drvFpioaPinEnabled hwRtc pin = true)
    (hfunc : Proper func) (hmem : func ∈ availFunc pin)
    : (drvFpioaFuncAvailablePins hwRtc func).countP (sameBank pin)
        = (drvFpioaFuncAvailablePins hwRtc func).length := by
  rw [List.countP_eq_length]
  intro alt halt
  exact sameBank_iff.mpr (availablePins_proper hfunc hpin hmem alt halt).2

/--
Wherever a function that the pin supports, and that has a configuration, is set successfully, all that is
promised holds, if and only if no other pin is passed over.
-/
theorem setPinFunc_set_iff {pin func : Nat} (hmem : func ∈ availFunc pin)
    (hcfg : (drvFpioaGetFuncCfg func).isSome = true) (s : FpioaState)
    : ((drvFpioaSetPinFunc hwRtc s pin func).1 = 0 →
          FuncSet hwRtc s (drvFpioaSetPinFunc hwRtc s pin func).2 pin func)
        ↔ ¬PassedOver hwRtc s pin func := by
  obtain ⟨cfg, hcfg⟩ := Option.isSome_iff_exists.mp hcfg
  by_cases hpin : drvFpioaPinEnabled hwRtc pin = true
  . obtain ⟨sel, hsel⟩ := Option.isSome_iff_exists.mp (@funcSel_isSome pin func (Or.inr hmem))
    obtain ⟨hunmapped, hmapped⟩ := setPinFunc_raw hpin hsel hcfg s
    have hselected := drvFpioaSetPinFunc_selected hpin hsel hcfg s
    have hproper : gpio71Code < func → Proper func :=
      fun h => proper_of_drvFpioaGetFuncCfg h hcfg
    dsimp only at hselected
    rw [release_foldl_failures (availablePins_enabled func)] at hunmapped hmapped hselected
    by_cases hbank : pinFailures s pin
        - (drvFpioaFuncAvailablePins hwRtc func).countP (sameBank pin) = 0
    . obtain ⟨hret, hfailures, hraw⟩ := hmapped hbank
      have hother : ∀ q, q ≠ pin → rawReg (drvFpioaSetPinFunc hwRtc s pin func).2 q
          = rawReg ((drvFpioaFuncAvailablePins hwRtc func).foldl (setPinFuncRelease hwRtc func) s) q
          := by
        intro q hq
        rw [hraw q, if_neg hq]
      simp only [hret, true_implies]
      constructor
      . rintro hset ⟨-, hfunc, -, q, htake, hne, hq⟩
        apply hset.exclusive hfunc q hne
        rw [selectedFunc_congr (hother q hne), release_foldl_passed hpin (hproper hfunc) hmem]
        exact ⟨htake, hq⟩
      . intro hpassed
        constructor
        . rw [drvFpioaGetPinFunc_eq hpin, if_pos hfailures, hselected pin, if_pos ⟨hbank, rfl⟩]
          exact chosenFunc_supported (pin_lt_of_enabled hpin) hmem
        . intro hfunc q hne hq
          rw [selectedFunc_congr (hother q hne),
            release_foldl_passed hpin (hproper hfunc) hmem] at hq
          rw [countP_sameBank_proper hpin (hproper hfunc) hmem] at hbank
          exact hpassed ⟨hpin, hfunc, by omega, q, hq.1, hne, hq.2⟩
        . intro q
          rw [hraw q]
          by_cases hq : q = pin
          . rw [if_pos hq, hq, msc_written]
            exact release_foldl_msc s func pin
          . rw [if_neg hq]
            exact release_foldl_msc s func q
        . intro q hne hq
          rw [hother q hne]
          apply (@release_foldl_raw hwRtc func _ (availablePins_nodup func)
            (availablePins_enabled func) s q).2
          intro hreleased
          exact hq hreleased.1
    . obtain ⟨hret, -⟩ := hunmapped hbank
      constructor
      . rintro - ⟨-, hfunc, hlength, -⟩
        rw [countP_sameBank_proper hpin (hproper hfunc) hmem] at hbank
        omega
      . intro _ hzero
        rw [hret] at hzero
        cases hzero
  . rw [setPinFunc_unsupported (fun h => absurd h hpin)]
    constructor
    . intro _ h
      exact hpin h.1
    . intro _ h
      cases h

end

theorem setPinFunc_set_iff_pwm3
    : FpioaFunc.pwm3.code ∈ availFunc 47 ∧ (drvFpioaGetFuncCfg FpioaFunc.pwm3.code).isSome = true
        ∧ (((drvFpioaSetPinFunc true ⟨resetBank [], resetBank []⟩ 47 FpioaFunc.pwm3.code).1 = 0 →
            FuncSet true ⟨resetBank [], resetBank []⟩
              (drvFpioaSetPinFunc true ⟨resetBank [], resetBank []⟩ 47 FpioaFunc.pwm3.code).2
              47 FpioaFunc.pwm3.code)
          ↔ ¬PassedOver true ⟨resetBank [], resetBank []⟩ 47 FpioaFunc.pwm3.code) :=
  ⟨by decide, by decide, setPinFunc_set_iff (by decide) (by decide) _⟩

/-
Pin 8 has PWM3. The first attempt to map the bank, for pin 8, fails, and the second, for pin 47, does not.
-/
def pwm3State : FpioaState :=
  ⟨⟨fun pin => if pin = 8 then 0x800#32 else 0#32, false, [false]⟩, resetBank []⟩

theorem setPinFunc_pwm3_passedOver
    : ¬((drvFpioaSetPinFunc true pwm3State 47 FpioaFunc.pwm3.code).1 = 0 →
        FuncSet true pwm3State (drvFpioaSetPinFunc true pwm3State 47 FpioaFunc.pwm3.code).2
          47 FpioaFunc.pwm3.code) := by
  intro h
  have hset := h (by decide +kernel)
  exact hset.exclusive (by decide) 8 (by decide) (by decide +kernel)

end Fpioa

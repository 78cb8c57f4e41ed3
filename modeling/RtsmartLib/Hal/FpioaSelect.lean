import RtsmartLib.Lib.Machine
import RtsmartLib.Hal.Fpioa
import Mathlib.Tactic.MkIffOfInductiveProp

/-!
This module contains the function that each pin selects, and the calls after which two pins select the
same one.
-/

namespace Fpioa

open Lib

/-
The register of a pin as it is read back.
-/
def pinReg (s : FpioaState) (pin : Nat) : BitVec 32 :=
  if pin < 64 then s.iomux.regs pin else convertPmuToIomux (s.pmuIomux.regs (pin - 64))

def pinBank (s : FpioaState) (pin : Nat) : IomuxBank :=
  if pin < 64 then s.iomux else s.pmuIomux

/-
How many of the next accesses fail because the bank cannot be mapped.
-/
def IomuxBank.failures (bank : IomuxBank) : Nat :=
  if bank.mapped then 0 else (bank.attempts.takeWhile (!·)).length

def pinFailures (s : FpioaState) (pin : Nat) : Nat := (pinBank s pin).failures

def selectedFunc (hwRtc : Bool) (s : FpioaState) (pin : Nat) : Option Nat :=
  if drvFpioaPinEnabled hwRtc pin then (availFunc pin)[(ioSel (pinReg s pin)).toNat]? else none

/-
A function other than a GPIO function or none.
-/
def Proper (func : Nat) : Prop := gpio71Code < func ∧ func < FpioaFunc.funcMax.code

instance (func : Nat) : Decidable (Proper func) := by
  unfold Proper
  infer_instance

def SelectedOnce (hwRtc : Bool) (s : FpioaState) : Prop :=
  ∀ p q func, Proper func → selectedFunc hwRtc s p = some func → selectedFunc hwRtc s q = some func →
    p = q

theorem ioSel_or (a b : BitVec 32) : ioSel (a ||| b) = ioSel a ||| ioSel b := by
  unfold ioSel
  apply BitVec.extractLsb'_or

theorem ioSel_and (a b : BitVec 32) : ioSel (a &&& b) = ioSel a &&& ioSel b := by
  unfold ioSel
  apply BitVec.extractLsb'_and

theorem ioSel_setMsc (value tmp : BitVec 32) : ioSel (setMsc value tmp) = ioSel value := by
  have hkeep : ioSel (~~~fieldMsc) = BitVec.allOnes 3 := by decide
  have hdrop : ioSel fieldMsc = 0#3 := by decide
  unfold setMsc
  rw [ioSel_or, ioSel_and, ioSel_and, hkeep, hdrop, BitVec.and_allOnes, BitVec.and_zero,
    BitVec.or_zero]

theorem ioSel_setIoSel (value : BitVec 32) (sel : Nat)
    : ioSel (setIoSel value sel) = BitVec.ofNat 3 sel := by
  have hdrop : ioSel (~~~fieldIoSel) = 0#3 := by decide
  have hput : ∀ sel : BitVec 3, ioSel (sel.setWidth 32 <<< 11) = sel := by decide
  unfold setIoSel
  rw [ioSel_or, ioSel_and, hdrop, hput]
  simp

theorem ioSel_convertPmuToIomux (data : BitVec 32)
    : ioSel (convertPmuToIomux data) = ioSel data &&& 3#3 := by
  have hmask : ioSel fieldPmu = 3#3 := by decide
  unfold convertPmuToIomux
  rw [ioSel_and, hmask]

theorem ioSel_keep_msc (reg value : BitVec 32)
    : ioSel ((reg &&& 0x200#32) ||| value) = ioSel value := by
  have hdrop : ioSel 0x200#32 = 0#3 := by decide
  rw [ioSel_or, ioSel_and, hdrop]
  simp

theorem mmapIomux_ok (bank : IomuxBank) : (mmapIomux bank).1 = decide (bank.failures = 0) := by
  unfold mmapIomux IomuxBank.failures
  split
  . rfl
  . cases bank.attempts with
    | nil => rfl
    | cons ok attempts => cases ok <;> simp

theorem mmapIomux_regs (bank : IomuxBank) : (mmapIomux bank).2.regs = bank.regs := by
  unfold mmapIomux
  split
  . rfl
  . split <;> rfl

theorem mmapIomux_failures (bank : IomuxBank)
    : (mmapIomux bank).2.failures = bank.failures - 1 := by
  unfold mmapIomux IomuxBank.failures
  cases hmapped : bank.mapped with
  | true => simp [hmapped]
  | false =>
    cases hattempts : bank.attempts with
    | nil => simp
    | cons ok attempts => cases ok <;> simp

/-
The state after an access to the bank of a pin.
-/
def touch (s : FpioaState) (pin : Nat) : FpioaState :=
  if pin < 64 then
    { s with iomux := (mmapIomux s.iomux).2 }
  else
    { s with pmuIomux := (mmapIomux s.pmuIomux).2 }

@[simp]
theorem pinReg_touch (s : FpioaState) (pin q : Nat) : pinReg (touch s pin) q = pinReg s q := by
  unfold touch pinReg
  by_cases hpin : pin < 64
  . simp [hpin, mmapIomux_regs]
  . simp [hpin, mmapIomux_regs]

@[simp]
theorem selectedFunc_touch (hwRtc : Bool) (s : FpioaState) (pin q : Nat)
    : selectedFunc hwRtc (touch s pin) q = selectedFunc hwRtc s q := by
  unfold selectedFunc
  rw [pinReg_touch]

theorem pinFailures_touch_same (s : FpioaState) {pin q : Nat} (h : pin < 64 ↔ q < 64)
    : pinFailures (touch s pin) q = pinFailures s q - 1 := by
  unfold pinFailures pinBank touch
  by_cases hq : q < 64
  . simp [hq, h, mmapIomux_failures]
  . simp [hq, h, mmapIomux_failures]

theorem pinFailures_touch_other (s : FpioaState) {pin q : Nat} (h : ¬(pin < 64 ↔ q < 64))
    : pinFailures (touch s pin) q = pinFailures s q := by
  unfold pinFailures pinBank touch
  by_cases hq : q < 64
  . have hpin : ¬pin < 64 := by
      omega
    simp [hq, hpin]
  . have hpin : pin < 64 := by
      omega
    simp [hq, hpin]

section

variable {hwRtc : Bool}

theorem pin_lt_of_enabled {pin : Nat} (h : drvFpioaPinEnabled hwRtc pin = true)
    : pin < fpioaPinMaxNum := by
  unfold drvFpioaPinEnabled at h
  split at h
  . cases h
  next hrange =>
    omega

theorem drvFpioaGetPinCfg_eq {pin : Nat} (h : drvFpioaPinEnabled hwRtc pin = true) (s : FpioaState)
    : drvFpioaGetPinCfg hwRtc s pin
        = (if pinFailures s pin = 0 then some (pinReg s pin) else none, touch s pin) := by
  unfold drvFpioaGetPinCfg
  rw [if_pos h]
  by_cases hpin : pin < 64
  . have hint : 64 > (pin : Int) := by
      omega
    rw [if_pos hint]
    simp [drvFpioaGetIomux, mmapIomux_ok, mmapIomux_regs, touch, hpin, pinFailures, pinBank, pinReg]
  . have hint : ¬64 > (pin : Int) := by
      omega
    have hnat : ((pin : Int) - 64).toNat = pin - 64 := by
      omega
    rw [if_neg hint, hnat]
    simp [drvFpioaGetPmuIomux, mmapIomux_ok, mmapIomux_regs, touch, hpin, pinFailures, pinBank, pinReg]

/-
The code that a pin reads back after a value has been written to its register.
-/
def writtenSel (pin : Nat) (value : BitVec 32) : BitVec 3 :=
  if pin < 64 then ioSel value else ioSel value &&& 3#3

/-
The state after a value has been written to the register of a pin.
-/
def storeReg (s : FpioaState) (pin : Nat) (value : BitVec 32) : FpioaState :=
  let keep (bank : IomuxBank) (pin : Nat) (value : BitVec 32) : IomuxBank :=
    { bank with regs := Function.update bank.regs pin ((bank.regs pin &&& 0x200#32) ||| value) }
  if pin < 64 then
    { s with iomux := keep (mmapIomux s.iomux).2 pin value }
  else
    { s with pmuIomux := keep (mmapIomux s.pmuIomux).2 (pin - 64) (convertIomuxToPmu value) }

theorem drvFpioaSetPinCfg_eq {pin : Nat} (h : drvFpioaPinEnabled hwRtc pin = true)
    {s : FpioaState} (hmapped : pinFailures s pin = 0) (value : BitVec 32)
    : drvFpioaSetPinCfg hwRtc s pin value = (0, storeReg s pin value) := by
  unfold drvFpioaSetPinCfg storeReg
  rw [if_pos h]
  by_cases hpin : pin < 64
  . have hint : 64 > (pin : Int) := by
      omega
    have hok : (mmapIomux s.iomux).1 = true := by
      simpa [mmapIomux_ok, pinFailures, pinBank, hpin] using hmapped
    rw [if_pos hint, if_pos hpin]
    simp only [drvFpioaSetIomux, hok, if_true, Int.toNat_natCast]
  . have hint : ¬64 > (pin : Int) := by
      omega
    have hnat : ((pin : Int) - 64).toNat = pin - 64 := by
      omega
    have hok : (mmapIomux s.pmuIomux).1 = true := by
      simpa [mmapIomux_ok, pinFailures, pinBank, hpin] using hmapped
    rw [if_neg hint, if_neg hpin, hnat]
    simp only [drvFpioaSetPmuIomux, drvFpioaSetIomux, hok, if_true]

theorem ioSel_storeReg (s : FpioaState) (pin : Nat) (value : BitVec 32)
    : ioSel (pinReg (storeReg s pin value) pin) = writtenSel pin value := by
  by_cases hpin : pin < 64
  . simp [storeReg, pinReg, hpin, writtenSel, ioSel_keep_msc]
  . have hmask : ioSel fieldPmu = 3#3 := by decide
    simp only [storeReg, pinReg, hpin, if_false, Function.update_self, ioSel_convertPmuToIomux,
      ioSel_keep_msc, writtenSel, convertIomuxToPmu, ioSel_and, hmask]
    rw [BitVec.and_assoc]
    simp

theorem pinReg_storeReg_of_ne (s : FpioaState) {pin q : Nat} (hq : q ≠ pin) (value : BitVec 32)
    : pinReg (storeReg s pin value) q = pinReg s q := by
  by_cases hpin : pin < 64
  . simp [storeReg, pinReg, hpin, mmapIomux_regs, Function.update_of_ne hq]
  . by_cases hq64 : q < 64
    . simp [storeReg, pinReg, hpin, hq64]
    . have hne : q - 64 ≠ pin - 64 := by
        omega
      simp [storeReg, pinReg, hpin, hq64, mmapIomux_regs, Function.update_of_ne hne]

theorem pinFailures_storeReg (s : FpioaState) (pin : Nat) (value : BitVec 32) (q : Nat)
    : pinFailures (storeReg s pin value) q = pinFailures (touch s pin) q := by
  unfold storeReg touch pinFailures pinBank
  split
  . split <;> rfl
  . split <;> rfl

theorem drvFpioaSetPinCfg_mapped {pin : Nat} (h : drvFpioaPinEnabled hwRtc pin = true)
    {s : FpioaState} (hmapped : pinFailures s pin = 0) (value : BitVec 32)
    : let s' := (drvFpioaSetPinCfg hwRtc s pin value).2
      ioSel (pinReg s' pin) = writtenSel pin value
        ∧ (∀ q, q ≠ pin → pinReg s' q = pinReg s q)
        ∧ ∀ q, pinFailures s' q = pinFailures (touch s pin) q := by
  rw [drvFpioaSetPinCfg_eq h hmapped]
  constructor
  . exact ioSel_storeReg s pin value
  constructor
  . intro q hq
    exact pinReg_storeReg_of_ne s hq value
  . exact pinFailures_storeReg s pin value

/-
What a row of the table is like. GPIO is the first function of a pin of the main bank and the second one of
a pin of the PMU bank, whose only other function is the third one.
-/
@[mk_iff]
structure TableRow (pin : Nat) (row : List Nat) : Prop where
  length : row.length = fpioaPinMaxFuncs
  zero : ∀ func ∈ row[0]?, ¬Proper func
  pmuOne : 64 ≤ pin → ∀ func ∈ row[1]?, ¬Proper func
  one : pin < 64 → ∀ func ∈ row[1]?, Proper func
  pmuProper : ∀ func ∈ row, Proper func →
    (pin < 64 ↔ func < FpioaFunc.pmuInt0.code ∨ FpioaFunc.pmuOut1.code < func)
  mainGpio : pin < 64 → ∀ func ∈ row, func ≤ gpio63Code ∨ gpio71Code < func
  pmuFindIdx : 64 ≤ pin → ∀ func ∈ row, Proper func → row.findIdx? (· == func) = some 2

instance (pin : Nat) (row : List Nat) : Decidable (TableRow pin row) :=
  decidable_of_iff' _ (tableRow_iff pin row)

theorem availFunc_tableRow : ∀ pin < fpioaPinMaxNum, TableRow pin (availFunc pin) := by
  decide +kernel

theorem drvFpioaGetPinFunc_eq {pin : Nat} (h : drvFpioaPinEnabled hwRtc pin = true) (s : FpioaState)
    : drvFpioaGetPinFunc hwRtc s pin
        = (if pinFailures s pin = 0 then selectedFunc hwRtc s pin else none, touch s pin) := by
  have hlength := (availFunc_tableRow pin (pin_lt_of_enabled h)).length
  unfold drvFpioaGetPinFunc selectedFunc
  rw [if_pos h, drvFpioaGetPinCfg_eq h, if_pos h]
  by_cases hmapped : pinFailures s pin = 0
  . rw [if_pos hmapped, if_pos hmapped]
    dsimp only
    split
    next hsel =>
      rw [List.getElem?_eq_none (by omega)]
    next => rfl
  . rw [if_neg hmapped, if_neg hmapped]

theorem pinFailures_touch (s : FpioaState) (altPin q : Nat)
    : pinFailures (touch s altPin) q
        = if altPin < 64 ↔ q < 64 then pinFailures s q - 1 else pinFailures s q := by
  split
  next hsame => exact pinFailures_touch_same s hsame
  next hother => exact pinFailures_touch_other s hother

/-
The pin is released only if its bank can be mapped and it has the function.
-/
theorem setPinFuncRelease_released {func : Nat} {s : FpioaState} {altPin : Nat}
    (h : drvFpioaPinEnabled hwRtc altPin = true) (hmapped : pinFailures s altPin = 0)
    (hfunc : selectedFunc hwRtc s altPin = some func)
    : let s' := setPinFuncRelease hwRtc func s altPin
      (∀ q, selectedFunc hwRtc s' q
          = if q = altPin then (availFunc altPin)[0]? else selectedFunc hwRtc s q)
        ∧ ∀ q, pinFailures s' q
          = if altPin < 64 ↔ q < 64 then pinFailures s q - 1 else pinFailures s q := by
  have hagain : pinFailures (touch s altPin) altPin = 0 := by
    rw [pinFailures_touch_same s Iff.rfl, hmapped]
  have hthird : pinFailures (touch (touch s altPin) altPin) altPin = 0 := by
    rw [pinFailures_touch_same _ Iff.rfl, hagain]
  obtain ⟨hsel, hothers, hfailures⟩ := drvFpioaSetPinCfg_mapped h hthird
    (setMsc (setIoSel 0#32 0) (pinReg (touch s altPin) altPin))
  have hzero : writtenSel altPin (setMsc (setIoSel 0#32 0) (pinReg (touch s altPin) altPin)) = 0#3 := by
    unfold writtenSel
    rw [ioSel_setMsc, ioSel_setIoSel]
    split <;> rfl
  unfold setPinFuncRelease
  rw [drvFpioaGetPinFunc_eq h]
  dsimp only
  rw [if_pos hmapped, if_pos hfunc, drvFpioaGetPinCfg_eq h, if_pos hagain]
  dsimp only
  constructor
  . intro q
    by_cases hq : q = altPin
    . rw [if_pos hq, hq]
      unfold selectedFunc
      rw [if_pos h, hsel, hzero]
      rfl
    . rw [if_neg hq]
      unfold selectedFunc
      rw [hothers q hq, pinReg_touch, pinReg_touch]
  . intro q
    rw [hfailures]
    by_cases hsame : altPin < 64 ↔ q < 64
    . -- once mapped the bank stays mapped
      have hq : pinFailures s q = 0 := by
        rw [← hmapped]
        unfold pinFailures pinBank
        by_cases hq : q < 64 <;> simp [hq, hsame]
      rw [if_pos hsame, pinFailures_touch_same _ hsame, pinFailures_touch_same _ hsame,
        pinFailures_touch_same _ hsame, hq]
    . rw [if_neg hsame, pinFailures_touch_other _ hsame, pinFailures_touch_other _ hsame,
        pinFailures_touch_other _ hsame]

/-
What the loop body does to a pin that can have the function.
-/
theorem setPinFuncRelease_eq {func : Nat} {s : FpioaState} {altPin : Nat}
    (h : drvFpioaPinEnabled hwRtc altPin = true)
    : let s' := setPinFuncRelease hwRtc func s altPin
      (∀ q, selectedFunc hwRtc s' q
          = if q = altPin ∧ pinFailures s altPin = 0 ∧ selectedFunc hwRtc s altPin = some func then
              (availFunc altPin)[0]?
            else
              selectedFunc hwRtc s q)
        ∧ ∀ q, pinFailures s' q
          = if altPin < 64 ↔ q < 64 then pinFailures s q - 1 else pinFailures s q := by
  by_cases hreleased : pinFailures s altPin = 0 ∧ selectedFunc hwRtc s altPin = some func
  . simp only [hreleased, and_true]
    exact setPinFuncRelease_released h hreleased.1 hreleased.2
  . have htouched : setPinFuncRelease hwRtc func s altPin = touch s altPin := by
      unfold setPinFuncRelease
      rw [drvFpioaGetPinFunc_eq h]
      dsimp only
      by_cases hmapped : pinFailures s altPin = 0
      . rw [if_pos hmapped, if_neg fun hfunc => hreleased ⟨hmapped, hfunc⟩]
      . rw [if_neg hmapped, if_neg (by simp)]
    rw [htouched]
    constructor
    . intro q
      rw [if_neg fun hq => hreleased hq.2, selectedFunc_touch]
    . exact pinFailures_touch s altPin

variable (hwRtc) in
def functionPins (func : Nat) : List Nat :=
  (List.range fpioaPinMaxNum).filter fun pin =>
    drvFpioaPinEnabled hwRtc pin && (availFunc pin).contains func

/-
The functions of all pins, one after the other.
-/
def rowCodes : List Nat := gPinFuncArray.flatten.map FpioaFunc.code

theorem flatMap_availFunc : (List.range fpioaPinMaxNum).flatMap availFunc = rowCodes := by
  have hrows : (List.range fpioaPinMaxNum).map (fun pin => gPinFuncArray.getD pin [])
      = gPinFuncArray := by
    apply List.ext_getElem
    . rw [List.length_map, List.length_range]
      rfl
    . intro pin _ hpin
      rw [List.getElem_map, List.getElem_range, List.getD_eq_getElem?_getD,
        List.getElem?_eq_getElem hpin, Option.getD_some]
  unfold rowCodes
  rw [← hrows, List.map_flatten, List.map_map]
  rfl

/-
Each code is only compared with those of its block of 16, as there are few of them.
-/
theorem rowCodes_blocks
    : ∀ block < 16, (rowCodes.filter fun c => Nat.beq (c / 16) block).all (fun func =>
        Nat.ble func gpio71Code || Nat.beq func FpioaFunc.funcMax.code
          || Nat.ble ((rowCodes.filter fun c => Nat.beq (c / 16) block).countP (Nat.beq func))
            fpioaPinFuncAltNum) = true := by
  decide +kernel

theorem rowCodes_count {func : Nat} (h : Proper func)
    : rowCodes.countP (Nat.beq func) ≤ fpioaPinFuncAltNum := by
  by_cases hmem : func ∈ rowCodes
  . have hblock : func / 16 < 16 := by
      have hmax : FpioaFunc.funcMax.code = 237 := rfl
      have := h.2
      omega
    have hall := rowCodes_blocks (func / 16) hblock
    rw [List.all_eq_true] at hall
    have hfunc := hall func (List.mem_filter.mpr ⟨hmem, by simp⟩)
    simp only [Bool.or_eq_true, Nat.ble_eq, Nat.beq_eq] at hfunc
    rcases hfunc with (hgpio | hmax) | hcount
    . exact absurd h.1 (Nat.not_lt.mpr hgpio)
    . exact absurd h.2 (Nat.not_lt.mpr (Nat.le_of_eq hmax.symm))
    . apply Nat.le_trans _ hcount
      rw [List.countP_filter]
      apply List.countP_mono_left
      intro c _ heq
      rw [← Nat.eq_of_beq_eq_true heq]
      simp
  . rw [List.countP_eq_zero.mpr]
    . exact Nat.zero_le _
    . intro c hc heq
      rw [Nat.eq_of_beq_eq_true heq] at hmem
      exact hmem hc

/-
A pin that has a function has it at some place.
-/
theorem countP_contains_le (func : Nat) (pins : List Nat)
    : pins.countP (fun pin => (availFunc pin).contains func)
        ≤ (pins.flatMap availFunc).countP (Nat.beq func) := by
  induction pins with
  | nil => exact Nat.le_refl _
  | cons pin pins ih =>
    rw [List.countP_cons, List.flatMap_cons, List.countP_append, Nat.add_comm]
    apply Nat.add_le_add _ ih
    split
    next hcontains =>
      apply List.countP_pos_iff.mpr
      exact ⟨func, by simpa using hcontains, Nat.beq_refl func⟩
    next => exact Nat.zero_le _

theorem functionPins_length {func : Nat} (h : Proper func)
    : (functionPins hwRtc func).length ≤ fpioaPinFuncAltNum := by
  unfold functionPins
  rw [← List.countP_eq_length_filter]
  calc
    _ ≤ (List.range fpioaPinMaxNum).countP fun pin => (availFunc pin).contains func := by
      apply List.countP_mono_left
      intro pin _ hpin
      rw [Bool.and_eq_true] at hpin
      exact hpin.2
    _ ≤ ((List.range fpioaPinMaxNum).flatMap availFunc).countP (Nat.beq func) :=
      countP_contains_le func _
    _ ≤ fpioaPinFuncAltNum := by
      rw [flatMap_availFunc]
      exact rowCodes_count h

theorem availablePinsLoop_eq {func count : Nat} (n : Nat) {pin : Nat} (hn : pin + n = fpioaPinMaxNum)
    (hcount : count < fpioaPinFuncAltNum)
    : availablePinsLoop hwRtc func (gPinFuncArray.drop pin) pin count
        =
      ((List.range' pin n).filter fun (pin : Nat) =>
        drvFpioaPinEnabled hwRtc pin && (availFunc pin).contains func).take
          (fpioaPinFuncAltNum - count) := by
  have hlength : gPinFuncArray.length = fpioaPinMaxNum := by decide
  induction n generalizing pin count with
  | zero =>
    have hpin : gPinFuncArray.length ≤ pin := by
      omega
    rw [List.drop_eq_nil_of_le hpin]
    simp [availablePinsLoop]
  | succ n ih =>
    have hpin : pin < gPinFuncArray.length := by
      omega
    have hrow : (gPinFuncArray[pin]).map FpioaFunc.code = availFunc pin := by
      unfold availFunc
      rw [List.getD_eq_getElem?_getD, List.getElem?_eq_getElem hpin]
      rfl
    have hroom : fpioaPinFuncAltNum - count = fpioaPinFuncAltNum - (count + 1) + 1 := by
      omega
    rw [List.drop_eq_getElem_cons hpin, List.range'_succ, List.filter_cons, availablePinsLoop, hrow]
    by_cases hhas : drvFpioaPinEnabled hwRtc pin = true ∧ func ∈ availFunc pin
    . have hfilter : (drvFpioaPinEnabled hwRtc pin && (availFunc pin).contains func) = true := by
        simpa using hhas
      rw [if_pos hhas, if_pos hfilter, hroom, List.take_succ_cons]
      by_cases hfull : fpioaPinFuncAltNum ≤ count + 1
      . rw [if_pos hfull, Nat.sub_eq_zero_of_le hfull]
        rfl
      . rw [if_neg hfull, ih (by omega) (by omega)]
    . have hfilter : ¬(drvFpioaPinEnabled hwRtc pin && (availFunc pin).contains func) = true := by
        simpa using hhas
      rw [if_neg hhas, if_neg hfilter, ih (by omega) hcount]

theorem drvFpioaFuncAvailablePins_eq (func : Nat)
    : drvFpioaFuncAvailablePins hwRtc func = (functionPins hwRtc func).take fpioaPinFuncAltNum := by
  have hloop := @availablePinsLoop_eq hwRtc func 0 fpioaPinMaxNum 0 (Nat.zero_add _) (by decide)
  rw [List.drop_zero, Nat.sub_zero] at hloop
  unfold drvFpioaFuncAvailablePins functionPins
  rw [hloop, List.range_eq_range']

theorem mem_functionPins {func pin : Nat}
    : pin ∈ functionPins hwRtc func ↔ drvFpioaPinEnabled hwRtc pin = true ∧ func ∈ availFunc pin := by
  unfold functionPins
  simp only [List.mem_filter, List.mem_range, Bool.and_eq_true, List.contains_iff_mem]
  constructor
  . exact fun h => h.2
  . exact fun h => ⟨pin_lt_of_enabled h.1, h⟩

theorem of_mem_drvFpioaFuncAvailablePins {func pin : Nat}
    (h : pin ∈ drvFpioaFuncAvailablePins hwRtc func)
    : drvFpioaPinEnabled hwRtc pin = true ∧ func ∈ availFunc pin := by
  rw [drvFpioaFuncAvailablePins_eq] at h
  apply mem_functionPins.mp (List.mem_of_mem_take h)

theorem drvFpioaFuncAvailablePins_of_proper {func : Nat} (h : Proper func)
    : drvFpioaFuncAvailablePins hwRtc func = functionPins hwRtc func := by
  rw [drvFpioaFuncAvailablePins_eq, List.take_of_length_le (functionPins_length h)]

theorem functionPins_nodup (func : Nat) : (functionPins hwRtc func).Nodup := by
  unfold functionPins
  apply List.Pairwise.filter
  apply List.nodup_range

theorem enabled_of_selectedFunc {s : FpioaState} {pin func : Nat}
    (h : selectedFunc hwRtc s pin = some func)
    : drvFpioaPinEnabled hwRtc pin = true ∧ func ∈ availFunc pin := by
  unfold selectedFunc at h
  split at h
  next henabled =>
    exact ⟨henabled, List.mem_of_getElem? h⟩
  next => cases h

/-
The pins that have another function than the one that is set keep it.
-/
theorem release_foldl_other {func f : Nat} (hf : Proper f) (hne : f ≠ func) {alts : List Nat}
    (halts : ∀ alt ∈ alts, drvFpioaPinEnabled hwRtc alt = true) (s : FpioaState) (q : Nat)
    : selectedFunc hwRtc (alts.foldl (setPinFuncRelease hwRtc func) s) q = some f
        ↔ selectedFunc hwRtc s q = some f := by
  induction alts generalizing s with
  | nil => rfl
  | cons alt alts ih =>
    simp only [List.forall_mem_cons] at halts
    rw [List.foldl_cons, ih halts.2, (setPinFuncRelease_eq halts.1).1]
    split
    next h =>
      obtain ⟨hq, _, hfunc⟩ := h
      rw [hq, hfunc]
      constructor
      . intro hzero
        exact absurd hf ((availFunc_tableRow alt (pin_lt_of_enabled halts.1)).zero f hzero)
      . intro h
        cases h
        contradiction
    next => rfl

theorem release_foldl_failures_other {func : Nat} {alts : List Nat} {pin : Nat}
    (halts : ∀ alt ∈ alts, drvFpioaPinEnabled hwRtc alt = true ∧ ¬(alt < 64 ↔ pin < 64))
    (s : FpioaState)
    : pinFailures (alts.foldl (setPinFuncRelease hwRtc func) s) pin = pinFailures s pin := by
  induction alts generalizing s with
  | nil => rfl
  | cons alt alts ih =>
    simp only [List.forall_mem_cons] at halts
    rw [List.foldl_cons, ih halts.2, (setPinFuncRelease_eq halts.1.1).2, if_neg halts.1.2]

theorem release_foldl_failures_same {func : Nat} {alts : List Nat} {pin : Nat}
    (halts : ∀ alt ∈ alts, drvFpioaPinEnabled hwRtc alt = true ∧ (alt < 64 ↔ pin < 64))
    (s : FpioaState)
    : pinFailures (alts.foldl (setPinFuncRelease hwRtc func) s) pin
        = pinFailures s pin - alts.length := by
  induction alts generalizing s with
  | nil => rfl
  | cons alt alts ih =>
    simp only [List.forall_mem_cons] at halts
    rw [List.foldl_cons, ih halts.2, (setPinFuncRelease_eq halts.1.1).2, if_pos halts.1.2,
      List.length_cons]
    omega

/-
A pin loses the function that is set unless the bank could not be mapped when its turn came.
-/
theorem release_foldl_same {func : Nat} (hfunc : Proper func) {alts : List Nat} {pin : Nat}
    (halts : ∀ alt ∈ alts, drvFpioaPinEnabled hwRtc alt = true ∧ (alt < 64 ↔ pin < 64))
    (s : FpioaState) (q : Nat)
    : selectedFunc hwRtc (alts.foldl (setPinFuncRelease hwRtc func) s) q = some func
        ↔ selectedFunc hwRtc s q = some func ∧ q ∉ alts.drop (pinFailures s pin) := by
  induction alts generalizing s with
  | nil => simp
  | cons alt alts ih =>
    simp only [List.forall_mem_cons] at halts
    obtain ⟨hselected, hfailures⟩ := @setPinFuncRelease_eq _ func s _ halts.1.1
    have hbank : pinFailures s alt = pinFailures s pin := by
      unfold pinFailures pinBank
      by_cases hpin : pin < 64 <;> simp [hpin, halts.1.2]
    rw [List.foldl_cons, ih halts.2, hselected, hfailures pin, if_pos halts.1.2, hbank]
    cases hn : pinFailures s pin with
    | zero =>
      have hzero : ∀ h : (availFunc alt)[0]? = some func, False := by
        intro h
        exact (availFunc_tableRow alt (pin_lt_of_enabled halts.1.1)).zero func h hfunc
      rw [List.drop_zero]
      simp only [List.drop_zero, List.mem_cons, not_or]
      by_cases hq : q = alt
      . rw [hq]
        by_cases hsel : selectedFunc hwRtc s alt = some func
        . rw [if_pos ⟨rfl, trivial, hsel⟩]
          constructor
          . intro h
            exact absurd h.1 hzero
          . intro h
            exact absurd rfl h.2.1
        . rw [if_neg (fun h => hsel h.2.2)]
          constructor
          . intro h
            exact absurd h.1 hsel
          . intro h
            exact absurd h.1 hsel
      . rw [if_neg (fun h => hq h.1)]
        simp [hq]
    | succ n =>
      rw [if_neg (by simp)]
      rfl

/-
The function that a pin selects once a call has gone through.
-/
def chosenFunc (pin func : Nat) : Option Nat :=
  if func ≤ gpio71Code then
    (availFunc pin)[if gpio63Code < func then 1 else 0]?
  else
    some func

theorem gFuncDescribArray_proper : ∀ c ∈ gFuncDescribArray, Proper c.func.code := by
  decide +kernel

theorem proper_of_drvFpioaGetFuncCfg {func : Nat} (hfunc : gpio71Code < func)
    {cfg : BitVec 32} (hcfg : drvFpioaGetFuncCfg func = some cfg)
    : Proper func := by
  have horder : gpio63Code < gpio71Code := by decide
  unfold drvFpioaGetFuncCfg at hcfg
  rw [if_neg (by omega), if_neg (by omega)] at hcfg
  cases hfind : gFuncDescribArray.find? (·.func.code == func) with
  | none =>
    rw [hfind] at hcfg
    cases hcfg
  | some c =>
    have hcode : c.func.code = func := by
      simpa using List.find?_some hfind
    rw [← hcode]
    apply gFuncDescribArray_proper c (List.mem_of_find?_eq_some hfind)

theorem availFunc_writtenSel {pin func sel : Nat} {cfg : BitVec 32} (hpin : pin < fpioaPinMaxNum)
    (hsel : funcSel pin func = some sel) (hcfg : drvFpioaGetFuncCfg func = some cfg)
    (tmp : BitVec 32)
    : (availFunc pin)[(writtenSel pin (setMsc (setIoSel cfg sel) tmp)).toNat]?
        = chosenFunc pin func := by
  have hlength := (availFunc_tableRow pin hpin).length
  unfold writtenSel
  rw [ioSel_setMsc, ioSel_setIoSel]
  unfold chosenFunc
  by_cases hgpio : func ≤ gpio71Code
  . have hboth : gpio71Code ≥ func ∧ gpio0Code ≤ func := ⟨hgpio, Nat.zero_le func⟩
    rw [if_pos hgpio]
    unfold funcSel at hsel
    rw [if_pos hboth] at hsel
    cases hsel
    by_cases hpmu : gpio63Code < func
    . rw [if_pos hpmu]
      split <;> rfl
    . rw [if_neg hpmu]
      split <;> rfl
  . have hboth : ¬(gpio71Code ≥ func ∧ gpio0Code ≤ func) := by
      exact fun h => hgpio h.1
    rw [if_neg hgpio]
    unfold funcSel at hsel
    rw [if_neg hboth] at hsel
    have hsome := hsel
    rw [List.findIdx?_eq_some_iff_getElem] at hsome
    obtain ⟨hlt, hfunc, _⟩ := hsome
    have hget : (availFunc pin)[sel]? = some func := by
      rw [List.getElem?_eq_getElem hlt]
      simpa using hfunc
    have hbound : sel < 5 := by
      rw [hlength] at hlt
      exact hlt
    by_cases hmain : pin < 64
    . have hnat : (BitVec.ofNat 3 sel).toNat = sel := by
        rw [BitVec.toNat_ofNat]
        omega
      rw [if_pos hmain, hnat, hget]
    . -- a PMU register has two bits for the code
      have hproper := proper_of_drvFpioaGetFuncCfg (Nat.not_le.mp hgpio) hcfg
      have htwo := (availFunc_tableRow pin hpin).pmuFindIdx (by omega) func
        (List.mem_of_getElem? hget) hproper
      rw [htwo] at hsel
      cases hsel
      rw [if_neg hmain]
      exact hget

theorem drvFpioaSetPinFunc_selected {pin func sel : Nat} {cfg : BitVec 32}
    (hpin : drvFpioaPinEnabled hwRtc pin = true) (hsel : funcSel pin func = some sel)
    (hcfg : drvFpioaGetFuncCfg func = some cfg) (s : FpioaState)
    : let s₁ := (drvFpioaFuncAvailablePins hwRtc func).foldl (setPinFuncRelease hwRtc func) s
      let s' := (drvFpioaSetPinFunc hwRtc s pin func).2
      ∀ q, selectedFunc hwRtc s' q
        = if pinFailures s₁ pin = 0 ∧ q = pin then chosenFunc pin func
          else selectedFunc hwRtc s₁ q := by
  unfold drvFpioaSetPinFunc
  rw [if_pos hpin, Int.toNat_natCast, hsel]
  dsimp only
  rw [hcfg]
  dsimp only
  generalize (drvFpioaFuncAvailablePins hwRtc func).foldl (setPinFuncRelease hwRtc func) s = s₁
  rw [drvFpioaGetPinCfg_eq hpin]
  intro q
  by_cases hmapped : pinFailures s₁ pin = 0
  . have hagain : pinFailures (touch s₁ pin) pin = 0 := by
      rw [pinFailures_touch_same s₁ Iff.rfl, hmapped]
    rw [if_pos hmapped]
    dsimp only
    obtain ⟨hwritten, hothers, _⟩ := drvFpioaSetPinCfg_mapped hpin hagain
      (setMsc (setIoSel cfg sel) (pinReg s₁ pin))
    by_cases hq : q = pin
    . rw [if_pos ⟨hmapped, hq⟩, hq]
      unfold selectedFunc
      rw [if_pos hpin, hwritten]
      apply availFunc_writtenSel (pin_lt_of_enabled hpin) hsel hcfg
    . rw [if_neg (fun h => hq h.2)]
      unfold selectedFunc
      rw [hothers q hq, pinReg_touch]
  . rw [if_neg hmapped, if_neg (fun h => hmapped h.1)]
    apply selectedFunc_touch

theorem SelectedOnce.of_kept {s s' : FpioaState} (h : SelectedOnce hwRtc s)
    (hkept : ∀ q func, Proper func → selectedFunc hwRtc s' q = some func →
      selectedFunc hwRtc s q = some func)
    : SelectedOnce hwRtc s' := by
  intro p q func hfunc hp hq
  apply h p q func hfunc
  . apply hkept p func hfunc hp
  . apply hkept q func hfunc hq

theorem selectedOnce_chosen {s s' : FpioaState} (h : SelectedOnce hwRtc s) {pin : Nat}
    {chosen : Option Nat}
    (hchosen : ∀ q, selectedFunc hwRtc s' q = if q = pin then chosen else selectedFunc hwRtc s q)
    : SelectedOnce hwRtc s'
        ↔ ¬∃ func, Proper func ∧ chosen = some func
          ∧ ∃ q, q ≠ pin ∧ selectedFunc hwRtc s q = some func := by
  constructor
  . intro honce ⟨func, hfunc, hpin, q, hne, hq⟩
    apply hne
    apply honce q pin func hfunc
    . rw [hchosen, if_neg hne]
      exact hq
    . rw [hchosen, if_pos rfl]
      exact hpin
  . intro hnone p q func hfunc hp hq
    rw [hchosen] at hp hq
    by_cases hppin : p = pin
    . by_cases hqpin : q = pin
      . rw [hppin, hqpin]
      . rw [if_pos hppin] at hp
        rw [if_neg hqpin] at hq
        exact absurd ⟨func, hfunc, hp, q, hqpin, hq⟩ hnone
    . by_cases hqpin : q = pin
      . rw [if_neg hppin] at hp
        rw [if_pos hqpin] at hq
        exact absurd ⟨func, hfunc, hq, p, hppin, hp⟩ hnone
      . rw [if_neg hppin] at hp
        rw [if_neg hqpin] at hq
        exact h p q func hfunc hp hq

end

end Fpioa

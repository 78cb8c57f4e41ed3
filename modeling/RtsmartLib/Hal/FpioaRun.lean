import RtsmartLib.Hal.FpioaSelect

/-!
This module contains runs of calls that set the functions of pins, and the calls of a run after which two
pins select one function.
-/

namespace Fpioa

open Lib

def pinFuncMachine (hwRtc : Bool) : Machine FpioaState (Int × Nat) Int :=
  ⟨fun s call =>
    let r := drvFpioaSetPinFunc hwRtc s call.1 call.2
    (r.2, r.1)⟩

/-
A pin of the main bank gets a GPIO function of the PMU bank while another pin has the second function
of its row; or a pin that had the function is passed over because its bank could not be mapped when its
turn came, but can be mapped before the function is set.
-/
def Duplicates (hwRtc : Bool) (v : Machine.Visit FpioaState (Int × Nat) Int) : Prop :=
  let s := v.pre
  let pin := v.event.1.toNat
  let func := v.event.2
  let alts := drvFpioaFuncAvailablePins hwRtc func
  drvFpioaPinEnabled hwRtc v.event.1 = true
    ∧ ((gpio63Code < func ∧ func ≤ gpio71Code ∧ pin < 64 ∧ pinFailures s pin = 0
          ∧ ∃ q, q ≠ pin ∧ selectedFunc hwRtc s q = (availFunc pin)[1]?)
      ∨ (Proper func ∧ func ∈ availFunc pin ∧ (drvFpioaGetFuncCfg func).isSome = true
          ∧ pinFailures s pin ≤ alts.length
          ∧ ∃ q ∈ alts.take (pinFailures s pin), q ≠ pin ∧ selectedFunc hwRtc s q = some func))

section

variable {hwRtc : Bool}

theorem release_foldl_kept {func f : Nat} (hf : Proper f) {alts : List Nat}
    (halts : ∀ alt ∈ alts, drvFpioaPinEnabled hwRtc alt = true) {s : FpioaState} {q : Nat}
    (h : selectedFunc hwRtc (alts.foldl (setPinFuncRelease hwRtc func) s) q = some f)
    : selectedFunc hwRtc s q = some f := by
  induction alts generalizing s with
  | nil => exact h
  | cons alt alts ih =>
    simp only [List.forall_mem_cons] at halts
    rw [List.foldl_cons] at h
    have hnext := ih halts.2 h
    rw [(setPinFuncRelease_eq halts.1).1] at hnext
    split at hnext
    . exact absurd hf ((availFunc_tableRow alt (pin_lt_of_enabled halts.1)).zero f hnext)
    . exact hnext

theorem availablePins_enabled (func : Nat)
    : ∀ alt ∈ drvFpioaFuncAvailablePins hwRtc func, drvFpioaPinEnabled hwRtc alt = true :=
  fun _ halt => (of_mem_drvFpioaFuncAvailablePins halt).1

theorem SelectedOnce.release {s : FpioaState} (hs : SelectedOnce hwRtc s) (func : Nat)
    : SelectedOnce hwRtc
        ((drvFpioaFuncAvailablePins hwRtc func).foldl (setPinFuncRelease hwRtc func) s) := by
  apply hs.of_kept
  intro q f hf h
  apply release_foldl_kept hf (availablePins_enabled func) h

/-
The pins of a GPIO function of the PMU bank are all in that bank.
-/
theorem availablePins_pmuGpio {func pin : Nat} (hlow : gpio63Code < func) (hhigh : func ≤ gpio71Code)
    (hpin : pin < 64)
    : ∀ alt ∈ drvFpioaFuncAvailablePins hwRtc func,
        drvFpioaPinEnabled hwRtc alt = true ∧ ¬(alt < 64 ↔ pin < 64) := by
  intro alt halt
  obtain ⟨henabled, hmem⟩ := of_mem_drvFpioaFuncAvailablePins halt
  constructor
  . exact henabled
  . intro hsame
    have := (availFunc_tableRow alt (pin_lt_of_enabled henabled)).mainGpio (hsame.mpr hpin) func hmem
    omega

/-
The pins of any other function are all in one bank.
-/
theorem availablePins_proper {func pin : Nat} (hfunc : Proper func)
    (hpin : drvFpioaPinEnabled hwRtc pin = true) (hmem : func ∈ availFunc pin)
    : ∀ alt ∈ drvFpioaFuncAvailablePins hwRtc func,
        drvFpioaPinEnabled hwRtc alt = true ∧ (alt < 64 ↔ pin < 64) := by
  intro alt halt
  obtain ⟨henabled, halt⟩ := of_mem_drvFpioaFuncAvailablePins halt
  constructor
  . exact henabled
  . rw [(availFunc_tableRow alt (pin_lt_of_enabled henabled)).pmuProper func halt hfunc,
      (availFunc_tableRow pin (pin_lt_of_enabled hpin)).pmuProper func hmem hfunc]

theorem availablePins_nodup (func : Nat) : (drvFpioaFuncAvailablePins hwRtc func).Nodup := by
  rw [drvFpioaFuncAvailablePins_eq]
  exact (functionPins_nodup func).sublist (List.take_sublist _ _)

/-
The pins that have a function after the loop are those that were passed over, as their bank could not be
mapped.
-/
theorem release_foldl_passed {s : FpioaState} {pin func : Nat}
    (hpin : drvFpioaPinEnabled hwRtc pin = true) (hfunc : Proper func) (hmem : func ∈ availFunc pin)
    (q : Nat)
    : selectedFunc hwRtc
          ((drvFpioaFuncAvailablePins hwRtc func).foldl (setPinFuncRelease hwRtc func) s) q
          = some func
        ↔ q ∈ (drvFpioaFuncAvailablePins hwRtc func).take (pinFailures s pin)
          ∧ selectedFunc hwRtc s q = some func := by
  rw [release_foldl_same hfunc (availablePins_proper hfunc hpin hmem)]
  have hnodup := @availablePins_nodup hwRtc func
  rw [← List.take_append_drop (pinFailures s pin) (drvFpioaFuncAvailablePins hwRtc func),
    List.nodup_append] at hnodup
  constructor
  . intro ⟨hq, hdrop⟩
    have hall : q ∈ drvFpioaFuncAvailablePins hwRtc func := by
      rw [drvFpioaFuncAvailablePins_of_proper hfunc, mem_functionPins]
      apply enabled_of_selectedFunc hq
    rw [← List.take_append_drop (pinFailures s pin) (drvFpioaFuncAvailablePins hwRtc func),
      List.mem_append] at hall
    exact ⟨hall.resolve_right hdrop, hq⟩
  . intro ⟨htake, hq⟩
    exact ⟨hq, fun hdrop => hnodup.2.2 q htake q hdrop rfl⟩

theorem mem_availFunc_of_funcSel {pin func sel : Nat} (hfunc : gpio71Code < func)
    (hsel : funcSel pin func = some sel)
    : func ∈ availFunc pin := by
  unfold funcSel at hsel
  rw [if_neg (fun h => by omega), List.findIdx?_eq_some_iff_getElem] at hsel
  obtain ⟨hlt, hget, _⟩ := hsel
  have : (availFunc pin)[sel] = func := by
    simpa using hget
  rw [← this]
  apply List.getElem_mem hlt

theorem funcSel_isSome {pin func : Nat} (h : func ≤ gpio71Code ∨ func ∈ availFunc pin)
    : (funcSel pin func).isSome = true := by
  unfold funcSel
  split
  . rfl
  next hgpio =>
    cases h with
    | inl h => exact absurd ⟨h, Nat.zero_le func⟩ hgpio
    | inr h =>
      rw [List.findIdx?_isSome, List.any_eq_true]
      exists func
      simpa using h

theorem drvFpioaGetFuncCfg_gpio {func : Nat} (h : func ≤ gpio71Code)
    : (drvFpioaGetFuncCfg func).isSome = true := by
  unfold drvFpioaGetFuncCfg
  split
  . rfl
  . simp

section

variable {s : FpioaState} (hs : SelectedOnce hwRtc s) {pin func : Nat}
    (hpin : drvFpioaPinEnabled hwRtc pin = true)

/-
Where a call is not refused, two pins select one function after it exactly if the bank of the pin is
mapped in the end and the function that it gets has not been taken from another pin.
-/
include hs hpin in
theorem setPinFunc_selectedOnce {sel : Nat} {cfg : BitVec 32} (hsel : funcSel pin func = some sel)
    (hcfg : drvFpioaGetFuncCfg func = some cfg)
    : let s₁ := (drvFpioaFuncAvailablePins hwRtc func).foldl (setPinFuncRelease hwRtc func) s
      SelectedOnce hwRtc (drvFpioaSetPinFunc hwRtc s pin func).2
        ↔ ¬(pinFailures s₁ pin = 0 ∧ ∃ f, Proper f ∧ chosenFunc pin func = some f
          ∧ ∃ q, q ≠ pin ∧ selectedFunc hwRtc s₁ q = some f) := by
  have hselected := drvFpioaSetPinFunc_selected hpin hsel hcfg s
  have honce := hs.release func
  dsimp only at hselected ⊢
  generalize (drvFpioaFuncAvailablePins hwRtc func).foldl (setPinFuncRelease hwRtc func) s = s₁
    at hselected honce ⊢
  by_cases hmapped : pinFailures s₁ pin = 0
  . simp only [hmapped, true_and] at hselected ⊢
    apply selectedOnce_chosen honce hselected
  . simp only [hmapped, false_and, if_false, not_false_eq_true, iff_true] at hselected ⊢
    apply honce.of_kept
    intro q f _ h
    rw [← hselected q]
    exact h

include hpin in
theorem duplicates_gpio (hfunc : func ≤ gpio71Code)
    : let s₁ := (drvFpioaFuncAvailablePins hwRtc func).foldl (setPinFuncRelease hwRtc func) s
      (pinFailures s₁ pin = 0 ∧ ∃ f, Proper f ∧ chosenFunc pin func = some f
          ∧ ∃ q, q ≠ pin ∧ selectedFunc hwRtc s₁ q = some f)
        ↔ Duplicates hwRtc ((pinFuncMachine hwRtc).visit s (pin, func)) := by
  have hlt := pin_lt_of_enabled hpin
  have hnot : ¬Proper func := by
    intro h
    have := h.1
    omega
  have hother : ∀ f, Proper f → f ≠ func := by
    intro f hf h
    rw [h] at hf
    exact hnot hf
  have hduplicates : Duplicates hwRtc ((pinFuncMachine hwRtc).visit s (pin, func))
      ↔ gpio63Code < func ∧ func ≤ gpio71Code ∧ pin < 64 ∧ pinFailures s pin = 0
          ∧ ∃ q, q ≠ pin ∧ selectedFunc hwRtc s q = (availFunc pin)[1]? := by
    unfold Duplicates
    simp [hpin, hnot]
  dsimp only
  rw [hduplicates]
  unfold chosenFunc
  rw [if_pos hfunc]
  by_cases hlow : gpio63Code < func
  . rw [if_pos hlow]
    by_cases hmain : pin < 64
    . have halts := @availablePins_pmuGpio hwRtc func pin hlow hfunc hmain
      rw [release_foldl_failures_other halts]
      constructor
      . intro ⟨hmapped, f, hf, hchosen, q, hne, hq⟩
        rw [release_foldl_other hf (hother f hf) (availablePins_enabled func)] at hq
        exact ⟨hlow, hfunc, hmain, hmapped, q, hne, hq.trans hchosen.symm⟩
      . intro ⟨_, _, _, hmapped, q, hne, hq⟩
        have hlength : 1 < (availFunc pin).length := by
          rw [(availFunc_tableRow pin hlt).length]
          decide
        have hchosen : (availFunc pin)[1]? = some (availFunc pin)[1] :=
          List.getElem?_eq_getElem hlength
        have hf := (availFunc_tableRow pin hlt).one hmain _ hchosen
        refine ⟨hmapped, (availFunc pin)[1], hf, hchosen, q, hne, ?_⟩
        rw [release_foldl_other hf (hother _ hf) (availablePins_enabled func)]
        rw [hq, hchosen]
    . constructor
      . intro ⟨_, f, hf, hchosen, _⟩
        exact absurd hf ((availFunc_tableRow pin hlt).pmuOne (Nat.not_lt.mp hmain) f hchosen)
      . intro ⟨_, _, h, _⟩
        contradiction
  . rw [if_neg hlow]
    constructor
    . intro ⟨_, f, hf, hchosen, _⟩
      exact absurd hf ((availFunc_tableRow pin hlt).zero f hchosen)
    . intro ⟨h, _⟩
      contradiction

include hpin in
theorem duplicates_proper (hfunc : Proper func) (hmem : func ∈ availFunc pin) {cfg : BitVec 32}
    (hcfg : drvFpioaGetFuncCfg func = some cfg)
    : let s₁ := (drvFpioaFuncAvailablePins hwRtc func).foldl (setPinFuncRelease hwRtc func) s
      (pinFailures s₁ pin = 0 ∧ ∃ f, Proper f ∧ chosenFunc pin func = some f
          ∧ ∃ q, q ≠ pin ∧ selectedFunc hwRtc s₁ q = some f)
        ↔ Duplicates hwRtc ((pinFuncMachine hwRtc).visit s (pin, func)) := by
  have hgpio : ¬func ≤ gpio71Code := Nat.not_le.mpr hfunc.1
  have halts := availablePins_proper hfunc hpin hmem
  have hduplicates : Duplicates hwRtc ((pinFuncMachine hwRtc).visit s (pin, func))
      ↔ pinFailures s pin ≤ (drvFpioaFuncAvailablePins hwRtc func).length
          ∧ ∃ q ∈ (drvFpioaFuncAvailablePins hwRtc func).take (pinFailures s pin),
            q ≠ pin ∧ selectedFunc hwRtc s q = some func := by
    unfold Duplicates
    simp [hpin, hfunc, hmem, hcfg, hgpio]
  dsimp only
  rw [hduplicates, release_foldl_failures_same halts, Nat.sub_eq_zero_iff_le]
  unfold chosenFunc
  rw [if_neg hgpio]
  constructor
  . intro ⟨hle, f, _, hchosen, q, hne, hq⟩
    cases hchosen
    rw [release_foldl_passed hpin hfunc hmem] at hq
    exact ⟨hle, q, hq.1, hne, hq.2⟩
  . intro ⟨hle, q, htake, hne, hq⟩
    refine ⟨hle, func, hfunc, rfl, q, hne, ?_⟩
    rw [release_foldl_passed hpin hfunc hmem]
    exact ⟨htake, hq⟩

end

theorem setPinFunc_refused {s : FpioaState} (hs : SelectedOnce hwRtc s) {pin : Int} {func : Nat}
    (hrefused : drvFpioaPinEnabled hwRtc pin = true → funcSel pin.toNat func = none
      ∨ drvFpioaGetFuncCfg func = none)
    : SelectedOnce hwRtc (drvFpioaSetPinFunc hwRtc s pin func).2
        ∧ ¬Duplicates hwRtc ((pinFuncMachine hwRtc).visit s (pin, func)) := by
  constructor
  . unfold drvFpioaSetPinFunc
    split
    next henabled =>
      split
      . exact hs
      next sel hsel =>
        cases hrefused henabled with
        | inl h =>
          rw [hsel] at h
          cases h
        | inr h =>
          dsimp only
          rw [h]
          apply hs.release func
    next => exact hs
  . intro ⟨henabled, h⟩
    have hgpio : func ≤ gpio71Code ∨ func ∈ availFunc pin.toNat := by
      rcases h with ⟨_, h, _⟩ | ⟨_, h, _⟩
      . exact Or.inl h
      . exact Or.inr h
    have hcfg : (drvFpioaGetFuncCfg func).isSome = true := by
      rcases h with ⟨_, h, _⟩ | ⟨_, _, h, _⟩
      . apply drvFpioaGetFuncCfg_gpio h
      . exact h
    have hsel := funcSel_isSome hgpio
    cases hrefused henabled with
    | inl hnone =>
      have hnone : funcSel pin.toNat func = none := hnone
      rw [hnone] at hsel
      cases hsel
    | inr hnone =>
      have hnone : drvFpioaGetFuncCfg func = none := hnone
      rw [hnone] at hcfg
      cases hcfg

theorem setPinFunc_selectedOnce_iff {s : FpioaState} (hs : SelectedOnce hwRtc s) (pin : Int)
    (func : Nat)
    : SelectedOnce hwRtc (drvFpioaSetPinFunc hwRtc s pin func).2
        ↔ ¬Duplicates hwRtc ((pinFuncMachine hwRtc).visit s (pin, func)) := by
  by_cases hrefused : drvFpioaPinEnabled hwRtc pin = true →
      funcSel pin.toNat func = none ∨ drvFpioaGetFuncCfg func = none
  . obtain ⟨honce, hnot⟩ := setPinFunc_refused hs hrefused
    exact ⟨fun _ => hnot, fun _ => honce⟩
  . simp only [Classical.not_imp, not_or, ← Option.isSome_iff_ne_none] at hrefused
    obtain ⟨henabled, hsel, hcfg⟩ := hrefused
    obtain ⟨sel, hsel⟩ := Option.isSome_iff_exists.mp hsel
    obtain ⟨cfg, hcfg⟩ := Option.isSome_iff_exists.mp hcfg
    have hnat : ∃ n : Nat, pin = n := by
      apply Int.eq_ofNat_of_zero_le
      unfold drvFpioaPinEnabled at henabled
      split at henabled
      . cases henabled
      . omega
    obtain ⟨n, hn⟩ := hnat
    subst hn
    rw [Int.toNat_natCast] at hsel
    apply (setPinFunc_selectedOnce hs henabled hsel hcfg).trans
    apply not_congr
    by_cases hgpio : func ≤ gpio71Code
    . apply duplicates_gpio henabled hgpio
    . have hproper := proper_of_drvFpioaGetFuncCfg (Nat.not_le.mp hgpio) hcfg
      have hmem := mem_availFunc_of_funcSel (Nat.not_le.mp hgpio) hsel
      apply duplicates_proper henabled hproper hmem hcfg

end

/-
In a run from a state in which no function is selected twice, none is selected twice at any time exactly
if no call of the run duplicates one.
-/
theorem selectedOnce_iff (hwRtc : Bool) {s : FpioaState} (hs : SelectedOnce hwRtc s)
    (calls : List (Int × Nat))
    : (∀ v ∈ (pinFuncMachine hwRtc).visits s calls, SelectedOnce hwRtc v.post)
        ↔ ∀ v ∈ (pinFuncMachine hwRtc).visits s calls, ¬Duplicates hwRtc v := by
  apply Machine.forall_visits_iff (SelectedOnce hwRtc)
  . intro s call hs hnot
    exact (setPinFunc_selectedOnce_iff hs call.1 call.2).mpr hnot
  . intro s call hs
    apply setPinFunc_selectedOnce_iff hs
  . exact hs

def resetBank (attempts : List Bool) : IomuxBank := ⟨fun _ => 0#32, false, attempts⟩

theorem selectedOnce_reset (hwRtc : Bool) (attempts pmuAttempts : List Bool)
    : SelectedOnce hwRtc ⟨resetBank attempts, resetBank pmuAttempts⟩ := by
  intro p q func hfunc hp _
  have henabled := (enabled_of_selectedFunc hp).1
  have hzero : ioSel (pinReg ⟨resetBank attempts, resetBank pmuAttempts⟩ p) = 0#3 := by
    have hmain : ioSel 0#32 = 0#3 := by decide
    have hpmu : ioSel (convertPmuToIomux 0#32) = 0#3 := by decide
    unfold pinReg
    split
    . exact hmain
    . exact hpmu
  unfold selectedFunc at hp
  rw [if_pos henabled, hzero] at hp
  exact absurd hfunc ((availFunc_tableRow p (pin_lt_of_enabled henabled)).zero func hp)

theorem selectedOnce_pwm3
    : (∀ v ∈ (pinFuncMachine true).visits ⟨resetBank [], resetBank []⟩
          [(47, FpioaFunc.pwm3.code), (8, FpioaFunc.pwm3.code)], SelectedOnce true v.post)
        ↔ ∀ v ∈ (pinFuncMachine true).visits ⟨resetBank [], resetBank []⟩
          [(47, FpioaFunc.pwm3.code), (8, FpioaFunc.pwm3.code)], ¬Duplicates true v :=
  selectedOnce_iff true (selectedOnce_reset true [] []) _

/-
With PWM3 on pin 47, pin 8 gets GPIO64.
-/
theorem pwm3_gpio64_not_selectedOnce
    : ¬∀ v ∈ (pinFuncMachine true).visits ⟨resetBank [], resetBank []⟩
        [(47, FpioaFunc.pwm3.code), (8, FpioaFunc.gpio64.code)], SelectedOnce true v.post := by
  intro h
  have hlast := h _ (.tail _ (.head _)) 8 47 FpioaFunc.pwm3.code (by decide +kernel)
    (by decide +kernel) (by decide +kernel)
  exact absurd hlast (by decide)

end Fpioa

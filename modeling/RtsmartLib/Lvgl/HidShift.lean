import RtsmartLib.Lib.Latest
import RtsmartLib.Lib.Machine
import RtsmartLib.Lvgl.HidKeys

/-!
This module contains what the modifiers of a HID keyboard do: when the shift state is that of the two shift
keys, and which keys caps lock is used for.
-/

namespace Lvgl

open Lib

/-
A device with the events that it has met, each with whether the key is down after it.
-/
structure ShiftLog where
  ctx : LvK230HidCtx
  events : List (Nat × Bool)

def ShiftLog.init : ShiftLog := ⟨.init, []⟩

def shiftMachine : Machine ShiftLog KeyEvent Unit :=
  ⟨fun s event =>
    (⟨collectKeyEvent s.ctx event, s.events ++ [(event.code, decide (event.value ≠ keyReleased))]⟩, ())⟩

abbrev ShiftVisit := Machine.Visit ShiftLog KeyEvent Unit

def KeyDown (events : List (Nat × Bool)) (code : Nat) : Prop :=
  latest events code = some true

instance (events : List (Nat × Bool)) (code : Nat) : Decidable (KeyDown events code) :=
  inferInstanceAs (Decidable (_ = _))

def ShiftHeld (events : List (Nat × Bool)) : Prop :=
  KeyDown events keyLeftShift ∨ KeyDown events keyRightShift

instance (events : List (Nat × Bool)) : Decidable (ShiftHeld events) :=
  inferInstanceAs (Decidable (_ ∨ _))

def IsLetter (code : Nat) : Prop :=
  ∃ row ∈ alphaKeys, row.1 = code

instance (code : Nat) : Decidable (IsLetter code) :=
  inferInstanceAs (Decidable (∃ row ∈ alphaKeys, row.1 = code))

/-
The event is neither that of a modifier nor a release of a key whose translation is remembered.
-/
def Translated (ctx : LvK230HidCtx) (event : KeyEvent) : Prop :=
  ¬(lvK230HidIsShiftKey event.code ∨ (event.code = keyCapsLock ∧ event.value = keyPressed))
    ∧ ¬(event.value = keyReleased ∧ event.code < lvK230HidTranslatedKeys
      ∧ ctx.translatedKeys event.code ≠ none)

instance (ctx : LvK230HidCtx) (event : KeyEvent) : Decidable (Translated ctx event) :=
  inferInstanceAs (Decidable (¬(_ ∨ _ ∧ _) ∧ ¬(_ ∧ _ ∧ _ ≠ _)))

/-
The shift state is that of the keys, and a key other than a letter is translated as without caps lock.
-/
def ModifiersRight (v : ShiftVisit) : Prop :=
  (v.post.ctx.shiftPressed = true ↔ ShiftHeld v.post.events)
    ∧ (Translated v.pre.ctx v.event → ¬IsLetter v.event.code →
      lvK230HidTranslateKeycode v.pre.ctx v.event.code
        = lvK230HidTranslateKeycode { v.pre.ctx with capsLockEnabled := false } v.event.code)

instance (v : ShiftVisit) : Decidable (ModifiersRight v) :=
  inferInstanceAs (Decidable ((_ = _ ↔ _) ∧ (_ → ¬_ → _ = _)))

/--
One shift key is released while the other one is down.
-/
def ReleasesOneShift (v : ShiftVisit) : Prop :=
  v.event.value = keyReleased
    ∧ ((v.event.code = keyLeftShift ∧ KeyDown v.pre.events keyRightShift)
      ∨ (v.event.code = keyRightShift ∧ KeyDown v.pre.events keyLeftShift))

/--
A key with two characters that are no letters is translated while caps lock is on.
-/
def TranslatesUnderCapsLock (v : ShiftVisit) : Prop :=
  v.pre.ctx.capsLockEnabled = true ∧ Translated v.pre.ctx v.event
    ∧ translateBy asciiKeys true v.event.code ≠ translateBy asciiKeys false v.event.code

theorem translateBy_mem {α : Type} {keys : List (Nat × α × α)} {shifted : Bool} {code : Nat} {a : α}
    (h : translateBy keys shifted code = some a)
    : ∃ row ∈ keys, row.1 = code := by
  induction keys with
  | nil => cases h
  | cons row keys ih =>
    obtain ⟨key, plain, other⟩ := row
    unfold translateBy at h
    by_cases hcode : code = key
    . exact ⟨_, List.mem_cons_self, hcode.symm⟩
    . rw [if_neg hcode] at h
      obtain ⟨row, hmem, hrow⟩ := ih h
      exact ⟨row, List.mem_cons_of_mem _ hmem, hrow⟩

theorem translateBy_none {α : Type} {keys : List (Nat × α × α)} {code : Nat}
    (h : ¬∃ row ∈ keys, row.1 = code) (shifted : Bool)
    : translateBy keys shifted code = none := by
  cases hrow : translateBy keys shifted code with
  | none => rfl
  | some a => exact absurd (translateBy_mem hrow) h

/-
A key with two characters that are no letters is in no other table.
-/
theorem two_characters {code : Nat} (h : translateBy asciiKeys true code ≠ translateBy asciiKeys false code)
    : ¬IsLetter code ∧ ¬∃ row ∈ specialKeys, row.1 = code := by
  have hmem : ∃ row ∈ asciiKeys, row.1 = code := by
    by_contra hnone
    rw [translateBy_none hnone, translateBy_none hnone] at h
    exact h rfl
  obtain ⟨row, hrow, rfl⟩ := hmem
  have hapart : ∀ row ∈ asciiKeys, ¬IsLetter row.1 ∧ ¬∃ other ∈ specialKeys, other.1 = row.1 := by
    decide
  exact hapart row hrow

/--
For a key that is no letter caps lock makes a difference exactly if it is on and the key has two characters.
-/
theorem translateKeycode_caps (ctx : LvK230HidCtx) {code : Nat} (h : ¬IsLetter code)
    : lvK230HidTranslateKeycode ctx code
        = lvK230HidTranslateKeycode { ctx with capsLockEnabled := false } code
      ↔ ¬(ctx.capsLockEnabled = true
        ∧ translateBy asciiKeys true code ≠ translateBy asciiKeys false code) := by
  have halpha : ∀ shifted, lvK230HidTranslateAlphaKey shifted code = none := translateBy_none h
  unfold lvK230HidTranslateKeycode lvK230HidTranslateAsciiKey lvK230HidTranslateSpecialKey
  simp only [halpha]
  cases hspecial : translateBy specialKeys ctx.shiftPressed code with
  | some key =>
    -- A special key has no characters.
    simp only [true_iff]
    intro ⟨_, htwo⟩
    exact (two_characters htwo).2 (translateBy_mem hspecial)
  | none =>
    cases hcaps : ctx.capsLockEnabled with
    | false => simp
    | true =>
      cases hshift : ctx.shiftPressed with
      | false =>
        simp only [bne_self_eq_false, true_and, not_not, Bool.false_bne]
        exact ⟨fun heq => Option.map_injective (fun _ _ hc => by injection hc) heq, congrArg _⟩
      | true =>
        simp only [bne_self_eq_false, true_and, not_not, Bool.true_bne, Bool.not_false]
        constructor
        . intro heq
          exact (Option.map_injective (fun _ _ hc => by injection hc) heq).symm
        . intro heq
          rw [heq]

theorem eventKey_shiftPressed (ctx : LvK230HidCtx) (event : KeyEvent)
    : (eventKey ctx event).2.shiftPressed = ctx.shiftPressed := by
  unfold eventKey
  split
  . rfl
  . simp only
    split
    . rfl
    . rfl

theorem collectKeyEvent_shiftPressed (ctx : LvK230HidCtx) (event : KeyEvent)
    : (collectKeyEvent ctx event).shiftPressed
        = if lvK230HidIsShiftKey event.code then decide (event.value ≠ keyReleased)
          else ctx.shiftPressed := by
  unfold collectKeyEvent
  by_cases hshift : lvK230HidIsShiftKey event.code = true
  . rw [if_pos hshift, if_pos hshift]
    by_cases hvalue : event.value = keyReleased
    . simp [hvalue]
    . simp [hvalue]
  . rw [if_neg hshift, if_neg hshift]
    split
    . rfl
    . have hkey := eventKey_shiftPressed ctx event
      simp only
      split
      . exact hkey
      . exact hkey

theorem isShiftKey_iff (code : Nat)
    : lvK230HidIsShiftKey code = true ↔ code = keyLeftShift ∨ code = keyRightShift := by
  simp [lvK230HidIsShiftKey]

/--
Where the shift state has been right, an event leaves it right unless it releases one shift key while the other
one is down.
-/
theorem shiftPressed_iff {s : ShiftLog} (h : s.ctx.shiftPressed = true ↔ ShiftHeld s.events)
    (event : KeyEvent)
    : let v := shiftMachine.visit s event
      (v.post.ctx.shiftPressed = true ↔ ShiftHeld v.post.events) ↔ ¬ReleasesOneShift v := by
  have hctx : (shiftMachine.visit s event).post.ctx.shiftPressed
      = (collectKeyEvent s.ctx event).shiftPressed := rfl
  have hdown : ∀ code, KeyDown (shiftMachine.visit s event).post.events code
      ↔ if event.code = code then event.value ≠ keyReleased else KeyDown s.events code := by
    intro code
    have hevents : (shiftMachine.visit s event).post.events
        = s.events ++ [(event.code, decide (event.value ≠ keyReleased))] := rfl
    unfold KeyDown
    rw [hevents, latest_snoc]
    by_cases hcode : event.code = code
    . simp [hcode]
    . simp [hcode]
  have hapart : keyLeftShift ≠ keyRightShift := by decide
  simp only [ShiftHeld, hdown, hctx, collectKeyEvent_shiftPressed, ReleasesOneShift, Machine.visit_event,
    Machine.visit_pre]
  by_cases hleft : event.code = keyLeftShift
  . have hshift := (isShiftKey_iff event.code).mpr (.inl hleft)
    have hright : event.code ≠ keyRightShift := by rwa [hleft]
    rw [if_pos hshift, if_pos hleft, if_neg hright]
    by_cases hvalue : event.value = keyReleased
    . simp [hvalue, hleft, hapart]
    . simp [hvalue]
  . by_cases hright : event.code = keyRightShift
    . have hshift := (isShiftKey_iff event.code).mpr (.inr hright)
      rw [if_pos hshift, if_neg hleft, if_pos hright]
      by_cases hvalue : event.value = keyReleased
      . simp [hvalue, hright, Ne.symm hapart]
      . simp [hvalue]
    . have hshift : ¬lvK230HidIsShiftKey event.code = true := by
        rw [isShiftKey_iff, not_or]
        exact ⟨hleft, hright⟩
      rw [if_neg hshift, if_neg hleft, if_neg hright, h]
      simp [hleft, hright, ShiftHeld]

/--
In every run, the shift state is that of the shift keys and caps lock is used for letters only, exactly if no
shift key is released while the other one is down, and no key with two characters that are no letters is
translated while caps lock is on.
-/
theorem shiftMachine_right (events : List KeyEvent)
    : (∀ v ∈ shiftMachine.visits .init events, ModifiersRight v)
        ↔ ∀ v ∈ shiftMachine.visits .init events, ¬(ReleasesOneShift v ∨ TranslatesUnderCapsLock v) := by
  apply Machine.forall_visits_iff (fun s => s.ctx.shiftPressed = true ↔ ShiftHeld s.events)
  . intro s event hinv hbad
    exact (shiftPressed_iff hinv event).mpr (fun hreleases => hbad (.inl hreleases))
  . intro s event hinv
    rw [not_or]
    apply and_congr (shiftPressed_iff hinv event)
    simp only [TranslatesUnderCapsLock, Machine.visit_pre, Machine.visit_event]
    constructor
    . intro hright ⟨hcaps, htranslated, htwo⟩
      have hletter := (two_characters htwo).1
      exact (translateKeycode_caps s.ctx hletter).mp (hright htranslated hletter) ⟨hcaps, htwo⟩
    . intro hnone htranslated hletter
      rw [translateKeycode_caps s.ctx hletter]
      intro ⟨hcaps, htwo⟩
      exact hnone ⟨hcaps, htranslated, htwo⟩
  . simp [ShiftLog.init, LvK230HidCtx.init, ShiftHeld, KeyDown]

/-
Both shift keys are pressed and one of them is released; a digit is pressed under caps lock.
-/
theorem shiftMachine_wrong
    : (¬∀ v ∈ shiftMachine.visits .init
          [⟨keyLeftShift, 1⟩, ⟨keyRightShift, 1⟩, ⟨keyRightShift, 0⟩], ModifiersRight v)
        ∧ ¬∀ v ∈ shiftMachine.visits .init [⟨keyCapsLock, 1⟩, ⟨keyCapsLock, 0⟩, ⟨key1, 1⟩],
          ModifiersRight v := by
  decide +kernel

end Lvgl

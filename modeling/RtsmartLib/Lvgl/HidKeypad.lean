import RtsmartLib.Lib.Latest
import RtsmartLib.Lib.Machine
import RtsmartLib.Lvgl.HidKeys

/-!
This module contains the pairing of what the HID keyboard reports: a key value that has been reported as pressed
is reported as released once no key is held that stands for it, unless a key is translated anew while it is
held or a full queue drops a release.
-/

namespace Lvgl

open Lib

/-
The events that a collection takes from the frames.
-/
def framesCollected (reads : Nat) (frames : List (List KeyEvent)) (ctx : LvK230HidCtx) : List KeyEvent :=
  match reads, frames with
  | reads + 1, frame :: frames =>
    if ctx.keyEvents.length < lvK230HidKeyQueueSize ∧ frame ≠ [] then
      frame ++ framesCollected reads frames (frame.foldl collectKeyEvent ctx)
    else
      []
  | _, _ => []

/-
A device with the events that it has collected, each with whether the key is down after it, and what it has
reported.
-/
structure HidLog where
  ctx : LvK230HidCtx
  events : List (Nat × Bool)
  reports : List (HidKey × LvIndevState)

def HidLog.init : HidLog := ⟨.init, [], []⟩

def KeyEvent.entry (event : KeyEvent) : Nat × Bool :=
  (event.code, decide (event.value ≠ keyReleased))

def LvIndevData.entry (data : LvIndevData) : List (HidKey × LvIndevState) :=
  data.key.toList.map fun key => (key, data.state)

/-
The events that a call collects: only if nothing is queued.
-/
def eventsCollected (frames : List (List KeyEvent)) (ctx : LvK230HidCtx) : List KeyEvent :=
  if ctx.keyEvents = [] then framesCollected lvK230HidMaxReadBatch frames ctx else []

/--
Each event of the machine is a call of the read callback with the frames that the driver has for it.
-/
def hidMachine : Machine HidLog (List (List KeyEvent)) LvIndevData :=
  ⟨fun s frames =>
    let (data, ctx) := lvK230HidKeypadReadCb frames s.ctx
    (⟨ctx, s.events ++ (eventsCollected frames s.ctx).map (·.entry), s.reports ++ data.entry⟩, data)⟩

/-
The key value that is queued for an event.
-/
def queuedKey (ctx : LvK230HidCtx) (event : KeyEvent) : Option HidKey :=
  if lvK230HidIsShiftKey event.code ∨ (event.code = keyCapsLock ∧ event.value = keyPressed) then
    none
  else
    (eventKey ctx event).1

/--
An event of a key that is held already, which the modifiers now translate otherwise.
-/
def TranslatesAnew (ctx : LvK230HidCtx) (event : KeyEvent) : Prop :=
  event.value ≠ keyReleased
    ∧ ¬(lvK230HidIsShiftKey event.code ∨ (event.code = keyCapsLock ∧ event.value = keyPressed))
    ∧ ctx.translatedKeys event.code ≠ none
    ∧ lvK230HidTranslateKeycode ctx event.code ≠ ctx.translatedKeys event.code

/--
An event is queued while the queue is full and its oldest event is a release.
-/
def DropsRelease (ctx : LvK230HidCtx) (event : KeyEvent) : Prop :=
  queuedKey ctx event ≠ none ∧ lvK230HidKeyQueueSize ≤ ctx.keyEvents.length
    ∧ ctx.keyEvents.head?.map Prod.snd = some .released

instance (ctx : LvK230HidCtx) (event : KeyEvent) : Decidable (TranslatesAnew ctx event) :=
  inferInstanceAs (Decidable (_ ∧ ¬(_ ∨ _ ∧ _) ∧ _ ≠ _ ∧ _))

instance (ctx : LvK230HidCtx) (event : KeyEvent) : Decidable (DropsRelease ctx event) :=
  inferInstanceAs (Decidable (_ ≠ _ ∧ _ ∧ _))

/-
One of the events that are collected from `ctx` on is translated anew or drops a release.
-/
def SomeUnpairs (ctx : LvK230HidCtx) (events : List KeyEvent) : Prop :=
  match events with
  | [] => False
  | event :: events =>
    (TranslatesAnew ctx event ∨ DropsRelease ctx event) ∨ SomeUnpairs (collectKeyEvent ctx event) events

instance decidableSomeUnpairs (ctx : LvK230HidCtx) (events : List KeyEvent)
    : Decidable (SomeUnpairs ctx events) :=
  match events with
  | [] => inferInstanceAs (Decidable False)
  | event :: events =>
    have := decidableSomeUnpairs (collectKeyEvent ctx event) events
    inferInstanceAs (Decidable (_ ∨ SomeUnpairs (collectKeyEvent ctx event) events))

def Unpairs (v : Machine.Visit HidLog (List (List KeyEvent)) LvIndevData) : Prop :=
  SomeUnpairs v.pre.ctx (eventsCollected v.event v.pre.ctx)

instance (v : Machine.Visit HidLog (List (List KeyEvent)) LvIndevData) : Decidable (Unpairs v) :=
  inferInstanceAs (Decidable (SomeUnpairs _ _))

/-
What is reported or queued as pressed stands for a key that has been translated so, and such a key is down.
-/
structure Paired (ctx : LvK230HidCtx) (events : List (Nat × Bool)) (reports : List (HidKey × LvIndevState))
    : Prop where
  sources : ∀ k, latest (reports ++ ctx.keyEvents) k = some .pressed →
    ∃ code, ctx.translatedKeys code = some k
  held : ∀ code, ctx.translatedKeys code ≠ none → latest events code = some true
  none_of : ∀ code, lvK230HidIsShiftKey code = true ∨ lvK230HidTranslatedKeys ≤ code →
    ctx.translatedKeys code = none
  active : ∀ k, ctx.activeKey = some k → latest reports k = some ctx.activeKeyState

theorem translateBy_eq_none {α : Type} {keys : List (Nat × α × α)} {code : Nat}
    (h : ∀ row ∈ keys, row.1 ≠ code) (shifted : Bool)
    : translateBy keys shifted code = none := by
  induction keys with
  | nil => rfl
  | cons row keys ih =>
    obtain ⟨key, plain, other⟩ := row
    simp only [List.forall_mem_cons] at h
    unfold translateBy
    rw [if_neg (Ne.symm h.1)]
    exact ih h.2

/-
All keys with a translation have a place among the translated keys.
-/
theorem translateKeycode_beyond (ctx : LvK230HidCtx) {code : Nat} (h : lvK230HidTranslatedKeys ≤ code)
    : lvK230HidTranslateKeycode ctx code = none := by
  have hspecial : ∀ row ∈ specialKeys, row.1 < lvK230HidTranslatedKeys := by decide
  have halpha : ∀ row ∈ alphaKeys, row.1 < lvK230HidTranslatedKeys := by decide
  have hascii : ∀ row ∈ asciiKeys, row.1 < lvK230HidTranslatedKeys := by decide
  unfold lvK230HidTranslateKeycode lvK230HidTranslateSpecialKey lvK230HidTranslateAsciiKey
    lvK230HidTranslateAlphaKey
  rw [translateBy_eq_none (fun row hrow => Nat.ne_of_lt (Nat.lt_of_lt_of_le (hspecial row hrow) h))]
  simp only []
  rw [translateBy_eq_none (fun row hrow => Nat.ne_of_lt (Nat.lt_of_lt_of_le (halpha row hrow) h))]
  simp only []
  rw [translateBy_eq_none (fun row hrow => Nat.ne_of_lt (Nat.lt_of_lt_of_le (hascii row hrow) h))]
  rfl

/-
What a queued event leaves recorded as pressed, unless it drops a release.
-/
theorem enqueue_pressed {ctx : LvK230HidCtx} {key k : HidKey} {state : LvIndevState}
    {reports : List (HidKey × LvIndevState)}
    (hdrop : ¬(lvK230HidKeyQueueSize ≤ ctx.keyEvents.length
      ∧ ctx.keyEvents.head?.map Prod.snd = some .released))
    (h : latest (reports ++ (lvK230HidEnqueueKeyEvent ctx key state).keyEvents) k = some .pressed)
    : (key = k ∧ state = .pressed)
        ∨ (key ≠ k ∧ latest (reports ++ ctx.keyEvents) k = some .pressed) := by
  simp only [lvK230HidEnqueueKeyEvent] at h
  rw [← List.append_assoc, latest_snoc] at h
  by_cases hkey : key = k
  . rw [if_pos hkey, Option.some.injEq] at h
    exact .inl ⟨hkey, h⟩
  . rw [if_neg hkey] at h
    right
    refine ⟨hkey, ?_⟩
    by_cases hfull : ctx.keyEvents.length ≥ lvK230HidKeyQueueSize
    . rw [if_pos hfull] at h
      cases hevents : ctx.keyEvents with
      | nil =>
        rw [hevents] at h
        exact h
      | cons oldest events =>
        obtain ⟨key', state'⟩ := oldest
        rw [hevents] at h hdrop
        cases state' with
        | released => exact absurd ⟨hevents ▸ hfull, rfl⟩ hdrop
        | pressed => exact latest_insert h key'
    . rw [if_neg hfull] at h
      exact h

/-
What an event of a key that is no modifier finds: the release of a key that has been translated, a key that
goes down or is still down, or an event that leaves the translated keys alone.
-/
theorem eventKey_cases (ctx : LvK230HidCtx) (event : KeyEvent)
    : (event.value = keyReleased ∧ ∃ old, ctx.translatedKeys event.code = some old
          ∧ eventKey ctx event = (some old,
            { ctx with translatedKeys := Function.update ctx.translatedKeys event.code none }))
        ∨ (event.value ≠ keyReleased ∧ event.code < lvK230HidTranslatedKeys
          ∧ eventKey ctx event = (lvK230HidTranslateKeycode ctx event.code,
            { ctx with
              translatedKeys := Function.update ctx.translatedKeys event.code
                (lvK230HidTranslateKeycode ctx event.code) }))
        ∨ ((event.value = keyReleased ∧ (event.code < lvK230HidTranslatedKeys →
              ctx.translatedKeys event.code = none)
            ∨ lvK230HidTranslatedKeys ≤ event.code)
          ∧ eventKey ctx event = (lvK230HidTranslateKeycode ctx event.code, ctx)) := by
  unfold eventKey
  by_cases hvalue : event.value = keyReleased
  . by_cases hknown : event.code < lvK230HidTranslatedKeys ∧ ctx.translatedKeys event.code ≠ none
    . left
      rw [if_pos ⟨hvalue, hknown⟩]
      have ⟨old, hold⟩ := Option.ne_none_iff_exists'.mp hknown.2
      exact ⟨hvalue, old, hold, by rw [hold]⟩
    . right
      right
      rw [if_neg (fun h => hknown h.2)]
      simp only [hvalue, ne_eq, not_true_eq_false, false_and, if_false, and_true]
      left
      refine ⟨trivial, ?_⟩
      intro hlt
      by_contra hne
      exact hknown ⟨hlt, hne⟩
  . right
    rw [if_neg (fun h => hvalue h.1)]
    by_cases hlt : event.code < lvK230HidTranslatedKeys
    . left
      exact ⟨hvalue, hlt, if_pos ⟨hvalue, hlt⟩⟩
    . right
      exact ⟨.inr (Nat.le_of_not_lt hlt), if_neg (fun h => hlt h.2)⟩

/-
A change of what is remembered of the keys only.
-/
structure SameQueue (ctx ctx' : LvK230HidCtx) : Prop where
  events : ctx'.keyEvents = ctx.keyEvents
  key : ctx'.activeKey = ctx.activeKey
  state : ctx'.activeKeyState = ctx.activeKeyState

theorem Paired.queued {ctx ctx' : LvK230HidCtx} {events events' : List (Nat × Bool)}
    {reports : List (HidKey × LvIndevState)} (h : Paired ctx events reports)
    (hsame : SameQueue ctx ctx') {key : HidKey} {state : LvIndevState}
    (hdrop : ¬(lvK230HidKeyQueueSize ≤ ctx.keyEvents.length
      ∧ ctx.keyEvents.head?.map Prod.snd = some .released))
    (hpressed : state = .pressed → ∃ code, ctx'.translatedKeys code = some key)
    (hsources : ∀ k, k ≠ key → (∃ code, ctx.translatedKeys code = some k) →
      ∃ code, ctx'.translatedKeys code = some k)
    (hheld : ∀ code, ctx'.translatedKeys code ≠ none → latest events' code = some true)
    (hnone : ∀ code, lvK230HidIsShiftKey code = true ∨ lvK230HidTranslatedKeys ≤ code →
      ctx'.translatedKeys code = none)
    : Paired (lvK230HidEnqueueKeyEvent ctx' key state) events' reports := by
  constructor
  . intro k hk
    rw [← hsame.events] at hdrop
    cases enqueue_pressed hdrop hk with
    | inl hnew =>
      rw [← hnew.1]
      exact hpressed hnew.2
    | inr hold =>
      have hsource := h.sources k (hsame.events ▸ hold.2)
      exact hsources k (Ne.symm hold.1) hsource
  . exact hheld
  . exact hnone
  . intro k hk
    have hactive := h.active k (hsame.key ▸ hk)
    rw [hactive, ← hsame.state]
    rfl

theorem Paired.kept {ctx ctx' : LvK230HidCtx} {events : List (Nat × Bool)}
    {reports : List (HidKey × LvIndevState)} (h : Paired ctx events reports)
    (hsame : SameQueue ctx ctx')
    (hkeys : ∀ code, ctx'.translatedKeys code = ctx.translatedKeys code) {entry : Nat × Bool}
    (hentry : ctx.translatedKeys entry.1 ≠ none → entry.2 = true)
    : Paired ctx' (events ++ [entry]) reports := by
  constructor
  . intro k hk
    obtain ⟨code, hcode⟩ := h.sources k (hsame.events ▸ hk)
    exact ⟨code, (hkeys code).trans hcode⟩
  . intro code hcode
    rw [hkeys] at hcode
    by_cases heq : entry.1 = code
    . rw [latest_snoc, if_pos heq, hentry (heq ▸ hcode)]
    . rw [latest_snoc_of_ne _ _ heq]
      exact h.held code hcode
  . intro code hcode
    rw [hkeys]
    exact h.none_of code hcode
  . intro k hk
    rw [h.active k (hsame.key ▸ hk), hsame.state]

section

variable {ctx : LvK230HidCtx} {events : List (Nat × Bool)} {reports : List (HidKey × LvIndevState)}

/-
A key that has been translated to `old` is released.
-/
theorem Paired.released (h : Paired ctx events reports) {code : Nat} {old : HidKey}
    (hold : ctx.translatedKeys code = some old)
    (hroom : ¬(lvK230HidKeyQueueSize ≤ ctx.keyEvents.length
      ∧ ctx.keyEvents.head?.map Prod.snd = some .released))
    : Paired
        (lvK230HidEnqueueKeyEvent
          { ctx with translatedKeys := Function.update ctx.translatedKeys code none } old .released)
        (events ++ [(code, false)]) reports := by
  apply h.queued
  . exact ⟨rfl, rfl, rfl⟩
  . exact hroom
  . intro hstate
    cases hstate
  . intro k hk hsource
    obtain ⟨other, hother⟩ := hsource
    refine ⟨other, ?_⟩
    have hne : other ≠ code := by
      intro hsame
      rw [hsame, hold, Option.some.injEq] at hother
      exact hk hother.symm
    exact (Function.update_of_ne hne ..).trans hother
  . intro other hheld
    have hne : other ≠ code := by
      intro hsame
      apply hheld
      rw [hsame]
      apply Function.update_self
    apply (latest_snoc_of_ne _ _ (Ne.symm hne)).trans
    apply h.held
    intro hnull
    exact hheld ((Function.update_of_ne hne ..).trans hnull)
  . intro other hnone
    by_cases hsame : other = code
    . rw [hsame]
      apply Function.update_self
    . exact (Function.update_of_ne hsame ..).trans (h.none_of other hnone)

/-
A key goes down that stands for `key`, or is down and still stands for it.
-/
theorem Paired.pressed (h : Paired ctx events reports) {code : Nat} {key : HidKey}
    (hsame : ctx.translatedKeys code ≠ none → ctx.translatedKeys code = some key)
    (hroom : ¬(lvK230HidKeyQueueSize ≤ ctx.keyEvents.length
      ∧ ctx.keyEvents.head?.map Prod.snd = some .released))
    (hshift : ¬lvK230HidIsShiftKey code = true) (hlt : code < lvK230HidTranslatedKeys)
    : Paired
        (lvK230HidEnqueueKeyEvent
          { ctx with translatedKeys := Function.update ctx.translatedKeys code (some key) } key .pressed)
        (events ++ [(code, true)]) reports := by
  apply h.queued
  . exact ⟨rfl, rfl, rfl⟩
  . exact hroom
  . intro _
    exact ⟨code, Function.update_self ..⟩
  . intro k _ hsource
    obtain ⟨other, hother⟩ := hsource
    refine ⟨other, ?_⟩
    by_cases heq : other = code
    . rw [heq] at hother
      have hkey := hsame (by simp [hother])
      rw [heq, ← hother, hkey]
      apply Function.update_self
    . exact (Function.update_of_ne heq ..).trans hother
  . intro other hheld
    by_cases heq : code = other
    . rw [latest_snoc, if_pos heq]
    . rw [latest_snoc_of_ne _ _ heq]
      apply h.held
      intro hnull
      exact hheld ((Function.update_of_ne (Ne.symm heq) ..).trans hnull)
  . intro other hnone
    have hne : other ≠ code := by
      rintro rfl
      cases hnone with
      | inl hmodifier => exact hshift hmodifier
      | inr hle => omega
    exact (Function.update_of_ne hne ..).trans (h.none_of other hnone)

/-
The release of a key that has no translation is queued by what it stands for now.
-/
theorem Paired.unknown (h : Paired ctx events reports) {code : Nat}
    (hnone : ctx.translatedKeys code = none) (key : HidKey)
    (hroom : ¬(lvK230HidKeyQueueSize ≤ ctx.keyEvents.length
      ∧ ctx.keyEvents.head?.map Prod.snd = some .released))
    : Paired (lvK230HidEnqueueKeyEvent ctx key .released) (events ++ [(code, false)]) reports := by
  apply h.queued
  . exact ⟨rfl, rfl, rfl⟩
  . exact hroom
  . intro hstate
    cases hstate
  . intro k _ hsource
    exact hsource
  . intro other hheld
    have hne : code ≠ other := by
      rintro rfl
      exact hheld hnone
    rw [latest_snoc_of_ne _ _ hne]
    exact h.held other hheld
  . exact h.none_of

/-
A modifier has no translation, and its event queues nothing.
-/
theorem Paired.modifier (h : Paired ctx events reports) {event : KeyEvent}
    (hkind : lvK230HidIsShiftKey event.code = true ∨ (event.code = keyCapsLock ∧ event.value = keyPressed))
    : Paired (collectKeyEvent ctx event) (events ++ [event.entry]) reports := by
  unfold collectKeyEvent
  by_cases hshift : lvK230HidIsShiftKey event.code = true
  . -- A shift key has no translation that could be held.
    have hnone := h.none_of event.code (.inl hshift)
    rw [if_pos hshift]
    have hentry : ctx.translatedKeys event.entry.1 ≠ none → event.entry.2 = true :=
      fun hne => absurd hnone hne
    split
    . refine h.kept ?_ ?_ hentry
      . exact ⟨rfl, rfl, rfl⟩
      . intro code
        rfl
    . refine h.kept ?_ ?_ hentry
      . exact ⟨rfl, rfl, rfl⟩
      . intro code
        rfl
  . have hcaps := hkind.resolve_left hshift
    have hpressed : event.value ≠ keyReleased := by
      rw [hcaps.2]
      decide
    rw [if_neg hshift, if_pos hcaps]
    refine h.kept ?_ ?_ ?_
    . exact ⟨rfl, rfl, rfl⟩
    . intro code
      rfl
    . intro _
      exact decide_eq_true hpressed

theorem collectKeyEvent_of_not_modifier {event : KeyEvent}
    (hkind : ¬(lvK230HidIsShiftKey event.code = true
      ∨ (event.code = keyCapsLock ∧ event.value = keyPressed)))
    : collectKeyEvent ctx event =
        match (eventKey ctx event).1 with
        | none => (eventKey ctx event).2
        | some key =>
          lvK230HidEnqueueKeyEvent (eventKey ctx event).2 key
            (if event.value = keyReleased then .released else .pressed) := by
  rw [not_or] at hkind
  unfold collectKeyEvent
  exact (if_neg hkind.1).trans (if_neg hkind.2)

/-
A key that goes down, or is down and translated as before.
-/
theorem Paired.down (h : Paired ctx events reports) {event : KeyEvent}
    (hkind : ¬(lvK230HidIsShiftKey event.code = true
      ∨ (event.code = keyCapsLock ∧ event.value = keyPressed)))
    (hanew : ¬TranslatesAnew ctx event)
    (hroom : ∀ key, (eventKey ctx event).1 = some key → ¬(lvK230HidKeyQueueSize ≤ ctx.keyEvents.length
      ∧ ctx.keyEvents.head?.map Prod.snd = some .released))
    (hvalue : event.value ≠ keyReleased) (hlt : event.code < lvK230HidTranslatedKeys)
    (heq : eventKey ctx event = (lvK230HidTranslateKeycode ctx event.code,
      { ctx with
        translatedKeys := Function.update ctx.translatedKeys event.code
          (lvK230HidTranslateKeycode ctx event.code) }))
    : Paired (collectKeyEvent ctx event) (events ++ [event.entry]) reports := by
  have hsame : ctx.translatedKeys event.code ≠ none →
      lvK230HidTranslateKeycode ctx event.code = ctx.translatedKeys event.code := by
    intro hne
    by_contra hdiffers
    exact hanew ⟨hvalue, hkind, hne, hdiffers⟩
  have hentry : event.entry = (event.code, true) := by
    simp [KeyEvent.entry, hvalue]
  rw [collectKeyEvent_of_not_modifier hkind, heq, hentry]
  cases hkey : lvK230HidTranslateKeycode ctx event.code with
  | none =>
    have hold : ctx.translatedKeys event.code = none := by
      by_contra hne
      rw [← hsame hne] at hne
      exact hne hkey
    apply h.kept
    . exact ⟨rfl, rfl, rfl⟩
    . intro code
      by_cases hcode : code = event.code
      . rw [hcode, hold]
        apply Function.update_self
      . exact Function.update_of_ne hcode ..
    . intro _
      rfl
  | some key =>
    have hfree := hroom key (by rw [heq, hkey])
    have hkept : ctx.translatedKeys event.code ≠ none → ctx.translatedKeys event.code = some key := by
      intro hne
      rw [← hsame hne, hkey]
    simp only [hvalue, if_false]
    exact h.pressed hkept hfree (fun hshift => hkind (.inl hshift)) hlt

/-
An event that leaves the translated keys alone, with nothing translated for its key.
-/
theorem Paired.untranslated (h : Paired ctx events reports) {event : KeyEvent}
    (hkind : ¬(lvK230HidIsShiftKey event.code = true
      ∨ (event.code = keyCapsLock ∧ event.value = keyPressed)))
    (hroom : ∀ key, (eventKey ctx event).1 = some key → ¬(lvK230HidKeyQueueSize ≤ ctx.keyEvents.length
      ∧ ctx.keyEvents.head?.map Prod.snd = some .released))
    (hother : (event.value = keyReleased ∧ (event.code < lvK230HidTranslatedKeys →
        ctx.translatedKeys event.code = none))
      ∨ lvK230HidTranslatedKeys ≤ event.code)
    (heq : eventKey ctx event = (lvK230HidTranslateKeycode ctx event.code, ctx))
    : Paired (collectKeyEvent ctx event) (events ++ [event.entry]) reports := by
  have hnone : ctx.translatedKeys event.code = none := by
    by_cases hlt : event.code < lvK230HidTranslatedKeys
    . rcases hother with hother | hother
      . exact hother.2 hlt
      . omega
    . exact h.none_of event.code (.inr (Nat.le_of_not_lt hlt))
  rw [collectKeyEvent_of_not_modifier hkind, heq]
  cases hkey : lvK230HidTranslateKeycode ctx event.code with
  | none =>
    refine h.kept ?_ ?_ ?_
    . exact ⟨rfl, rfl, rfl⟩
    . intro code
      rfl
    . intro hne
      exact absurd hnone hne
  | some key =>
    have hvalue : event.value = keyReleased := by
      rcases hother with hother | hother
      . exact hother.1
      . rw [translateKeycode_beyond ctx hother] at hkey
        cases hkey
    have hentry : event.entry = (event.code, false) := by
      simp [KeyEvent.entry, hvalue]
    have hfree := hroom key (by rw [heq, hkey])
    rw [hentry]
    simp only [hvalue, if_true]
    exact h.unknown hnone key hfree

/-
An event that is not translated anew and drops no release keeps everything paired.
-/
theorem collectKeyEvent_paired (h : Paired ctx events reports) {event : KeyEvent}
    (hanew : ¬TranslatesAnew ctx event) (hdrops : ¬DropsRelease ctx event)
    : Paired (collectKeyEvent ctx event) (events ++ [event.entry]) reports := by
  by_cases hkind : lvK230HidIsShiftKey event.code = true
      ∨ (event.code = keyCapsLock ∧ event.value = keyPressed)
  . exact h.modifier hkind
  have hroom : ∀ key, (eventKey ctx event).1 = some key → ¬(lvK230HidKeyQueueSize ≤ ctx.keyEvents.length
      ∧ ctx.keyEvents.head?.map Prod.snd = some .released) := by
    intro key hkey hfull
    apply hdrops
    refine ⟨?_, hfull⟩
    simp [queuedKey, hkind, hkey]
  rcases eventKey_cases ctx event with ⟨hvalue, old, hold, heq⟩ | ⟨hvalue, hlt, heq⟩ | ⟨hother, heq⟩
  . have hentry : event.entry = (event.code, false) := by
      simp [KeyEvent.entry, hvalue]
    have hfree := hroom old (by rw [heq])
    rw [collectKeyEvent_of_not_modifier hkind, heq, hentry]
    simp only [hvalue, if_true]
    exact h.released hold hfree
  . exact h.down hkind hanew hroom hvalue hlt heq
  . exact h.untranslated hkind hroom hother heq

end

theorem foldl_collectKeyEvent_paired {collected : List KeyEvent} {ctx : LvK230HidCtx}
    {events : List (Nat × Bool)} {reports : List (HidKey × LvIndevState)} (h : Paired ctx events reports)
    (hclean : ¬SomeUnpairs ctx collected)
    : Paired (collected.foldl collectKeyEvent ctx) (events ++ collected.map (·.entry)) reports := by
  induction collected generalizing ctx events with
  | nil => simpa using h
  | cons event collected ih =>
    rw [SomeUnpairs, not_or, not_or] at hclean
    have hnext := collectKeyEvent_paired h hclean.1.1 hclean.1.2
    have hrest := ih hnext hclean.2
    rw [List.append_assoc] at hrest
    exact hrest

theorem lvK230HidCollectKeyEvents_eq (reads : Nat) (frames : List (List KeyEvent)) (ctx : LvK230HidCtx)
    : lvK230HidCollectKeyEvents reads frames ctx
        = (framesCollected reads frames ctx).foldl collectKeyEvent ctx := by
  induction reads generalizing frames ctx with
  | zero => rfl
  | succ reads ih =>
    cases frames with
    | nil => rfl
    | cons frame frames =>
      simp only [lvK230HidCollectKeyEvents, framesCollected]
      split
      . rw [List.foldl_append, ih]
      . rfl

/-
The callback first collects, and then reports the oldest event, or once more what it has reported last.
-/
theorem lvK230HidKeypadReadCb_eq (frames : List (List KeyEvent)) (ctx : LvK230HidCtx)
    : lvK230HidKeypadReadCb frames ctx
        = let collected := (eventsCollected frames ctx).foldl collectKeyEvent ctx
          match collected.keyEvents with
          | [] => (⟨collected.activeKey, collected.activeKeyState, false⟩, collected)
          | (key, state) :: keyEvents =>
            (⟨some key, state, keyEvents ≠ []⟩,
              { collected with keyEvents := keyEvents, activeKey := some key, activeKeyState := state }) := by
  unfold lvK230HidKeypadReadCb eventsCollected
  split
  . rewrite [lvK230HidCollectKeyEvents_eq]
    rfl
  . rfl

theorem hidMachine_paired {s : HidLog} (h : Paired s.ctx s.events s.reports) {frames : List (List KeyEvent)}
    (hclean : ¬Unpairs (hidMachine.visit s frames))
    : let next := (hidMachine.step s frames).1
      Paired next.ctx next.events next.reports := by
  have hcollected := foldl_collectKeyEvent_paired h hclean
  simp only [Machine.visit_pre, Machine.visit_event] at hcollected
  simp only [hidMachine, lvK230HidKeypadReadCb_eq]
  generalize hctx : (eventsCollected frames s.ctx).foldl collectKeyEvent s.ctx = ctx at hcollected ⊢
  cases hevents : ctx.keyEvents with
  | nil =>
    -- What was reported last is reported once more.
    have hsame : ∀ k, latest (s.reports ++ LvIndevData.entry ⟨ctx.activeKey, ctx.activeKeyState, false⟩) k
        = latest s.reports k := by
      intro k
      cases hkey : ctx.activeKey with
      | none => simp [LvIndevData.entry]
      | some key => exact latest_snoc_same (hcollected.active key hkey) k
    constructor
    . intro k hk
      simp only [hevents, List.append_nil] at hk
      rw [hsame] at hk
      apply hcollected.sources
      simpa [hevents] using hk
    . exact hcollected.held
    . exact hcollected.none_of
    . intro k hk
      rw [hsame]
      exact hcollected.active k hk
  | cons oldest keyEvents =>
    obtain ⟨key, state⟩ := oldest
    constructor
    . -- the oldest event goes from the queue to the reports, and their order stays
      intro k hk
      apply hcollected.sources
      rw [hevents]
      simpa [LvIndevData.entry] using hk
    . exact hcollected.held
    . exact hcollected.none_of
    . intro k hk
      simp only [Option.some.injEq] at hk
      simp [LvIndevData.entry, latest_append, latest_cons, hk]

/--
In a run in which no key is translated anew while it is held and no release is dropped: when the queue is empty,
each key value that has been reported as pressed has been reported as released since, unless a key is down that
was translated to it.
-/
theorem hidMachine_releases {calls : List (List (List KeyEvent))}
    (hclean : ∀ v ∈ hidMachine.visits .init calls, ¬Unpairs v)
    : let s := hidMachine.final .init calls
      s.ctx.keyEvents = [] → ∀ key, (key, LvIndevState.pressed) ∈ s.reports →
        latest s.reports key = some .released
          ∨ ∃ code, latest s.events code = some true ∧ s.ctx.translatedKeys code = some key := by
  have hinit : Paired HidLog.init.ctx HidLog.init.events HidLog.init.reports := by
    constructor
    . intro k hk
      cases hk
    . intro code hne
      exact absurd rfl hne
    . intro code _
      rfl
    . intro k hk
      cases hk
  intro s hqueue key hmem
  have h := Machine.final_inv (fun s : HidLog => Paired s.ctx s.events s.reports)
    (fun _ _ h hclean => hidMachine_paired h hclean) hinit hclean
  cases hlatest : latest s.reports key with
  | none =>
    have hsome := latest_isSome_of_mem hmem
    rw [hlatest] at hsome
    cases hsome
  | some state =>
    cases state with
    | released => exact .inl rfl
    | pressed =>
      right
      obtain ⟨code, hcode⟩ := h.sources key (by
        rw [hqueue, List.append_nil]
        exact hlatest)
      exact ⟨code, h.held code (by rw [hcode]; simp), hcode⟩

/-
A key is pressed, repeats and is released.
-/
theorem hidMachine_releases_repeated
    : let s := hidMachine.final .init [[[⟨keyA, 1⟩], [⟨keyA, 2⟩], [⟨keyA, 0⟩]], [], []]
      latest s.reports (.char 'a') = some .released
        ∨ ∃ code, latest s.events code = some true ∧ s.ctx.translatedKeys code = some (.char 'a') :=
  hidMachine_releases (by decide +kernel) (by decide +kernel) (.char 'a') (by decide +kernel)

/-
A key goes down, shift goes down, the key repeats, and both are released.
-/
def repeatUnderShift : List (List (List KeyEvent)) :=
  [[[⟨keyA, 1⟩], [⟨keyLeftShift, 1⟩], [⟨keyA, 2⟩], [⟨keyA, 0⟩], [⟨keyLeftShift, 0⟩]], [], []]

/-
The lower case letter is never reported as released, though no key is down and nothing is queued any more.
-/
theorem hidMachine_holds_key
    : ¬∀ calls : List (List (List KeyEvent)),
        let s := hidMachine.final .init calls
        s.ctx.keyEvents = [] → ∀ key, (key, LvIndevState.pressed) ∈ s.reports →
          latest s.reports key = some .released
            ∨ ∃ code, latest s.events code = some true ∧ s.ctx.translatedKeys code = some key := by
  intro h
  have hevents : (hidMachine.final .init repeatUnderShift).events
      = [(keyA, true), (keyLeftShift, true), (keyA, true), (keyA, false), (keyLeftShift, false)] := by
    decide +kernel
  have hreports : latest (hidMachine.final .init repeatUnderShift).reports (.char 'a') = some .pressed := by
    decide +kernel
  cases h repeatUnderShift (by decide +kernel) (.char 'a') (by decide +kernel) with
  | inl hreleased =>
    rw [hreports] at hreleased
    cases hreleased
  | inr hheld =>
    obtain ⟨code, hdown, _⟩ := hheld
    rw [hevents] at hdown
    simp only [latest_cons, latest_nil, Option.none_or] at hdown
    by_cases hshift : keyLeftShift = code
    . simp [hshift] at hdown
    . by_cases ha : keyA = code
      . simp [hshift, ha] at hdown
      . simp [hshift, ha] at hdown

end Lvgl

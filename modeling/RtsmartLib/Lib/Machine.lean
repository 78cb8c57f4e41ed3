import Mathlib.Data.List.Induction
import Mathlib.Data.List.Basic

/-!
This module contains deterministic machines whose events carry every choice of the environment,
the steps that a run visits, and the rules that lift a fact about one step to all steps of a run.
-/

namespace Lib

/--
A machine over states `σ`, events `ε` and observations `ω`. What the environment decides is part of
the event, so that quantifying over event lists quantifies over all behaviours.
-/
structure Machine (σ ε ω : Type) where
  step : σ → ε → σ × ω

namespace Machine

structure Visit (σ ε ω : Type) where
  pre : σ
  event : ε
  post : σ
  obs : ω

variable {σ ε ω : Type}

def visit (m : Machine σ ε ω) (s : σ) (e : ε) : Visit σ ε ω :=
  ⟨s, e, (m.step s e).1, (m.step s e).2⟩

def visits (m : Machine σ ε ω) (s : σ) (es : List ε) : List (Visit σ ε ω) :=
  match es with
  | [] => []
  | e :: es => m.visit s e :: m.visits (m.step s e).1 es

def final (m : Machine σ ε ω) (s : σ) (es : List ε) : σ :=
  match es with
  | [] => s
  | e :: es => m.final (m.step s e).1 es

@[simp]
theorem visits_nil (m : Machine σ ε ω) (s : σ) : m.visits s [] = [] := rfl

@[simp]
theorem visits_cons (m : Machine σ ε ω) (s : σ) (e : ε) (es : List ε)
    : m.visits s (e :: es) = m.visit s e :: m.visits (m.step s e).1 es := rfl

@[simp]
theorem final_nil (m : Machine σ ε ω) (s : σ) : m.final s [] = s := rfl

@[simp]
theorem final_cons (m : Machine σ ε ω) (s : σ) (e : ε) (es : List ε)
    : m.final s (e :: es) = m.final (m.step s e).1 es := rfl

theorem final_append (m : Machine σ ε ω) (s : σ) (es es' : List ε)
    : m.final s (es ++ es') = m.final (m.final s es) es' := by
  induction es generalizing s with
  | nil => rfl
  | cons e es ih => apply ih

theorem visits_append (m : Machine σ ε ω) (s : σ) (es es' : List ε)
    : m.visits s (es ++ es') = m.visits s es ++ m.visits (m.final s es) es' := by
  induction es generalizing s with
  | nil => rfl
  | cons e es ih =>
    rw [List.cons_append, visits_cons, visits_cons, final_cons]
    rw [ih]
    rfl

@[simp]
theorem visit_pre (m : Machine σ ε ω) (s : σ) (e : ε) : (m.visit s e).pre = s := rfl

@[simp]
theorem visit_event (m : Machine σ ε ω) (s : σ) (e : ε) : (m.visit s e).event = e := rfl

@[simp]
theorem visit_post (m : Machine σ ε ω) (s : σ) (e : ε) : (m.visit s e).post = (m.step s e).1 := rfl

@[simp]
theorem visit_obs (m : Machine σ ε ω) (s : σ) (e : ε) : (m.visit s e).obs = (m.step s e).2 := rfl

theorem eq_visit_of_mem {m : Machine σ ε ω} {s : σ} {es : List ε} {v : Visit σ ε ω}
    (hv : v ∈ m.visits s es)
    : v = m.visit v.pre v.event := by
  induction es generalizing s with
  | nil => simp at hv
  | cons e es ih =>
    simp only [visits_cons, List.mem_cons] at hv
    cases hv with
    | inl h => simp [h]
    | inr h => exact ih h

theorem visit_final_mem (m : Machine σ ε ω) (s : σ) (es : List ε) (e : ε)
    : m.visit (m.final s es) e ∈ m.visits s (es ++ [e]) := by
  induction es generalizing s with
  | nil => apply List.mem_cons_self
  | cons e' es ih =>
    apply List.mem_cons_of_mem
    apply ih

theorem visits_inv {m : Machine σ ε ω} {Inv : σ → Prop}
    (hstep : ∀ s e, Inv s → Inv (m.step s e).1) {s : σ} (hs : Inv s) (es : List ε)
    : ∀ v ∈ m.visits s es, Inv v.pre := by
  induction es generalizing s with
  | nil => simp
  | cons e es ih =>
    intro v hv
    simp only [visits_cons, List.mem_cons] at hv
    cases hv with
    | inl h => simpa [h] using hs
    | inr h => exact ih (hstep s e hs) v h

theorem forall_visits_of_inv {m : Machine σ ε ω} (Inv : σ → Prop) (Allowed : ε → Prop)
    {Good : Visit σ ε ω → Prop}
    (hstep : ∀ s e, Allowed e → Inv s → Inv (m.step s e).1)
    (hgood : ∀ s e, Allowed e → Inv s → Good (m.visit s e))
    {s : σ} (hs : Inv s) {es : List ε} (hes : ∀ e ∈ es, Allowed e)
    : ∀ v ∈ m.visits s es, Good v := by
  induction es generalizing s with
  | nil => simp
  | cons e es ih =>
    simp only [List.forall_mem_cons] at hes
    simp only [visits_cons, List.forall_mem_cons]
    constructor
    . exact hgood s e hes.1 hs
    . exact ih (hstep s e hes.1 hs) hes.2

/--
What every step that is not `Bad` preserves holds after a run in which no step is.
-/
theorem final_inv {m : Machine σ ε ω} (Inv : σ → Prop) {Bad : Visit σ ε ω → Prop}
    (hstep : ∀ s e, Inv s → ¬Bad (m.visit s e) → Inv (m.step s e).1) {s : σ} (hs : Inv s) {es : List ε}
    (hes : ∀ v ∈ m.visits s es, ¬Bad v)
    : Inv (m.final s es) := by
  induction es generalizing s with
  | nil => exact hs
  | cons e es ih =>
    simp only [visits_cons, List.forall_mem_cons] at hes
    apply ih
    . apply hstep s e hs hes.1
    . exact hes.2

/--
A run in which no step is `Bad` is good throughout, where such steps preserve an invariant and are `Good` from a state
that satisfies it.
-/
theorem forall_visits_of_clean {m : Machine σ ε ω} (Inv : σ → Prop) {Good Bad : Visit σ ε ω → Prop}
    (hstep : ∀ s e, Inv s → ¬Bad (m.visit s e) → Inv (m.step s e).1)
    (hgood : ∀ s e, Inv s → ¬Bad (m.visit s e) → Good (m.visit s e))
    {s : σ} (hs : Inv s) {es : List ε} (hes : ∀ v ∈ m.visits s es, ¬Bad v)
    : ∀ v ∈ m.visits s es, Good v := by
  induction es generalizing s with
  | nil => simp
  | cons e es ih =>
    simp only [visits_cons, List.forall_mem_cons] at hes ⊢
    constructor
    . exact hgood s e hs hes.1
    . exact ih (hstep s e hs hes.1) hes.2

/--
Where an invariant is preserved by every step that is not `Bad`, and from a state that satisfies it
a step is `Good` exactly if it is not `Bad`, a run is good throughout exactly if no step of it is
bad.
-/
theorem forall_visits_iff {m : Machine σ ε ω} (Inv : σ → Prop) {Good Bad : Visit σ ε ω → Prop}
    (hstep : ∀ s e, Inv s → ¬Bad (m.visit s e) → Inv (m.step s e).1)
    (hgood : ∀ s e, Inv s → (Good (m.visit s e) ↔ ¬Bad (m.visit s e)))
    {s : σ} (hs : Inv s) (es : List ε)
    : (∀ v ∈ m.visits s es, Good v) ↔ (∀ v ∈ m.visits s es, ¬Bad v) := by
  induction es generalizing s with
  | nil => simp
  | cons e es ih =>
    simp only [visits_cons, List.forall_mem_cons]
    rw [hgood s e hs]
    constructor
    . intro ⟨hbad, hrest⟩
      exact ⟨hbad, (ih (hstep s e hs hbad)).mp hrest⟩
    . intro ⟨hbad, hrest⟩
      exact ⟨hbad, (ih (hstep s e hs hbad)).mpr hrest⟩

/--
The same where what is bad about a step depends on the steps before it: the invariant relates them to the state.
-/
theorem forall_visits_iff_past {m : Machine σ ε ω} (Inv : List (Visit σ ε ω) → σ → Prop)
    {Good : Visit σ ε ω → Prop} {Bad : List (Visit σ ε ω) → Visit σ ε ω → Prop}
    (hstep : ∀ past s e, Inv past s → ¬Bad past (m.visit s e) → Inv (past ++ [m.visit s e]) (m.step s e).1)
    (hgood : ∀ past s e, Inv past s → (Good (m.visit s e) ↔ ¬Bad past (m.visit s e)))
    {past : List (Visit σ ε ω)} {s : σ} (hs : Inv past s) (es : List ε)
    : (∀ v ∈ m.visits s es, Good v)
        ↔ ∀ before v after, m.visits s es = before ++ v :: after → ¬Bad (past ++ before) v := by
  induction es generalizing past s with
  | nil => simp
  | cons e es ih =>
    simp only [visits_cons, List.forall_mem_cons]
    rw [hgood past s e hs]
    constructor
    . intro ⟨hbad, hrest⟩ before v after hsplit
      cases before with
      | nil =>
        cases hsplit
        rw [List.append_nil]
        exact hbad
      | cons first before =>
        rw [List.cons_append, List.cons.injEq] at hsplit
        obtain ⟨rfl, hsplit⟩ := hsplit
        have h := (ih (hstep past s e hs hbad)).mp hrest before v after hsplit
        rw [List.append_assoc, List.singleton_append] at h
        exact h
    . intro h
      have hbad := h [] _ _ rfl
      rw [List.append_nil] at hbad
      constructor
      . exact hbad
      . apply (ih (hstep past s e hs hbad)).mpr
        intro before v after hsplit
        rw [List.append_assoc, List.singleton_append]
        apply h (m.visit s e :: before) v after
        rw [hsplit]
        rfl

/--
Where a state has been reached that a run did not start in, it has been entered by some step and not left since.
-/
theorem exists_entry {m : Machine σ ε ω} {P : σ → Prop} {s : σ} (hs : ¬P s) {es : List ε} (h : P (m.final s es))
    : ∃ before e after, es = before ++ e :: after ∧ ¬P (m.final s before)
      ∧ ∀ part, part <+: after → P (m.final s (before ++ e :: part)) := by
  induction es using List.reverseRecOn with
  | nil => contradiction
  | append_singleton es e ih =>
    by_cases hbefore : P (m.final s es)
    . obtain ⟨before, e', after, hes, hnot, hstays⟩ := ih hbefore
      refine ⟨before, e', after ++ [e], by rw [hes]; simp, hnot, ?_⟩
      intro part hpart
      rw [List.prefix_concat_iff] at hpart
      cases hpart with
      | inl heq =>
        rw [heq, ← List.cons_append, ← List.append_assoc, ← hes]
        exact h
      | inr hprefix => exact hstays part hprefix
    . refine ⟨es, e, [], rfl, hbefore, ?_⟩
      intro part hpart
      rw [List.prefix_nil.mp hpart]
      exact h

/--
What every step sets to the last of the values its event brings, if there is one, is at the end the last of the values
that all events bring.
-/
theorem final_last {α : Type} {m : Machine σ ε ω} (f : σ → α) (brings : ε → List α)
    (hstep : ∀ s e, f (m.step s e).1 = (brings e).getLast?.getD (f s)) (s : σ) (es : List ε)
    : f (m.final s es) = (es.flatMap brings).getLast?.getD (f s) := by
  induction es generalizing s with
  | nil => rfl
  | cons e es ih =>
    rw [final_cons, ih, hstep]
    rw [List.flatMap_cons, List.getLast?_append]
    cases (es.flatMap brings).getLast? with
    | none => rfl
    | some a => rfl

def observations (m : Machine σ ε ω) (s : σ) (es : List ε) : List ω :=
  (m.visits s es).map (·.obs)

/--
Where related states have equal observations and related successors, one machine does over a whole run
what the other one does. The relation may depend on how many steps there are still to come.
-/
theorem simulation {τ : Type} {m : Machine σ ε ω} {m' : Machine τ ε ω} (R : Nat → σ → τ → Prop)
    (hstep : ∀ n s t e, R (n + 1) s t →
      (m.step s e).2 = (m'.step t e).2 ∧ R n (m.step s e).1 (m'.step t e).1)
    {s : σ} {t : τ} {es : List ε} (h : R es.length s t)
    : m.observations s es = m'.observations t es ∧ R 0 (m.final s es) (m'.final t es) := by
  induction es generalizing s t with
  | nil => exact ⟨rfl, h⟩
  | cons e es ih =>
    obtain ⟨hobs, hnext⟩ := hstep es.length s t e h
    obtain ⟨hrest, hfinal⟩ := ih hnext
    constructor
    . simp only [observations, visits_cons, List.map_cons, visit_obs]
      rw [hobs]
      exact congrArg _ hrest
    . exact hfinal

end Machine
end Lib

import RtsmartLib.Lib.Machine

/-!
This module contains computations over a state that leave a trace of the steps they take, and the rules by
which the steps of a computation are good exactly if none of them is bad.
-/

namespace Lib
namespace Traced

structure Step (σ ε : Type) where
  pre : σ
  event : ε
  post : σ

/-
What a computation returns, the state it ends in and the steps that it has taken.
-/
structure Outcome (σ ε α : Type) where
  ret : α
  state : σ
  steps : List (Step σ ε)

end Traced

/--
A computation over states `σ`. Only what others can observe or come in between is a step, so that the
computation can change what is its own without one.
-/
def Traced (σ ε α : Type) : Type := σ → Traced.Outcome σ ε α

namespace Traced

variable {σ ε α β ρ : Type}

instance : Monad (Traced σ ε) where
  pure a := fun s => ⟨a, s, []⟩
  bind c f := fun s =>
    let res := c s
    let next := f res.ret res.state
    ⟨next.ret, next.state, res.steps ++ next.steps⟩

def read : Traced σ ε σ := fun s => ⟨s, s, []⟩

def change (f : σ → σ) : Traced σ ε Unit := fun s => ⟨(), f s, []⟩

def step (event : ε) (f : σ → α × σ) : Traced σ ε α :=
  fun s => ⟨(f s).1, (f s).2, [⟨s, event, (f s).2⟩]⟩

def each (c : ρ → Traced σ ε Unit) (l : List ρ) : Traced σ ε Unit :=
  match l with
  | [] => pure ()
  | a :: l => do
    c a
    each c l

/--
From `s` all steps of the computation are good exactly if none is bad, and if none is, it ends with
`post`.
-/
def Sound (Good Bad : Step σ ε → Prop) (c : Traced σ ε α) (s : σ) (post : α → σ → Prop) : Prop :=
  ((∀ st ∈ (c s).steps, Good st) ↔ ∀ st ∈ (c s).steps, ¬Bad st)
    ∧ ((∀ st ∈ (c s).steps, ¬Bad st) → post (c s).ret (c s).state)

section

variable {Good Bad : Step σ ε → Prop} {s : σ}

theorem Sound.pure {post : α → σ → Prop} {a : α} (h : post a s)
    : Sound Good Bad (Pure.pure a : Traced σ ε α) s post := by
  constructor
  . constructor
    . intro _ st hst
      cases hst
    . intro _ st hst
      cases hst
  . intro _
    exact h

theorem Sound.bind {c : Traced σ ε α} {f : α → Traced σ ε β} {mid : α → σ → Prop}
    {post : β → σ → Prop} (hc : Sound Good Bad c s mid)
    (hf : ∀ a t, mid a t → Sound Good Bad (f a) t post)
    : Sound Good Bad (c >>= f) s post := by
  have hsteps : ((c >>= f) s).steps = (c s).steps ++ (f (c s).ret (c s).state).steps := rfl
  unfold Sound
  simp only [hsteps, List.forall_mem_append]
  by_cases hbad : ∀ st ∈ (c s).steps, ¬Bad st
  . have ⟨hiff, hpost⟩ := hf _ _ (hc.2 hbad)
    constructor
    . rw [hc.1, hiff]
    . intro ⟨_, hrest⟩
      exact hpost hrest
  . constructor
    . constructor
      . intro ⟨hgood, _⟩
        exact absurd (hc.1.mp hgood) hbad
      . intro ⟨hnone, _⟩
        exact absurd hnone hbad
    . intro ⟨hnone, _⟩
      exact absurd hnone hbad

theorem Sound.mono {c : Traced σ ε α} {post post' : α → σ → Prop} (h : Sound Good Bad c s post)
    (hpost : ∀ a t, post a t → post' a t)
    : Sound Good Bad c s post' := by
  constructor
  . exact h.1
  . intro hbad
    exact hpost _ _ (h.2 hbad)

theorem Sound.read {f : σ → Traced σ ε α} {post : α → σ → Prop} (h : Sound Good Bad (f s) s post)
    : Sound Good Bad (Traced.read >>= f) s post := h

theorem Sound.change {g : σ → σ} {f : Unit → Traced σ ε α} {post : α → σ → Prop}
    (h : Sound Good Bad (f ()) (g s) post)
    : Sound Good Bad (Traced.change g >>= f) s post := h

theorem Sound.step {event : ε} {f : σ → α × σ} {post : α → σ → Prop}
    (hiff : Good ⟨s, event, (f s).2⟩ ↔ ¬Bad ⟨s, event, (f s).2⟩)
    (hpost : ¬Bad ⟨s, event, (f s).2⟩ → post (f s).1 (f s).2)
    : Sound Good Bad (Traced.step event f) s post := by
  have hsteps : (Traced.step event f s).steps = [⟨s, event, (f s).2⟩] := rfl
  unfold Sound
  simp only [hsteps, List.forall_mem_singleton]
  exact ⟨hiff, hpost⟩

theorem Sound.each {c : ρ → Traced σ ε Unit} (Inv : σ → Prop)
    (hc : ∀ a t, Inv t → Sound Good Bad (c a) t fun _ => Inv) (hs : Inv s) (l : List ρ)
    : Sound Good Bad (Traced.each c l) s fun _ => Inv := by
  induction l generalizing s with
  | nil => exact Sound.pure hs
  | cons a l ih =>
    apply Sound.bind (hc a s hs)
    intro _ t ht
    exact ih ht

end

/-
Operations that are performed one after the other.
-/
def machine (perform : ρ → Traced σ ε α) : Machine σ ρ (α × List (Step σ ε)) :=
  ⟨fun s op => ((perform op s).state, (perform op s).ret, (perform op s).steps)⟩

/--
Where each operation is sound and keeps an invariant, in a run all steps of all operations are good
exactly if none of them is bad.
-/
theorem forall_steps_iff {perform : ρ → Traced σ ε α} {Good Bad : Step σ ε → Prop} (Inv : σ → Prop)
    (h : ∀ op s, Inv s → Sound Good Bad (perform op) s fun _ => Inv) {s : σ} (hs : Inv s)
    (ops : List ρ)
    : (∀ v ∈ (machine perform).visits s ops, ∀ st ∈ v.obs.2, Good st)
        ↔ ∀ v ∈ (machine perform).visits s ops, ∀ st ∈ v.obs.2, ¬Bad st := by
  have hnone : ∀ v : Machine.Visit σ ρ (α × List (Step σ ε)),
      (∀ st ∈ v.obs.2, ¬Bad st) ↔ ¬∃ st ∈ v.obs.2, Bad st := by
    intro v
    simp
  simp only [hnone]
  apply Machine.forall_visits_iff Inv
  . intro s op hinv hbad
    exact (h op s hinv).2 ((hnone _).mpr hbad)
  . intro s op hinv
    rw [← hnone]
    exact (h op s hinv).1
  . exact hs

end Traced
end Lib

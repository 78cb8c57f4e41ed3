import Mathlib.Data.List.Basic

/-!
This module contains computations that call what lies outside of them one call at a time, and what a
computation ensures while others change the shared state between its calls.
-/

namespace Lib

/--
A computation over calls `Op`, of which `op` is answered by an `Ans op`. It goes on with the answer of
its next call, or returns.
-/
inductive Calls (Op : Type) (Ans : Op → Type) (α : Type) where
  | ret (a : α)
  | call (op : Op) (next : Ans op → Calls Op Ans α)

/-
What answers the calls, and how it changes the shared state with each.
-/
abbrev Callee (Op : Type) (Ans : Op → Type) (σ : Type) :=
  (op : Op) → σ → Ans op × σ

namespace Calls

variable {Op : Type} {Ans : Op → Type} {α β σ : Type}

def map (f : α → β) (prog : Calls Op Ans α) : Calls Op Ans β :=
  match prog with
  | .ret a => .ret (f a)
  | .call op next => .call op fun ans => (next ans).map f

/-
The computation on its own: no call of anyone else comes between its calls.
-/
def run (callee : Callee Op Ans σ) (prog : Calls Op Ans α) (s : σ) : α × σ :=
  match prog with
  | .ret a => (a, s)
  | .call op next => (next (callee op s).1).run callee (callee op s).2

/-
The calls that the computation makes on its own.
-/
def trace (callee : Callee Op Ans σ) (prog : Calls Op Ans α) (s : σ) : List Op :=
  match prog with
  | .ret _ => []
  | .call op next => op :: (next (callee op s).1).trace callee (callee op s).2

/-
However its calls are answered, the computation makes only such calls.
-/
def Makes (allowed : Op → Prop) (prog : Calls Op Ans α) : Prop :=
  match prog with
  | .ret _ => True
  | .call op next => allowed op ∧ ∀ ans, (next ans).Makes allowed

/--
Started in `s`, the computation returns with `post` only. Before each of its calls and after its
return others may have changed the state as far as `other` lets them.
-/
def Ensures (callee : Callee Op Ans σ) (other : σ → σ → Prop) (post : α → σ → Prop)
    (prog : Calls Op Ans α) (s : σ) : Prop :=
  match prog with
  | .ret a => ∀ s', other s s' → post a s'
  | .call op next =>
    ∀ s', other s s' → (next (callee op s').1).Ensures callee other post (callee op s').2

theorem Makes.trace {callee : Callee Op Ans σ} {allowed : Op → Prop} {prog : Calls Op Ans α}
    (h : prog.Makes allowed) (s : σ)
    : ∀ op ∈ prog.trace callee s, allowed op := by
  induction prog generalizing s with
  | ret a =>
    intro op hop
    cases hop
  | call op next ih =>
    unfold Calls.trace
    rw [List.forall_mem_cons]
    constructor
    . apply h.1
    . apply ih
      apply h.2

section

variable {callee : Callee Op Ans σ} {other : σ → σ → Prop} {post : α → σ → Prop}

theorem Ensures.other_step (htrans : ∀ s s' s'', other s s' → other s' s'' → other s s'')
    {prog : Calls Op Ans α} {s s' : σ} (h : prog.Ensures callee other post s) (hother : other s s')
    : prog.Ensures callee other post s' := by
  cases prog with
  | ret a =>
    intro s'' hother'
    apply h
    apply htrans s s' s'' hother hother'
  | call op next =>
    intro s'' hother'
    apply h
    apply htrans s s' s'' hother hother'

theorem Ensures.mono {post' : α → σ → Prop} (hpost : ∀ a s, post a s → post' a s)
    {prog : Calls Op Ans α} {s : σ} (h : prog.Ensures callee other post s)
    : prog.Ensures callee other post' s := by
  induction prog generalizing s with
  | ret a =>
    intro s' hother
    apply hpost
    apply h s' hother
  | call op next ih =>
    intro s' hother
    apply ih
    apply h s' hother

theorem Ensures.map {post' : β → σ → Prop} {f : α → β} {prog : Calls Op Ans α} {s : σ}
    (h : prog.Ensures callee other (fun a s' => post' (f a) s') s)
    : (prog.map f).Ensures callee other post' s := by
  induction prog generalizing s with
  | ret a =>
    intro s' hother
    apply h s' hother
  | call op next ih =>
    intro s' hother
    apply ih
    apply h s' hother

/--
A computation that runs on its own ends as it ensures.
-/
theorem Ensures.run (hrefl : ∀ s, other s s) {prog : Calls Op Ans α} {s : σ}
    (h : prog.Ensures callee other post s)
    : post (prog.run callee s).1 (prog.run callee s).2 := by
  induction prog generalizing s with
  | ret a => apply h s (hrefl s)
  | call op next ih =>
    apply ih
    apply h s (hrefl s)

end

end Calls
end Lib

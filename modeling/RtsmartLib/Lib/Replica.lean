import Mathlib.Logic.Basic
import Mathlib.Order.Basic

/-!
This module contains partial overwriting of indexed contents and agreement of two contents outside
of a set of positions, as needed for copies that lag behind and are brought up to date in parts.
-/

namespace Lib

variable {ι α : Type}

def overlay (S : ι → Prop) [DecidablePred S] (new old : ι → α) : ι → α :=
  fun p => if S p then new p else old p

def AgreeOff (S : ι → Prop) (f g : ι → α) : Prop :=
  ∀ p, ¬S p → f p = g p

theorem overlay_of_mem {S : ι → Prop} [DecidablePred S] {p : ι} (h : S p) (new old : ι → α)
    : overlay S new old p = new p := by
  simp [overlay, h]

theorem overlay_of_not_mem {S : ι → Prop} [DecidablePred S] {p : ι} (h : ¬S p) (new old : ι → α)
    : overlay S new old p = old p := by
  simp [overlay, h]

theorem AgreeOff.refl (S : ι → Prop) (f : ι → α) : AgreeOff S f f := by
  intro p _
  rfl

theorem AgreeOff.mono {S T : ι → Prop} {f g : ι → α} (h : AgreeOff S f g) (hST : ∀ p, S p → T p)
    : AgreeOff T f g := by
  intro p hp
  apply h
  intro hS
  exact hp (hST p hS)

theorem AgreeOff.eq {S : ι → Prop} {f g : ι → α} (h : AgreeOff S f g) (hS : ∀ p, ¬S p)
    : f = g := by
  funext p
  exact h p (hS p)

theorem AgreeOff.overlay_right {S T : ι → Prop} [DecidablePred T] {f g : ι → α}
    (h : AgreeOff S f g) (new : ι → α)
    : AgreeOff (fun p => S p ∨ T p) f (overlay T new g) := by
  intro p hp
  simp only [not_or] at hp
  rw [overlay_of_not_mem hp.2]
  exact h p hp.1

theorem AgreeOff.overlay_left {S T : ι → Prop} [DecidablePred T] {f g : ι → α}
    (h : AgreeOff S f g)
    : AgreeOff (fun p => S p ∧ ¬T p) (overlay T g f) g := by
  intro p hp
  by_cases hT : T p
  . rw [overlay_of_mem hT]
  . rw [overlay_of_not_mem hT]
    apply h
    intro hS
    exact hp ⟨hS, hT⟩

theorem AgreeOff.copy {S : ι → Prop} [DecidablePred S] {f g : ι → α} (h : AgreeOff S f g)
    : overlay S g f = g := by
  apply h.overlay_left.eq
  intro p hp
  exact hp.2 hp.1

end Lib

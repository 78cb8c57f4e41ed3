import Mathlib.Data.List.Perm.Basic
import Mathlib.Order.Defs.LinearOrder
import Mathlib.Order.Lattice

/-!
This module contains sorting by exchanges: every place in turn is compared with all places behind it, and the two
elements are exchanged when the one behind has the greater key.
-/

namespace Lib

variable {α κ : Type} [LinearOrder κ] (key : α → κ)

/-
One pass for the first place: what ends up there, and what is left behind it in which order.
-/
def exchangePass (x : α) (ys : List α) : α × List α :=
  match ys with
  | [] => (x, [])
  | y :: ys =>
    if key x < key y then
      let res := exchangePass y ys
      (res.1, x :: res.2)
    else
      let res := exchangePass x ys
      (res.1, y :: res.2)

@[simp]
theorem length_exchangePass (x : α) (ys : List α) : (exchangePass key x ys).2.length = ys.length := by
  induction ys generalizing x with
  | nil => rfl
  | cons y ys ih =>
    unfold exchangePass
    split <;> simp [ih]

def exchangeSort (xs : List α) : List α :=
  match xs with
  | [] => []
  | x :: xs =>
    let res := exchangePass key x xs
    res.1 :: exchangeSort res.2
termination_by xs.length
decreasing_by
  simp

theorem exchangePass_perm (x : α) (ys : List α)
    : ((exchangePass key x ys).1 :: (exchangePass key x ys).2).Perm (x :: ys) := by
  induction ys generalizing x with
  | nil => rfl
  | cons y ys ih =>
    unfold exchangePass
    split
    . apply (List.Perm.swap _ _ _).trans
      apply List.Perm.cons
      apply ih
    . apply (List.Perm.swap _ _ _).trans
      apply List.Perm.trans _ (List.Perm.swap _ _ _)
      apply List.Perm.cons
      apply ih

theorem le_exchangePass (x : α) (ys : List α) : ∀ y ∈ x :: ys, key y ≤ key (exchangePass key x ys).1 := by
  induction ys generalizing x with
  | nil => simp [exchangePass]
  | cons y ys ih =>
    intro z hz
    unfold exchangePass
    split
    . next hlt =>
      cases List.mem_cons.mp hz with
      | inl heq =>
        rw [heq]
        apply (le_of_lt hlt).trans
        apply ih
        simp
      | inr hmem => exact ih y z hmem
    . next hle =>
      cases List.mem_cons.mp hz with
      | inl heq =>
        rw [heq]
        apply ih
        simp
      | inr hmem =>
        cases List.mem_cons.mp hmem with
        | inl heq =>
          rw [heq]
          apply (not_lt.mp hle).trans
          apply ih
          simp
        | inr hrest =>
          apply ih
          simp [hrest]

theorem exchangeSort_perm (xs : List α) : (exchangeSort key xs).Perm xs := by
  fun_induction exchangeSort key xs with
  | case1 => rfl
  | case2 x xs res ih =>
    apply (List.Perm.cons _ ih).trans
    apply exchangePass_perm

theorem exchangeSort_pairwise (xs : List α) : (exchangeSort key xs).Pairwise (fun a b => key b ≤ key a) := by
  fun_induction exchangeSort key xs with
  | case1 => simp
  | case2 x xs res ih =>
    rw [List.pairwise_cons]
    refine ⟨?_, ih⟩
    intro y hy
    apply le_exchangePass
    apply (exchangePass_perm key x xs).subset
    apply List.mem_cons_of_mem
    apply (exchangeSort_perm key res.2).subset hy

end Lib

import Mathlib.Data.List.Basic

/-!
This module contains lists that are filled from the end with what is not in them yet, where the caller says which
elements are the same, with and without a bound on their length.
-/

namespace Lib

variable {α : Type}

def addDistinct (same : α → α → Bool) (kept : List α) (a : α) : List α :=
  if kept.any fun b => same b a then kept else kept ++ [a]

def distinctFrom (same : α → α → Bool) (kept as : List α) : List α :=
  as.foldl (addDistinct same) kept

def addBounded (same : α → α → Bool) (capacity : Nat) (kept : List α) (a : α) : Option (List α) :=
  if kept.any fun b => same b a then
    some kept
  else if kept.length ≥ capacity then
    none
  else
    some (kept ++ [a])

/-
No element is the same as one before it.
-/
def Distinct (same : α → α → Bool) (kept : List α) : Prop :=
  kept.Pairwise fun a b => same a b = false

variable {same : α → α → Bool} {capacity : Nat} {kept kept' : List α}

@[simp]
theorem distinctFrom_nil (kept : List α) : distinctFrom same kept [] = kept := rfl

@[simp]
theorem distinctFrom_cons (kept : List α) (a : α) (as : List α)
    : distinctFrom same kept (a :: as) = distinctFrom same (addDistinct same kept a) as := rfl

theorem addDistinct_distinct (h : Distinct same kept) (a : α) : Distinct same (addDistinct same kept a) := by
  unfold addDistinct
  split
  . exact h
  . next hnew =>
    rw [Distinct, List.pairwise_append]
    refine ⟨h, List.pairwise_singleton _ _, ?_⟩
    intro b hb c hc
    rw [List.mem_singleton] at hc
    rw [Bool.not_eq_true, List.any_eq_false] at hnew
    rw [hc]
    exact Bool.eq_false_iff.mpr (hnew b hb)

theorem distinctFrom_distinct (h : Distinct same kept) (as : List α) : Distinct same (distinctFrom same kept as) := by
  induction as generalizing kept with
  | nil => exact h
  | cons a as ih => exact ih (addDistinct_distinct h a)

theorem prefix_addDistinct (kept : List α) (a : α) : kept <+: addDistinct same kept a := by
  unfold addDistinct
  split
  . exact List.prefix_rfl
  . exact List.prefix_append kept [a]

theorem prefix_distinctFrom (kept as : List α) : kept <+: distinctFrom same kept as := by
  induction as generalizing kept with
  | nil => exact List.prefix_rfl
  | cons a as ih => exact (prefix_addDistinct kept a).trans (ih _)

theorem length_addDistinct_le (kept : List α) (a : α) : (addDistinct same kept a).length ≤ kept.length + 1 := by
  unfold addDistinct
  split
  . omega
  . have hlonger : (kept ++ [a]).length = kept.length + 1 := List.length_append
    omega

theorem length_distinctFrom_le (kept as : List α) : (distinctFrom same kept as).length ≤ kept.length + as.length := by
  induction as generalizing kept with
  | nil => exact Nat.le_add_right _ _
  | cons a as ih =>
    have hadd := @length_addDistinct_le _ same kept a
    have hrest := ih (addDistinct same kept a)
    rw [distinctFrom_cons, List.length_cons]
    omega

theorem addBounded_eq (h : kept.length ≤ capacity) (a : α)
    : addBounded same capacity kept a
      = if (addDistinct same kept a).length ≤ capacity then some (addDistinct same kept a) else none := by
  unfold addBounded addDistinct
  split
  . rfl
  . rw [List.length_append, List.length_singleton]
    split
    . rw [if_neg (by omega)]
    . rw [if_pos (by omega)]

theorem addBounded_some (h : kept.length ≤ capacity) {a : α} (hadd : addBounded same capacity kept a = some kept')
    : kept' = addDistinct same kept a ∧ kept'.length ≤ capacity := by
  rw [addBounded_eq h] at hadd
  split at hadd
  . next hfits =>
    rw [Option.some.injEq] at hadd
    rw [← hadd]
    exact ⟨rfl, hfits⟩
  . contradiction

/-
Where an element that there is no room for is left out, the first ones stay.
-/
theorem addBounded_getD (h : kept.length ≤ capacity) (a : α)
    : (addBounded same capacity kept a).getD kept = (addDistinct same kept a).take capacity := by
  rw [addBounded_eq h]
  split
  . next hfits => rw [Option.getD_some, List.take_of_length_le hfits]
  . next hfull =>
    rw [Option.getD_none]
    have hlength := @length_addDistinct_le _ same kept a
    obtain ⟨rest, hrest⟩ := @prefix_addDistinct _ same kept a
    have heq : kept.length = capacity := by omega
    rw [← hrest, ← heq, List.take_left]

theorem take_distinctFrom_take (kept as : List α)
    : (distinctFrom same (kept.take capacity) as).take capacity = (distinctFrom same kept as).take capacity := by
  by_cases hfits : kept.length ≤ capacity
  . rw [List.take_of_length_le hfits]
  . -- The first ones fill the room on both sides.
    have hfirst : ∀ more : List α, capacity ≤ more.length
        → (distinctFrom same more as).take capacity = more.take capacity := by
      intro more hmore
      obtain ⟨rest, hrest⟩ := @prefix_distinctFrom _ same more as
      rw [← hrest, List.take_append_of_le_length hmore]
    rw [hfirst _ (by rw [List.length_take]; omega), hfirst _ (by omega)]
    rw [List.take_take, Nat.min_self]

theorem foldl_addBounded (h : kept.length ≤ capacity) (as : List α)
    : as.foldl (fun kept a => (addBounded same capacity kept a).getD kept) kept
      = (distinctFrom same kept as).take capacity := by
  induction as generalizing kept with
  | nil => rw [List.foldl_nil, distinctFrom_nil, List.take_of_length_le h]
  | cons a as ih =>
    rw [List.foldl_cons, addBounded_getD h, distinctFrom_cons]
    rw [ih (by rw [List.length_take]; omega)]
    exact take_distinctFrom_take _ as

end Lib

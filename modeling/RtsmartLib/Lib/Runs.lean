import Mathlib.Data.List.Basic
import Mathlib.Algebra.Order.Group.Nat

/-!
This module contains maximal runs of elements in a list, and when the first run of a list that has been cut
off is a run of the whole list.
-/

namespace Lib

variable {α : Type} (p : α → Bool) (l : List α)

def holdsAt (i : Nat) : Bool :=
  l[i]?.any p

/--
The `n` elements from `k` on satisfy `p`, and the ones before and behind them do not.
-/
structure RunAt (n k : Nat) : Prop where
  inside : ∀ j, j < n → holdsAt p l (k + j) = true
  behind : holdsAt p l (k + n) = false
  before : ∀ i, i + 1 = k → holdsAt p l i = false

/-
What a search for the first run of a length finds.
-/
structure FirstRun (n : Nat) (found : Option Nat) : Prop where
  run : ∀ k, found = some k → RunAt p l n k
  first : ∀ k k', found = some k → RunAt p l n k' → k ≤ k'
  none : found = none → ∀ k, ¬RunAt p l n k

/--
A run lies before the cut, or there is none beyond it and no longer run that the cut shortens to this length.
-/
def CutHarmless (n cut : Nat) : Prop :=
  (∃ k, RunAt p l n k ∧ k + n ≤ cut)
    ∨ ((∀ k, RunAt p l n k → k + n ≤ cut)
      ∧ ¬∃ k, k + n = cut ∧ RunAt p (l.take cut) n k ∧ holdsAt p l cut = true)

variable {p l} {n cut : Nat}

theorem holdsAt_take (i : Nat) : holdsAt p (l.take cut) i = (decide (i < cut) && holdsAt p l i) := by
  unfold holdsAt
  rw [List.getElem?_take]
  by_cases h : i < cut
  . simp [h]
  . simp [h]

theorem RunAt.take {k : Nat} (h : RunAt p l n k) (hcut : k + n ≤ cut) : RunAt p (l.take cut) n k := by
  constructor
  . intro j hj
    rw [holdsAt_take, h.inside j hj, Bool.and_true, decide_eq_true_iff]
    omega
  . rw [holdsAt_take, h.behind, Bool.and_false]
  . intro i hi
    rw [holdsAt_take, h.before i hi, Bool.and_false]

/-
A run that starts within a block of such elements starts with the first and ends with the last of them.
-/
theorem RunAt.of_block {i e k : Nat} (hk : RunAt p l n k)
    (hblock : ∀ m, i ≤ m → m < e → holdsAt p l m = true) (hend : holdsAt p l e = false)
    (hfrom : i ≤ k) (hlt : k < e)
    : k = i ∧ k + n = e := by
  have hfirst : k = i := by
    by_contra hne
    have hholds := hblock (k - 1) (by omega) (by omega)
    rw [hk.before (k - 1) (by omega)] at hholds
    cases hholds
  have hle : ¬k + n < e := by
    intro hinside
    have hholds := hblock (k + n) (by omega) hinside
    rw [hk.behind] at hholds
    cases hholds
  have hge : ¬e < k + n := by
    intro hinside
    have hholds := hk.inside (e - k) (by omega)
    rw [Nat.add_sub_cancel' (Nat.le_of_lt hlt), hend] at hholds
    cases hholds
  omega

theorem RunAt.of_take (hn : 0 < n) {k : Nat} (h : RunAt p (l.take cut) n k)
    : k + n ≤ cut ∧ (RunAt p l n k ∨ (k + n = cut ∧ holdsAt p l cut = true)) := by
  have hlast := h.inside (n - 1) (by omega)
  rw [holdsAt_take, Bool.and_eq_true, decide_eq_true_iff] at hlast
  have hle : k + n ≤ cut := by
    omega
  refine ⟨hle, ?_⟩
  have hinside : ∀ j, j < n → holdsAt p l (k + j) = true := by
    intro j hj
    have hat := h.inside j hj
    rw [holdsAt_take, Bool.and_eq_true] at hat
    exact hat.2
  have hbefore : ∀ i, i + 1 = k → holdsAt p l i = false := by
    intro i hi
    have hat := h.before i hi
    have hlt : decide (i < cut) = true := by
      rw [decide_eq_true_iff]
      omega
    rw [holdsAt_take, hlt, Bool.true_and] at hat
    exact hat
  cases hbehind : holdsAt p l (k + n) with
  | false => exact Or.inl ⟨hinside, hbehind, hbefore⟩
  | true =>
    right
    have hat := h.behind
    rw [holdsAt_take, hbehind, Bool.and_true, decide_eq_false_iff_not] at hat
    have hcut : k + n = cut := by
      omega
    rw [← hcut]
    exact ⟨rfl, hbehind⟩

/--
The first run of the list that is left by a cut tells about the whole list exactly if the cut is harmless.
-/
theorem firstRun_take_iff (hn : 0 < n) {found : Option Nat} (h : FirstRun p (l.take cut) n found)
    : ((∃ k, found = some k) ↔ ∃ k, RunAt p l n k) ∧ (∀ k, found = some k → RunAt p l n k)
        ↔ CutHarmless p l n cut := by
  constructor
  . intro ⟨hsome, hrun⟩
    cases hfound : found with
    | none =>
      right
      have hnone : ∀ k, ¬RunAt p l n k := by
        intro k hk
        obtain ⟨k', hk'⟩ := hsome.mpr ⟨k, hk⟩
        rw [hfound] at hk'
        cases hk'
      constructor
      . intro k hk
        exact absurd hk (hnone k)
      . intro ⟨k, _, hshort, _⟩
        exact h.none hfound k hshort
    | some k =>
      left
      exact ⟨k, hrun k hfound, ((h.run k hfound).of_take hn).1⟩
  . intro hharmless
    have hrun : ∀ k, found = some k → RunAt p l n k := by
      intro k hfound
      obtain ⟨hle, hfull | ⟨hcut, hdigit⟩⟩ := (h.run k hfound).of_take hn
      . exact hfull
      . -- the run found ends at the cut, and goes on behind it
        cases hharmless with
        | inl hearly =>
          obtain ⟨k', hk', hle'⟩ := hearly
          have hfirst := h.first k k' hfound (hk'.take hle')
          have hsame : k' = k := by
            omega
          rw [← hsame]
          exact hk'
        | inr hrest => exact absurd ⟨k, hcut, h.run k hfound, hdigit⟩ hrest.2
    refine ⟨⟨?_, ?_⟩, hrun⟩
    . intro ⟨k, hfound⟩
      exact ⟨k, hrun k hfound⟩
    . intro ⟨k, hk⟩
      cases hfound : found with
      | some k' => exact ⟨k', rfl⟩
      | none =>
        exfalso
        cases hharmless with
        | inl hearly =>
          obtain ⟨k', hk', hle'⟩ := hearly
          exact h.none hfound k' (hk'.take hle')
        | inr hrest => exact h.none hfound k (hk.take (hrest.1 k hk))

end Lib

import Mathlib.Data.List.Basic

/-!
This module contains records of values by key, and the value that has been recorded last for a key.
-/

namespace Lib

variable {κ β : Type} [DecidableEq κ]

/--
The last value that a record has for a key.
-/
def latest (l : List (κ × β)) (k : κ) : Option β :=
  match l with
  | [] => none
  | (k', v) :: l => (latest l k).or (if k' = k then some v else none)

@[simp]
theorem latest_nil (k : κ) : latest ([] : List (κ × β)) k = none := rfl

theorem latest_cons (k' : κ) (v : β) (l : List (κ × β)) (k : κ)
    : latest ((k', v) :: l) k = (latest l k).or (if k' = k then some v else none) := rfl

theorem latest_append (l m : List (κ × β)) (k : κ)
    : latest (l ++ m) k = (latest m k).or (latest l k) := by
  induction l with
  | nil => simp
  | cons e l ih =>
    obtain ⟨k', v⟩ := e
    rw [List.cons_append, latest_cons, latest_cons, ih, Option.or_assoc]

theorem latest_snoc (l : List (κ × β)) (k' : κ) (v : β) (k : κ)
    : latest (l ++ [(k', v)]) k = if k' = k then some v else latest l k := by
  rw [latest_append, latest_cons]
  by_cases h : k' = k
  . simp [h]
  . simp [h]

theorem latest_snoc_of_ne (l : List (κ × β)) {k' : κ} (v : β) {k : κ} (h : k' ≠ k)
    : latest (l ++ [(k', v)]) k = latest l k := by
  rw [latest_snoc, if_neg h]

/--
To record once more what has been recorded last makes no difference.
-/
theorem latest_snoc_same {l : List (κ × β)} {k' : κ} {v : β} (h : latest l k' = some v) (k : κ)
    : latest (l ++ [(k', v)]) k = latest l k := by
  rw [latest_snoc]
  by_cases hk : k' = k
  . rw [if_pos hk, ← hk, h]
  . rw [if_neg hk]

/--
An entry with the value that is recorded last without it does not change that.
-/
theorem latest_insert {l m : List (κ × β)} {k : κ} {v : β} (h : latest (l ++ m) k = some v) (k' : κ)
    : latest (l ++ (k', v) :: m) k = some v := by
  rw [latest_append] at h ⊢
  rw [latest_cons]
  cases hm : latest m k with
  | some w =>
    rw [hm] at h
    exact h
  | none =>
    rw [hm, Option.none_or] at h
    rw [h, Option.none_or]
    by_cases hk : k' = k
    . simp [hk]
    . simp [hk]

theorem latest_isSome_of_mem {l : List (κ × β)} {k : κ} {v : β} (h : (k, v) ∈ l)
    : (latest l k).isSome = true := by
  induction l with
  | nil => cases h
  | cons e l ih =>
    obtain ⟨k', v'⟩ := e
    rw [latest_cons]
    cases List.mem_cons.mp h with
    | inl heq =>
      simp only [Prod.mk.injEq] at heq
      rw [if_pos heq.1.symm]
      cases latest l k with
      | none => rfl
      | some _ => rfl
    | inr hmem =>
      have hsome := ih hmem
      cases hl : latest l k with
      | none => simp [hl] at hsome
      | some _ => rfl

end Lib

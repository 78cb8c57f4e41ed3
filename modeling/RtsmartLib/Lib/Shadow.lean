import Mathlib.Logic.Function.Basic

/-!
This module contains settings of devices of which users keep copies, and the history that tells
whether a copy is still what the device holds.
-/

namespace Lib

variable {ι κ β : Type}

/--
The copy that a user keeps of a setting of device `k` is right if nothing has come between, and
otherwise `since` tells what the device holds instead.
-/
def Tracks (actual : κ → β) (copy : ι → Option (κ × β)) (since : ι → Option β) : Prop :=
  ∀ i k v, copy i = some (k, v) → actual k = (since i).getD v

/-
What has come between after a setting of a device: it is news to all users of that device.
-/
def noteSet [DecidableEq κ] (copy : ι → Option (κ × β)) (since : ι → Option β) (k : κ) (v : β)
    : ι → Option β :=
  fun i => if (copy i).map Prod.fst = some k then some v else since i

theorem Tracks.right_iff {actual : κ → β} {copy : ι → Option (κ × β)} {since : ι → Option β}
    (h : Tracks actual copy since) {i : ι} {k : κ} {v : β} (hcopy : copy i = some (k, v))
    : actual k = v ↔ ¬∃ w, since i = some w ∧ w ≠ v := by
  rw [h i k v hcopy]
  cases hsince : since i with
  | none => simp
  | some w => simp

theorem Tracks.none (actual : κ → β) (since : ι → Option β)
    : Tracks actual (fun _ => .none) since := by
  intro i k v hcopy
  cases hcopy

theorem Tracks.set [DecidableEq κ] {actual : κ → β} {copy : ι → Option (κ × β)}
    {since : ι → Option β} (h : Tracks actual copy since) (k : κ) (v : β)
    : Tracks (Function.update actual k v) copy (noteSet copy since k v) := by
  intro i k' v' hcopy
  unfold noteSet
  rw [hcopy]
  by_cases hk : k' = k
  . subst hk
    simp
  . rw [Function.update_of_ne hk]
    rw [if_neg (by simpa using hk)]
    exact h i k' v' hcopy

/-
A user takes the value that it has set for its copy.
-/
theorem Tracks.keep [DecidableEq ι] {actual : κ → β} {copy : ι → Option (κ × β)}
    {since : ι → Option β} (h : Tracks actual copy since) (i : ι) {k : κ} {v : β}
    (hv : actual k = v)
    : Tracks actual (Function.update copy i (some (k, v))) (Function.update since i .none) := by
  intro j k' v' hcopy
  by_cases hj : j = i
  . subst hj
    simp only [Function.update_self, Option.some.injEq, Prod.mk.injEq] at hcopy
    simpa [← hcopy.1, ← hcopy.2] using hv
  . rw [Function.update_of_ne hj] at hcopy ⊢
    exact h j k' v' hcopy

/-
A user takes something it has seen for its copy, whatever the device holds.
-/
theorem Tracks.see [DecidableEq ι] {actual : κ → β} {copy : ι → Option (κ × β)}
    {since : ι → Option β} (h : Tracks actual copy since) (i : ι) (k : κ) (w : β)
    : Tracks actual (Function.update copy i (some (k, w)))
        (Function.update since i (some (actual k))) := by
  intro j k' v' hcopy
  by_cases hj : j = i
  . subst hj
    simp only [Function.update_self, Option.some.injEq, Prod.mk.injEq] at hcopy
    simp [← hcopy.1]
  . rw [Function.update_of_ne hj] at hcopy ⊢
    exact h j k' v' hcopy

theorem Tracks.drop [DecidableEq ι] {actual : κ → β} {copy : ι → Option (κ × β)}
    {since : ι → Option β} (h : Tracks actual copy since) (i : ι)
    : Tracks actual (Function.update copy i .none) since := by
  intro j k v hcopy
  by_cases hj : j = i
  . subst hj
    simp at hcopy
  . rw [Function.update_of_ne hj] at hcopy
    exact h j k v hcopy

end Lib

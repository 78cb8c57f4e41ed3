import Mathlib.Data.Multiset.AddSub

/-!
This module contains the acquiring and releasing of resources as a list of transfers, and what is held after
transfers none of which releases what is not held.
-/

namespace Lib

inductive Transfer (ρ : Type) where
  | acquire (r : ρ)
  | release (r : ρ)
  deriving DecidableEq, Repr

namespace Ledger

variable {ρ : Type} [DecidableEq ρ]

def apply (held : Multiset ρ) (t : Transfer ρ) : Option (Multiset ρ) :=
  match t with
  | .acquire r => some (r ::ₘ held)
  | .release r => if r ∈ held then some (held.erase r) else none

/--
What is held in the end, unless something is released that is not held at that point.
-/
def settle (held : Multiset ρ) (ts : List (Transfer ρ)) : Option (Multiset ρ) :=
  match ts with
  | [] => some held
  | t :: ts => (apply held t).bind (settle · ts)

@[simp]
theorem settle_nil (held : Multiset ρ) : settle held [] = some held := rfl

@[simp]
theorem settle_acquire_cons (held : Multiset ρ) (r : ρ) (ts : List (Transfer ρ))
    : settle held (.acquire r :: ts) = settle (r ::ₘ held) ts := rfl

@[simp]
theorem settle_release_cons (held : Multiset ρ) (r : ρ) (ts : List (Transfer ρ))
    : settle (r ::ₘ held) (.release r :: ts) = settle held ts := by
  simp [settle, apply]

theorem settle_append (held : Multiset ρ) (ts us : List (Transfer ρ))
    : settle held (ts ++ us) = (settle held ts).bind (settle · us) := by
  induction ts generalizing held with
  | nil => rfl
  | cons t ts ih =>
    simp only [List.cons_append, settle]
    cases apply held t with
    | none => rfl
    | some held' => exact ih held'

theorem settle_seq {held held' : Multiset ρ} {ts : List (Transfer ρ)}
    (h : settle held ts = some held') (us : List (Transfer ρ))
    : settle held (ts ++ us) = settle held' us := by
  rw [settle_append, h]
  rfl

theorem apply_add {held held' : Multiset ρ} {t : Transfer ρ} (h : apply held t = some held')
    (rest : Multiset ρ)
    : apply (held + rest) t = some (held' + rest) := by
  cases t with
  | acquire r =>
    simp only [apply, Option.some.injEq] at h ⊢
    rw [← h, Multiset.cons_add]
  | release r =>
    simp only [apply, Option.ite_none_right_eq_some, Option.some.injEq] at h ⊢
    obtain ⟨hmem, rfl⟩ := h
    exact ⟨Multiset.mem_add.mpr (.inl hmem), Multiset.erase_add_left_pos rest hmem⟩

/--
Whatever else is held stays held.
-/
theorem settle_add {held held' : Multiset ρ} {ts : List (Transfer ρ)}
    (h : settle held ts = some held') (rest : Multiset ρ)
    : settle (held + rest) ts = some (held' + rest) := by
  induction ts generalizing held with
  | nil =>
    simp only [settle_nil, Option.some.injEq] at h ⊢
    rw [h]
  | cons t ts ih =>
    simp only [settle, Option.bind_eq_some_iff] at h ⊢
    obtain ⟨mid, hmid, hrest⟩ := h
    exact ⟨mid + rest, apply_add hmid rest, ih hrest⟩

theorem settle_release_all (rs : List ρ) (rest : Multiset ρ)
    : settle ((rs : Multiset ρ) + rest) (rs.map .release) = some rest := by
  induction rs with
  | nil => simp
  | cons r rs ih =>
    rw [List.map_cons, ← Multiset.cons_coe, Multiset.cons_add, settle_release_cons]
    exact ih

theorem settle_acquire_all (rs : List ρ) (rest : Multiset ρ)
    : settle rest (rs.map .acquire) = some ((rs : Multiset ρ) + rest) := by
  induction rs generalizing rest with
  | nil => simp
  | cons r rs ih =>
    rw [List.map_cons, settle_acquire_cons, ih]
    rw [Multiset.add_cons, ← Multiset.cons_coe, Multiset.cons_add]

/--
What has been acquired and is not held any more has been released as often.
-/
theorem settle_count {held held' : Multiset ρ} {ts : List (Transfer ρ)}
    (h : settle held ts = some held') (r : ρ)
    : held.count r + ts.count (.acquire r) = held'.count r + ts.count (.release r) := by
  induction ts generalizing held with
  | nil =>
    simp only [settle_nil, Option.some.injEq] at h
    rw [h]
    rfl
  | cons t ts ih =>
    simp only [settle, Option.bind_eq_some_iff] at h
    obtain ⟨mid, hmid, hrest⟩ := h
    have hcount := ih hrest
    cases t with
    | acquire q =>
      simp only [apply, Option.some.injEq] at hmid
      subst hmid
      simp only [Multiset.count_cons, List.count_cons, beq_iff_eq, Transfer.acquire.injEq,
        reduceCtorEq, if_false] at hcount ⊢
      by_cases hqr : r = q
      . subst hqr
        simp only [if_true] at hcount ⊢
        omega
      . rw [if_neg hqr] at hcount
        rw [if_neg (Ne.symm hqr)]
        omega
    | release q =>
      simp only [apply, Option.ite_none_right_eq_some, Option.some.injEq] at hmid
      obtain ⟨hmem, rfl⟩ := hmid
      simp only [List.count_cons, beq_iff_eq, Transfer.release.injEq, reduceCtorEq, if_false] at hcount ⊢
      by_cases hqr : q = r
      . subst hqr
        have hpos := Multiset.count_pos.mpr hmem
        rw [Multiset.count_erase_self] at hcount
        simp only [if_true]
        omega
      . rw [Multiset.count_erase_of_ne (Ne.symm hqr)] at hcount
        rw [if_neg hqr]
        omega

end Ledger
end Lib

import Mathlib.Data.Multiset.Filter
import Mathlib.Data.List.Pairwise

/-!
This module contains extents of addresses, tables of items that lie apart from each other, and the look-up of
the item that a range of addresses lies in.
-/

namespace Lib

structure Extent where
  start : Nat
  len : Nat
  deriving DecidableEq, Repr

namespace Extent

/--
The `n` bytes from `p` on lie in the extent. For no bytes at all it is `p` that lies in it.
-/
def Covers (e : Extent) (p n : Nat) : Prop :=
  e.start ≤ p ∧ p < e.start + e.len ∧ p + n ≤ e.start + e.len

instance (e : Extent) (p n : Nat) : Decidable (e.Covers p n) :=
  inferInstanceAs (Decidable (_ ∧ _ ∧ _))

/--
Extents that share no byte, and do not start at the same place, as an empty one could.
-/
def Apart (e f : Extent) : Prop :=
  e.start ≠ f.start ∧ (e.start + e.len ≤ f.start ∨ f.start + f.len ≤ e.start)

instance (e f : Extent) : Decidable (e.Apart f) :=
  inferInstanceAs (Decidable (_ ∧ _))

def Within (e f : Extent) : Prop :=
  f.start ≤ e.start ∧ e.start + e.len ≤ f.start + f.len

instance (e f : Extent) : Decidable (e.Within f) :=
  inferInstanceAs (Decidable (_ ∧ _))

theorem Within.refl (e : Extent) : e.Within e := ⟨Nat.le_refl _, Nat.le_refl _⟩

theorem Apart.symm {e f : Extent} (h : e.Apart f) : f.Apart e := ⟨h.1.symm, h.2.symm⟩

theorem Apart.not_covers {e f : Extent} (h : e.Apart f) {p n : Nat} (he : e.Covers p n)
    : ¬f.Covers p n := by
  intro hf
  simp only [Covers] at he hf
  cases h.2 with
  | inl hbelow => omega
  | inr habove => omega

end Extent

section

variable {α : Type} (p : α → Bool)

/--
The first item of a list that satisfies `p`, with the items before it and those after it.
-/
def splitFirst (l : List α) : Option (List α × α × List α) :=
  match l with
  | [] => none
  | a :: l =>
    if p a then
      some ([], a, l)
    else
      (splitFirst l).map fun (before, b, after) => (a :: before, b, after)

variable {p}

theorem splitFirst_eq_some {l before after : List α} {a : α}
    (h : splitFirst p l = some (before, a, after))
    : l = before ++ a :: after ∧ p a = true ∧ ∀ b ∈ before, p b = false := by
  induction l generalizing before with
  | nil => simp [splitFirst] at h
  | cons b l ih =>
    simp only [splitFirst] at h
    split at h
    . next hb =>
      simp only [Option.some.injEq, Prod.mk.injEq] at h
      obtain ⟨rfl, rfl, rfl⟩ := h
      simp [hb]
    . next hb =>
      simp only [Option.map_eq_some_iff, Prod.mk.injEq, Prod.exists] at h
      obtain ⟨before', a', after', hrest, rfl, rfl, rfl⟩ := h
      have ⟨hl, ha, hbefore⟩ := ih hrest
      constructor
      . rw [hl]
        rfl
      . constructor
        . exact ha
        . simpa [hb] using hbefore

theorem splitFirst_eq_none {l : List α} : splitFirst p l = none ↔ ∀ a ∈ l, p a = false := by
  induction l with
  | nil => simp [splitFirst]
  | cons a l ih =>
    simp only [splitFirst, List.forall_mem_cons]
    cases ha : p a with
    | true => simp
    | false => simp [ih]

end

/--
Items whose extents lie pairwise apart from each other.
-/
def ApartTable {α : Type} (extent : α → Extent) (l : List α) : Prop :=
  l.Pairwise fun a b => (extent a).Apart (extent b)

instance {α : Type} (extent : α → Extent) (l : List α) : Decidable (ApartTable extent l) :=
  inferInstanceAs (Decidable (l.Pairwise _))

namespace ApartTable

variable {α : Type} {extent : α → Extent} {l : List α}

instance : Std.Symm fun a b => (extent a).Apart (extent b) :=
  ⟨fun _ _ h => h.symm⟩

theorem apart_of_ne (h : ApartTable extent l) {a b : α} (ha : a ∈ l) (hb : b ∈ l) (hab : a ≠ b)
    : (extent a).Apart (extent b) :=
  List.Pairwise.forall h ha hb hab

theorem eq_of_start (h : ApartTable extent l) {a b : α} (ha : a ∈ l) (hb : b ∈ l)
    (hstart : (extent a).start = (extent b).start)
    : a = b := by
  by_contra hab
  exact (h.apart_of_ne ha hb hab).1 hstart

theorem eq_of_covers (h : ApartTable extent l) {a b : α} (ha : a ∈ l) (hb : b ∈ l) {p n : Nat}
    (hap : (extent a).Covers p n) (hbp : (extent b).Covers p n)
    : a = b := by
  by_contra hab
  exact (h.apart_of_ne ha hb hab).not_covers hap hbp

theorem nodup (h : ApartTable extent l) : l.Nodup := by
  apply List.Pairwise.imp ?_ h
  intro a b hab heq
  rw [heq] at hab
  exact hab.1 rfl

theorem ne_start_of_middle {before after : List α} {a b : α}
    (h : ApartTable extent (before ++ a :: after)) (hb : b ∈ before ++ after)
    : (extent b).start ≠ (extent a).start := by
  have hperm : (before ++ a :: after).Perm (a :: (before ++ after)) := List.perm_middle
  have hcons : ApartTable extent (a :: (before ++ after)) := hperm.pairwise h Extent.Apart.symm
  exact ((List.pairwise_cons.mp hcons).1 b hb).1.symm

/--
Of items that lie apart from each other the first one that satisfies `p` is the only one if all that do start
at one place, so that the others are those that do not satisfy it.
-/
theorem splitFirst_others (h : ApartTable extent l) {p : α → Bool} {v : Nat}
    (hp : ∀ a, p a = true → (extent a).start = v) {before after : List α} {a : α}
    (hsplit : splitFirst p l = some (before, a, after))
    : before ++ after = l.filter fun b => !p b := by
  have ⟨hl, ha, _⟩ := splitFirst_eq_some hsplit
  subst hl
  rw [List.filter_append, List.filter_cons_of_neg (by simp [ha]), ← List.filter_append]
  apply Eq.symm
  apply List.filter_eq_self.mpr
  intro b hb
  cases hpb : p b with
  | false => rfl
  | true =>
    have hstart : (extent b).start = (extent a).start := by rw [hp b hpb, hp a ha]
    exact absurd hstart (h.ne_start_of_middle hb)

end ApartTable

end Lib

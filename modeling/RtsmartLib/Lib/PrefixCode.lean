import Mathlib.Data.Set.Insert
import Mathlib.Data.List.Basic

/-!
This module contains sets of strings of which none is a proper prefix of another, so that where one of
them starts a string it is clear where it ends.
-/

namespace Lib

variable {α : Type}

def PrefixFree (F : Set (List α)) : Prop :=
  ∀ a ∈ F, ∀ b ∈ F, ∀ r s, a ++ r = b ++ s → a = b

theorem PrefixFree.rest {F : Set (List α)} (h : PrefixFree F) {a b r s : List α} (ha : a ∈ F)
    (hb : b ∈ F) (heq : a ++ r = b ++ s)
    : a = b ∧ r = s := by
  have hab := h a ha b hb r s heq
  rw [hab] at heq
  exact ⟨hab, List.append_cancel_left heq⟩

def thenAll (F G : Set (List α)) : Set (List α) :=
  {l | ∃ a ∈ F, ∃ b ∈ G, l = a ++ b}

def onlyIf (c : Prop) (F : Set (List α)) : Set (List α) :=
  {l | (c ∧ l ∈ F) ∨ (¬c ∧ l = [])}

theorem onlyIf_pos {c : Prop} (h : c) (F : Set (List α)) : onlyIf c F = F := by
  ext l
  simp [onlyIf, h]

theorem onlyIf_neg {c : Prop} (h : ¬c) (F : Set (List α)) : onlyIf c F = {[]} := by
  ext l
  simp [onlyIf, h]

theorem PrefixFree.thenAll {F G : Set (List α)} (hF : PrefixFree F) (hG : PrefixFree G)
    : PrefixFree (thenAll F G) := by
  intro l hl l' hl' r s heq
  obtain ⟨a, ha, b, hb, rfl⟩ := hl
  obtain ⟨a', ha', b', hb', rfl⟩ := hl'
  rw [List.append_assoc, List.append_assoc] at heq
  obtain ⟨rfl, hrest⟩ := hF.rest ha ha' heq
  rw [(hG.rest hb hb' hrest).1]

theorem PrefixFree.nil : PrefixFree ({[]} : Set (List α)) := by
  intro a ha b hb r s _
  rw [Set.mem_singleton_iff] at ha hb
  rw [ha, hb]

theorem PrefixFree.onlyIf (c : Prop) {F : Set (List α)} (hF : PrefixFree F) : PrefixFree (onlyIf c F) := by
  by_cases hc : c
  . rw [onlyIf_pos hc]
    exact hF
  . rw [onlyIf_neg hc]
    exact PrefixFree.nil

theorem prefixFree_of_length {F : Set (List α)}
    (h : ∀ a ∈ F, ∀ b ∈ F, ∀ r s, a ++ r = b ++ s → a.length = b.length)
    : PrefixFree F := by
  intro a ha b hb r s heq
  exact (List.append_inj heq (h a ha b hb r s heq)).1

/-
Strings that are ended by the only `z` in them.
-/
def endedBy (z : α) : Set (List α) :=
  {l | ∃ s, z ∉ s ∧ l = s ++ [z]}

theorem prefixFree_endedBy (z : α) : PrefixFree (endedBy z) := by
  intro a ha b hb r s heq
  obtain ⟨x, hx, rfl⟩ := ha
  obtain ⟨y, hy, rfl⟩ := hb
  induction x generalizing y with
  | nil =>
    cases y with
    | nil => rfl
    | cons c y =>
      have hc : z = c := (List.cons.inj heq).1
      rw [hc] at hy
      exact absurd List.mem_cons_self hy
  | cons c x ih =>
    cases y with
    | nil =>
      have hc : c = z := (List.cons.inj heq).1
      rw [hc] at hx
      exact absurd List.mem_cons_self hx
    | cons d y =>
      obtain ⟨rfl, htail⟩ := List.cons.inj heq
      have hxs := ih (fun h => hx (List.mem_cons_of_mem _ h)) y
        (fun h => hy (List.mem_cons_of_mem _ h)) htail
      rw [List.cons_append, List.cons_append, hxs]

/-
Where a string has no `z`, no string that `z` ends starts it.
-/
theorem not_prefix_endedBy {z : α} {l : List α} (h : z ∉ l)
    : ¬∃ a ∈ endedBy z, ∃ r, l = a ++ r := by
  intro ⟨a, ha, r, hl⟩
  obtain ⟨s, _, rfl⟩ := ha
  rw [hl] at h
  simp at h

end Lib

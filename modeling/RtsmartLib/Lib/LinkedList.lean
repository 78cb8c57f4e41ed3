import Mathlib.Data.List.Nodup
import Mathlib.Logic.Function.Basic

/-!
This module contains singly linked lists whose links live in the cells themselves: the cells a head
reaches, and what writing one link does to them.
-/

namespace Lib

variable {α : Type}

/-
The cells that `head` reaches by following `next`, up to the end of the list. There is no such list of
cells if the links run in a circle.
-/
def Chain (next : α → Option α) (head : Option α) (cells : List α) : Prop :=
  match cells with
  | [] => head = none
  | a :: cells => head = some a ∧ Chain next (next a) cells

namespace Chain

variable {next : α → Option α} {head : Option α} {cells : List α}

theorem nil : Chain next none [] := rfl

theorem cons {a : α} (h : Chain next (next a) cells) : Chain next (some a) (a :: cells) :=
  ⟨rfl, h⟩

theorem unique {cells' : List α} (h : Chain next head cells) (h' : Chain next head cells')
    : cells = cells' := by
  induction cells generalizing head cells' with
  | nil =>
    cases cells' with
    | nil => rfl
    | cons b cells' =>
      have hhead : head = none := h
      rw [hhead] at h'
      exact absurd h'.1 (by simp)
  | cons a cells ih =>
    cases cells' with
    | nil =>
      have hhead : head = none := h'
      rw [hhead] at h
      exact absurd h.1 (by simp)
    | cons b cells' =>
      have hab : a = b := Option.some.inj (h.1.symm.trans h'.1)
      subst hab
      rw [ih h.2 h'.2]

theorem suffix {a : α} {before after : List α} (h : Chain next head (before ++ a :: after))
    : Chain next (some a) (a :: after) := by
  induction before generalizing head with
  | nil => exact ⟨rfl, h.2⟩
  | cons b before ih => exact ih h.2

theorem nodup (h : Chain next head cells) : cells.Nodup := by
  induction cells generalizing head with
  | nil => exact List.nodup_nil
  | cons a cells ih =>
    apply List.nodup_cons.mpr
    constructor
    . intro hmem
      obtain ⟨before, after, heq⟩ := List.append_of_mem hmem
      rw [heq] at h
      -- The list from the second `a` on is the list from the first one on, but shorter.
      have hsuffix : Chain next (some a) (a :: after) := @suffix _ _ _ a (a :: before) after h
      have hcells := unique h (h.1 ▸ hsuffix)
      have hlen := congrArg List.length hcells
      simp only [List.length_cons, List.length_append] at hlen
      omega
    . exact ih h.2

variable [DecidableEq α] {a : α} {link : Option α}

theorem update_of_not_mem (h : Chain next head cells) (ha : a ∉ cells)
    : Chain (Function.update next a link) head cells := by
  induction cells generalizing head with
  | nil => exact h
  | cons b cells ih =>
    rw [List.mem_cons, not_or] at ha
    refine ⟨h.1, ?_⟩
    rw [Function.update_of_ne (Ne.symm ha.1)]
    exact ih h.2 ha.2

theorem push (h : Chain next head cells) (ha : a ∉ cells)
    : Chain (Function.update next a head) (some a) (a :: cells) := by
  apply cons
  rw [Function.update_self]
  exact update_of_not_mem h ha

theorem truncate {before after : List α} (h : Chain next head (before ++ a :: after))
    : Chain (Function.update next a none) head (before ++ [a]) := by
  induction before generalizing head with
  | nil =>
    refine ⟨h.1, ?_⟩
    rw [Function.update_self]
    exact nil
  | cons b before ih =>
    have hnodup : (b :: before ++ a :: after).Nodup := nodup h
    have hne : b ≠ a := by
      intro heq
      simp [heq] at hnodup
    refine ⟨h.1, ?_⟩
    rw [Function.update_of_ne hne]
    exact ih h.2

/-
Following the new links from the old head, one gets to the cell that was linked in once more.
-/
theorem prefix_update {before after cells' : List α} (h : Chain next head (before ++ a :: after))
    (h' : Chain (Function.update next a link) head cells')
    : ∃ rest, cells' = before ++ a :: rest := by
  induction before generalizing head cells' with
  | nil =>
    cases cells' with
    | nil =>
      have hhead : head = none := h'
      rw [hhead] at h
      exact absurd h.1 (by simp)
    | cons b rest =>
      have hab : a = b := Option.some.inj (h.1.symm.trans h'.1)
      exact ⟨rest, by rw [hab]; rfl⟩
  | cons b before ih =>
    have hnodup : (b :: before ++ a :: after).Nodup := nodup h
    have hne : b ≠ a := by
      intro heq
      simp [heq] at hnodup
    cases cells' with
    | nil =>
      have hhead : head = none := h'
      rw [hhead] at h
      exact absurd h.1 (by simp)
    | cons b' cells' =>
      have hbb : b = b' := Option.some.inj (h.1.symm.trans h'.1)
      subst hbb
      have htail := h'.2
      rw [Function.update_of_ne hne] at htail
      obtain ⟨rest, heq⟩ := ih h.2 htail
      exact ⟨rest, by rw [heq]; rfl⟩

/-
Linking a cell in before a list that it is on closes a circle.
-/
theorem not_push_of_mem (h : Chain next head cells) (ha : a ∈ cells)
    : ¬∃ cells', Chain (Function.update next a head) (some a) cells' := by
  intro ⟨cells', h'⟩
  obtain ⟨before, after, heq⟩ := List.append_of_mem ha
  rw [heq] at h
  cases cells' with
  | nil => exact absurd h' (by simp [Chain])
  | cons b tail =>
    have hab : a = b := Option.some.inj h'.1
    subst hab
    have htail : Chain (Function.update next a head) head tail := by
      have hlink := h'.2
      rw [Function.update_self] at hlink
      exact hlink
    obtain ⟨rest, hrest⟩ := prefix_update h htail
    -- The cell comes again in the tail, so the list would be as long as a proper part of itself.
    have hnodup : (a :: tail).Nodup := nodup h'
    rw [hrest] at hnodup
    simp at hnodup

/-
A cell that is linked in behind the last one.
-/
theorem snoc {last : α} (h : Chain next head (cells ++ [last])) (ha : a ∉ cells ++ [last])
    (hend : next a = none)
    : Chain (Function.update next last (some a)) head (cells ++ [last] ++ [a]) := by
  induction cells generalizing head with
  | nil =>
    have hne : a ≠ last := by simpa using ha
    refine ⟨h.1, ?_⟩
    rw [Function.update_self]
    refine ⟨rfl, ?_⟩
    rw [Function.update_of_ne hne, hend]
    exact nil
  | cons b cells ih =>
    have hnodup : (b :: cells ++ [last]).Nodup := nodup h
    have hne : b ≠ last := by
      intro heq
      simp [heq] at hnodup
    rw [List.cons_append, List.mem_cons, not_or] at ha
    refine ⟨h.1, ?_⟩
    rw [Function.update_of_ne hne]
    exact ih h.2 ha.2

/-
A cell that is taken out from behind another one.
-/
theorem unlink {b : α} {before after : List α} (h : Chain next head (before ++ b :: a :: after))
    : Chain (Function.update next b (next a)) head (before ++ b :: after) := by
  induction before generalizing head with
  | nil =>
    have hnodup : (b :: a :: after).Nodup := nodup h
    have hb : b ∉ after := by
      intro hmem
      simp [hmem] at hnodup
    refine ⟨h.1, ?_⟩
    rw [Function.update_self]
    exact update_of_not_mem h.2.2 hb
  | cons c before ih =>
    have hnodup : (c :: before ++ b :: a :: after).Nodup := nodup h
    have hne : c ≠ b := by
      intro heq
      simp [heq] at hnodup
    refine ⟨h.1, ?_⟩
    rw [Function.update_of_ne hne]
    exact ih h.2

end Chain

/--
A linked list with a pointer to its last cell. The links of the cells that are not on it do not matter.
-/
structure LinkedQueue (next : α → Option α) (head tail : Option α) (cells : List α) : Prop where
  chain : Chain next head cells
  tail : tail = cells.getLast?

namespace LinkedQueue

variable {next : α → Option α} {head tail : Option α} {cells : List α}

theorem empty (next : α → Option α) : LinkedQueue next none none [] :=
  ⟨rfl, rfl⟩

theorem nodup (h : LinkedQueue next head tail cells) : cells.Nodup := h.chain.nodup

theorem head_eq (h : LinkedQueue next head tail cells) : head = cells.head? := by
  cases cells with
  | nil => exact h.chain
  | cons a cells => exact h.chain.1

variable [DecidableEq α] {a : α}

theorem put_empty (h : LinkedQueue next head none cells)
    : LinkedQueue (Function.update next a none) (some a) (some a) (cells ++ [a]) := by
  have hcells : cells = [] := List.getLast?_eq_none_iff.mp h.tail.symm
  subst hcells
  constructor
  . refine ⟨rfl, ?_⟩
    rw [Function.update_self]
    exact Chain.nil
  . rfl

theorem put {last : α} (h : LinkedQueue next head (some last) cells) (ha : a ∉ cells)
    : LinkedQueue (Function.update (Function.update next a none) last (some a)) head (some a)
        (cells ++ [a]) := by
  obtain ⟨before, hcells⟩ := List.getLast?_eq_some_iff.mp h.tail.symm
  subst hcells
  constructor
  . apply Chain.snoc (h.chain.update_of_not_mem ha) ha
    rw [Function.update_self]
  . simp

theorem get (h : LinkedQueue next head tail (a :: cells))
    : LinkedQueue (Function.update next a none) (next a) (if next a = none then none else tail)
        cells := by
  have hnodup := h.nodup
  rw [List.nodup_cons] at hnodup
  constructor
  . exact h.chain.2.update_of_not_mem hnodup.1
  . cases cells with
    | nil =>
      have hend : next a = none := h.chain.2
      rw [if_pos hend]
      rfl
    | cons b cells =>
      have hnext : next a = some b := h.chain.2.1
      rw [if_neg (by simp [hnext]), h.tail, List.getLast?_cons_cons]

/-
The first cell is taken out.
-/
theorem remove_head {after : List α} (h : LinkedQueue next head tail (a :: after))
    : LinkedQueue (Function.update next a none) (next a) (if tail = some a then none else tail)
        after := by
  have hget := h.get
  have hsame : (if tail = some a then none else tail) = if next a = none then none else tail := by
    rw [h.tail]
    cases after with
    | nil =>
      have hend : next a = none := h.chain.2
      simp [hend]
    | cons b after =>
      have hnext : next a = some b := h.chain.2.1
      have hne : (b :: after).getLast? ≠ some a := by
        intro hlast
        have hnodup := h.nodup
        rw [List.nodup_cons] at hnodup
        exact hnodup.1 (List.mem_of_getLast? hlast)
      rw [List.getLast?_cons_cons, if_neg hne, if_neg (by simp [hnext])]
  rw [hsame]
  exact hget

/-
A cell is taken out from behind `b`.
-/
theorem remove {b : α} {before after : List α}
    (h : LinkedQueue next head tail (before ++ b :: a :: after))
    : LinkedQueue (Function.update (Function.update next b (next a)) a none) head
        (if tail = some a then some b else tail) (before ++ b :: after) := by
  have hnodup := h.nodup
  have ha : a ∉ before ++ b :: after := by
    intro hmem
    rw [List.nodup_append] at hnodup
    simp only [List.mem_append, List.mem_cons] at hmem
    grind
  constructor
  . exact h.chain.unlink.update_of_not_mem ha
  . rw [h.tail]
    cases after with
    | nil => simp
    | cons c after =>
      have hlast : (before ++ b :: a :: c :: after).getLast?
          = (before ++ b :: c :: after).getLast? := by
        simp
      rw [hlast]
      have hne : (before ++ b :: c :: after).getLast? ≠ some a := by
        intro hlast
        exact ha (List.mem_of_getLast? hlast)
      rw [if_neg hne]

end LinkedQueue
end Lib

import Mathlib.Data.List.Basic
import Mathlib.Data.List.GetD

/-!
This module contains putting a content together from pieces of it, which come in any order and may overlap, with
a mark for each cell that has been written and a count of the marks.
-/

namespace Lib

variable {α : Type}

/--
The count is the number of the marks, and each cell has one.
-/
structure Assembly (α : Type) where
  cells : List α
  map : List Bool
  received : Nat
  length_eq : map.length = cells.length
  received_eq : received = map.count true

namespace Assembly

def fresh (cells : List α) : Assembly α where
  cells := cells
  map := List.replicate cells.length false
  received := 0
  length_eq := by simp
  received_eq := by simp [List.count_replicate]

def put (a : Assembly α) (i : Nat) (x : α) (h : i < a.cells.length) : Assembly α where
  cells := a.cells.set i x
  map := a.map.set i true
  received := if a.map.getD i false then a.received else a.received + 1
  length_eq := by simp [a.length_eq]
  received_eq := by
    have hlength := a.length_eq
    have hi : i < a.map.length := by
      omega
    rw [List.count_set hi]
    rw [List.getD_eq_getElem _ _ hi]
    rw [a.received_eq]
    cases hmark : a.map[i] with
    | false => simp
    | true =>
      have hpos : 0 < a.map.count true := by
        apply List.count_pos_iff.mpr
        rw [← hmark]
        apply List.getElem_mem
      simp
      omega

@[simp]
theorem length_cells_put {a : Assembly α} {i : Nat} {x : α} (h : i < a.cells.length)
    : (a.put i x h).cells.length = a.cells.length := by
  simp [put]

/-
The elements of a piece one after the other.
-/
def copy (a : Assembly α) (offset : Nat) (data : List α) (h : offset + data.length ≤ a.cells.length)
    : Assembly α :=
  match data with
  | [] => a
  | x :: data =>
    (a.put offset x (by rw [List.length_cons] at h; omega)).copy (offset + 1) data
      (by rw [List.length_cons] at h; rw [length_cells_put]; omega)

variable {a : Assembly α} {offset : Nat} {data : List α}

@[simp]
theorem length_cells_copy (h : offset + data.length ≤ a.cells.length)
    : (a.copy offset data h).cells.length = a.cells.length := by
  induction data generalizing a offset with
  | nil => rfl
  | cons x data ih =>
    unfold copy
    rw [ih]
    apply length_cells_put

/--
The cells that have been written, and what stands in them.
-/
structure Holds (a : Assembly α) (content : List α) : Prop where
  length_eq : a.cells.length = content.length
  cell_eq : ∀ i, a.map.getD i false = true → a.cells[i]? = content[i]?

theorem holds_fresh {cells content : List α} (h : cells.length = content.length)
    : (fresh cells).Holds content where
  length_eq := h
  cell_eq := by
    intro i hmark
    simp [fresh] at hmark

theorem getD_map_put {i j : Nat} {x : α} (h : i < a.cells.length)
    : (a.put i x h).map.getD j false = (decide (j = i) || a.map.getD j false) := by
  have hlength := a.length_eq
  simp only [put, List.getD_eq_getElem?_getD, List.getElem?_set]
  by_cases heq : i = j
  . subst heq
    simp [hlength, h]
  . have hne : ¬j = i := fun hji => heq hji.symm
    simp [heq, hne]

theorem Holds.put {content : List α} (hholds : a.Holds content) {i : Nat} {x : α} (h : i < a.cells.length)
    (hx : content[i]? = some x)
    : (a.put i x h).Holds content where
  length_eq := by
    rw [length_cells_put]
    exact hholds.length_eq
  cell_eq := by
    intro j hmark
    rw [getD_map_put] at hmark
    unfold Assembly.put
    by_cases heq : i = j
    . subst heq
      simp [h, hx]
    . have hne : ¬j = i := fun hji => heq hji.symm
      simp only [hne, decide_false, Bool.false_or] at hmark
      rw [List.getElem?_set_ne heq]
      exact hholds.cell_eq j hmark

theorem getD_map_copy (h : offset + data.length ≤ a.cells.length) (j : Nat)
    : (a.copy offset data h).map.getD j false
        = (decide (offset ≤ j ∧ j < offset + data.length) || a.map.getD j false) := by
  induction data generalizing a offset with
  | nil =>
    unfold copy
    rw [decide_eq_false]
    . simp
    . simp only [List.length_nil]
      omega
  | cons x data ih =>
    unfold copy
    rw [ih]
    rw [getD_map_put]
    rw [List.length_cons]
    rw [← Bool.or_assoc]
    congr 1
    by_cases heq : j = offset
    . simp [heq]
    . simp only [heq, decide_false, Bool.or_false, decide_eq_decide]
      omega

theorem Holds.copy {content : List α} (hholds : a.Holds content) (h : offset + data.length ≤ a.cells.length)
    (hdata : data <+: content.drop offset)
    : (a.copy offset data h).Holds content := by
  induction data generalizing a offset with
  | nil => exact hholds
  | cons x data ih =>
    unfold Assembly.copy
    have hlt : offset < content.length := by
      rw [← hholds.length_eq]
      rw [List.length_cons] at h
      omega
    rw [List.drop_eq_getElem_cons hlt] at hdata
    have hhead := (List.cons_prefix_cons.mp hdata)
    apply ih
    . apply hholds.put
      rw [List.getElem?_eq_getElem hlt, hhead.1]
    . exact hhead.2

/-
With every cell marked all of the content is there, and the count tells so.
-/
theorem received_eq_length_iff (a : Assembly α)
    : a.received = a.cells.length ↔ ∀ i < a.cells.length, a.map.getD i false = true := by
  rw [a.received_eq, ← a.length_eq]
  rw [List.count_eq_length]
  constructor
  . intro hall i hi
    rw [List.getD_eq_getElem _ _ hi]
    exact (hall _ (List.getElem_mem hi)).symm
  . intro hall b hb
    obtain ⟨i, hi, heq⟩ := List.mem_iff_getElem.mp hb
    have hmark := hall i hi
    rw [List.getD_eq_getElem _ _ hi] at hmark
    rw [← heq]
    exact hmark.symm

theorem Holds.cells_eq {content : List α} (hholds : a.Holds content) (hall : a.received = a.cells.length)
    : a.cells = content := by
  apply List.ext_getElem?
  intro i
  by_cases hi : i < a.cells.length
  . exact hholds.cell_eq i ((received_eq_length_iff a).mp hall i hi)
  . rw [List.getElem?_eq_none (by omega)]
    rw [List.getElem?_eq_none]
    rw [← hholds.length_eq]
    omega

end Assembly

end Lib

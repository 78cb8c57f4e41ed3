import Mathlib.Data.List.Infix

/-!
This module contains delimiters that cannot overlap themselves, the search for the end of the first one in a
list, and the pieces into which they cut a list.
-/

namespace Lib

variable {α : Type}

/--
No proper end of a delimiter is also its beginning, so that the one that was written is the one found.
-/
structure Delimiter (α : Type) where
  word : List α
  nonempty : word ≠ []
  borderless : ∀ part, part ≠ [] → part <+: word → part <:+ word → part = word

namespace Delimiter

variable {d : Delimiter α}

/-
A delimiter that begins in `xs` and ends behind it would overlap the one that follows `xs`.
-/
theorem not_prefix_append {xs : List α} (hne : xs ≠ []) (h : ¬d.word <+: xs) (ys : List α)
    : ¬d.word <+: xs ++ (d.word ++ ys) := by
  intro hbegins
  cases List.prefix_or_prefix_of_prefix hbegins (List.prefix_append xs (d.word ++ ys)) with
  | inl hle => contradiction
  | inr hle =>
    cases hle with
    | intro part hpart =>
      have hover : part <+: d.word ++ ys := by
        apply (List.prefix_append_right_inj xs).mp
        rw [hpart]
        assumption
      have hlength : xs.length + part.length = d.word.length := by
        rw [← hpart]
        simp
      have hinitial : part <+: d.word := by
        apply List.prefix_of_prefix_length_le hover
        . apply List.prefix_append
        . omega
      have hxs : 0 < xs.length := List.length_pos_of_ne_nil hne
      by_cases hnil : part = []
      . apply h
        rw [← hpart, hnil, List.append_nil]
      . have hall : part = d.word := by
          apply d.borderless part hnil hinitial
          exact ⟨xs, hpart⟩
        rw [hall] at hlength
        omega

/-
Elements that do not end a delimiter do not complete one.
-/
theorem not_infix_append {xs ys : List α} (h : ¬d.word <:+: xs) (hys : ∀ y, y ∈ ys → d.word.getLast? ≠ some y)
    : ¬d.word <:+: xs ++ ys := by
  induction ys using List.reverseRecOn with
  | nil => simpa using h
  | append_singleton ys y ih =>
    rw [← List.append_assoc]
    intro hoccurs
    cases List.infix_concat_iff.mp hoccurs with
    | inl hsuffix =>
      apply hys y
      . simp
      . cases hsuffix with
        | intro front hfront =>
          have hlast := congrArg List.getLast? hfront
          rw [List.getLast?_concat] at hlast
          rw [List.getLast?_append_of_ne_nil _ d.nonempty] at hlast
          assumption
    | inr hoccurs =>
      apply ih
      . intro y' hy'
        apply hys
        simp [hy']
      . assumption

variable [DecidableEq α]

/-
Where the first delimiter ends, or else where the list ends.
-/
def endOfFirst (d : Delimiter α) (xs : List α) : Nat :=
  match xs with
  | [] => 0
  | x :: xs => if d.word <+: x :: xs then d.word.length else 1 + d.endOfFirst xs

theorem endOfFirst_pos (d : Delimiter α) {xs : List α} (h : xs ≠ []) : 0 < d.endOfFirst xs := by
  cases xs with
  | nil => contradiction
  | cons x xs =>
    unfold endOfFirst
    split
    . apply List.length_pos_of_ne_nil
      apply d.nonempty
    . omega

theorem endOfFirst_of_absent {xs : List α} (h : ¬d.word <:+: xs) : d.endOfFirst xs = xs.length := by
  induction xs with
  | nil => simp [endOfFirst]
  | cons x xs ih =>
    unfold endOfFirst
    rw [if_neg]
    . rw [ih]
      . rw [List.length_cons]
        omega
      . intro hoccurs
        apply h
        apply List.infix_cons
        assumption
    . intro hbegins
      apply h
      apply hbegins.isInfix

theorem endOfFirst_append {xs : List α} (h : ¬d.word <:+: xs) (ys : List α)
    : d.endOfFirst (xs ++ (d.word ++ ys)) = xs.length + d.word.length := by
  induction xs with
  | nil =>
    rw [List.nil_append]
    have hbegins := List.prefix_append d.word ys
    cases hword : d.word ++ ys with
    | nil =>
      have hnil := d.nonempty
      simp_all
    | cons x rest =>
      unfold endOfFirst
      rw [← hword, if_pos hbegins]
      simp
  | cons x xs ih =>
    have hbegins : ¬d.word <+: x :: xs := by
      intro hbegins
      apply h
      apply hbegins.isInfix
    have hrest : ¬d.word <:+: xs := by
      intro hoccurs
      apply h
      apply List.infix_cons
      assumption
    have hnot := not_prefix_append (List.cons_ne_nil x xs) hbegins ys
    rw [List.cons_append] at hnot ⊢
    unfold endOfFirst
    rw [if_neg hnot]
    rw [ih hrest]
    rw [List.length_cons]
    omega

/-
The list cut behind each delimiter.
-/
def pieces (d : Delimiter α) (xs : List α) : List (List α) :=
  if _h : xs = [] then
    []
  else
    xs.take (d.endOfFirst xs) :: d.pieces (xs.drop (d.endOfFirst xs))
termination_by xs.length
decreasing_by
  have hpos := d.endOfFirst_pos _h
  have hlength := List.length_pos_of_ne_nil _h
  rw [List.length_drop]
  omega

theorem pieces_nil (d : Delimiter α) : d.pieces [] = [] := by
  unfold pieces
  simp

theorem pieces_append {xs : List α} (h : ¬d.word <:+: xs) (ys : List α)
    : d.pieces (xs ++ (d.word ++ ys)) = (xs ++ d.word) :: d.pieces ys := by
  have hne : xs ++ (d.word ++ ys) ≠ [] := by
    have hnil := d.nonempty
    simp_all
  conv =>
    lhs
    unfold pieces
  rw [dif_neg hne]
  rw [endOfFirst_append h]
  rw [← List.append_assoc]
  rw [← List.length_append]
  rw [List.take_left, List.drop_left]

theorem flatten_pieces (d : Delimiter α) (xs : List α) : (d.pieces xs).flatten = xs := by
  fun_induction d.pieces xs with
  | case1 => simp
  | case2 xs h ih =>
    rw [List.flatten_cons]
    rw [ih]
    rw [List.take_append_drop]

end Delimiter

end Lib

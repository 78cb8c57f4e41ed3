import Mathlib.Data.Nat.Find
import Mathlib.Data.Stream.Init

/-!
This module contains loops that hand over data until all of it is taken, where each attempt may take a part
of it, take nothing or end the loop, and what such a loop does on an endless stream of results.
-/

namespace Lib

/-
What a result of an attempt means for the loop. What is taken beyond the data does not count.
-/
inductive Progress where
  | took (n : Nat)
  | retry
  | stop
  deriving DecidableEq

/--
What has been taken of the data and what is left of it, after results of which `rest` are not used. Where
something is left and the loop has not stopped, it waits for the next result.
-/
structure Transmission (α β : Type) where
  sent : List α
  left : List α
  stopped : Bool
  rest : List β

variable {α β : Type} (progress : β → Progress)

def transmit (data : List α) (results : List β) : Transmission α β :=
  match data, results with
  | [], results => ⟨[], [], false, results⟩
  | d :: data, [] => ⟨[], d :: data, false, []⟩
  | d :: data, r :: results =>
    match progress r with
    | .stop => ⟨[], d :: data, true, results⟩
    | .retry => transmit (d :: data) results
    | .took n =>
      let t := transmit ((d :: data).drop n) results
      { t with sent := (d :: data).take n ++ t.sent }

def Transmission.Waits (t : Transmission α β) : Prop :=
  t.left ≠ [] ∧ t.stopped = false

/-
Nothing more is taken, and the loop does not stop either.
-/
def Idle (r : β) : Prop :=
  progress r = .retry ∨ progress r = .took 0

/-
How much is taken before the loop stops, if there is enough data.
-/
def accepts (results : List β) : Nat :=
  match results with
  | [] => 0
  | r :: results =>
    match progress r with
    | .stop => 0
    | .retry => accepts results
    | .took n => n + accepts results

theorem transmit_nil (results : List β)
    : transmit progress ([] : List α) results = ⟨[], [], false, results⟩ := by
  cases results <;> rfl

theorem transmit_no_results (data : List α)
    : transmit progress data [] = ⟨[], data, false, []⟩ := by
  cases data <;> rfl

theorem transmit_cons {data : List α} (hdata : data ≠ []) (r : β) (results : List β)
    : transmit progress data (r :: results)
        = match progress r with
          | .stop => ⟨[], data, true, results⟩
          | .retry => transmit progress data results
          | .took n =>
            let t := transmit progress (data.drop n) results
            { t with sent := data.take n ++ t.sent } := by
  cases data with
  | nil => contradiction
  | cons d data => rfl

theorem transmit_sent (data : List α) (results : List β)
    : (transmit progress data results).sent ++ (transmit progress data results).left = data := by
  induction results generalizing data with
  | nil => rw [transmit_no_results, List.nil_append]
  | cons r results ih =>
    by_cases hdata : data = []
    . rw [hdata, transmit_nil]
      rfl
    . rw [transmit_cons progress hdata]
      cases progress r with
      | stop => rfl
      | retry => apply ih
      | took n =>
        dsimp only
        rw [List.append_assoc, ih, List.take_append_drop]

theorem transmit_sent_eq (data : List α) (results : List β)
    : (transmit progress data results).sent = data.take (accepts progress results) := by
  induction results generalizing data with
  | nil =>
    rw [transmit_no_results]
    rfl
  | cons r results ih =>
    by_cases hdata : data = []
    . rw [hdata, transmit_nil, List.take_nil]
    . rw [transmit_cons progress hdata, accepts]
      cases progress r with
      | stop => rfl
      | retry => apply ih
      | took n =>
        dsimp only
        rw [ih, List.take_add]

/-
The loop goes on with more results from where it waits for them, and does not use them where it has ended.
-/
theorem transmit_append (data : List α) (results more : List β)
    : let t := transmit progress data results
      (t.Waits → transmit progress data (results ++ more)
          = { transmit progress t.left more with
              sent := t.sent ++ (transmit progress t.left more).sent })
        ∧ (¬t.Waits → transmit progress data (results ++ more) = { t with rest := t.rest ++ more }) := by
  induction results generalizing data with
  | nil =>
    rw [transmit_no_results, List.nil_append]
    dsimp only
    constructor
    . intro _
      rw [List.nil_append]
    . intro hended
      have hdata : data = [] := by
        by_contra h
        exact hended ⟨h, rfl⟩
      rw [hdata, transmit_nil, List.nil_append]
  | cons r results ih =>
    rw [List.cons_append]
    by_cases hdata : data = []
    . rw [hdata, transmit_nil, transmit_nil]
      constructor
      . intro hwaits
        exact absurd rfl hwaits.1
      . intro _
        rfl
    . rw [transmit_cons progress hdata, transmit_cons progress hdata]
      cases hprogress : progress r with
      | stop =>
        constructor
        . intro hwaits
          cases hwaits.2
        . intro _
          rfl
      | retry => apply ih
      | took n =>
        dsimp only
        obtain ⟨hwaiting, hended⟩ := ih (data.drop n)
        constructor
        . intro hwaits
          rw [hwaiting hwaits]
          dsimp only
          rw [List.append_assoc]
        . intro h
          rw [hended h]

theorem transmit_idle {data : List α} (hdata : data ≠ []) {results : List β}
    (hidle : ∀ r ∈ results, Idle progress r)
    : transmit progress data results = ⟨[], data, false, []⟩ := by
  induction results with
  | nil => apply transmit_no_results
  | cons r results ih =>
    rw [List.forall_mem_cons] at hidle
    rw [transmit_cons progress hdata]
    cases hidle.1 with
    | inl hretry =>
      rw [hretry]
      apply ih hidle.2
    | inr htook =>
      rw [htook]
      dsimp only
      rw [List.drop_zero, ih hidle.2, List.take_zero]
      rfl

theorem mem_take {s : Stream' β} {n : Nat} {r : β} (h : r ∈ s.take n) : ∃ k, k < n ∧ s.get k = r := by
  obtain ⟨k, hk, hget⟩ := List.getElem_of_mem h
  rw [Stream'.take_get] at hget
  rw [Stream'.length_take] at hk
  exact ⟨k, hk, hget⟩

/--
On an endless stream of results the loop either ends with a result, or it waits at a point from which on all
results are idle.
-/
theorem transmit_ends_or_idle (data : List α) (s : Stream' β)
    : ∃ n, (¬(transmit progress data (s.take n)).Waits ∧ (transmit progress data (s.take n)).rest = [])
        ∨ ((transmit progress data (s.take n)).Waits ∧ ∀ k, n ≤ k → Idle progress (s.get k)) := by
  by_cases hdata : data = []
  . exists 0
    rw [hdata, transmit_nil]
    exact Or.inl ⟨fun h => h.1 rfl, rfl⟩
  by_cases hall : ∀ k, Idle progress (s.get k)
  . exists 0
    rw [Stream'.take_zero, transmit_no_results]
    exact Or.inr ⟨⟨hdata, rfl⟩, fun k _ => hall k⟩
  classical
  -- the results before the first one that is not idle leave the data as it is
  have hfirst : ∃ k, ¬Idle progress (s.get k) := not_forall.mp hall
  have hidle : ∀ r ∈ s.take (Nat.find hfirst), Idle progress r := by
    intro r hr
    obtain ⟨k, hk, hget⟩ := mem_take hr
    rw [← hget]
    exact not_not.mp (Nat.find_min hfirst hk)
  have hat := Nat.find_spec hfirst
  generalize Nat.find hfirst = first at hidle hat
  have hbefore := transmit_idle progress hdata hidle
  have hstep : ∀ n, transmit progress data (s.take (first + (1 + n)))
      = transmit progress data (s.get first :: (s.drop (first + 1)).take n) := by
    intro n
    have hwaiting := (transmit_append progress data (s.take first) ((s.drop first).take (1 + n))).1
    rw [hbefore] at hwaiting
    rw [Stream'.take_add, hwaiting ⟨hdata, rfl⟩, Nat.add_comm 1 n, Stream'.take_succ, Stream'.head_drop,
      Stream'.tail_drop']
    dsimp only
    rw [List.nil_append]
  cases hprogress : progress (s.get first) with
  | retry => exact absurd (Or.inl hprogress) hat
  | stop =>
    exists first + (1 + 0)
    rw [hstep, transmit_cons progress hdata, hprogress]
    refine Or.inl ⟨?_, rfl⟩
    intro hwaits
    cases hwaits.2
  | took n =>
    have hpos : n ≠ 0 := by
      intro hzero
      rw [hzero] at hprogress
      exact hat (Or.inr hprogress)
    have hshorter : (data.drop n).length < data.length := by
      have := List.length_pos_iff.mpr hdata
      rw [List.length_drop]
      omega
    obtain ⟨m, hm⟩ := transmit_ends_or_idle (data.drop n) (s.drop (first + 1))
    exists first + (1 + m)
    rw [hstep, transmit_cons progress hdata, hprogress]
    cases hm with
    | inl hended => exact Or.inl hended
    | inr hwaits =>
      refine Or.inr ⟨hwaits.1, ?_⟩
      intro k hk
      have hget := hwaits.2 (k - (first + 1)) (by omega)
      rw [Stream'.get_drop] at hget
      have hindex : first + 1 + (k - (first + 1)) = k := by
        omega
      rw [hindex] at hget
      exact hget
termination_by data.length

end Lib

import Mathlib.Data.List.Basic

/-!
This module contains steps that take in a piece of an input and give out a piece of the output. Where a step
is homomorphic, it does not matter into which pieces the input is cut.
-/

namespace Lib

variable {σ α β ε : Type}

abbrev ChunkStep (σ α β ε : Type) := σ → List α → Except ε (σ × List β)

/-
First one step, then another from the state that it leads to.
-/
def chunkThen (res : Except ε (σ × List β)) (next : σ → Except ε (σ × List β))
    : Except ε (σ × List β) :=
  res.bind fun (s, out) => (next s).map fun (s', out') => (s', out ++ out')

/--
Nothing is said of an empty piece, which need not leave the state as it is.
-/
def Homomorphic (step : ChunkStep σ α β ε) : Prop :=
  ∀ s input input', input ≠ [] → input' ≠ [] →
    step s (input ++ input') = chunkThen (step s input) (step · input')

/-
A step that is not made for an empty piece.
-/
def skipEmpty (step : ChunkStep σ α β ε) : ChunkStep σ α β ε := fun s input =>
  match input with
  | [] => .ok (s, [])
  | _ :: _ => step s input

def stepAll (step : ChunkStep σ α β ε) (s : σ) (pieces : List (List α)) : Except ε (σ × List β) :=
  match pieces with
  | [] => .ok (s, [])
  | piece :: pieces => chunkThen (step s piece) (stepAll step · pieces)

theorem chunkThen_ok (s : σ) (next : σ → Except ε (σ × List β))
    : chunkThen (.ok (s, [])) next = next s := by
  unfold chunkThen
  change (next s).map _ = next s
  cases next s with
  | error e => rfl
  | ok res => rfl

theorem chunkThen_nil (res : Except ε (σ × List β))
    : chunkThen res (fun s => .ok (s, [])) = res := by
  unfold chunkThen
  cases res with
  | error e => rfl
  | ok res =>
    change Except.ok (res.1, res.2 ++ []) = _
    rw [List.append_nil]

theorem skipEmpty_of_ne_nil {step : ChunkStep σ α β ε} {input : List α} (h : input ≠ []) (s : σ)
    : skipEmpty step s input = step s input := by
  cases input with
  | nil => contradiction
  | cons a input => rfl

theorem Homomorphic.skipEmpty_append {step : ChunkStep σ α β ε} (h : Homomorphic step) (s : σ)
    (input input' : List α)
    : skipEmpty step s (input ++ input')
        = chunkThen (skipEmpty step s input) (skipEmpty step · input') := by
  by_cases hnil : input = []
  . rw [hnil]
    change _ = chunkThen (.ok (s, [])) _
    rw [chunkThen_ok]
    rfl
  by_cases hnil' : input' = []
  . rw [hnil', List.append_nil]
    exact (chunkThen_nil _).symm
  rw [skipEmpty_of_ne_nil hnil, skipEmpty_of_ne_nil (by simp [hnil]), h s input input' hnil hnil']
  congr 1
  funext s'
  rw [skipEmpty_of_ne_nil hnil']

/--
However an input is cut, its pieces come to the same as the whole.
-/
theorem Homomorphic.stepAll_flatten {step : ChunkStep σ α β ε} (h : Homomorphic step) (s : σ)
    (pieces : List (List α))
    : stepAll (skipEmpty step) s pieces = skipEmpty step s pieces.flatten := by
  induction pieces generalizing s with
  | nil => rfl
  | cons piece pieces ih =>
    rw [List.flatten_cons, h.skipEmpty_append]
    unfold stepAll
    congr 1
    funext s'
    exact ih s'

/--
A loop that takes an input in pieces of at most `size` comes to the same as one step with the whole.
-/
theorem Homomorphic.loop_eq {step : ChunkStep σ α β ε} (h : Homomorphic step) {size : Nat}
    (hsize : 0 < size) {loop : Nat → ChunkStep σ α β ε} (hnil : ∀ fuel s, loop fuel s [] = .ok (s, []))
    (hpiece : ∀ fuel s input, input ≠ [] → loop (fuel + 1) s input
      = chunkThen (step s (input.take (min input.length size)))
          (loop fuel · (input.drop (min input.length size))))
    {fuel : Nat} {input : List α} (hfuel : input.length ≤ fuel) (s : σ)
    : loop fuel s input = skipEmpty step s input := by
  induction fuel generalizing input s with
  | zero =>
    have hempty : input = [] := by
      apply List.eq_nil_of_length_eq_zero
      omega
    rw [hempty, hnil]
    rfl
  | succ fuel ih =>
    by_cases hempty : input = []
    . rw [hempty, hnil]
      rfl
    have hpos := List.length_pos_of_ne_nil hempty
    have hpiece' : input.take (min input.length size) ≠ [] := by
      apply List.ne_nil_of_length_pos
      rw [List.length_take]
      omega
    rw [hpiece fuel s input hempty]
    conv => rhs; rw [← List.take_append_drop (min input.length size) input]
    rw [h.skipEmpty_append, skipEmpty_of_ne_nil hpiece']
    congr 1
    funext s'
    apply ih
    rw [List.length_drop]
    omega

end Lib

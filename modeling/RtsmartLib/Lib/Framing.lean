import Mathlib.Data.List.Infix

/-!
This module contains codes whose words tell their own length, and the reading of one word off a stream.
-/

namespace Lib

variable {α : Type}

/--
`size` is the length of the word that begins with what has been read, as soon as that tells it.
-/
structure LengthCode (α : Type) where
  size : List α → Option Nat
  stable : ∀ {read : List α} {n : Nat}, size read = some n → ∀ more, size (read ++ more) = some n

namespace LengthCode

def Word (code : LengthCode α) (word : List α) : Prop := code.size word = some word.length

variable {code : LengthCode α} {word : List α}

theorem Word.eq_of_prefix {word' : List α} (h : code.Word word) (h' : code.Word word')
    (hinitial : word <+: word')
    : word = word' := by
  obtain ⟨more, hmore⟩ := hinitial
  have hsize := code.stable h more
  rw [hmore, h'] at hsize
  apply List.IsPrefix.eq_of_length
  . exact ⟨more, hmore⟩
  . exact (Option.some.inj hsize).symm

end LengthCode

/-
What a reader makes of what it has read.
-/
inductive Reading where
  | more
  | done
  | stop
deriving DecidableEq

/-
Reads an input element by element until that makes a word or is given up.
-/
def readWord (look : List α → Reading) (read input : List α) : Option (List α) × List α :=
  match input with
  | [] => (none, [])
  | a :: input =>
    match look (read ++ [a]) with
    | .more => readWord look (read ++ [a]) input
    | .done => (some (read ++ [a]), input)
    | .stop => (none, input)

/-
The reader has taken `head` when it comes to a decision about it, and not before.
-/
theorem readWord_append {look : List α → Reading} (read head rest : List α) (hne : head ≠ [])
    (hmore : ∀ part, part ≠ [] → part <+: head → part ≠ head → look (read ++ part) = .more)
    (hdecided : look (read ++ head) ≠ .more)
    : readWord look read (head ++ rest)
        = (if look (read ++ head) = .done then some (read ++ head) else none, rest) := by
  induction head generalizing read with
  | nil => contradiction
  | cons a head ih =>
    rw [List.cons_append]
    unfold readWord
    by_cases hnil : head = []
    . subst hnil
      cases hlook : look (read ++ [a]) with
      | more => contradiction
      | done => simp
      | stop => simp
    . have hfirst : look (read ++ [a]) = .more := by
        apply hmore
        . exact List.cons_ne_nil a []
        . exact List.prefix_append [a] head
        . intro heq
          exact hnil (List.cons.inj heq).2.symm
      rw [hfirst]
      dsimp only
      rw [List.append_cons read a head] at hdecided ⊢
      apply ih
      . exact hnil
      . intro part hpart hinitial hpart'
        rw [List.append_assoc]
        apply hmore
        . exact List.cons_ne_nil a part
        . exact (List.prefix_cons_inj a).mpr hinitial
        . intro heq
          exact hpart' (List.cons.inj heq).2
      . exact hdecided

end Lib

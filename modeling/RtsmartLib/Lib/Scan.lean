import Mathlib.Data.Nat.Digits.Lemmas
import RtsmartLib.Lib.Memory

/-!
This module contains words and decimal numbers in text, as `sscanf` reads and `printf` writes them, and the search for a
word.
-/

namespace Lib

def isSpace (c : Byte) : Bool :=
  c = 0x20 || 0x09 ≤ c && c ≤ 0x0d

def isDigit (c : Byte) : Bool :=
  0x30 ≤ c && c ≤ 0x39

def skipSpaces (text : List Byte) : List Byte :=
  text.dropWhile isSpace

/-
`%s` with a width.
-/
def scanWord (width : Nat) (text : List Byte) : Option (List Byte × List Byte) :=
  let text := skipSpaces text
  let word := (text.take width).takeWhile (!isSpace ·)
  if word = [] then none else some (word, text.drop word.length)

def decimal (digits : List Byte) : Nat :=
  digits.foldl (fun n c => n * 10 + (c.toNat - 0x30)) 0

/-
`%d` and `%u`, which both take a sign. A number of more than 32 bits, which is undefined in C, wraps.
-/
def scanNumber (text : List Byte) : Option (BitVec 32 × List Byte) :=
  let text := skipSpaces text
  let signed := text.head? = some 0x2b ∨ text.head? = some 0x2d
  let unsigned := if signed then text.drop 1 else text
  let digits := unsigned.takeWhile isDigit
  if digits = [] then
    none
  else
    let n := BitVec.ofNat 32 (decimal digits)
    some (if text.head? = some 0x2d then -n else n, unsigned.drop digits.length)

def scanLiteral (literal text : List Byte) : Option (List Byte) :=
  if literal <+: text then some (text.drop literal.length) else none

/-
What follows the first place where `strstr` finds a word, the word included.
-/
def strstr? (text word : List Byte) : Option (List Byte) :=
  text.tails.find? fun rest => word <+: rest

def toLower (c : Byte) : Byte :=
  if 0x41 ≤ c ∧ c ≤ 0x5a then c + 0x20 else c

def digitByte (d : Nat) : Byte := BitVec.ofNat 8 (d + 0x30)

/-
`%u`, and `%d` of what is not negative.
-/
def decimalText (n : Nat) : List Byte :=
  if n = 0 then [0x30] else (Nat.digits 10 n).reverse.map digitByte

section Scan

/-
A piece of text that `%s` takes as a whole.
-/
structure WordText (word : List Byte) : Prop where
  nonempty : word ≠ []
  solid : ∀ c ∈ word, isSpace c = false

def Ends (rest : List Byte) : Prop :=
  ∀ c, rest.head? = some c → isSpace c = true

theorem takeWhile_word {p : Byte → Bool} {word rest : List Byte} (hword : ∀ c ∈ word, p c = true)
    (hrest : ∀ c, rest.head? = some c → p c = false)
    : (word ++ rest).takeWhile p = word := by
  rw [List.takeWhile_append_of_pos hword]
  cases rest with
  | nil => rw [List.takeWhile_nil, List.append_nil]
  | cons c rest => rw [List.takeWhile_cons_of_neg (by simp [hrest c rfl]), List.append_nil]

theorem skipSpaces_word {word : List Byte} (h : WordText word) (rest : List Byte)
    : skipSpaces (word ++ rest) = word ++ rest := by
  cases hword : word with
  | nil => exact absurd hword h.nonempty
  | cons c word =>
    have hc := h.solid c (by rw [hword]; exact List.mem_cons_self)
    exact List.dropWhile_cons_of_neg (by simp [hc])

theorem scanWord_word {word rest : List Byte} (h : WordText word) {width : Nat} (hwidth : word.length ≤ width)
    (hrest : Ends rest)
    : scanWord width (word ++ rest) = some (word, rest) := by
  have htake : ((word ++ rest).take width).takeWhile (!isSpace ·) = word := by
    rw [List.take_append, List.take_of_length_le hwidth]
    apply takeWhile_word
    . intro c hc
      simp [h.solid c hc]
    . intro c hc
      rw [List.head?_take] at hc
      split at hc
      . contradiction
      . simp [hrest c hc]
  unfold scanWord
  dsimp only
  rw [skipSpaces_word h, htake, if_neg h.nonempty, List.drop_left]

theorem scanWord_space (width : Nat) (text : List Byte) : scanWord width (0x20 :: text) = scanWord width text := rfl

theorem scanNumber_space (text : List Byte) : scanNumber (0x20 :: text) = scanNumber text := rfl

theorem scanLiteral_append (literal text : List Byte) : scanLiteral literal (literal ++ text) = some text := by
  rw [scanLiteral, if_pos (List.prefix_append literal text), List.drop_left]

end Scan

section Decimal

theorem isDigit_digitByte {d : Nat} (h : d < 10) : isDigit (digitByte d) = true := by
  have hall : ∀ d < 10, isDigit (digitByte d) = true := by decide
  exact hall d h

theorem toNat_digitByte {d : Nat} (h : d < 10) : (digitByte d).toNat - 0x30 = d := by
  have hall : ∀ d < 10, (digitByte d).toNat - 0x30 = d := by decide
  exact hall d h

theorem isDigit_decimalText {n : Nat} {c : Byte} (hc : c ∈ decimalText n) : isDigit c = true := by
  unfold decimalText at hc
  split at hc
  . rw [List.mem_singleton.mp hc]
    decide
  . rw [List.mem_map] at hc
    obtain ⟨d, hd, hdigit⟩ := hc
    rw [← hdigit]
    exact isDigit_digitByte (Nat.digits_lt_base (by decide) (List.mem_reverse.mp hd))

theorem decimal_map (digits : List Nat) (h : ∀ d ∈ digits, d < 10)
    : decimal (digits.reverse.map digitByte) = Nat.ofDigits 10 digits := by
  induction digits with
  | nil => rfl
  | cons d digits ih =>
    rw [List.forall_mem_cons] at h
    have hrest := ih h.2
    rw [decimal] at hrest ⊢
    rw [List.reverse_cons, List.map_append, List.foldl_append, hrest]
    rw [List.map_cons, List.map_nil, List.foldl_cons, List.foldl_nil, toNat_digitByte h.1, Nat.ofDigits_cons]
    rw [Nat.mul_comm, Nat.add_comm]

theorem decimal_decimalText (n : Nat) : decimal (decimalText n) = n := by
  unfold decimalText
  split
  . next hzero => rw [hzero]; rfl
  . rw [decimal_map _ fun d hd => Nat.digits_lt_base (by decide) hd, Nat.ofDigits_digits]

theorem decimalText_ne_nil (n : Nat) : decimalText n ≠ [] := by
  unfold decimalText
  split
  . simp
  . next hne => simpa using Nat.digits_ne_nil_iff_ne_zero.mpr hne

theorem length_decimalText {n k : Nat} (hk : 0 < k) (h : n < 10 ^ k) : (decimalText n).length ≤ k := by
  unfold decimalText
  split
  . exact hk
  . rw [List.length_map, List.length_reverse]
    exact (Nat.digits_length_le_iff (by decide) n).mpr h

theorem not_isSpace_of_isDigit {c : Byte} (h : isDigit c = true) : isSpace c = false := by
  have hall : ∀ c : Byte, isDigit c = true → isSpace c = false := by decide
  exact hall c h

theorem word_decimalText (n : Nat) : WordText (decimalText n) where
  nonempty := decimalText_ne_nil n
  solid _ hc := not_isSpace_of_isDigit (isDigit_decimalText hc)

theorem scanNumber_decimalText {n : Nat} {rest : List Byte}
    (hrest : ∀ c, rest.head? = some c → isDigit c = false)
    : scanNumber (decimalText n ++ rest) = some (BitVec.ofNat 32 n, rest) := by
  have hdigits : (decimalText n ++ rest).takeWhile isDigit = decimalText n :=
    takeWhile_word (fun c hc => isDigit_decimalText hc) hrest
  -- What begins with a digit has no sign.
  have hsign : ∀ c, isDigit c = false → (decimalText n ++ rest).head? ≠ some c := by
    intro c hc hhead
    rw [List.head?_append_of_ne_nil _ (decimalText_ne_nil n)] at hhead
    rw [isDigit_decimalText (List.mem_of_mem_head? hhead)] at hc
    contradiction
  unfold scanNumber
  dsimp only
  rw [skipSpaces_word (word_decimalText n)]
  rw [if_neg (not_or.mpr ⟨hsign 0x2b (by decide), hsign 0x2d (by decide)⟩)]
  rw [hdigits, if_neg (decimalText_ne_nil n), if_neg (hsign 0x2d (by decide)), decimal_decimalText, List.drop_left]

end Decimal

section Search

theorem strstr?_next {c : Byte} {text word : List Byte} (h : ¬word <+: c :: text)
    : strstr? (c :: text) word = strstr? text word := by
  rw [strstr?, List.tails_cons, List.find?_cons_of_neg (by simpa using h)]
  rfl

theorem strstr?_skip {before word : List Byte} {first : Byte} (hword : word.head? = some first)
    (hbefore : first ∉ before) (text : List Byte)
    : strstr? (before ++ text) word = strstr? text word := by
  induction before with
  | nil => rfl
  | cons c before ih =>
    rw [List.mem_cons, not_or] at hbefore
    rw [List.cons_append, strstr?_next, ih hbefore.2]
    intro hprefix
    cases word with
    | nil => contradiction
    | cons c' word =>
      rw [List.cons_prefix_cons] at hprefix
      rw [List.head?_cons, Option.some.injEq] at hword
      exact hbefore.1 (hword.symm.trans hprefix.1)

end Search

end Lib

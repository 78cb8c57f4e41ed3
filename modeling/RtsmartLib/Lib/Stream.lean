import RtsmartLib.Lib.BlockMode

/-!
This module contains transducers of byte strings that work incrementally, devices that hold back some
of a transducer's output, and patterns of faults over the calls of a device.
-/

namespace Lib

/--
A transducer whose output on more input extends its output on less.
-/
structure Transducer where
  output : List Byte → List Byte
  mono : ∀ (input rest : List Byte), output input <+: output (input ++ rest)

/--
How many bytes have been given out once `n` bytes are consumed. At most 32 bytes are held back for
the end.
-/
structure HoldBack where
  emitted : Nat → Nat
  mono : ∀ m n, m ≤ n → emitted m ≤ emitted n
  le : ∀ n, emitted n ≤ n
  tail : ∀ n, n ≤ emitted n + 32

def HoldBack.none : HoldBack :=
  {
    emitted := fun n => n
    mono := fun _ _ h => h
    le := fun _ => Nat.le_refl _
    tail := fun _ => Nat.le_add_right _ _
  }

namespace Transducer

variable (t : Transducer) (hold : HoldBack)

/-
The number of bytes given out for `input`, a transducer may have less to give than the device is
ready to give.
-/
def emitted (input : List Byte) : Nat :=
  min (hold.emitted input.length) (t.output input).length

def given (input : List Byte) : List Byte :=
  (t.output input).take (t.emitted hold input)

def step (input bytes : List Byte) : List Byte :=
  (t.given hold (input ++ bytes)).drop (t.emitted hold input)

def rest (input : List Byte) : List Byte :=
  (t.output input).drop (t.emitted hold input)

theorem length_output_le (input rest : List Byte)
    : (t.output input).length ≤ (t.output (input ++ rest)).length :=
  (t.mono input rest).length_le

theorem emitted_le_length (input : List Byte) : t.emitted hold input ≤ input.length := by
  apply Nat.le_trans (Nat.min_le_left _ _)
  exact hold.le input.length

theorem emitted_le_append (input bytes : List Byte)
    : t.emitted hold input ≤ t.emitted hold (input ++ bytes) := by
  unfold emitted
  have hlen := t.length_output_le input bytes
  have hmono := hold.mono input.length (input ++ bytes).length (by simp)
  omega

@[simp]
theorem length_given (input : List Byte)
    : (t.given hold input).length = t.emitted hold input := by
  unfold given
  rw [List.length_take]
  unfold emitted
  omega

theorem given_append_step (input bytes : List Byte)
    : t.given hold input ++ t.step hold input bytes = t.given hold (input ++ bytes) := by
  obtain ⟨more, hmore⟩ := t.mono input bytes
  have hle := t.emitted_le_append hold input bytes
  have hgiven : t.given hold input
      = (t.given hold (input ++ bytes)).take (t.emitted hold input) := by
    unfold given
    rw [List.take_take]
    rw [Nat.min_eq_left hle]
    rw [← hmore]
    rw [List.take_append_of_le_length]
    exact Nat.min_le_right _ _
  unfold step
  rw [hgiven]
  exact List.take_append_drop _ _

theorem given_append_rest (input : List Byte)
    : t.given hold input ++ t.rest hold input = t.output input := by
  unfold given rest
  exact List.take_append_drop _ _

theorem given_nil : t.given hold [] = [] := by
  unfold given
  rw [Nat.le_zero.mp (t.emitted_le_length hold [])]
  rfl

def empty : Transducer :=
  {
    output := fun _ => []
    mono := fun _ _ => List.prefix_refl []
  }

def ofChain (chainStep : ChainStep) (iv : Block) : Transducer :=
  {
    output := fun input => (chain chainStep (input.length / 16) iv input).1
    mono := by
      intro input rest
      have hsplit : (input ++ rest).length / 16
          = input.length / 16 + ((input ++ rest).length / 16 - input.length / 16) := by
        rw [List.length_append]
        omega
      rw [hsplit]
      rw [chain_add]
      rw [chain_append chainStep iv (Nat.mul_div_le input.length 16)]
      exact List.prefix_append _ _
  }

def ofKeystream (key : Nat → Byte) : Transducer :=
  {
    output := fun input => xorBytes key 0 input
    mono := by
      intro input rest
      rw [xorBytes_append]
      exact List.prefix_append _ _
  }

@[simp]
theorem length_output_ofChain (chainStep : ChainStep) (iv : Block) (input : List Byte)
    : ((ofChain chainStep iv).output input).length = 16 * (input.length / 16) :=
  length_chain chainStep (input.length / 16) iv input

@[simp]
theorem length_output_ofKeystream (key : Nat → Byte) (input : List Byte)
    : ((ofKeystream key).output input).length = input.length :=
  length_xorBytes key 0 input

theorem emitted_ofChain (chainStep : ChainStep) (iv : Block) (input : List Byte)
    : (ofChain chainStep iv).emitted hold input
        = min (hold.emitted input.length) (16 * (input.length / 16)) := by
  unfold emitted
  rw [length_output_ofChain]

theorem emitted_ofKeystream (key : Nat → Byte) (input : List Byte)
    : (ofKeystream key).emitted hold input = hold.emitted input.length := by
  unfold emitted
  rw [length_output_ofKeystream]
  exact Nat.min_eq_left (hold.le input.length)

end Transducer

/-
The number of calls from call `w` on that succeed before the first that does not, out of `k`.
-/
def okRun {ε : Type} (faults : Nat → Option ε) (w k : Nat) : Nat :=
  match k with
  | 0 => 0
  | k + 1 => if (faults w).isNone then okRun faults (w + 1) k + 1 else 0

theorem okRun_never {ε : Type} (w k : Nat) : okRun (fun _ => (none : Option ε)) w k = k := by
  induction k generalizing w with
  | zero => rfl
  | succ k ih => simp [okRun, ih]

end Lib

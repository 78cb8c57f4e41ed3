import RtsmartLib.Pufs.Cipher

/-!
This module contains updates over a kernel without hidden state, whose update is homomorphic: the
chunk loop of the driver cannot be told from one update with the whole input.
-/

namespace Pufs

open Lib

variable {κ : Type}

structure UpdateLaws (kernel : CipherKernel κ Unit) : Prop where
  update_nil : ∀ (ctx : κ) (hasOut : Bool), (kernel.update ctx hasOut [] ()).1 = .ok (ctx, [])
  update_append : ∀ (ctx : κ) (hasOut : Bool) (input input' : List Byte),
    (kernel.update ctx hasOut (input ++ input') ()).1
      = (kernel.update ctx hasOut input ()).1.bind (fun next =>
          (kernel.update next.1 hasOut input' ()).1.map (fun res => (res.1, next.2 ++ res.2)))

theorem take_uint32_length {bytes : List Byte} (h : bytes.length < 2 ^ 32)
    : bytes.take (uint32 bytes.length) = bytes := by
  unfold uint32
  rw [Nat.mod_eq_of_lt h]
  exact List.take_length

variable {kernel : CipherKernel κ Unit} (laws : UpdateLaws kernel) (dev : DrvPufsInst)

include laws in
/-
An update of a whole input that goes through also goes through chunk by chunk, and one that fails
also fails chunk by chunk.
-/
theorem cipherFeedLoop_spec {fuel : Nat} {ctx : κ} {hasOut : Bool} {input : List Byte}
    (hfuel : input.length ≤ fuel)
    : let res := cipherFeedLoop kernel dev hasOut fuel ctx input ()
      match (kernel.update ctx hasOut input ()).1 with
      | .ok (ctx', out) => res = ⟨0, out, ctx', ()⟩
      | .error e => res.ret = e.1 := by
  induction fuel generalizing ctx input with
  | zero =>
    have hnil : input = [] := by
      apply List.eq_nil_of_length_eq_zero
      omega
    rw [hnil, laws.update_nil]
    rfl
  | succ fuel ih =>
    intro res
    dsimp only [res]
    unfold cipherFeedLoop
    by_cases hpos : 0 < input.length
    . have hbuf := dev.bufSize_pos
      have hsplit := laws.update_append ctx hasOut (input.take (min input.length dev.bufSize))
        (input.drop (min input.length dev.bufSize))
      rw [List.take_append_drop] at hsplit
      rw [if_pos hpos]
      rw [hsplit]
      dsimp only
      generalize kernel.update ctx hasOut (input.take (min input.length dev.bufSize)) () = answer
      obtain ⟨answer, _⟩ := answer
      cases answer with
      | error e => rfl
      | ok next =>
        have hrest := @ih next.1 (input.drop (min input.length dev.bufSize)) (by
          rw [List.length_drop]
          omega)
        dsimp only [Except.bind] at hrest ⊢
        generalize (kernel.update next.1 hasOut (input.drop (min input.length dev.bufSize)) ()).1
          = answer' at hrest
        cases answer' with
        | error e => exact hrest
        | ok last =>
          dsimp only [Except.map] at hrest ⊢
          rw [hrest]
    . have hnil : input = [] := by
        apply List.eq_nil_of_length_eq_zero
        omega
      rw [if_neg hpos]
      rw [hnil, laws.update_nil]

include laws in
theorem drvPufsCipherFeed_ok {ctx ctx' : κ} {hasOut : Bool} {input out : List Byte}
    (h : (kernel.update ctx hasOut input ()).1 = .ok (ctx', out))
    : drvPufsCipherFeed kernel dev hasOut ctx input () = ⟨0, out, ctx', ()⟩ := by
  have hspec := @cipherFeedLoop_spec κ kernel laws dev input.length ctx hasOut input (Nat.le_refl _)
  rw [h] at hspec
  exact hspec

include laws in
theorem drvPufsCipherFeed_error {ctx : κ} {hasOut : Bool} {input : List Byte} {e : Errno}
    (h : (kernel.update ctx hasOut input ()).1 = .error e)
    : (drvPufsCipherFeed kernel dev hasOut ctx input ()).ret = e.1 := by
  have hspec := @cipherFeedLoop_spec κ kernel laws dev input.length ctx hasOut input (Nat.le_refl _)
  rw [h] at hspec
  exact hspec

include laws in
theorem drvPufsInstFeed_ok {ctx ctx' : κ} {hasOut : Bool} {input out : List Byte}
    (h : (kernel.update ctx hasOut (input.take (uint32 input.length)) ()).1 = .ok (ctx', out))
    : drvPufsInstFeed kernel (some dev) (some ctx) hasOut input () = ⟨0, out, some ctx', ()⟩ := by
  unfold drvPufsInstFeed
  dsimp only
  rw [drvPufsCipherFeed_ok laws dev h]

include laws in
theorem drvPufsInstFeed_error {ctx : κ} {hasOut : Bool} {input : List Byte} {e : Errno}
    (h : (kernel.update ctx hasOut (input.take (uint32 input.length)) ()).1 = .error e)
    : (drvPufsInstFeed kernel (some dev) (some ctx) hasOut input ()).ret = e.1 := by
  unfold drvPufsInstFeed
  dsimp only
  exact drvPufsCipherFeed_error laws dev h

end Pufs

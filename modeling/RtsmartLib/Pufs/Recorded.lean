import RtsmartLib.Pufs.Cipher
import RtsmartLib.Pufs.Cmac

/-!
This module contains kernels that keep a record of the bytes they take, and what an update through the
driver adds to it.
-/

namespace Pufs

open Lib

variable {κ σ W : Type}

/-
An operation that fails takes nothing.
-/
def recordTaken {α : Type} (res : Except Errno α) (record bytes : List Byte) : List Byte :=
  match res with
  | .ok _ => record ++ bytes
  | .error _ => record

/--
The kernel over a world that also holds what the current operation was given, additional data and
message in the order in which they came.
-/
def CipherKernel.recorded (kernel : CipherKernel κ W) : CipherKernel κ (W × List Byte) :=
  {
    zero := kernel.zero
    init := fun op w =>
      let (res, w') := kernel.init op w.1
      (res, w', [])
    update := fun ctx hasOut bytes w =>
      let (res, w') := kernel.update ctx hasOut bytes w.1
      (res, w', recordTaken res w.2 bytes)
    final := fun ctx args w =>
      let (res, w') := kernel.final ctx args w.1
      (res, w', w.2)
  }

def CompoundKernel.recorded (kernel : CompoundKernel κ W) : CompoundKernel κ (W × List Byte) :=
  {
    toCipherKernel := kernel.toCipherKernel.recorded
    initUpdate := fun op hasOut bytes w =>
      let (res, w') := kernel.initUpdate op hasOut bytes w.1
      (res, w', recordTaken res [] bytes)
    updateFinal := fun ctx bytes args w =>
      let (res, w') := kernel.updateFinal ctx bytes args w.1
      (res, w', recordTaken res w.2 bytes)
  }

def CmacKernel.recorded (kernel : CmacKernel σ W) : CmacKernel σ (W × List Byte) :=
  {
    zero := kernel.zero
    update := fun ctx msg w =>
      let (res, w') := kernel.update ctx msg w.1
      (res, w', recordTaken res w.2 msg)
    final := fun ctx w =>
      let (res, w') := kernel.final ctx w.1
      (res, w', w.2)
  }

theorem recorded_init {kernel : CipherKernel κ W} {op : CipherOp} {w : W × List Byte}
    {res : Except Errno κ} {w' : W} (h : kernel.init op w.1 = (res, w'))
    : kernel.recorded.init op w = (res, w', []) := by
  simp [CipherKernel.recorded, h]

theorem recorded_update {kernel : CipherKernel κ W} {ctx : κ} {hasOut : Bool} {bytes : List Byte}
    {w : W × List Byte} {res : Except Errno (κ × List Byte)} {w' : W}
    (h : kernel.update ctx hasOut bytes w.1 = (res, w'))
    : kernel.recorded.update ctx hasOut bytes w = (res, w', recordTaken res w.2 bytes) := by
  simp [CipherKernel.recorded, h]

theorem recorded_final {kernel : CipherKernel κ W} {ctx : κ} {args : FinalArgs}
    {w : W × List Byte} {res : Except Errno FinalOut} {w' : W}
    (h : kernel.final ctx args w.1 = (res, w'))
    : kernel.recorded.final ctx args w = (res, w', w.2) := by
  simp [CipherKernel.recorded, h]

theorem recorded_initUpdate {kernel : CompoundKernel κ W} {op : Sp38dOp} {hasOut : Bool}
    {bytes : List Byte} {w : W × List Byte} {res : Except Errno (κ × List Byte)} {w' : W}
    (h : kernel.initUpdate op hasOut bytes w.1 = (res, w'))
    : kernel.recorded.initUpdate op hasOut bytes w = (res, w', recordTaken res [] bytes) := by
  simp [CompoundKernel.recorded, h]

theorem recorded_updateFinal {kernel : CompoundKernel κ W} {ctx : κ} {bytes : List Byte}
    {args : FinalArgs} {w : W × List Byte} {res : Except Errno FinalOut} {w' : W}
    (h : kernel.updateFinal ctx bytes args w.1 = (res, w'))
    : kernel.recorded.updateFinal ctx bytes args w = (res, w', recordTaken res w.2 bytes) := by
  simp [CompoundKernel.recorded, h]

theorem recorded_cmacUpdate {kernel : CmacKernel σ W} {ctx : CmacCtx σ} {msg : List Byte}
    {w : W × List Byte} {res : Except Errno (CmacCtx σ)} {w' : W}
    (h : kernel.update ctx msg w.1 = (res, w'))
    : kernel.recorded.update ctx msg w = (res, w', recordTaken res w.2 msg) := by
  simp [CmacKernel.recorded, h]

theorem recorded_toCipherKernel (kernel : CompoundKernel κ W)
    : kernel.recorded.toCipherKernel = kernel.toCipherKernel.recorded := by
  rfl

theorem length_cut {bytes : List Byte} (h : 2 ^ 32 ≤ bytes.length)
    : (bytes.take (uint32 bytes.length)).length < bytes.length := by
  unfold uint32
  have hlt := Nat.mod_lt bytes.length (show 0 < 2 ^ 32 by omega)
  rw [List.length_take]
  omega

section

variable (kernel : CipherKernel κ W) (dev : DrvPufsInst) {ctx : κ} {hasOut : Bool}

/-
The induction is on the chunks: each one is appended to the record, and the rest of the input is what
is left to append.
-/
theorem cipherFeedLoop_recorded {fuel : Nat} {input : List Byte} (hfuel : input.length ≤ fuel)
    {w : W × List Byte}
    (hret : (cipherFeedLoop kernel.recorded dev hasOut fuel ctx input w).ret = 0)
    : (cipherFeedLoop kernel.recorded dev hasOut fuel ctx input w).world.2 = w.2 ++ input := by
  induction fuel generalizing input ctx w with
  | zero =>
    have hnil : input = [] := by
      apply List.eq_nil_of_length_eq_zero
      omega
    simp [cipherFeedLoop, hnil]
  | succ fuel ih =>
    unfold cipherFeedLoop at hret ⊢
    by_cases hpos : 0 < input.length
    . have hbuf := dev.bufSize_pos
      rw [if_pos hpos] at hret ⊢
      dsimp only at hret ⊢
      cases hupdate : kernel.update ctx hasOut (input.take (min input.length dev.bufSize)) w.1 with
      | mk res w' =>
        rw [recorded_update hupdate] at hret ⊢
        cases res with
        | error e =>
          apply absurd hret e.2
        | ok next =>
          dsimp only [recordTaken] at hret ⊢
          have hrest := ih (by rw [List.length_drop]; omega) hret
          rw [List.append_assoc, List.take_append_drop] at hrest
          apply hrest
    . have hnil : input = [] := by
        apply List.eq_nil_of_length_eq_zero
        omega
      rw [if_neg hpos]
      simp [hnil]

theorem drvPufsCipherFeed_recorded {input : List Byte} {w : W × List Byte}
    (hret : (drvPufsCipherFeed kernel.recorded dev hasOut ctx input w).ret = 0)
    : (drvPufsCipherFeed kernel.recorded dev hasOut ctx input w).world.2 = w.2 ++ input := by
  apply cipherFeedLoop_recorded
  . omega
  . apply hret

end

/-
An update through an instance hands over what is left of the input after the cut.
-/
theorem drvPufsInstFeed_recorded (kernel : CipherKernel κ W) {dev : Option DrvPufsInst}
    {cipher : Option κ} {hasOut : Bool} {input : List Byte} {w : W × List Byte}
    (hret : (drvPufsInstFeed kernel.recorded dev cipher hasOut input w).ret = 0)
    : (drvPufsInstFeed kernel.recorded dev cipher hasOut input w).world.2
        = w.2 ++ input.take (uint32 input.length) := by
  unfold drvPufsInstFeed at hret ⊢
  split at hret
  . apply drvPufsCipherFeed_recorded
    apply hret
  . apply absurd hret eperm.2

theorem drvPufsInstFeed_instance {kernel : CipherKernel κ W} {dev : Option DrvPufsInst}
    {cipher : Option κ} {hasOut : Bool} {input : List Byte} {w : W}
    (hret : (drvPufsInstFeed kernel dev cipher hasOut input w).ret = 0)
    : dev.isSome ∧ cipher.isSome := by
  unfold drvPufsInstFeed at hret
  split at hret
  . simp
  . apply absurd hret eperm.2

theorem drvPufsCipherUpdateFinal_recorded (kernel : CompoundKernel κ W) (dev : DrvPufsInst)
    {cipher : κ} {input : List Byte} {args : FinalArgs} {w : W × List Byte}
    (hret : (drvPufsCipherUpdateFinal kernel.recorded dev cipher input args w).ret = 0)
    : (drvPufsCipherUpdateFinal kernel.recorded dev cipher input args w).world.2 = w.2 ++ input := by
  unfold drvPufsCipherUpdateFinal at hret ⊢
  by_cases hle : input.length ≤ dev.bufSize
  . rw [if_pos hle] at hret ⊢
    cases hanswer : kernel.updateFinal cipher input args w.1 with
    | mk res w' =>
      rw [recorded_updateFinal hanswer] at hret ⊢
      cases res with
      | error e =>
        apply absurd hret e.2
      | ok out =>
        rfl
  . rw [if_neg hle] at hret ⊢
    dsimp only at hret ⊢
    rw [recorded_toCipherKernel] at hret ⊢
    by_cases hfeed :
        (drvPufsCipherFeed kernel.toCipherKernel.recorded dev args.hasOut cipher input w).ret = 0
    . have htaken := drvPufsCipherFeed_recorded kernel.toCipherKernel dev hfeed
      rw [if_neg (by simp [hfeed])] at hret ⊢
      generalize drvPufsCipherFeed kernel.toCipherKernel.recorded dev args.hasOut cipher input w = feed
        at hret htaken ⊢
      cases hfinal : kernel.final feed.ctx args feed.world.1 with
      | mk res w' =>
        rw [recorded_final hfinal] at hret ⊢
        cases res with
        | error e =>
          apply absurd hret e.2
        | ok out =>
          apply htaken
    . rw [if_pos (by simp [hfeed])] at hret
      apply absurd hret hfeed

section

variable (kernel : CmacKernel σ W) (dev : DrvPufsInst) {ctx : CmacCtx σ}

theorem cmacUpdateLoop_recorded {fuel : Nat} {msg : List Byte} (hfuel : msg.length ≤ fuel)
    {w : W × List Byte}
    (hret : (cmacUpdateLoop kernel.recorded dev fuel ctx msg w).ret = 0)
    : (cmacUpdateLoop kernel.recorded dev fuel ctx msg w).world.2 = w.2 ++ msg := by
  induction fuel generalizing msg ctx w with
  | zero =>
    have hnil : msg = [] := by
      apply List.eq_nil_of_length_eq_zero
      omega
    simp [cmacUpdateLoop, hnil]
  | succ fuel ih =>
    unfold cmacUpdateLoop at hret ⊢
    by_cases hpos : 0 < msg.length
    . have hbuf := dev.bufSize_pos
      rw [if_pos hpos] at hret ⊢
      dsimp only at hret ⊢
      cases hupdate : kernel.update ctx (msg.take (min msg.length dev.bufSize)) w.1 with
      | mk res w' =>
        rw [recorded_cmacUpdate hupdate] at hret ⊢
        cases res with
        | error e =>
          apply absurd hret e.2
        | ok ctx' =>
          dsimp only [recordTaken] at hret ⊢
          have hrest := ih (by rw [List.length_drop]; omega) hret
          rw [List.append_assoc, List.take_append_drop] at hrest
          apply hrest
    . have hnil : msg = [] := by
        apply List.eq_nil_of_length_eq_zero
        omega
      rw [if_neg hpos]
      simp [hnil]

end

theorem drvPufsCmacInstUpdate_recorded (kernel : CmacKernel σ W) {dev : Option DrvPufsInst}
    {cmac : Option (CmacCtx σ)} {msg : List Byte} {w : W × List Byte}
    (hret : (drvPufsCmacInstUpdate kernel.recorded dev cmac msg w).1 = 0)
    : (drvPufsCmacInstUpdate kernel.recorded dev cmac msg w).2.2.2
        = w.2 ++ msg.take (uint32 msg.length) := by
  unfold drvPufsCmacInstUpdate drvPufsCmacUpdate at hret ⊢
  split at hret
  . dsimp only at hret ⊢
    split at hret
    next hzero =>
      rw [if_pos hzero]
      apply cmacUpdateLoop_recorded
      . omega
      . apply hzero
    next hzero =>
      apply absurd hret hzero
  . apply absurd hret eperm.2

theorem drvPufsCmacInstUpdate_instance {kernel : CmacKernel σ W} {dev : Option DrvPufsInst}
    {cmac : Option (CmacCtx σ)} {msg : List Byte} {w : W}
    (hret : (drvPufsCmacInstUpdate kernel dev cmac msg w).1 = 0)
    : dev.isSome ∧ cmac.isSome := by
  unfold drvPufsCmacInstUpdate at hret
  split at hret
  . simp
  . apply absurd hret eperm.2

end Pufs

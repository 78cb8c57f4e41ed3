import RtsmartLib.Mbedtls.CcmAlt
import RtsmartLib.Mbedtls.CmacSw
import RtsmartLib.Pufs.Recorded

/-!
This module contains the calls that encrypt or authenticate what they are given, and the lengths for
which a call that succeeds has handed all of it to the cipher or MAC.
-/

namespace Mbedtls

open Lib Pufs

variable {κ σ C W : Type}

theorem append_cut_iff (record bytes : List Byte)
    : record ++ bytes.take (uint32 bytes.length) = record ++ bytes ↔ bytes.length < 2 ^ 32 := by
  rw [List.append_cancel_left_eq]
  constructor
  . intro h
    apply Classical.byContradiction
    intro hlen
    have hcut := length_cut (Nat.not_lt.mp hlen)
    rw [h] at hcut
    omega
  . intro h
    unfold uint32
    rw [Nat.mod_eq_of_lt h, List.take_length]

theorem cut_append_cut_iff (add input : List Byte)
    : add.take (uint32 add.length) ++ input.take (uint32 input.length) = add ++ input
        ↔ add.length < 2 ^ 32 ∧ input.length < 2 ^ 32 := by
  constructor
  . intro h
    have hlen := congrArg List.length h
    rw [List.length_append, List.length_append, List.length_take, List.length_take] at hlen
    unfold uint32 at hlen
    omega
  . intro h
    rw [(append_cut_iff _ input).mpr h.2]
    rw [← List.nil_append (add.take _), (append_cut_iff [] add).mpr h.1]
    rfl

section

variable {hw : GcmHw κ W} {ctx : MbedtlsGcmContext κ} {w : W}

theorem errGcmBadInput_ne_zero : errGcmBadInput ≠ 0 := by
  decide

theorem gcmMapCipherError_eq_zero_iff {ret : Int} : gcmMapCipherError ctx ret = 0 ↔ ret = 0 := by
  unfold gcmMapCipherError
  split
  next hzero =>
    apply iff_of_true rfl hzero
  next hzero =>
    split
    . apply iff_of_false (by decide) hzero
    . apply iff_of_false (by decide) hzero

theorem mbedtlsGcmUpdateAd_ret_iff {add : List Byte}
    : (mbedtlsGcmUpdateAd hw ctx add w).ret = 0
        ↔ ctx.started ∧ (add.length = 0 ∨ (gcmFeed hw ctx false add w).ret = 0) := by
  unfold mbedtlsGcmUpdateAd
  split
  . simp_all [errGcmBadInput_ne_zero]
  split
  . simp_all
  . simp_all [gcmMapCipherError_eq_zero_iff]

theorem mbedtlsGcmUpdateAd_world {add : List Byte}
    (hret : (mbedtlsGcmUpdateAd hw ctx add w).ret = 0)
    : (mbedtlsGcmUpdateAd hw ctx add w).world
        = if add.length = 0 then w else (gcmFeed hw ctx false add w).world := by
  rw [mbedtlsGcmUpdateAd_ret_iff] at hret
  unfold mbedtlsGcmUpdateAd
  rw [if_neg (by simp [hret.1])]
  split
  . rfl
  . rfl

theorem mbedtlsGcmUpdate_ret_iff {input : List Byte} {hasOut : Bool} {outputSize : Nat}
    : (mbedtlsGcmUpdate hw ctx input hasOut outputSize w).ret = 0
        ↔ ctx.started ∧ (input.length = 0
            ∨ hasOut ∧ input.length ≤ outputSize ∧ (gcmFeed hw ctx true input w).ret = 0) := by
  unfold mbedtlsGcmUpdate
  split
  . simp_all [errGcmBadInput_ne_zero]
  split
  . simp_all
  split
  . simp_all [errGcmBadInput_ne_zero]
  split
  . simp_all [errGcmBadInput_ne_zero]
  dsimp only
  split
  . simp_all [gcmMapCipherError_eq_zero_iff]
  . simp_all

theorem mbedtlsGcmUpdate_world {input : List Byte} {hasOut : Bool} {outputSize : Nat}
    (hret : (mbedtlsGcmUpdate hw ctx input hasOut outputSize w).ret = 0)
    : (mbedtlsGcmUpdate hw ctx input hasOut outputSize w).world
        = if input.length = 0 then w else (gcmFeed hw ctx true input w).world := by
  rw [mbedtlsGcmUpdate_ret_iff] at hret
  unfold mbedtlsGcmUpdate
  rw [if_neg (by simp [hret.1])]
  split
  . rfl
  next hzero =>
    rw [or_iff_right hzero] at hret
    rw [if_neg (by simp [hret.2.1]), if_neg (by omega)]
    rw [if_neg (by simp [hret.2.2.2])]

end

section

variable (kernel : CompoundKernel κ W) {dev : Option DrvPufsInst} {ctx : MbedtlsGcmContext κ}
    {w : W × List Byte}

theorem gcmFeed_recorded {hasOut : Bool} {input : List Byte}
    (hret : (gcmFeed ⟨dev, kernel.recorded⟩ ctx hasOut input w).ret = 0)
    : (gcmFeed ⟨dev, kernel.recorded⟩ ctx hasOut input w).world.2
        = w.2 ++ input.take (uint32 input.length) := by
  apply drvPufsInstFeed_recorded kernel.toCipherKernel
  apply hret

theorem mbedtlsGcmUpdateAd_recorded {add : List Byte}
    (hret : (mbedtlsGcmUpdateAd ⟨dev, kernel.recorded⟩ ctx add w).ret = 0)
    : (mbedtlsGcmUpdateAd ⟨dev, kernel.recorded⟩ ctx add w).world.2
        = w.2 ++ add.take (uint32 add.length) := by
  rw [mbedtlsGcmUpdateAd_world hret]
  split
  next hzero =>
    rw [List.eq_nil_of_length_eq_zero hzero, List.take_nil, List.append_nil]
  next hzero =>
    rw [mbedtlsGcmUpdateAd_ret_iff, or_iff_right hzero] at hret
    apply gcmFeed_recorded kernel hret.2

theorem mbedtlsGcmUpdate_recorded {input : List Byte} {hasOut : Bool} {outputSize : Nat}
    (hret : (mbedtlsGcmUpdate ⟨dev, kernel.recorded⟩ ctx input hasOut outputSize w).ret = 0)
    : (mbedtlsGcmUpdate ⟨dev, kernel.recorded⟩ ctx input hasOut outputSize w).world.2
        = w.2 ++ input.take (uint32 input.length) := by
  rw [mbedtlsGcmUpdate_world hret]
  split
  next hzero =>
    rw [List.eq_nil_of_length_eq_zero hzero, List.take_nil, List.append_nil]
  next hzero =>
    rw [mbedtlsGcmUpdate_ret_iff, or_iff_right hzero] at hret
    apply gcmFeed_recorded kernel hret.2.2.2

theorem mbedtlsGcmStarts_recorded {mode : Int} {iv : Option (List Byte)}
    (hret : (mbedtlsGcmStarts ⟨dev, kernel.recorded⟩ ctx mode iv w).ret = 0)
    : (mbedtlsGcmStarts ⟨dev, kernel.recorded⟩ ctx mode iv w).world.2 = [] := by
  unfold mbedtlsGcmStarts at hret ⊢
  split at hret
  . cases hret
  next hkey =>
    rw [if_neg hkey]
    split at hret
    . cases hret
    next hmode =>
      rw [if_neg hmode]
      cases dev with
      | none =>
        cases hret
      | some dev =>
        dsimp only at hret ⊢
        rw [drvPufsCipherInit_gcm, recorded_toCipherKernel] at hret ⊢
        cases hinit : kernel.init (.sp38d (sp38dInitOp (gcmParams ctx mode iv))) w.1 with
        | mk res w' =>
          rw [recorded_init hinit] at hret ⊢
          cases res with
          | error e =>
            cases hret
          | ok cipher =>
            rfl

theorem mbedtlsGcmFinish_recorded {hasOut : Bool} {tag : List Byte} {tagLen : Nat}
    : (mbedtlsGcmFinish ⟨dev, kernel.recorded⟩ ctx hasOut tag tagLen w).world.2 = w.2 := by
  unfold mbedtlsGcmFinish
  split
  . rfl
  . cases ctx.cipher with
    | none =>
      rfl
    | some cipher =>
      dsimp only [drvPufsCipherFinal]
      rw [recorded_toCipherKernel]
      cases hfinal : kernel.final cipher ⟨hasOut, some tag, uint32 tagLen⟩ w.1 with
      | mk res w' =>
        rw [recorded_final hfinal]
        cases res with
        | error e =>
          rfl
        | ok out =>
          rfl

theorem gcmStreaming_recorded {mode : Int} {iv : Option (List Byte)} {add input : List Byte}
    {hasOut : Bool} {tag : List Byte} {tagLen : Nat}
    (hret : (gcmStreaming ⟨dev, kernel.recorded⟩ ctx mode iv add input hasOut tag tagLen w).ret = 0)
    : (gcmStreaming ⟨dev, kernel.recorded⟩ ctx mode iv add input hasOut tag tagLen w).world.2
        = add.take (uint32 add.length) ++ input.take (uint32 input.length) := by
  unfold gcmStreaming at hret ⊢
  dsimp only at hret ⊢
  split at hret
  next hstarts =>
    apply absurd hret hstarts
  next hstarts =>
    rw [if_neg hstarts]
    have hstart := mbedtlsGcmStarts_recorded kernel (Classical.not_not.mp hstarts)
    generalize mbedtlsGcmStarts ⟨dev, kernel.recorded⟩ ctx mode iv w = starts at hret hstart ⊢
    split at hret
    next had =>
      apply absurd hret had
    next had =>
      rw [if_neg had]
      have hadded := mbedtlsGcmUpdateAd_recorded kernel (Classical.not_not.mp had)
      generalize mbedtlsGcmUpdateAd ⟨dev, kernel.recorded⟩ starts.ctx add starts.world = ad
        at hret hadded ⊢
      split at hret
      next hupdate =>
        apply absurd hret hupdate
      next hupdate =>
        rw [if_neg hupdate]
        have htaken := mbedtlsGcmUpdate_recorded kernel (Classical.not_not.mp hupdate)
        generalize mbedtlsGcmUpdate ⟨dev, kernel.recorded⟩ ad.ctx input hasOut input.length ad.world
          = update at hret htaken ⊢
        split at hret
        . cases hret
        next hout =>
          rw [if_neg hout]
          have hfinished := @mbedtlsGcmFinish_recorded κ W kernel dev update.ctx update.world hasOut
            tag tagLen
          generalize mbedtlsGcmFinish ⟨dev, kernel.recorded⟩ update.ctx hasOut tag tagLen update.world
            = finish at hret hfinished ⊢
          split at hret
          next hfinish =>
            apply absurd hret hfinish
          next hfinish =>
            rw [if_neg hfinish]
            split at hret
            . cases hret
            next hsum =>
              rw [if_neg hsum]
              dsimp only
              rw [hfinished, htaken, hadded, hstart]
              rfl

/-
Whichever path is taken, the two lengths are cut on their own.
-/
theorem gcmRunStream_recorded {mode : Int} {iv : Option (List Byte)} {add input : List Byte}
    {hasOut : Bool} {tag : List Byte} {tagLen : Nat}
    (hret : (gcmRunStream ⟨dev, kernel.recorded⟩ ctx mode iv add input hasOut tag tagLen w).ret = 0)
    : (gcmRunStream ⟨dev, kernel.recorded⟩ ctx mode iv add input hasOut tag tagLen w).world.2
        = add.take (uint32 add.length) ++ input.take (uint32 input.length) := by
  unfold gcmRunStream at hret ⊢
  cases dev with
  | none =>
    cases hret
  | some dev =>
    dsimp only [drvPufsCipherInitUpdate] at hret ⊢
    rw [if_pos rfl] at hret ⊢
    cases hinit : kernel.initUpdate (sp38dInitOp (gcmParams { ctx with mode } mode iv)) false
        (add.take (uint32 add.length)) w.1 with
    | mk res w' =>
      rw [recorded_initUpdate hinit] at hret ⊢
      cases res with
      | error e =>
        apply gcmStreaming_recorded
        apply hret
      | ok next =>
        dsimp only [recordTaken] at hret ⊢
        split at hret
        next hfinal =>
          apply absurd (gcmMapCipherError_eq_zero_iff.mp hret) hfinal
        next hfinal =>
          rw [if_neg hfinal]
          split at hret
          . cases hret
          next hout =>
            rw [if_neg hout]
            dsimp only
            rw [drvPufsCipherUpdateFinal_recorded kernel dev (Classical.not_not.mp hfinal)]
            rfl

end

section

variable {hw : CcmHw κ W} {ctx : MbedtlsCcmContext κ} {w : W}

theorem errCcmBadInput_ne_zero : errCcmBadInput ≠ 0 := by
  decide

theorem ccmMapCipherError_eq_zero_iff {ret : Int} : ccmMapCipherError ctx ret = 0 ↔ ret = 0 := by
  unfold ccmMapCipherError
  split
  next hzero =>
    apply iff_of_true rfl hzero
  next hzero =>
    split
    . apply iff_of_false (by decide) hzero
    . apply iff_of_false (by decide) hzero

theorem mbedtlsCcmUpdateAd_ret_iff {ad : List Byte}
    : (mbedtlsCcmUpdateAd hw ctx ad w).ret = 0
        ↔ ctx.started ∧ (ad.length = 0 ∨ (ccmFeed hw ctx false ad w).ret = 0) := by
  unfold mbedtlsCcmUpdateAd
  split
  . simp_all [errCcmBadInput_ne_zero]
  split
  . simp_all
  . simp_all [ccmMapCipherError_eq_zero_iff]

theorem mbedtlsCcmUpdateAd_world {ad : List Byte}
    (hret : (mbedtlsCcmUpdateAd hw ctx ad w).ret = 0)
    : (mbedtlsCcmUpdateAd hw ctx ad w).world
        = if ad.length = 0 then w else (ccmFeed hw ctx false ad w).world := by
  rw [mbedtlsCcmUpdateAd_ret_iff] at hret
  unfold mbedtlsCcmUpdateAd
  rw [if_neg (by simp [hret.1])]
  split
  . rfl
  . rfl

theorem mbedtlsCcmUpdate_ret_iff {input : List Byte} {hasOut : Bool} {outputSize : Nat}
    : (mbedtlsCcmUpdate hw ctx input hasOut outputSize w).ret = 0
        ↔ ctx.started ∧ (input.length = 0
            ∨ hasOut ∧ input.length ≤ outputSize ∧ (ccmFeed hw ctx true input w).ret = 0) := by
  unfold mbedtlsCcmUpdate
  split
  . simp_all [errCcmBadInput_ne_zero]
  split
  . simp_all
  split
  . simp_all [errCcmBadInput_ne_zero]
  split
  . simp_all [errCcmBadInput_ne_zero]
  dsimp only
  split
  . simp_all [ccmMapCipherError_eq_zero_iff]
  . simp_all

theorem mbedtlsCcmUpdate_world {input : List Byte} {hasOut : Bool} {outputSize : Nat}
    (hret : (mbedtlsCcmUpdate hw ctx input hasOut outputSize w).ret = 0)
    : (mbedtlsCcmUpdate hw ctx input hasOut outputSize w).world
        = if input.length = 0 then w else (ccmFeed hw ctx true input w).world := by
  rw [mbedtlsCcmUpdate_ret_iff] at hret
  unfold mbedtlsCcmUpdate
  rw [if_neg (by simp [hret.1])]
  split
  . rfl
  next hzero =>
    rw [or_iff_right hzero] at hret
    rw [if_neg (by simp [hret.2.1]), if_neg (by omega)]
    rw [if_neg (by simp [hret.2.2.2])]

end

section

variable (kernel : CipherKernel κ W) {dev : Option DrvPufsInst} {ctx : MbedtlsCcmContext κ}
    {w : W × List Byte}

theorem ccmFeed_recorded {hasOut : Bool} {input : List Byte}
    (hret : (ccmFeed ⟨dev, kernel.recorded⟩ ctx hasOut input w).ret = 0)
    : (ccmFeed ⟨dev, kernel.recorded⟩ ctx hasOut input w).world.2
        = w.2 ++ input.take (uint32 input.length) := by
  apply drvPufsInstFeed_recorded kernel
  apply hret

theorem mbedtlsCcmUpdateAd_recorded {ad : List Byte}
    (hret : (mbedtlsCcmUpdateAd ⟨dev, kernel.recorded⟩ ctx ad w).ret = 0)
    : (mbedtlsCcmUpdateAd ⟨dev, kernel.recorded⟩ ctx ad w).world.2
        = w.2 ++ ad.take (uint32 ad.length) := by
  rw [mbedtlsCcmUpdateAd_world hret]
  split
  next hzero =>
    rw [List.eq_nil_of_length_eq_zero hzero, List.take_nil, List.append_nil]
  next hzero =>
    rw [mbedtlsCcmUpdateAd_ret_iff, or_iff_right hzero] at hret
    apply ccmFeed_recorded kernel hret.2

theorem mbedtlsCcmUpdate_recorded {input : List Byte} {hasOut : Bool} {outputSize : Nat}
    (hret : (mbedtlsCcmUpdate ⟨dev, kernel.recorded⟩ ctx input hasOut outputSize w).ret = 0)
    : (mbedtlsCcmUpdate ⟨dev, kernel.recorded⟩ ctx input hasOut outputSize w).world.2
        = w.2 ++ input.take (uint32 input.length) := by
  rw [mbedtlsCcmUpdate_world hret]
  split
  next hzero =>
    rw [List.eq_nil_of_length_eq_zero hzero, List.take_nil, List.append_nil]
  next hzero =>
    rw [mbedtlsCcmUpdate_ret_iff, or_iff_right hzero] at hret
    apply ccmFeed_recorded kernel hret.2.2.2

end

/-
A kernel that takes whatever it is given, and gives out as many bytes.
-/
def takingKernel (zero : κ) : CompoundKernel κ Unit :=
  {
    zero
    init := fun _ _ => (.ok zero, ())
    update := fun ctx _ bytes _ => (.ok (ctx, bytes), ())
    final := fun _ args _ => (.ok ⟨[], args.tag.getD []⟩, ())
    initUpdate := fun _ _ _ _ => (.ok (zero, []), ())
    updateFinal := fun _ bytes args _ => (.ok ⟨bytes, args.tag.getD []⟩, ())
  }

def takingCmacKernel (zero : σ) : CmacKernel σ Unit :=
  {
    zero
    update := fun ctx _ _ => (.ok ctx, ())
    final := fun _ _ => (.ok [], ())
  }

def takingLib (cipher : C) : CipherLib C :=
  {
    setup := fun _ => .ok cipher
    setkey := fun _ _ _ _ => .ok cipher
    update := fun _ block => .ok block
  }

section

variable (zero : κ) (dev : DrvPufsInst) {w : Unit × List Byte}

theorem cipherFeedLoop_taking {fuel : Nat} {ctx : κ} {hasOut : Bool} {input : List Byte}
    (hfuel : input.length ≤ fuel)
    : let res := cipherFeedLoop (takingKernel zero).toCipherKernel.recorded dev hasOut fuel ctx input w
      res.ret = 0 ∧ res.out = input := by
  induction fuel generalizing input ctx w with
  | zero =>
    have hnil : input = [] := by
      apply List.eq_nil_of_length_eq_zero
      omega
    simp [cipherFeedLoop, hnil]
  | succ fuel ih =>
    unfold cipherFeedLoop
    by_cases hpos : 0 < input.length
    . have hbuf := dev.bufSize_pos
      have hupdate : (takingKernel zero).update ctx hasOut
          (input.take (min input.length dev.bufSize)) w.1
            = (.ok (ctx, input.take (min input.length dev.bufSize)), ()) := rfl
      rw [if_pos hpos]
      dsimp only
      rw [recorded_update hupdate]
      dsimp only
      have hdrop : (input.drop (min input.length dev.bufSize)).length ≤ fuel := by
        rw [List.length_drop]
        omega
      constructor
      . apply And.left (ih hdrop)
      . rw [And.right (ih hdrop)]
        apply List.take_append_drop
    . have hnil : input = [] := by
        apply List.eq_nil_of_length_eq_zero
        omega
      rw [if_neg hpos]
      simp [hnil]

theorem drvPufsInstFeed_taking {cipher : κ} {hasOut : Bool} {input : List Byte}
    : (drvPufsInstFeed (takingKernel zero).toCipherKernel.recorded (some dev) (some cipher) hasOut
        input w).ret = 0 := by
  apply And.left (cipherFeedLoop_taking zero dev _)
  omega

theorem drvPufsCipherUpdateFinal_taking {cipher : κ} {input : List Byte} {args : FinalArgs}
    : let res := drvPufsCipherUpdateFinal (takingKernel zero).recorded dev cipher input args w
      res.ret = 0 ∧ res.out = input := by
  unfold drvPufsCipherUpdateFinal
  by_cases hle : input.length ≤ dev.bufSize
  . rw [if_pos hle]
    rw [recorded_updateFinal rfl]
    constructor
    . rfl
    . rfl
  . rw [if_neg hle]
    dsimp only
    rw [recorded_toCipherKernel]
    obtain ⟨hret, hout⟩ :=
      @cipherFeedLoop_taking κ zero dev w input.length cipher args.hasOut input (Nat.le_refl _)
    unfold drvPufsCipherFeed
    rw [if_neg (by simp [hret])]
    rw [recorded_final rfl]
    constructor
    . rfl
    . rw [hout]
      apply List.append_nil

theorem gcmFeed_taking {dev : Option DrvPufsInst} {ctx : MbedtlsGcmContext κ} {hasOut : Bool}
    {input : List Byte} (hinst : dev.isSome ∧ ctx.cipher.isSome)
    : (gcmFeed ⟨dev, (takingKernel zero).recorded⟩ ctx hasOut input w).ret = 0 := by
  obtain ⟨dev', hdev⟩ := Option.isSome_iff_exists.mp hinst.1
  obtain ⟨cipher, hcipher⟩ := Option.isSome_iff_exists.mp hinst.2
  dsimp only [gcmFeed]
  rw [hdev, hcipher]
  rw [recorded_toCipherKernel, drvPufsInstFeed_taking]

theorem ccmFeed_taking {dev : Option DrvPufsInst} {ctx : MbedtlsCcmContext κ} {hasOut : Bool}
    {input : List Byte} (hinst : dev.isSome ∧ ctx.cipher.isSome)
    : (ccmFeed ⟨dev, (takingKernel zero).toCipherKernel.recorded⟩ ctx hasOut input w).ret = 0 := by
  obtain ⟨dev', hdev⟩ := Option.isSome_iff_exists.mp hinst.1
  obtain ⟨cipher, hcipher⟩ := Option.isSome_iff_exists.mp hinst.2
  dsimp only [ccmFeed]
  rw [hdev, hcipher]
  rw [drvPufsInstFeed_taking]

theorem gcmRunStream_taking {ctx : MbedtlsGcmContext κ} {mode : Int} {iv : Option (List Byte)}
    {add input : List Byte} {hasOut : Bool} {tag : List Byte} {tagLen : Nat}
    : (gcmRunStream ⟨some dev, (takingKernel zero).recorded⟩ ctx mode iv add input hasOut tag tagLen
        w).ret = 0 := by
  unfold gcmRunStream
  dsimp only [drvPufsCipherInitUpdate]
  rw [if_pos rfl]
  have hinit : (takingKernel zero).initUpdate
      (sp38dInitOp (gcmParams { ctx with mode } mode iv)) false (add.take (uint32 add.length)) w.1
        = (.ok (zero, []), ()) := rfl
  rw [recorded_initUpdate hinit]
  obtain ⟨hret, hout⟩ :=
    @drvPufsCipherUpdateFinal_taking κ zero dev ((), recordTaken (.ok (zero, ([] : List Byte))) []
      (add.take (uint32 add.length))) zero (input.take (uint32 input.length))
      ⟨hasOut, some tag, uint32 tagLen⟩
  dsimp only
  rw [if_neg (by simp [hret])]
  rw [hout]
  rw [if_neg (by simp [uint32, Nat.mod_le])]

end

theorem cmacUpdateLoop_taking (zero : σ) (dev : DrvPufsInst) {fuel : Nat} {ctx : CmacCtx σ}
    {msg : List Byte} {w : Unit × List Byte}
    : (cmacUpdateLoop (takingCmacKernel zero).recorded dev fuel ctx msg w).ret = 0 := by
  induction fuel generalizing msg ctx w with
  | zero =>
    rfl
  | succ fuel ih =>
    unfold cmacUpdateLoop
    split
    . apply ih
    . rfl

theorem drvPufsCmacInstUpdate_taking (zero : σ) (dev : DrvPufsInst) {cmac : CmacCtx σ}
    {msg : List Byte} {w : Unit × List Byte}
    : (drvPufsCmacInstUpdate (takingCmacKernel zero).recorded (some dev) (some cmac) msg w).1 = 0 := by
  unfold drvPufsCmacInstUpdate drvPufsCmacUpdate
  dsimp only
  rw [if_pos (cmacUpdateLoop_taking zero dev)]
  apply cmacUpdateLoop_taking

theorem cmacSwUpdateLoop_taking {cipher : C} {blockSize n : Nat} {ctx : MbedtlsCmacContext σ}
    {input : List Byte}
    : (cmacSwUpdateLoop (takingLib cipher) cipher blockSize n ctx input).1.ret = 0 := by
  induction n generalizing ctx input with
  | zero =>
    rfl
  | succ n ih =>
    unfold cmacSwUpdateLoop
    apply ih

theorem cmacSwUpdate_taking {cipher : C} {blockSize : Nat} {ctx : MbedtlsCmacContext σ}
    {input : List Byte}
    : (cmacSwUpdate (takingLib cipher) cipher blockSize ctx input).ret = 0 := by
  have hrest : ∀ (ctx : MbedtlsCmacContext σ) (input : List Byte),
      (cmacSwUpdateRest (takingLib cipher) cipher blockSize ctx input).ret = 0 := by
    intro ctx input
    unfold cmacSwUpdateRest
    dsimp only
    rw [if_neg (by simp [cmacSwUpdateLoop_taking])]
  unfold cmacSwUpdate
  dsimp only
  split
  . apply hrest
  . apply hrest

/--
A call that encrypts or authenticates, with all that it depends on but the kernel and the library.
-/
inductive AuthCall (κ C σ : Type) where
  | gcmCryptAndTag (dev : Option DrvPufsInst) (ctx : MbedtlsGcmContext κ) (mode : Int)
    (iv : Option (List Byte)) (add input : List Byte) (hasOut : Bool) (tag : List Byte) (tagLen : Nat)
  | gcmAuthDecrypt (dev : Option DrvPufsInst) (ctx : MbedtlsGcmContext κ) (iv : Option (List Byte))
    (add tag : List Byte) (tagLen : Nat) (input : List Byte) (hasOut : Bool)
  | gcmUpdateAd (dev : Option DrvPufsInst) (ctx : MbedtlsGcmContext κ) (add : List Byte)
  | gcmUpdate (dev : Option DrvPufsInst) (ctx : MbedtlsGcmContext κ) (input : List Byte)
    (hasOut : Bool) (outputSize : Nat)
  | ccmUpdateAd (dev : Option DrvPufsInst) (ctx : MbedtlsCcmContext κ) (ad : List Byte)
  | ccmUpdate (dev : Option DrvPufsInst) (ctx : MbedtlsCcmContext κ) (input : List Byte)
    (hasOut : Bool) (outputSize : Nat)
  | cmacUpdate (dev : Option DrvPufsInst) (ctx : MbedtlsCipherContext C σ) (hctx : CmacContextOk ctx)
    (input : List Byte)

/-
What it is for an update of a CMAC to take its whole input: the kernel was handed it, or the software
has chained or kept it.
-/
def CmacTakesAll (lib : CipherLib C) (ctx : MbedtlsCipherContext C σ) (input record : List Byte)
    (res : CmacResult C σ (W × List Byte)) : Prop :=
  match ctx.cmacCtx, res.ctx.cmacCtx with
  | some cmacCtx, some cmacCtx' =>
    if cmacCtx.useSw then
      ∃ blocks, CmacSwTakes lib ctx.cipher (mbedtlsCipherInfoGetBlockSize ctx.cipherInfo) cmacCtx
        input cmacCtx' blocks
    else
      res.world.2 = record ++ input
  | _, _ => False

/--
Whatever the kernel and the library answer: if the call returns 0, all that the caller passed was
handed on.
-/
def AuthCall.HandsAll (call : AuthCall κ C σ) : Prop :=
  match call with
  | .gcmCryptAndTag dev ctx mode iv add input hasOut tag tagLen =>
    ∀ (W : Type) (kernel : CompoundKernel κ W) (w : W × List Byte),
      let res :=
        mbedtlsGcmCryptAndTag ⟨dev, kernel.recorded⟩ ctx mode iv add input hasOut tag tagLen w
      res.ret = 0 → res.world.2 = add ++ input
  | .gcmAuthDecrypt dev ctx iv add tag tagLen input hasOut =>
    ∀ (W : Type) (kernel : CompoundKernel κ W) (w : W × List Byte),
      let res := mbedtlsGcmAuthDecrypt ⟨dev, kernel.recorded⟩ ctx iv add tag tagLen input hasOut w
      res.ret = 0 → res.world.2 = add ++ input
  | .gcmUpdateAd dev ctx add =>
    ∀ (W : Type) (kernel : CompoundKernel κ W) (w : W × List Byte),
      let res := mbedtlsGcmUpdateAd ⟨dev, kernel.recorded⟩ ctx add w
      res.ret = 0 → res.world.2 = w.2 ++ add
  | .gcmUpdate dev ctx input hasOut outputSize =>
    ∀ (W : Type) (kernel : CompoundKernel κ W) (w : W × List Byte),
      let res := mbedtlsGcmUpdate ⟨dev, kernel.recorded⟩ ctx input hasOut outputSize w
      res.ret = 0 → res.world.2 = w.2 ++ input
  | .ccmUpdateAd dev ctx ad =>
    ∀ (W : Type) (kernel : CipherKernel κ W) (w : W × List Byte),
      let res := mbedtlsCcmUpdateAd ⟨dev, kernel.recorded⟩ ctx ad w
      res.ret = 0 → res.world.2 = w.2 ++ ad
  | .ccmUpdate dev ctx input hasOut outputSize =>
    ∀ (W : Type) (kernel : CipherKernel κ W) (w : W × List Byte),
      let res := mbedtlsCcmUpdate ⟨dev, kernel.recorded⟩ ctx input hasOut outputSize w
      res.ret = 0 → res.world.2 = w.2 ++ input
  | .cmacUpdate dev ctx _ input =>
    ∀ (W : Type) (kernel : CmacKernel σ W) (lib : CipherLib C) (calloc : Bool)
      (w : W × List Byte),
      let res := mbedtlsCipherCmacUpdate ⟨dev, kernel.recorded, lib, calloc⟩ ctx input w
      res.ret = 0 → CmacTakesAll lib ctx input w.2 res

/-
A call that the port does not refuse by itself is of lengths below 2^32, or with the software CMAC of a
length that its sum of lengths can hold.
-/
def AuthCall.Fits (call : AuthCall κ C σ) : Prop :=
  match call with
  | .gcmCryptAndTag dev _ _ _ add input _ _ _ =>
    dev.isSome → add.length < 2 ^ 32 ∧ input.length < 2 ^ 32
  | .gcmAuthDecrypt dev _ _ add _ tagLen input _ =>
    dev.isSome → ¬(tagLen > 16 ∨ tagLen < 4) → add.length < 2 ^ 32 ∧ input.length < 2 ^ 32
  | .gcmUpdateAd dev ctx add =>
    ctx.started → dev.isSome ∧ ctx.cipher.isSome → add.length < 2 ^ 32
  | .gcmUpdate dev ctx input hasOut outputSize =>
    ctx.started → dev.isSome ∧ ctx.cipher.isSome → hasOut → input.length ≤ outputSize →
      input.length < 2 ^ 32
  | .ccmUpdateAd dev ctx ad =>
    ctx.started → dev.isSome ∧ ctx.cipher.isSome → ad.length < 2 ^ 32
  | .ccmUpdate dev ctx input hasOut outputSize =>
    ctx.started → dev.isSome ∧ ctx.cipher.isSome → hasOut → input.length ≤ outputSize →
      input.length < 2 ^ 32
  | .cmacUpdate dev ctx _ input =>
    ∀ cmacCtx, ctx.cmacCtx = some cmacCtx →
      if cmacCtx.useSw then
        CmacSwFits (mbedtlsCipherInfoGetBlockSize ctx.cipherInfo) cmacCtx input.length
      else
        cmacCtx.hwReady → dev.isSome ∧ cmacCtx.cmac.isSome → input.length < 2 ^ 32

section

variable [Inhabited κ] {dev : Option DrvPufsInst} {ctx : MbedtlsGcmContext κ}

theorem gcmUpdateAd_handsAll_iff {add : List Byte}
    : (AuthCall.gcmUpdateAd dev ctx add : AuthCall κ C σ).HandsAll
        ↔ (AuthCall.gcmUpdateAd dev ctx add : AuthCall κ C σ).Fits := by
  constructor
  . intro hands hstarted hinst
    have hret : (mbedtlsGcmUpdateAd ⟨dev, (takingKernel default).recorded⟩ ctx add ((), [])).ret = 0 := by
      rw [mbedtlsGcmUpdateAd_ret_iff]
      apply And.intro hstarted
      right
      apply gcmFeed_taking default hinst
    have hall := hands Unit (takingKernel default) ((), []) hret
    rw [mbedtlsGcmUpdateAd_recorded (takingKernel default) hret] at hall
    apply (append_cut_iff [] add).mp hall
  . intro hfits W kernel w res hret
    rw [mbedtlsGcmUpdateAd_recorded kernel hret]
    rw [append_cut_iff]
    rcases mbedtlsGcmUpdateAd_ret_iff.mp hret with ⟨hstarted, hzero | hfeed⟩
    . omega
    . apply hfits hstarted
      apply drvPufsInstFeed_instance hfeed

theorem gcmUpdate_handsAll_iff {input : List Byte} {hasOut : Bool} {outputSize : Nat}
    : (AuthCall.gcmUpdate dev ctx input hasOut outputSize : AuthCall κ C σ).HandsAll
        ↔ (AuthCall.gcmUpdate dev ctx input hasOut outputSize : AuthCall κ C σ).Fits := by
  constructor
  . intro hands hstarted hinst hout hsize
    have hret : (mbedtlsGcmUpdate ⟨dev, (takingKernel default).recorded⟩ ctx input hasOut outputSize ((), [])).ret
        = 0 := by
      rw [mbedtlsGcmUpdate_ret_iff]
      apply And.intro hstarted
      right
      apply And.intro hout (And.intro hsize _)
      apply gcmFeed_taking default hinst
    have hall := hands Unit (takingKernel default) ((), []) hret
    rw [mbedtlsGcmUpdate_recorded (takingKernel default) hret] at hall
    apply (append_cut_iff [] input).mp hall
  . intro hfits W kernel w res hret
    rw [mbedtlsGcmUpdate_recorded kernel hret]
    rw [append_cut_iff]
    rcases mbedtlsGcmUpdate_ret_iff.mp hret with ⟨hstarted, hzero | ⟨hout, hsize, hfeed⟩⟩
    . omega
    . refine hfits hstarted ?_ hout hsize
      apply drvPufsInstFeed_instance hfeed

theorem gcmCryptAndTag_handsAll_iff {mode : Int} {iv : Option (List Byte)} {add input : List Byte}
    {hasOut : Bool} {tag : List Byte} {tagLen : Nat}
    : (AuthCall.gcmCryptAndTag dev ctx mode iv add input hasOut tag tagLen
          : AuthCall κ C σ).HandsAll
        ↔ (AuthCall.gcmCryptAndTag dev ctx mode iv add input hasOut tag tagLen
            : AuthCall κ C σ).Fits := by
  constructor
  . intro hands hdev
    obtain ⟨dev', hdev⟩ := Option.isSome_iff_exists.mp hdev
    have hret : (mbedtlsGcmCryptAndTag ⟨dev, (takingKernel default).recorded⟩ ctx mode iv add input
        hasOut tag tagLen ((), [])).ret = 0 := by
      rw [hdev]
      apply gcmRunStream_taking
    have hall := hands Unit (takingKernel default) ((), []) hret
    unfold mbedtlsGcmCryptAndTag at hret hall
    rw [gcmRunStream_recorded (takingKernel default) hret] at hall
    apply (cut_append_cut_iff add input).mp hall
  . intro hfits W kernel w res hret
    dsimp only [res] at hret ⊢
    unfold mbedtlsGcmCryptAndTag at hret ⊢
    rw [gcmRunStream_recorded kernel hret]
    rw [cut_append_cut_iff]
    apply hfits
    cases dev with
    | none =>
      cases hret
    | some dev =>
      rfl

theorem gcmAuthDecrypt_handsAll_iff {iv : Option (List Byte)} {add input tag : List Byte}
    {hasOut : Bool} {tagLen : Nat}
    : (AuthCall.gcmAuthDecrypt dev ctx iv add tag tagLen input hasOut : AuthCall κ C σ).HandsAll
        ↔ (AuthCall.gcmAuthDecrypt dev ctx iv add tag tagLen input hasOut
            : AuthCall κ C σ).Fits := by
  constructor
  . intro hands hdev htag
    obtain ⟨dev', hdev⟩ := Option.isSome_iff_exists.mp hdev
    have hstream : (gcmRunStream ⟨dev, (takingKernel default).recorded⟩ ctx mbedtlsGcmDecrypt iv add
        input hasOut (tag.take tagLen) tagLen ((), [])).ret = 0 := by
      rw [hdev]
      apply gcmRunStream_taking
    have hcall : mbedtlsGcmAuthDecrypt ⟨dev, (takingKernel default).recorded⟩ ctx iv add tag tagLen
        input hasOut ((), [])
          = gcmRunStream ⟨dev, (takingKernel default).recorded⟩ ctx mbedtlsGcmDecrypt iv add input
              hasOut (tag.take tagLen) tagLen ((), []) := by
      unfold mbedtlsGcmAuthDecrypt
      rw [if_neg htag]
      dsimp only
      rw [if_neg (by simp [hstream])]
    have hall := hands Unit (takingKernel default) ((), [])
    dsimp only at hall
    rw [hcall] at hall
    have hall := hall hstream
    rw [gcmRunStream_recorded (takingKernel default) hstream] at hall
    apply (cut_append_cut_iff add input).mp hall
  . intro hfits W kernel w res hret
    dsimp only [res] at hret ⊢
    unfold mbedtlsGcmAuthDecrypt at hret ⊢
    split at hret
    . cases hret
    next htag =>
      rw [if_neg htag]
      dsimp only at hret ⊢
      split at hret
      next hstream =>
        apply absurd hret hstream
      next hstream =>
        rw [if_neg hstream]
        rw [gcmRunStream_recorded kernel hret]
        rw [cut_append_cut_iff]
        refine hfits ?_ htag
        cases dev with
        | none =>
          cases hret
        | some dev =>
          rfl

end

section

variable [Inhabited κ] {dev : Option DrvPufsInst} {ctx : MbedtlsCcmContext κ}

theorem ccmUpdateAd_handsAll_iff {ad : List Byte}
    : (AuthCall.ccmUpdateAd dev ctx ad : AuthCall κ C σ).HandsAll
        ↔ (AuthCall.ccmUpdateAd dev ctx ad : AuthCall κ C σ).Fits := by
  constructor
  . intro hands hstarted hinst
    have hret : (mbedtlsCcmUpdateAd ⟨dev, (takingKernel default).toCipherKernel.recorded⟩ ctx ad ((), [])).ret = 0 := by
      rw [mbedtlsCcmUpdateAd_ret_iff]
      apply And.intro hstarted
      right
      apply ccmFeed_taking default hinst
    have hall := hands Unit (takingKernel default).toCipherKernel ((), []) hret
    rw [mbedtlsCcmUpdateAd_recorded (takingKernel default).toCipherKernel hret] at hall
    apply (append_cut_iff [] ad).mp hall
  . intro hfits W kernel w res hret
    rw [mbedtlsCcmUpdateAd_recorded kernel hret]
    rw [append_cut_iff]
    rcases mbedtlsCcmUpdateAd_ret_iff.mp hret with ⟨hstarted, hzero | hfeed⟩
    . omega
    . apply hfits hstarted
      apply drvPufsInstFeed_instance hfeed

theorem ccmUpdate_handsAll_iff {input : List Byte} {hasOut : Bool} {outputSize : Nat}
    : (AuthCall.ccmUpdate dev ctx input hasOut outputSize : AuthCall κ C σ).HandsAll
        ↔ (AuthCall.ccmUpdate dev ctx input hasOut outputSize : AuthCall κ C σ).Fits := by
  constructor
  . intro hands hstarted hinst hout hsize
    have hret : (mbedtlsCcmUpdate ⟨dev, (takingKernel default).toCipherKernel.recorded⟩ ctx input hasOut outputSize ((), [])).ret
        = 0 := by
      rw [mbedtlsCcmUpdate_ret_iff]
      apply And.intro hstarted
      right
      apply And.intro hout (And.intro hsize _)
      apply ccmFeed_taking default hinst
    have hall := hands Unit (takingKernel default).toCipherKernel ((), []) hret
    rw [mbedtlsCcmUpdate_recorded (takingKernel default).toCipherKernel hret] at hall
    apply (append_cut_iff [] input).mp hall
  . intro hfits W kernel w res hret
    rw [mbedtlsCcmUpdate_recorded kernel hret]
    rw [append_cut_iff]
    rcases mbedtlsCcmUpdate_ret_iff.mp hret with ⟨hstarted, hzero | ⟨hout, hsize, hfeed⟩⟩
    . omega
    . refine hfits hstarted ?_ hout hsize
      apply drvPufsInstFeed_instance hfeed

end

section

variable {dev : Option DrvPufsInst} {ctx : MbedtlsCipherContext C σ}
    {cmacCtx : MbedtlsCmacContext σ} {input : List Byte}

theorem mbedtlsCipherCmacUpdate_sw (hw : CmacHw C σ W) (hcmac : ctx.cmacCtx = some cmacCtx)
    (hsw : cmacCtx.useSw = true) (input : List Byte) (w : W)
    : mbedtlsCipherCmacUpdate hw ctx input w
        = let res := cmacSwUpdate hw.lib ctx.cipher
            (mbedtlsCipherInfoGetBlockSize ctx.cipherInfo) cmacCtx input
          ⟨⟨res.ret, { ctx with cmacCtx := some res.ctx }⟩, w⟩ := by
  unfold mbedtlsCipherCmacUpdate
  rw [hcmac]
  dsimp only
  rw [if_pos hsw]

theorem mbedtlsCipherCmacUpdate_hw (kernel : CmacKernel σ W) {lib : CipherLib C} {calloc : Bool}
    (hcmac : ctx.cmacCtx = some cmacCtx) (hsw : ¬cmacCtx.useSw = true) {w : W × List Byte}
    (hret : (mbedtlsCipherCmacUpdate ⟨dev, kernel.recorded, lib, calloc⟩ ctx input w).ret = 0)
    : let res := mbedtlsCipherCmacUpdate ⟨dev, kernel.recorded, lib, calloc⟩ ctx input w
      cmacCtx.hwReady = true ∧ (input.length ≠ 0 → dev.isSome ∧ cmacCtx.cmac.isSome)
        ∧ (∃ cmacCtx', res.ctx.cmacCtx = some cmacCtx')
        ∧ res.world.2 = w.2 ++ input.take (uint32 input.length) := by
  unfold mbedtlsCipherCmacUpdate at hret ⊢
  rw [hcmac] at hret ⊢
  dsimp only at hret ⊢
  rw [if_neg hsw] at hret ⊢
  split at hret
  . cases hret
  next hready =>
    rw [if_neg hready]
    split at hret
    next hzero =>
      rw [if_pos hzero]
      simpa [hzero, List.eq_nil_of_length_eq_zero hzero, hcmac] using hready
    next hzero =>
      rw [if_neg hzero]
      dsimp only at hret ⊢
      split at hret
      . cases hret
      next hfeed =>
        have hfeed := Classical.not_not.mp hfeed
        have hinst := drvPufsCmacInstUpdate_instance hfeed
        have htaken := drvPufsCmacInstUpdate_recorded kernel hfeed
        simpa [hinst, htaken] using hready

theorem cmacTakesAll_sw {lib : CipherLib C} {record : List Byte} {cmacCtx' : MbedtlsCmacContext σ}
    {res : CmacResult C σ (W × List Byte)} (hcmac : ctx.cmacCtx = some cmacCtx)
    (hres : res.ctx.cmacCtx = some cmacCtx') (hsw : cmacCtx.useSw = true)
    : CmacTakesAll lib ctx input record res
        ↔ ∃ blocks, CmacSwTakes lib ctx.cipher (mbedtlsCipherInfoGetBlockSize ctx.cipherInfo) cmacCtx
            input cmacCtx' blocks := by
  unfold CmacTakesAll
  rw [hcmac, hres]
  dsimp only
  rw [if_pos hsw]

theorem cmacTakesAll_hw {lib : CipherLib C} {record : List Byte} {cmacCtx' : MbedtlsCmacContext σ}
    {res : CmacResult C σ (W × List Byte)} (hcmac : ctx.cmacCtx = some cmacCtx)
    (hres : res.ctx.cmacCtx = some cmacCtx') (hsw : ¬cmacCtx.useSw = true)
    : CmacTakesAll lib ctx input record res ↔ res.world.2 = record ++ input := by
  unfold CmacTakesAll
  rw [hcmac, hres]
  dsimp only
  rw [if_neg hsw]

/-
The library takes every block, and still more than one block is left over where the sum wraps.
-/
theorem cmacUpdate_fits_sw [Inhabited σ] {hctx : CmacContextOk ctx}
    (hands : (AuthCall.cmacUpdate dev ctx hctx input : AuthCall κ C σ).HandsAll)
    (hcmac : ctx.cmacCtx = some cmacCtx) (hsw : cmacCtx.useSw = true)
    : CmacSwFits (mbedtlsCipherInfoGetBlockSize ctx.cipherInfo) cmacCtx input.length := by
  apply Classical.byContradiction
  intro hwraps
  have hpos := hctx.blockSize_pos (by simp [hcmac])
  have hle := mbedtlsCipherInfoGetBlockSize_le ctx.cipherInfo
  have hupdate := mbedtlsCipherCmacUpdate_sw
    ⟨dev, (takingCmacKernel default).recorded, takingLib ctx.cipher, true⟩ hcmac hsw input
    ((), ([] : List Byte))
  have hall := hands Unit (takingCmacKernel default) (takingLib ctx.cipher) true ((), [])
  dsimp only at hall
  rw [hupdate] at hall
  dsimp only at hall
  obtain ⟨blocks, htakes⟩ := (cmacTakesAll_sw hcmac rfl hsw).mp (hall cmacSwUpdate_taking)
  have hwait := htakes.waiting_le
  have hover := cmacSwUpdate_wraps hpos hle (hctx.waiting cmacCtx hcmac) hwraps
    (@cmacSwUpdate_taking σ C ctx.cipher _ cmacCtx input)
  omega

theorem mbedtlsCipherCmacUpdate_taking (zero : σ) {lib : CipherLib C} {calloc : Bool}
    (hcmac : ctx.cmacCtx = some cmacCtx) (hsw : ¬cmacCtx.useSw = true) (hready : cmacCtx.hwReady = true)
    (hinst : dev.isSome ∧ cmacCtx.cmac.isSome) (hzero : ¬input.length = 0) {w : Unit × List Byte}
    : (mbedtlsCipherCmacUpdate ⟨dev, (takingCmacKernel zero).recorded, lib, calloc⟩ ctx input w).ret
        = 0 := by
  obtain ⟨dev', hdev⟩ := Option.isSome_iff_exists.mp hinst.1
  obtain ⟨cmac, hcmac'⟩ := Option.isSome_iff_exists.mp hinst.2
  unfold mbedtlsCipherCmacUpdate
  rw [hcmac]
  dsimp only
  rw [if_neg hsw, if_neg (by simp [hready]), if_neg hzero]
  rw [hdev, hcmac']
  dsimp only
  rw [drvPufsCmacInstUpdate_taking]
  rfl

theorem cmacUpdate_fits_hw [Inhabited σ] {hctx : CmacContextOk ctx}
    (hands : (AuthCall.cmacUpdate dev ctx hctx input : AuthCall κ C σ).HandsAll)
    (hcmac : ctx.cmacCtx = some cmacCtx) (hsw : ¬cmacCtx.useSw = true) (hready : cmacCtx.hwReady = true)
    (hinst : dev.isSome ∧ cmacCtx.cmac.isSome)
    : input.length < 2 ^ 32 := by
  by_cases hzero : input.length = 0
  . omega
  . have hret : (mbedtlsCipherCmacUpdate
        ⟨dev, (takingCmacKernel default).recorded, takingLib ctx.cipher, true⟩ ctx input ((), [])).ret
          = 0 :=
      mbedtlsCipherCmacUpdate_taking default hcmac hsw hready hinst hzero
    obtain ⟨_, _, ⟨cmacCtx', hres⟩, hrecord⟩ :=
      mbedtlsCipherCmacUpdate_hw (takingCmacKernel default) hcmac hsw hret
    have hall := hands Unit (takingCmacKernel default) (takingLib ctx.cipher) true ((), []) hret
    have hrecorded := (cmacTakesAll_hw hcmac hres hsw).mp hall
    rw [hrecord] at hrecorded
    apply (append_cut_iff [] input).mp hrecorded

theorem cmacUpdate_handsAll {hctx : CmacContextOk ctx}
    (hfits : (AuthCall.cmacUpdate dev ctx hctx input : AuthCall κ C σ).Fits)
    : (AuthCall.cmacUpdate dev ctx hctx input : AuthCall κ C σ).HandsAll := by
  intro W kernel lib calloc w res hret
  dsimp only [res] at hret ⊢
  cases hcmac : ctx.cmacCtx with
  | none =>
    unfold mbedtlsCipherCmacUpdate at hret
    rw [hcmac] at hret
    cases hret
  | some cmacCtx =>
    have hpos := hctx.blockSize_pos (by simp [hcmac])
    have hle := mbedtlsCipherInfoGetBlockSize_le ctx.cipherInfo
    have hfits := hfits cmacCtx hcmac
    split at hfits
    next hsw =>
      rw [mbedtlsCipherCmacUpdate_sw _ hcmac hsw] at hret ⊢
      rw [cmacTakesAll_sw hcmac rfl hsw]
      apply cmacSwUpdate_takes hpos hle (hctx.waiting cmacCtx hcmac) hfits hret
    next hsw =>
      obtain ⟨hready, hinst, ⟨cmacCtx', hres⟩, hrecord⟩ :=
        mbedtlsCipherCmacUpdate_hw kernel hcmac hsw hret
      rw [cmacTakesAll_hw hcmac hres hsw]
      rw [hrecord, append_cut_iff]
      by_cases hzero : input.length = 0
      . omega
      . apply hfits hready (hinst hzero)

theorem cmacUpdate_handsAll_iff [Inhabited σ] {hctx : CmacContextOk ctx}
    : (AuthCall.cmacUpdate dev ctx hctx input : AuthCall κ C σ).HandsAll
        ↔ (AuthCall.cmacUpdate dev ctx hctx input : AuthCall κ C σ).Fits := by
  constructor
  . intro hands cmacCtx hcmac
    split
    next hsw =>
      apply cmacUpdate_fits_sw hands hcmac hsw
    next hsw =>
      intro hready hinst
      apply cmacUpdate_fits_hw hands hcmac hsw hready hinst
  . apply cmacUpdate_handsAll

end

/--
A call hands on all it is given, whenever it returns 0, exactly for the lengths that are not cut on
their way to the driver.
-/
theorem handsAll_iff [Inhabited κ] [Inhabited σ] (call : AuthCall κ C σ)
    : call.HandsAll ↔ call.Fits := by
  cases call with
  | gcmCryptAndTag dev ctx mode iv add input hasOut tag tagLen =>
    apply gcmCryptAndTag_handsAll_iff
  | gcmAuthDecrypt dev ctx iv add tag tagLen input hasOut =>
    apply gcmAuthDecrypt_handsAll_iff
  | gcmUpdateAd dev ctx add =>
    apply gcmUpdateAd_handsAll_iff
  | gcmUpdate dev ctx input hasOut outputSize =>
    apply gcmUpdate_handsAll_iff
  | ccmUpdateAd dev ctx ad =>
    apply ccmUpdateAd_handsAll_iff
  | ccmUpdate dev ctx input hasOut outputSize =>
    apply ccmUpdate_handsAll_iff
  | cmacUpdate dev ctx hctx input =>
    apply cmacUpdate_handsAll_iff

/-
Additional data of 2^32 bytes are fed to a started GCM operation as none at all.
-/
theorem updateAd_4GiB_not_handsAll
    : let ctx : MbedtlsGcmContext Unit := ⟨List.replicate 32 7, 128, true, some (), 1, true⟩
      ¬(AuthCall.gcmUpdateAd (some pufsBufSize) ctx (List.replicate (2 ^ 32) 0)
          : AuthCall Unit Unit Unit).HandsAll := by
  intro ctx hands
  have hfits := gcmUpdateAd_handsAll_iff.mp hands rfl ⟨rfl, rfl⟩
  rw [List.length_replicate] at hfits
  omega

end Mbedtls

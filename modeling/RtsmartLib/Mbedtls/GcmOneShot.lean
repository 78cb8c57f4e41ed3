import RtsmartLib.Mbedtls.GcmAlt
import RtsmartLib.Pufs.Feed
import RtsmartLib.Lib.BlockMode
import Mathlib.Data.BitVec

/-!
This module contains the equivalence of the two paths of one-shot GCM: two compound ioctls, or the
four streaming functions.
-/

namespace Mbedtls

open Lib Pufs

variable {κ : Type}

/--
A deterministic kernel whose operations compose. That an update of a fresh message gives out no more
than it is given is what makes the output buffer of an operation large enough.
-/
structure GcmKernelLaws (kernel : CompoundKernel κ Unit) : Prop extends
    UpdateLaws kernel.toCipherKernel where
  initUpdate : ∀ (op : Sp38dOp) (add : List Byte),
    (∃ e, (kernel.initUpdate op false add ()).1 = .error e)
      ∨ (kernel.initUpdate op false add ()).1
          = (kernel.init (.sp38d op) ()).1.bind (fun ctx => (kernel.update ctx false add ()).1)
  updateFinal : ∀ (ctx : κ) (input : List Byte) (args : FinalArgs),
    (kernel.updateFinal ctx input args ()).1
      = (kernel.update ctx args.hasOut input ()).1.bind (fun next =>
          (kernel.final next.1 args ()).1.map (fun res => ⟨next.2 ++ res.out, res.tag⟩))
  update_le : ∀ (op : Sp38dOp) (add input out out' : List Byte) (start ctx ctx' : κ),
    (kernel.init (.sp38d op) ()).1 = .ok start →
    (kernel.update start false add ()).1 = .ok (ctx, out) →
    (kernel.update ctx true input ()).1 = .ok (ctx', out') →
      out'.length ≤ input.length

variable {kernel : CompoundKernel κ Unit} (laws : GcmKernelLaws kernel) (dev : DrvPufsInst)

section

variable {ctx : MbedtlsGcmContext κ} {cipher : κ} (hstarted : ctx.started = true)
    (hcipher : ctx.cipher = some cipher)

theorem withCipher_self (h : ctx.cipher = some cipher) : { ctx with cipher := some cipher } = ctx := by
  cases ctx
  cases h
  rfl

include laws hcipher in
theorem gcmFeed_ok {hasOut : Bool} {input out : List Byte} {cipher' : κ}
    (hlen : input.length < 2 ^ 32)
    (h : (kernel.update cipher hasOut input ()).1 = .ok (cipher', out))
    : gcmFeed ⟨some dev, kernel⟩ ctx hasOut input ()
        = ⟨0, out, { ctx with cipher := some cipher' }, ()⟩ := by
  unfold gcmFeed
  dsimp only
  rw [hcipher]
  rw [← take_uint32_length hlen] at h
  rw [drvPufsInstFeed_ok laws.toUpdateLaws dev h]

include laws hcipher in
theorem gcmFeed_error {hasOut : Bool} {input : List Byte} {e : Errno}
    (hlen : input.length < 2 ^ 32)
    (h : (kernel.update cipher hasOut input ()).1 = .error e)
    : (gcmFeed ⟨some dev, kernel⟩ ctx hasOut input ()).ret = e.1 := by
  unfold gcmFeed
  dsimp only
  rw [hcipher]
  rw [← take_uint32_length hlen] at h
  exact drvPufsInstFeed_error laws.toUpdateLaws dev h

include laws hstarted hcipher in
theorem mbedtlsGcmUpdateAd_ok {add out : List Byte} {cipher' : κ} (hlen : add.length < 2 ^ 32)
    (h : (kernel.update cipher false add ()).1 = .ok (cipher', out))
    : mbedtlsGcmUpdateAd ⟨some dev, kernel⟩ ctx add ()
        = ⟨0, { ctx with cipher := some cipher' }, ()⟩ := by
  unfold mbedtlsGcmUpdateAd
  rw [if_neg (by simp [hstarted])]
  by_cases hzero : add.length = 0
  . rw [if_pos hzero]
    rw [List.eq_nil_of_length_eq_zero hzero, laws.update_nil] at h
    injection h with h
    injection h with hsame
    rw [← hsame, withCipher_self hcipher]
  . rw [if_neg hzero]
    rw [gcmFeed_ok laws dev hcipher hlen h]
    rfl

include laws hstarted hcipher in
theorem mbedtlsGcmUpdate_ok {input out : List Byte} {cipher' : κ} (hlen : input.length < 2 ^ 32)
    (h : (kernel.update cipher true input ()).1 = .ok (cipher', out))
    : mbedtlsGcmUpdate ⟨some dev, kernel⟩ ctx input true input.length ()
        = ⟨⟨0, { ctx with cipher := some cipher' }, ()⟩, out, out.length⟩ := by
  unfold mbedtlsGcmUpdate
  rw [if_neg (by simp [hstarted])]
  by_cases hzero : input.length = 0
  . rw [if_pos hzero]
    rw [List.eq_nil_of_length_eq_zero hzero, laws.update_nil] at h
    injection h with h
    injection h with hsame hout
    rw [← hsame, ← hout, withCipher_self hcipher]
    rfl
  . rw [if_neg hzero]
    rw [if_neg (by decide)]
    rw [if_neg (Nat.lt_irrefl _)]
    rw [gcmFeed_ok laws dev hcipher hlen h]
    rfl

include laws hstarted hcipher in
theorem mbedtlsGcmUpdate_error {input : List Byte} {e : Errno} (hlen : input.length < 2 ^ 32)
    (h : (kernel.update cipher true input ()).1 = .error e)
    : (mbedtlsGcmUpdate ⟨some dev, kernel⟩ ctx input true input.length ()).ret
        = gcmMapCipherError ctx e.1 := by
  unfold mbedtlsGcmUpdate
  rw [if_neg (by simp [hstarted])]
  by_cases hzero : input.length = 0
  . rw [List.eq_nil_of_length_eq_zero hzero, laws.update_nil] at h
    cases h
  . have hret := gcmFeed_error laws dev hcipher hlen h
    rw [if_neg hzero]
    rw [if_neg (by decide)]
    rw [if_neg (Nat.lt_irrefl _)]
    dsimp only
    rw [if_pos (by rw [hret]; exact e.2)]
    rw [hret]

theorem gcmMapCipherError_ne_zero (ctx : MbedtlsGcmContext κ) (e : Errno)
    : gcmMapCipherError ctx e.1 ≠ 0 := by
  unfold gcmMapCipherError
  rw [if_neg e.2]
  split
  . decide
  . decide

end

/-
What both paths come to: an error of the message's update or of the final goes through the same map,
and what is given out has to add up to the length of the input.
-/
def gcmOutcome (kernel : CompoundKernel κ Unit) (ctx : MbedtlsGcmContext κ) (cipher : κ)
    (input tag : List Byte) (tagLen : Nat) : Except Int (List Byte × List Byte) :=
  match (kernel.update cipher true input ()).1 with
  | .error e => .error (gcmMapCipherError ctx e.1)
  | .ok (cipher', out) =>
    match (kernel.final cipher' ⟨true, some tag, uint32 tagLen⟩ ()).1 with
    | .error e => .error (gcmMapCipherError ctx e.1)
    | .ok res =>
      if out.length + res.out.length = input.length then
        .ok (out ++ res.out, res.tag)
      else
        .error errGcmBadInput

def GcmResult.outcome {W : Type} (res : GcmResult κ W) : Except Int (List Byte × List Byte) :=
  if res.ret = 0 then .ok (res.out, res.tag) else .error res.ret

theorem GcmResult.outcome_ok {res : GcmResult κ Unit} (h : res.ret = 0)
    : res.outcome = .ok (res.out, res.tag) := by
  unfold GcmResult.outcome
  rw [if_pos h]

theorem GcmResult.outcome_error {res : GcmResult κ Unit} (h : res.ret ≠ 0)
    : res.outcome = .error res.ret := by
  unfold GcmResult.outcome
  rw [if_neg h]

section

variable {ctx : MbedtlsGcmContext κ} (hkey : ctx.hasKey = true) {mode : Int}
    (hmode : mode = mbedtlsGcmEncrypt ∨ mode = mbedtlsGcmDecrypt) {iv add input tag : List Byte}
    {tagLen : Nat} (hadd : add.length < 2 ^ 32) (hinput : input.length < 2 ^ 32)

include hkey hmode in
theorem mbedtlsGcmStarts_eq
    : mbedtlsGcmStarts ⟨some dev, kernel⟩ ctx mode (some iv) ()
        = match (kernel.init (.sp38d (sp38dInitOp (gcmParams ctx mode (some iv)))) ()).1 with
          | .error _ => ⟨errGcmBadInput, { ctx with mode, cipher := some kernel.zero }, ()⟩
          | .ok cipher => ⟨0, { ctx with mode, cipher := some cipher, started := true }, ()⟩ := by
  unfold mbedtlsGcmStarts
  rw [if_neg (by simp [hkey])]
  rw [if_neg (by
    obtain h | h := hmode
    . simp [h]
    . simp [h])]
  dsimp only
  rw [drvPufsCipherInit_gcm]
  generalize kernel.init (.sp38d (sp38dInitOp (gcmParams ctx mode (some iv)))) () = answer
  obtain ⟨answer, _⟩ := answer
  cases answer with
  | error e => rfl
  | ok cipher => rfl

theorem mbedtlsGcmFinish_eq {ctx : MbedtlsGcmContext κ} {cipher : κ} (hstarted : ctx.started = true)
    (hcipher : ctx.cipher = some cipher) (hw : GcmHw κ Unit) (tag : List Byte) (tagLen : Nat)
    : mbedtlsGcmFinish hw ctx true tag tagLen ()
        = let ctx' := { ctx with started := false }
          match (hw.kernel.final cipher ⟨true, some tag, uint32 tagLen⟩ ()).1 with
          | .error e => ⟨⟨⟨gcmMapCipherError ctx e.1, ctx', ()⟩, [], 0⟩, tag⟩
          | .ok res => ⟨⟨⟨0, ctx', ()⟩, res.out, res.out.length⟩, res.tag⟩ := by
  unfold mbedtlsGcmFinish
  rw [if_neg (by simp [hstarted])]
  rw [hcipher]
  dsimp only [drvPufsCipherFinal]
  generalize hw.kernel.final cipher ⟨true, some tag, uint32 tagLen⟩ () = answer
  obtain ⟨answer, _⟩ := answer
  cases answer with
  | error e => rfl
  | ok res => rfl

include laws hkey hmode hadd hinput in
theorem gcmStreaming_outcome {start cipher : κ} {out : List Byte}
    (hinit : (kernel.init (.sp38d (sp38dInitOp (gcmParams ctx mode (some iv)))) ()).1 = .ok start)
    (had : (kernel.update start false add ()).1 = .ok (cipher, out))
    : (gcmStreaming ⟨some dev, kernel⟩ ctx mode (some iv) add input true tag tagLen ()).outcome
        = gcmOutcome kernel { ctx with mode } cipher input tag tagLen := by
  have hstarts := @mbedtlsGcmStarts_eq κ kernel dev ctx hkey mode hmode iv
  rw [hinit] at hstarts
  dsimp only at hstarts
  unfold gcmStreaming
  dsimp only
  rw [hstarts]
  rw [if_neg (by simp)]
  dsimp only
  rw [mbedtlsGcmUpdateAd_ok laws dev rfl rfl hadd had]
  rw [if_neg (by simp)]
  dsimp only
  unfold gcmOutcome
  cases hupdate : (kernel.update cipher true input ()).1 with
  | error e =>
    have hret := @mbedtlsGcmUpdate_error κ kernel laws dev
      { ctx with mode, cipher := some cipher, started := true } cipher rfl rfl input e hinput hupdate
    have hne := gcmMapCipherError_ne_zero { ctx with mode } e
    rw [if_pos (by rw [hret]; exact hne)]
    rw [GcmResult.outcome_error (by dsimp only; rw [hret]; exact hne)]
    dsimp only
    rw [hret]
    rfl
  | ok next =>
    obtain ⟨cipher', out'⟩ := next
    have hle := laws.update_le _ _ _ _ _ _ _ _ hinit had hupdate
    rw [mbedtlsGcmUpdate_ok laws dev rfl rfl hinput hupdate]
    rw [if_neg (by simp)]
    dsimp only
    rw [if_neg (by omega)]
    rw [mbedtlsGcmFinish_eq rfl rfl]
    dsimp only
    cases (kernel.final cipher' ⟨true, some tag, uint32 tagLen⟩ ()).1 with
    | error e =>
      dsimp only
      rw [if_pos (gcmMapCipherError_ne_zero _ e)]
      rw [GcmResult.outcome_error (gcmMapCipherError_ne_zero _ e)]
      rfl
    | ok res =>
      dsimp only
      rw [if_neg (by simp)]
      by_cases hsum : out'.length + res.out.length = input.length
      . rw [if_neg (by simpa using hsum), if_pos hsum]
        exact GcmResult.outcome_ok rfl
      . rw [if_pos hsum, if_neg hsum]
        exact GcmResult.outcome_error (show errGcmBadInput ≠ 0 by decide)

include laws in
theorem drvPufsCipherUpdateFinal_spec (cipher : κ) (input tag : List Byte) (tagLen : Nat)
    : let res := drvPufsCipherUpdateFinal kernel dev cipher input ⟨true, some tag, tagLen⟩ ()
      match (kernel.update cipher true input ()).1 with
      | .error e => res.ret = e.1
      | .ok (cipher', out) =>
        match (kernel.final cipher' ⟨true, some tag, tagLen⟩ ()).1 with
        | .error e => res.ret = e.1
        | .ok last => res = ⟨0, out ++ last.out, last.tag, ()⟩ := by
  intro res
  dsimp only [res]
  unfold drvPufsCipherUpdateFinal
  by_cases hle : input.length ≤ dev.bufSize
  . rw [if_pos hle]
    have hlaw := laws.updateFinal cipher input ⟨true, some tag, tagLen⟩
    dsimp only at hlaw ⊢
    generalize kernel.updateFinal cipher input ⟨true, some tag, tagLen⟩ () = answer at hlaw ⊢
    obtain ⟨answer, _⟩ := answer
    dsimp only at hlaw
    generalize (kernel.update cipher true input ()).1 = update at hlaw ⊢
    cases update with
    | error e =>
      rw [hlaw]
      rfl
    | ok next =>
      dsimp only [Except.bind] at hlaw ⊢
      generalize (kernel.final next.1 ⟨true, some tag, tagLen⟩ ()).1 = final at hlaw ⊢
      cases final with
      | error e =>
        rw [hlaw]
        rfl
      | ok last =>
        rw [hlaw]
        rfl
  . rw [if_neg hle]
    cases hupdate : (kernel.update cipher true input ()).1 with
    | error e =>
      have hret := drvPufsCipherFeed_error laws.toUpdateLaws dev hupdate
      dsimp only
      rw [if_pos (by rw [hret]; exact e.2)]
      exact hret
    | ok next =>
      rw [drvPufsCipherFeed_ok laws.toUpdateLaws dev hupdate]
      dsimp only
      rw [if_neg (by simp)]
      generalize kernel.final next.1 ⟨true, some tag, tagLen⟩ () = answer
      obtain ⟨answer, _⟩ := answer
      cases answer with
      | error e => rfl
      | ok last => rfl

include hkey hmode in
theorem gcmStreaming_restart
    : gcmStreaming ⟨some dev, kernel⟩ { ctx with mode, cipher := some kernel.zero } mode (some iv) add
          input true tag tagLen ()
        = gcmStreaming ⟨some dev, kernel⟩ ctx mode (some iv) add input true tag tagLen () := by
  have hstarts := @mbedtlsGcmStarts_eq κ kernel dev ctx hkey mode hmode iv
  have hstarts' := @mbedtlsGcmStarts_eq κ kernel dev
    { ctx with mode, cipher := some kernel.zero } hkey mode hmode iv
  unfold gcmStreaming
  rw [hstarts, hstarts']
  rfl

include laws in
/-
What the end of the compound operation comes to.
-/
theorem gcmCompound_outcome (ctx : MbedtlsGcmContext κ) (cipher : κ) (input tag : List Byte) (tagLen : Nat)
    : let res := drvPufsCipherUpdateFinal kernel dev cipher input ⟨true, some tag, uint32 tagLen⟩ ()
      GcmResult.outcome
          (if res.ret ≠ 0 then
            ⟨gcmMapCipherError ctx res.ret, ctx, res.out, res.tag, res.world⟩
          else if res.out.length ≠ input.length then
            ⟨errGcmBadInput, ctx, res.out, res.tag, res.world⟩
          else
            ⟨0, ctx, res.out, res.tag, res.world⟩)
        = gcmOutcome kernel ctx cipher input tag tagLen := by
  intro res
  have hspec := drvPufsCipherUpdateFinal_spec laws dev cipher input tag (uint32 tagLen)
  unfold gcmOutcome res
  generalize drvPufsCipherUpdateFinal kernel dev cipher input ⟨true, some tag, uint32 tagLen⟩ () = res
    at hspec ⊢
  cases hupdate : (kernel.update cipher true input ()).1 with
  | error e =>
    rw [hupdate] at hspec
    dsimp only at hspec ⊢
    rw [if_pos (by rw [hspec]; exact e.2), hspec]
    exact GcmResult.outcome_error (gcmMapCipherError_ne_zero _ e)
  | ok next =>
    rw [hupdate] at hspec
    dsimp only at hspec ⊢
    cases hfinal : (kernel.final next.1 ⟨true, some tag, uint32 tagLen⟩ ()).1 with
    | error e =>
      rw [hfinal] at hspec
      dsimp only at hspec ⊢
      rw [if_pos (by rw [hspec]; exact e.2), hspec]
      exact GcmResult.outcome_error (gcmMapCipherError_ne_zero _ e)
    | ok last =>
      rw [hfinal] at hspec
      dsimp only at hspec ⊢
      rw [hspec]
      dsimp only
      rw [if_neg (by simp), List.length_append]
      by_cases hsum : next.2.length + last.out.length = input.length
      . rw [if_neg (by simpa using hsum), if_pos hsum]
        exact GcmResult.outcome_ok rfl
      . rw [if_pos hsum, if_neg hsum]
        exact GcmResult.outcome_error (show errGcmBadInput ≠ 0 by decide)

include laws hkey hmode hadd hinput in
theorem gcmRunStream_outcome
    : (gcmRunStream ⟨some dev, kernel⟩ ctx mode (some iv) add input true tag tagLen ()).outcome
        = (gcmStreaming ⟨some dev, kernel⟩ ctx mode (some iv) add input true tag tagLen ()).outcome
        := by
  unfold gcmRunStream
  dsimp only [drvPufsCipherInitUpdate]
  rw [take_uint32_length hadd, take_uint32_length hinput]
  rw [show uint32 input.length = input.length from Nat.mod_eq_of_lt hinput]
  rw [if_pos rfl]
  have hlaw := laws.initUpdate (sp38dInitOp (gcmParams ctx mode (some iv))) add
  have hparams : gcmParams { ctx with mode } mode (some iv) = gcmParams ctx mode (some iv) := rfl
  rw [hparams]
  generalize kernel.initUpdate (sp38dInitOp (gcmParams ctx mode (some iv))) false add () = answer
    at hlaw
  obtain ⟨answer, _⟩ := answer
  cases answer with
  | error e =>
    -- Whatever the compound operation was refused for, the streaming functions start afresh.
    dsimp only
    rw [gcmStreaming_restart dev hkey hmode]
  | ok next =>
    obtain ⟨cipher, out⟩ := next
    obtain ⟨e, he⟩ | hboth := hlaw
    . cases he
    . dsimp only at hboth ⊢
      cases hinit : (kernel.init (.sp38d (sp38dInitOp (gcmParams ctx mode (some iv)))) ()).1 with
      | error e =>
        rw [hinit] at hboth
        cases hboth
      | ok start =>
        rw [hinit] at hboth
        rw [gcmStreaming_outcome laws dev hkey hmode hadd hinput hinit hboth.symm]
        exact gcmCompound_outcome laws dev { ctx with mode, cipher := some cipher, started := false }
          cipher input tag tagLen

end

theorem GcmResult.of_outcome {res res' : GcmResult κ Unit} (h : res.outcome = res'.outcome)
    : res.ret = res'.ret ∧ (res.ret = 0 → res.out = res'.out ∧ res.tag = res'.tag) := by
  unfold GcmResult.outcome at h
  split at h
  . next hzero =>
    split at h
    . next hzero' =>
      injection h with h
      injection h with hout htag
      exact ⟨hzero.trans hzero'.symm, fun _ => ⟨hout, htag⟩⟩
    . cases h
  . next hne =>
    split at h
    . cases h
    . injection h with h
      exact ⟨h, fun hzero => absurd hzero hne⟩

/--
A one-shot operation does what the four streaming functions do, whether the kernel takes the compound
operations or not and whether the message fits one chunk or not.
-/
theorem gcmRunStream_eq_gcmStreaming (laws : GcmKernelLaws kernel) (dev : Option DrvPufsInst)
    {ctx : MbedtlsGcmContext κ} (hkey : ctx.hasKey = true) {mode : Int}
    (hmode : mode = mbedtlsGcmEncrypt ∨ mode = mbedtlsGcmDecrypt) (iv : List Byte)
    {add input : List Byte} (hadd : add.length < 2 ^ 32) (hinput : input.length < 2 ^ 32)
    (tag : List Byte) (tagLen : Nat)
    : let one := gcmRunStream ⟨dev, kernel⟩ ctx mode (some iv) add input true tag tagLen ()
      let four := gcmStreaming ⟨dev, kernel⟩ ctx mode (some iv) add input true tag tagLen ()
      one.ret = four.ret ∧ (one.ret = 0 → one.out = four.out ∧ one.tag = four.tag) := by
  intro one four
  apply GcmResult.of_outcome
  cases dev with
  | none =>
    have hstarts : mbedtlsGcmStarts ⟨none, kernel⟩ ctx mode (some iv) () = ⟨errGcmBadInput, ctx, ()⟩ := by
      unfold mbedtlsGcmStarts
      split
      . rfl
      . split
        . rfl
        . rfl
    dsimp only [one, four]
    unfold gcmRunStream gcmStreaming
    rw [hstarts]
    rfl
  | some dev => exact gcmRunStream_outcome laws dev hkey hmode hadd hinput

/-
A device that adds a keystream to the message and takes a tag of additional data and ciphertext. It
knows the compound operations or refuses them.
-/
structure GcmDevice where
  keystream : Sp38dOp → Nat → Byte
  tag : Sp38dOp → List Byte → List Byte → List Byte
  compound : Bool

structure GcmDeviceCtx where
  op : Sp38dOp
  add : List Byte
  message : List Byte

namespace GcmDevice

variable (device : GcmDevice)

def init (op : CipherOp) : Except Errno GcmDeviceCtx :=
  match op with
  | .sp38d op => .ok ⟨op, [], []⟩
  | _ => .error einval

def update (ctx : GcmDeviceCtx) (hasOut : Bool) (bytes : List Byte)
    : Except Errno (GcmDeviceCtx × List Byte) :=
  if hasOut then
    .ok ({ ctx with message := ctx.message ++ bytes },
      xorBytes (device.keystream ctx.op) ctx.message.length bytes)
  else
    .ok ({ ctx with add := ctx.add ++ bytes }, [])

def final (ctx : GcmDeviceCtx) (args : FinalArgs) : Except Errno FinalOut :=
  let output := xorBytes (device.keystream ctx.op) 0 ctx.message
  let ciphertext := if ctx.op.encrypt then output else ctx.message
  let tag := (device.tag ctx.op ctx.add ciphertext).take args.taglen
  if ctx.op.encrypt then
    .ok ⟨[], tag⟩
  else if args.tag = some tag then
    .ok ⟨[], tag⟩
  else
    .error pufsErrVerfail

def toKernel : CompoundKernel GcmDeviceCtx Unit :=
  {
    zero := ⟨⟨.aes, false, .swkey, 0, [], [], 0⟩, [], []⟩
    init := fun op _ => (init op, ())
    update := fun ctx hasOut bytes _ => (device.update ctx hasOut bytes, ())
    final := fun ctx args _ => (device.final ctx args, ())
    initUpdate := fun op hasOut bytes _ =>
      (if device.compound then
          (init (.sp38d op)).bind (fun ctx => device.update ctx hasOut bytes)
        else
          .error einval, ())
    updateFinal := fun ctx bytes args _ =>
      ((device.update ctx args.hasOut bytes).bind (fun next =>
          (device.final next.1 args).map (fun res => ⟨next.2 ++ res.out, res.tag⟩)), ())
  }

theorem toKernel_laws : GcmKernelLaws device.toKernel := by
  refine ⟨⟨?_, ?_⟩, ?_, ?_, ?_⟩
  . intro ctx hasOut
    cases hasOut with
    | false => simp [toKernel, update]
    | true => simp [toKernel, update, xorBytes]
  . intro ctx hasOut input input'
    cases hasOut with
    | false => simp [toKernel, update, Except.bind, Except.map]
    | true => simp [toKernel, update, Except.bind, Except.map, xorBytes_append]
  . intro op add
    unfold toKernel
    dsimp only
    by_cases hcompound : device.compound
    . rw [if_pos hcompound]
      exact .inr rfl
    . rw [if_neg hcompound]
      exact .inl ⟨einval, rfl⟩
  . intro ctx input args
    rfl
  . intro op add input out out' start ctx ctx' _ _ hupdate
    injection hupdate with hupdate
    injection hupdate with _ hout
    rw [← hout]
    rw [length_xorBytes]

end GcmDevice

def sumDevice : GcmDevice :=
  {
    keystream := fun op i => BitVec.ofNat 8 (op.key.length + i)
    tag := fun _ add ciphertext => [add.sum, ciphertext.sum]
    compound := true
  }

theorem sumDevice_gcmRunStream_eq_gcmStreaming
    : let ctx : MbedtlsGcmContext GcmDeviceCtx := ⟨List.replicate 32 7, 128, true, none, 0, false⟩
      let hw : GcmHw GcmDeviceCtx Unit := ⟨some pufsBufSize, sumDevice.toKernel⟩
      let one :=
        gcmRunStream hw ctx mbedtlsGcmEncrypt (some [1, 2, 3]) [4, 5] (List.replicate 70000 6) true
          [0, 0] 2 ()
      let four :=
        gcmStreaming hw ctx mbedtlsGcmEncrypt (some [1, 2, 3]) [4, 5] (List.replicate 70000 6) true
          [0, 0] 2 ()
      one.ret = four.ret ∧ (one.ret = 0 → one.out = four.out ∧ one.tag = four.tag) :=
  gcmRunStream_eq_gcmStreaming sumDevice.toKernel_laws (some pufsBufSize) rfl (.inl rfl) [1, 2, 3]
    (by decide) (by rw [List.length_replicate]; decide) [0, 0] 2

end Mbedtls

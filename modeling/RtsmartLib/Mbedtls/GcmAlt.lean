import RtsmartLib.Pufs.Cipher

/-!
This module contains the GCM port: the streaming functions, and the one-shot operation that tries the
compound operations of the kernel before it falls back to them.
-/

namespace Mbedtls

open Lib Pufs

def errGcmAuthFailed : Int := -0x0012

def errGcmBadInput : Int := -0x0014

def mbedtlsGcmEncrypt : Int := 1

def mbedtlsGcmDecrypt : Int := 0

inductive CipherId where
  | aes
  | other
deriving DecidableEq

/-
The cipher instance is absent until an init has given it a device.
-/
structure MbedtlsGcmContext (κ : Type) where
  key : List Byte
  keybits : UInt32
  hasKey : Bool
  cipher : Option κ
  mode : Int
  started : Bool

structure GcmHw (κ W : Type) where
  dev : Option DrvPufsInst
  kernel : CompoundKernel κ W

variable {κ W : Type}

def gcmMapCipherError (ctx : MbedtlsGcmContext κ) (ret : Int) : Int :=
  if ret = 0 then
    0
  else if ret = pufsErrVerfail.1 ∧ ctx.mode = mbedtlsGcmDecrypt then
    errGcmAuthFailed
  else
    errGcmBadInput

def mbedtlsGcmInit : MbedtlsGcmContext κ :=
  ⟨List.replicate 32 0, 0, false, none, 0, false⟩

def mbedtlsGcmSetkey (ctx : MbedtlsGcmContext κ) (cipher : CipherId) (key : List Byte)
    (keybits : UInt32) : Except Int (MbedtlsGcmContext κ) :=
  if cipher ≠ .aes then
    .error errGcmBadInput
  else if keybits ≠ 128 ∧ keybits ≠ 192 ∧ keybits ≠ 256 then
    .error errGcmBadInput
  else
    let n := (keybits / 8).toNat
    .ok
      { ctx with
        key := key.take n ++ ctx.key.drop n
        keybits
        hasKey := true
        started := false
      }

/-
A key buffer after one of the setkey functions: the key is at its front.
-/
structure HoldsKey (buffer : List Byte) (held : UInt32) (key : List Byte) (keybits : UInt32) : Prop
    where
  keybits_eq : held = keybits
  valid : keybits = 128 ∨ keybits = 192 ∨ keybits = 256
  length : key.length = (keybits / 8).toNat
  take : buffer.take key.length = key

theorem holdsKey_of_setkey {key buffer : List Byte} {keybits : UInt32}
    (hlen : key.length = (keybits / 8).toNat)
    (hbits : ¬(keybits ≠ 128 ∧ keybits ≠ 192 ∧ keybits ≠ 256))
    : HoldsKey (key.take (keybits / 8).toNat ++ buffer.drop (keybits / 8).toNat) keybits key
        keybits := by
  refine ⟨rfl, ?_, hlen, ?_⟩
  . by_cases h128 : keybits = 128
    . exact .inl h128
    . by_cases h192 : keybits = 192
      . exact .inr (.inl h192)
      . by_cases h256 : keybits = 256
        . exact .inr (.inr h256)
        . exact absurd ⟨h128, h192, h256⟩ hbits
  . rw [← hlen, List.take_length]
    exact List.take_left

theorem HoldsKey.swKey_eq {buffer key : List Byte} {held keybits : UInt32}
    (h : HoldsKey buffer held key keybits)
    : swKey pufsSwKeyMaxlen .swkey (some buffer) held = copyInto pufsSwKeyMaxlen key key.length := by
  have hkeyLen : keyLen pufsSwKeyMaxlen keybits = key.length := by
    rw [h.length]
    obtain hbits | hbits | hbits := h.valid
    . rw [hbits]
      rfl
    . rw [hbits]
      rfl
    . rw [hbits]
      rfl
  unfold swKey copyInto
  dsimp only
  rw [h.keybits_eq, hkeyLen, h.take]
  rw [List.take_length]

def gcmParams (ctx : MbedtlsGcmContext κ) (mode : Int) (iv : Option (List Byte)) : CipherParams :=
  {
    cipher := .aes
    encrypt := mode = mbedtlsGcmEncrypt
    keytype := .swkey
    key := some ctx.key
    keybits := ctx.keybits
    iv
    ivlen := UInt32.ofNat (iv.getD []).length
  }

structure GcmStatus (κ W : Type) where
  ret : Int
  ctx : MbedtlsGcmContext κ
  world : W

def mbedtlsGcmStarts (hw : GcmHw κ W) (ctx : MbedtlsGcmContext κ) (mode : Int)
    (iv : Option (List Byte)) (w : W) : GcmStatus κ W :=
  if !ctx.hasKey ∨ iv = none then
    ⟨errGcmBadInput, ctx, w⟩
  else if mode ≠ mbedtlsGcmEncrypt ∧ mode ≠ mbedtlsGcmDecrypt then
    ⟨errGcmBadInput, ctx, w⟩
  else
    match hw.dev with
    | none => ⟨errGcmBadInput, ctx, w⟩
    | some _ =>
      match drvPufsCipherInit hw.kernel.toCipherKernel .gcm (gcmParams ctx mode iv) w with
      | (.error _, w) => ⟨errGcmBadInput, { ctx with mode, cipher := some hw.kernel.zero }, w⟩
      | (.ok cipher, w) => ⟨0, { ctx with mode, cipher := some cipher, started := true }, w⟩

def gcmFeed (hw : GcmHw κ W) (ctx : MbedtlsGcmContext κ) (hasOut : Bool) (input : List Byte) (w : W)
    : FeedResult (MbedtlsGcmContext κ) W :=
  let res := drvPufsInstFeed hw.kernel.toCipherKernel hw.dev ctx.cipher hasOut input w
  ⟨res.ret, res.out, { ctx with cipher := res.ctx }, res.world⟩

def mbedtlsGcmUpdateAd (hw : GcmHw κ W) (ctx : MbedtlsGcmContext κ) (add : List Byte) (w : W)
    : GcmStatus κ W :=
  if !ctx.started then
    ⟨errGcmBadInput, ctx, w⟩
  else if add.length = 0 then
    ⟨0, ctx, w⟩
  else
    let res := gcmFeed hw ctx false add w
    ⟨gcmMapCipherError ctx res.ret, res.ctx, res.world⟩

structure GcmOutput (κ W : Type) extends GcmStatus κ W where
  out : List Byte
  outputLength : Nat

def mbedtlsGcmUpdate (hw : GcmHw κ W) (ctx : MbedtlsGcmContext κ) (input : List Byte)
    (hasOut : Bool) (outputSize : Nat) (w : W) : GcmOutput κ W :=
  if !ctx.started then
    ⟨⟨errGcmBadInput, ctx, w⟩, [], 0⟩
  else if input.length = 0 then
    ⟨⟨0, ctx, w⟩, [], 0⟩
  else if !hasOut then
    ⟨⟨errGcmBadInput, ctx, w⟩, [], 0⟩
  else if outputSize < input.length then
    ⟨⟨errGcmBadInput, ctx, w⟩, [], 0⟩
  else
    let res := gcmFeed hw ctx true input w
    if res.ret ≠ 0 then
      ⟨⟨gcmMapCipherError ctx res.ret, res.ctx, res.world⟩, res.out, 0⟩
    else
      ⟨⟨0, res.ctx, res.world⟩, res.out, res.out.length⟩

structure GcmFinished (κ W : Type) extends GcmOutput κ W where
  tag : List Byte

def mbedtlsGcmFinish (hw : GcmHw κ W) (ctx : MbedtlsGcmContext κ) (hasOut : Bool)
    (tag : List Byte) (tagLen : Nat) (w : W) : GcmFinished κ W :=
  if !ctx.started then
    ⟨⟨⟨errGcmBadInput, ctx, w⟩, [], 0⟩, tag⟩
  else
    let ctx' := { ctx with started := false }
    match ctx.cipher with
    | none => ⟨⟨⟨gcmMapCipherError ctx eperm.1, ctx', w⟩, [], 0⟩, tag⟩
    | some cipher =>
      match drvPufsCipherFinal hw.kernel.toCipherKernel .gcm cipher
        ⟨hasOut, some tag, uint32 tagLen⟩ w with
      | (.error e, w) => ⟨⟨⟨gcmMapCipherError ctx e.1, ctx', w⟩, [], 0⟩, tag⟩
      | (.ok res, w) => ⟨⟨⟨0, ctx', w⟩, res.out, res.out.length⟩, res.tag⟩

/-
What a one-shot operation leaves behind: its return value, and the buffers when it is zero.
-/
structure GcmResult (κ W : Type) where
  ret : Int
  ctx : MbedtlsGcmContext κ
  out : List Byte
  tag : List Byte
  world : W

def gcmStreaming (hw : GcmHw κ W) (ctx : MbedtlsGcmContext κ) (mode : Int)
    (iv : Option (List Byte)) (add input : List Byte) (hasOut : Bool) (tag : List Byte)
    (tagLen : Nat) (w : W) : GcmResult κ W :=
  let stop (ret : Int) (ctx : MbedtlsGcmContext κ) (out tag : List Byte) (w : W) : GcmResult κ W :=
    ⟨ret, { ctx with started := false }, out, tag, w⟩
  let starts := mbedtlsGcmStarts hw ctx mode iv w
  if starts.ret ≠ 0 then
    ⟨starts.ret, starts.ctx, [], tag, starts.world⟩
  else
    let ad := mbedtlsGcmUpdateAd hw starts.ctx add starts.world
    if ad.ret ≠ 0 then
      stop ad.ret ad.ctx [] tag ad.world
    else
      let update := mbedtlsGcmUpdate hw ad.ctx input hasOut input.length ad.world
      if update.ret ≠ 0 then
        stop update.ret update.ctx update.out tag update.world
      else if update.outputLength > input.length then
        stop errGcmBadInput update.ctx update.out tag update.world
      else
        let finish := mbedtlsGcmFinish hw update.ctx hasOut tag tagLen update.world
        if finish.ret ≠ 0 then
          stop finish.ret finish.ctx update.out finish.tag finish.world
        else if update.outputLength + finish.outputLength ≠ input.length then
          stop errGcmBadInput finish.ctx (update.out ++ finish.out) finish.tag finish.world
        else
          ⟨0, finish.ctx, update.out ++ finish.out, finish.tag, finish.world⟩

def gcmRunStream (hw : GcmHw κ W) (ctx : MbedtlsGcmContext κ) (mode : Int)
    (iv : Option (List Byte)) (add input : List Byte) (hasOut : Bool) (tag : List Byte)
    (tagLen : Nat) (w : W) : GcmResult κ W :=
  match hw.dev with
  | none => ⟨errGcmBadInput, ctx, [], tag, w⟩
  | some dev =>
    let ctx := { ctx with mode }
    match drvPufsCipherInitUpdate hw.kernel .gcm (gcmParams ctx mode iv) false
      (add.take (uint32 add.length)) w with
    | (.error _, w) =>
      gcmStreaming hw { ctx with cipher := some hw.kernel.zero } mode iv add input hasOut tag tagLen w
    | (.ok (cipher, _), w) =>
      let res := drvPufsCipherUpdateFinal hw.kernel dev cipher (input.take (uint32 input.length))
        ⟨hasOut, some tag, uint32 tagLen⟩ w
      let ctx := { ctx with cipher := some cipher, started := false }
      if res.ret ≠ 0 then
        ⟨gcmMapCipherError ctx res.ret, ctx, res.out, res.tag, res.world⟩
      else if res.out.length ≠ uint32 input.length then
        ⟨errGcmBadInput, ctx, res.out, res.tag, res.world⟩
      else
        ⟨0, ctx, res.out, res.tag, res.world⟩

def mbedtlsGcmCryptAndTag (hw : GcmHw κ W) (ctx : MbedtlsGcmContext κ) (mode : Int)
    (iv : Option (List Byte)) (add input : List Byte) (hasOut : Bool) (tag : List Byte)
    (tagLen : Nat) (w : W) : GcmResult κ W :=
  gcmRunStream hw ctx mode iv add input hasOut tag tagLen w

def mbedtlsGcmAuthDecrypt (hw : GcmHw κ W) (ctx : MbedtlsGcmContext κ) (iv : Option (List Byte))
    (add tag : List Byte) (tagLen : Nat) (input : List Byte) (hasOut : Bool) (w : W)
    : GcmResult κ W :=
  if tagLen > 16 ∨ tagLen < 4 then
    ⟨errGcmBadInput, ctx, [], tag, w⟩
  else
    let res :=
      gcmRunStream hw ctx mbedtlsGcmDecrypt iv add input hasOut (tag.take tagLen) tagLen w
    if res.ret ≠ 0 then
      { res with out := List.replicate input.length 0 }
    else
      res

end Mbedtls

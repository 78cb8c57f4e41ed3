import RtsmartLib.Mbedtls.GcmAlt

/-!
This module contains the CCM port. The hardware is only initialised once the nonce and the lengths
are both known.
-/

namespace Mbedtls

open Lib Pufs

def errCcmAuthFailed : Int := -0x000F

def errCcmBadInput : Int := -0x000D

def mbedtlsCcmDecrypt : Int := 0

def mbedtlsCcmEncrypt : Int := 1

def mbedtlsCcmStarDecrypt : Int := 2

def mbedtlsCcmStarEncrypt : Int := 3

structure MbedtlsCcmContext (κ : Type) where
  key : List Byte
  keybits : UInt32
  hasKey : Bool
  cipher : Option κ
  mode : Int
  started : Bool
  iv : List Byte
  ivLen : Nat
  totalAdLen : Nat
  plaintextLen : Nat
  tagLen : Nat
  haveIv : Bool
  haveLengths : Bool

structure CcmHw (κ W : Type) where
  dev : Option DrvPufsInst
  kernel : CipherKernel κ W

variable {κ W : Type}

def ccmMapCipherError (ctx : MbedtlsCcmContext κ) (ret : Int) : Int :=
  if ret = 0 then
    0
  else if ret = pufsErrVerfail.1
      ∧ (ctx.mode = mbedtlsCcmDecrypt ∨ ctx.mode = mbedtlsCcmStarDecrypt) then
    errCcmAuthFailed
  else
    errCcmBadInput

def mbedtlsCcmInit : MbedtlsCcmContext κ :=
  {
    key := List.replicate 32 0
    keybits := 0
    hasKey := false
    cipher := none
    mode := 0
    started := false
    iv := List.replicate 16 0
    ivLen := 0
    totalAdLen := 0
    plaintextLen := 0
    tagLen := 0
    haveIv := false
    haveLengths := false
  }

def mbedtlsCcmSetkey (ctx : MbedtlsCcmContext κ) (cipher : CipherId) (key : List Byte)
    (keybits : UInt32) : Except Int (MbedtlsCcmContext κ) :=
  if cipher ≠ .aes then
    .error errCcmBadInput
  else if keybits ≠ 128 ∧ keybits ≠ 192 ∧ keybits ≠ 256 then
    .error errCcmBadInput
  else
    let n := (keybits / 8).toNat
    .ok
      { ctx with
        key := key.take n ++ ctx.key.drop n
        keybits
        hasKey := true
        started := false
      }

structure CcmStatus (κ W : Type) where
  ret : Int
  ctx : MbedtlsCcmContext κ
  world : W

def ccmParams (ctx : MbedtlsCcmContext κ) : CipherParams :=
  {
    cipher := .aes
    encrypt := ctx.mode = mbedtlsCcmEncrypt
    keytype := .swkey
    key := some ctx.key
    keybits := ctx.keybits
    iv := some ctx.iv
    ivlen := UInt32.ofNat ctx.ivLen
  }

def ccmHwInit (hw : CcmHw κ W) (ctx : MbedtlsCcmContext κ) (w : W) : CcmStatus κ W :=
  if !ctx.haveIv ∨ !ctx.haveLengths then
    ⟨0, ctx, w⟩
  else
    match hw.dev with
    | none => ⟨errCcmBadInput, ctx, w⟩
    | some _ =>
      match drvPufsCipherCcmInit hw.kernel (ccmParams ctx) (UInt64.ofNat ctx.totalAdLen)
        (UInt64.ofNat ctx.plaintextLen) (UInt32.ofNat ctx.tagLen) w with
      | (.error _, w) => ⟨errCcmBadInput, { ctx with cipher := some hw.kernel.zero }, w⟩
      | (.ok cipher, w) => ⟨0, { ctx with cipher := some cipher, started := true }, w⟩

def ccmModeValid (mode : Int) : Bool :=
  mode = mbedtlsCcmEncrypt ∨ mode = mbedtlsCcmDecrypt ∨ mode = mbedtlsCcmStarEncrypt
    ∨ mode = mbedtlsCcmStarDecrypt

def mbedtlsCcmStarts (hw : CcmHw κ W) (ctx : MbedtlsCcmContext κ) (mode : Int)
    (iv : Option (List Byte)) (w : W) : CcmStatus κ W :=
  match iv with
  | none => ⟨errCcmBadInput, ctx, w⟩
  | some iv =>
    if !ctx.hasKey then
      ⟨errCcmBadInput, ctx, w⟩
    else if !ccmModeValid mode then
      ⟨errCcmBadInput, ctx, w⟩
    else if iv.length < 7 ∨ iv.length > 13 then
      ⟨errCcmBadInput, ctx, w⟩
    else
      ccmHwInit hw
        { ctx with
          mode
          iv := iv ++ ctx.iv.drop iv.length
          ivLen := iv.length
          haveIv := true
          started := false
          haveLengths := false
        } w

def mbedtlsCcmSetLengths (hw : CcmHw κ W) (ctx : MbedtlsCcmContext κ)
    (totalAdLen plaintextLen tagLen : Nat) (w : W) : CcmStatus κ W :=
  if tagLen = 2 ∨ tagLen % 2 ≠ 0 ∨ tagLen > 16 ∨ tagLen = 0 then
    ⟨errCcmBadInput, ctx, w⟩
  else
    ccmHwInit hw { ctx with totalAdLen, plaintextLen, tagLen, haveLengths := true } w

def ccmFeed (hw : CcmHw κ W) (ctx : MbedtlsCcmContext κ) (hasOut : Bool) (input : List Byte) (w : W)
    : FeedResult (MbedtlsCcmContext κ) W :=
  let res := drvPufsInstFeed hw.kernel hw.dev ctx.cipher hasOut input w
  ⟨res.ret, res.out, { ctx with cipher := res.ctx }, res.world⟩

def mbedtlsCcmUpdateAd (hw : CcmHw κ W) (ctx : MbedtlsCcmContext κ) (ad : List Byte) (w : W)
    : CcmStatus κ W :=
  if !ctx.started then
    ⟨errCcmBadInput, ctx, w⟩
  else if ad.length = 0 then
    ⟨0, ctx, w⟩
  else
    let res := ccmFeed hw ctx false ad w
    ⟨ccmMapCipherError ctx res.ret, res.ctx, res.world⟩

structure CcmOutput (κ W : Type) extends CcmStatus κ W where
  out : List Byte
  outputLen : Nat

def mbedtlsCcmUpdate (hw : CcmHw κ W) (ctx : MbedtlsCcmContext κ) (input : List Byte)
    (hasOut : Bool) (outputSize : Nat) (w : W) : CcmOutput κ W :=
  if !ctx.started then
    ⟨⟨errCcmBadInput, ctx, w⟩, [], 0⟩
  else if input.length = 0 then
    ⟨⟨0, ctx, w⟩, [], 0⟩
  else if !hasOut then
    ⟨⟨errCcmBadInput, ctx, w⟩, [], 0⟩
  else if outputSize < input.length then
    ⟨⟨errCcmBadInput, ctx, w⟩, [], 0⟩
  else
    let res := ccmFeed hw ctx true input w
    if res.ret ≠ 0 then
      ⟨⟨ccmMapCipherError ctx res.ret, res.ctx, res.world⟩, res.out, 0⟩
    else
      ⟨⟨0, res.ctx, res.world⟩, res.out, res.out.length⟩

structure CcmFinished (κ W : Type) extends CcmStatus κ W where
  tag : List Byte

def mbedtlsCcmFinish (hw : CcmHw κ W) (ctx : MbedtlsCcmContext κ) (tag : List Byte) (tagLen : Nat)
    (w : W) : CcmFinished κ W :=
  if !ctx.started then
    ⟨⟨errCcmBadInput, ctx, w⟩, tag⟩
  else
    let ctx' := { ctx with started := false }
    match ctx.cipher with
    | none => ⟨⟨ccmMapCipherError ctx eperm.1, ctx', w⟩, tag⟩
    | some cipher =>
      match drvPufsCipherFinal hw.kernel .ccm cipher ⟨false, some tag, uint32 tagLen⟩ w with
      | (.error e, w) => ⟨⟨ccmMapCipherError ctx e.1, ctx', w⟩, tag⟩
      | (.ok res, w) => ⟨⟨0, ctx', w⟩, res.tag⟩

structure CcmResult (κ W : Type) where
  ret : Int
  ctx : MbedtlsCcmContext κ
  out : List Byte
  tag : List Byte
  world : W

def ccmRunStream (hw : CcmHw κ W) (ctx : MbedtlsCcmContext κ) (mode : Int)
    (iv : Option (List Byte)) (ad input : List Byte) (hasOut : Bool) (tag : List Byte) (tagLen : Nat)
    (w : W) : CcmResult κ W :=
  let stop (ret : Int) (ctx : MbedtlsCcmContext κ) (out : List Byte) (w : W) : CcmResult κ W :=
    ⟨ret, { ctx with started := false }, out, tag, w⟩
  let starts := mbedtlsCcmStarts hw ctx mode iv w
  if starts.ret ≠ 0 then
    ⟨starts.ret, starts.ctx, [], tag, starts.world⟩
  else
    let lengths :=
      mbedtlsCcmSetLengths hw starts.ctx ad.length input.length tagLen starts.world
    if lengths.ret ≠ 0 then
      stop lengths.ret lengths.ctx [] lengths.world
    else
      let updateAd := mbedtlsCcmUpdateAd hw lengths.ctx ad lengths.world
      if updateAd.ret ≠ 0 then
        stop updateAd.ret updateAd.ctx [] updateAd.world
      else
        let update := mbedtlsCcmUpdate hw updateAd.ctx input hasOut input.length updateAd.world
        if update.ret ≠ 0 then
          stop update.ret update.ctx update.out update.world
        else if update.outputLen ≠ input.length then
          stop errCcmBadInput update.ctx update.out update.world
        else
          let finish := mbedtlsCcmFinish hw update.ctx tag tagLen update.world
          ⟨finish.ret, finish.ctx, update.out, finish.tag, finish.world⟩

def mbedtlsCcmStarEncryptAndTag (hw : CcmHw κ W) (ctx : MbedtlsCcmContext κ)
    (iv : Option (List Byte)) (ad input : List Byte) (hasOut : Bool) (tag : List Byte) (tagLen : Nat)
    (w : W) : CcmResult κ W :=
  ccmRunStream hw ctx mbedtlsCcmStarEncrypt iv ad input hasOut tag tagLen w

def mbedtlsCcmEncryptAndTag (hw : CcmHw κ W) (ctx : MbedtlsCcmContext κ) (iv : Option (List Byte))
    (ad input : List Byte) (hasOut : Bool) (tag : List Byte) (tagLen : Nat) (w : W)
    : CcmResult κ W :=
  ccmRunStream hw ctx mbedtlsCcmEncrypt iv ad input hasOut tag tagLen w

/-
The one-shot decryptions work on a copy of the tag and clear the output if anything fails.
-/
def ccmAuthDecrypt (hw : CcmHw κ W) (ctx : MbedtlsCcmContext κ) (mode : Int)
    (iv : Option (List Byte)) (ad input : List Byte) (hasOut : Bool) (tag : List Byte) (tagLen : Nat)
    (w : W) : CcmResult κ W :=
  if tagLen > 16 then
    ⟨errCcmBadInput, ctx, [], tag, w⟩
  else
    let res := ccmRunStream hw ctx mode iv ad input hasOut (tag.take tagLen) tagLen w
    if res.ret ≠ 0 then
      { res with out := List.replicate input.length 0 }
    else
      res

def mbedtlsCcmStarAuthDecrypt (hw : CcmHw κ W) (ctx : MbedtlsCcmContext κ)
    (iv : Option (List Byte)) (ad input : List Byte) (hasOut : Bool) (tag : List Byte) (tagLen : Nat)
    (w : W) : CcmResult κ W :=
  ccmAuthDecrypt hw ctx mbedtlsCcmStarDecrypt iv ad input hasOut tag tagLen w

def mbedtlsCcmAuthDecrypt (hw : CcmHw κ W) (ctx : MbedtlsCcmContext κ) (iv : Option (List Byte))
    (ad input : List Byte) (hasOut : Bool) (tag : List Byte) (tagLen : Nat) (w : W)
    : CcmResult κ W :=
  ccmAuthDecrypt hw ctx mbedtlsCcmDecrypt iv ad input hasOut tag tagLen w

end Mbedtls

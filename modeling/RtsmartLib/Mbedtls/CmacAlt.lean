import RtsmartLib.Pufs.Cmac
import Mathlib.Algebra.Order.Group.Nat

/-!
This module contains the CMAC port: AES goes through the hardware, triple DES through a software
implementation over the block cipher of the library.
-/

namespace Mbedtls

open Lib Pufs

def errCipherBadInputData : Int := -0x6100

def errCipherAllocFailed : Int := -0x6180

def errCipherFeatureUnavailable : Int := -0x6080

def mbedtlsAesBlockSize : Nat := 16

def mbedtlsDes3BlockSize : Nat := 8

def mbedtlsCmacMaxBlockSize : Nat := 16

inductive CipherType where
  | aes128Ecb
  | aes192Ecb
  | aes256Ecb
  | desEde3Ecb
  | other
deriving DecidableEq

def mbedtlsCipherInfoGetBlockSize (info : Option CipherType) : Nat :=
  match info with
  | none => 0
  | some .desEde3Ecb => mbedtlsDes3BlockSize
  | some _ => mbedtlsAesBlockSize

/--
The cipher layer of the library. `C` is the part of a cipher context that is its own. An update here
is always of one block.
-/
structure CipherLib (C : Type) where
  setup : CipherType → Except Errno C
  setkey : C → CipherType → List Byte → Int → Except Errno C
  update : C → List Byte → Except Errno (List Byte)

/-
Of the block that waits to be processed only the bytes that are in use are kept.
-/
structure MbedtlsCmacContext (σ : Type) where
  cmac : Option (CmacCtx σ)
  key : List Byte
  keybits : UInt32
  hwReady : Bool
  useSw : Bool
  state : List Byte
  unprocessedBlock : List Byte

structure MbedtlsCipherContext (C σ : Type) where
  cipherInfo : Option CipherType
  cipher : C
  cmacCtx : Option (MbedtlsCmacContext σ)

/-
Allocation is of one context, the first time a key is set.
-/
structure CmacHw (C σ W : Type) where
  dev : Option DrvPufsInst
  kernel : CmacKernel σ W
  lib : CipherLib C
  calloc : Bool

def cmacGetUint32Be (input : List Byte) : BitVec 32 :=
  ((input.getD 0 0).setWidth 32 <<< 24) ||| ((input.getD 1 0).setWidth 32 <<< 16)
    ||| ((input.getD 2 0).setWidth 32 <<< 8) ||| (input.getD 3 0).setWidth 32

def cmacPutUint32Be (value : BitVec 32) : List Byte :=
  [(value >>> 24).setWidth 8, (value >>> 16).setWidth 8, (value >>> 8).setWidth 8, value.setWidth 8]

/-
The loop over the words of a block, of which the last one is shifted first.
-/
def cmacSwShiftLoop (words : Nat) (input : List Byte) : BitVec 32 × List Byte :=
  match words with
  | 0 => (0, [])
  | words + 1 =>
    let (overflow, output) := cmacSwShiftLoop words (input.drop 4)
    let value := cmacGetUint32Be (input.take 4)
    (value >>> 31, cmacPutUint32Be ((value <<< 1) ||| overflow) ++ output)

def cmacSwMultiplyByU (input : List Byte) (blockSize : Nat) : Except Errno (List Byte) :=
  let multiply (rN : Byte) : List Byte :=
    let output := (cmacSwShiftLoop (blockSize / 4) input).2
    if (input.getD 0 0) >>> 7 ≠ 0 then
      output.set (blockSize - 1) (output.getD (blockSize - 1) 0 ^^^ rN)
    else
      output
  if blockSize = mbedtlsAesBlockSize then
    .ok (multiply 0x87)
  else if blockSize = mbedtlsDes3BlockSize then
    .ok (multiply 0x1B)
  else
    .error ⟨errCipherBadInputData, by decide⟩

def cmacSwPad (blockSize : Nat) (input : List Byte) : List Byte :=
  (List.range blockSize).map fun index =>
    if index < input.length then
      input.getD index 0
    else if index = input.length then
      0x80
    else
      0

def cmacSwXor (dst src : List Byte) : List Byte :=
  List.zipWith (· ^^^ ·) dst src

variable {C σ W : Type}

def cmacSwGenerateSubkeys (lib : CipherLib C) (cipher : C) (blockSize : Nat)
    : Except Errno (List Byte × List Byte) := do
  let l ← lib.update cipher (List.replicate blockSize 0)
  let k1 ← cmacSwMultiplyByU l blockSize
  let k2 ← cmacSwMultiplyByU k1 blockSize
  return (k1, k2)

def cmacSwStarts (ctx : MbedtlsCmacContext σ) : MbedtlsCmacContext σ :=
  { ctx with
    useSw := true
    hwReady := false
    unprocessedBlock := []
    state := List.replicate mbedtlsCmacMaxBlockSize 0
  }

structure CmacStatus (σ : Type) where
  ret : Int
  ctx : MbedtlsCmacContext σ

/-
The blocks that are processed at once, every one but the last.
-/
def cmacSwUpdateLoop (lib : CipherLib C) (cipher : C) (blockSize : Nat) (blocks : Nat)
    (ctx : MbedtlsCmacContext σ) (input : List Byte) : CmacStatus σ × List Byte :=
  match blocks with
  | 0 => (⟨0, ctx⟩, input)
  | blocks + 1 =>
    match lib.update cipher (cmacSwXor (input.take blockSize) ctx.state) with
    | .error e => (⟨e.1, ctx⟩, input)
    | .ok state =>
      cmacSwUpdateLoop lib cipher blockSize blocks { ctx with state } (input.drop blockSize)

/-
`n_blocks` is a `size_t`, and so is the sum it is computed from.
-/
def cmacSwBlocks (ilen blockSize : Nat) : Nat :=
  (ilen + blockSize - 1) % 2 ^ 64 / blockSize

def cmacSwUpdateRest (lib : CipherLib C) (cipher : C) (blockSize : Nat) (ctx : MbedtlsCmacContext σ)
    (input : List Byte) : CmacStatus σ :=
  let (res, rest) :=
    cmacSwUpdateLoop lib cipher blockSize (cmacSwBlocks input.length blockSize - 1) ctx input
  if res.ret ≠ 0 then
    res
  else
    ⟨0, { res.ctx with unprocessedBlock := res.ctx.unprocessedBlock ++ rest }⟩

def cmacSwUpdate (lib : CipherLib C) (cipher : C) (blockSize : Nat) (ctx : MbedtlsCmacContext σ)
    (input : List Byte) : CmacStatus σ :=
  let room := blockSize - ctx.unprocessedBlock.length
  if 0 < ctx.unprocessedBlock.length ∧ room < input.length then
    let block := ctx.unprocessedBlock ++ input.take room
    match lib.update cipher (cmacSwXor block ctx.state) with
    | .error e => ⟨e.1, ctx⟩
    | .ok state =>
      cmacSwUpdateRest lib cipher blockSize { ctx with state, unprocessedBlock := [] }
        (input.drop room)
  else
    cmacSwUpdateRest lib cipher blockSize ctx input

structure CmacFinished (σ : Type) extends CmacStatus σ where
  output : List Byte

def cmacSwFinish (lib : CipherLib C) (cipher : C) (blockSize : Nat) (ctx : MbedtlsCmacContext σ)
    : CmacFinished σ :=
  let ctx' :=
    { ctx with unprocessedBlock := [], state := List.replicate mbedtlsCmacMaxBlockSize 0 }
  match cmacSwGenerateSubkeys lib cipher blockSize with
  | .error e => ⟨⟨e.1, ctx'⟩, []⟩
  | .ok (k1, k2) =>
    let mLast :=
      if ctx.unprocessedBlock.length < blockSize then
        cmacSwXor (cmacSwPad blockSize ctx.unprocessedBlock) k2
      else
        cmacSwXor ctx.unprocessedBlock k1
    match lib.update cipher (cmacSwXor mLast ctx.state) with
    | .error e => ⟨⟨e.1, ctx'⟩, []⟩
    | .ok state => ⟨⟨0, ctx'⟩, state⟩

def cmacHwInit (hw : CmacHw C σ W) (ctx : MbedtlsCmacContext σ) : CmacStatus σ :=
  match hw.dev with
  | none => ⟨errCipherFeatureUnavailable, ctx⟩
  | some _ =>
    let cmac := drvPufsCmacInit hw.kernel .aes .swkey (.bytes 0 ctx.key) ctx.keybits
    ⟨0, { ctx with cmac := some cmac, hwReady := true, useSw := false }⟩

/-
A context after it has been cleared and given its key, of which 32 bytes fit.
-/
def cmacKeyedContext (key : List Byte) (keybits : Nat) : MbedtlsCmacContext σ :=
  {
    cmac := none
    key := copyInto 32 key ((keybits + 7) / 8)
    keybits := UInt32.ofNat keybits
    hwReady := false
    useSw := false
    state := List.replicate mbedtlsCmacMaxBlockSize 0
    unprocessedBlock := []
  }

structure CmacOutcome (C σ : Type) where
  ret : Int
  ctx : MbedtlsCipherContext C σ

def mbedtlsCipherCmacStarts (hw : CmacHw C σ W) (ctx : MbedtlsCipherContext C σ)
    (key : Option (List Byte)) (keybits : Nat) : CmacOutcome C σ :=
  match ctx.cipherInfo, key with
  | some info, some key =>
    match hw.lib.setkey ctx.cipher info key (BitVec.ofNat 32 keybits).toInt with
    | .error e => ⟨e.1, ctx⟩
    | .ok cipher =>
      let ctx := { ctx with cipher }
      if info = .other then
        ⟨errCipherBadInputData, ctx⟩
      else if ctx.cmacCtx.isNone ∧ !hw.calloc then
        ⟨errCipherAllocFailed, ctx⟩
      else
        let cmacCtx := cmacKeyedContext key keybits
        if info = .desEde3Ecb then
          ⟨0, { ctx with cmacCtx := some (cmacSwStarts cmacCtx) }⟩
        else
          let res := cmacHwInit hw cmacCtx
          ⟨res.ret, { ctx with cmacCtx := some res.ctx }⟩
  | _, _ => ⟨errCipherBadInputData, ctx⟩

structure CmacResult (C σ W : Type) extends CmacOutcome C σ where
  world : W

def mbedtlsCipherCmacUpdate (hw : CmacHw C σ W) (ctx : MbedtlsCipherContext C σ)
    (input : List Byte) (w : W) : CmacResult C σ W :=
  match ctx.cmacCtx with
  | none => ⟨⟨errCipherBadInputData, ctx⟩, w⟩
  | some cmacCtx =>
    if cmacCtx.useSw then
      let res :=
        cmacSwUpdate hw.lib ctx.cipher (mbedtlsCipherInfoGetBlockSize ctx.cipherInfo) cmacCtx input
      ⟨⟨res.ret, { ctx with cmacCtx := some res.ctx }⟩, w⟩
    else if !cmacCtx.hwReady then
      ⟨⟨errCipherFeatureUnavailable, ctx⟩, w⟩
    else if input.length = 0 then
      ⟨⟨0, ctx⟩, w⟩
    else
      let (ret, cmac, w) := drvPufsCmacInstUpdate hw.kernel hw.dev cmacCtx.cmac input w
      ⟨⟨if ret ≠ 0 then errCipherFeatureUnavailable else 0,
        { ctx with cmacCtx := some { cmacCtx with cmac } }⟩, w⟩

structure CmacTag (C σ W : Type) extends CmacResult C σ W where
  output : List Byte

def mbedtlsCipherCmacFinish (hw : CmacHw C σ W) (ctx : MbedtlsCipherContext C σ) (w : W)
    : CmacTag C σ W :=
  match ctx.cmacCtx with
  | none => ⟨⟨⟨errCipherBadInputData, ctx⟩, w⟩, []⟩
  | some cmacCtx =>
    if cmacCtx.useSw then
      let res := cmacSwFinish hw.lib ctx.cipher (mbedtlsCipherInfoGetBlockSize ctx.cipherInfo) cmacCtx
      ⟨⟨⟨res.ret, { ctx with cmacCtx := some res.ctx }⟩, w⟩, res.output⟩
    else if !cmacCtx.hwReady then
      ⟨⟨⟨errCipherFeatureUnavailable, ctx⟩, w⟩, []⟩
    else
      -- Whatever the final answers, the session is consumed.
      let ctx := { ctx with cmacCtx := some { cmacCtx with hwReady := false } }
      match drvPufsCmacInstFinal hw.kernel hw.dev cmacCtx.cmac w with
      | (.error _, w) => ⟨⟨⟨errCipherFeatureUnavailable, ctx⟩, w⟩, []⟩
      | (.ok output, w) => ⟨⟨⟨0, ctx⟩, w⟩, output⟩

def mbedtlsCipherCmacReset (hw : CmacHw C σ W) (ctx : MbedtlsCipherContext C σ) : CmacOutcome C σ :=
  match ctx.cmacCtx with
  | none => ⟨errCipherBadInputData, ctx⟩
  | some cmacCtx =>
    if cmacCtx.useSw then
      let cmacCtx :=
        { cmacCtx with
          unprocessedBlock := []
          state := List.replicate mbedtlsCmacMaxBlockSize 0
        }
      ⟨0, { ctx with cmacCtx := some cmacCtx }⟩
    else
      let res := cmacHwInit hw cmacCtx
      ⟨res.ret, { ctx with cmacCtx := some res.ctx }⟩

structure CmacOneShot (W : Type) where
  ret : Int
  output : List Byte
  world : W

def mbedtlsCipherCmac (hw : CmacHw C σ W) (info : CipherType) (key : List Byte) (keylen : Nat)
    (input : List Byte) (w : W) : CmacOneShot W :=
  match hw.lib.setup info with
  | .error e => ⟨e.1, [], w⟩
  | .ok cipher =>
    let starts := mbedtlsCipherCmacStarts hw ⟨some info, cipher, none⟩ (some key) keylen
    if starts.ret ≠ 0 then
      ⟨starts.ret, [], w⟩
    else
      let update := mbedtlsCipherCmacUpdate hw starts.ctx input w
      if update.ret ≠ 0 then
        ⟨update.ret, [], update.world⟩
      else
        let finish := mbedtlsCipherCmacFinish hw update.ctx update.world
        ⟨finish.ret, finish.output, finish.world⟩

end Mbedtls

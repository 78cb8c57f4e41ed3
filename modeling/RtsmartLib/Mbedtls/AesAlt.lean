import RtsmartLib.Mbedtls.AesSw
import RtsmartLib.Pufs.Cipher

/-!
This module contains the AES port: hardware CBC and counter mode for long inputs, with the software
implementation behind them.
-/

namespace Mbedtls

open Lib Pufs

def mbedtlsPufsAesHwThreshold : Nat := 4096

def errAesInvalidKeyLength : Int := -0x0020

structure MbedtlsAesContext (sw : AesSw) where
  key : List Byte
  keybits : UInt32
  hasKey : Bool
  sw : sw.Context

def aesValidateKeybits (keybits : UInt32) : Bool :=
  keybits = 128 ∨ keybits = 192 ∨ keybits = 256

def setkey (sw : AesSw) (schedule : List Byte → sw.Context) (key : List Byte) (keybits : UInt32)
    : Except Int (MbedtlsAesContext sw) :=
  if !aesValidateKeybits keybits then
    .error errAesInvalidKeyLength
  else
    .ok
      {
        key := key.take (keybits / 8).toNat
        keybits
        hasKey := true
        sw := schedule (key.take (keybits / 8).toNat)
      }

def mbedtlsAesSetkeyEnc (sw : AesSw) (key : List Byte) (keybits : UInt32)
    : Except Int (MbedtlsAesContext sw) :=
  setkey sw sw.setkeyEnc key keybits

def mbedtlsAesSetkeyDec (sw : AesSw) (key : List Byte) (keybits : UInt32)
    : Except Int (MbedtlsAesContext sw) :=
  setkey sw sw.setkeyDec key keybits

def load64 (bytes : List Byte) : BitVec 64 :=
  bytes.foldl (fun value b => value <<< 8 ||| b.setWidth 64) 0

def store64 (value : BitVec 64) : List Byte :=
  [
    (value >>> 56).setWidth 8,
    (value >>> 48).setWidth 8,
    (value >>> 40).setWidth 8,
    (value >>> 32).setWidth 8,
    (value >>> 24).setWidth 8,
    (value >>> 16).setWidth 8,
    (value >>> 8).setWidth 8,
    value.setWidth 8
  ]

def aesAddCounter (counter : Block) (n : Nat) : Block :=
  let lo := load64 (counter.1.drop 8)
  let newLo := lo + BitVec.ofNat 64 n
  let high :=
    if newLo < lo then store64 (load64 (counter.1.take 8) + 1) else counter.1.take 8
  ⟨high ++ store64 newLo, by
    have hhigh : high.length = 8 := by
      dsimp only [high]
      split
      . rfl
      . simp [counter.2]
    rw [List.length_append]
    rw [hhigh]
    rfl⟩

variable {sw : AesSw} {κ W : Type}

/--
What the driver and the device look like from the port: no device at all if opening it failed. The
kernel's buffers are the memory that the port's pointers point into.
-/
structure AesHw (κ W : Type) where
  dev : Option DrvPufsInst
  kernel : CipherKernel κ W

structure HwResult (W : Type) where
  ret : Int
  mem : Memory
  world : W

def aesHwCryptSp38a (hw : AesHw κ W) (ctx : MbedtlsAesContext sw) (hwMode : SkcipherMode)
    (encrypt : Bool) (iv : Block) (input length output : Nat) (mem : Memory) (w : W)
    : HwResult W :=
  match hw.dev with
  | none => ⟨-1, mem, w⟩
  | some dev =>
    let params : CipherParams := ⟨.aes, encrypt, .swkey, some ctx.key, ctx.keybits, some iv.1, 16⟩
    match drvPufsCipherInit hw.kernel hwMode params w with
    | (.error e, w) => ⟨e.1, mem, w⟩
    | (.ok cipher, w) =>
      let update := drvPufsCipherUpdate hw.kernel dev output input (uint32 length) cipher mem w
      if update.ret ≠ 0 then
        ⟨update.ret, update.mem, update.world⟩
      else
        match drvPufsCipherFinal hw.kernel hwMode update.ctx ⟨true, none, 0⟩ update.world with
        | (.error e, w) => ⟨e.1, update.mem, w⟩
        | (.ok tail, w) =>
          if update.outlen + tail.out.length ≠ length then
            ⟨-1, update.mem, w⟩
          else
            ⟨0, writeBytes (output + update.outlen) tail.out update.mem, w⟩

def aesHwCryptCbc (hw : AesHw κ W) (ctx : MbedtlsAesContext sw) (mode : AesMode) (length : Nat)
    (iv : Block) (input output : Nat) (mem : Memory) (w : W) : HwResult W × Block :=
  let savedIv := readBlock mem (input + length - 16)
  let res := aesHwCryptSp38a hw ctx .cbc (mode = .encrypt) iv input length output mem w
  if res.ret ≠ 0 then
    (res, iv)
  else if 0 < length then
    match mode with
    | .encrypt => (res, readBlock res.mem (output + length - 16))
    | .decrypt => (res, savedIv)
  else
    (res, iv)

def aesHwCryptCtr (hw : AesHw κ W) (ctx : MbedtlsAesContext sw) (length : Nat) (s : CtrState)
    (input output : Nat) (mem : Memory) (w : W) : HwResult W × CtrState :=
  let res := aesHwCryptSp38a hw ctx .ctr true s.nonceCounter input length output mem w
  if res.ret ≠ 0 then
    (res, s)
  else
    let blocks := (length + 15) / 16
    let streamBlock :=
      if length % 16 ≠ 0 then
        sw.encrypt ctx.sw (aesAddCounter s.nonceCounter (blocks - 1))
      else
        s.streamBlock
    (res,
      {
        ncOff := (s.ncOff + length) % 16
        nonceCounter := aesAddCounter s.nonceCounter blocks
        streamBlock
      })

def mbedtlsAesCryptCbc (hw : AesHw κ W) (ctx : MbedtlsAesContext sw) (mode : AesMode) (length : Nat)
    (iv : Block) (input output : Nat) (mem : Memory) (w : W) : CbcResult :=
  if mbedtlsPufsAesHwThreshold ≤ length ∧ ctx.hasKey then
    let (res, ivCopy) := aesHwCryptCbc hw ctx mode length iv input output mem w
    if res.ret = 0 then
      ⟨0, res.mem, ivCopy⟩
    else
      swCryptCbc sw ctx.sw mode length iv input output res.mem
  else
    swCryptCbc sw ctx.sw mode length iv input output mem

def mbedtlsAesCryptCtr (hw : AesHw κ W) (ctx : MbedtlsAesContext sw) (length : Nat) (s : CtrState)
    (input output : Nat) (mem : Memory) (w : W) : CtrResult × W :=
  if mbedtlsPufsAesHwThreshold ≤ length ∧ ctx.hasKey ∧ s.ncOff = 0 then
    let (res, copy) := aesHwCryptCtr hw ctx length s input output mem w
    if res.ret = 0 then
      (⟨0, res.mem, copy⟩, res.world)
    else
      (swCryptCtr sw ctx.sw length s input output res.mem, res.world)
  else
    (swCryptCtr sw ctx.sw length s input output mem, w)

end Mbedtls

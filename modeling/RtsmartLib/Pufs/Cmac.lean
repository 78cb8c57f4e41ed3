import RtsmartLib.Pufs.Hash

/-!
This module contains the CMAC driver: the context that travels between driver and kernel, and the
chunk loop of an update.
-/

namespace Pufs

open Lib

def cmacOpCmac : UInt32 := 1

/-
The context of the kernel's CMAC engine. `σ` is its running state, which the driver only clears.
-/
structure CmacCtx (σ : Type) where
  cipher : SkCipher
  op : UInt32
  keytype : KeyType
  keybits : UInt32
  keyslot : UInt32
  minlen : UInt32
  start : Bool
  key : List Byte
  state : σ
deriving DecidableEq

structure CmacKernel (σ W : Type) where
  zero : σ
  update : CmacCtx σ → List Byte → W → Except Errno (CmacCtx σ) × W
  final : CmacCtx σ → W → Except Errno (List Byte) × W

variable {σ W : Type}

/-
A key is passed the way the key of an HMAC is.
-/
def drvPufsCmacInit (kernel : CmacKernel σ W) (cipher : SkCipher) (keytype : KeyType) (key : HmacKey)
    (keybits : UInt32) : CmacCtx σ :=
  let ctx : CmacCtx σ :=
    {
      cipher
      op := cmacOpCmac
      keytype
      keybits
      keyslot := 0
      minlen := 1
      start := false
      key := List.replicate pufsSwKeyMaxlen 0
      state := kernel.zero
    }
  match keytype, key with
  | .swkey, .bytes _ key =>
    { ctx with key := copyInto pufsSwKeyMaxlen key (keyLen pufsSwKeyMaxlen keybits) }
  | _, .slot keyslot => { ctx with keyslot }
  | _, .bytes address _ => { ctx with keyslot := address }

structure CmacUpdateResult (σ W : Type) where
  ret : Int
  ctx : CmacCtx σ
  world : W

def cmacUpdateLoop (kernel : CmacKernel σ W) (dev : DrvPufsInst) (fuel : Nat) (ctx : CmacCtx σ)
    (msg : List Byte) (w : W) : CmacUpdateResult σ W :=
  match fuel with
  | 0 => ⟨0, ctx, w⟩
  | fuel + 1 =>
    if 0 < msg.length then
      let chunk := min msg.length dev.bufSize
      match kernel.update ctx (msg.take chunk) w with
      | (.error e, w) => ⟨e.1, ctx, w⟩
      | (.ok ctx, w) => cmacUpdateLoop kernel dev fuel ctx (msg.drop chunk) w
    else
      ⟨0, ctx, w⟩

def drvPufsCmacUpdate (kernel : CmacKernel σ W) (dev : DrvPufsInst) (ctx : CmacCtx σ)
    (msg : List Byte) (w : W) : CmacUpdateResult σ W :=
  let res := cmacUpdateLoop kernel dev msg.length ctx msg w
  if res.ret = 0 then res else { res with ctx }

theorem drvPufsCmacUpdate_fail {kernel : CmacKernel σ W} {dev : DrvPufsInst} {ctx : CmacCtx σ}
    {msg : List Byte} {w : W} (hret : (drvPufsCmacUpdate kernel dev ctx msg w).ret ≠ 0)
    : (drvPufsCmacUpdate kernel dev ctx msg w).ctx = ctx := by
  unfold drvPufsCmacUpdate at hret ⊢
  by_cases hzero : (cmacUpdateLoop kernel dev msg.length ctx msg w).ret = 0
  . rw [if_pos hzero] at hret
    contradiction
  . rw [if_neg hzero]

def drvPufsCmacFinal (kernel : CmacKernel σ W) (ctx : CmacCtx σ) (w : W)
    : Except Errno (List Byte) × W :=
  kernel.final ctx w

/-
The operations on an instance, which has a device only once an init has given it one. The length of
a message is cut to the 32 bits of the driver's.
-/
def drvPufsCmacInstUpdate (kernel : CmacKernel σ W) (dev : Option DrvPufsInst)
    (cmac : Option (CmacCtx σ)) (msg : List Byte) (w : W) : Int × Option (CmacCtx σ) × W :=
  match dev, cmac with
  | some dev, some cmac =>
    let res := drvPufsCmacUpdate kernel dev cmac (msg.take (uint32 msg.length)) w
    (res.ret, some res.ctx, res.world)
  | _, _ => (eperm.1, cmac, w)

def drvPufsCmacInstFinal (kernel : CmacKernel σ W) (dev : Option DrvPufsInst)
    (cmac : Option (CmacCtx σ)) (w : W) : Except Errno (List Byte) × W :=
  match dev, cmac with
  | some _, some cmac => drvPufsCmacFinal kernel cmac w
  | _, _ => (.error eperm, w)

end Pufs

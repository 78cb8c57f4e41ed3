import RtsmartLib.Pufs.Cipher

/-!
This module contains the hash and HMAC driver: the context that travels between driver and kernel,
and the chunk loop of an update, which gives the context back only if every chunk went through.
-/

namespace Pufs

open Lib

def hmacOpHash : UInt32 := 1

def hmacOpHmac : UInt32 := 2

/-
The context of the kernel's hash engine. `σ` is its running state, which the driver only clears.
-/
structure HashCtx (σ : Type) where
  hash : HashType
  op : UInt32
  keytype : KeyType
  keybits : UInt32
  keyslot : UInt32
  blocklen : UInt32
  minlen : UInt32
  start : Bool
  key : List Byte
  state : σ
deriving DecidableEq

structure HashKernel (σ W : Type) where
  zero : σ
  update : HashCtx σ → List Byte → W → Except Errno (HashCtx σ) × W
  final : HashCtx σ → W → Except Errno (List Byte) × W
  hmacUpdate : HashCtx σ → List Byte → W → Except Errno (HashCtx σ) × W
  hmacFinal : HashCtx σ → W → Except Errno (List Byte) × W

def hashBlocklen (hash : HashType) : UInt32 :=
  match hash with
  | .sha384 | .sha512 | .sha512224 | .sha512256 => 128
  | _ => 64

variable {σ W : Type}

def drvPufsHashInit (kernel : HashKernel σ W) (hash : HashType) : HashCtx σ :=
  {
    hash
    op := hmacOpHash
    keytype := .swkey
    keybits := 0
    keyslot := 0
    blocklen := hashBlocklen hash
    minlen := 1
    start := false
    key := List.replicate pufsHmacBlockMaxlen 0
    state := kernel.zero
  }

/-
What is passed as the key of an HMAC: bytes at an address, or for the keys in hardware a slot in
place of the address.
-/
inductive HmacKey where
  | bytes (address : UInt32) (key : List Byte)
  | slot (keyslot : UInt32)

def drvPufsHmacInit (kernel : HashKernel σ W) (hash : HashType) (keytype : KeyType) (key : HmacKey)
    (keybits : UInt32) : HashCtx σ :=
  let ctx : HashCtx σ :=
    {
      hash
      op := hmacOpHmac
      keytype
      keybits
      keyslot := 0
      blocklen := hashBlocklen hash
      minlen := hashBlocklen hash
      start := false
      key := List.replicate pufsHmacBlockMaxlen 0
      state := kernel.zero
    }
  match keytype, key with
  | .swkey, .bytes _ key =>
    { ctx with key := copyInto pufsHmacBlockMaxlen key (keyLen pufsHmacBlockMaxlen keybits) }
  | _, .slot keyslot => { ctx with keyslot }
  | _, .bytes address _ => { ctx with keyslot := address }

structure HashUpdateResult (σ W : Type) where
  ret : Int
  ctx : HashCtx σ
  world : W

/-
The loop works on a copy of the context, which on failure is what the failing chunk left of it.
-/
def hashUpdateLoop (update : HashCtx σ → List Byte → W → Except Errno (HashCtx σ) × W)
    (dev : DrvPufsInst) (fuel : Nat) (ctx : HashCtx σ) (msg : List Byte) (w : W)
    : HashUpdateResult σ W :=
  match fuel with
  | 0 => ⟨0, ctx, w⟩
  | fuel + 1 =>
    if 0 < msg.length then
      let chunk := min msg.length dev.bufSize
      match update ctx (msg.take chunk) w with
      | (.error e, w) => ⟨e.1, ctx, w⟩
      | (.ok ctx, w) => hashUpdateLoop update dev fuel ctx (msg.drop chunk) w
    else
      ⟨0, ctx, w⟩

def drvPufsHashUpdate (kernel : HashKernel σ W) (dev : DrvPufsInst) (ctx : HashCtx σ)
    (msg : List Byte) (w : W) : HashUpdateResult σ W :=
  let res := hashUpdateLoop kernel.update dev msg.length ctx msg w
  if res.ret = 0 then res else { res with ctx }

def drvPufsHmacUpdate (kernel : HashKernel σ W) (dev : DrvPufsInst) (ctx : HashCtx σ)
    (msg : List Byte) (w : W) : HashUpdateResult σ W :=
  let res := hashUpdateLoop kernel.hmacUpdate dev msg.length ctx msg w
  if res.ret = 0 then res else { res with ctx }

/-
An update that fails leaves the context as it was.
-/
theorem drvPufsHashUpdate_fail {kernel : HashKernel σ W} {dev : DrvPufsInst} {ctx : HashCtx σ}
    {msg : List Byte} {w : W} (hret : (drvPufsHashUpdate kernel dev ctx msg w).ret ≠ 0)
    : (drvPufsHashUpdate kernel dev ctx msg w).ctx = ctx := by
  unfold drvPufsHashUpdate at hret ⊢
  by_cases hzero : (hashUpdateLoop kernel.update dev msg.length ctx msg w).ret = 0
  . rw [if_pos hzero] at hret
    contradiction
  . rw [if_neg hzero]

theorem drvPufsHmacUpdate_fail {kernel : HashKernel σ W} {dev : DrvPufsInst} {ctx : HashCtx σ}
    {msg : List Byte} {w : W} (hret : (drvPufsHmacUpdate kernel dev ctx msg w).ret ≠ 0)
    : (drvPufsHmacUpdate kernel dev ctx msg w).ctx = ctx := by
  unfold drvPufsHmacUpdate at hret ⊢
  by_cases hzero : (hashUpdateLoop kernel.hmacUpdate dev msg.length ctx msg w).ret = 0
  . rw [if_pos hzero] at hret
    contradiction
  . rw [if_neg hzero]

def drvPufsHashFinal (kernel : HashKernel σ W) (ctx : HashCtx σ) (w : W)
    : Except Errno (List Byte) × W :=
  kernel.final ctx w

def drvPufsHmacFinal (kernel : HashKernel σ W) (ctx : HashCtx σ) (w : W)
    : Except Errno (List Byte) × W :=
  kernel.hmacFinal ctx w

/-
The operations on an instance, which has a device only once an init has given it one.
-/
def drvPufsHashInstUpdate (kernel : HashKernel σ W) (dev : Option DrvPufsInst)
    (hash : Option (HashCtx σ)) (msg : List Byte) (w : W) : Int × Option (HashCtx σ) × W :=
  match dev, hash with
  | some dev, some hash =>
    let res := drvPufsHashUpdate kernel dev hash msg w
    (res.ret, some res.ctx, res.world)
  | _, _ => (eperm.1, hash, w)

def drvPufsHashInstFinal (kernel : HashKernel σ W) (dev : Option DrvPufsInst)
    (hash : Option (HashCtx σ)) (w : W) : Except Errno (List Byte) × W :=
  match dev, hash with
  | some _, some hash => drvPufsHashFinal kernel hash w
  | _, _ => (.error eperm, w)

/-
A kernel whose hash engine computes `digest` of what it is fed. Any call may fail, and nothing is known
of a context after an update that failed.
-/
structure HashLaws (kernel : HashKernel σ W) (digest : HashType → List Byte → List Byte) where
  fed : HashType → HashCtx σ → List Byte → Prop
  init : ∀ hash, fed hash (drvPufsHashInit kernel hash) []
  update : ∀ {hash ctx bytes msg w ctx' w'}, fed hash ctx bytes →
    kernel.update ctx msg w = (.ok ctx', w') → fed hash ctx' (bytes ++ msg)
  final : ∀ {hash ctx bytes w out w'}, fed hash ctx bytes →
    kernel.final ctx w = (.ok out, w') → out = digest hash bytes

section

variable {kernel : HashKernel σ W} {digest : HashType → List Byte → List Byte}
    (laws : HashLaws kernel digest) (dev : DrvPufsInst) {hash : HashType} {ctx : HashCtx σ}
    {bytes : List Byte}

theorem hashUpdateLoop_fed {fuel : Nat} {msg : List Byte} (hfuel : msg.length ≤ fuel)
    (hfed : laws.fed hash ctx bytes) {w : W}
    (hret : (hashUpdateLoop kernel.update dev fuel ctx msg w).ret = 0)
    : laws.fed hash (hashUpdateLoop kernel.update dev fuel ctx msg w).ctx (bytes ++ msg) := by
  induction fuel generalizing msg ctx bytes w with
  | zero =>
    have hnil : msg = [] := List.eq_nil_of_length_eq_zero (Nat.le_zero.mp hfuel)
    rw [hnil, List.append_nil]
    exact hfed
  | succ fuel ih =>
    unfold hashUpdateLoop at hret ⊢
    by_cases hpos : 0 < msg.length
    . rw [if_pos hpos] at hret ⊢
      have hbuf := dev.bufSize_pos
      generalize hchunk : min msg.length dev.bufSize = chunk at hret ⊢
      cases hupdate : kernel.update ctx (msg.take chunk) w with
      | mk res w' =>
        cases res with
        | error e =>
          simp only [hupdate] at hret
          exact absurd hret e.2
        | ok ctx' =>
          simp only [hupdate] at hret ⊢
          have hfed' := laws.update hfed hupdate
          have hrest := ih (by rw [List.length_drop]; omega) hfed' hret
          rw [List.append_assoc, List.take_append_drop] at hrest
          exact hrest
    . have hnil : msg = [] := List.eq_nil_of_length_eq_zero (by omega)
      rw [if_neg hpos]
      rw [hnil, List.append_nil]
      exact hfed

theorem drvPufsHashUpdate_fed {msg : List Byte} (hfed : laws.fed hash ctx bytes) {w : W}
    (hret : (drvPufsHashUpdate kernel dev ctx msg w).ret = 0)
    : laws.fed hash (drvPufsHashUpdate kernel dev ctx msg w).ctx (bytes ++ msg) := by
  unfold drvPufsHashUpdate at hret ⊢
  by_cases hzero : (hashUpdateLoop kernel.update dev msg.length ctx msg w).ret = 0
  . rw [if_pos hzero] at hret ⊢
    exact hashUpdateLoop_fed laws dev Nat.le.refl hfed hret
  . rw [if_neg hzero] at hret
    exact absurd hret hzero

end

end Pufs

import RtsmartLib.Pufs.Device

/-!
This module contains the cipher driver: what its init functions hand to the kernel, the chunk loop
of an update and the final operation. The device lock is left out, it does not fail once the device
is open.
-/

namespace Pufs

open Lib

def keyLen (maxlen : Nat) (keybits : UInt32) : Nat :=
  min ((keybits + 7) >>> 3).toNat maxlen

def swKey (maxlen : Nat) (keytype : KeyType) (key : Option (List Byte)) (keybits : UInt32)
    : List Byte :=
  match keytype, key with
  | .swkey, some key => copyInto maxlen key (keyLen maxlen keybits)
  | _, _ => List.replicate maxlen 0

def ivLen (iv : Option (List Byte)) (ivlen : UInt32) : UInt32 :=
  match iv with
  | none => 0
  | some _ => min ivlen 16

def ivBytes (iv : Option (List Byte)) (ivlen : UInt32) : List Byte :=
  match iv with
  | none => List.replicate pufsBcBlockSize 0
  | some iv => copyInto pufsBcBlockSize iv (min ivlen 16).toNat

structure CipherParams where
  cipher : SkCipher
  encrypt : Bool
  keytype : KeyType
  key : Option (List Byte)
  keybits : UInt32
  iv : Option (List Byte)
  ivlen : UInt32

def sp38aInitOp (mode : SkcipherMode) (p : CipherParams) : Sp38aOp :=
  {
    cipher := p.cipher
    mode
    encrypt := p.encrypt
    keytype := p.keytype
    keybits := p.keybits
    key := swKey pufsSwKeyMaxlen p.keytype p.key p.keybits
    iv := ivBytes p.iv p.ivlen
    ivlen := ivLen p.iv p.ivlen
  }

def sp38dInitOp (p : CipherParams) : Sp38dOp :=
  {
    cipher := p.cipher
    encrypt := p.encrypt
    keytype := p.keytype
    keybits := p.keybits
    key := swKey pufsSwKeyMaxlen p.keytype p.key p.keybits
    iv := ivBytes p.iv p.ivlen
    ivlen := ivLen p.iv p.ivlen
  }

def sp38cInitOp (p : CipherParams) (aadlen inlen : UInt64) (taglen : UInt32) : Sp38cOp :=
  {
    cipher := p.cipher
    encrypt := p.encrypt
    keytype := p.keytype
    keybits := p.keybits
    key := swKey pufsSwKeyMaxlen p.keytype p.key p.keybits
    nonce := ivBytes p.iv p.ivlen
    noncelen := ivLen p.iv p.ivlen
    ccmAadlen := aadlen
    ccmInlen := inlen
    taglen
  }

def sp38eInitOp (p : CipherParams) (keytype2 : KeyType) (key2 : Option (List Byte)) : Sp38eOp :=
  {
    cipher := p.cipher
    encrypt := p.encrypt
    keytype1 := p.keytype
    keytype2
    keybits := p.keybits
    key1 := swKey pufsSwKeyMaxlen p.keytype p.key p.keybits
    key2 := swKey pufsSwKeyMaxlen keytype2 key2 p.keybits
    iv := ivBytes p.iv p.ivlen
    ivlen := ivLen p.iv p.ivlen
  }

variable {κ W : Type}

def drvPufsCipherInit (kernel : CipherKernel κ W) (mode : SkcipherMode) (p : CipherParams) (w : W)
    : Except Errno κ × W :=
  if mode.isSp38a then
    kernel.init (.sp38a (sp38aInitOp mode p)) w
  else if mode = .gcm then
    kernel.init (.sp38d (sp38dInitOp p)) w
  else
    (.error eperm, w)

def drvPufsCipherCcmInit (kernel : CipherKernel κ W) (p : CipherParams) (aadlen inlen : UInt64)
    (taglen : UInt32) (w : W) : Except Errno κ × W :=
  kernel.init (.sp38c (sp38cInitOp p aadlen inlen taglen)) w

def drvPufsCipherXtsInit (kernel : CipherKernel κ W) (p : CipherParams) (keytype2 : KeyType)
    (key2 : Option (List Byte)) (w : W) : Except Errno κ × W :=
  kernel.init (.sp38e (sp38eInitOp p keytype2 key2)) w

def drvPufsCipherInitUpdate (kernel : CompoundKernel κ W) (mode : SkcipherMode) (p : CipherParams)
    (hasOut : Bool) (input : List Byte) (w : W) : Except Errno (κ × List Byte) × W :=
  if mode = .gcm then
    kernel.initUpdate (sp38dInitOp p) hasOut input w
  else
    (.error eperm, w)

theorem drvPufsCipherInit_sp38a (kernel : CipherKernel κ W) {mode : SkcipherMode}
    (h : mode.isSp38a) (p : CipherParams) (w : W)
    : drvPufsCipherInit kernel mode p w = kernel.init (.sp38a (sp38aInitOp mode p)) w := by
  unfold drvPufsCipherInit
  rw [if_pos h]

theorem drvPufsCipherInit_gcm (kernel : CipherKernel κ W) (p : CipherParams) (w : W)
    : drvPufsCipherInit kernel .gcm p w = kernel.init (.sp38d (sp38dInitOp p)) w := by
  unfold drvPufsCipherInit
  rw [if_neg (by decide)]
  rw [if_pos rfl]

structure UpdateResult (κ W : Type) where
  ret : Int
  outlen : Nat
  ctx : κ
  mem : Memory
  world : W

/-
`drv_pufs_cipher_update` with its buffers in one memory, so that output may be written over input
that a later chunk still has to read. Any fuel from the input length on suffices.
-/
def cipherUpdateLoop (kernel : CipherKernel κ W) (dev : DrvPufsInst) (out input inlen : Nat)
    (fuel inOff totalOut : Nat) (ctx : κ) (mem : Memory) (w : W) : UpdateResult κ W :=
  match fuel with
  | 0 => ⟨0, totalOut, ctx, mem, w⟩
  | fuel + 1 =>
    if inOff < inlen then
      let chunk := min (inlen - inOff) dev.bufSize
      match kernel.update ctx true (readBytes mem (input + inOff) chunk) w with
      | (.error e, w) => ⟨e.1, totalOut, ctx, mem, w⟩
      | (.ok (ctx, bytes), w) =>
        let mem := writeBytes (out + totalOut) bytes mem
        cipherUpdateLoop kernel dev out input inlen fuel (inOff + chunk) (totalOut + bytes.length)
          ctx mem w
    else
      ⟨0, totalOut, ctx, mem, w⟩

def drvPufsCipherUpdate (kernel : CipherKernel κ W) (dev : DrvPufsInst) (out input inlen : Nat)
    (ctx : κ) (mem : Memory) (w : W) : UpdateResult κ W :=
  cipherUpdateLoop kernel dev out input inlen inlen 0 0 ctx mem w

structure FeedResult (κ W : Type) where
  ret : Int
  out : List Byte
  ctx : κ
  world : W

/-
`drv_pufs_cipher_update` with an output buffer of its own, or none.
-/
def cipherFeedLoop (kernel : CipherKernel κ W) (dev : DrvPufsInst) (hasOut : Bool) (fuel : Nat)
    (ctx : κ) (input : List Byte) (w : W) : FeedResult κ W :=
  match fuel with
  | 0 => ⟨0, [], ctx, w⟩
  | fuel + 1 =>
    if 0 < input.length then
      let chunk := min input.length dev.bufSize
      match kernel.update ctx hasOut (input.take chunk) w with
      | (.error e, w) => ⟨e.1, [], ctx, w⟩
      | (.ok (ctx, bytes), w) =>
        let res := cipherFeedLoop kernel dev hasOut fuel ctx (input.drop chunk) w
        { res with out := bytes ++ res.out }
    else
      ⟨0, [], ctx, w⟩

def drvPufsCipherFeed (kernel : CipherKernel κ W) (dev : DrvPufsInst) (hasOut : Bool) (ctx : κ)
    (input : List Byte) (w : W) : FeedResult κ W :=
  cipherFeedLoop kernel dev hasOut input.length ctx input w

/-
An update through an instance that has a device only once an init has given it one. The length of
the input is cut to the 32 bits of the driver's.
-/
def drvPufsInstFeed (kernel : CipherKernel κ W) (dev : Option DrvPufsInst) (cipher : Option κ)
    (hasOut : Bool) (input : List Byte) (w : W) : FeedResult (Option κ) W :=
  match dev, cipher with
  | some dev, some cipher =>
    let res := drvPufsCipherFeed kernel dev hasOut cipher (input.take (uint32 input.length)) w
    ⟨res.ret, res.out, some res.ctx, res.world⟩
  | _, _ => ⟨eperm.1, [], cipher, w⟩

/-
What an operation gets to see of the tag depends on its mode: the tag length of CCM is fixed by the
init, the other modes have no tag.
-/
def drvPufsCipherFinal (kernel : CipherKernel κ W) (mode : SkcipherMode) (ctx : κ)
    (args : FinalArgs) (w : W) : Except Errno FinalOut × W :=
  match mode with
  | .gcm => kernel.final ctx args w
  | .ccm => kernel.final ctx { args with taglen := 0 } w
  | _ => kernel.final ctx ⟨args.hasOut, none, 0⟩ w

structure UpdateFinalResult (W : Type) where
  ret : Int
  out : List Byte
  tag : List Byte
  world : W

def drvPufsCipherUpdateFinal (kernel : CompoundKernel κ W) (dev : DrvPufsInst) (ctx : κ)
    (input : List Byte) (args : FinalArgs) (w : W) : UpdateFinalResult W :=
  let tag := args.tag.getD []
  if input.length ≤ dev.bufSize then
    match kernel.updateFinal ctx input args w with
    | (.error e, w) => ⟨e.1, [], tag, w⟩
    | (.ok res, w) => ⟨0, res.out, res.tag, w⟩
  else
    let update := drvPufsCipherFeed kernel.toCipherKernel dev args.hasOut ctx input w
    if update.ret ≠ 0 then
      ⟨update.ret, update.out, tag, update.world⟩
    else
      match kernel.final update.ctx args update.world with
      | (.error e, w) => ⟨e.1, update.out, tag, w⟩
      | (.ok res, w) => ⟨0, update.out ++ res.out, res.tag, w⟩

theorem drvPufsCipherFinal_sp38a (kernel : CipherKernel κ W) {mode : SkcipherMode}
    (h : mode.isSp38a) (ctx : κ) (args : FinalArgs) (w : W)
    : drvPufsCipherFinal kernel mode ctx args w = kernel.final ctx ⟨args.hasOut, none, 0⟩ w := by
  cases mode <;> first | rfl | cases h

theorem readBytes_written {a b m n : Nat} {input out inlen : Nat} {bytes : List Byte}
    (h : Apart input inlen out n) (hlen : bytes.length ≤ n) (ha : a = input + b) (hb : b + m ≤ inlen)
    (mem : Memory)
    : readBytes (writeBytes out bytes mem) a m = readBytes mem a m := by
  apply readBytes_writeBytes_apart
  unfold Apart at h ⊢
  omega

/--
Over buffers that are apart both forms of an update agree.
-/
theorem cipherUpdateLoop_feed (kernel : CipherKernel κ W) (dev : DrvPufsInst) {out input inlen : Nat}
    (fuel inOff : Nat) (hoff : inOff ≤ inlen) (written : List Byte) (ctx : κ) (mem : Memory) (w : W)
    : let res :=
        cipherFeedLoop kernel dev true fuel ctx (readBytes mem (input + inOff) (inlen - inOff)) w
      Apart input inlen out (written ++ res.out).length →
        cipherUpdateLoop kernel dev out input inlen fuel inOff written.length ctx
            (writeBytes out written mem) w
          = ⟨res.ret, (written ++ res.out).length, res.ctx, writeBytes out (written ++ res.out) mem,
              res.world⟩ := by
  induction fuel generalizing inOff written ctx w with
  | zero =>
    intro res _
    simp [cipherUpdateLoop, res, cipherFeedLoop]
  | succ fuel ih =>
    intro res h
    dsimp only [res] at h ⊢
    unfold cipherUpdateLoop
    unfold cipherFeedLoop at h ⊢
    rw [length_readBytes] at h ⊢
    by_cases hin : inOff < inlen
    . have hpos : 0 < inlen - inOff := by
        omega
      have hbuf := dev.bufSize_pos
      -- what was written so far is apart from the input, so the next chunk is as it was
      have hread : ∀ bytes : List Byte, Apart input inlen out (written ++ bytes).length →
          readBytes (writeBytes out written mem) (input + inOff) (min (inlen - inOff) dev.bufSize)
            = readBytes mem (input + inOff) (min (inlen - inOff) dev.bufSize) := by
        intro bytes hbytes
        exact readBytes_written hbytes (by simp) rfl (by omega) mem
      rw [if_pos hpos] at h ⊢
      rw [if_pos hin]
      dsimp only at h ⊢
      rw [hread _ h]
      rw [take_readBytes _ _ (Nat.min_le_left _ _)] at h ⊢
      cases hanswer : kernel.update ctx true
          (readBytes mem (input + inOff) (min (inlen - inOff) dev.bufSize)) w with
      | mk answer w' =>
        rw [hanswer] at h
        cases answer with
        | error e => simp
        | ok next =>
          dsimp only at h ⊢
          have hdrop : (readBytes mem (input + inOff) (inlen - inOff)).drop
              (min (inlen - inOff) dev.bufSize)
                = readBytes mem (input + (inOff + min (inlen - inOff) dev.bufSize))
                    (inlen - (inOff + min (inlen - inOff) dev.bufSize)) := by
            rw [drop_readBytes]
            congr 1
            . omega
            . omega
          rw [hdrop] at h ⊢
          rw [← List.append_assoc] at h ⊢
          rw [← writeBytes_append]
          rw [← List.length_append]
          exact ih (inOff + min (inlen - inOff) dev.bufSize) (by omega) (written ++ next.2) next.1 w' h
    . rw [if_neg hin, if_neg (by omega)]
      simp

theorem drvPufsCipherUpdate_feed (kernel : CipherKernel κ W) (dev : DrvPufsInst)
    (out input inlen : Nat) (ctx : κ) (mem : Memory) (w : W)
    : let res := drvPufsCipherFeed kernel dev true ctx (readBytes mem input inlen) w
      Apart input inlen out res.out.length →
        drvPufsCipherUpdate kernel dev out input inlen ctx mem w
          = ⟨res.ret, res.out.length, res.ctx, writeBytes out res.out mem, res.world⟩ := by
  intro res h
  have hloop := @cipherUpdateLoop_feed κ W kernel dev out input inlen inlen 0 (Nat.zero_le inlen) []
    ctx mem w
  simp only [Nat.add_zero, Nat.sub_zero, List.nil_append, writeBytes_nil, List.length_nil] at hloop
  dsimp only [res] at h ⊢
  unfold drvPufsCipherFeed at h ⊢
  rw [length_readBytes] at h ⊢
  exact hloop h

end Pufs

import RtsmartLib.Pufs.Cipher
import RtsmartLib.Lib.Stream

/-!
This module contains a device that computes CBC and counter mode correctly whenever it answers, under
any pattern of faults, and what the chunk loop of an update does over it.
-/

namespace Pufs

open Lib

/-
Call number `w` fails if the pattern has an error for it.
-/
abbrev Faults := Nat → Option Errno

def noFaults : Faults :=
  fun _ => none

structure StreamContext where
  op : Sp38aOp
  consumed : List Byte

def Sp38aOp.zero : Sp38aOp :=
  ⟨.aes, .ecb, false, .swkey, 0, List.replicate pufsSwKeyMaxlen 0,
    List.replicate pufsBcBlockSize 0, 0⟩

def sp38aAccepts (op : Sp38aOp) : Bool :=
  op.cipher = .aes
    ∧ (op.mode = .cbc ∨ op.mode = .ctr)
    ∧ op.keytype = .swkey
    ∧ (op.keybits = 128 ∨ op.keybits = 192 ∨ op.keybits = 256)
    ∧ op.ivlen = 16

variable (encrypt decrypt : List Byte → Block → Block)

def sp38aTransducer (op : Sp38aOp) : Transducer :=
  let key := op.key.take (op.keybits / 8).toNat
  let iv := Block.ofList op.iv
  match op.mode with
  | .cbc =>
    if op.encrypt then
      Transducer.ofChain (cbcEncrypt (encrypt key)) iv
    else
      Transducer.ofChain (cbcDecrypt (decrypt key)) iv
  | .ctr => Transducer.ofKeystream (ctrByte (encrypt key) iv)
  | _ => Transducer.empty

def sp38aDevice (hold : HoldBack) (faults : Faults) : CipherKernel StreamContext Nat :=
  {
    zero := ⟨Sp38aOp.zero, []⟩
    init := fun op w =>
      match faults w, op with
      | some e, _ => (.error e, w + 1)
      | none, .sp38a op => if sp38aAccepts op then (.ok ⟨op, []⟩, w + 1) else (.error einval, w + 1)
      | none, _ => (.error einval, w + 1)
    update := fun ctx hasOut bytes w =>
      match faults w with
      | some e => (.error e, w + 1)
      | none =>
        if hasOut then
          (.ok (⟨ctx.op, ctx.consumed ++ bytes⟩,
              (sp38aTransducer encrypt decrypt ctx.op).step hold ctx.consumed bytes), w + 1)
        else
          (.error einval, w + 1)
    final := fun ctx _ w =>
      match faults w with
      | some e => (.error e, w + 1)
      | none => (.ok ⟨(sp38aTransducer encrypt decrypt ctx.op).rest hold ctx.consumed, []⟩, w + 1)
  }

section

variable {encrypt decrypt} {hold : HoldBack} {faults : Faults} {w : Nat}

theorem sp38aDevice_init_fault {op : CipherOp} {e : Errno} (h : faults w = some e)
    : (sp38aDevice encrypt decrypt hold faults).init op w = (.error e, w + 1) := by
  simp [sp38aDevice, h]

theorem sp38aDevice_init {op : Sp38aOp} (h : faults w = none) (hop : sp38aAccepts op)
    : (sp38aDevice encrypt decrypt hold faults).init (.sp38a op) w = (.ok ⟨op, []⟩, w + 1) := by
  simp [sp38aDevice, h, hop]

theorem sp38aDevice_update_fault {ctx : StreamContext} {hasOut : Bool} {bytes : List Byte}
    {e : Errno} (h : faults w = some e)
    : (sp38aDevice encrypt decrypt hold faults).update ctx hasOut bytes w = (.error e, w + 1) := by
  simp [sp38aDevice, h]

theorem sp38aDevice_update {ctx : StreamContext} {bytes : List Byte} (h : faults w = none)
    : (sp38aDevice encrypt decrypt hold faults).update ctx true bytes w
        = (.ok (⟨ctx.op, ctx.consumed ++ bytes⟩,
              (sp38aTransducer encrypt decrypt ctx.op).step hold ctx.consumed bytes), w + 1) := by
  simp [sp38aDevice, h]

theorem sp38aDevice_final_fault {ctx : StreamContext} {args : FinalArgs} {e : Errno}
    (h : faults w = some e)
    : (sp38aDevice encrypt decrypt hold faults).final ctx args w = (.error e, w + 1) := by
  simp [sp38aDevice, h]

theorem sp38aDevice_final {ctx : StreamContext} {args : FinalArgs} (h : faults w = none)
    : (sp38aDevice encrypt decrypt hold faults).final ctx args w
        = (.ok ⟨(sp38aTransducer encrypt decrypt ctx.op).rest hold ctx.consumed, []⟩, w + 1) := by
  simp [sp38aDevice, h]

end

/-
The code of the first fault of `k` calls, or zero.
-/
def faultRet (faults : Faults) (w k : Nat) : Int :=
  match k with
  | 0 => 0
  | k + 1 =>
    match faults w with
    | some e => e.1
    | none => faultRet faults (w + 1) k

theorem faultRet_eq_zero_iff (faults : Faults) (w k : Nat)
    : faultRet faults w k = 0 ↔ okRun faults w k = k := by
  induction k generalizing w with
  | zero => simp [faultRet, okRun]
  | succ k ih =>
    unfold faultRet okRun
    cases faults w with
    | none => simp [ih]
    | some e =>
      have := e.2
      simp [this]

/-
The call that follows `k` calls, of which those after the first fault are not made.
-/
def callAfter (faults : Faults) (w k : Nat) : Nat :=
  match k with
  | 0 => w
  | k + 1 =>
    match faults w with
    | some _ => w + 1
    | none => callAfter faults (w + 1) k

theorem callAfter_all {faults : Faults} {w k : Nat} (h : okRun faults w k = k)
    : callAfter faults w k = w + k := by
  induction k generalizing w with
  | zero => rfl
  | succ k ih =>
    unfold okRun at h
    unfold callAfter
    cases hw : faults w with
    | none =>
      simp only [hw, Option.isNone_none, ↓reduceIte, Nat.add_right_cancel_iff] at h
      dsimp only
      rw [ih h]
      omega
    | some e => simp [hw] at h

def chunkCount (dev : DrvPufsInst) (n : Nat) : Nat :=
  (n + dev.bufSize - 1) / dev.bufSize

@[simp]
theorem chunkCount_zero (dev : DrvPufsInst) : chunkCount dev 0 = 0 := by
  unfold chunkCount
  have := dev.bufSize_pos
  apply Nat.div_eq_of_lt
  omega

theorem chunkCount_pos (dev : DrvPufsInst) {n : Nat} (h : 0 < n)
    : chunkCount dev n = chunkCount dev (n - min n dev.bufSize) + 1 := by
  have hpos := dev.bufSize_pos
  by_cases hle : n ≤ dev.bufSize
  . rw [Nat.min_eq_left hle]
    rw [Nat.sub_self]
    rw [chunkCount_zero]
    unfold chunkCount
    apply Nat.div_eq_of_lt_le
    . omega
    . omega
  . rw [Nat.min_eq_right (by omega)]
    unfold chunkCount
    rw [← Nat.add_div_right _ hpos]
    congr 1
    omega

/-
How much of an input of `n` bytes an update consumes before the first of its chunks that fails.
-/
def consumedBy (faults : Faults) (w : Nat) (dev : DrvPufsInst) (n : Nat) : Nat :=
  min (okRun faults w (chunkCount dev n) * dev.bufSize) n

theorem consumedBy_le (faults : Faults) (w : Nat) (dev : DrvPufsInst) (n : Nat)
    : consumedBy faults w dev n ≤ n :=
  Nat.min_le_right _ _

theorem consumedBy_fault {faults : Faults} {w : Nat} (dev : DrvPufsInst) {n : Nat} {e : Errno}
    (h : faults w = some e)
    : consumedBy faults w dev n = 0 := by
  unfold consumedBy
  cases chunkCount dev n with
  | zero => simp [okRun]
  | succ k => simp [okRun, h]

theorem consumedBy_step {faults : Faults} {w : Nat} (dev : DrvPufsInst) {n : Nat} (hn : 0 < n)
    (h : faults w = none)
    : consumedBy faults w dev n
        = min n dev.bufSize + consumedBy faults (w + 1) dev (n - min n dev.bufSize) := by
  unfold consumedBy
  rw [chunkCount_pos dev hn]
  simp only [okRun, h, Option.isNone_none, ↓reduceIte]
  rw [Nat.add_mul]
  omega

theorem consumedBy_all {faults : Faults} {w : Nat} (dev : DrvPufsInst) {n : Nat}
    (h : okRun faults w (chunkCount dev n) = chunkCount dev n)
    : consumedBy faults w dev n = n := by
  unfold consumedBy
  rw [h]
  apply Nat.min_eq_right
  unfold chunkCount
  have hpos := dev.bufSize_pos
  have hdiv := Nat.div_add_mod (n + dev.bufSize - 1) dev.bufSize
  have hmod := Nat.mod_lt (n + dev.bufSize - 1) hpos
  rw [Nat.mul_comm] at hdiv
  omega

variable {encrypt decrypt : List Byte → Block → Block} (hold : HoldBack) (faults : Faults)

/--
What an update leaves behind when it has consumed the first `n` bytes of its input.
-/
def updatedTo (encrypt decrypt : List Byte → Block → Block) (hold : HoldBack) (op : Sp38aOp)
    (out input n : Nat) (ret : Int) (mem : Memory) (w : Nat) : UpdateResult StreamContext Nat :=
  let bytes := (sp38aTransducer encrypt decrypt op).given hold (readBytes mem input n)
  ⟨ret, bytes.length, ⟨op, readBytes mem input n⟩, writeBytes out bytes mem, w⟩

theorem readBytes_updatedTo (op : Sp38aOp) {out input off inlen chunk : Nat} (ret : Int)
    (mem : Memory) (w : Nat) (h : Overlay input out inlen) (hchunk : off + chunk ≤ inlen)
    : readBytes (updatedTo encrypt decrypt hold op out input off ret mem w).mem (input + off) chunk
        = readBytes mem (input + off) chunk := by
  unfold updatedTo
  dsimp only
  apply readBytes_writeBytes_apart
  -- The device never gives out more than it has consumed, so that in place the chunk is still input.
  have hle := (sp38aTransducer encrypt decrypt op).emitted_le_length hold (readBytes mem input off)
  rw [length_readBytes] at hle
  rw [Transducer.length_given]
  unfold Overlay Apart at h
  unfold Apart
  omega

theorem updatedTo_step (encrypt decrypt : List Byte → Block → Block) (op : Sp38aOp) (out input off chunk : Nat) (ret : Int) (mem : Memory)
    (w w' : Nat)
    : let start := updatedTo encrypt decrypt hold op out input off ret mem w
      let bytes :=
        (sp38aTransducer encrypt decrypt op).step hold start.ctx.consumed
          (readBytes mem (input + off) chunk)
      updatedTo encrypt decrypt hold op out input (off + chunk) ret mem w'
        = ⟨ret, start.outlen + bytes.length,
            ⟨op, start.ctx.consumed ++ readBytes mem (input + off) chunk⟩,
            writeBytes (out + start.outlen) bytes start.mem, w'⟩ := by
  unfold updatedTo
  dsimp only
  rw [← writeBytes_append]
  rw [readBytes_add]
  rw [← Transducer.given_append_step]
  rw [List.length_append]

theorem cipherUpdateLoop_eq (dev : DrvPufsInst) (op : Sp38aOp) {out input inlen : Nat}
    (h : Overlay input out inlen) (mem : Memory) (fuel off w : Nat) (hfuel : inlen - off ≤ fuel)
    (hoff : off ≤ inlen)
    : let start := updatedTo encrypt decrypt hold op out input off 0 mem w
      cipherUpdateLoop (sp38aDevice encrypt decrypt hold faults) dev out input inlen fuel off
          start.outlen start.ctx start.mem w
        = updatedTo encrypt decrypt hold op out input (off + consumedBy faults w dev (inlen - off))
            (faultRet faults w (chunkCount dev (inlen - off))) mem
            (callAfter faults w (chunkCount dev (inlen - off))) := by
  intro start
  induction fuel generalizing off w with
  | zero =>
    have hend : inlen - off = 0 := by
      omega
    rw [hend]
    simp [cipherUpdateLoop, faultRet, callAfter, consumedBy, start, updatedTo]
  | succ fuel ih =>
    unfold cipherUpdateLoop
    by_cases hin : off < inlen
    . rw [if_pos hin]
      have hpos : 0 < inlen - off := by
        omega
      have hbuf := dev.bufSize_pos
      have hread : readBytes start.mem (input + off) (min (inlen - off) dev.bufSize)
          = readBytes mem (input + off) (min (inlen - off) dev.bufSize) :=
        readBytes_updatedTo hold op 0 mem w h (by omega)
      rw [chunkCount_pos dev hpos]
      dsimp only
      rw [hread]
      cases hw : faults w with
      | some e =>
        rw [sp38aDevice_update_fault hw]
        rw [consumedBy_fault dev hw]
        simp only [faultRet, callAfter, hw]
        rfl
      | none =>
        rw [sp38aDevice_update hw]
        rw [consumedBy_step dev hpos hw]
        simp only [faultRet, callAfter, hw]
        have hstep := updatedTo_step hold encrypt decrypt op out input off
          (min (inlen - off) dev.bufSize) 0 mem w (w + 1)
        have hrest : inlen - off - min (inlen - off) dev.bufSize
            = inlen - (off + min (inlen - off) dev.bufSize) := by
          omega
        have hloop := ih (off + min (inlen - off) dev.bufSize) (w + 1) (by omega) (by omega)
        rw [hstep] at hloop
        rw [hrest]
        rw [← Nat.add_assoc]
        exact hloop
    . have hend : inlen - off = 0 := by
        omega
      rw [if_neg hin]
      rw [hend]
      simp [faultRet, callAfter, consumedBy, start, updatedTo]

theorem drvPufsCipherUpdate_eq (dev : DrvPufsInst) (op : Sp38aOp) {out input inlen : Nat}
    (h : Overlay input out inlen) (mem : Memory) (w : Nat)
    : drvPufsCipherUpdate (sp38aDevice encrypt decrypt hold faults) dev out input inlen ⟨op, []⟩ mem
          w
        = updatedTo encrypt decrypt hold op out input (consumedBy faults w dev inlen)
            (faultRet faults w (chunkCount dev inlen)) mem
            (callAfter faults w (chunkCount dev inlen)) := by
  have hloop := @cipherUpdateLoop_eq encrypt decrypt hold faults dev op out input inlen h mem inlen
    0 w (by omega) (by omega)
  simp only [updatedTo, readBytes_zero, Transducer.given_nil, writeBytes_nil, List.length_nil,
    Nat.zero_add, Nat.sub_zero] at hloop
  exact hloop

end Pufs

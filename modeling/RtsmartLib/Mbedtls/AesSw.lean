import RtsmartLib.Lib.BlockMode

/-!
This module contains the software CBC and counter modes of Mbed TLS, over an arbitrary block cipher.
-/

namespace Mbedtls

open Lib

def errAesBadInputData : Int := -0x0021

def errAesInvalidInputLength : Int := -0x0022

inductive AesMode where
  | decrypt
  | encrypt
deriving DecidableEq

/--
The block cipher of Mbed TLS with its two key schedules. Nothing is assumed about it, not even that
decryption inverts encryption.
-/
structure AesSw where
  Context : Type
  setkeyEnc : List Byte → Context
  setkeyDec : List Byte → Context
  encrypt : Context → Block → Block
  decrypt : Context → Block → Block

def readBlock (mem : Memory) (a : Nat) : Block :=
  Block.ofList (readBytes mem a 16)

def writeBlock (a : Nat) (block : Block) (mem : Memory) : Memory :=
  writeBytes a block.1 mem

variable (sw : AesSw) (ctx : sw.Context)

def swCryptCbcLoop (mode : AesMode) (n : Nat) (iv : Block) (input output : Nat) (mem : Memory)
    : Memory × Block :=
  match n with
  | 0 => (mem, iv)
  | n + 1 =>
    match mode with
    | .decrypt =>
      let temp := readBlock mem input
      let mem := writeBlock output (sw.decrypt ctx (readBlock mem input)) mem
      let mem := writeBlock output ((readBlock mem output).xor iv) mem
      swCryptCbcLoop mode n temp (input + 16) (output + 16) mem
    | .encrypt =>
      let mem := writeBlock output ((readBlock mem input).xor iv) mem
      let mem := writeBlock output (sw.encrypt ctx (readBlock mem output)) mem
      swCryptCbcLoop mode n (readBlock mem output) (input + 16) (output + 16) mem

structure CbcResult where
  ret : Int
  mem : Memory
  iv : Block

def swCryptCbc (mode : AesMode) (length : Nat) (iv : Block) (input output : Nat) (mem : Memory)
    : CbcResult :=
  if length % 16 ≠ 0 then
    ⟨errAesInvalidInputLength, mem, iv⟩
  else
    let (mem, iv) := swCryptCbcLoop sw ctx mode (length / 16) iv input output mem
    ⟨0, mem, iv⟩

structure CtrState where
  ncOff : Nat
  nonceCounter : Block
  streamBlock : Block

def incrementLoop (counter : List Byte) (index : Nat) : List Byte :=
  match index with
  | 0 => counter
  | index + 1 =>
    let counter := counter.set index (counter.getD index 0 + 1)
    if counter.getD index 0 ≠ 0 then counter else incrementLoop counter index

@[simp]
theorem length_incrementLoop (counter : List Byte) (index : Nat)
    : (incrementLoop counter index).length = counter.length := by
  induction index generalizing counter with
  | zero => rfl
  | succ index ih =>
    unfold incrementLoop
    dsimp only
    split
    . simp
    . rw [ih]
      simp

def incrementCounter (counter : Block) : Block :=
  ⟨incrementLoop counter.1 16, by rw [length_incrementLoop]; exact counter.2⟩

def ctrStep (s : CtrState) : Byte × CtrState :=
  let s :=
    if s.ncOff = 0 then
      {
        s with
        nonceCounter := incrementCounter s.nonceCounter
        streamBlock := sw.encrypt ctx s.nonceCounter
      }
    else
      s
  (s.streamBlock.1.getD s.ncOff 0, { s with ncOff := (s.ncOff + 1) % 16 })

def swCryptCtrLoop (n : Nat) (s : CtrState) (input output : Nat) (mem : Memory)
    : Memory × CtrState :=
  match n with
  | 0 => (mem, s)
  | n + 1 =>
    let (key, s) := ctrStep sw ctx s
    let mem := writeBytes output [mem input ^^^ key] mem
    swCryptCtrLoop n s (input + 1) (output + 1) mem

structure CtrResult where
  ret : Int
  mem : Memory
  state : CtrState

def swCryptCtr (length : Nat) (s : CtrState) (input output : Nat) (mem : Memory) : CtrResult :=
  if s.ncOff > 0x0f then
    ⟨errAesBadInputData, mem, s⟩
  else
    let (mem, s) := swCryptCtrLoop sw ctx length s input output mem
    ⟨0, mem, s⟩

def cbcStep (mode : AesMode) : ChainStep :=
  match mode with
  | .decrypt => cbcDecrypt (sw.decrypt ctx)
  | .encrypt => cbcEncrypt (sw.encrypt ctx)

theorem readBlock_writeBlock (a : Nat) (block : Block) (mem : Memory)
    : readBlock (writeBlock a block mem) a = block := by
  unfold readBlock writeBlock
  have h := readBytes_writeBytes_self a block.1 mem
  rw [block.2] at h
  rw [h]
  exact Block.ofList_block block

theorem writeBlock_writeBlock (a : Nat) (block block' : Block) (mem : Memory)
    : writeBlock a block' (writeBlock a block mem) = writeBlock a block' mem := by
  unfold writeBlock
  exact writeBytes_writeBytes_of_le a (Nat.le_of_eq (block.2.trans block'.2.symm)) mem

theorem swCryptCbcLoop_succ (mode : AesMode) (n : Nat) (iv : Block) (input output : Nat)
    (mem : Memory)
    : swCryptCbcLoop sw ctx mode (n + 1) iv input output mem
        = swCryptCbcLoop sw ctx mode n (cbcStep sw ctx mode iv (readBlock mem input)).2 (input + 16)
            (output + 16)
            (writeBlock output (cbcStep sw ctx mode iv (readBlock mem input)).1 mem) := by
  conv =>
    lhs
    unfold swCryptCbcLoop
  cases mode with
  | decrypt =>
    dsimp only
    rw [readBlock_writeBlock, writeBlock_writeBlock]
    rfl
  | encrypt =>
    dsimp only
    rw [readBlock_writeBlock, writeBlock_writeBlock, readBlock_writeBlock]
    rfl

theorem swCryptCbcLoop_eq (mode : AesMode) {n input output : Nat}
    (h : Overlay input output (16 * n)) (iv : Block) (mem : Memory)
    : swCryptCbcLoop sw ctx mode n iv input output mem
        = (writeBytes output
              (chain (cbcStep sw ctx mode) n iv (readBytes mem input (16 * n))).1 mem,
            (chain (cbcStep sw ctx mode) n iv (readBytes mem input (16 * n))).2) := by
  induction n generalizing iv input output mem with
  | zero => simp [swCryptCbcLoop, chain]
  | succ n ih =>
    rw [Nat.mul_succ, Nat.add_comm] at h
    rw [swCryptCbcLoop_succ]
    rw [ih h.advance]
    generalize hblock : cbcStep sw ctx mode iv (readBlock mem input) = res
    have hread : readBytes (writeBlock output res.1 mem) (input + 16) (16 * n)
        = readBytes mem (input + 16) (16 * n) := by
      apply readBytes_writeBytes_apart
      rw [res.1.2]
      exact h.apart
    rw [hread]
    rw [Nat.mul_succ, Nat.add_comm (16 * n) 16]
    rw [chain_succ]
    rw [take_readBytes mem input (by omega)]
    rw [drop_readBytes]
    rw [Nat.add_sub_cancel_left]
    rw [writeBytes_append]
    unfold readBlock at hblock
    rw [hblock]
    rw [res.1.2]
    rfl

end Mbedtls

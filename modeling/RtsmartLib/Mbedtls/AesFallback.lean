import RtsmartLib.Mbedtls.AesCbc
import RtsmartLib.Mbedtls.AesCtr

/-!
This module contains the exact condition under which the AES port computes what the software does:
an attempt of the hardware that fails after giving out part of its result destroys the input of the
software fallback if the call is in place.
-/

namespace Mbedtls

open Lib Pufs

structure AesSw.BlockCipher (sw : AesSw) : Prop where
  encrypt_bijective : ∀ ctx, Function.Bijective (sw.encrypt ctx)
  decrypt_injective : ∀ ctx, Function.Injective (sw.decrypt ctx)

variable {sw : AesSw}

def CbcAsSoftware {κ W : Type} (hw : AesHw κ W) (ctx : MbedtlsAesContext sw) (mode : AesMode)
    (length input output : Nat) (w : W) : Prop :=
  ∀ (iv : Block) (mem : Memory),
    let res := mbedtlsAesCryptCbc hw ctx mode length iv input output mem w
    let soft := swCryptCbc sw ctx.sw mode length iv input output mem
    res.ret = 0 → res.mem = soft.mem ∧ res.iv = soft.iv

def CtrAsSoftware {κ W : Type} (hw : AesHw κ W) (ctx : MbedtlsAesContext sw)
    (length ncOff input output : Nat) (w : W) : Prop :=
  ∀ (nonceCounter streamBlock : Block) (mem : Memory),
    let s : CtrState := ⟨ncOff, nonceCounter, streamBlock⟩
    let res := (mbedtlsAesCryptCtr hw ctx length s input output mem w).1
    let soft := swCryptCtr sw ctx.sw length s input output mem
    res.ret = 0 → res.mem = soft.mem ∧ res.state.Same soft.state

theorem writeBytes_head {bytes : List Byte} (h : 0 < bytes.length) (base : Nat) (mem : Memory)
    : writeBytes base bytes mem base = bytes.getD 0 0 :=
  writeBytes_of_mem base h mem

theorem getD_take_zero {n : Nat} (h : 0 < n) (bytes : List Byte)
    : (bytes.take n).getD 0 0 = bytes.getD 0 0 := by
  simp [h]

theorem xorBytes_head (key : Nat → Byte) (mem : Memory) (a : Nat) {n : Nat} (h : 0 < n)
    : (xorBytes key 0 (readBytes mem a n)).getD 0 0 = mem a ^^^ key 0 := by
  obtain ⟨n, rfl⟩ := Nat.exists_eq_succ_of_ne_zero (Nat.pos_iff_ne_zero.mp h)
  rw [readBytes_succ]
  rfl

theorem readBlock_chain (chainStep : ChainStep) {n : Nat} (h : 0 < n) (iv : Block)
    (input : List Byte) (output : Nat) (mem : Memory)
    : readBlock (writeBytes output (chain chainStep n iv input).1 mem) output
        = (chainStep iv (Block.ofList (input.take 16))).1 := by
  have hread := readBytes_writeBytes_self output (chain chainStep n iv input).1 mem
  rw [length_chain] at hread
  unfold readBlock
  rw [← take_readBytes _ _ (show 16 ≤ 16 * n by omega)]
  rw [hread]
  rw [take_chain chainStep h]
  exact Block.ofList_block _

theorem ofList_readBytes_head (mem : Memory) (a : Nat)
    : (Block.ofList (readBytes mem a 16)).1.getD 0 0 = mem a := by
  rw [Block.ofList_val (length_readBytes mem a 16)]
  exact getD_readBytes mem a (by omega)

section

variable {mode : AesMode} {ctx : MbedtlsAesContext sw} (hold : HoldBack) {faults : Faults} {w : Nat}
    {dev : DrvPufsInst} {length buf : Nat}

theorem mbedtlsAesCryptCtr_damaged (hkeyed : Keyed sw.setkeyEnc ctx)
    (hlong : mbedtlsPufsAesHwThreshold ≤ length)
    (hbad : ¬leavesInput hold.emitted faults w dev length) {s : CtrState} (hs : s.ncOff = 0)
    (hkey : ctrKey ctx.sw s 0 ≠ 0) (mem : Memory)
    : let res :=
        (mbedtlsAesCryptCtr ⟨some dev, aesDevice sw hold faults⟩ ctx length s buf buf mem w).1
      res.ret = 0 ∧ res.mem ≠ (swCryptCtr sw ctx.sw length s buf buf mem).mem := by
  intro res
  unfold leavesInput at hbad
  obtain ⟨hfail, hgiven⟩ := not_or.mp hbad
  have h : Overlay buf buf length := .inl rfl
  have hpos : 0 < length := by
    unfold mbedtlsPufsAesHwThreshold at hlong
    omega
  have hhw := aesHwCryptCtr_failure hkeyed hold h mem hfail (s := s)
  generalize hconsumed : attempted faults w dev (uint32 length) = consumed at hgiven hhw
  rw [← ctrKey_eq_ctrByte ctx.sw hs] at hhw
  obtain ⟨hret, hmem⟩ := hhw
  have hle := hold.le consumed
  dsimp only [res]
  unfold mbedtlsAesCryptCtr
  rw [if_pos ⟨hlong, hkeyed.hasKey, hs⟩]
  dsimp only
  rw [if_neg hret]
  rw [hmem]
  rw [swCryptCtr_eq ctx.sw (by omega) h, swCryptCtr_eq ctx.sw (by omega) h]
  refine ⟨rfl, ?_⟩
  -- The first byte is encrypted twice, which takes the keystream away again.
  intro heq
  have hbyte := congrFun heq buf
  dsimp only at hbyte
  rw [writeBytes_head (by simpa using hpos), writeBytes_head (by simpa using hpos)] at hbyte
  rw [xorBytes_head _ _ _ hpos, xorBytes_head _ _ _ hpos] at hbyte
  rw [writeBytes_head (by simp; omega)] at hbyte
  rw [getD_take_zero (by omega)] at hbyte
  rw [xorBytes_head _ _ _ (by omega)] at hbyte
  have hcancel := (BitVec.xor_left_inj _).mp hbyte
  apply hkey
  apply (BitVec.xor_right_inj (mem buf)).mp
  rw [hcancel]
  simp

theorem mbedtlsAesCryptCbc_damaged (hkeyed : Keyed (schedule sw mode) ctx) (hlen : length % 16 = 0)
    (hlong : mbedtlsPufsAesHwThreshold ≤ length)
    (hbad : ¬leavesInput (cbcEmitted hold) faults w dev length) {iv : Block} {mem : Memory}
    (hinj : ∀ b b' : Block,
      (cbcStep sw ctx.sw mode iv b).1 = (cbcStep sw ctx.sw mode iv b').1 → b = b')
    (hmoves : (cbcStep sw ctx.sw mode iv (readBlock mem buf)).1.1.getD 0 0 ≠ mem buf)
    : let res :=
        mbedtlsAesCryptCbc ⟨some dev, aesDevice sw hold faults⟩ ctx mode length iv buf buf mem w
      res.ret = 0 ∧ res.mem ≠ (swCryptCbc sw ctx.sw mode length iv buf buf mem).mem := by
  intro res
  unfold leavesInput at hbad
  obtain ⟨hfail, hgiven⟩ := not_or.mp hbad
  have h : Overlay buf buf length := .inl rfl
  have hblocks : 0 < length / 16 := by
    unfold mbedtlsPufsAesHwThreshold at hlong
    omega
  have hhw := aesHwCryptCbc_failure hkeyed iv hold hlen h mem hfail
  generalize hconsumed : attempted faults w dev (uint32 length) = consumed at hgiven hhw
  obtain ⟨hret, hmem⟩ := hhw
  have hdone : 0 < consumed / 16 := by
    unfold cbcEmitted at hgiven
    omega
  dsimp only [res]
  unfold mbedtlsAesCryptCbc
  rw [if_pos ⟨hlong, hkeyed.hasKey⟩]
  dsimp only
  rw [if_neg hret]
  rw [hmem]
  rw [swCryptCbc_eq ctx.sw mode hlen h, swCryptCbc_eq ctx.sw mode hlen h]
  refine ⟨rfl, ?_⟩
  -- The fallback starts from a first block of which at least one byte is the device's result.
  intro heq
  dsimp only at heq
  have hblock := congrArg (fun m => readBlock m buf) heq
  rw [readBlock_chain _ hblocks, readBlock_chain _ hblocks] at hblock
  rw [take_readBytes _ _ (by omega), take_readBytes _ _ (by omega)] at hblock
  have hbyte := congrArg (fun b : Block => b.1.getD 0 0) (hinj _ _ hblock)
  rw [ofList_readBytes_head, ofList_readBytes_head] at hbyte
  rw [writeBytes_head (by simp; omega)] at hbyte
  rw [getD_take_zero (by omega)] at hbyte
  rw [← getD_take_zero (show 0 < 16 by omega)] at hbyte
  rw [take_chain _ hdone] at hbyte
  rw [take_readBytes _ _ (by omega)] at hbyte
  exact hmoves hbyte

end

theorem cbcStep_injective (hcipher : sw.BlockCipher) (ctx : sw.Context) (mode : AesMode)
    {iv b b' : Block} (h : (cbcStep sw ctx mode iv b).1 = (cbcStep sw ctx mode iv b').1)
    : b = b' := by
  cases mode with
  | encrypt => exact Block.xor_right_cancel ((hcipher.encrypt_bijective ctx).1 h)
  | decrypt => exact hcipher.decrypt_injective ctx (Block.xor_right_cancel h)

def markedBlock : Block :=
  ⟨1 :: List.replicate 15 0, rfl⟩

def zeroBlock : Block :=
  ⟨List.replicate 16 0#8, rfl⟩

theorem zeroBlock_xor (b : Block) : zeroBlock.xor b = b := by
  apply Block.ext_getD
  intro i hi
  rw [Block.getD_xor]
  have hzero : zeroBlock.1.getD i 0 = 0 := by
    simp only [zeroBlock, List.getD_eq_getElem?_getD, List.getElem?_replicate, hi, ↓reduceIte,
      Option.getD_some]
    rfl
  rw [hzero]
  exact BitVec.zero_xor

/-
For either direction there is a first chaining value that takes the zero block to a block with a
nonzero first byte.
-/
theorem exists_cbcStep_marked (hcipher : sw.BlockCipher) (ctx : sw.Context) (mode : AesMode)
    : ∃ iv : Block, (cbcStep sw ctx mode iv zeroBlock).1 = markedBlock := by
  cases mode with
  | encrypt =>
    obtain ⟨b, hb⟩ := (hcipher.encrypt_bijective ctx).2 markedBlock
    refine ⟨b, ?_⟩
    unfold cbcStep cbcEncrypt
    dsimp only
    rw [zeroBlock_xor]
    exact hb
  | decrypt => exact ⟨(sw.decrypt ctx zeroBlock).xor markedBlock, Block.xor_xor_cancel_left _ _⟩

/--
What has to hold of a call that the hardware is tried for: either it is not in place, or there is no
device, or the attempt leaves the input as it was.
-/
def FallbackSound (emitted : Nat → Nat) (faults : Faults) (w : Nat) (dev : Option DrvPufsInst)
    (length input output : Nat) : Prop :=
  output = input → mbedtlsPufsAesHwThreshold ≤ length → ∀ d, dev = some d →
    leavesInput emitted faults w d length

theorem cbcAsSoftware_iff (hcipher : sw.BlockCipher) {mode : AesMode} {ctx : MbedtlsAesContext sw}
    (hkeyed : Keyed (schedule sw mode) ctx) (hold : HoldBack) (faults : Faults) (w : Nat)
    (dev : Option DrvPufsInst) {length input output : Nat} (h : Overlay input output length)
    : CbcAsSoftware ⟨dev, aesDevice sw hold faults⟩ ctx mode length input output w
        ↔ (length % 16 = 0 →
            FallbackSound (cbcEmitted hold) faults w dev length input output) := by
  constructor
  . intro hsoft hlen heq hlong d hd
    subst heq hd
    apply Classical.byContradiction
    intro hbad
    obtain ⟨iv, hiv⟩ := exists_cbcStep_marked hcipher ctx.sw mode
    have hzero : readBlock (fun _ => 0) output = zeroBlock := by
      simp [readBlock, readBytes, Block.ofList, zeroBlock]
    obtain ⟨hret, hne⟩ := mbedtlsAesCryptCbc_damaged hold hkeyed hlen hlong hbad
      (fun _ _ => cbcStep_injective hcipher ctx.sw mode)
      (by rw [hzero, hiv]; decide)
    exact hne (hsoft iv (fun _ => 0) hret).1
  . intro hsafe iv mem res soft hret
    by_cases hlen : length % 16 = 0
    . dsimp only [res, soft]
      rw [mbedtlsAesCryptCbc_eq hkeyed iv hold hlen h mem dev (hsafe hlen)]
      exact ⟨rfl, rfl⟩
    . dsimp only [res] at hret
      rw [mbedtlsAesCryptCbc_badLength hkeyed iv hold hlen h mem dev] at hret
      exact absurd hret (by decide)

theorem ctrAsSoftware_iff (hcipher : sw.BlockCipher) {ctx : MbedtlsAesContext sw}
    (hkeyed : Keyed sw.setkeyEnc ctx) (hold : HoldBack) (faults : Faults) (w : Nat)
    (dev : Option DrvPufsInst) {length ncOff input output : Nat} (h : Overlay input output length)
    : CtrAsSoftware ⟨dev, aesDevice sw hold faults⟩ ctx length ncOff input output w
        ↔ (ncOff = 0 → FallbackSound hold.emitted faults w dev length input output) := by
  constructor
  . intro hsoft hoff heq hlong d hd
    subst hoff heq hd
    apply Classical.byContradiction
    intro hbad
    obtain ⟨counter, hcounter⟩ := (hcipher.encrypt_bijective ctx.sw).2 markedBlock
    have hkey : ctrKey ctx.sw ⟨0, counter, zeroBlock⟩ 0 ≠ 0 := by
      rw [ctrKey_eq_ctrByte ctx.sw rfl]
      unfold ctrByte
      rw [Nat.zero_div, Block.add_zero, hcounter]
      decide
    obtain ⟨hret, hne⟩ := mbedtlsAesCryptCtr_damaged hold hkeyed hlong hbad rfl hkey (fun _ => 0)
    exact hne (hsoft counter zeroBlock (fun _ => 0) hret).1
  . intro hsafe counter streamBlock mem s res soft hret
    by_cases hs : ncOff < 16
    . have hcall := mbedtlsAesCryptCtr_eq hkeyed hold (s := s) hs h mem dev
        (fun heq hoff hlong => hsafe hoff heq hlong)
      dsimp only [soft]
      rw [swCryptCtr_eq ctx.sw hs h]
      exact hcall.2
    . dsimp only [res] at hret
      rw [mbedtlsAesCryptCtr_badOffset _ ctx (Nat.not_lt.mp hs)] at hret
      exact absurd hret (show errAesBadInputData ≠ 0 by decide)

def setkeyFor (sw : AesSw) (mode : AesMode) (key : List Byte) (keybits : UInt32)
    : Except Int (MbedtlsAesContext sw) :=
  match mode with
  | .decrypt => mbedtlsAesSetkeyDec sw key keybits
  | .encrypt => mbedtlsAesSetkeyEnc sw key keybits

theorem keyed_of_setkeyFor {mode : AesMode} {key : List Byte} {keybits : UInt32}
    {ctx : MbedtlsAesContext sw} (hlen : (keybits / 8).toNat ≤ key.length)
    (h : setkeyFor sw mode key keybits = .ok ctx)
    : Keyed (schedule sw mode) ctx := by
  cases mode with
  | decrypt => exact keyed_of_setkey hlen h
  | encrypt => exact keyed_of_setkey hlen h

/--
With any pattern of faults, the port returns what the software computes for all messages exactly if
no attempt of the hardware fails in place after giving out part of its result.
-/
theorem cryptAsSoftware_iff (hcipher : sw.BlockCipher) {key : List Byte} {keybits : UInt32}
    (hkey : (keybits / 8).toNat ≤ key.length) (mode : AesMode) {ctx ctx' : MbedtlsAesContext sw}
    (hctx : setkeyFor sw mode key keybits = .ok ctx)
    (hctx' : mbedtlsAesSetkeyEnc sw key keybits = .ok ctx') (hold : HoldBack) (faults : Faults)
    (w : Nat) (dev : Option DrvPufsInst) (ncOff : Nat) {length input output : Nat}
    (h : Overlay input output length)
    : (CbcAsSoftware ⟨dev, aesDevice sw hold faults⟩ ctx mode length input output w
          ↔ (length % 16 = 0 →
              FallbackSound (cbcEmitted hold) faults w dev length input output))
        ∧ (CtrAsSoftware ⟨dev, aesDevice sw hold faults⟩ ctx' length ncOff input output w
          ↔ (ncOff = 0 → FallbackSound hold.emitted faults w dev length input output)) :=
  ⟨cbcAsSoftware_iff hcipher (keyed_of_setkeyFor hkey hctx) hold faults w dev h,
    ctrAsSoftware_iff hcipher (keyed_of_setkey hkey hctx') hold faults w dev h⟩

theorem xorCipher_blockCipher : xorCipher.BlockCipher := by
  refine ⟨?_, ?_⟩
  . intro ctx
    refine ⟨?_, ?_⟩
    . intro a b
      exact Block.xor_right_cancel
    . intro b
      exact ⟨Block.xor b ctx, Block.xor_xor_cancel_right b ctx⟩
  . intro ctx a b
    exact Block.xor_right_cancel

/-
The init and the only chunk go through, the final does not.
-/
def failingFinal : Faults :=
  fun w => if w = 2 then some einval else none

theorem failingFinal_cryptAsSoftware_iff
    : let ctx := xorCipherContext (List.replicate 16 0x5a)
      let hw : AesHw StreamContext Nat :=
        ⟨some pufsBufSize, aesDevice xorCipher HoldBack.none failingFinal⟩
      (CbcAsSoftware hw ctx .encrypt 4096 0 8192 0
          ↔ (4096 % 16 = 0 →
              FallbackSound (cbcEmitted HoldBack.none) failingFinal 0 (some pufsBufSize) 4096 0 8192))
        ∧ (CtrAsSoftware hw ctx 4096 0 0 8192 0
          ↔ (0 = 0 →
              FallbackSound HoldBack.none.emitted failingFinal 0 (some pufsBufSize) 4096 0 8192)) :=
  cryptAsSoftware_iff xorCipher_blockCipher
    (show ((128 : UInt32) / 8).toNat ≤ (List.replicate 16 (0x5a : Byte)).length by decide)
    .encrypt rfl rfl HoldBack.none failingFinal 0 (some pufsBufSize) 0
    (.inr (.inl (by decide)))

/--
In place, the counter mode fallback encrypts what the hardware has already encrypted.
-/
theorem failingFinal_inPlace_ne_software
    : let ctx := xorCipherContext (List.replicate 16 0x5a)
      let s : CtrState := ⟨0, markedBlock, zeroBlock⟩
      let res :=
        (mbedtlsAesCryptCtr ⟨some pufsBufSize, aesDevice xorCipher HoldBack.none failingFinal⟩ ctx
          4096 s 0 0 (fun _ => 0) 0).1
      res.ret = 0 ∧ res.mem ≠ (swCryptCtr xorCipher ctx.sw 4096 s 0 0 (fun _ => 0)).mem := by
  have hkeyed : Keyed xorCipher.setkeyEnc (xorCipherContext (List.replicate 16 0x5a)) :=
    ⟨rfl, .inl rfl, rfl, rfl⟩
  apply mbedtlsAesCryptCtr_damaged HoldBack.none hkeyed
  . decide
  . unfold leavesInput
    decide
  . rfl
  . decide

end Mbedtls

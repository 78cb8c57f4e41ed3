import RtsmartLib.Lib.Machine
import RtsmartLib.Mbedtls.CmacAlt

/-!
This module contains what an update of the software CMAC does with its input: whole blocks are chained
into the state, and the last block, complete or not, waits in the context.
-/

namespace Mbedtls

open Lib Pufs

variable {C σ : Type}

def cmacChain (lib : CipherLib C) (cipher : C) (state : List Byte) (blocks : List (List Byte))
    : Except Errno (List Byte) :=
  blocks.foldlM (fun state block => lib.update cipher (cmacSwXor block state)) state

theorem cmacChain_cons {lib : CipherLib C} {cipher : C} {state state' block : List Byte}
    (h : lib.update cipher (cmacSwXor block state) = .ok state') (blocks : List (List Byte))
    : cmacChain lib cipher state (block :: blocks) = cmacChain lib cipher state' blocks := by
  unfold cmacChain
  rw [List.foldlM_cons, h]
  rfl

/--
Every byte that waited and every byte of the input is chained into the state, or waits.
-/
structure CmacSwTakes (lib : CipherLib C) (cipher : C) (blockSize : Nat)
    (ctx : MbedtlsCmacContext σ) (input : List Byte) (ctx' : MbedtlsCmacContext σ)
    (blocks : List (List Byte)) : Prop where
  block_length : ∀ block ∈ blocks, block.length = blockSize
  bytes : ctx.unprocessedBlock ++ input = blocks.flatten ++ ctx'.unprocessedBlock
  chain : cmacChain lib cipher ctx.state blocks = .ok ctx'.state
  waiting_le : ctx'.unprocessedBlock.length ≤ blockSize
  waiting_ne : ctx.unprocessedBlock ++ input ≠ [] → ctx'.unprocessedBlock ≠ []

section

variable {lib : CipherLib C} {cipher : C} {blockSize : Nat}

/-
A round of the loop that does not end it.
-/
theorem cmacSwUpdateLoop_succ {n : Nat} {ctx : MbedtlsCmacContext σ} {input : List Byte}
    (hret : (cmacSwUpdateLoop lib cipher blockSize (n + 1) ctx input).1.ret = 0)
    : ∃ state,
        lib.update cipher (cmacSwXor (input.take blockSize) ctx.state) = .ok state
          ∧ cmacSwUpdateLoop lib cipher blockSize (n + 1) ctx input
            = cmacSwUpdateLoop lib cipher blockSize n { ctx with state } (input.drop blockSize) := by
  rw [cmacSwUpdateLoop] at hret ⊢
  cases hupdate : lib.update cipher (cmacSwXor (input.take blockSize) ctx.state) with
  | error e =>
    rw [hupdate] at hret
    apply absurd hret e.2
  | ok state => exact ⟨state, rfl, rfl⟩

/-
The induction is on the blocks that are left. That they are all in the input is what makes every one
of them a full block.
-/
theorem cmacSwUpdateLoop_chain {n : Nat} {ctx : MbedtlsCmacContext σ} {input : List Byte}
    (hlen : n * blockSize ≤ input.length)
    (hret : (cmacSwUpdateLoop lib cipher blockSize n ctx input).1.ret = 0)
    : ∃ blocks : List (List Byte),
        (∀ block ∈ blocks, block.length = blockSize)
          ∧ blocks.flatten = input.take (n * blockSize)
          ∧ cmacChain lib cipher ctx.state blocks
              = .ok (cmacSwUpdateLoop lib cipher blockSize n ctx input).1.ctx.state := by
  induction n generalizing ctx input with
  | zero =>
    exists []
    simp [cmacSwUpdateLoop, cmacChain]
    rfl
  | succ n ih =>
    have hmul : (n + 1) * blockSize = n * blockSize + blockSize := Nat.succ_mul n blockSize
    obtain ⟨state, hupdate, hnext⟩ := cmacSwUpdateLoop_succ hret
    rw [hnext] at hret ⊢
    have hdrop : n * blockSize ≤ (input.drop blockSize).length := by
      rw [List.length_drop]
      omega
    obtain ⟨blocks, hblocks, hflatten, hchain⟩ := ih hdrop hret
    have htake : (input.take blockSize).length = blockSize := by
      rw [List.length_take]
      omega
    exists input.take blockSize :: blocks
    constructor
    . simpa [htake] using hblocks
    . constructor
      . rw [List.flatten_cons, hflatten, hmul, Nat.add_comm]
        apply List.take_add.symm
      . rw [cmacChain_cons hupdate]
        apply hchain

theorem cmacSwUpdateLoop_rest {n : Nat} {ctx : MbedtlsCmacContext σ} {input : List Byte}
    (hret : (cmacSwUpdateLoop lib cipher blockSize n ctx input).1.ret = 0)
    : (cmacSwUpdateLoop lib cipher blockSize n ctx input).2 = input.drop (n * blockSize) := by
  induction n generalizing ctx input with
  | zero =>
    simp [cmacSwUpdateLoop]
  | succ n ih =>
    obtain ⟨state, _, hnext⟩ := cmacSwUpdateLoop_succ hret
    rw [hnext] at hret ⊢
    rw [ih hret]
    rw [List.drop_drop]
    rw [Nat.succ_mul, Nat.add_comm]

theorem cmacSwUpdateLoop_unprocessedBlock {n : Nat} {ctx : MbedtlsCmacContext σ} {input : List Byte}
    : (cmacSwUpdateLoop lib cipher blockSize n ctx input).1.ctx.unprocessedBlock
        = ctx.unprocessedBlock := by
  induction n generalizing ctx input with
  | zero =>
    rfl
  | succ n ih =>
    unfold cmacSwUpdateLoop
    cases lib.update cipher (cmacSwXor (input.take blockSize) ctx.state) with
    | error e =>
      rfl
    | ok state =>
      apply ih

/-
As long as the sum does not wrap, the blocks that are processed at once are all but the last one.
-/
theorem cmacSwBlocks_bounds {ilen : Nat} (hpos : 0 < blockSize)
    (hfits : ilen + blockSize ≤ 2 ^ 64)
    : (cmacSwBlocks ilen blockSize - 1) * blockSize ≤ ilen
        ∧ ilen - (cmacSwBlocks ilen blockSize - 1) * blockSize ≤ blockSize
        ∧ (0 < ilen → (cmacSwBlocks ilen blockSize - 1) * blockSize < ilen) := by
  unfold cmacSwBlocks
  rw [Nat.mod_eq_of_lt (by omega)]
  have hle := Nat.div_mul_le_self (ilen + blockSize - 1) blockSize
  have hlt := Nat.lt_div_mul_add hpos (a := ilen + blockSize - 1)
  generalize (ilen + blockSize - 1) / blockSize = n at hle hlt ⊢
  rw [Nat.sub_mul, Nat.one_mul]
  omega

theorem cmacSwUpdateRest_eq {ctx : MbedtlsCmacContext σ} {input : List Byte}
    (hret : (cmacSwUpdateRest lib cipher blockSize ctx input).ret = 0)
    : let n := cmacSwBlocks input.length blockSize - 1
      let res := cmacSwUpdateLoop lib cipher blockSize n ctx input
      res.1.ret = 0
        ∧ (cmacSwUpdateRest lib cipher blockSize ctx input).ctx
            = { res.1.ctx with
                unprocessedBlock := ctx.unprocessedBlock ++ input.drop (n * blockSize)
              } := by
  intro n res
  unfold cmacSwUpdateRest at hret ⊢
  change (if res.1.ret ≠ 0 then _ else _ : CmacStatus σ).ret = 0 at hret
  by_cases hzero : res.1.ret = 0
  . constructor
    . apply hzero
    . change (if res.1.ret ≠ 0 then _ else _ : CmacStatus σ).ctx = _
      rw [if_neg (by simp [hzero])]
      dsimp only
      rw [cmacSwUpdateLoop_rest hzero]
      rw [cmacSwUpdateLoop_unprocessedBlock]
  . rw [if_pos hzero] at hret
    apply absurd hret hzero

theorem cmacSwUpdateRest_takes {ctx : MbedtlsCmacContext σ} {input : List Byte} (hpos : 0 < blockSize)
    (hwait : ctx.unprocessedBlock = [] ∨ ctx.unprocessedBlock.length + input.length ≤ blockSize)
    (hfits : input.length + blockSize ≤ 2 ^ 64)
    (hret : (cmacSwUpdateRest lib cipher blockSize ctx input).ret = 0)
    : ∃ blocks, CmacSwTakes lib cipher blockSize ctx input
        (cmacSwUpdateRest lib cipher blockSize ctx input).ctx blocks := by
  obtain ⟨hloop, hctx⟩ := cmacSwUpdateRest_eq hret
  have hbounds := cmacSwBlocks_bounds hpos hfits
  rw [hctx]
  generalize cmacSwBlocks input.length blockSize - 1 = n at hloop hbounds ⊢
  obtain ⟨hle, hrest, hlt⟩ := hbounds
  obtain ⟨blocks, hblocks, hflatten, hchain⟩ := cmacSwUpdateLoop_chain hle hloop
  have hempty : ctx.unprocessedBlock = [] ∨ input.take (n * blockSize) = [] := by
    rcases hwait with hwait | hwait
    . apply Or.inl hwait
    . apply Or.inr
      -- With less than a block to come nothing is processed at once.
      have hzero : n = 0 := by
        apply Classical.byContradiction
        intro hne
        have hmul := Nat.le_mul_of_pos_left blockSize (Nat.pos_of_ne_zero hne)
        omega
      simp [hzero]
  have hbytes : ctx.unprocessedBlock ++ input
      = blocks.flatten ++ (ctx.unprocessedBlock ++ input.drop (n * blockSize)) := by
    rw [hflatten]
    rcases hempty with hempty | hempty
    . simp [hempty]
    . have hdrop := List.take_append_drop (n * blockSize) input
      rw [hempty, List.nil_append] at hdrop
      rw [hempty, hdrop, List.nil_append]
  exists blocks
  constructor
  . apply hblocks
  . apply hbytes
  . apply hchain
  . dsimp only
    rw [List.length_append, List.length_drop]
    rcases hwait with hwait | hwait
    . rw [hwait, List.length_nil]
      omega
    . omega
  . intro hne hnil
    dsimp only at hnil
    rw [List.append_eq_nil_iff, List.drop_eq_nil_iff] at hnil
    apply hne
    have hinput : input = [] := by
      apply List.eq_nil_of_length_eq_zero
      omega
    rw [hnil.1, hinput]
    rfl

/-
Where the sum wraps, more is left to wait than a block holds.
-/
theorem cmacSwUpdateRest_wraps {ctx : MbedtlsCmacContext σ} {input : List Byte}
    (hle : blockSize ≤ mbedtlsCmacMaxBlockSize) (hwraps : 2 ^ 64 < input.length + blockSize)
    (hret : (cmacSwUpdateRest lib cipher blockSize ctx input).ret = 0)
    : blockSize
        < (cmacSwUpdateRest lib cipher blockSize ctx input).ctx.unprocessedBlock.length := by
  obtain ⟨hloop, hctx⟩ := cmacSwUpdateRest_eq hret
  have hmod : (input.length + blockSize - 1) % 2 ^ 64 ≤ input.length + blockSize - 1 - 2 ^ 64 := by
    rw [Nat.mod_eq_sub_mod (by omega)]
    apply Nat.mod_le
  have hmul := Nat.div_mul_le_self ((input.length + blockSize - 1) % 2 ^ 64) blockSize
  have hmax : mbedtlsCmacMaxBlockSize = 16 := rfl
  rw [hctx]
  dsimp only
  unfold cmacSwBlocks
  rw [List.length_append, List.length_drop]
  rw [Nat.sub_mul, Nat.one_mul]
  omega

/-
The lengths of which an update takes everything.
-/
def CmacSwFits (blockSize : Nat) (ctx : MbedtlsCmacContext σ) (ilen : Nat) : Prop :=
  ilen + (if ctx.unprocessedBlock.length = 0 then blockSize else ctx.unprocessedBlock.length)
    ≤ 2 ^ 64

variable {ctx : MbedtlsCmacContext σ} {input : List Byte} (hpos : 0 < blockSize)
    (hle : blockSize ≤ mbedtlsCmacMaxBlockSize) (hwait : ctx.unprocessedBlock.length ≤ blockSize)

include hpos hle hwait in
theorem cmacSwUpdate_takes (hfits : CmacSwFits blockSize ctx input.length)
    (hret : (cmacSwUpdate lib cipher blockSize ctx input).ret = 0)
    : ∃ blocks, CmacSwTakes lib cipher blockSize ctx input
        (cmacSwUpdate lib cipher blockSize ctx input).ctx blocks := by
  have hmax : mbedtlsCmacMaxBlockSize = 16 := rfl
  unfold CmacSwFits at hfits
  unfold cmacSwUpdate at hret ⊢
  dsimp only at hret ⊢
  by_cases hfull : 0 < ctx.unprocessedBlock.length
      ∧ blockSize - ctx.unprocessedBlock.length < input.length
  . rw [if_neg (by omega)] at hfits
    rw [if_pos hfull] at hret ⊢
    generalize hroom : blockSize - ctx.unprocessedBlock.length = room at hret hfull ⊢
    cases hupdate : lib.update cipher
        (cmacSwXor (ctx.unprocessedBlock ++ input.take room) ctx.state) with
    | error e =>
      rw [hupdate] at hret
      apply absurd hret e.2
    | ok state =>
      rw [hupdate] at hret
      dsimp only at hret ⊢
      have hdrop : (input.drop room).length = input.length - room := List.length_drop
      obtain ⟨blocks, htakes⟩ := cmacSwUpdateRest_takes hpos (Or.inl rfl) (by omega) hret
      have hbytes := htakes.bytes
      dsimp only at hbytes
      rw [List.nil_append] at hbytes
      -- The block that waited is filled up and goes first.
      exists (ctx.unprocessedBlock ++ input.take room) :: blocks
      constructor
      . intro block hmem
        rcases List.mem_cons.mp hmem with hblock | hblock
        . rw [hblock, List.length_append, List.length_take]
          omega
        . apply htakes.block_length block hblock
      . rw [List.flatten_cons, List.append_assoc, ← hbytes]
        rw [List.append_assoc, List.take_append_drop]
      . rw [cmacChain_cons hupdate]
        apply htakes.chain
      . apply htakes.waiting_le
      . intro _
        apply htakes.waiting_ne
        dsimp only
        rw [List.nil_append]
        intro hnil
        rw [hnil, List.length_nil] at hdrop
        omega
  . rw [if_neg hfull] at hret ⊢
    have hcases : ctx.unprocessedBlock = []
        ∨ ctx.unprocessedBlock.length + input.length ≤ blockSize := by
      by_cases hzero : ctx.unprocessedBlock.length = 0
      . apply Or.inl
        apply List.eq_nil_of_length_eq_zero hzero
      . apply Or.inr
        omega
    apply cmacSwUpdateRest_takes hpos hcases
    . split at hfits
      . apply hfits
      . omega
    . apply hret

include hpos hle hwait in
theorem cmacSwUpdate_wraps (hwraps : ¬CmacSwFits blockSize ctx input.length)
    (hret : (cmacSwUpdate lib cipher blockSize ctx input).ret = 0)
    : blockSize < (cmacSwUpdate lib cipher blockSize ctx input).ctx.unprocessedBlock.length := by
  have hmax : mbedtlsCmacMaxBlockSize = 16 := rfl
  unfold CmacSwFits at hwraps
  unfold cmacSwUpdate at hret ⊢
  dsimp only at hret ⊢
  by_cases hzero : ctx.unprocessedBlock.length = 0
  . rw [if_pos hzero] at hwraps
    rw [if_neg (by omega)] at hret ⊢
    apply cmacSwUpdateRest_wraps hle (by omega) hret
  . rw [if_neg hzero] at hwraps
    rw [if_pos (by omega)] at hret ⊢
    cases hupdate : lib.update cipher (cmacSwXor (ctx.unprocessedBlock
        ++ input.take (blockSize - ctx.unprocessedBlock.length)) ctx.state) with
    | error e =>
      rw [hupdate] at hret
      apply absurd hret e.2
    | ok state =>
      rw [hupdate] at hret
      dsimp only at hret ⊢
      apply cmacSwUpdateRest_wraps hle _ hret
      rw [List.length_drop]
      omega

end

/--
The contexts that the CMAC functions make: one that has been given a key knows its cipher, and no more
than a block waits.
-/
structure CmacContextOk (ctx : MbedtlsCipherContext C σ) : Prop where
  cipherInfo : ctx.cmacCtx.isSome → ctx.cipherInfo.isSome
  waiting : ∀ cmacCtx, ctx.cmacCtx = some cmacCtx →
    cmacCtx.unprocessedBlock.length ≤ mbedtlsCipherInfoGetBlockSize ctx.cipherInfo

section

variable {W : Type} (hw : CmacHw C σ W) {ctx : MbedtlsCipherContext C σ}

theorem CmacContextOk.set {info : Option CipherType} {cipher : C} {cmacCtx : MbedtlsCmacContext σ}
    (hinfo : info.isSome)
    (hwait : cmacCtx.unprocessedBlock.length ≤ mbedtlsCipherInfoGetBlockSize info)
    : CmacContextOk ⟨info, cipher, some cmacCtx⟩ := by
  constructor
  . intro _
    apply hinfo
  . intro cmacCtx' h
    cases h
    apply hwait

theorem CmacContextOk.blockSize_pos (hctx : CmacContextOk ctx) (h : ctx.cmacCtx.isSome)
    : 0 < mbedtlsCipherInfoGetBlockSize ctx.cipherInfo := by
  have hinfo := hctx.cipherInfo h
  cases hcases : ctx.cipherInfo with
  | none =>
    rw [hcases] at hinfo
    cases hinfo
  | some info =>
    cases info <;> decide

theorem mbedtlsCipherInfoGetBlockSize_le (info : Option CipherType)
    : mbedtlsCipherInfoGetBlockSize info ≤ mbedtlsCmacMaxBlockSize := by
  cases info with
  | none =>
    decide
  | some info =>
    cases info <;> decide

theorem cmacHwInit_unprocessedBlock (cmacCtx : MbedtlsCmacContext σ)
    : (cmacHwInit hw cmacCtx).ctx.unprocessedBlock = cmacCtx.unprocessedBlock := by
  unfold cmacHwInit
  split
  . rfl
  . rfl

theorem mbedtlsCipherCmacStarts_contextOk (hctx : CmacContextOk ctx) (key : Option (List Byte))
    (keybits : Nat) : CmacContextOk (mbedtlsCipherCmacStarts hw ctx key keybits).ctx := by
  have hcipher : ∀ cipher : C,
      CmacContextOk ({ ctx with cipher } : MbedtlsCipherContext C σ) := by
    intro cipher
    constructor
    . apply hctx.cipherInfo
    . apply hctx.waiting
  unfold mbedtlsCipherCmacStarts
  split
  next info key hinfo =>
    have hsome : ctx.cipherInfo.isSome := by
      rw [hinfo]
      rfl
    split
    . apply hctx
    . dsimp only
      split
      . apply hcipher
      . split
        . apply hcipher
        . split
          . apply CmacContextOk.set hsome
            apply Nat.zero_le
          . apply CmacContextOk.set hsome
            rw [cmacHwInit_unprocessedBlock]
            apply Nat.zero_le
  . apply hctx

theorem cmacSwUpdateRest_fails {cmacCtx : MbedtlsCmacContext σ} {lib : CipherLib C} {cipher : C}
    {blockSize : Nat} {input : List Byte}
    (hret : (cmacSwUpdateRest lib cipher blockSize cmacCtx input).ret ≠ 0)
    : (cmacSwUpdateRest lib cipher blockSize cmacCtx input).ctx.unprocessedBlock
        = cmacCtx.unprocessedBlock := by
  unfold cmacSwUpdateRest at hret ⊢
  dsimp only at hret ⊢
  split at hret
  next hne =>
    rw [if_pos hne]
    apply cmacSwUpdateLoop_unprocessedBlock
  next =>
    apply absurd rfl hret

theorem cmacSwUpdate_fails {cmacCtx : MbedtlsCmacContext σ} {lib : CipherLib C} {cipher : C}
    {blockSize : Nat} {input : List Byte}
    (hret : (cmacSwUpdate lib cipher blockSize cmacCtx input).ret ≠ 0)
    : (cmacSwUpdate lib cipher blockSize cmacCtx input).ctx.unprocessedBlock.length
        ≤ cmacCtx.unprocessedBlock.length := by
  unfold cmacSwUpdate at hret ⊢
  dsimp only at hret ⊢
  split at hret
  next hfull =>
    rw [if_pos hfull]
    split at hret
    . apply Nat.le_refl
    . rw [cmacSwUpdateRest_fails hret]
      apply Nat.zero_le
  next hfull =>
    rw [if_neg hfull, cmacSwUpdateRest_fails hret]

theorem mbedtlsCipherCmacUpdate_contextOk (hctx : CmacContextOk ctx) {input : List Byte} (w : W)
    (hfits : ∀ cmacCtx, ctx.cmacCtx = some cmacCtx → cmacCtx.useSw = true →
      CmacSwFits (mbedtlsCipherInfoGetBlockSize ctx.cipherInfo) cmacCtx input.length)
    : CmacContextOk (mbedtlsCipherCmacUpdate hw ctx input w).ctx := by
  unfold mbedtlsCipherCmacUpdate
  split
  . apply hctx
  next cmacCtx hcmac =>
    have hsome : ctx.cmacCtx.isSome := by
      rw [hcmac]
      rfl
    have hwait := hctx.waiting cmacCtx hcmac
    have hpos := hctx.blockSize_pos hsome
    have hle := mbedtlsCipherInfoGetBlockSize_le ctx.cipherInfo
    split
    next hsw =>
      apply CmacContextOk.set (hctx.cipherInfo hsome)
      by_cases hret : (cmacSwUpdate hw.lib ctx.cipher
          (mbedtlsCipherInfoGetBlockSize ctx.cipherInfo) cmacCtx input).ret = 0
      . obtain ⟨_, htakes⟩ := cmacSwUpdate_takes hpos hle hwait (hfits cmacCtx hcmac hsw) hret
        apply htakes.waiting_le
      . have hkept := cmacSwUpdate_fails hret
        omega
    next =>
      split
      . apply hctx
      . split
        . apply hctx
        . apply CmacContextOk.set (hctx.cipherInfo hsome)
          apply hwait

theorem mbedtlsCipherCmacFinish_contextOk (hctx : CmacContextOk ctx) (w : W)
    : CmacContextOk (mbedtlsCipherCmacFinish hw ctx w).ctx := by
  unfold mbedtlsCipherCmacFinish
  split
  . apply hctx
  next cmacCtx hcmac =>
    have hsome : ctx.cmacCtx.isSome := by
      rw [hcmac]
      rfl
    split
    next =>
      apply CmacContextOk.set (hctx.cipherInfo hsome)
      unfold cmacSwFinish
      split
      . apply Nat.zero_le
      . dsimp only
        split
        . apply Nat.zero_le
        . apply Nat.zero_le
    next =>
      split
      . apply hctx
      . dsimp only
        split
        . apply CmacContextOk.set (hctx.cipherInfo hsome)
          apply hctx.waiting cmacCtx hcmac
        . apply CmacContextOk.set (hctx.cipherInfo hsome)
          apply hctx.waiting cmacCtx hcmac

theorem mbedtlsCipherCmacReset_contextOk (hctx : CmacContextOk ctx)
    : CmacContextOk (mbedtlsCipherCmacReset hw ctx).ctx := by
  unfold mbedtlsCipherCmacReset
  split
  . apply hctx
  next cmacCtx hcmac =>
    have hsome : ctx.cmacCtx.isSome := by
      rw [hcmac]
      rfl
    split
    . apply CmacContextOk.set (hctx.cipherInfo hsome)
      apply Nat.zero_le
    . apply CmacContextOk.set (hctx.cipherInfo hsome)
      rw [cmacHwInit_unprocessedBlock]
      apply hctx.waiting cmacCtx hcmac

/--
A call on one context, with what it finds of the kernel.
-/
inductive CmacOp (W : Type) where
  | starts (key : Option (List Byte)) (keybits : Nat)
  | update (input : List Byte) (w : W)
  | finish (w : W)
  | reset

def CmacOutcome.answer (res : CmacOutcome C σ) : MbedtlsCipherContext C σ × Int :=
  (res.ctx, res.ret)

def cmacMachine : Machine (MbedtlsCipherContext C σ) (CmacOp W) Int where
  step ctx op :=
    match op with
    | .starts key keybits => (mbedtlsCipherCmacStarts hw ctx key keybits).answer
    | .update input w => (mbedtlsCipherCmacUpdate hw ctx input w).answer
    | .finish w => (mbedtlsCipherCmacFinish hw ctx w).answer
    | .reset => (mbedtlsCipherCmacReset hw ctx).answer

/-
An update in software that is so long that the sum of the lengths wraps.
-/
def CmacWraps (v : Machine.Visit (MbedtlsCipherContext C σ) (CmacOp W) Int) : Prop :=
  ∃ input w cmacCtx, v.event = .update input w ∧ v.pre.cmacCtx = some cmacCtx ∧ cmacCtx.useSw = true
    ∧ ¬CmacSwFits (mbedtlsCipherInfoGetBlockSize v.pre.cipherInfo) cmacCtx input.length

theorem cmacMachine_step (hctx : CmacContextOk ctx) (op : CmacOp W)
    (hfits : ¬CmacWraps ((cmacMachine hw).visit ctx op))
    : CmacContextOk ((cmacMachine hw).step ctx op).1 := by
  cases op with
  | starts key keybits => exact mbedtlsCipherCmacStarts_contextOk hw hctx key keybits
  | update input w =>
    apply mbedtlsCipherCmacUpdate_contextOk hw hctx w
    intro cmacCtx hcmac hsw
    by_contra hwraps
    exact hfits ⟨input, w, cmacCtx, rfl, hcmac, hsw, hwraps⟩
  | finish w => exact mbedtlsCipherCmacFinish_contextOk hw hctx w
  | reset => exact mbedtlsCipherCmacReset_contextOk hw hctx

/--
After every run of calls on a context that has just been set up, whatever they return, the context is one that the CMAC
functions make, unless a length has wrapped.
-/
theorem cmacMachine_contextOk (hsetup : ctx.cmacCtx = none) {ops : List (CmacOp W)}
    (hfits : ∀ v ∈ (cmacMachine hw).visits ctx ops, ¬CmacWraps v)
    : CmacContextOk ((cmacMachine hw).final ctx ops) := by
  have hinit : CmacContextOk ctx := by
    constructor
    . intro hsome
      rw [hsetup] at hsome
      contradiction
    . intro cmacCtx hcmac
      rw [hsetup] at hcmac
      contradiction
  exact Machine.final_inv CmacContextOk (fun _ op hctx => cmacMachine_step hw hctx op) hinit hfits

end

end Mbedtls

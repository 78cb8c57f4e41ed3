import RtsmartLib.Lib.Checked
import RtsmartLib.Lib.Machine
import RtsmartLib.Mbedtls.CmacSubkeys

/-!
This module contains that the software CMAC computes the CMAC of the message that its updates are given,
however the message is split.
-/

namespace Mbedtls

open Lib Pufs

variable {C σ : Type}

/-
The block cipher behind a cipher context.
-/
structure IsBlockCipher (lib : CipherLib C) (cipher : C) (blockSize : Nat)
    (encrypt : List Byte → List Byte) : Prop where
  update : ∀ block, block.length = blockSize → lib.update cipher block = .ok (encrypt block)
  length : ∀ block, block.length = blockSize → (encrypt block).length = blockSize

/--
What an update is given. It lies in a memory of 64 bit addresses, and the block of the context lies there
as well.
-/
structure CmacInput where
  bytes : List Byte
  fits : bytes.length + mbedtlsCmacMaxBlockSize ≤ 2 ^ 64

def cmacSwMachine (lib : CipherLib C) (cipher : C) (blockSize : Nat)
    : Machine (MbedtlsCmacContext σ) CmacInput Int where
  step ctx input :=
    let res := cmacSwUpdate lib cipher blockSize ctx input.bytes
    (res.ctx, res.ret)

def cmacZeros : List Byte :=
  List.replicate mbedtlsCmacMaxBlockSize 0

theorem cmacSwXor_eq (dst src : List Byte) : cmacSwXor dst src = xorBlock src dst :=
  xorBlock_comm dst src

section

variable {lib : CipherLib C} {cipher : C} {blockSize : Nat} {encrypt : List Byte → List Byte}
variable (hcipher : IsBlockCipher lib cipher blockSize encrypt)

include hcipher in
theorem update_xor {block state : List Byte} (hblock : block.length = blockSize)
    (hstate : blockSize ≤ state.length)
    : lib.update cipher (cmacSwXor block state) = .ok (encrypt (xorBlock state block))
        ∧ (encrypt (xorBlock state block)).length = blockSize := by
  have hlen : (xorBlock state block).length = blockSize := by
    rw [length_xorBlock, hblock]
    exact Nat.min_eq_right hstate
  rw [cmacSwXor_eq]
  exact ⟨hcipher.update _ hlen, hcipher.length _ hlen⟩

include hcipher in
theorem cmacChain_eq {blocks : List (List Byte)} (hblocks : ∀ block ∈ blocks, block.length = blockSize)
    {state : List Byte} (hstate : blockSize ≤ state.length)
    : cmacChain lib cipher state blocks = .ok (cbcMac encrypt state blocks)
        ∧ blockSize ≤ (cbcMac encrypt state blocks).length := by
  induction blocks generalizing state with
  | nil => exact ⟨rfl, hstate⟩
  | cons block blocks ih =>
    obtain ⟨hupdate, hlen⟩ := update_xor hcipher (hblocks block List.mem_cons_self) hstate
    rw [cmacChain_cons hupdate]
    exact ih (fun b hb => hblocks b (List.mem_cons_of_mem _ hb)) (Nat.le_of_eq hlen.symm)

include hcipher in
theorem cmacSwUpdateLoop_ret {blocks : Nat} {ctx : MbedtlsCmacContext σ} {input : List Byte}
    (hlen : blocks * blockSize ≤ input.length) (hstate : blockSize ≤ ctx.state.length)
    : (cmacSwUpdateLoop lib cipher blockSize blocks ctx input).1.ret = 0 := by
  induction blocks generalizing ctx input with
  | zero => rfl
  | succ blocks ih =>
    rw [Nat.succ_mul] at hlen
    have htake : (input.take blockSize).length = blockSize := by
      rw [List.length_take]
      omega
    obtain ⟨hupdate, hnext⟩ := update_xor hcipher htake hstate
    unfold cmacSwUpdateLoop
    rw [hupdate]
    apply ih
    . rw [List.length_drop]
      omega
    . exact Nat.le_of_eq hnext.symm

include hcipher in
theorem cmacSwUpdateRest_ret {ctx : MbedtlsCmacContext σ} {input : List Byte} (hpos : 0 < blockSize)
    (hfits : input.length + blockSize ≤ 2 ^ 64) (hstate : blockSize ≤ ctx.state.length)
    : (cmacSwUpdateRest lib cipher blockSize ctx input).ret = 0 := by
  have hle := (cmacSwBlocks_bounds hpos hfits).1
  have hloop := cmacSwUpdateLoop_ret hcipher hle hstate
  unfold cmacSwUpdateRest
  generalize cmacSwUpdateLoop lib cipher blockSize (cmacSwBlocks input.length blockSize - 1) ctx input = res
    at hloop
  obtain ⟨status, rest⟩ := res
  dsimp only at hloop ⊢
  rw [if_neg (by rw [hloop]; exact not_not.mpr rfl)]

include hcipher in
theorem cmacSwUpdate_ret {ctx : MbedtlsCmacContext σ} (input : CmacInput) (hpos : 0 < blockSize)
    (hle : blockSize ≤ mbedtlsCmacMaxBlockSize) (hwait : ctx.unprocessedBlock.length ≤ blockSize)
    (hstate : blockSize ≤ ctx.state.length)
    : (cmacSwUpdate lib cipher blockSize ctx input.bytes).ret = 0 := by
  have hfits := input.fits
  unfold cmacSwUpdate
  extract_lets room
  split
  . next block hfull =>
    have hroom : room = blockSize - ctx.unprocessedBlock.length := rfl
    have hblock : block.length = blockSize := by
      change (ctx.unprocessedBlock ++ input.bytes.take room).length = blockSize
      rw [List.length_append, List.length_take]
      omega
    obtain ⟨hupdate, hnext⟩ := update_xor hcipher hblock hstate
    rw [hupdate]
    apply cmacSwUpdateRest_ret hcipher hpos
    . rw [List.length_drop]
      omega
    . exact Nat.le_of_eq hnext.symm
  . exact cmacSwUpdateRest_ret hcipher hpos (by omega) hstate

/-
The context after a message has been given to it: its complete blocks but the last one are in the state,
and the rest waits.
-/
structure CmacSwHolds (lib : CipherLib C) (cipher : C) (blockSize : Nat) (ctx : MbedtlsCmacContext σ)
    (message : List Byte) (blocks : List (List Byte)) : Prop where
  parts : CmacBlocks blockSize message blocks ctx.unprocessedBlock
  chain : cmacChain lib cipher cmacZeros blocks = .ok ctx.state

theorem cmacSwStarts_holds (ctx : MbedtlsCmacContext σ)
    : CmacSwHolds lib cipher blockSize (cmacSwStarts ctx) [] [] := by
  constructor
  . constructor
    . rfl
    . intro block hblock
      exact nomatch hblock
    . exact Nat.zero_le _
    . intro hne
      exact absurd rfl hne
  . rfl

theorem cmacChain_append {state state' : List Byte} {blocks : List (List Byte)}
    (h : cmacChain lib cipher state blocks = .ok state') (blocks' : List (List Byte))
    : cmacChain lib cipher state (blocks ++ blocks') = cmacChain lib cipher state' blocks' := by
  unfold cmacChain at h ⊢
  rw [List.foldlM_append, h]
  rfl

include hcipher in
theorem CmacSwHolds.state_length {ctx : MbedtlsCmacContext σ} {message : List Byte}
    {blocks : List (List Byte)} (h : CmacSwHolds lib cipher blockSize ctx message blocks)
    (hle : blockSize ≤ mbedtlsCmacMaxBlockSize)
    : ctx.state = cbcMac encrypt cmacZeros blocks ∧ blockSize ≤ ctx.state.length := by
  have hzeros : blockSize ≤ cmacZeros.length := by
    unfold cmacZeros
    rw [List.length_replicate]
    exact hle
  obtain ⟨hchain, hlen⟩ := cmacChain_eq hcipher h.parts.block_length hzeros
  have hstate : ctx.state = cbcMac encrypt cmacZeros blocks := by
    rw [h.chain] at hchain
    exact Except.ok.inj hchain
  rw [hstate]
  exact ⟨rfl, hlen⟩

include hcipher in
theorem cmacSwUpdate_holds {ctx : MbedtlsCmacContext σ} {message : List Byte} {blocks : List (List Byte)}
    (hpos : 0 < blockSize) (hle : blockSize ≤ mbedtlsCmacMaxBlockSize)
    (h : CmacSwHolds lib cipher blockSize ctx message blocks) (input : CmacInput)
    : (cmacSwUpdate lib cipher blockSize ctx input.bytes).ret = 0
        ∧ ∃ blocks', CmacSwHolds lib cipher blockSize
            (cmacSwUpdate lib cipher blockSize ctx input.bytes).ctx (message ++ input.bytes) blocks' := by
  have hwait := h.parts.last_le
  have hret := cmacSwUpdate_ret hcipher input hpos hle hwait (h.state_length hcipher hle).2
  have hfits : CmacSwFits blockSize ctx input.bytes.length := by
    have hinput := input.fits
    unfold CmacSwFits
    split <;> omega
  obtain ⟨blocks', htakes⟩ := cmacSwUpdate_takes hpos hle hwait hfits hret
  refine ⟨hret, blocks ++ blocks', ?_, ?_⟩
  . constructor
    . rw [h.parts.bytes, List.append_assoc, htakes.bytes, List.flatten_append, List.append_assoc]
    . intro block hblock
      cases List.mem_append.mp hblock with
      | inl hold => exact h.parts.block_length block hold
      | inr hnew => exact htakes.block_length block hnew
    . exact htakes.waiting_le
    . intro hne
      apply htakes.waiting_ne
      intro hnil
      -- Where nothing waits and nothing comes, there has been no message at all.
      obtain ⟨hwaiting, hinput⟩ := List.append_eq_nil_iff.mp hnil
      apply hne
      rw [hinput, List.append_nil]
      by_contra hmessage
      exact h.parts.last_ne hmessage hwaiting
  . rw [cmacChain_append h.chain]
    exact htakes.chain

theorem cmacSwGenerateSubkeys_eq (hcipher : IsBlockCipher lib cipher blockSize encrypt)
    (hsize : blockSize = 8 ∨ blockSize = 16) {k1 k2 : List Byte}
    (hk1 : k1 = doubleBlock (cmacPolynomial blockSize) (encrypt (List.replicate blockSize 0)))
    (hk2 : k2 = doubleBlock (cmacPolynomial blockSize) k1)
    : cmacSwGenerateSubkeys lib cipher blockSize = .ok (k1, k2)
        ∧ k1.length = blockSize ∧ k2.length = blockSize := by
  have hzeros : (List.replicate blockSize (0 : Byte)).length = blockSize := List.length_replicate
  have hl := hcipher.length _ hzeros
  have hlen1 : k1.length = blockSize := by
    rw [hk1]
    unfold doubleBlock
    rw [length_bytesBE, hl]
  have hlen2 : k2.length = blockSize := by
    rw [hk2]
    unfold doubleBlock
    rw [length_bytesBE, hlen1]
  refine ⟨?_, hlen1, hlen2⟩
  unfold cmacSwGenerateSubkeys
  rw [hcipher.update _ hzeros, ok_bind, cmacSwMultiplyByU_eq hsize hl, ← hk1, ok_bind]
  rw [cmacSwMultiplyByU_eq hsize hlen1, ← hk2, ok_bind]
  rfl

/-
The last block as the code and as the mode makes it.
-/
theorem cmacSwLast_eq {last k1 k2 : List Byte} (hle : last.length ≤ blockSize)
    : (if last.length < blockSize then cmacSwXor (cmacSwPad blockSize last) k2 else cmacSwXor last k1)
        = if last.length = blockSize then xorBlock last k1 else xorBlock (padBlock blockSize last) k2 := by
  by_cases hlt : last.length < blockSize
  . rw [if_pos hlt, if_neg (by omega), cmacSwPad_eq hlt]
    rfl
  . rw [if_neg hlt, if_pos (by omega)]
    rfl

theorem length_cmacLast {last k1 k2 : List Byte} (hle : last.length ≤ blockSize)
    (hlen1 : k1.length = blockSize) (hlen2 : k2.length = blockSize)
    : (if last.length = blockSize then xorBlock last k1 else xorBlock (padBlock blockSize last) k2).length
        = blockSize := by
  split
  . next heq => rw [length_xorBlock, heq, hlen1, Nat.min_self]
  . next hne =>
    have hpad : (padBlock blockSize last).length = blockSize := by
      unfold padBlock
      rw [List.length_append, List.length_cons, List.length_replicate]
      omega
    rw [length_xorBlock, hpad, hlen2, Nat.min_self]

theorem cmacSwFinish_eq (hcipher : IsBlockCipher lib cipher blockSize encrypt)
    (hsize : blockSize = 8 ∨ blockSize = 16) {ctx : MbedtlsCmacContext σ} {message : List Byte}
    {blocks : List (List Byte)} (h : CmacSwHolds lib cipher blockSize ctx message blocks)
    : (cmacSwFinish lib cipher blockSize ctx).ret = 0
        ∧ (cmacSwFinish lib cipher blockSize ctx).output = cmac blockSize encrypt message := by
  have hpos : 0 < blockSize := by
    omega
  have hle : blockSize ≤ mbedtlsCmacMaxBlockSize := by
    unfold mbedtlsCmacMaxBlockSize
    omega
  obtain ⟨k1, hk1⟩ : ∃ k1, k1 = doubleBlock (cmacPolynomial blockSize)
      (encrypt (List.replicate blockSize 0)) := ⟨_, rfl⟩
  obtain ⟨k2, hk2⟩ : ∃ k2, k2 = doubleBlock (cmacPolynomial blockSize) k1 := ⟨_, rfl⟩
  obtain ⟨hkeys, hlen1, hlen2⟩ := cmacSwGenerateSubkeys_eq hcipher hsize hk1 hk2
  obtain ⟨hstate, hstateLen⟩ := h.state_length hcipher hle
  have hwait := h.parts.last_le
  rw [h.parts.cmac_eq hpos encrypt hk1 hk2]
  have hlastLen := length_cmacLast hwait hlen1 hlen2
  have hstart := xorBlock_cbcMac_zeros encrypt hle h.parts.block_length hlastLen
  obtain ⟨hupdate, _⟩ := update_xor hcipher hlastLen hstateLen
  unfold cmacZeros at hstate
  rw [← hstart, ← hstate]
  unfold cmacSwFinish
  rw [hkeys]
  dsimp only
  rw [cmacSwLast_eq hwait, hupdate]
  exact ⟨rfl, rfl⟩

theorem cmacSwMachine_run (hcipher : IsBlockCipher lib cipher blockSize encrypt) (hpos : 0 < blockSize)
    (hle : blockSize ≤ mbedtlsCmacMaxBlockSize) {ctx : MbedtlsCmacContext σ} {message : List Byte}
    {blocks : List (List Byte)} (h : CmacSwHolds lib cipher blockSize ctx message blocks)
    (pieces : List CmacInput)
    : (∀ v ∈ (cmacSwMachine lib cipher blockSize).visits ctx pieces,
        v.obs = 0 ∧ v.pre.unprocessedBlock.length ≤ blockSize
          ∧ v.post.unprocessedBlock.length ≤ blockSize)
        ∧
      ∃ blocks', CmacSwHolds lib cipher blockSize ((cmacSwMachine lib cipher blockSize).final ctx pieces)
        (message ++ (pieces.map (·.bytes)).flatten) blocks' := by
  induction pieces generalizing ctx message blocks with
  | nil =>
    constructor
    . intro v hv
      exact nomatch hv
    . rw [List.map_nil, List.flatten_nil, List.append_nil]
      exact ⟨blocks, h⟩
  | cons piece pieces ih =>
    obtain ⟨hret, blocks', hnext⟩ := cmacSwUpdate_holds hcipher hpos hle h piece
    obtain ⟨hvisits, hfinal⟩ := ih hnext
    constructor
    . intro v hv
      rw [Machine.visits_cons, List.mem_cons] at hv
      cases hv with
      | inl hfirst =>
        rw [hfirst]
        exact ⟨hret, h.parts.last_le, hnext.parts.last_le⟩
      | inr hrest => exact hvisits v hrest
    . rw [List.map_cons, List.flatten_cons, ← List.append_assoc]
      exact hfinal

theorem cmacSw_cmac (hcipher : IsBlockCipher lib cipher blockSize encrypt)
    (hsize : blockSize = 8 ∨ blockSize = 16) (ctx : MbedtlsCmacContext σ) (pieces : List CmacInput)
    : (∀ v ∈ (cmacSwMachine lib cipher blockSize).visits (cmacSwStarts ctx) pieces,
        v.obs = 0 ∧ v.pre.unprocessedBlock.length ≤ blockSize
          ∧ v.post.unprocessedBlock.length ≤ blockSize)
        ∧
      (cmacSwFinish lib cipher blockSize
          ((cmacSwMachine lib cipher blockSize).final (cmacSwStarts ctx) pieces)).ret = 0
        ∧
      (cmacSwFinish lib cipher blockSize
          ((cmacSwMachine lib cipher blockSize).final (cmacSwStarts ctx) pieces)).output
        = cmac blockSize encrypt (pieces.map (·.bytes)).flatten := by
  have hpos : 0 < blockSize := by
    omega
  have hle : blockSize ≤ mbedtlsCmacMaxBlockSize := by
    unfold mbedtlsCmacMaxBlockSize
    omega
  obtain ⟨hvisits, blocks, hfinal⟩ := cmacSwMachine_run hcipher hpos hle (cmacSwStarts_holds ctx) pieces
  obtain ⟨hret, houtput⟩ := cmacSwFinish_eq hcipher hsize hfinal
  exact ⟨hvisits, hret, houtput⟩

end

/-
A cipher of 8 byte blocks that adds a key to every byte.
-/
def maskBlock (block : List Byte) : List Byte :=
  block.map (· ^^^ 0x5a)

def maskLib : CipherLib Unit where
  setup _ := .ok ()
  setkey _ _ _ _ := .ok ()
  update _ block := .ok (maskBlock block)

theorem maskLib_isBlockCipher : IsBlockCipher maskLib () 8 maskBlock := by
  constructor
  . intro block _
    rfl
  . intro block hblock
    unfold maskBlock
    rw [List.length_map]
    exact hblock

def maskContext : MbedtlsCmacContext Unit :=
  cmacKeyedContext [] 0

def maskPieces : List CmacInput :=
  [⟨[1, 2, 3, 4, 5], by decide⟩, ⟨[], by decide⟩, ⟨[6, 7, 8, 9, 10, 11, 12, 13, 14, 15, 16], by decide⟩]

/-
The message ends with a block.
-/
theorem cmacSw_cmac_mask
    : (cmacSwFinish maskLib () 8
        ((cmacSwMachine maskLib () 8).final (cmacSwStarts maskContext) maskPieces)).output
        = cmac 8 maskBlock [1, 2, 3, 4, 5, 6, 7, 8, 9, 10, 11, 12, 13, 14, 15, 16] :=
  (cmacSw_cmac maskLib_isBlockCipher (.inl rfl) maskContext maskPieces).2.2

end Mbedtls

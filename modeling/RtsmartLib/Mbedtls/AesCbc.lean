import RtsmartLib.Mbedtls.AesDevice

/-!
This module contains chained mode over the hardware path and its software fallback.
-/

namespace Mbedtls

open Lib Pufs

variable {sw : AesSw}

theorem swCryptCbc_eq (ctx : sw.Context) (mode : AesMode) {length input output : Nat}
    (hlen : length % 16 = 0) (h : Overlay input output length) (iv : Block) (mem : Memory)
    : let res := chain (cbcStep sw ctx mode) (length / 16) iv (readBytes mem input length)
      swCryptCbc sw ctx mode length iv input output mem = ⟨0, writeBytes output res.1 mem, res.2⟩ := by
  have hblocks : 16 * (length / 16) = length := by
    omega
  unfold swCryptCbc
  rw [if_neg (by simpa using hlen)]
  rw [swCryptCbcLoop_eq sw ctx mode (by rw [hblocks]; exact h)]
  rw [hblocks]

/-
How much the device gives out of a chained mode: whole blocks only.
-/
def cbcEmitted (hold : HoldBack) (n : Nat) : Nat :=
  min (hold.emitted n) (16 * (n / 16))

section

variable {mode : AesMode} {ctx : MbedtlsAesContext sw} (hkeyed : Keyed (schedule sw mode) ctx)
    (iv : Block) (hold : HoldBack) {faults : Faults} {w : Nat} {dev : DrvPufsInst}
    {length input output : Nat}

theorem aesHwCryptCbc_none {κ W : Type} (kernel : CipherKernel κ W) (mem : Memory) (w : W)
    : aesHwCryptCbc ⟨none, kernel⟩ ctx mode length iv input output mem w = (⟨-1, mem, w⟩, iv) := rfl

include hkeyed in
theorem aesHwCryptCbc_success (hlen : length % 16 = 0) (hpos : 0 < length)
    (h : Overlay input output length) (mem : Memory) (hsucc : hwSucceeds faults w dev length)
    : let t := chain (cbcStep sw ctx.sw mode) (length / 16) iv (readBytes mem input length)
      let res :=
        aesHwCryptCbc ⟨some dev, aesDevice sw hold faults⟩ ctx mode length iv input output mem w
      res.1.ret = 0 ∧ res.1.mem = writeBytes output t.1 mem ∧ res.2 = t.2 := by
  intro t res
  simp only [hwSucceeds, Bool.decide_and, Bool.decide_eq_true, Bool.and_eq_true,
    decide_eq_true_eq] at hsucc
  obtain ⟨hanswer, hfits⟩ := hsucc
  have hhw := aesHwCryptSp38a_success hkeyed (.inl rfl) (mode = .encrypt) iv hold h mem hanswer
    (by rw [aesTransducer_cbc hkeyed, hfits]; simp; omega)
  rw [aesTransducer_cbc hkeyed, hfits] at hhw
  obtain ⟨hret, hmem⟩ := hhw
  have hout : (Transducer.ofChain (cbcStep sw ctx.sw mode) iv).output (readBytes mem input length)
      = t.1 := by
    simp [Transducer.ofChain, t]
  rw [hout] at hmem
  obtain ⟨n, hn⟩ : ∃ n, length = 16 * (n + 1) := ⟨length / 16 - 1, by omega⟩
  have hblocks : length / 16 = n + 1 := by
    omega
  dsimp only [res]
  unfold aesHwCryptCbc
  dsimp only
  rw [if_neg (by simpa using hret)]
  rw [if_pos hpos]
  cases mode with
  | encrypt =>
    refine ⟨hret, hmem, ?_⟩
    dsimp only
    rw [hmem]
    -- The last block of what was just written is what a chained encryption hands on.
    have hsnd : t.2 = Block.ofList (t.1.drop (16 * n)) := by
      dsimp only [t]
      rw [hblocks]
      exact chain_cbcEncrypt_snd (sw.encrypt ctx.sw) n iv _
    have hread := readBytes_writeBytes_self output t.1 mem
    rw [hsnd]
    conv =>
      rhs
      rw [← hread]
    rw [drop_readBytes]
    unfold readBlock
    congr 2
    . omega
    . dsimp only [t]
      rw [length_chain]
      omega
  | decrypt =>
    refine ⟨hret, hmem, ?_⟩
    dsimp only [t]
    rw [hblocks]
    unfold cbcStep
    rw [chain_cbcDecrypt_snd]
    rw [drop_readBytes]
    rw [take_readBytes _ _ (by omega)]
    unfold readBlock
    congr 2
    omega

include hkeyed in
theorem aesHwCryptCbc_failure (hlen : length % 16 = 0) (h : Overlay input output length)
    (mem : Memory) (hfail : ¬hwSucceeds faults w dev length)
    : let consumed := attempted faults w dev (uint32 length)
      let bytes :=
        (chain (cbcStep sw ctx.sw mode) (consumed / 16) iv (readBytes mem input consumed)).1.take
          (cbcEmitted hold consumed)
      let res :=
        aesHwCryptCbc ⟨some dev, aesDevice sw hold faults⟩ ctx mode length iv input output mem w
      res.1.ret ≠ 0 ∧ res.1.mem = writeBytes output bytes mem := by
  intro consumed bytes res
  have hne : ¬(ioctlsAnswer faults w dev (uint32 length)
      ∧ ((aesTransducer sw (sp38aInitOp .cbc (hwParams ctx (mode = .encrypt) iv))).output
          (readBytes mem input (uint32 length))).length = length) := by
    rw [aesTransducer_cbc hkeyed, Transducer.length_output_ofChain, length_readBytes]
    simp only [hwSucceeds, Bool.decide_and, Bool.decide_eq_true, Bool.and_eq_true,
      decide_eq_true_eq] at hfail
    rintro ⟨hanswer, hblocks⟩
    apply hfail
    refine ⟨hanswer, ?_⟩
    unfold uint32 at hblocks ⊢
    omega
  have hhw := aesHwCryptSp38a_failure hkeyed (.inl rfl) (mode = .encrypt) iv hold h mem hne
  rw [aesTransducer_cbc hkeyed] at hhw
  obtain ⟨hret, hmem⟩ := hhw
  dsimp only [res]
  unfold aesHwCryptCbc
  dsimp only
  rw [if_pos hret]
  refine ⟨hret, ?_⟩
  rw [hmem]
  unfold Transducer.given
  rw [Transducer.emitted_ofChain]
  rw [length_readBytes]
  simp [Transducer.ofChain, bytes, consumed, cbcEmitted]

include hkeyed in
theorem mbedtlsAesCryptCbc_badLength (hlen : ¬length % 16 = 0) (h : Overlay input output length)
    (mem : Memory) (dev : Option DrvPufsInst)
    : (mbedtlsAesCryptCbc ⟨dev, aesDevice sw hold faults⟩ ctx mode length iv input output mem w).ret
        = errAesInvalidInputLength := by
  have hsw : ∀ mem, (swCryptCbc sw ctx.sw mode length iv input output mem).ret
      = errAesInvalidInputLength := by
    intro mem
    unfold swCryptCbc
    rw [if_pos hlen]
  unfold mbedtlsAesCryptCbc
  split
  . cases dev with
    | none =>
      rw [aesHwCryptCbc_none]
      exact hsw mem
    | some d =>
      -- The device only ever gives out whole blocks, so that the length check of the port fails.
      have hne : ¬(ioctlsAnswer faults w d (uint32 length)
          ∧ ((aesTransducer sw (sp38aInitOp .cbc (hwParams ctx (mode = .encrypt) iv))).output
              (readBytes mem input (uint32 length))).length = length) := by
        rw [aesTransducer_cbc hkeyed, Transducer.length_output_ofChain, length_readBytes]
        omega
      have hhw := aesHwCryptSp38a_failure hkeyed (.inl rfl) (mode = .encrypt) iv hold h mem hne
      unfold aesHwCryptCbc
      dsimp only
      rw [if_pos hhw.1]
      dsimp only
      rw [if_neg hhw.1]
      exact hsw _
  . exact hsw mem

include hkeyed in
theorem mbedtlsAesCryptCbc_eq (hlen : length % 16 = 0) (h : Overlay input output length)
    (mem : Memory) (dev : Option DrvPufsInst)
    (hclean : output = input → mbedtlsPufsAesHwThreshold ≤ length →
      ∀ d, dev = some d → leavesInput (cbcEmitted hold) faults w d length)
    : mbedtlsAesCryptCbc ⟨dev, aesDevice sw hold faults⟩ ctx mode length iv input output mem w
        = swCryptCbc sw ctx.sw mode length iv input output mem := by
  rw [swCryptCbc_eq ctx.sw mode hlen h]
  unfold mbedtlsAesCryptCbc
  by_cases hhw : mbedtlsPufsAesHwThreshold ≤ length ∧ ctx.hasKey
  . rw [if_pos hhw]
    obtain ⟨hlong, -⟩ := hhw
    have hpos : 0 < length := by
      unfold mbedtlsPufsAesHwThreshold at hlong
      omega
    cases dev with
    | none =>
      rw [aesHwCryptCbc_none]
      dsimp only
      rw [if_neg (Int.neg_ne_zero.mpr Int.one_ne_zero)]
      rw [swCryptCbc_eq ctx.sw mode hlen h]
    | some d =>
      by_cases hsucc : hwSucceeds faults w d length
      . obtain ⟨hret, hmem, hiv⟩ := aesHwCryptCbc_success hkeyed iv hold hlen hpos h mem hsucc
        dsimp only
        rw [if_pos hret]
        rw [hmem, hiv]
      . obtain ⟨hret, hmem⟩ := aesHwCryptCbc_failure hkeyed iv hold hlen h mem hsucc
        dsimp only
        rw [if_neg hret]
        rw [hmem]
        rw [swCryptCbc_eq ctx.sw mode hlen h]
        have hle : attempted faults w d (uint32 length) ≤ length :=
          Nat.le_trans (attempted_le faults w d (uint32 length)) (Nat.mod_le _ _)
        rw [readBytes_leftover h]
        . rw [writeBytes_writeBytes_of_le]
          simp
          omega
        . simp
          omega
        . intro hsame
          obtain hgood | hnone := hclean hsame hlong d rfl
          . exact absurd hgood hsucc
          . rw [hnone]
            rfl
  . rw [if_neg hhw]
    rw [swCryptCbc_eq ctx.sw mode hlen h]

end

end Mbedtls

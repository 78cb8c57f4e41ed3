import RtsmartLib.Hal.Fft

/-!
This module contains that the FFT driver knows the sizes of its buffers however they have been resized, and that
a run stays inside them.
-/

namespace Fft

open Lib Posix

structure BufferSound (buffer : FftBuffer) : Prop where
  mapped : buffer.mapping.isSome = true
  size : buffer.map.size = buffer.allocSize.toNat

structure InstSound (inst : DrvFftInst) : Prop where
  input : BufferSound inst.input
  output : BufferSound inst.output

def InBounds (inst : DrvFftInst) (access : Access) : Prop :=
  match access.side with
  | .input => access.offset + access.length ≤ inst.input.map.size
  | .output => access.offset + access.length ≤ inst.output.map.size

theorem BufferSound.resize {buffer : FftBuffer} (h : BufferSound buffer) (size : BitVec 32)
    (answer : MmzAnswer)
    : BufferSound (drvFftResizeBuffer buffer size answer).2 := by
  unfold drvFftResizeBuffer
  split
  . exact h
  . split
    . exact h
    . cases answer with
      | error ret => exact h
      | ok bytes => exact ⟨rfl, rfl⟩

theorem BufferSound.store {buffer : FftBuffer} (h : BufferSound buffer) (bytes : Memory)
    : BufferSound (buffer.store bytes) := by
  obtain ⟨m, hm⟩ := Option.isSome_iff_exists.mp h.mapped
  have hsize := h.size
  unfold FftBuffer.map at hsize
  rw [hm] at hsize
  constructor
  . simp [FftBuffer.store, hm]
  . simpa [FftBuffer.store, FftBuffer.map, hm] using hsize

theorem resize_new_sound {size : BitVec 32} {answer : MmzAnswer}
    (h : (drvFftResizeBuffer ⟨none, size⟩ size answer).1 = 0)
    : BufferSound (drvFftResizeBuffer ⟨none, size⟩ size answer).2 := by
  unfold drvFftResizeBuffer at h ⊢
  split at h
  . cases h
  next hsize =>
    rw [if_neg hsize]
    cases answer with
    | error ret => exact absurd h ret.property
    | ok bytes => exact ⟨rfl, rfl⟩

theorem drvFftOpen_sound {answers : OpenAnswers} {inst : DrvFftInst}
    (h : drvFftOpen answers = (0, some inst))
    : InstSound inst := by
  unfold drvFftOpen at h
  split at h
  . cases congrArg Prod.snd h
  split at h
  . cases congrArg Prod.snd h
  dsimp only at h
  split at h
  . cases congrArg Prod.snd h
  next hinput =>
    split at h
    . cases congrArg Prod.snd h
    next houtput =>
      cases congrArg Prod.snd h
      exact ⟨resize_new_sound (not_not.mp hinput), resize_new_sound (not_not.mp houtput)⟩

theorem pointValid_toNat {point : BitVec 32} (h : drvFftPointValid point = true)
    : ∃ k ≤ 512, point.toNat = 8 * k := by
  unfold drvFftPointValid at h
  split at h
  . exact ⟨8, by decide⟩
  . exact ⟨16, by decide⟩
  . exact ⟨32, by decide⟩
  . exact ⟨64, by decide⟩
  . exact ⟨128, by decide⟩
  . exact ⟨256, by decide⟩
  . exact ⟨512, by decide⟩
  . cases h

/-
A configuration and vectors that the checks let through.
-/
structure Accepted (cfg : DrvFftCfg) (v : Vectors) : Prop where
  point : ∃ k ≤ 512, cfg.point.toNat = 8 * k
  inputMode : cfg.inputMode = riri ∨ cfg.inputMode = rrrr ∨ cfg.inputMode = rrIi

theorem inputMode_cases {mode : BitVec 32} (h : mode ≤ rrIi) : mode = riri ∨ mode = rrrr ∨ mode = rrIi := by
  have hle : mode.toNat ≤ 2 := h
  have hcases : mode.toNat = 0 ∨ mode.toNat = 1 ∨ mode.toNat = 2 := by omega
  rcases hcases with hmode | hmode | hmode
  . exact Or.inl (BitVec.eq_of_toNat_eq hmode)
  . exact Or.inr (Or.inl (BitVec.eq_of_toNat_eq hmode))
  . exact Or.inr (Or.inr (BitVec.eq_of_toNat_eq hmode))

theorem accepted_of_validate {cfg : DrvFftCfg} {v : Vectors} (h : drvFftValidate (some cfg) v = 0)
    : Accepted cfg v := by
  unfold drvFftValidate at h
  dsimp only at h
  split at h
  . cases h
  split at h
  . cases h
  next hpoint =>
    split at h
    . cases h
    next hmodes =>
      rw [Bool.not_eq_true', Bool.not_eq_false] at hpoint
      constructor
      . exact pointValid_toNat hpoint
      . rw [not_or, not_or] at hmodes
        have hinput := BitVec.not_lt.mp hmodes.2.1
        exact inputMode_cases hinput

theorem toNat_outputBytes {cfg : DrvFftCfg} {v : Vectors} (h : Accepted cfg v)
    : (drvFftOutputBytes cfg).toNat = 4 * cfg.point.toNat := by
  obtain ⟨k, hk, hpoint⟩ := h.point
  unfold drvFftOutputBytes
  have htwo : (2 : BitVec 32).toNat = 2 := rfl
  rw [BitVec.toNat_mul, BitVec.toNat_mul, htwo, hpoint]
  omega

theorem toNat_inputBytes {cfg : DrvFftCfg} {v : Vectors} (h : Accepted cfg v)
    : (drvFftInputBytes cfg).toNat =
        if cfg.inputMode = rrrr then 2 * cfg.point.toNat else 4 * cfg.point.toNat := by
  have hbytes := toNat_outputBytes h
  unfold drvFftOutputBytes at hbytes
  unfold drvFftInputBytes
  dsimp only
  split
  . have htwo : (2 : BitVec 32).toNat = 2 := rfl
    rw [BitVec.toNat_udiv, hbytes, htwo]
    omega
  . exact hbytes

theorem length_storeWord (index : Nat) (value : BitVec 64) : (storeWord index value).2.length = 8 := by
  unfold storeWord
  exact Layout.word64.write_length value

theorem length_copySamples (offset point : Nat) (src : Samples)
    : (copySamples offset point src).2.length = 2 * point := by
  unfold copySamples
  dsimp only
  rw [Layout.writeAll_length, List.length_map, List.length_range, Nat.mul_comm]
  rfl

theorem packInput_inBounds {cfg : DrvFftCfg} {v : Vectors} (h : Accepted cfg v) (inReal inImag : Samples)
    : ∀ w ∈ drvFftPackInput cfg inReal inImag, w.1 + w.2.length ≤ (drvFftInputBytes cfg).toNat := by
  rw [toNat_inputBytes h]
  obtain ⟨k, hk, hpoint⟩ := h.point
  unfold drvFftPackInput
  dsimp only
  rw [hpoint]
  rcases h.inputMode with hmode | hmode | hmode
  . rw [if_pos hmode, if_neg (by rw [hmode]; decide)]
    simp only [List.forall_mem_map, indices, List.mem_range]
    intro i hi
    rw [length_storeWord]
    dsimp only [storeWord]
    omega
  . rw [if_neg (by rw [hmode]; decide), if_pos hmode, if_pos hmode]
    simp only [List.forall_mem_singleton, length_copySamples]
    dsimp only [copySamples]
    omega
  . rw [if_neg (by rw [hmode]; decide), if_neg (by rw [hmode]; decide), if_pos hmode,
      if_neg (by rw [hmode]; decide)]
    simp only [List.mem_cons, List.not_mem_nil, or_false, forall_eq_or_imp, forall_eq, length_copySamples]
    dsimp only [copySamples]
    omega

theorem foldl_pair_reads (src : Memory) (n : Nat) (u : Unpacked)
    : ((List.range n).foldl (Unpacked.pair src) u).reads =
        u.reads ++ (List.range n).map fun index => (index * 8, 8) := by
  induction n with
  | zero => simp
  | succ n ih =>
    rw [List.range_succ, List.foldl_append, List.map_append, ← List.append_assoc, ← ih]
    rfl

theorem unpackOutput_inBounds {cfg : DrvFftCfg} {v : Vectors} (h : Accepted cfg v) (src : Memory)
    (outReal outImag : Samples)
    : ∀ r ∈ (drvFftUnpackOutput cfg src outReal outImag).reads,
        r.1 + r.2 ≤ (drvFftOutputBytes cfg).toNat := by
  rw [toNat_outputBytes h]
  unfold drvFftUnpackOutput
  dsimp only
  split
  . rw [foldl_pair_reads, List.nil_append]
    simp only [List.forall_mem_map, List.mem_range]
    intro i hi
    omega
  . simp only [List.mem_cons, List.not_mem_nil, or_false, forall_eq_or_imp, forall_eq]
    omega

/-
What a run that is not rejected is sure of.
-/
structure Admitted (inst : DrvFftInst) (cfg : DrvFftCfg) (v : Vectors) : Prop where
  accepted : Accepted cfg v
  input : drvFftInputBytes cfg ≤ inst.input.allocSize
  output : drvFftOutputBytes cfg ≤ inst.output.allocSize

def packAccesses (cfg : DrvFftCfg) (inReal inImag : Samples) : List Access :=
  (drvFftPackInput cfg inReal inImag).map (fun w => ⟨.input, w.1, w.2.length⟩)
    ++ [⟨.output, 0, (drvFftOutputBytes cfg).toNat⟩]

def unpackAccesses (u : Unpacked) : List Access :=
  u.reads.map fun r => ⟨.output, r.1, r.2⟩

/-
What the device leaves in the output buffer.
-/
def deviceOutput (inst : DrvFftInst) (cfg : DrvFftCfg) (inReal inImag : Samples) (answers : RunAnswers)
    : Memory :=
  answers.device ⟨cfg, drvFftInputBytes cfg, drvFftOutputBytes cfg⟩
    (applyWrites inst.input.map.bytes (drvFftPackInput cfg inReal inImag))
    (writeBytes 0 (List.replicate (drvFftOutputBytes cfg).toNat 0) inst.output.map.bytes)

inductive RunEnds (inst : DrvFftInst) (cfg : Option DrvFftCfg) (v : Vectors) (answers : RunAnswers)
    : RunResult → Prop where
  | rejected (ret : Int) (hret : ret ≠ 0) : RunEnds inst cfg v answers ⟨ret, inst, v.outReal, v.outImag, []⟩
  | failed (c : DrvFftCfg) (inReal inImag : Samples) (hadmitted : Admitted inst c v) (ret : Int)
      (hret : ret ≠ 0) (inst' : DrvFftInst) (hsound : InstSound inst → InstSound inst')
      (outReal outImag : Option Samples)
      : RunEnds inst cfg v answers ⟨ret, inst', outReal, outImag, packAccesses c inReal inImag⟩
  | done (c : DrvFftCfg) (hcfg : cfg = some c) (inReal : Samples) (hreal : v.inReal = some inReal)
      (hadmitted : Admitted inst c v) (inst' : DrvFftInst) (hsound : InstSound inst → InstSound inst')
      (outReal outImag : Samples) (inImag : Samples) (himag : inImag = v.inImag.getD fun _ => 0)
      (u : Unpacked)
      (hu : u = drvFftUnpackOutput c (deviceOutput inst c inReal inImag answers) outReal outImag)
      : RunEnds inst cfg v answers
          ⟨0, inst', some u.outReal, some u.outImag, packAccesses c inReal inImag ++ unpackAccesses u⟩

theorem InstSound.store {inst : DrvFftInst} (h : InstSound inst) (input output : Memory)
    : InstSound { inst with input := inst.input.store input, output := inst.output.store output } :=
  ⟨h.input.store input, h.output.store output⟩

theorem drvFftRun_ends (inst : DrvFftInst) (cfg : Option DrvFftCfg) (v : Vectors) (answers : RunAnswers)
    : RunEnds inst cfg v answers (drvFftRun inst cfg v answers) := by
  unfold drvFftRun
  dsimp only
  split
  . exact .rejected _ (by decide)
  split
  next hret => exact .rejected _ hret
  next hret =>
    rw [not_not] at hret
    split
    next c inReal outReal outImag hreal houtReal houtImag =>
      have haccepted := accepted_of_validate hret
      split
      . exact .rejected _ (by decide)
      next hfits =>
        rw [not_or, gt_iff_lt, gt_iff_lt, BitVec.not_lt, BitVec.not_lt] at hfits
        have hadmitted : Admitted inst c v := ⟨haccepted, hfits.1, hfits.2⟩
        split
        next hflush => exact .failed c _ _ hadmitted _ hflush _ (fun h => h.store _ _) _ _
        split
        next hflush => exact .failed c _ _ hadmitted _ hflush _ (fun h => h.store _ _) _ _
        split
        next hioctl =>
          refine .failed c _ _ hadmitted _ ?_ _ (fun h => h.store _ _) _ _
          split <;> omega
        split
        next hinvalidate =>
          refine .failed c _ _ hadmitted _ hinvalidate _ (fun h => ?_) _ _
          exact ⟨h.input.store _, (h.output.store _).store _⟩
        . refine .done c rfl inReal hreal hadmitted _ (fun h => ?_) outReal outImag _ rfl _ rfl
          exact ⟨h.input.store _, (h.output.store _).store _⟩
    . exact .rejected _ (by decide)

theorem pack_inBounds {inst : DrvFftInst} (hinst : InstSound inst) {cfg : DrvFftCfg} {v : Vectors}
    (h : Admitted inst cfg v) (inReal inImag : Samples)
    : ∀ access ∈ packAccesses cfg inReal inImag, InBounds inst access := by
  have hinput : (drvFftInputBytes cfg).toNat ≤ inst.input.map.size := by
    rw [hinst.input.size]
    exact h.input
  have houtput : (drvFftOutputBytes cfg).toNat ≤ inst.output.map.size := by
    rw [hinst.output.size]
    exact h.output
  unfold packAccesses
  simp only [List.forall_mem_append, List.forall_mem_map, List.forall_mem_singleton]
  constructor
  . intro w hw
    exact Nat.le_trans (packInput_inBounds h.accepted inReal inImag w hw) hinput
  . dsimp only [InBounds]
    omega

theorem unpack_inBounds {inst : DrvFftInst} (hinst : InstSound inst) {cfg : DrvFftCfg} {v : Vectors}
    (h : Admitted inst cfg v) (src : Memory) (outReal outImag : Samples)
    : ∀ access ∈ unpackAccesses (drvFftUnpackOutput cfg src outReal outImag), InBounds inst access := by
  have houtput : (drvFftOutputBytes cfg).toNat ≤ inst.output.map.size := by
    rw [hinst.output.size]
    exact h.output
  unfold unpackAccesses
  simp only [List.forall_mem_map]
  intro r hr
  exact Nat.le_trans (unpackOutput_inBounds h.accepted src outReal outImag r hr) houtput

theorem RunEnds.inBounds {inst : DrvFftInst} (hinst : InstSound inst) {cfg : Option DrvFftCfg} {v : Vectors}
    {answers : RunAnswers} {r : RunResult} (h : RunEnds inst cfg v answers r)
    : ∀ access ∈ r.accesses, InBounds inst access := by
  cases h with
  | rejected ret hret => nofun
  | failed c inReal inImag hadmitted => exact pack_inBounds hinst hadmitted inReal inImag
  | done c hcfg inReal hreal hadmitted inst' hsound outReal outImag inImag himag u hu =>
    rw [List.forall_mem_append]
    constructor
    . exact pack_inBounds hinst hadmitted inReal inImag
    . rw [hu]
      exact unpack_inBounds hinst hadmitted _ outReal outImag

theorem RunEnds.sound {inst : DrvFftInst} (hinst : InstSound inst) {cfg : Option DrvFftCfg} {v : Vectors}
    {answers : RunAnswers} {r : RunResult} (h : RunEnds inst cfg v answers r)
    : InstSound r.inst := by
  cases h with
  | rejected ret hret => exact hinst
  | failed c inReal inImag hadmitted ret hret inst' hsound => exact hsound hinst
  | done c hcfg inReal hreal hadmitted inst' hsound => exact hsound hinst

end Fft

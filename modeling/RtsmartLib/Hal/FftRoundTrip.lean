import RtsmartLib.Hal.FftBuffers

/-!
This module contains the round trip of samples through the FFT driver over a device that copies its input, and
what holds of the driver over all runs.
-/

namespace Fft

open Lib Posix

def copyDevice (req : KFftRunRequest) (input output : Memory) : Memory :=
  writeBytes 0 (readBytes input 0 req.inputLen.toNat) output

def ModesMatch (cfg : DrvFftCfg) : Prop :=
  (cfg.inputMode = riri ∧ cfg.outputMode = ririOut) ∨ (cfg.inputMode = rrIi ∧ cfg.outputMode = rrIiOut)

abbrev FftVisit := Machine.Visit DrvFftInst FftOp FftObs

/--
What is packed, cleared and unpacked lies inside the buffers, and a run that succeeds over a device which
copies its input, in the same layout on both sides, returns the vectors that it has been given.
-/
structure FftRight (v : FftVisit) : Prop where
  inBounds : ∀ access ∈ v.obs.accesses, InBounds v.pre access
  copies : ∀ cfg vectors answers inReal inImag, v.event = .run (some cfg) vectors answers →
    vectors.inReal = some inReal → vectors.inImag = some inImag → answers.device = copyDevice →
    ModesMatch cfg → v.obs.ret = 0 →
    ∃ outReal outImag, v.obs.outReal = some outReal ∧ v.obs.outImag = some outImag
      ∧ ∀ i < cfg.point.toNat, outReal i = inReal i ∧ outImag i = inImag i

theorem setWidth_and_mask (x : BitVec 64) : (x &&& 0xffff).setWidth 16 = x.setWidth 16 := by
  have hmask : (0xffff : BitVec 64).setWidth 16 = BitVec.allOnes 16 := by decide
  rw [BitVec.setWidth_and, hmask, BitVec.and_allOnes]

section

variable (d c b a : BitVec 16)

theorem packWord_lane0 : (packWord d c b a).setWidth 16 = a := by
  unfold packWord
  ext i hi
  simp

theorem packWord_lane1 : (packWord d c b a >>> 16).setWidth 16 = b := by
  unfold packWord
  ext i hi
  simp only [BitVec.getElem_setWidth, BitVec.getLsbD_ushiftRight, BitVec.getLsbD_or, BitVec.getLsbD_shiftLeft,
    BitVec.getLsbD_setWidth]
  grind

theorem packWord_lane2 : (packWord d c b a >>> 32).setWidth 16 = c := by
  unfold packWord
  ext i hi
  simp only [BitVec.getElem_setWidth, BitVec.getLsbD_ushiftRight, BitVec.getLsbD_or, BitVec.getLsbD_shiftLeft,
    BitVec.getLsbD_setWidth]
  grind

theorem packWord_lane3 : (packWord d c b a >>> 48).setWidth 16 = d := by
  unfold packWord
  ext i hi
  simp only [BitVec.getElem_setWidth, BitVec.getLsbD_ushiftRight, BitVec.getLsbD_or, BitVec.getLsbD_shiftLeft,
    BitVec.getLsbD_setWidth]
  grind

end

/-
The word that holds two samples, with the later ones above.
-/
def pairWord (inReal inImag : Samples) (i : Nat) : BitVec 64 :=
  packWord (inImag (i * 2 + 1)) (inReal (i * 2 + 1)) (inImag (i * 2)) (inReal (i * 2))

theorem packInput_riri {cfg : DrvFftCfg} (hmode : cfg.inputMode = riri) {n : Nat}
    (hpoint : cfg.point.toNat = n * 2) (inReal inImag : Samples) (mem : Memory)
    : applyWrites mem (drvFftPackInput cfg inReal inImag) =
        writeBytes 0 (Layout.word64.writeAll ((List.range n).map (pairWord inReal inImag))) mem := by
  have hcount : (n * 2 + 2 - 1) / 2 = n := by omega
  unfold drvFftPackInput applyWrites indices
  dsimp only
  rw [if_pos hmode, hpoint, hcount, List.map_map, List.foldl_map, ← Layout.foldl_writeBytes]
  congr 1
  funext mem i
  dsimp only [Function.comp_apply, storeWord]
  rw [Nat.mul_div_cancel i (by decide), Nat.zero_add]
  rfl

/-
The words below the last one are not touched any more.
-/
theorem foldl_pair_samples (src : Memory) (n : Nat) (u : Unpacked) {i : Nat} (hi : i < n)
    : let word := Layout.word64.load src (i * 8)
      let r := (List.range n).foldl (Unpacked.pair src) u
      r.outReal (i * 2) = word.setWidth 16 ∧ r.outImag (i * 2) = (word >>> 16).setWidth 16
        ∧ r.outReal (i * 2 + 1) = (word >>> 32).setWidth 16
        ∧ r.outImag (i * 2 + 1) = (word >>> 48).setWidth 16 := by
  induction n with
  | zero => omega
  | succ n ih =>
    rw [List.range_succ, List.foldl_append]
    dsimp only [List.foldl_cons, List.foldl_nil]
    generalize (List.range n).foldl (Unpacked.pair src) u = r at ih
    unfold Unpacked.pair
    dsimp only
    simp only [setWidth_and_mask]
    by_cases hlast : i = n
    . subst hlast
      refine ⟨?_, ?_, ?_, ?_⟩
      . rw [Function.update_of_ne (by omega), Function.update_self]
      . rw [Function.update_of_ne (by omega), Function.update_self]
      . rw [Function.update_self]
      . rw [Function.update_self]
    . obtain ⟨hreal, himag, hreal', himag'⟩ := ih (by omega)
      refine ⟨?_, ?_, ?_, ?_⟩
      . rw [Function.update_of_ne (by omega), Function.update_of_ne (by omega)]
        exact hreal
      . rw [Function.update_of_ne (by omega), Function.update_of_ne (by omega)]
        exact himag
      . rw [Function.update_of_ne (by omega), Function.update_of_ne (by omega)]
        exact hreal'
      . rw [Function.update_of_ne (by omega), Function.update_of_ne (by omega)]
        exact himag'

theorem toNat_inputBytes_of_ne {cfg : DrvFftCfg} {v : Vectors} (h : Accepted cfg v) (hmode : cfg.inputMode ≠ rrrr)
    : (drvFftInputBytes cfg).toNat = 4 * cfg.point.toNat := by
  rw [toNat_inputBytes h, if_neg hmode]

theorem packInput_rrIi {cfg : DrvFftCfg} (hmode : cfg.inputMode = rrIi) (inReal inImag : Samples)
    (mem : Memory)
    : applyWrites mem (drvFftPackInput cfg inReal inImag) =
        writeBytes (cfg.point.toNat * 2)
          (Layout.word16.writeAll ((List.range cfg.point.toNat).map inImag))
          (writeBytes 0 (Layout.word16.writeAll ((List.range cfg.point.toNat).map inReal)) mem) := by
  unfold drvFftPackInput
  dsimp only
  rw [if_neg (by rw [hmode]; decide), if_neg (by rw [hmode]; decide), if_pos hmode]
  rfl

theorem load_writeAll_range {α : Type} (l : Layout α) (f : Nat → α) (base : Nat) (mem : Memory) {n i : Nat}
    (hi : i < n)
    : l.load (writeBytes base (l.writeAll ((List.range n).map f)) mem) (base + i * l.size) = f i := by
  have hindex : i < ((List.range n).map f).length := by
    rw [List.length_map, List.length_range]
    exact hi
  rw [l.load_writeAll base mem hindex, List.getElem_map, List.getElem_range]

section

variable {inst : DrvFftInst} {cfg : DrvFftCfg} {v : Vectors} {answers : RunAnswers}
  (hdevice : answers.device = copyDevice) (h : Accepted cfg v) (inReal inImag : Samples)
include hdevice

/-
What the unpacking finds is what has been packed.
-/
theorem load_deviceOutput {α : Type} (l : Layout α) {offset : Nat}
    (hend : offset + l.size ≤ (drvFftInputBytes cfg).toNat)
    : l.load (deviceOutput inst cfg inReal inImag answers) offset =
        l.load (applyWrites inst.input.map.bytes (drvFftPackInput cfg inReal inImag)) offset := by
  unfold deviceOutput
  rw [hdevice, copyDevice]
  apply l.load_writeBytes_readBytes (Nat.zero_le _)
  rw [Nat.zero_add]
  exact hend

include h

theorem load_pairWord (hinput : cfg.inputMode = riri) {n i : Nat} (hpoint : cfg.point.toNat = n * 2)
    (hi : i < n)
    : Layout.word64.load (deviceOutput inst cfg inReal inImag answers) (i * 8) = pairWord inReal inImag i := by
  have hsize : Layout.word64.size = 8 := rfl
  have hlength := toNat_inputBytes_of_ne h (by rw [hinput]; decide)
  rw [load_deviceOutput hdevice inReal inImag Layout.word64 (by omega), packInput_riri hinput hpoint]
  have hload := load_writeAll_range Layout.word64 (pairWord inReal inImag) 0 inst.input.map.bytes hi
  rw [Nat.zero_add, hsize] at hload
  exact hload

theorem load_real (hinput : cfg.inputMode = rrIi) {i : Nat} (hi : i < cfg.point.toNat)
    : Layout.word16.load (deviceOutput inst cfg inReal inImag answers) (0 + i * 2) = inReal i := by
  have hsize : Layout.word16.size = 2 := rfl
  have hlength := toNat_inputBytes_of_ne h (by rw [hinput]; decide)
  rw [load_deviceOutput hdevice inReal inImag Layout.word16 (by omega), packInput_rrIi hinput,
    Layout.load_writeBytes_apart _ (Or.inl (by omega))]
  have hload := load_writeAll_range Layout.word16 inReal 0 inst.input.map.bytes hi
  rw [hsize] at hload
  exact hload

theorem load_imag (hinput : cfg.inputMode = rrIi) {i : Nat} (hi : i < cfg.point.toNat)
    : Layout.word16.load (deviceOutput inst cfg inReal inImag answers) (cfg.point.toNat * 2 + i * 2) =
        inImag i := by
  have hsize : Layout.word16.size = 2 := rfl
  have hlength := toNat_inputBytes_of_ne h (by rw [hinput]; decide)
  rw [load_deviceOutput hdevice inReal inImag Layout.word16 (by omega), packInput_rrIi hinput]
  have hload := load_writeAll_range Layout.word16 inImag (cfg.point.toNat * 2)
    (writeBytes 0 (Layout.word16.writeAll ((List.range cfg.point.toNat).map inReal)) inst.input.map.bytes) hi
  rw [hsize] at hload
  exact hload

theorem roundTrip_riri (hinput : cfg.inputMode = riri) (houtput : cfg.outputMode = ririOut)
    (outReal outImag : Samples)
    : let u := drvFftUnpackOutput cfg (deviceOutput inst cfg inReal inImag answers) outReal outImag
      ∀ i < cfg.point.toNat, u.outReal i = inReal i ∧ u.outImag i = inImag i := by
  obtain ⟨k, hk, hpoint⟩ := h.point
  intro u i hi
  have hhalf : cfg.point.toNat / 2 = k * 4 := by omega
  have hu : u = (List.range (k * 4)).foldl
      (Unpacked.pair (deviceOutput inst cfg inReal inImag answers)) ⟨outReal, outImag, []⟩ := by
    rw [← hhalf]
    exact if_pos houtput
  have hlt : i / 2 < k * 4 := by omega
  have hsamples := foldl_pair_samples (deviceOutput inst cfg inReal inImag answers) (k * 4)
    ⟨outReal, outImag, []⟩ hlt
  rw [← hu] at hsamples
  dsimp only at hsamples
  rw [load_pairWord hdevice h inReal inImag hinput (by omega) hlt, pairWord, packWord_lane0, packWord_lane1,
    packWord_lane2, packWord_lane3] at hsamples
  obtain ⟨hreal, himag, hreal', himag'⟩ := hsamples
  -- A sample with an even index lies in the lower half of its word.
  rcases Nat.mod_two_eq_zero_or_one i with heven | hodd
  . have hi : i / 2 * 2 = i := by omega
    rw [hi] at hreal himag
    exact ⟨hreal, himag⟩
  . have hi : i / 2 * 2 + 1 = i := by omega
    rw [hi] at hreal' himag'
    exact ⟨hreal', himag'⟩

theorem roundTrip_rrIi (hinput : cfg.inputMode = rrIi) (houtput : cfg.outputMode = rrIiOut)
    (outReal outImag : Samples)
    : let u := drvFftUnpackOutput cfg (deviceOutput inst cfg inReal inImag answers) outReal outImag
      ∀ i < cfg.point.toNat, u.outReal i = inReal i ∧ u.outImag i = inImag i := by
  intro u i hi
  have hu : u = ⟨loadSamples (deviceOutput inst cfg inReal inImag answers) 0 cfg.point.toNat outReal,
      loadSamples (deviceOutput inst cfg inReal inImag answers) (cfg.point.toNat * 2) cfg.point.toNat outImag,
      [(0, cfg.point.toNat * 2), (cfg.point.toNat * 2, cfg.point.toNat * 2)]⟩ := by
    apply if_neg
    rw [houtput]
    decide
  rw [hu]
  unfold loadSamples
  dsimp only
  rw [if_pos hi, if_pos hi]
  exact ⟨load_real hdevice h inReal inImag hinput hi, load_imag hdevice h inReal inImag hinput hi⟩

end

theorem run_copies {inst : DrvFftInst} {cfg : DrvFftCfg} (hmodes : ModesMatch cfg) {v : Vectors}
    {answers : RunAnswers} (hdevice : answers.device = copyDevice) {inReal inImag : Samples}
    (hreal : v.inReal = some inReal) (himag : v.inImag = some inImag) {r : RunResult}
    (h : RunEnds inst (some cfg) v answers r) (hret : r.ret = 0)
    : ∃ outReal outImag, r.outReal = some outReal ∧ r.outImag = some outImag
        ∧ ∀ i < cfg.point.toNat, outReal i = inReal i ∧ outImag i = inImag i := by
  cases h with
  | rejected ret hne => exact absurd hret hne
  | failed c inReal' inImag' hadmitted ret hne => exact absurd hret hne
  | done c hcfg inReal' hreal' hadmitted inst' hsound outReal outImag inImag' himag' u hu =>
    cases hcfg
    rw [hreal, Option.some.injEq] at hreal'
    rw [himag, Option.getD_some] at himag'
    subst hreal' himag' hu
    refine ⟨_, _, rfl, rfl, ?_⟩
    cases hmodes with
    | inl hmodes =>
      exact roundTrip_riri hdevice hadmitted.accepted inReal _ hmodes.1 hmodes.2 outReal outImag
    | inr hmodes =>
      exact roundTrip_rrIi hdevice hadmitted.accepted inReal _ hmodes.1 hmodes.2 outReal outImag

theorem fftMachine_step_sound {inst : DrvFftInst} (h : InstSound inst) (op : FftOp)
    : InstSound (fftMachine.step inst op).1 := by
  cases op with
  | setInputAllocSize size answer =>
    dsimp only [fftMachine]
    unfold drvFftSetInputAllocSize
    split
    . exact h
    . exact ⟨h.input.resize size answer, h.output⟩
  | setOutputAllocSize size answer =>
    dsimp only [fftMachine]
    unfold drvFftSetOutputAllocSize
    split
    . exact h
    . exact ⟨h.input, h.output.resize size answer⟩
  | run cfg v answers => exact (drvFftRun_ends inst cfg v answers).sound h

theorem fftMachine_visit_right {inst : DrvFftInst} (h : InstSound inst) (op : FftOp)
    : FftRight (fftMachine.visit inst op) := by
  cases op with
  | setInputAllocSize size answer =>
    constructor
    . intro access haccess
      cases haccess
    . intro c vectors answers inReal inImag hevent
      cases hevent
  | setOutputAllocSize size answer =>
    constructor
    . intro access haccess
      cases haccess
    . intro c vectors answers inReal inImag hevent
      cases hevent
  | run cfg v answers =>
    have hends := drvFftRun_ends inst cfg v answers
    constructor
    . exact hends.inBounds h
    . intro c vectors answers' inReal inImag hevent hreal himag hdevice hmodes hret
      cases hevent
      exact run_copies hmodes hdevice hreal himag hends hret

theorem fft_visits_right {answers : OpenAnswers} {inst : DrvFftInst}
    (hopen : drvFftOpen answers = (0, some inst)) (ops : List FftOp)
    : ∀ v ∈ fftMachine.visits inst ops, FftRight v := by
  have hstep : ∀ inst op, True → InstSound inst → InstSound (fftMachine.step inst op).1 :=
    fun _ op _ h => fftMachine_step_sound h op
  have hright : ∀ inst op, True → InstSound inst → FftRight (fftMachine.visit inst op) :=
    fun _ op _ h => fftMachine_visit_right h op
  exact Machine.forall_visits_of_inv InstSound (fun _ => True) hstep hright (drvFftOpen_sound hopen)
    (fun _ _ => trivial)

def exampleOpen : OpenAnswers := ⟨true, 3, 0, .ok fun _ => 0, .ok fun _ => 0⟩

def exampleInst : DrvFftInst :=
  ⟨3, ⟨some ⟨16384, fun _ => 0⟩, 16384⟩, ⟨some ⟨16384, fun _ => 0⟩, 16384⟩⟩

def exampleRun : FftOp :=
  .run (some ⟨64, fftMode, riri, ririOut, 0, 0⟩)
    ⟨some fun i => BitVec.ofNat 16 i, some fun i => BitVec.ofNat 16 (2 * i), some fun _ => 0, some fun _ => 0⟩
    ⟨0, 0, 0, 0, copyDevice, 0⟩

theorem fft_visits_right_riri
    : FftRight (fftMachine.visit exampleInst exampleRun) ∧ (fftMachine.visit exampleInst exampleRun).obs.ret = 0 :=
  ⟨fft_visits_right (show drvFftOpen exampleOpen = (0, some exampleInst) from rfl) [exampleRun] _
    (List.mem_singleton_self _), by decide⟩

end Fft

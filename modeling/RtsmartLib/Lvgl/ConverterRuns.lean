import RtsmartLib.Lvgl.Converter

/-!
This module contains what the converter holds: that each conversion gives back all but what the converter keeps, that
nothing is left after the end, and that the copies stay within what is mapped.
-/

namespace Lvgl

open Lib

def mapResources (map : CscBufferMap) (frameSize : Nat) : List ConverterResource :=
  map.virt.toList.map fun virt => .mapping virt frameSize

def resourceIf (held : Bool) (resource : ConverterResource) : List ConverterResource :=
  if held then [resource] else []

def ImageConverter.channelResources (converter : ImageConverter) : List ConverterResource :=
  resourceIf converter.channelStarted (.started converter.channel)
    ++ resourceIf converter.poolAttached (.attachment converter.channel)
    ++ resourceIf converter.channelCreated (.created converter.channel)
    ++ converter.poolId.toList.map .pool
    ++ resourceIf converter.channelRequested (.channel converter.channel)
    ++ [.memory]

def ImageConverter.resources (converter : ImageConverter) : List ConverterResource :=
  (converter.outputFrame.toList.map fun frame => .frame frame.physAddr)
    ++ (mapResources converter.maps.1 converter.frameSize
      ++ (mapResources converter.maps.2 converter.frameSize ++ converter.channelResources))

def ImageConverter.held (converter : ImageConverter) : Multiset ConverterResource :=
  converter.resources

def gsdmaHeld (inited : Bool) : Multiset ConverterResource :=
  if inited then {.gsdma} else 0

def CscState.held (s : CscState) : Multiset ConverterResource :=
  s.converter.elim 0 ImageConverter.held + gsdmaHeld s.gsdmaInited

section Ledger

variable {converter : ImageConverter} {rest : Multiset ConverterResource}

theorem releaseIf_eq (held : Bool) (resource : ConverterResource)
    : releaseIf held resource = (resourceIf held resource).map .release := by
  cases held <;> rfl

theorem converterDelete_eq (converter : ImageConverter)
    : converterDelete converter = converter.resources.map .release := by
  simp only [converterDelete, converterReleaseOutput, releaseMap, releaseIf_eq, ImageConverter.resources,
    ImageConverter.channelResources, mapResources, List.map_append, List.map_map, List.append_assoc]
  rfl

theorem settle_converterDelete (converter : ImageConverter) (rest : Multiset ConverterResource)
    : Ledger.settle (converter.held + rest) (converterDelete converter) = some rest := by
  rw [converterDelete_eq]
  apply Ledger.settle_release_all

theorem settle_converterReleaseOutput (converter : ImageConverter) (rest : Multiset ConverterResource)
    : Ledger.settle (converter.held + rest) (converterReleaseOutput converter).2
      = some ((converterReleaseOutput converter).1.held + rest) := by
  let released := (converterReleaseOutput converter).1
  let frames := converter.outputFrame.toList.map fun frame => ConverterResource.frame frame.physAddr
  have hheld : converter.held = (frames : Multiset ConverterResource) + released.held := by
    rw [ImageConverter.held, ImageConverter.held, Multiset.coe_add]
    rfl
  have hreleases : (converterReleaseOutput converter).2 = frames.map .release := by
    simp only [converterReleaseOutput, frames, List.map_map]
    rfl
  rw [hheld, hreleases, add_assoc]
  apply Ledger.settle_release_all

/-
Setting up a converter that has nothing but its memory.
-/
theorem settle_converterSetup {maxWidth maxHeight : Nat} (h : SizeFits maxWidth maxHeight) (calls : CreateCalls)
    (rest : Multiset ConverterResource)
    : let res := converterSetup (ImageConverter.blank h) calls
      Ledger.settle ({.memory} + rest) res.2.1 = some (res.1.held + rest) := by
  -- What is held is listed in the order in which it is given back.
  have hheld : ∀ converter : ImageConverter, ∀ rs : List ConverterResource,
      converter.resources.Perm (rs.reverse ++ [.memory])
      → Ledger.settle ({.memory} + rest) (rs.map .acquire) = some (converter.held + rest) := by
    intro converter rs hperm
    have hcoe : converter.held = (rs : Multiset ConverterResource) + {.memory} := by
      rw [ImageConverter.held, Multiset.coe_eq_coe.mpr hperm, ← Multiset.coe_add, Multiset.coe_reverse]
      rfl
    rw [Ledger.settle_acquire_all, hcoe, add_assoc]
  intro res
  simp only [res, converterSetup]
  cases calls.channel with
  | none => exact hheld _ [] (by rfl)
  | some channel =>
    cases calls.pool with
    | none => exact hheld _ [.channel channel] (by rfl)
    | some id =>
      cases calls.attach with
      | false => exact hheld _ [.channel channel, .pool id] (by rfl)
      | true =>
        cases calls.create with
        | false => exact hheld _ [.channel channel, .pool id, .attachment channel] (by rfl)
        | true =>
          cases calls.start with
          | false =>
            exact hheld _ [.channel channel, .pool id, .attachment channel, .created channel]
              (List.Perm.swap _ _ _)
          | true =>
            exact hheld _ [.channel channel, .pool id, .attachment channel, .created channel, .started channel]
              (List.Perm.cons _ (List.Perm.swap _ _ _))

theorem settle_converterCreate (maxWidth maxHeight : Nat) (calls : CreateCalls) (rest : Multiset ConverterResource)
    : let res := converterCreate maxWidth maxHeight calls
      Ledger.settle rest res.2 = some ((res.1.elim 0 ImageConverter.held) + rest) := by
  intro res
  simp only [res, converterCreate]
  split
  . next h =>
    split
    . simp
    . have hsetup := settle_converterSetup h calls rest
      split
      . exact hsetup
      . rw [List.cons_append, Ledger.settle_acquire_cons]
        have hsettled := Ledger.settle_seq hsetup (converterDelete (converterSetup (ImageConverter.blank h) calls).1)
        rw [settle_converterDelete] at hsettled
        rw [Option.elim_none, zero_add]
        exact hsettled
  . simp

theorem held_firstMap {phys virt : Nat} (h : converter.maps.1.virt = none)
    : ({ converter with maps := (⟨phys, some virt⟩, converter.maps.2) } : ImageConverter).held
      = .mapping virt converter.frameSize ::ₘ converter.held := by
  simp only [ImageConverter.held, ImageConverter.resources, mapResources, h, Multiset.cons_coe, Multiset.coe_eq_coe]
  apply List.perm_middle

theorem held_secondMap {phys virt : Nat} (h : converter.maps.2.virt = none)
    : ({ converter with maps := (converter.maps.1, ⟨phys, some virt⟩) } : ImageConverter).held
      = .mapping virt converter.frameSize ::ₘ converter.held := by
  simp only [ImageConverter.held, ImageConverter.resources, mapResources, h, Multiset.cons_coe, Multiset.coe_eq_coe]
  exact (List.Perm.append_left _ List.perm_middle).trans List.perm_middle

/-
An output that is mapped stays mapped, and what is new is held from then on.
-/
theorem mapOutput_held (converter : ImageConverter) (phys : Nat) (mmap : Option Nat)
    : let res := mapOutput converter phys mmap
      Ledger.settle (converter.held + rest) res.2.1 = some (res.1.held + rest)
        ∧ res.1.outputFrame = converter.outputFrame ∧ res.1.maxWidth = converter.maxWidth
        ∧ res.1.maxHeight = converter.maxHeight
        ∧ ∀ virt ∈ res.2.2, .mapping virt res.1.frameSize ∈ res.1.held := by
  intro res
  have hfirst : ∀ virt, converter.maps.1.virt = some virt
      → .mapping virt converter.frameSize ∈ converter.held := by
    intro virt hvirt
    simp [ImageConverter.held, ImageConverter.resources, mapResources, hvirt]
  have hsecond : ∀ virt, converter.maps.2.virt = some virt
      → .mapping virt converter.frameSize ∈ converter.held := by
    intro virt hvirt
    simp [ImageConverter.held, ImageConverter.resources, mapResources, hvirt]
  simp only [res, mapOutput]
  split
  . exact ⟨rfl, rfl, rfl, rfl, fun virt hvirt => hfirst virt hvirt⟩
  . split
    . exact ⟨rfl, rfl, rfl, rfl, fun virt hvirt => hsecond virt hvirt⟩
    . split
      . exact ⟨rfl, rfl, rfl, rfl, fun virt hvirt => by contradiction⟩
      . next virt =>
        split
        . next hnone =>
          rw [Option.isNone_iff_eq_none] at hnone
          rw [held_firstMap hnone, Multiset.cons_add]
          exact ⟨rfl, rfl, rfl, rfl, by simp⟩
        . split
          . next hnone =>
            rw [Option.isNone_iff_eq_none] at hnone
            rw [held_secondMap hnone, Multiset.cons_add]
            exact ⟨rfl, rfl, rfl, rfl, by simp⟩
          . exact ⟨rfl, rfl, rfl, rfl, fun virt hvirt => by contradiction⟩

theorem held_output {frame : CscFrame} (h : converter.outputFrame = none)
    : ({ converter with outputFrame := some frame } : ImageConverter).held
      = .frame frame.physAddr ::ₘ converter.held := by
  simp only [ImageConverter.held, ImageConverter.resources, h]
  rfl

/--
What a frame that has been taken through the converter leaves.
-/
structure Ran (converter after : ImageConverter) (width height : BitVec 32) (output : CscOutput) : Prop where
  width_le : width.toNat ≤ converter.maxWidth
  height_le : height.toNat ≤ converter.maxHeight
  maxWidth : after.maxWidth = converter.maxWidth
  maxHeight : after.maxHeight = converter.maxHeight
  mapped : .mapping output.virt after.frameSize ∈ (converterReleaseOutput after).1.held

theorem settle_converterRun (converter : ImageConverter) (width height : BitVec 32) (calls : RunCalls)
    (rest : Multiset ConverterResource)
    : let res := converterRun converter width height calls
      Ledger.settle (converter.held + rest) res.2.1 = some (res.1.held + rest)
        ∧ ∀ output ∈ res.2.2, Ran converter res.1 width height output := by
  intro res
  simp only [res, converterRun]
  split
  . exact ⟨rfl, fun output houtput => by contradiction⟩
  . next hchecks =>
    split
    . exact ⟨rfl, fun output houtput => by contradiction⟩
    . split
      . exact ⟨rfl, fun output houtput => by contradiction⟩
      . next converted hget =>
        split
        . refine ⟨?_, fun output houtput => by contradiction⟩
          rw [Ledger.settle_acquire_cons, Ledger.settle_release_cons, Ledger.settle_nil]
        . simp only [not_or, Bool.not_eq_true, Option.isSome_eq_false_iff, Option.isNone_iff_eq_none, not_lt,
            gt_iff_lt] at hchecks
          obtain ⟨hnone, hwidth, hheight⟩ := hchecks
          -- The frame is held apart from the converter until it is the output.
          have hmap := @mapOutput_held (.frame converted.physAddr ::ₘ rest) converter converted.physAddr calls.mmap
          generalize mapOutput converter converted.physAddr calls.mmap = mapped at hmap
          obtain ⟨hsettle, hframe, hmaxWidth, hmaxHeight, hmapped⟩ := hmap
          rw [Multiset.add_cons, Multiset.add_cons] at hsettle
          split
          . refine ⟨?_, fun output houtput => by contradiction⟩
            rw [List.cons_append, Ledger.settle_acquire_cons, Ledger.settle_seq hsettle]
            rw [Ledger.settle_release_cons, Ledger.settle_nil]
          . next virt hvirt =>
            rw [hnone] at hframe
            constructor
            . rw [Ledger.settle_acquire_cons, hsettle, held_output hframe, Multiset.cons_add]
            . intro output houtput
              rw [Option.mem_some] at houtput
              rw [← houtput]
              refine ⟨hwidth, hheight, hmaxWidth, hmaxHeight, ?_⟩
              have hreleased : (converterReleaseOutput { mapped.1 with outputFrame := some converted }).1
                  = mapped.1 := by
                rw [converterReleaseOutput, ← hframe]
              rw [hreleased]
              exact hmapped virt hvirt

end Ledger

section Conversion

/-
No output is held between two conversions.
-/
def CscState.Idle (s : CscState) : Prop :=
  ∀ converter, s.converter = some converter → converter.outputFrame = none

theorem idle_init : CscState.init.Idle := by
  intro converter hconverter
  contradiction

theorem frame_not_held {s : CscState} (hidle : s.Idle) (physAddr : Nat) : .frame physAddr ∉ s.held := by
  have hgsdma : .frame physAddr ∉ gsdmaHeld s.gsdmaInited := by
    cases s.gsdmaInited with
    | true => simp [gsdmaHeld]
    | false => simp [gsdmaHeld]
  have hif : ∀ held resource, resource ≠ .frame physAddr → .frame physAddr ∉ resourceIf held resource := by
    intro held resource hne
    cases held with
    | true =>
      rw [resourceIf, if_pos rfl, List.mem_singleton]
      exact hne.symm
    | false => simp [resourceIf]
  rw [CscState.held, Multiset.mem_add]
  intro hheld
  cases hheld with
  | inl hmem =>
    cases hconverter : s.converter with
    | none =>
      rw [hconverter] at hmem
      contradiction
    | some converter =>
      rw [hconverter] at hmem
      simp [ImageConverter.held, ImageConverter.resources, ImageConverter.channelResources, mapResources,
        hidle converter hconverter, hif] at hmem
  | inr hmem => contradiction

theorem converterSetup_outputFrame (converter : ImageConverter) (calls : CreateCalls)
    : (converterSetup converter calls).1.outputFrame = converter.outputFrame := by
  unfold converterSetup
  split
  . rfl
  . split
    . rfl
    . dsimp only
      split
      . rfl
      . split
        . rfl
        . split <;> rfl

theorem converterCreate_outputFrame {maxWidth maxHeight : Nat} {calls : CreateCalls} {converter : ImageConverter}
    (h : (converterCreate maxWidth maxHeight calls).1 = some converter) : converter.outputFrame = none := by
  unfold converterCreate at h
  split at h
  . split at h
    . contradiction
    . dsimp only at h
      split at h
      . rw [Option.some.injEq] at h
        rw [← h, converterSetup_outputFrame]
        rfl
      . contradiction
  . contradiction

theorem settle_ensureConverter {s : CscState} (hidle : s.Idle) (width height : Nat) (calls : CreateCalls)
    : let res := ensureConverter s width height calls
      Ledger.settle s.held res.2.1 = some res.1.held ∧ res.1.Idle := by
  intro res
  simp only [res, ensureConverter]
  split
  . exact ⟨rfl, hidle⟩
  . split
    . next hnone =>
      have hcreate := settle_converterCreate width height calls (gsdmaHeld s.gsdmaInited)
      constructor
      . simpa only [CscState.held, hnone, Option.elim_none, zero_add] using hcreate
      . exact fun converter hconverter => converterCreate_outputFrame hconverter
    . next converter hsome =>
      split
      . exact ⟨rfl, hidle⟩
      . have hcreate := settle_converterCreate (max width converter.maxWidth) (max height converter.maxHeight) calls
          (gsdmaHeld s.gsdmaInited)
        have hdelete := settle_converterDelete converter (gsdmaHeld s.gsdmaInited)
        constructor
        . simp only [CscState.held, hsome, Option.elim_some]
          rw [Ledger.settle_seq hdelete]
          exact hcreate
        . exact fun converter hconverter => converterCreate_outputFrame hconverter

/--
The copy of a conversion: the bytes of the whole image, from an output that is mapped.
-/
structure CopyWithin (request : CscRequest) (held : Multiset ConverterResource) (copy : CscCopy) : Prop where
  bytes : copy.bytes = request.width.toNat * 4 * request.height.toNat
  mapped : ∃ size, .mapping copy.virt size ∈ held ∧ copy.bytes ≤ size

theorem copyWithin_of_ran {converter after : ImageConverter} {request : CscRequest} {output : CscOutput}
    (hran : Ran converter after request.width request.height output) (hstride : output.stride = request.width * 4)
    : let bytes := output.stride.toNat * request.height.toNat
      bytes = request.width.toNat * 4 * request.height.toNat ∧ bytes ≤ after.frameSize := by
  intro bytes
  have hfits := after.frameSize_le
  have hwidth := hran.width_le
  have hheight := hran.height_le
  rw [← hran.maxWidth] at hwidth
  rw [← hran.maxHeight] at hheight
  have harea : request.width.toNat * 4 * request.height.toNat ≤ after.frameSize := by
    rw [after.frameSize_eq, Nat.mul_right_comm]
    exact Nat.mul_le_mul_right 4 (Nat.mul_le_mul hwidth hheight)
  have hbytes : bytes = request.width.toNat * 4 * request.height.toNat := by
    cases Nat.eq_zero_or_pos request.height.toNat with
    | inl hzero => simp only [bytes, hzero, Nat.mul_zero]
    | inr hpos =>
      -- One line alone is no longer than the frame.
      have hline : request.width.toNat * 4 < 2 ^ 32 := by
        have hle := Nat.le_mul_of_pos_right (request.width.toNat * 4) hpos
        unfold uint32Max at hfits
        omega
      simp only [bytes, hstride, BitVec.toNat_mul]
      show request.width.toNat * 4 % 2 ^ 32 * request.height.toNat = _
      rw [Nat.mod_eq_of_lt hline]
  rw [hbytes]
  exact ⟨rfl, harea⟩

theorem settle_copyOutput (s : CscState) (request : CscRequest) (destPhys : Nat) (output : CscOutput)
    (rest : Multiset ConverterResource)
    : let res := copyOutput s request destPhys output
      Ledger.settle (rest + gsdmaHeld s.gsdmaInited) res.2.1 = some (rest + gsdmaHeld res.1.gsdmaInited) := by
  intro res
  simp only [res, copyOutput]
  cases s.gsdmaInited with
  | true => rfl
  | false =>
    cases request.gsdmaInit with
    | true =>
      show Ledger.settle (rest + 0) [.acquire .gsdma] = some (rest + {.gsdma})
      rw [Ledger.settle_acquire_cons, Ledger.settle_nil, add_zero]
      rw [add_comm, Multiset.singleton_add]
    | false => rfl

theorem settle_convertWith {s : CscState} {converter : ImageConverter} (hconverter : s.converter = some converter)
    (request : CscRequest) (destPhys : Nat)
    : let res := convertWith s converter request destPhys
      Ledger.settle s.held res.2.transfers = some res.1.held ∧ res.1.Idle
        ∧ ∀ copy ∈ res.2.copied, CopyWithin request res.1.held copy := by
  obtain ⟨hsettle, hran⟩ := settle_converterRun converter request.width request.height request.run
    (gsdmaHeld s.gsdmaInited)
  intro res
  simp only [res, convertWith]
  generalize converterRun converter request.width request.height request.run = ran at hsettle hran
  have hheld : s.held = converter.held + gsdmaHeld s.gsdmaInited := by
    rw [CscState.held, hconverter]
    rfl
  have hrelease := settle_converterReleaseOutput ran.1 (gsdmaHeld s.gsdmaInited)
  have hidle : ∀ s' : CscState, s'.converter = some (converterReleaseOutput ran.1).1 → s'.Idle := by
    intro s' hs' converter' hconverter'
    rw [hs', Option.some.injEq] at hconverter'
    rw [← hconverter']
    rfl
  rw [← hheld] at hsettle
  split
  . refine ⟨?_, hidle _ rfl, fun copy hcopy => by contradiction⟩
    rw [Ledger.settle_seq hsettle, hrelease]
    rfl
  . next output houtput =>
    split
    . next hstride =>
      let released := (converterReleaseOutput ran.1).1
      have hcopy := settle_copyOutput { s with converter := some released } request destPhys output ran.1.held
      generalize hcopied : copyOutput { s with converter := some released } request destPhys output = copied at hcopy
      have hafter : copied.1.converter = some released := by
        rw [← hcopied]
        rfl
      have hvirt : copied.2.2.virt = output.virt := by
        rw [← hcopied]
        rfl
      have hreleased := settle_converterReleaseOutput ran.1 (gsdmaHeld copied.1.gsdmaInited)
      have hheld' : copied.1.held = released.held + gsdmaHeld copied.1.gsdmaInited := by
        rw [CscState.held, hafter]
        rfl
      refine ⟨?_, hidle _ hafter, ?_⟩
      . -- The copy comes while the output is still held.
        rw [List.append_assoc, Ledger.settle_seq hsettle, Ledger.settle_seq hcopy, hreleased, hheld']
      . intro copy hmem
        rw [Option.mem_some] at hmem
        have hran' := hran output houtput
        obtain ⟨hbytes, hfits⟩ := copyWithin_of_ran hran' hstride
        rw [← hmem, ← hcopied]
        constructor
        . exact hbytes
        . refine ⟨ran.1.frameSize, ?_, hfits⟩
          rw [hcopied, hheld', hvirt]
          exact Multiset.mem_add.mpr (.inl hran'.mapped)
    . refine ⟨?_, hidle _ rfl, fun copy hcopy => by contradiction⟩
      rw [Ledger.settle_seq hsettle, hrelease]
      rfl

theorem settle_cscConvertFull {s : CscState} (hidle : s.Idle) (request : CscRequest)
    : let res := cscConvertFull s request
      Ledger.settle s.held res.2.transfers = some res.1.held ∧ res.1.Idle
        ∧ ∀ copy ∈ res.2.copied, CopyWithin request res.1.held copy := by
  intro res
  simp only [res, cscConvertFull]
  split
  . exact ⟨rfl, hidle, fun copy hcopy => by contradiction⟩
  . next destPhys haccepted =>
    obtain ⟨hensure, hidle'⟩ := settle_ensureConverter hidle request.width.toNat request.height.toNat request.create
    generalize ensureConverter s request.width.toNat request.height.toNat request.create = ensured at hensure hidle'
    split
    . exact ⟨hensure, hidle', fun copy hcopy => by contradiction⟩
    . next converter hconverter =>
      split
      . exact ⟨hensure, hidle', fun copy hcopy => by contradiction⟩
      . obtain ⟨hsettle, hrest⟩ := settle_convertWith hconverter request destPhys
        refine ⟨?_, hrest⟩
        rw [Ledger.settle_seq hensure]
        exact hsettle

theorem settle_deinit (s : CscState)
    : Ledger.settle s.held (lvK230ImageConvertDeinit s).2.transfers = some 0 := by
  have hgsdma : Ledger.settle (gsdmaHeld s.gsdmaInited) (if s.gsdmaInited then [.release .gsdma] else [])
      = some 0 := by
    cases s.gsdmaInited with
    | true => rfl
    | false => rfl
  simp only [lvK230ImageConvertDeinit, CscState.held, deleteConverter]
  cases s.converter with
  | none =>
    rw [Option.elim_none, zero_add]
    exact hgsdma
  | some converter =>
    rw [Option.elim_some]
    rw [Ledger.settle_seq (settle_converterDelete converter (gsdmaHeld s.gsdmaInited))]
    exact hgsdma

end Conversion

/-
All that is taken and given back in a run.
-/
def cscTransfers (events : List CscEvent) : List (Transfer ConverterResource) :=
  (cscMachine.visits CscState.init events).flatMap (·.obs.transfers)

theorem cscMachine_step {s : CscState} (hidle : s.Idle) (event : CscEvent)
    : let res := cscMachine.step s event
      Ledger.settle s.held res.2.transfers = some res.1.held ∧ res.1.Idle := by
  cases event with
  | convert request =>
    obtain ⟨hsettle, hidle', _⟩ := settle_cscConvertFull hidle request
    exact ⟨hsettle, hidle'⟩
  | deinit => exact ⟨settle_deinit s, idle_init⟩

theorem cscMachine_run (events : List CscEvent)
    : Ledger.settle 0 (cscTransfers events) = some (cscMachine.final CscState.init events).held
      ∧ (cscMachine.final CscState.init events).Idle := by
  induction events using List.reverseRecOn with
  | nil => exact ⟨rfl, idle_init⟩
  | append_singleton events event ih =>
    obtain ⟨hsettle, hidle⟩ := ih
    obtain ⟨hstep, hidle'⟩ := cscMachine_step hidle event
    have htransfers : cscTransfers (events ++ [event])
        = cscTransfers events ++ (cscMachine.step (cscMachine.final CscState.init events) event).2.transfers := by
      simp [cscTransfers, Machine.visits_append]
    rw [htransfers, Ledger.settle_seq hsettle]
    rw [Machine.final_append, Machine.final_cons, Machine.final_nil]
    exact ⟨hstep, hidle'⟩

/--
Whatever fails in a run, the converter gives back only what it holds, keeps nothing but what its state records, and no
frame, and leaves nothing behind once it is deinitialized. Each copy takes the image from an output that is mapped and
at least as large.
-/
theorem cscMachine_balanced (events : List CscEvent)
    : let final := cscMachine.final CscState.init events
      Ledger.settle 0 (cscTransfers events) = some final.held
        ∧ (∀ physAddr, .frame physAddr ∉ final.held)
        ∧ Ledger.settle 0 (cscTransfers (events ++ [.deinit])) = some 0
        ∧ ∀ v ∈ cscMachine.visits CscState.init events, ∀ copy ∈ v.obs.copied, ∃ request,
          v.event = .convert request ∧ CopyWithin request v.post.held copy := by
  obtain ⟨hsettle, hidle⟩ := cscMachine_run events
  intro final
  refine ⟨hsettle, frame_not_held hidle, ?_, ?_⟩
  . have hend := (cscMachine_run (events ++ [.deinit])).1
    rw [hend, Machine.final_append]
    rfl
  . intro v hv copy hcopy
    have hidle' : v.pre.Idle :=
      @Machine.visits_inv _ _ _ cscMachine CscState.Idle (fun s event hs => (cscMachine_step hs event).2)
        CscState.init idle_init events v hv
    rw [Machine.eq_visit_of_mem hv] at hcopy ⊢
    cases hevent : v.event with
    | convert request =>
      rw [hevent] at hcopy
      exact ⟨request, rfl, (settle_cscConvertFull hidle' request).2.2 copy hcopy⟩
    | deinit =>
      rw [hevent] at hcopy
      contradiction

end Lvgl

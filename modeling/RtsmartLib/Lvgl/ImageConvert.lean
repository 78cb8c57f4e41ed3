import RtsmartLib.Lvgl.ImagePixel

/-!
This module contains the equivalence of the vector paths of the image converter with its scalar
path, on whole images.
-/

namespace Lvgl

open Lib Lib.Rvv

theorem premultiply_max (channel : Byte) : premultiply channel 0xff = channel := by
  unfold premultiply
  have h : (channel.toNat * 255 + 127) / 255 = channel.toNat := by
    omega
  rw [show (0xff : Byte).toNat = 255 from rfl]
  rw [h]
  exact BitVec.ofNat_toNat 8 channel

/-
Rounding to the nearest on the way out and back cannot leave the interval of one channel value.
-/
theorem premultiply_unpremultiply {channel alpha : Byte} (h : channel.toNat ≤ alpha.toNat)
    (hzero : alpha ≠ 0) (hmax : alpha ≠ 0xff)
    : premultiply (unpremultiply channel alpha) alpha = channel := by
  have hpos : 0 < alpha.toNat := by
    apply Nat.pos_of_ne_zero
    intro hnat
    exact hzero (BitVec.eq_of_toNat_eq hnat)
  have hlt : alpha.toNat < 255 := by
    have hbyte := alpha.isLt
    have hne : alpha.toNat ≠ 255 := by
      intro hnat
      exact hmax (BitVec.eq_of_toNat_eq hnat)
    omega
  generalize hq : (channel.toNat * 255 + alpha.toNat / 2) / alpha.toNat = q
  have hlow : alpha.toNat * q ≤ channel.toNat * 255 + alpha.toNat / 2 := by
    rw [← hq]
    exact Nat.mul_div_le _ _
  have hhigh : channel.toNat * 255 + alpha.toNat / 2 < alpha.toNat * q + alpha.toNat := by
    rw [← hq]
    exact Nat.lt_mul_div_succ _ hpos
  have hq255 : q ≤ 255 := by
    apply Nat.le_of_lt_succ
    rw [← hq]
    apply Nat.div_lt_of_lt_mul
    omega
  unfold premultiply unpremultiply
  rw [hq]
  rw [Nat.min_eq_right hq255]
  have hmod : (BitVec.ofNat 8 q).toNat = q := by
    rw [BitVec.toNat_ofNat]
    omega
  rw [hmod]
  have hround : (q * alpha.toNat + 127) / 255 = channel.toNat := by
    rw [Nat.mul_comm]
    generalize alpha.toNat * q = t at hlow hhigh
    omega
  rw [hround]
  exact BitVec.ofNat_toNat 8 channel

theorem unpackOps_holds {srcCf : ColorFormat} {n : Nat} (hn : packSrcBytes srcCf = some n)
    (load : Memory) (a j : Nat) (sourceIsRgb : Bool) (v : VReg → Byte)
    : ∃ px, readPixel load (a + n * j) srcCf = some px
        ∧ (px.swapRgb (sourceIsRgb && srcCf = .rgb888)).Holds
            (laneOps load j (unpackOps n srcCf sourceIsRgb a) v) := by
  cases srcCf with
  | rgb888 =>
    cases hn
    cases sourceIsRgb with
    | false => exact ⟨_, rfl, rfl, rfl, rfl, rfl⟩
    | true => exact ⟨_, rfl, rfl, rfl, rfl, rfl⟩
  | xrgb8888 =>
    cases hn
    rw [Bool.and_comm]
    exact ⟨_, rfl, rfl, rfl, rfl, rfl⟩
  | argb8888 =>
    cases hn
    rw [Bool.and_comm]
    exact ⟨_, rfl, rfl, rfl, rfl, rfl⟩
  | l8 => cases hn
  | a8 => cases hn
  | al88 => cases hn
  | rgb565 => cases hn
  | rgb565Swapped => cases hn
  | argb1555 => cases hn
  | argb4444 => cases hn
  | argb2222 => cases hn
  | argb8565 => cases hn
  | argb8888Premultiplied => cases hn
  | other => cases hn

def ColorFormat.Supported (cf : ColorFormat) : Prop :=
  match cf with
  | .other _ => False
  | _ => True

theorem readPixel_supported {cf : ColorFormat} (hcf : cf.Supported) (src : Memory) (a : Nat)
    : ∃ px, readPixel src a cf = some px := by
  cases cf with
  | argb8888Premultiplied =>
    unfold readPixel
    dsimp only
    split
    . exact ⟨_, rfl⟩
    . exact ⟨_, rfl⟩
  | other size => exact hcf.elim
  | _ => exact ⟨_, rfl⟩

theorem writePixel_supported {cf : ColorFormat} (hcf : cf.Supported) (px : Pixel)
    : ∃ bytes, writePixel cf px = some bytes ∧ bytes.length = lvColorFormatGetSize cf := by
  cases cf with
  | other size => exact hcf.elim
  | _ => exact ⟨_, rfl, rfl⟩

theorem lvColorFormatGetSize_supported {cf : ColorFormat} (hcf : cf.Supported)
    : 0 < lvColorFormatGetSize cf ∧ lvColorFormatGetSize cf ≤ 4 := by
  cases cf with
  | other size => exact hcf.elim
  | _ => decide

def Image.scalarBytes (img : Image) (a : Nat) : List Byte :=
  (convertPixel img.srcMem a img.srcCf img.destCf img.sourceIsRgb).getD []

theorem Image.convertPixel_eq {img : Image} (hsrc : img.srcCf.Supported)
    (hdest : img.destCf.Supported) (a : Nat)
    : convertPixel img.srcMem a img.srcCf img.destCf img.sourceIsRgb = some (img.scalarBytes a)
        ∧ (img.scalarBytes a).length = lvColorFormatGetSize img.destCf := by
  unfold Image.scalarBytes convertPixel
  cases readPixel_supported hsrc img.srcMem a with
  | intro px hpx =>
    rw [hpx]
    cases writePixel_supported hdest (px.swapRgb (img.sourceIsRgb && img.srcCf = .rgb888)) with
    | intro bytes hbytes =>
      dsimp only
      rw [hbytes.1]
      exact ⟨rfl, hbytes.2⟩

theorem scalarRow_eq {img : Image} (hsrc : img.srcCf.Supported) (hdest : img.destCf.Supported)
    (src dest : Nat) {n x : Nat} (hx : 4 * (x + n) ≤ 2 ^ 32) (mem : Memory)
    : scalarRow img src dest n x mem
        = some
            (writeElems (lvColorFormatGetSize img.destCf)
              (fun j => img.scalarBytes (src + lvColorFormatGetSize img.srcCf * (x + j))) n
              (dest + lvColorFormatGetSize img.destCf * x) mem) := by
  induction n generalizing x mem with
  | zero => rfl
  | succ n ih =>
    have hwrap : ∀ size, size ≤ 4 → uint32 (x * size) = size * x := by
      intro size hsize
      unfold uint32
      rw [Nat.mul_comm]
      apply Nat.mod_eq_of_lt
      have := Nat.mul_le_mul_right x hsize
      omega
    unfold scalarRow
    dsimp only
    rw [hwrap _ (lvColorFormatGetSize_supported hsrc).2]
    rw [hwrap _ (lvColorFormatGetSize_supported hdest).2]
    rw [(Image.convertPixel_eq hsrc hdest _).1]
    dsimp only
    rw [ih]
    . rw [Nat.add_comm n 1]
      rw [writeElems_add]
      rw [Nat.mul_add, Nat.mul_one, Nat.add_assoc]
      congr 1
      apply writeElems_congr
      intro j _
      rw [Nat.add_assoc]
    . omega

theorem scalarRows_eq {img : Image} (hsrc : img.srcCf.Supported) (hdest : img.destCf.Supported)
    (hwidth : 4 * img.width ≤ 2 ^ 32) {height : Nat} (row dest : Nat) (mem : Memory)
    : scalarRows img (img.src + img.srcStride * row) dest height mem
        = some
            (writeRows (lvColorFormatGetSize img.destCf)
              (fun row j =>
                img.scalarBytes
                  (img.src + img.srcStride * row + lvColorFormatGetSize img.srcCf * j))
              img.destStride img.width height row dest mem) := by
  induction height generalizing row dest mem with
  | zero => rfl
  | succ height ih =>
    unfold scalarRows
    rw [scalarRow_eq hsrc hdest]
    . dsimp only
      rw [Nat.add_assoc img.src]
      rw [← Nat.mul_succ]
      rw [ih]
      simp only [Nat.zero_add, Nat.mul_zero, Nat.add_zero]
      rfl
    . omega

theorem scalarConvert_eq {img : Image} (hsrc : img.srcCf.Supported) (hdest : img.destCf.Supported)
    (hwidth : 4 * img.width ≤ 2 ^ 32) (mem : Memory)
    : scalarConvert img mem
        = some
            (writeRows (lvColorFormatGetSize img.destCf)
              (fun row j =>
                img.scalarBytes
                  (img.src + img.srcStride * row + lvColorFormatGetSize img.srcCf * j))
              img.destStride img.width img.height 0 img.dest mem) := by
  have hsrcSize := (lvColorFormatGetSize_supported hsrc).1
  have hdestSize := (lvColorFormatGetSize_supported hdest).1
  unfold scalarConvert
  rw [if_neg (by omega)]
  exact scalarRows_eq hsrc hdest hwidth 0 img.dest mem

/-
The vector path copies premultiplied pixels as they are. Everywhere else it writes what the scalar
path writes.
-/
def Image.rvvBytes (img : Image) (a : Nat) : List Byte :=
  if img.srcCf = .argb8888Premultiplied ∧ img.destCf = .argb8888Premultiplied then
    [img.srcMem a, img.srcMem (a + 1), img.srcMem (a + 2), img.srcMem (a + 3)]
  else
    img.scalarBytes a

theorem rgbStore_lanes {destCf : ColorFormat} {n : Nat} (hn : rvvPackedFormat destCf = some n)
    (load : Memory) (j : Nat) {v : VReg → Byte} {px : Pixel} (h : px.Holds v)
    (hmax : destCf = .argb8888Premultiplied → px.alpha = 0xff)
    : writePixel destCf px
        = some ((List.range n).map (fun k => laneOps load j (opaqueOps destCf) v (4 + k))) := by
  obtain ⟨hblue, hgreen, hred, halpha⟩ := h
  cases destCf with
  | rgb888 =>
    cases hn
    unfold writePixel
    rw [← hblue, ← hgreen, ← hred]
    rfl
  | xrgb8888 =>
    cases hn
    unfold writePixel
    rw [← hblue, ← hgreen, ← hred]
    rfl
  | argb8888 =>
    cases hn
    unfold writePixel
    rw [← hblue, ← hgreen, ← hred, ← halpha]
    rfl
  | argb8888Premultiplied =>
    cases hn
    unfold writePixel
    dsimp only
    rw [hmax rfl]
    rw [premultiply_max, premultiply_max, premultiply_max]
    rw [← hmax rfl]
    rw [← hblue, ← hgreen, ← hred, ← halpha]
    rfl
  | l8 => cases hn
  | a8 => cases hn
  | al88 => cases hn
  | rgb565 => cases hn
  | rgb565Swapped => cases hn
  | argb1555 => cases hn
  | argb4444 => cases hn
  | argb2222 => cases hn
  | argb8565 => cases hn
  | other => cases hn

theorem readPixel_alpha {srcCf : ColorFormat} {n : Nat} (hn : expandSrcBytes srcCf = some n)
    (halpha : sourceHasAlpha srcCf = false) {src : Memory} {a : Nat} {px : Pixel}
    (hpx : readPixel src a srcCf = some px)
    : px.alpha = 0xff := by
  cases srcCf with
  | l8 =>
    cases hpx
    rfl
  | rgb565 =>
    cases hpx
    rfl
  | rgb565Swapped =>
    cases hpx
    rfl
  | a8 => cases halpha
  | al88 => cases halpha
  | argb1555 => cases halpha
  | argb4444 => cases halpha
  | argb2222 => cases halpha
  | argb8565 => cases halpha
  | rgb888 => cases hn
  | xrgb8888 => cases hn
  | argb8888 => cases hn
  | argb8888Premultiplied => cases hn
  | other => cases hn

theorem Image.rvvBytes_eq {img : Image} {a : Nat} {px : Pixel} {bytes : List Byte}
    (hcopy : ¬(img.srcCf = .argb8888Premultiplied ∧ img.destCf = .argb8888Premultiplied))
    (hpx : readPixel img.srcMem a img.srcCf = some px)
    (hbytes : writePixel img.destCf (px.swapRgb (img.sourceIsRgb && img.srcCf = .rgb888))
      = some bytes)
    : bytes = img.rvvBytes a := by
  unfold Image.rvvBytes Image.scalarBytes convertPixel
  rw [if_neg hcopy]
  rw [hpx]
  dsimp only
  rw [hbytes]
  rfl

theorem expand_writes {img : Image} {srcBytes destBytes : Nat}
    (hsrc : expandSrcBytes img.srcCf = some srcBytes)
    (hdest : rvvPackedFormat img.destCf = some destBytes) (hpos : 0 < destBytes)
    (halpha : img.destCf = .argb8888Premultiplied → sourceHasAlpha img.srcCf = false)
    : Strip.Writes img.srcMem srcBytes destBytes img.rvvBytes fun srcPixel destPixel =>
        {
          ops := expandOps img.srcCf srcPixel ++ opaqueOps img.destCf
          store := ⟨destBytes, 4, destPixel⟩
        } := by
  have hsrcCf : img.srcCf ≠ .rgb888 ∧ img.srcCf ≠ .argb8888Premultiplied := by
    constructor
    . intro h
      rw [h] at hsrc
      cases hsrc
    . intro h
      rw [h] at hsrc
      cases hsrc
  constructor
  . exact hpos
  . intro src dest
    rfl
  . intro src dest
    rfl
  . intro src dest j v
    cases expandOps_holds hsrc img.srcMem src j v with
    | intro px hpx =>
      apply Image.rvvBytes_eq _ hpx.1
      . dsimp only
        rw [laneOps_append]
        have hswap : px.swapRgb (img.sourceIsRgb && img.srcCf = .rgb888) = px := by
          simp [Pixel.swapRgb, hsrcCf.1]
        rw [hswap]
        apply rgbStore_lanes hdest _ _ hpx.2
        intro h
        exact readPixel_alpha hsrc (halpha h) hpx.1
      . intro h
        exact hsrcCf.2 h.1

theorem pack_writes {img : Image} {srcBytes destBytes : Nat}
    (hsrc : packSrcBytes img.srcCf = some srcBytes)
    (hdest : packDestBytes img.destCf = some destBytes) (hpos : 0 < destBytes)
    : Strip.Writes img.srcMem srcBytes destBytes img.rvvBytes fun srcPixel destPixel =>
        {
          ops := unpackOps srcBytes img.srcCf img.sourceIsRgb srcPixel ++ packOps img.destCf
          store := ⟨destBytes, 0, destPixel⟩
        } := by
  constructor
  . exact hpos
  . intro src dest
    rfl
  . intro src dest
    rfl
  . intro src dest j v
    cases unpackOps_holds hsrc img.srcMem src j img.sourceIsRgb v with
    | intro px hpx =>
      apply Image.rvvBytes_eq _ hpx.1
      . dsimp only
        rw [laneOps_append]
        exact packOps_lanes hdest _ _ hpx.2
      . intro h
        rw [h.1] at hsrc
        cases hsrc

theorem packSrcBytes_of_packed {srcCf : ColorFormat} {n : Nat}
    (hn : rvvPackedFormat srcCf = some n) (hcf : srcCf ≠ .argb8888Premultiplied)
    : packSrcBytes srcCf = some n := by
  cases srcCf with
  | argb8888Premultiplied => exact absurd rfl hcf
  | _ => exact hn

theorem swapRgb_alpha (px : Pixel) (swap : Bool) : (px.swapRgb swap).alpha = px.alpha := by
  unfold Pixel.swapRgb
  split
  . rfl
  . rfl

theorem packed_writes {img : Image} {srcBytes destBytes : Nat}
    (hsrc : rvvPackedFormat img.srcCf = some srcBytes)
    (hdest : rvvPackedFormat img.destCf = some destBytes) (hpos : 0 < destBytes)
    (hguard : (img.srcCf = .argb8888Premultiplied ↔ img.destCf = .argb8888Premultiplied)
      ∨ (img.srcCf = .rgb888 ∨ img.srcCf = .xrgb8888))
    : Strip.Writes img.srcMem srcBytes destBytes img.rvvBytes fun srcPixel destPixel =>
        {
          ops := unpackOps srcBytes img.srcCf img.sourceIsRgb srcPixel ++ opaqueOps img.destCf
          store := ⟨destBytes, 4, destPixel⟩
        } := by
  constructor
  . exact hpos
  . intro src dest
    rfl
  . intro src dest
    rfl
  . intro src dest j v
    by_cases hcf : img.srcCf = .argb8888Premultiplied
    . have hcopy : img.destCf = .argb8888Premultiplied := by
        cases hguard with
        | inl h => exact h.mp hcf
        | inr h =>
          rw [hcf] at h
          simp at h
      rw [hcf] at hsrc
      rw [hcopy] at hdest
      cases hsrc
      cases hdest
      unfold Image.rvvBytes
      rw [if_pos ⟨hcf, hcopy⟩]
      rw [hcf, hcopy]
      rfl
    . have hpack := packSrcBytes_of_packed hsrc hcf
      cases unpackOps_holds hpack img.srcMem src j img.sourceIsRgb v with
      | intro px hpx =>
        apply Image.rvvBytes_eq _ hpx.1
        . dsimp only
          rw [laneOps_append]
          apply rgbStore_lanes hdest _ _ hpx.2
          intro h
          rw [swapRgb_alpha]
          have hread := hpx.1
          have hguard : img.srcCf = .rgb888 ∨ img.srcCf = .xrgb8888 := by
            cases hguard with
            | inl hiff => exact absurd (hiff.mpr h) hcf
            | inr hguard => exact hguard
          cases hguard with
          | inl hrgb =>
            rw [hrgb] at hread
            cases hread
            rfl
          | inr hxrgb =>
            rw [hxrgb] at hread
            cases hread
            rfl
        . intro h
          exact hcf h.1

theorem rvvRun_mem {img : Image} {srcBytes destBytes : Nat} {strip : Nat → Nat → Strip}
    (h : Strip.Writes img.srcMem srcBytes destBytes img.rvvBytes strip) (hart : Hart) (s : VState)
    : (rvvRun hart img strip srcBytes destBytes s).mem
        = writeRows destBytes
            (fun row j => img.rvvBytes (img.src + img.srcStride * row + srcBytes * j))
            img.destStride img.width img.height 0 img.dest s.mem := by
  unfold rvvRun
  rw [← stripRows_mem h hart]
  rfl

def RvvHandles (hart : Hart) (img : Image) (s s' : VState) : Prop :=
  rvvExpandToRgb hart img s = some s' ∨ rvvPackFrom2432 hart img s = some s'
    ∨ rvvConvertPacked hart img s = some s'

def Image.rvvMem (img : Image) (mem : Memory) : Memory :=
  writeRows (lvColorFormatGetSize img.destCf)
    (fun row j =>
      img.rvvBytes (img.src + img.srcStride * row + lvColorFormatGetSize img.srcCf * j))
    img.destStride img.width img.height 0 img.dest mem

theorem expandSrcBytes_eq {cf : ColorFormat} {n : Nat} (hn : expandSrcBytes cf = some n)
    : cf.Supported ∧ n = lvColorFormatGetSize cf := by
  cases cf
  all_goals first
    | exact ⟨trivial, (Option.some.inj hn).symm⟩
    | cases hn

theorem rvvPackedFormat_eq {cf : ColorFormat} {n : Nat} (hn : rvvPackedFormat cf = some n)
    : cf.Supported ∧ n = lvColorFormatGetSize cf := by
  cases cf
  all_goals first
    | exact ⟨trivial, (Option.some.inj hn).symm⟩
    | cases hn

theorem packSrcBytes_eq {cf : ColorFormat} {n : Nat} (hn : packSrcBytes cf = some n)
    : cf.Supported ∧ n = lvColorFormatGetSize cf := by
  cases cf
  all_goals first
    | exact ⟨trivial, (Option.some.inj hn).symm⟩
    | cases hn

theorem packDestBytes_eq {cf : ColorFormat} {n : Nat} (hn : packDestBytes cf = some n)
    : cf.Supported ∧ n = lvColorFormatGetSize cf := by
  cases cf
  all_goals first
    | exact ⟨trivial, (Option.some.inj hn).symm⟩
    | cases hn

theorem rvvExpandToRgb_mem {hart : Hart} {img : Image} {s s' : VState}
    (h : rvvExpandToRgb hart img s = some s')
    : img.srcCf.Supported ∧ img.destCf.Supported ∧ s'.mem = img.rvvMem s.mem := by
  unfold rvvExpandToRgb at h
  split at h
  . cases h
  . next hdestCf =>
    split at h
    . cases h
    . next halpha =>
      split at h
      . cases h
      . next srcBytes hsrc =>
        have hdest : rvvPackedFormat img.destCf = some (if img.destCf = .rgb888 then 3 else 4) := by
          generalize img.destCf = destCf at hdestCf
          cases destCf
          all_goals first | rfl | simp at hdestCf
        have hpos : 0 < if img.destCf = .rgb888 then 3 else 4 := by
          split
          . omega
          . omega
        have hwrites := expand_writes hsrc hdest hpos (by
          intro hcf
          simpa [hcf] using halpha)
        have hsrcSize := expandSrcBytes_eq hsrc
        have hdestSize := rvvPackedFormat_eq hdest
        cases h
        refine ⟨hsrcSize.1, hdestSize.1, ?_⟩
        rw [rvvRun_mem hwrites]
        unfold Image.rvvMem
        rw [← hsrcSize.2, ← hdestSize.2]

theorem rvvPackFrom2432_mem {hart : Hart} {img : Image} {s s' : VState}
    (h : rvvPackFrom2432 hart img s = some s')
    : img.srcCf.Supported ∧ img.destCf.Supported ∧ s'.mem = img.rvvMem s.mem := by
  unfold rvvPackFrom2432 at h
  split at h
  . next srcBytes destBytes hsrc hdest =>
    have hsrcSize := packSrcBytes_eq hsrc
    have hdestSize := packDestBytes_eq hdest
    have hpos := (lvColorFormatGetSize_supported hdestSize.1).1
    rw [← hdestSize.2] at hpos
    cases h
    refine ⟨hsrcSize.1, hdestSize.1, ?_⟩
    rw [rvvRun_mem (pack_writes hsrc hdest hpos)]
    unfold Image.rvvMem
    rw [← hsrcSize.2, ← hdestSize.2]
  . cases h

theorem packed_ops {destCf : ColorFormat} {n : Nat} (hn : rvvPackedFormat destCf = some n)
    (ops : List Op)
    : (ops ++ if n = 3 then [] else opaqueOps destCf) = ops ++ opaqueOps destCf := by
  cases destCf
  all_goals first
    | cases hn
      rfl
    | cases hn

theorem rvvConvertPacked_mem {hart : Hart} {img : Image} {s s' : VState}
    (h : rvvConvertPacked hart img s = some s')
    : img.srcCf.Supported ∧ img.destCf.Supported ∧ s'.mem = img.rvvMem s.mem := by
  unfold rvvConvertPacked at h
  split at h
  . next srcBytes destBytes hsrc hdest =>
    have hsrcSize := rvvPackedFormat_eq hsrc
    have hdestSize := rvvPackedFormat_eq hdest
    have hpos := (lvColorFormatGetSize_supported hdestSize.1).1
    rw [← hdestSize.2] at hpos
    simp only [packed_ops hdest] at h
    split at h
    . cases h
    . next hguard =>
      rw [Decidable.not_and_iff_not_or_not, Decidable.not_not, Decidable.not_not] at hguard
      cases h
      refine ⟨hsrcSize.1, hdestSize.1, ?_⟩
      rw [rvvRun_mem (packed_writes hsrc hdest hpos hguard)]
      unfold Image.rvvMem
      rw [← hsrcSize.2, ← hdestSize.2]
  . cases h

theorem RvvHandles.mem {hart : Hart} {img : Image} {s s' : VState} (h : RvvHandles hart img s s')
    : img.srcCf.Supported ∧ img.destCf.Supported ∧ s'.mem = img.rvvMem s.mem := by
  cases h with
  | inl h => exact rvvExpandToRgb_mem h
  | inr h =>
    cases h with
    | inl h => exact rvvPackFrom2432_mem h
    | inr h => exact rvvConvertPacked_mem h

def Image.channelsWithinAlpha (img : Image) (a : Nat) : Prop :=
  (img.srcMem a).toNat ≤ (img.srcMem (a + 3)).toNat
    ∧ (img.srcMem (a + 1)).toNat ≤ (img.srcMem (a + 3)).toNat
    ∧ (img.srcMem (a + 2)).toNat ≤ (img.srcMem (a + 3)).toNat

instance (img : Image) (a : Nat) : Decidable (img.channelsWithinAlpha a) :=
  inferInstanceAs (Decidable (_ ∧ _))

theorem premultiply_channel {channel alpha : Byte} (h : channel.toNat ≤ alpha.toNat)
    : premultiply (if alpha ≠ 0 ∧ alpha ≠ 0xff then unpremultiply channel alpha else channel) alpha
        = channel := by
  split
  . next hedge => exact premultiply_unpremultiply h hedge.1 hedge.2
  . next hedge =>
    rw [Decidable.not_and_iff_not_or_not, Decidable.not_not, Decidable.not_not] at hedge
    cases hedge with
    | inl hzero =>
      have hchannel : channel = 0 := by
        apply BitVec.eq_of_toNat_eq
        rw [hzero] at h
        exact Nat.le_zero.mp h
      rw [hzero, hchannel]
      rfl
    | inr hmax =>
      rw [hmax]
      exact premultiply_max channel

theorem Image.rvvBytes_eq_scalarBytes {img : Image} {a : Nat}
    (h : img.srcCf = .argb8888Premultiplied → img.destCf = .argb8888Premultiplied →
      img.channelsWithinAlpha a)
    : img.rvvBytes a = img.scalarBytes a := by
  unfold Image.rvvBytes
  split
  . next hcopy =>
    have hchannels := h hcopy.1 hcopy.2
    have hpx : readPixel img.srcMem a .argb8888Premultiplied
        = some
            (let unpremultiplied := fun channel =>
              if img.srcMem (a + 3) ≠ 0 ∧ img.srcMem (a + 3) ≠ 0xff then
                unpremultiply channel (img.srcMem (a + 3))
              else
                channel
            {
              blue := unpremultiplied (img.srcMem a)
              green := unpremultiplied (img.srcMem (a + 1))
              red := unpremultiplied (img.srcMem (a + 2))
              alpha := img.srcMem (a + 3)
            }) := by
      unfold readPixel
      dsimp only
      split
      . rfl
      . rfl
    unfold Image.scalarBytes convertPixel
    rw [hcopy.1, hcopy.2]
    rw [hpx]
    simp only [reduceCtorEq, decide_false, Bool.and_false, Pixel.swapRgb, Bool.false_eq_true,
      ↓reduceIte, writePixel, Option.getD_some]
    rw [premultiply_channel hchannels.1]
    rw [premultiply_channel hchannels.2.1]
    rw [premultiply_channel hchannels.2.2]
  . rfl

def Image.InDestRows (img : Image) (a : Nat) : Prop :=
  ∃ y, y < img.height ∧ img.dest + img.destStride * y ≤ a
    ∧ a < img.dest + img.destStride * y + lvColorFormatGetSize img.destCf * img.width

/--
Whatever vector lengths and tail elements the hart chooses. A premultiplied image is copied as it
is, which the scalar path does as well as long as no channel exceeds its alpha.
-/
theorem rvvHandles_eq_scalarConvert (hart : Hart) (img : Image) (s s' : VState)
    (hwidth : 4 * img.width ≤ 2 ^ 32)
    (halpha : img.srcCf = .argb8888Premultiplied → img.destCf = .argb8888Premultiplied →
      ∀ y, y < img.height → ∀ x, x < img.width →
        img.channelsWithinAlpha (img.src + img.srcStride * y + 4 * x))
    (h : RvvHandles hart img s s')
    : scalarConvert img s.mem = some s'.mem ∧ ∀ a, ¬img.InDestRows a → s'.mem a = s.mem a := by
  have hmem := h.mem
  have hscalar := scalarConvert_eq hmem.1 hmem.2.1 hwidth s.mem
  have hbytes : img.rvvMem s.mem = writeRows (lvColorFormatGetSize img.destCf)
      (fun row j =>
        img.scalarBytes (img.src + img.srcStride * row + lvColorFormatGetSize img.srcCf * j))
      img.destStride img.width img.height 0 img.dest s.mem := by
    unfold Image.rvvMem
    apply writeRows_congr
    intro y x hy hx
    apply Image.rvvBytes_eq_scalarBytes
    intro hsrc hdest
    rw [hsrc]
    exact halpha hsrc hdest y (by simpa using hy) x hx
  rw [hmem.2.2]
  constructor
  . rw [hscalar]
    rw [hbytes]
  . intro a ha
    rw [hbytes]
    apply writeRows_of_not_mem
    . intro row j
      exact (Image.convertPixel_eq hmem.1 hmem.2.1 _).2
    . intro y hy hrow
      exact ha ⟨y, hy, hrow⟩

def wholeRow : Hart :=
  {
    vsetvli := fun _ avl => avl
    tail := fun _ regs => regs
    vsetvli_pos := fun _ _ h => h
    vsetvli_le := fun _ avl => Nat.le_refl avl
  }

def blank : VState :=
  {
    regs := fun _ _ => 0
    mem := fun _ => 0
  }

/-
A hart that takes no more than two pixels at once, and leaves ones in the elements past them.
-/
def pairwise : Hart :=
  {
    vsetvli := fun _ avl => min avl 2
    tail := fun _ _ _ _ => 0xff
    vsetvli_pos := fun _ _ h => Nat.lt_min.mpr ⟨h, by decide⟩
    vsetvli_le := fun _ avl => Nat.min_le_left avl 2
  }

/-
Two rows of three premultiplied pixels, with four bytes between the rows of the source and eight between those of the
destination.
-/
def premultipliedRows : Image :=
  {
    dest := 4
    destStride := 20
    destCf := .argb8888Premultiplied
    srcMem := fun a =>
      [10, 20, 30, 40, 0, 0, 0, 0, 255, 128, 1, 255, 9, 9, 9, 9,
        1, 2, 3, 3, 7, 7, 7, 7, 100, 99, 98, 200].getD a 0
    src := 0
    srcStride := 16
    srcCf := .argb8888Premultiplied
    width := 3
    height := 2
    sourceIsRgb := false
  }

def copiedBy (hart : Hart) (img : Image) : VState :=
  (rvvConvertPacked hart img blank).getD blank

theorem premultipliedRows_eq_scalarConvert
    : scalarConvert premultipliedRows blank.mem = some (copiedBy pairwise premultipliedRows).mem
        ∧ ∀ a, ¬premultipliedRows.InDestRows a →
            (copiedBy pairwise premultipliedRows).mem a = blank.mem a :=
  rvvHandles_eq_scalarConvert pairwise premultipliedRows blank (copiedBy pairwise premultipliedRows)
    (by decide) (by decide) (.inr (.inr rfl))

def premultipliedPixel (blue green red alpha : Byte) : Image :=
  {
    dest := 0
    destStride := 4
    destCf := .argb8888Premultiplied
    srcMem := fun a => [blue, green, red, alpha].getD a 0
    src := 0
    srcStride := 4
    srcCf := .argb8888Premultiplied
    width := 1
    height := 1
    sourceIsRgb := false
  }

/-
A fully transparent pixel with a blue channel: the vector path copies the blue, the scalar path
multiplies it away.
-/
theorem transparentPixel_ne_scalarConvert
    : ¬∀ (hart : Hart) (img : Image) (s s' : VState), 4 * img.width ≤ 2 ^ 32 →
        RvvHandles hart img s s' →
          scalarConvert img s.mem = some s'.mem
            ∧ ∀ a, ¬img.InDestRows a → s'.mem a = s.mem a := by
  intro h
  have hcopy := h wholeRow (premultipliedPixel 255 0 0 0) blank
    (copiedBy wholeRow (premultipliedPixel 255 0 0 0)) (by decide) (.inr (.inr rfl))
  have hblue : (scalarConvert (premultipliedPixel 255 0 0 0) blank.mem).map (fun mem => mem 0)
      = some ((copiedBy wholeRow (premultipliedPixel 255 0 0 0)).mem 0) := by
    rw [hcopy.1]
    rfl
  revert hblue
  decide

end Lvgl

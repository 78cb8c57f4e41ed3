import RtsmartLib.Lib.RvvGroups

/-!
This module contains the vector fills of the LVGL software renderer, and what the self test of the
renderer compares them with.
-/

namespace Lvgl

open Lib Lib.RvvGroups
open Lib.Rvv (VReg)

structure LvColor where
  blue : Byte
  green : Byte
  red : Byte

/--
What LVGL says: `LV_OPA_MAX` and `lv_color_to_u32`.
-/
structure LvColorApi where
  opaMax : Byte
  colorToU32 : LvColor → BitVec 32

structure LvColorApi.Documented (lvgl : LvColorApi) : Prop where
  opaMax_pos : 0 < lvgl.opaMax
  colorToU32_eq : ∀ color, (lvgl.colorToU32 color).toNat
    = 0xff * 2 ^ 24 + color.red.toNat * 2 ^ 16 + color.green.toNat * 2 ^ 8 + color.blue.toNat

structure LvDrawSwBlendFillDsc where
  destBuf : Option Nat
  destW : Int
  destH : Int
  destStride : Int
  maskBuf : Option Nat
  maskStride : Int
  color : LvColor
  opa : Byte

inductive LvResult where
  | invalid
  | ok
  deriving DecidableEq, Repr

def rvvMinRowPixels : Int := 8

def rvvCanHandle (rvvEnabled : Bool) (dsc : LvDrawSwBlendFillDsc) (destPxSize : Nat) : Bool :=
  rvvEnabled && dsc.destBuf.isSome && rvvMinRowPixels ≤ dsc.destW && 0 < dsc.destH
    && (destPxSize = 3 || destPxSize = 4)

/-
Both vector types, `e8, m2` and `e32, m8`, have two registers to a group of bytes.
-/
def byteGroup : Nat := 2

def rvvFillStrip (color : BitVec 32) (destPxSize dest : Nat) : Strip :=
  let blue := (color &&& 0xff).setWidth 8
  let green := (color >>> 8 &&& 0xff).setWidth 8
  let red := (color >>> 16 &&& 0xff).setWidth 8
  let alpha := (color >>> 24).setWidth 8
  if destPxSize = 4 ∧ dest % 4 = 0 then
    {
      ops := [.vmvVX32 0 color]
      store := .vse32 0
      base := dest
    }
  else if destPxSize = 4 then
    {
      ops := [.vmvVX8 0 blue, .vmvVX8 2 green, .vmvVX8 4 red, .vmvVX8 6 alpha]
      store := .vsseg8 4 0
      base := dest
    }
  else
    {
      ops := [.vmvVX8 0 blue, .vmvVX8 2 green, .vmvVX8 4 red]
      store := .vsseg8 3 0
      base := dest
    }

def pixelLoadOps (destPxSize dest : Nat) : List Op :=
  if destPxSize = 4 then [.vlseg8 4 8 .buffer dest, .vmvVV8 30 14] else [.vlseg8 3 8 .buffer dest]

def mixValueOps (mask : Option Nat) (combineMask : Bool) (opacity : Byte) : List Op :=
  match mask with
  | some mask =>
    .vlseg8 1 16 .constant mask
      :: if combineMask then [.vwmuluVX8 20 16 opacity, .vnsrlWI8 16 20 8] else []
  | none => [.vmvVX8 16 opacity]

def channelOps (channel threshold : Byte) (vs vd : VReg) : List Op :=
  [
    .vwmuluVX8 20 16 channel,
    .vwmaccuVV8 20 vs 18,
    .vnsrlWI8 vd 20 8,
    .vmseqVI8 0 16 0,
    .vmergeVVM8 vd vd vs,
    .vmsgtuVX8 0 16 threshold,
    .vmergeVXM8 vd vd channel
  ]

def rvvMixColorStrip (opaMax : Byte) (destPxSize : Nat) (color : LvColor) (mask : Option Nat)
    (opacity : Byte) (combineMask : Bool) (dest : Nat) : Strip :=
  let threshold := opaMax - 1
  {
    ops :=
      pixelLoadOps destPxSize dest ++ (mixValueOps mask combineMask opacity ++ (.vrsubVX8 18 16 255
        :: (channelOps color.blue threshold 8 24 ++ (channelOps color.green threshold 10 26
          ++ channelOps color.red threshold 12 28))))
    store := if destPxSize = 4 then .vsseg8 4 24 else .vsseg8 3 24
    base := dest
  }

section

variable (lvgl : LvColorApi) (hart : Hart) (rvvEnabled : Bool) (maskMem : Memory)

def LvDrawSwBlendFillDsc.rows (dsc : LvDrawSwBlendFillDsc) (strip : Nat → Nat → Strip)
    (destPxSize : Nat) (mask : Option Nat) (s : VState) : Option VState :=
  stripRows hart byteGroup maskMem strip destPxSize dsc.destStride dsc.maskStride dsc.destW.toNat
    dsc.destH.toNat 0 (dsc.destBuf.getD 0) (mask.getD 0) s

def rvvColorToRgb888 (dsc : LvDrawSwBlendFillDsc) (destPxSize : Nat) (mask : Option Nat)
    (combineMask : Bool) (s : VState) : LvResult × Option VState :=
  if !rvvCanHandle rvvEnabled dsc destPxSize then
    (.invalid, some s)
  else
    let strip := fun dest maskRow =>
      rvvMixColorStrip lvgl.opaMax destPxSize dsc.color (mask.map fun _ => maskRow) dsc.opa combineMask
        dest
    (.ok, dsc.rows hart maskMem strip destPxSize mask s)

def lvK230RvvColorToRgb888 (dsc : LvDrawSwBlendFillDsc) (destPxSize : Nat) (s : VState)
    : LvResult × Option VState :=
  if !rvvCanHandle rvvEnabled dsc destPxSize then
    (.invalid, some s)
  else
    let color := lvgl.colorToU32 dsc.color
    (.ok, dsc.rows hart maskMem (fun dest _ => rvvFillStrip color destPxSize dest) destPxSize none s)

def lvK230RvvColorToRgb888WithOpa (dsc : LvDrawSwBlendFillDsc) (destPxSize : Nat) (s : VState)
    : LvResult × Option VState :=
  rvvColorToRgb888 lvgl hart rvvEnabled maskMem dsc destPxSize none false s

def lvK230RvvColorToRgb888WithMask (dsc : LvDrawSwBlendFillDsc) (destPxSize : Nat) (s : VState)
    : LvResult × Option VState :=
  rvvColorToRgb888 lvgl hart rvvEnabled maskMem dsc destPxSize dsc.maskBuf false s

def lvK230RvvColorToRgb888WithOpaMask (dsc : LvDrawSwBlendFillDsc) (destPxSize : Nat) (s : VState)
    : LvResult × Option VState :=
  rvvColorToRgb888 lvgl hart rvvEnabled maskMem dsc destPxSize dsc.maskBuf true s

def lvK230RvvColorToArgb8888 (dsc : LvDrawSwBlendFillDsc) (s : VState) : LvResult × Option VState :=
  if !rvvCanHandle rvvEnabled dsc 4 then
    (.invalid, some s)
  else
    let color := lvgl.colorToU32 dsc.color
    (.ok, dsc.rows hart maskMem (fun dest _ => rvvFillStrip color 4 dest) 4 none s)

end

def referenceChannel (channel mix old : Byte) : Byte :=
  let inverse := 255 - mix.setWidth 32
  ((channel.setWidth 32 * mix.setWidth 32 + old.setWidth 32 * inverse) >>> 8).setWidth 8

def referenceMix (opaMax : Byte) (dest : Nat) (color : LvColor) (mix : Byte) (mem : Memory) : Memory :=
  if mix = 0 then
    mem
  else if opaMax ≤ mix then
    writeBytes dest [color.blue, color.green, color.red] mem
  else
    writeBytes dest
      [
        referenceChannel color.blue mix (mem dest),
        referenceChannel color.green mix (mem (dest + 1)),
        referenceChannel color.red mix (mem (dest + 2))
      ]
      mem

/-
What the self test expects of a pixel of the plain fill.
-/
def referenceFill (destPxSize dest : Nat) (color : LvColor) (mem : Memory) : Memory :=
  if destPxSize = 4 then
    writeBytes dest [color.blue, color.green, color.red, 0xff] mem
  else
    writeBytes dest [color.blue, color.green, color.red] mem

/-
What the self test mixes in at one pixel.
-/
def mixValue (mask : Option Byte) (combineMask : Bool) (opacity : Byte) : Byte :=
  match mask with
  | some mask =>
    if combineMask then ((mask.setWidth 32 * opacity.setWidth 32) >>> 8).setWidth 8 else mask
  | none => opacity

namespace LvDrawSwBlendFillDsc

def pixel (dsc : LvDrawSwBlendFillDsc) (destPxSize y x : Nat) : Nat :=
  (dsc.destBuf.getD 0 + dsc.destStride * y).toNat + destPxSize * x

def mixAt (dsc : LvDrawSwBlendFillDsc) (maskMem : Memory) (mask : Option Nat) (combineMask : Bool)
    (y x : Nat) : Byte :=
  mixValue (mask.map fun mask => maskMem ((mask + dsc.maskStride * y).toNat + x)) combineMask dsc.opa

/-
The loops of the self test, over the rows and over the pixels of each.
-/
def eachPixel (dsc : LvDrawSwBlendFillDsc) (f : Nat → Nat → Memory → Memory) (mem : Memory)
    : Memory :=
  (List.range dsc.destH.toNat).foldl
    (fun mem y => (List.range dsc.destW.toNat).foldl (fun mem x => f y x mem) mem)
    mem

end LvDrawSwBlendFillDsc

/-
What the instructions make of one channel.
-/
def mixChannel (threshold channel mix old : Byte) : Byte :=
  if threshold < mix then
    channel
  else if mix = 0 then
    old
  else
    ((mix.setWidth 16 * channel.setWidth 16 + old.setWidth 16 * (255 - mix).setWidth 16) >>> 8).setWidth 8

section

variable {load : Space → Memory} {j : Nat} {l l' : Lane}

theorem channelOps_lane {channel threshold : Byte} {vs vd : Nat}
    (h : LaneOps byteGroup load j (channelOps channel threshold vs vd) l l') (hvs : 2 ≤ vs ∧ vs + 2 ≤ 16)
    (hvd : 24 ≤ vd) (hinverse : l.e8 18 = 255 - l.e8 16)
    : l'.e8 vd = mixChannel threshold channel (l.e8 16) (l.e8 vs)
        ∧ ∀ r, 2 ≤ r ∧ r + 2 ≤ 20 ∨ 24 ≤ r ∧ (r + 2 ≤ vd ∨ vd + 2 ≤ r) → l'.e8 r = l.e8 r := by
  obtain ⟨_, _, _, _, _, _, _, rfl⟩ := h
  unfold byteGroup
  constructor
  . simp (disch := omega) only [Op.lane, Lane.setE8_self, Lane.setE8_e8,
      Lane.setE16_self, Lane.setE16_e8, Lane.setBit_self, Lane.setBit_e8]
    unfold mixChannel
    rw [hinverse]
    simp only [decide_eq_true_eq, beq_iff_eq]
    rfl
  . intro r hr
    simp (disch := omega) only [Op.lane, Lane.setE8_e8, Lane.setE16_e8, Lane.setBit_e8]

theorem pixelLoadOps_lane {destPxSize dest : Nat} (hpx : destPxSize = 3 ∨ destPxSize = 4)
    (h : LaneOps byteGroup load j (pixelLoadOps destPxSize dest) l l')
    : (∀ k : Nat, k < 3 → l'.e8 (8 + k * 2) = load .buffer (dest + destPxSize * j + k))
        ∧ (destPxSize = 4 → l'.e8 30 = load .buffer (dest + 4 * j + 3)) := by
  unfold pixelLoadOps byteGroup at h
  cases hpx with
  | inl hpx =>
    subst hpx
    obtain ⟨_, rfl⟩ := h
    constructor
    . intro k hk
      simp only [Op.lane]
      exact Lane.setSegments_e8_self (by decide) hk _
    . intro hpx
      cases hpx
  | inr hpx =>
    subst hpx
    obtain ⟨_, _, rfl⟩ := h
    constructor
    . intro k hk
      simp only [Op.lane]
      rw [Lane.setE8_e8 (by decide) (by omega)]
      exact Lane.setSegments_e8_self (by decide) (by omega) _
    . intro _
      simp only [Op.lane, Lane.setE8_self]
      exact @Lane.setSegments_e8_self 2 _ _ 8 (by decide) 4 3 (by decide) _

theorem mulHigh_eq (a b : Byte)
    : ((a.setWidth 16 * b.setWidth 16) >>> 8).setWidth 8
        = ((a.setWidth 32 * b.setWidth 32) >>> 8).setWidth 8 := by
  have hmul : a.toNat * b.toNat ≤ 255 * 255 :=
    Nat.mul_le_mul (by omega) (by omega)
  apply BitVec.eq_of_toNat_eq
  simp only [BitVec.toNat_setWidth, BitVec.toNat_ushiftRight, BitVec.toNat_mul]
  rw [Nat.mod_eq_of_lt (show a.toNat < 2 ^ 16 by omega)]
  rw [Nat.mod_eq_of_lt (show b.toNat < 2 ^ 16 by omega)]
  rw [Nat.mod_eq_of_lt (show a.toNat < 2 ^ 32 by omega)]
  rw [Nat.mod_eq_of_lt (show b.toNat < 2 ^ 32 by omega)]
  rw [Nat.mod_eq_of_lt (show a.toNat * b.toNat < 2 ^ 16 by omega)]
  rw [Nat.mod_eq_of_lt (show a.toNat * b.toNat < 2 ^ 32 by omega)]

theorem mixValueOps_lane {mask : Option Nat} {combineMask : Bool} {opacity : Byte}
    (h : LaneOps byteGroup load j (mixValueOps mask combineMask opacity) l l')
    : l'.e8 16 = mixValue (mask.map fun mask => load .constant (mask + j)) combineMask opacity
        ∧ ∀ r : Nat, 2 ≤ r ∧ r + 2 ≤ 16 ∨ 24 ≤ r → l'.e8 r = l.e8 r := by
  unfold mixValueOps byteGroup at h
  cases mask with
  | none =>
    obtain ⟨_, rfl⟩ := h
    constructor
    . simp only [Op.lane, Lane.setE8_self]
      rfl
    . intro r hr
      simp (disch := omega) only [Op.lane, Lane.setE8_e8]
  | some mask =>
    cases combineMask with
    | false =>
      obtain ⟨_, rfl⟩ := h
      constructor
      . simp (disch := decide) only [Op.lane, Lane.setSegments_one, Nat.one_mul, Nat.add_zero]
        rfl
      . intro r hr
        simp (disch := omega) only [Op.lane, Lane.setSegments_e8]
    | true =>
      obtain ⟨_, _, _, rfl⟩ := h
      constructor
      . simp (disch := decide) only [Op.lane, Lane.setE8_self, Lane.setE16_self, Lane.setSegments_one,
          Nat.one_mul, Nat.add_zero]
        rw [mulHigh_eq]
        rfl
      . intro r hr
        simp (disch := omega) only [Op.lane, Lane.setE8_e8, Lane.setE16_e8, Lane.setSegments_e8]

/-
What a strip of the mix leaves in the groups that it stores.
-/
theorem rvvMixColorStrip_lane {opaMax : Byte} {destPxSize dest : Nat} {color : LvColor}
    {mask : Option Nat} {opacity : Byte} {combineMask : Bool}
    (hpx : destPxSize = 3 ∨ destPxSize = 4)
    (h : LaneOps byteGroup load j
      (rvvMixColorStrip opaMax destPxSize color mask opacity combineMask dest).ops l l')
    {mix : Byte}
    (hmix : mix = mixValue (mask.map fun mask => load .constant (mask + j)) combineMask opacity)
    {src : Nat} (hsrc : src = dest + destPxSize * j)
    : l'.e8 24 = mixChannel (opaMax - 1) color.blue mix (load .buffer src)
        ∧ l'.e8 26 = mixChannel (opaMax - 1) color.green mix (load .buffer (src + 1))
        ∧ l'.e8 28 = mixChannel (opaMax - 1) color.red mix (load .buffer (src + 2))
        ∧ (destPxSize = 4 → l'.e8 30 = load .buffer (src + 3)) := by
  unfold rvvMixColorStrip at h
  dsimp only at h
  obtain ⟨loaded, hload, h⟩ := h.append
  obtain ⟨valued, hvalue, h⟩ := h.append
  obtain ⟨junk, h⟩ := h
  obtain ⟨mixedBlue, hblue, h⟩ := h.append
  obtain ⟨mixedGreen, hgreen, hred⟩ := h.append
  obtain ⟨hpixel, halpha⟩ := pixelLoadOps_lane hpx hload
  obtain ⟨hvalue, hvalueKept⟩ := mixValueOps_lane hvalue
  generalize hready : Op.lane byteGroup load j junk (.vrsubVX8 18 16 255) valued = ready at hblue
  have hreadyKept : ∀ r : Nat, 2 ≤ r ∧ r + 2 ≤ 18 ∨ 20 ≤ r → ready.e8 r = valued.e8 r := by
    intro r hr
    rw [← hready]
    unfold byteGroup
    simp (disch := omega) only [Op.lane, Lane.setE8_e8]
  have hinverse : ready.e8 18 = 255 - ready.e8 16 := by
    rw [hreadyKept 16 (by decide), ← hready]
    simp only [Op.lane, Lane.setE8_self]
  have hmixReady : ready.e8 16 = mix := by
    rw [hreadyKept 16 (by decide), hvalue, hmix]
  have hpixelReady : ∀ k : Nat, k < 3 → ready.e8 (8 + k * 2) = load .buffer (src + k) := by
    intro k hk
    rw [hreadyKept _ (by omega), hvalueKept _ (by omega), hpixel k hk, hsrc]
  have hblueReady : ready.e8 8 = load .buffer src := hpixelReady 0 (by decide)
  have hgreenReady : ready.e8 10 = load .buffer (src + 1) := hpixelReady 1 (by decide)
  have hredReady : ready.e8 12 = load .buffer (src + 2) := hpixelReady 2 (by decide)
  -- every channel finds the pixel and the value as the one before it has found them
  obtain ⟨hblue, hblueKept⟩ := channelOps_lane hblue (by decide) (by decide) hinverse
  have hinverse : mixedBlue.e8 18 = 255 - mixedBlue.e8 16 := by
    rw [hblueKept 18 (by decide), hblueKept 16 (by decide), hinverse]
  obtain ⟨hgreen, hgreenKept⟩ := channelOps_lane hgreen (by decide) (by decide) hinverse
  have hinverse : mixedGreen.e8 18 = 255 - mixedGreen.e8 16 := by
    rw [hgreenKept 18 (by decide), hgreenKept 16 (by decide), hinverse]
  obtain ⟨hred, hredKept⟩ := channelOps_lane hred (by decide) (by decide) hinverse
  refine ⟨?_, ?_, ?_, ?_⟩
  . rw [hredKept 24 (by decide), hgreenKept 24 (by decide), hblue, hmixReady, hblueReady]
  . rw [hredKept 26 (by decide), hgreen, hblueKept 16 (by decide), hblueKept 10 (by decide)]
    rw [hmixReady, hgreenReady]
  . rw [hred, hgreenKept 16 (by decide), hgreenKept 12 (by decide)]
    rw [hblueKept 16 (by decide), hblueKept 12 (by decide)]
    rw [hmixReady, hredReady]
  . intro hfour
    rw [hredKept 30 (by decide), hgreenKept 30 (by decide), hblueKept 30 (by decide)]
    rw [hreadyKept 30 (by decide), hvalueKept 30 (by decide), halpha hfour, hsrc, hfour]

end

/-
The pixel that a strip stores, with the alpha byte, if there is one, as it was.
-/
def mixPixel (threshold : Byte) (color : LvColor) (mix : Byte) (old : List Byte) : List Byte :=
  [
    mixChannel threshold color.blue mix (old.getD 0 0),
    mixChannel threshold color.green mix (old.getD 1 0),
    mixChannel threshold color.red mix (old.getD 2 0)
  ] ++ old.drop 3

theorem mixPixel_readBytes (threshold : Byte) (color : LvColor) (mix : Byte) (mem : Memory) (a : Nat)
    {destPxSize : Nat} (hpx : destPxSize = 3 ∨ destPxSize = 4)
    : mixPixel threshold color mix (readBytes mem a destPxSize)
        = [
            mixChannel threshold color.blue mix (mem a),
            mixChannel threshold color.green mix (mem (a + 1)),
            mixChannel threshold color.red mix (mem (a + 2))
          ] ++ readBytes mem (a + 3) (destPxSize - 3) := by
  unfold mixPixel
  rw [getD_readBytes mem a (show 0 < destPxSize by omega)]
  rw [getD_readBytes mem a (show 1 < destPxSize by omega)]
  rw [getD_readBytes mem a (show 2 < destPxSize by omega)]
  rw [drop_readBytes]
  rfl

theorem rvvMixColorStrip_updates (opaMax : Byte) {destPxSize : Nat} (color : LvColor)
    (mask : Option Nat) (opacity : Byte) (combineMask : Bool) (maskMem : Memory)
    (hpx : destPxSize = 3 ∨ destPxSize = 4)
    : Strip.Updates byteGroup destPxSize maskMem
        (fun aux => mixPixel (opaMax - 1) color
          (mixValue (mask.map fun _ => maskMem aux) combineMask opacity))
        (fun dest maskRow => rvvMixColorStrip opaMax destPxSize color (mask.map fun _ => maskRow)
          opacity combineMask dest) := by
  constructor
  . intro dest aux
    rfl
  . intro dest aux
    unfold rvvMixColorStrip
    cases hpx with
    | inl hpx =>
      subst hpx
      rfl
    | inr hpx =>
      subst hpx
      rfl
  . intro dest aux
    unfold rvvMixColorStrip
    dsimp only
    split
    . trivial
    . trivial
  . intro aux old hold
    simp only [mixPixel, List.length_append, List.length_cons, List.length_nil, List.length_drop, hold]
    omega
  . intro dest aux mem j l l' h
    have hmix : mixValue (mask.map fun _ => maskMem (aux + j)) combineMask opacity
        = mixValue ((mask.map fun _ => aux).map fun mask => spaces mem maskMem .constant (mask + j))
            combineMask opacity := by
      rw [Option.map_map]
      rfl
    obtain ⟨hblue, hgreen, hred, halpha⟩ := rvvMixColorStrip_lane hpx h hmix rfl
    rw [mixPixel_readBytes _ _ _ _ _ hpx]
    unfold rvvMixColorStrip
    cases hpx with
    | inl hpx =>
      subst hpx
      show [l'.e8 24, l'.e8 26, l'.e8 28] = _
      rw [hblue, hgreen, hred]
      rfl
    | inr hpx =>
      subst hpx
      show [l'.e8 24, l'.e8 26, l'.e8 28, l'.e8 30] = _
      rw [hblue, hgreen, hred, halpha rfl]
      rfl

theorem pred_lt_iff {opaMax : Byte} (hmax : 0 < opaMax) (mix : Byte)
    : opaMax - 1 < mix ↔ opaMax ≤ mix := by
  have hone : (1 : Byte).toNat = 1 := rfl
  have hmax : 0 < opaMax.toNat := hmax
  rw [BitVec.lt_def, BitVec.le_def, BitVec.toNat_sub, hone]
  omega

/-
The mix of two bytes does not overflow the wider elements.
-/
theorem mulAdd_eq (channel mix old : Byte)
    : ((mix.setWidth 16 * channel.setWidth 16 + old.setWidth 16 * (255 - mix).setWidth 16) >>> 8).setWidth 8
        = referenceChannel channel mix old := by
  unfold referenceChannel
  have hinverse : (255 - mix).toNat = 255 - mix.toNat := by
    rw [BitVec.toNat_sub, show (255 : Byte).toNat = 255 from rfl]
    omega
  have hinverse32 : (255 - mix.setWidth 32).toNat = 255 - mix.toNat := by
    rw [BitVec.toNat_sub, show (255 : BitVec 32).toNat = 255 from rfl, BitVec.toNat_setWidth]
    omega
  have hchannel : channel.toNat * mix.toNat ≤ 255 * mix.toNat :=
    Nat.mul_le_mul_right _ (by omega)
  have hold : old.toNat * (255 - mix.toNat) ≤ 255 * (255 - mix.toNat) :=
    Nat.mul_le_mul_right _ (by omega)
  apply BitVec.eq_of_toNat_eq
  simp only [BitVec.toNat_setWidth, BitVec.toNat_ushiftRight, BitVec.toNat_add, BitVec.toNat_mul,
    hinverse, hinverse32, Nat.mod_add_mod, Nat.add_mod_mod, Nat.mod_mul_mod, Nat.mul_mod_mod]
  rw [Nat.mul_comm mix.toNat]
  generalize channel.toNat * mix.toNat = a at hchannel ⊢
  generalize old.toNat * (255 - mix.toNat) = b at hold ⊢
  rw [Nat.mod_eq_of_lt (show a + b < 2 ^ 16 by omega)]
  rw [Nat.mod_eq_of_lt (show a + b < 2 ^ 32 by omega)]

theorem mixChannel_eq {opaMax : Byte} (hmax : 0 < opaMax) (channel mix old : Byte)
    : mixChannel (opaMax - 1) channel mix old
        = if mix = 0 then old else if opaMax ≤ mix then channel else referenceChannel channel mix old := by
  unfold mixChannel
  simp only [pred_lt_iff hmax, mulAdd_eq]
  by_cases hzero : mix = 0
  . have hnot : ¬opaMax ≤ mix := by
      rw [hzero, BitVec.le_def]
      rw [BitVec.lt_def] at hmax
      exact Nat.not_le_of_lt hmax
    rw [if_neg hnot, if_pos hzero, if_pos hzero]
  . rw [if_neg hzero, if_neg hzero]

/-
The alpha byte is stored as it was read.
-/
theorem mixPixel_reference {opaMax : Byte} (hmax : 0 < opaMax) {destPxSize : Nat}
    (hpx : destPxSize = 3 ∨ destPxSize = 4) (color : LvColor) (mix : Byte) (a : Nat) (mem : Memory)
    : writeBytes a (mixPixel (opaMax - 1) color mix (readBytes mem a destPxSize)) mem
        = referenceMix opaMax a color mix mem := by
  rw [mixPixel_readBytes _ _ _ _ _ hpx]
  rw [mixChannel_eq hmax, mixChannel_eq hmax, mixChannel_eq hmax]
  rw [writeBytes_append_readBytes (by rfl)]
  unfold referenceMix
  by_cases hzero : mix = 0
  . rw [if_pos hzero, if_pos hzero, if_pos hzero, if_pos hzero]
    exact writeBytes_readBytes a 3 mem
  . rw [if_neg hzero, if_neg hzero, if_neg hzero, if_neg hzero]
    by_cases hmaxMix : opaMax ≤ mix
    . rw [if_pos hmaxMix, if_pos hmaxMix, if_pos hmaxMix, if_pos hmaxMix]
    . rw [if_neg hmaxMix, if_neg hmaxMix, if_neg hmaxMix, if_neg hmaxMix]

theorem LvColorApi.Documented.bytes {lvgl : LvColorApi} (h : lvgl.Documented) (color : LvColor)
    : (List.range 4).map (fun k => (lvgl.colorToU32 color >>> (8 * k)).setWidth 8)
        = [color.blue, color.green, color.red, 0xff] := by
  have hcolor := h.colorToU32_eq color
  have hbyte : ∀ k (byte : Byte), (lvgl.colorToU32 color).toNat / 2 ^ (8 * k) % 2 ^ 8 = byte.toNat →
      (lvgl.colorToU32 color >>> (8 * k)).setWidth 8 = byte := by
    intro k byte hk
    apply BitVec.eq_of_toNat_eq
    rw [BitVec.toNat_setWidth, BitVec.toNat_ushiftRight, Nat.shiftRight_eq_div_pow, hk]
  simp only [List.range_succ, List.range_zero, List.nil_append, List.cons_append, List.map_cons,
    List.map_nil]
  rw [hbyte 0 color.blue (by omega)]
  rw [hbyte 1 color.green (by omega)]
  rw [hbyte 2 color.red (by omega)]
  rw [hbyte 3 0xff (by rw [show (0xff : Byte).toNat = 0xff from rfl]; omega)]

theorem setWidth_and_ff (c : BitVec 32) : (c &&& 0xff).setWidth 8 = c.setWidth 8 := by
  apply BitVec.eq_of_toNat_eq
  simp only [BitVec.toNat_setWidth, BitVec.toNat_and]
  rw [show (0xff : BitVec 32).toNat = 2 ^ 8 - 1 from rfl, Nat.and_two_pow_sub_one_eq_mod, Nat.mod_mod]

def fillBytes (destPxSize : Nat) (color : LvColor) : List Byte :=
  if destPxSize = 4 then
    [color.blue, color.green, color.red, 0xff]
  else
    [color.blue, color.green, color.red]

theorem rvvFillStrip_fields {color : BitVec 32} {destPxSize : Nat} (hpx : destPxSize = 3 ∨ destPxSize = 4)
    (dest : Nat)
    : let strip := rvvFillStrip color destPxSize dest
      strip.base = dest ∧ strip.store.size = destPxSize ∧ strip.store.Aligned dest := by
  unfold rvvFillStrip
  dsimp only
  split
  . next hword => exact ⟨rfl, hword.1.symm, hword.2⟩
  . split
    . next hfour => exact ⟨rfl, hfour.symm, trivial⟩
    . next hfour => exact ⟨rfl, (hpx.resolve_right hfour).symm, trivial⟩

/-
The aligned strip stores the word, the others its bytes one by one: the same bytes.
-/
theorem rvvFillStrip_bytes {lvgl : LvColorApi} (hlvgl : lvgl.Documented) {color : LvColor}
    {destPxSize dest j : Nat} {bufs : Space → Memory} {l l' : Lane}
    (h : LaneOps byteGroup bufs j (rvvFillStrip (lvgl.colorToU32 color) destPxSize dest).ops l l')
    : (rvvFillStrip (lvgl.colorToU32 color) destPxSize dest).store.bytes byteGroup l'
        = fillBytes destPxSize color := by
  have hbytes := hlvgl.bytes color
  unfold rvvFillStrip at h ⊢
  dsimp only at h ⊢
  split at h
  . next hword =>
    obtain ⟨_, rfl⟩ := h
    rw [if_pos hword]
    unfold fillBytes
    rw [if_pos hword.1, ← hbytes]
    simp only [Store.bytes, Op.lane, Lane.setE32_self]
  . next hword =>
    rw [if_neg hword]
    simp only [List.range_succ, List.range_zero, List.nil_append, List.cons_append, List.map_cons,
      List.map_nil, List.cons.injEq, and_true] at hbytes
    obtain ⟨hblue, hgreen, hred, halpha⟩ := hbytes
    rw [BitVec.ushiftRight_zero] at hblue
    simp only [setWidth_and_ff] at h ⊢
    split at h
    . next hfour =>
      obtain ⟨_, _, _, _, rfl⟩ := h
      unfold fillBytes byteGroup
      rw [if_pos hfour, if_pos hfour]
      simp (disch := decide) only [Store.bytes, Op.lane, List.range_succ, List.range_zero,
        List.nil_append, List.cons_append, List.map_cons, List.map_nil, Lane.setE8_self,
        Lane.setE8_e8, Nat.reduceMul, Nat.reduceAdd]
      rw [hblue, hgreen, hred, halpha]
    . next hfour =>
      obtain ⟨_, _, _, rfl⟩ := h
      unfold fillBytes byteGroup
      rw [if_neg hfour, if_neg hfour]
      simp (disch := decide) only [Store.bytes, Op.lane, List.range_succ, List.range_zero,
        List.nil_append, List.cons_append, List.map_cons, List.map_nil, Lane.setE8_self,
        Lane.setE8_e8, Nat.reduceMul, Nat.reduceAdd]
      rw [hblue, hgreen, hred]

theorem rvvFillStrip_updates {lvgl : LvColorApi} (hlvgl : lvgl.Documented) {destPxSize : Nat}
    (color : LvColor) (maskMem : Memory) (hpx : destPxSize = 3 ∨ destPxSize = 4)
    : Strip.Updates byteGroup destPxSize maskMem (fun _ _ => fillBytes destPxSize color)
        (fun dest _ => rvvFillStrip (lvgl.colorToU32 color) destPxSize dest) := by
  constructor
  . intro dest aux
    exact (rvvFillStrip_fields hpx dest).1
  . intro dest aux
    exact (rvvFillStrip_fields hpx dest).2.1
  . intro dest aux
    exact (rvvFillStrip_fields hpx dest).2.2
  . intro aux old _
    unfold fillBytes
    split
    . next hfour => exact hfour.symm
    . next hfour => exact (hpx.resolve_right hfour).symm
  . intro dest aux mem j l l' h
    exact rvvFillStrip_bytes hlvgl h

theorem foldl_untouched {α : Type} {f : Memory → α → Memory} {a : Nat} {l : List α}
    (h : ∀ x ∈ l, ∀ mem, f mem x a = mem a) (mem : Memory)
    : l.foldl f mem a = mem a := by
  induction l generalizing mem with
  | nil => rfl
  | cons x l ih =>
    rw [List.forall_mem_cons] at h
    rw [List.foldl_cons, ih h.2, h.1]

namespace LvDrawSwBlendFillDsc

/-
The bytes that a fill may write: the first `n` of each pixel.
-/
def Covers (dsc : LvDrawSwBlendFillDsc) (destPxSize n a : Nat) : Prop :=
  ∃ y x c, y < dsc.destH.toNat ∧ x < dsc.destW.toNat ∧ c < n ∧ a = dsc.pixel destPxSize y x + c

/--
The fill is handled exactly if `rvv_can_handle` says so, and then leaves what the pixels, one after another,
make of the buffer.
-/
structure Exact (dsc : LvDrawSwBlendFillDsc) (rvvEnabled : Bool) (destPxSize n : Nat)
    (f : Nat → Nat → Memory → Memory) (s : VState) (result : LvResult × Option VState) : Prop where
  handled : rvvCanHandle rvvEnabled dsc destPxSize = true →
    result.1 = .ok ∧ ∃ s', result.2 = some s' ∧ s'.mem = dsc.eachPixel f s.mem
      ∧ ∀ a, ¬dsc.Covers destPxSize n a → s'.mem a = s.mem a
  refused : rvvCanHandle rvvEnabled dsc destPxSize = false → result = (.invalid, some s)

theorem eachPixel_untouched {dsc : LvDrawSwBlendFillDsc} {destPxSize n : Nat}
    {f : Nat → Nat → Memory → Memory}
    (hf : ∀ y x mem a, ¬(dsc.pixel destPxSize y x ≤ a ∧ a < dsc.pixel destPxSize y x + n) →
      f y x mem a = mem a)
    {a : Nat} (ha : ¬dsc.Covers destPxSize n a) (mem : Memory)
    : dsc.eachPixel f mem a = mem a := by
  unfold eachPixel
  apply foldl_untouched
  intro y hy mem
  apply foldl_untouched
  intro x hx mem
  apply hf
  intro h
  apply ha
  refine ⟨y, x, a - dsc.pixel destPxSize y x, List.mem_range.mp hy, List.mem_range.mp hx, ?_, ?_⟩
  . omega
  . omega

theorem rows_exact {dsc : LvDrawSwBlendFillDsc} {rvvEnabled : Bool} {destPxSize n : Nat}
    {update : Nat → List Byte → List Byte} {strip : Nat → Nat → Strip} {maskMem : Memory}
    (h : destPxSize = 3 ∨ destPxSize = 4 → Strip.Updates byteGroup destPxSize maskMem update strip)
    {mask : Option Nat} {f : Nat → Nat → Memory → Memory}
    (hf : destPxSize = 3 ∨ destPxSize = 4 → ∀ y x mem,
      writeBytes (dsc.pixel destPxSize y x)
          (update ((mask.getD 0 + dsc.maskStride * y).toNat + x)
            (readBytes mem (dsc.pixel destPxSize y x) destPxSize)) mem
        = f y x mem)
    (huntouched : destPxSize = 3 ∨ destPxSize = 4 → ∀ y x mem a,
      ¬(dsc.pixel destPxSize y x ≤ a ∧ a < dsc.pixel destPxSize y x + n) → f y x mem a = mem a)
    (hart : Hart) (s : VState) {result : LvResult × Option VState}
    (hresult : result = if !rvvCanHandle rvvEnabled dsc destPxSize then (.invalid, some s)
      else (.ok, dsc.rows hart maskMem strip destPxSize mask s))
    : dsc.Exact rvvEnabled destPxSize n f s result := by
  rw [hresult]
  constructor
  . intro hhandle
    have hpx : destPxSize = 3 ∨ destPxSize = 4 := by
      unfold rvvCanHandle at hhandle
      simp only [Bool.and_eq_true, Bool.or_eq_true, decide_eq_true_eq] at hhandle
      exact hhandle.2
    obtain ⟨s', hs', hmem⟩ := Option.map_eq_some_iff.mp
      (stripRows_mem (h hpx) hart dsc.destStride dsc.maskStride dsc.destW.toNat dsc.destH.toNat
        (dsc.destBuf.getD 0) (mask.getD 0) s)
    have heach : s'.mem = dsc.eachPixel f s.mem := by
      rw [hmem]
      unfold updateRows updateElems eachPixel
      simp only [← hf hpx]
      rfl
    rw [hhandle]
    refine ⟨rfl, s', hs', heach, ?_⟩
    intro a ha
    rw [heach]
    exact eachPixel_untouched (huntouched hpx) ha s.mem
  . intro hhandle
    rw [hhandle]
    rfl

end LvDrawSwBlendFillDsc

theorem referenceFill_untouched {destPxSize a dest : Nat} (color : LvColor) (mem : Memory)
    (hpx : destPxSize = 3 ∨ destPxSize = 4) (ha : ¬(dest ≤ a ∧ a < dest + destPxSize))
    : referenceFill destPxSize dest color mem a = mem a := by
  unfold referenceFill
  split
  . next hfour =>
    rw [hfour] at ha
    exact writeBytes_of_not_mem ha mem
  . next hfour =>
    rw [hpx.resolve_right hfour] at ha
    exact writeBytes_of_not_mem ha mem

theorem referenceMix_untouched {a dest : Nat} (opaMax : Byte) (color : LvColor) (mix : Byte)
    (mem : Memory) (ha : ¬(dest ≤ a ∧ a < dest + 3))
    : referenceMix opaMax dest color mix mem a = mem a := by
  unfold referenceMix
  split
  . rfl
  . split
    . exact writeBytes_of_not_mem ha mem
    . exact writeBytes_of_not_mem ha mem

section

variable (lvgl : LvColorApi) (hart : Hart) (rvvEnabled : Bool) (maskMem : Memory)
  (dsc : LvDrawSwBlendFillDsc)

def mixedPixel (destPxSize : Nat) (mask : Option Nat) (combineMask : Bool) (y x : Nat) (mem : Memory)
    : Memory :=
  referenceMix lvgl.opaMax (dsc.pixel destPxSize y x) dsc.color (dsc.mixAt maskMem mask combineMask y x)
    mem

def filledPixel (destPxSize y x : Nat) (mem : Memory) : Memory :=
  referenceFill destPxSize (dsc.pixel destPxSize y x) dsc.color mem

/-
A mix writes no alpha byte.
-/
structure FillsExact (destPxSize : Nat) (s : VState) : Prop where
  rgb888 : dsc.Exact rvvEnabled destPxSize destPxSize (filledPixel dsc destPxSize) s
    (lvK230RvvColorToRgb888 lvgl hart rvvEnabled maskMem dsc destPxSize s)
  argb8888 : dsc.Exact rvvEnabled 4 4 (filledPixel dsc 4) s
    (lvK230RvvColorToArgb8888 lvgl hart rvvEnabled maskMem dsc s)
  withOpa : dsc.Exact rvvEnabled destPxSize 3 (mixedPixel lvgl maskMem dsc destPxSize none false) s
    (lvK230RvvColorToRgb888WithOpa lvgl hart rvvEnabled maskMem dsc destPxSize s)
  withMask : dsc.Exact rvvEnabled destPxSize 3
    (mixedPixel lvgl maskMem dsc destPxSize dsc.maskBuf false) s
    (lvK230RvvColorToRgb888WithMask lvgl hart rvvEnabled maskMem dsc destPxSize s)
  withOpaMask : dsc.Exact rvvEnabled destPxSize 3
    (mixedPixel lvgl maskMem dsc destPxSize dsc.maskBuf true) s
    (lvK230RvvColorToRgb888WithOpaMask lvgl hart rvvEnabled maskMem dsc destPxSize s)

end

section

variable {lvgl : LvColorApi} (hart : Hart) (rvvEnabled : Bool) (maskMem : Memory)
  (dsc : LvDrawSwBlendFillDsc)

theorem fill_exact (hlvgl : lvgl.Documented) (destPxSize : Nat) (s : VState)
    : dsc.Exact rvvEnabled destPxSize destPxSize (filledPixel dsc destPxSize) s
        (lvK230RvvColorToRgb888 lvgl hart rvvEnabled maskMem dsc destPxSize s) := by
  apply LvDrawSwBlendFillDsc.rows_exact
  . exact rvvFillStrip_updates hlvgl dsc.color maskMem
  . intro hpx y x mem
    unfold filledPixel referenceFill fillBytes
    split
    . rfl
    . rfl
  . intro hpx y x mem a ha
    exact referenceFill_untouched dsc.color mem hpx ha
  . rfl

theorem rvvColorToRgb888_exact (hmax : 0 < lvgl.opaMax) (destPxSize : Nat) (mask : Option Nat) (combineMask : Bool) (s : VState)
    : dsc.Exact rvvEnabled destPxSize 3 (mixedPixel lvgl maskMem dsc destPxSize mask combineMask) s
        (rvvColorToRgb888 lvgl hart rvvEnabled maskMem dsc destPxSize mask combineMask s) := by
  apply LvDrawSwBlendFillDsc.rows_exact
  . exact rvvMixColorStrip_updates lvgl.opaMax dsc.color mask dsc.opa combineMask maskMem
  . intro hpx y x mem
    have hmix : mixValue
          (mask.map fun _ => maskMem ((mask.getD 0 + dsc.maskStride * y).toNat + x)) combineMask dsc.opa
        = dsc.mixAt maskMem mask combineMask y x := by
      cases mask with
      | none => rfl
      | some mask => rfl
    rw [hmix]
    exact mixPixel_reference hmax hpx dsc.color _ _ mem
  . intro _ y x mem a ha
    exact referenceMix_untouched _ _ _ mem ha
  . rfl

/--
Every fill writes the pixels that the self test computes, whatever the vector lengths are.
-/
theorem rvvFills_exact (hlvgl : lvgl.Documented) (destPxSize : Nat) (s : VState)
    : FillsExact lvgl hart rvvEnabled maskMem dsc destPxSize s := by
  constructor
  . exact fill_exact hart rvvEnabled maskMem dsc hlvgl destPxSize s
  . exact fill_exact hart rvvEnabled maskMem dsc hlvgl 4 s
  . exact rvvColorToRgb888_exact hart rvvEnabled maskMem dsc hlvgl.opaMax_pos destPxSize none false s
  . exact rvvColorToRgb888_exact hart rvvEnabled maskMem dsc hlvgl.opaMax_pos destPxSize dsc.maskBuf
      false s
  . exact rvvColorToRgb888_exact hart rvvEnabled maskMem dsc hlvgl.opaMax_pos destPxSize dsc.maskBuf
      true s

end

/-
A hart with at most three elements to a strip, and LVGL's opacity limit.
-/
def shortHart : Hart :=
  {
    vsetvli := fun _ avl => min avl 3
    junk := fun _ regs => regs
    vsetvli_pos := by
      intro _ avl h
      omega
    vsetvli_le := by
      intro _ avl
      omega
  }

def colorApi : LvColorApi :=
  {
    opaMax := 253
    colorToU32 := fun color => BitVec.ofNat 32
      (0xff * 2 ^ 24 + color.red.toNat * 2 ^ 16 + color.green.toNat * 2 ^ 8 + color.blue.toNat)
  }

theorem colorApi_documented : colorApi.Documented := by
  constructor
  . decide
  . intro color
    unfold colorApi
    dsimp only
    rw [BitVec.toNat_ofNat, Nat.mod_eq_of_lt]
    omega

/-
Two rows of eight pixels with alpha, seven bytes apart and at an odd address, with a mask.
-/
def oddRows : LvDrawSwBlendFillDsc :=
  {
    destBuf := some 33
    destW := 8
    destH := 2
    destStride := 39
    maskBuf := some 5
    maskStride := 8
    color := ⟨0x29, 0x83, 0xd7⟩
    opa := 173
  }

def oddState : VState :=
  {
    regs := fun _ => ⟨fun _ => 0, fun _ => 0, fun _ => 0, fun _ => false⟩
    mem := fun a => BitVec.ofNat 8 (a * 29)
  }

theorem rvvFills_exact_oddRows
    : rvvCanHandle true oddRows 4 = true ∧ colorApi.Documented
        ∧ FillsExact colorApi shortHart true (fun a => BitVec.ofNat 8 (a * 47)) oddRows 4 oddState :=
  ⟨by decide, colorApi_documented,
    rvvFills_exact shortHart true _ oddRows colorApi_documented 4 oddState⟩

end Lvgl

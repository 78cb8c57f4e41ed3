import RtsmartLib.Lvgl.ImageConvert

/-!
This module contains that a pixel which is widened to 8 bits a channel and narrowed again is the same
pixel, in every format, and the same for whole images.
-/

namespace Lvgl

open Lib Lib.Rvv

/-
A field of a 16 bit pixel, put back to where it has been.
-/
def placed (value : BitVec 16) (shift n : Nat) : BitVec 16 :=
  (bits value shift (BitVec.ofNat 16 (2 ^ n - 1))).setWidth 16 <<< shift

theorem getLsbD_placed (value : BitVec 16) (shift : Nat) {n i : Nat} (hn : n ≤ 8) (hi : i < 16)
    : (placed value shift n).getLsbD i = (decide (shift ≤ i ∧ i < shift + n) && value.getLsbD i) := by
  unfold placed
  rw [BitVec.getLsbD_shiftLeft, BitVec.getLsbD_setWidth]
  by_cases hlow : i < shift
  . have hnot : ¬shift ≤ i := by
      omega
    simp [hlow, hnot]
  . by_cases hhigh : i < shift + n
    . have h8 : i - shift < 8 := by
        omega
      have h16 : i - shift < 16 := by
        omega
      have hfield : i - shift < n := by
        omega
      have hsum : shift + (i - shift) = i := by
        omega
      have hle : shift ≤ i := by
        omega
      rw [getLsbD_bits value shift n h8, hsum]
      simp [hlow, hhigh, hi, h16, hfield, hle]
    . have hzero : (bits value shift (BitVec.ofNat 16 (2 ^ n - 1))).getLsbD (i - shift) = false := by
        by_cases h8 : i - shift < 8
        . rw [getLsbD_bits value shift n h8]
          have hfield : ¬i - shift < n := by
            omega
          simp [hfield]
        . exact BitVec.getLsbD_of_ge _ _ (by omega)
      simp [hzero, hhigh]

/-
A field of `n` bits is a number below `2 ^ n`.
-/
theorem toNat_bits_lt (value : BitVec 16) (shift n : Nat)
    : (bits value shift (BitVec.ofNat 16 (2 ^ n - 1))).toNat < 2 ^ n := by
  apply Nat.lt_pow_two_of_testBit
  intro i hi
  rw [← BitVec.getLsbD]
  by_cases h8 : i < 8
  . rw [getLsbD_bits value shift n h8]
    have hnot : ¬i < n := by
      omega
    simp [hnot]
  . exact BitVec.getLsbD_of_ge _ _ (by omega)

theorem expand4To8_narrow {b : Byte} (h : b.toNat < 2 ^ 4) : expand4To8 b >>> 4 = b := by
  revert h
  revert b
  decide

theorem expand5To8_narrow {b : Byte} (h : b.toNat < 2 ^ 5) : expand5To8 b >>> 3 = b := by
  revert h
  revert b
  decide

theorem expand6To8_narrow {b : Byte} (h : b.toNat < 2 ^ 6) : expand6To8 b >>> 2 = b := by
  revert h
  revert b
  decide

theorem expand2To8_narrow (b : Byte)
    : expand2To8 (b >>> 6 &&& 0x03#8) &&& 0xc0#8 ||| expand2To8 (b >>> 4 &&& 0x03#8) >>> 2 &&& 0x30#8
        ||| expand2To8 (b >>> 2 &&& 0x03#8) >>> 4 &&& 0x0c#8 ||| expand2To8 (b &&& 0x03#8) >>> 6
      = b := by
  revert b
  decide

theorem expandAlphaBit_narrow (value : BitVec 16)
    : (if value &&& 1 ≠ 0 then 0xff else 0 : Byte) >>> 7 = bits value 0 (BitVec.ofNat 16 (2 ^ 1 - 1)) := by
  have hbit : value &&& 1 = if value.getLsbD 0 then 1 else 0 := by
    apply BitVec.eq_of_getLsbD_eq
    intro i hi
    rw [BitVec.getLsbD_and]
    cases i with
    | zero => cases value.getLsbD 0 <;> rfl
    | succ i =>
      have hone : (1#16).getLsbD (i + 1) = false := by
        rw [BitVec.getLsbD_one]
        simp
      change (value.getLsbD (i + 1) && (1#16).getLsbD (i + 1)) = _
      rw [hone, Bool.and_false]
      cases value.getLsbD 0
      . exact BitVec.getLsbD_zero.symm
      . exact hone.symm
  have hfield : bits value 0 (BitVec.ofNat 16 (2 ^ 1 - 1)) = if value.getLsbD 0 then 1 else 0 := by
    unfold bits
    change ((value >>> 0) &&& 1).setWidth 8 = _
    rw [BitVec.ushiftRight_zero, hbit]
    cases value.getLsbD 0 <;> rfl
  rw [hbit, hfield]
  cases value.getLsbD 0 <;> rfl

/-
Several fields, each given by its lowest bit and its width.
-/
def placedFields (value : BitVec 16) (fields : List (Nat × Nat)) : BitVec 16 :=
  match fields with
  | [] => 0#16
  | (shift, n) :: fields => placed value shift n ||| placedFields value fields

theorem getLsbD_placedFields (value : BitVec 16) {fields : List (Nat × Nat)} {i : Nat}
    (hn : ∀ field ∈ fields, field.2 ≤ 8) (hi : i < 16)
    : (placedFields value fields).getLsbD i
        = (fields.any (fun field => field.1 ≤ i ∧ i < field.1 + field.2) && value.getLsbD i) := by
  induction fields with
  | nil => exact BitVec.getLsbD_zero
  | cons field fields ih =>
    obtain ⟨hfield, hfields⟩ := List.forall_mem_cons.mp hn
    unfold placedFields
    rw [BitVec.getLsbD_or, getLsbD_placed value field.1 hfield hi, ih hfields]
    rw [List.any_cons, Bool.and_or_distrib_right]

/-
Fields that leave no bit out are the whole pixel.
-/
theorem placedFields_eq (value : BitVec 16) {fields : List (Nat × Nat)}
    (hn : ∀ field ∈ fields, field.2 ≤ 8)
    (hcover : ∀ i < 16, fields.any (fun field => field.1 ≤ i ∧ i < field.1 + field.2) = true)
    : placedFields value fields = value := by
  apply BitVec.eq_of_getLsbD_eq
  intro i hi
  rw [getLsbD_placedFields value hn hi, hcover i hi, Bool.true_and]

theorem placed_565 (value : BitVec 16) : placed value 11 5 ||| placed value 5 6 ||| placed value 0 5 = value := by
  have h := @placedFields_eq value [(11, 5), (5, 6), (0, 5)] (by decide) (by decide)
  simp only [placedFields, ← BitVec.or_assoc, BitVec.or_zero] at h
  exact h

theorem placed_1555 (value : BitVec 16)
    : placed value 11 5 ||| placed value 6 5 ||| placed value 1 5 ||| placed value 0 1 = value := by
  have h := @placedFields_eq value [(11, 5), (6, 5), (1, 5), (0, 1)] (by decide) (by decide)
  simp only [placedFields, ← BitVec.or_assoc, BitVec.or_zero] at h
  exact h

theorem placed_4444 (value : BitVec 16)
    : placed value 12 4 ||| placed value 8 4 ||| placed value 4 4 ||| placed value 0 4 = value := by
  have h := @placedFields_eq value [(12, 4), (8, 4), (4, 4), (0, 4)] (by decide) (by decide)
  simp only [placedFields, ← BitVec.or_assoc, BitVec.or_zero] at h
  exact h

theorem placed_zero (value : BitVec 16) (n : Nat)
    : placed value 0 n = (bits value 0 (BitVec.ofNat 16 (2 ^ n - 1))).setWidth 16 :=
  BitVec.shiftLeft_zero _

theorem bits4_narrow (value : BitVec 16) (shift : Nat)
    : expand4To8 (bits value shift 0x0f) >>> 4 = bits value shift 0x0f :=
  expand4To8_narrow (toNat_bits_lt value shift 4)

theorem bits5_narrow (value : BitVec 16) (shift : Nat)
    : expand5To8 (bits value shift 0x1f) >>> 3 = bits value shift 0x1f :=
  expand5To8_narrow (toNat_bits_lt value shift 5)

theorem bits6_narrow (value : BitVec 16) (shift : Nat)
    : expand6To8 (bits value shift 0x3f) >>> 2 = bits value shift 0x3f :=
  expand6To8_narrow (toNat_bits_lt value shift 6)

theorem pack565_read565 (value : BitVec 16) (alpha : Byte) : pack565 (read565 value alpha) = value := by
  unfold pack565 read565
  dsimp only
  rw [bits5_narrow, bits6_narrow, bits5_narrow]
  have h := placed_565 value
  rw [placed_zero] at h
  exact h

theorem pack1555_read1555 (value : BitVec 16)
    : (expand5To8 (bits value 11 0x1f) >>> 3).setWidth 16 <<< 11
          ||| (expand5To8 (bits value 6 0x1f) >>> 3).setWidth 16 <<< 6
          ||| (expand5To8 (bits value 1 0x1f) >>> 3).setWidth 16 <<< 1
          ||| ((if value &&& 1 ≠ 0 then 0xff else 0 : Byte) >>> 7).setWidth 16
        = value := by
  rw [bits5_narrow, bits5_narrow, bits5_narrow, expandAlphaBit_narrow]
  have h := placed_1555 value
  rw [placed_zero] at h
  exact h

theorem pack4444_read4444 (value : BitVec 16)
    : (expand4To8 (bits value 12 0x0f) >>> 4).setWidth 16 <<< 12
          ||| (expand4To8 (bits value 8 0x0f) >>> 4).setWidth 16 <<< 8
          ||| (expand4To8 (bits value 4 0x0f) >>> 4).setWidth 16 <<< 4
          ||| (expand4To8 (bits value 0 0x0f) >>> 4).setWidth 16
        = value := by
  rw [bits4_narrow, bits4_narrow, bits4_narrow, bits4_narrow]
  have h := placed_4444 value
  rw [placed_zero] at h
  exact h

theorem luminance_grey (v alpha : Byte) : luminance ⟨v, v, v, alpha⟩ = v := by
  have h : (v.toNat * 77 + v.toNat * 150 + v.toNat * 29 + 128) >>> 8 = v.toNat := by
    rw [Nat.shiftRight_eq_div_pow]
    omega
  unfold luminance
  dsimp only
  rw [h]
  exact BitVec.ofNat_toNat 8 v

theorem premultiply_zero (alpha : Byte) : premultiply 0 alpha = 0 := by
  unfold premultiply
  have h : ((0 : Byte).toNat * alpha.toNat + 127) / 255 = 0 := by
    change (0 * alpha.toNat + 127) / 255 = 0
    omega
  rw [h]
  rfl

/-
The pixels that a conversion to 8 bits a channel and straight alpha keeps: the byte that is not used is
as the converter writes it, and no channel is larger than the alpha it has been multiplied with.
-/
def Restorable (cf : ColorFormat) (src : Memory) (a : Nat) : Prop :=
  match cf with
  | .xrgb8888 => src (a + 3) = 0xff
  | .argb8888Premultiplied =>
    (src a).toNat ≤ (src (a + 3)).toNat ∧ (src (a + 1)).toNat ≤ (src (a + 3)).toNat
      ∧ (src (a + 2)).toNat ≤ (src (a + 3)).toNat
  | _ => True

theorem store16_load16 (src : Memory) (a : Nat) : store16 (load16 src a) = readBytes src a 2 :=
  store16_word (src (a + 1)) (src a)

theorem premultiply_restores {channel alpha : Byte} (h : channel.toNat ≤ alpha.toNat)
    : premultiply (if alpha ≠ 0 ∧ alpha ≠ 0xff then unpremultiply channel alpha else channel) alpha
        = channel := by
  split
  . next halpha =>
    exact premultiply_unpremultiply h halpha.1 halpha.2
  . next halpha =>
    by_cases hzero : alpha = 0
    . have hchannel : channel = 0 := by
        apply BitVec.eq_of_toNat_eq
        rw [hzero] at h
        exact Nat.le_zero.mp h
      rw [hchannel]
      exact premultiply_zero alpha
    . have hmax : alpha = 0xff := by
        by_contra hne
        exact halpha ⟨hzero, hne⟩
      rw [hmax]
      exact premultiply_max channel

theorem readPixel_premultiplied (src : Memory) (a : Nat)
    : let straight := fun channel : Byte =>
        if src (a + 3) ≠ 0 ∧ src (a + 3) ≠ 0xff then unpremultiply channel (src (a + 3)) else channel
      readPixel src a .argb8888Premultiplied
        = some ⟨straight (src a), straight (src (a + 1)), straight (src (a + 2)), src (a + 3)⟩ := by
  intro straight
  unfold readPixel straight
  dsimp only
  split <;> rfl

/-
Narrowing undoes widening.
-/
theorem writePixel_readPixel {cf : ColorFormat} (hcf : cf.Supported) {src : Memory} {a : Nat}
    (h : Restorable cf src a)
    : ∃ px, readPixel src a cf = some px ∧ writePixel cf px = some (readBytes src a (lvColorFormatGetSize cf)) := by
  cases cf with
  | l8 => exact ⟨_, rfl, congrArg some (congrArg (fun b => [b]) (luminance_grey (src a) 0xff))⟩
  | a8 => exact ⟨_, rfl, rfl⟩
  | al88 =>
    exact ⟨_, rfl, congrArg some (congrArg (fun b => [b, src (a + 1)]) (luminance_grey (src a) (src (a + 1))))⟩
  | rgb565 =>
    refine ⟨_, rfl, ?_⟩
    unfold writePixel
    dsimp only
    rw [pack565_read565, store16_load16]
    rfl
  | rgb565Swapped =>
    refine ⟨_, rfl, ?_⟩
    unfold writePixel load16
    dsimp only
    rw [pack565_read565, swap_word, swap_word, store16_word]
    rfl
  | rgb888 => exact ⟨_, rfl, rfl⟩
  | xrgb8888 =>
    refine ⟨_, rfl, ?_⟩
    unfold writePixel
    dsimp only
    rw [← show src (a + 3) = 0xff from h]
    rfl
  | argb8888 => exact ⟨_, rfl, rfl⟩
  | argb8888Premultiplied =>
    obtain ⟨hblue, hgreen, hred⟩ := h
    refine ⟨_, readPixel_premultiplied src a, ?_⟩
    unfold writePixel
    dsimp only
    rw [premultiply_restores hblue, premultiply_restores hgreen, premultiply_restores hred]
    rfl
  | argb1555 =>
    refine ⟨_, rfl, ?_⟩
    unfold writePixel
    dsimp only
    rw [pack1555_read1555, store16_load16]
    rfl
  | argb4444 =>
    refine ⟨_, rfl, ?_⟩
    unfold writePixel
    dsimp only
    rw [pack4444_read4444, store16_load16]
    rfl
  | argb2222 => exact ⟨_, rfl, congrArg some (congrArg (fun b => [b]) (expand2To8_narrow (src a)))⟩
  | argb8565 =>
    refine ⟨_, rfl, ?_⟩
    unfold writePixel
    dsimp only
    rw [pack565_read565, store16_load16]
    rfl
  | other size => exact hcf.elim

theorem swapRgb_false (px : Pixel) : px.swapRgb false = px := rfl

theorem convertPixel_toArgb {cf : ColorFormat} {src : Memory} {a : Nat} {px : Pixel}
    (h : readPixel src a cf = some px)
    : convertPixel src a cf .argb8888 false = some [px.blue, px.green, px.red, px.alpha] := by
  unfold convertPixel
  rw [h]
  dsimp only
  rw [Bool.false_and, swapRgb_false]
  rfl

theorem convertPixel_fromArgb {cf : ColorFormat} {src : Memory} {a : Nat} {px : Pixel}
    (h : readBytes src a 4 = [px.blue, px.green, px.red, px.alpha])
    : convertPixel src a .argb8888 cf false = writePixel cf px := by
  have hread : readPixel src a .argb8888 = some px := by
    change [src a, src (a + 1), src (a + 2), src (a + 3)] = _ at h
    simp only [List.cons.injEq] at h
    obtain ⟨hblue, hgreen, hred, halpha, _⟩ := h
    unfold readPixel
    dsimp only
    rw [hblue, hgreen, hred, halpha]
  unfold convertPixel
  rw [hread]
  dsimp only
  rw [Bool.false_and, swapRgb_false]

/-
What a conversion leaves in the destination, pixel by pixel, where its rows do not lie over each other.
-/
theorem scalarConvert_pixels (img : Image) (hsrc : img.srcCf.Supported) (hdest : img.destCf.Supported)
    (hwidth : 4 * img.width ≤ 2 ^ 32)
    (hfit : 1 < img.height → lvColorFormatGetSize img.destCf * img.width ≤ img.destStride) (mem : Memory)
    : ∃ mem',
        scalarConvert img mem = some mem'
          ∧
        ∀ row < img.height, ∀ column < img.width,
          convertPixel img.srcMem
              (img.src + img.srcStride * row + lvColorFormatGetSize img.srcCf * column) img.srcCf img.destCf
              img.sourceIsRgb
            = some
                (readBytes mem' (img.dest + img.destStride * row + lvColorFormatGetSize img.destCf * column)
                  (lvColorFormatGetSize img.destCf)) := by
  refine ⟨_, scalarConvert_eq hsrc hdest hwidth mem, ?_⟩
  intro row hrow column hcolumn
  have hlen : ∀ row column,
      (img.scalarBytes (img.src + img.srcStride * row + lvColorFormatGetSize img.srcCf * column)).length
        = lvColorFormatGetSize img.destCf := by
    intro row column
    exact (Image.convertPixel_eq hsrc hdest _).2
  rw [readBytes_writeRows hlen hfit 0 hrow hcolumn, Nat.zero_add]
  exact (Image.convertPixel_eq hsrc hdest _).1

/-
A row of 32 bit pixels is within reach of the arithmetic that finds a pixel in it, and rows do not lie
over each other.
-/
theorem scalarConvert_roundTrip {cf : ColorFormat} (hcf : cf.Supported) (srcMem argbMem destMem : Memory)
    {src srcStride argb argbStride dest destStride width height : Nat} (hwidth : 4 * width < 2 ^ 32)
    (hargb : 1 < height → 4 * width ≤ argbStride)
    (hdest : 1 < height → lvColorFormatGetSize cf * width ≤ destStride)
    (hpixels : ∀ row < height, ∀ column < width,
      Restorable cf srcMem (src + srcStride * row + lvColorFormatGetSize cf * column))
    : ∃ argbMem' destMem',
        scalarConvert ⟨argb, argbStride, .argb8888, srcMem, src, srcStride, cf, width, height, false⟩ argbMem
            = some argbMem'
          ∧
        scalarConvert ⟨dest, destStride, cf, argbMem', argb, argbStride, .argb8888, width, height, false⟩
            destMem
          = some destMem'
          ∧
        ∀ row < height, ∀ column < width,
          readBytes destMem' (dest + destStride * row + lvColorFormatGetSize cf * column)
              (lvColorFormatGetSize cf)
            = readBytes srcMem (src + srcStride * row + lvColorFormatGetSize cf * column)
                (lvColorFormatGetSize cf) := by
  have hsupported : ColorFormat.argb8888.Supported := trivial
  obtain ⟨argbMem', hto, hargbPixels⟩ := scalarConvert_pixels
    ⟨argb, argbStride, .argb8888, srcMem, src, srcStride, cf, width, height, false⟩ hcf hsupported
    (Nat.le_of_lt hwidth) hargb argbMem
  obtain ⟨destMem', hfrom, hdestPixels⟩ := scalarConvert_pixels
    ⟨dest, destStride, cf, argbMem', argb, argbStride, .argb8888, width, height, false⟩ hsupported
    hcf (Nat.le_of_lt hwidth) hdest destMem
  refine ⟨argbMem', destMem', hto, hfrom, ?_⟩
  intro row hrow column hcolumn
  obtain ⟨px, hread, hwrite⟩ := writePixel_readPixel hcf (hpixels row hrow column hcolumn)
  have hargbPixel := hargbPixels row hrow column hcolumn
  have hdestPixel := hdestPixels row hrow column hcolumn
  dsimp only at hargbPixel hdestPixel
  rw [convertPixel_toArgb hread] at hargbPixel
  rw [convertPixel_fromArgb (Option.some.inj hargbPixel).symm, hwrite] at hdestPixel
  exact (Option.some.inj hdestPixel).symm

def halfTransparent : Memory :=
  fun a => if a % 4 = 3 then 128 else 100

theorem restorable_halfTransparent {a : Nat} (h : a % 4 = 0)
    : Restorable .argb8888Premultiplied halfTransparent a := by
  have h1 : (a + 1) % 4 = 1 := by
    omega
  have h2 : (a + 2) % 4 = 2 := by
    omega
  have h3 : (a + 3) % 4 = 3 := by
    omega
  unfold Restorable halfTransparent
  rw [h, h1, h2, h3]
  decide

theorem scalarConvert_roundTrip_halfTransparent
    : ∃ argbMem' destMem',
        scalarConvert ⟨0, 20, .argb8888, halfTransparent, 0, 16, .argb8888Premultiplied, 3, 2, false⟩
            halfTransparent
          = some argbMem'
          ∧
        scalarConvert ⟨8, 12, .argb8888Premultiplied, argbMem', 0, 20, .argb8888, 3, 2, false⟩
            halfTransparent
          = some destMem'
          ∧
        ∀ row < 2, ∀ column < 3,
          readBytes destMem' (8 + 12 * row + 4 * column) 4
            = readBytes halfTransparent (0 + 16 * row + 4 * column) 4 := by
  have hsupported : ColorFormat.argb8888Premultiplied.Supported := trivial
  apply scalarConvert_roundTrip hsupported
  . decide
  . intro _
    decide
  . intro _
    decide
  . intro row _ column _
    apply restorable_halfTransparent
    change (0 + 16 * row + 4 * column) % 4 = 0
    omega

end Lvgl

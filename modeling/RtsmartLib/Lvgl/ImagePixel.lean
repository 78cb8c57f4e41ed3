import RtsmartLib.Lvgl.ImageBits
import RtsmartLib.Lvgl.ImageRvv
import Mathlib.Tactic.IntervalCases

/-!
This module contains the proofs that the vector sequences of the image converter compute in every
lane what the scalar path computes for the pixel of that lane.
-/

namespace Lvgl

open Lib Lib.Rvv

theorem expand2To8_lanes (b : Byte)
    : b >>> 6 * 85 = expand2To8 (b >>> 6 &&& 0x03#8)
        ∧ b <<< 2 >>> 6 * 85 = expand2To8 (b >>> 4 &&& 0x03#8)
        ∧ b <<< 4 >>> 6 * 85 = expand2To8 (b >>> 2 &&& 0x03#8)
        ∧ b <<< 6 >>> 6 * 85 = expand2To8 (b &&& 0x03#8) := by
  revert b
  decide

theorem red1555_lane (b : Byte) : b >>> 1 <<< 3 >>> 3 = b <<< 2 >>> 3 := by
  revert b
  decide

theorem alphaBit_lane (b : Byte) : b <<< 7 >>> 7 * 255 = if b.getLsbD 0 then 0xff else 0 := by
  revert b
  decide

theorem alpha1555_lane (hi lo : Byte)
    : lo <<< 7 >>> 7 * 255 = if word hi lo &&& 1 ≠ 0 then 0xff else 0 := by
  have hbit : (word hi lo).getLsbD 0 = lo.getLsbD 0 := by
    rw [getLsbD_word]
    rfl
  rw [alphaBit_lane]
  rw [← hbit]
  generalize word hi lo = value
  have hand : value &&& 1 = BitVec.setWidth 16 (BitVec.ofBool (value.getLsbD 0)) :=
    BitVec.and_one_eq_setWidth_ofBool_getLsbD
  rw [hand]
  cases value.getLsbD 0 with
  | false => rfl
  | true => rfl

structure Pixel.Holds (v : VReg → Byte) (px : Pixel) : Prop where
  blue : v 4 = px.blue
  green : v 5 = px.green
  red : v 6 = px.red
  alpha : v 7 = px.alpha

theorem Pixel.Holds.setAlpha {v : VReg → Byte} {px : Pixel} (h : px.Holds v) (load : Memory)
    (j : Nat)
    : Pixel.Holds (laneOps load j [.vmvVI 7 (-1)] v) { px with alpha := 0xff } :=
  ⟨h.blue, h.green, h.red, rfl⟩

theorem expand565_holds (load : Memory) (j : Nat) (v : VReg → Byte) {tmp : VReg}
    (htmp : tmp = 2 ∨ tmp = 3)
    : (read565 (word (v 1) (v 0)) (v 7)).Holds (laneOps load j (expand565Ops tmp) v) := by
  have hblue : bits (word (v 1) (v 0)) 0 0x1f = v 0 <<< 3 >>> 3 := bits_lo _ _ 5 (by omega) rfl
  have hgreen : bits (word (v 1) (v 0)) 5 0x3f = v 0 >>> 5 ||| v 1 <<< 5 >>> 5 <<< 3 :=
    bits_across _ _ 6 (by omega) (by omega) (by omega) rfl
  have hred : bits (word (v 1) (v 0)) 11 0x1f = v 1 <<< 0 >>> 3 :=
    bits_hi _ _ 5 (by omega) (by omega) rfl
  rw [BitVec.shiftLeft_zero] at hred
  unfold read565
  rw [hblue, hgreen, hred]
  cases htmp with
  | inl h =>
    subst h
    exact ⟨rfl, rfl, rfl, rfl⟩
  | inr h =>
    subst h
    exact ⟨rfl, rfl, rfl, rfl⟩

theorem expandOps_argb1555 (load : Memory) (a j : Nat) (v : VReg → Byte)
    : ∃ px, readPixel load (a + 2 * j) .argb1555 = some px
        ∧ px.Holds (laneOps load j (expandOps .argb1555 a) v) := by
  generalize hlo : load (a + 2 * j) = lo
  generalize hhi : load (a + 2 * j + 1) = hi
  have hblue : bits (word hi lo) 11 0x1f = hi <<< 0 >>> 3 :=
    bits_hi _ _ 5 (by omega) (by omega) rfl
  have hgreen : bits (word hi lo) 6 0x1f = lo >>> 6 ||| hi <<< 5 >>> 5 <<< 2 :=
    bits_across _ _ 5 (by omega) (by omega) (by omega) rfl
  have hred : bits (word hi lo) 1 0x1f = lo <<< 2 >>> 3 := bits_lo _ _ 5 (by omega) rfl
  rw [BitVec.shiftLeft_zero] at hblue
  rw [← red1555_lane] at hred
  unfold readPixel load16
  dsimp only
  rw [hlo, hhi]
  rw [hblue, hgreen, hred]
  rw [← alpha1555_lane]
  rw [← hlo, ← hhi]
  exact ⟨_, rfl, rfl, rfl, rfl, rfl⟩

theorem expandOps_argb4444 (load : Memory) (a j : Nat) (v : VReg → Byte)
    : ∃ px, readPixel load (a + 2 * j) .argb4444 = some px
        ∧ px.Holds (laneOps load j (expandOps .argb4444 a) v) := by
  generalize hlo : load (a + 2 * j) = lo
  generalize hhi : load (a + 2 * j + 1) = hi
  have hblue : bits (word hi lo) 12 0x0f = hi <<< 0 >>> 4 :=
    bits_hi _ _ 4 (by omega) (by omega) rfl
  have hgreen : bits (word hi lo) 8 0x0f = hi <<< 4 >>> 4 :=
    bits_hi _ _ 4 (by omega) (by omega) rfl
  have hred : bits (word hi lo) 4 0x0f = lo <<< 0 >>> 4 := bits_lo _ _ 4 (by omega) rfl
  have halpha : bits (word hi lo) 0 0x0f = lo <<< 4 >>> 4 := bits_lo _ _ 4 (by omega) rfl
  rw [BitVec.shiftLeft_zero] at hblue hred
  unfold readPixel load16
  dsimp only
  rw [hlo, hhi]
  rw [hblue, hgreen, hred, halpha]
  rw [← hlo, ← hhi]
  exact ⟨_, rfl, rfl, rfl, rfl, rfl⟩

theorem expandOps_holds {srcCf : ColorFormat} {n : Nat} (hn : expandSrcBytes srcCf = some n)
    (load : Memory) (a j : Nat) (v : VReg → Byte)
    : ∃ px, readPixel load (a + n * j) srcCf = some px
        ∧ px.Holds (laneOps load j (expandOps srcCf a) v) := by
  cases srcCf with
  | l8 =>
    cases hn
    exact ⟨_, rfl, rfl, rfl, rfl, rfl⟩
  | a8 =>
    cases hn
    exact ⟨_, rfl, rfl, rfl, rfl, rfl⟩
  | al88 =>
    cases hn
    exact ⟨_, rfl, rfl, rfl, rfl, rfl⟩
  | rgb565 =>
    cases hn
    have h := expand565_holds load j (laneOps load j [.vlseg 2 0 a] v) (.inl rfl)
    refine ⟨_, rfl, ?_⟩
    unfold expandOps
    dsimp only
    rw [laneOps_append]
    exact h.setAlpha load j
  | rgb565Swapped =>
    cases hn
    have h := expand565_holds load j (laneOps load j (.vlseg 2 0 a :: swapBytesOps) v) (.inl rfl)
    refine ⟨_, rfl, ?_⟩
    unfold expandOps load16
    dsimp only
    rw [laneOps_append, laneOps_append]
    rw [swap_word]
    exact h.setAlpha load j
  | argb1555 =>
    cases hn
    exact expandOps_argb1555 load a j v
  | argb4444 =>
    cases hn
    exact expandOps_argb4444 load a j v
  | argb2222 =>
    cases hn
    have h := expand2To8_lanes (load (a + 1 * j))
    exact ⟨_, rfl, h.1, h.2.1, h.2.2.1, h.2.2.2⟩
  | argb8565 =>
    cases hn
    have h := expand565_holds load j (laneOps load j [.vlseg 3 0 a, .vmvVV 7 2] v) (.inr rfl)
    exact ⟨_, rfl, h⟩
  | rgb888 => cases hn
  | xrgb8888 => cases hn
  | argb8888 => cases hn
  | argb8888Premultiplied => cases hn
  | other => cases hn

theorem pack565_eq_word (px : Pixel)
    : pack565 px
        = word (px.green >>> 5 ||| px.red >>> 3 <<< 3) (px.blue >>> 3 ||| px.green >>> 2 <<< 5) := by
  unfold pack565
  apply BitVec.eq_of_getLsbD_eq
  intro i hi
  rw [getLsbD_word]
  interval_cases i
  all_goals simp

theorem pack1555_eq_word (px : Pixel)
    : (px.blue >>> 3).setWidth 16 <<< 11 ||| (px.green >>> 3).setWidth 16 <<< 6
          ||| (px.red >>> 3).setWidth 16 <<< 1 ||| (px.alpha >>> 7).setWidth 16
        = word (px.green >>> 5 ||| px.blue >>> 3 <<< 3)
            (px.alpha >>> 7 ||| px.red >>> 3 <<< 1 ||| px.green >>> 3 <<< 6) := by
  apply BitVec.eq_of_getLsbD_eq
  intro i hi
  rw [getLsbD_word]
  interval_cases i
  all_goals simp

theorem pack4444_eq_word (px : Pixel)
    : (px.blue >>> 4).setWidth 16 <<< 12 ||| (px.green >>> 4).setWidth 16 <<< 8
          ||| (px.red >>> 4).setWidth 16 <<< 4 ||| (px.alpha >>> 4).setWidth 16
        = word (px.green >>> 4 ||| px.blue >>> 4 <<< 4)
            (px.alpha >>> 4 ||| px.red >>> 4 <<< 4) := by
  apply BitVec.eq_of_getLsbD_eq
  intro i hi
  rw [getLsbD_word]
  interval_cases i
  all_goals simp
theorem pack2222_lanes (b : Byte)
    : b >>> 6 <<< 6 = b &&& 0xc0#8 ∧ b >>> 6 <<< 4 = b >>> 2 &&& 0x30#8
        ∧ b >>> 6 <<< 2 = b >>> 4 &&& 0x0c#8 := by
  revert b
  decide

theorem packOps_lanes {destCf : ColorFormat} {n : Nat} (hn : packDestBytes destCf = some n)
    (load : Memory) (j : Nat) {v : VReg → Byte} {px : Pixel} (h : px.Holds v)
    : writePixel destCf px
        = some ((List.range n).map (fun k => laneOps load j (packOps destCf) v (0 + k))) := by
  obtain ⟨hblue, hgreen, hred, halpha⟩ := h
  cases destCf with
  | rgb565 =>
    cases hn
    unfold writePixel
    dsimp only
    rw [pack565_eq_word, store16_word]
    rw [← hblue, ← hgreen, ← hred]
    rfl
  | rgb565Swapped =>
    cases hn
    unfold writePixel
    dsimp only
    rw [pack565_eq_word, swap_word, store16_word]
    rw [← hblue, ← hgreen, ← hred]
    rfl
  | argb1555 =>
    cases hn
    unfold writePixel
    dsimp only
    rw [pack1555_eq_word, store16_word]
    rw [← hblue, ← hgreen, ← hred, ← halpha]
    rfl
  | argb4444 =>
    cases hn
    unfold writePixel
    dsimp only
    rw [pack4444_eq_word, store16_word]
    rw [← hblue, ← hgreen, ← hred, ← halpha]
    rfl
  | argb2222 =>
    cases hn
    unfold writePixel
    dsimp only
    rw [← (pack2222_lanes px.blue).1, ← (pack2222_lanes px.green).2.1,
      ← (pack2222_lanes px.red).2.2]
    rw [← hblue, ← hgreen, ← hred, ← halpha]
    rfl
  | argb8565 =>
    cases hn
    unfold writePixel
    dsimp only
    rw [pack565_eq_word, store16_word]
    rw [← hblue, ← hgreen, ← hred, ← halpha]
    rfl
  | l8 => cases hn
  | a8 => cases hn
  | al88 => cases hn
  | rgb888 => cases hn
  | xrgb8888 => cases hn
  | argb8888 => cases hn
  | argb8888Premultiplied => cases hn
  | other => cases hn

end Lvgl

import RtsmartLib.Lib.Align
import RtsmartLib.Lvgl.YuvCopy

/-!
This module contains which samples of the planes a copy of an area reaches, and when every pixel of the
area is shown afterwards as in the source.
-/

namespace Lvgl

open Lib

theorem toNat_ofInt_of_lt {n : Int} (hn : 0 ≤ n) (hlt : n < 2 ^ 32) : (BitVec.ofInt 32 n).toNat = n.toNat := by
  rw [BitVec.toNat_ofInt]
  congr 1
  exact Int.emod_eq_of_lt hn hlt

theorem toNat_areaX {buf : YuvDrawBuf} {area : Option LvArea} (h : buf.Inside area)
    : (areaX area).toNat = originX area := by
  cases area with
  | none => rfl
  | some a =>
    obtain ⟨⟨hx1, hx, hx2⟩, _⟩ := h a rfl
    have hlt := buf.w_lt
    exact toNat_ofInt_of_lt hx1 (by omega)

theorem toNat_areaY {buf : YuvDrawBuf} {area : Option LvArea} (h : buf.Inside area)
    : (areaY area).toNat = originY area := by
  cases area with
  | none => rfl
  | some a =>
    obtain ⟨_, hy1, hy, hy2⟩ := h a rfl
    have hlt := buf.h_lt
    exact toNat_ofInt_of_lt hy1 (by omega)

theorem origin_add_width {buf : YuvDrawBuf} {area : Option LvArea} (h : buf.Inside area)
    : originX area + (areaWidth buf area).toNat ≤ buf.w := by
  have hlt := buf.w_lt
  cases area with
  | none =>
    simp only [originX, areaWidth, BitVec.toNat_ofNat]
    omega
  | some a =>
    obtain ⟨⟨hx1, hx, hx2⟩, _⟩ := h a rfl
    simp only [originX, areaWidth]
    rw [toNat_ofInt_of_lt (by omega) (by omega)]
    omega

theorem origin_add_height {buf : YuvDrawBuf} {area : Option LvArea} (h : buf.Inside area)
    : originY area + (areaHeight buf area).toNat ≤ buf.h := by
  have hlt := buf.h_lt
  cases area with
  | none =>
    simp only [originY, areaHeight, BitVec.toNat_ofNat]
    omega
  | some a =>
    obtain ⟨_, hy1, hy, hy2⟩ := h a rfl
    simp only [originY, areaHeight]
    rw [toNat_ofInt_of_lt (by omega) (by omega)]
    omega

theorem getCopyArea_some {dest src : YuvDrawBuf} {destArea srcArea : Option LvArea}
    {width height : BitVec 32} (h : getCopyArea dest destArea src srcArea = some (width, height))
    : 0 < width.toNat ∧ 0 < height.toNat ∧ areaWidth dest destArea = width
        ∧ areaHeight dest destArea = height := by
  unfold getCopyArea at h
  extract_lets destWidth destHeight srcWidth srcHeight at h
  split at h
  . exact nomatch h
  . next hne =>
    obtain ⟨rfl, rfl⟩ := Prod.mk.inj (Option.some.inj h)
    rw [not_or, not_or] at hne
    have hpos : ∀ b : BitVec 32, b ≠ 0 → 0 < b.toNat := by
      intro b hb
      exact Nat.pos_of_ne_zero (fun hz => hb (BitVec.eq_of_toNat_eq hz))
    exact ⟨hpos _ hne.1, hpos _ hne.2.1, rfl, rfl⟩

section Plane

variable {dest src plane : YuvPlane} {destX destY srcX srcY bytes height : BitVec 32}
variable (h : dest.copyFrom src destX destY srcX srcY bytes height = some plane)

variable (destX destY srcX srcY bytes height) in
theorem copyFrom_some (hdest : dest.buf.isSome) (hsrc : src.buf.isSome)
    : ∃ plane, dest.copyFrom src destX destY srcX srcY bytes height = some plane := by
  obtain ⟨destBuf, hdest⟩ := Option.isSome_iff_exists.mp hdest
  obtain ⟨srcBuf, hsrc⟩ := Option.isSome_iff_exists.mp hsrc
  unfold YuvPlane.copyFrom
  rw [hdest, hsrc]
  exact ⟨_, rfl⟩

theorem line_address (plane : YuvPlane) (x y k j : Nat)
    : (y + k) * plane.stride + (x + j) = y * plane.stride + x + k * plane.stride + j := by
  rw [Nat.add_mul]
  omega

include h in
theorem copyFrom_sample {k j : Nat} (hstride : bytes.toNat ≤ dest.stride) (hk : k < height.toNat)
    (hj : j < bytes.toNat)
    : plane.sample (destY.toNat + k) (destX.toNat + j) = src.sample (srcY.toNat + k) (srcX.toNat + j) := by
  unfold YuvPlane.copyFrom at h
  split at h
  . next destBuf srcBuf hdest hsrc =>
    obtain rfl := Option.some.inj h
    unfold YuvPlane.sample
    rw [hsrc, line_address, line_address]
    exact congrArg some (copyLines_at hstride hk hj)
  . exact nomatch h

include h in
theorem copyFrom_beyond {j : Nat} (k : Nat) (hj : bytes.toNat ≤ j) (hstride : j < dest.stride)
    : plane.sample (destY.toNat + k) (destX.toNat + j) = dest.sample (destY.toNat + k) (destX.toNat + j) := by
  unfold YuvPlane.copyFrom at h
  split at h
  . next destBuf srcBuf hdest hsrc =>
    obtain rfl := Option.some.inj h
    unfold YuvPlane.sample
    rw [hdest, line_address]
    exact congrArg some (copyLines_beyond k hj hstride)
  . exact nomatch h

end Plane

/-
The sizes of a copy whose two areas have the same parity.
-/
structure SameParity (destX destY srcX srcY width height : Nat) : Prop where
  x : destX % 2 = srcX % 2
  y : destY % 2 = srcY % 2
  width : 0 < width
  height : 0 < height

/-
What is copied of a chroma plane that has `c` bytes of every column of samples.
-/
structure ChromaCopy (c destX destY srcX srcY width height : Nat) (dest src plane : YuvPlane) : Prop where
  copied : ∀ k j, k < (destY + height + 1) / 2 - destY / 2 → j < (width + 1) / 2 * c →
    plane.sample (destY / 2 + k) (destX / 2 * c + j) = src.sample (srcY / 2 + k) (srcX / 2 * c + j)
  left : ∀ k j, (width + 1) / 2 * c ≤ j → j < (destX + width + 1) / 2 * c →
    plane.sample (destY / 2 + k) (destX / 2 * c + j) = dest.sample (destY / 2 + k) (destX / 2 * c + j)

/-
When the samples that `column` gives are as in the source after the copy. The last column of an area that
starts at an odd column and is of an even width is the one that is not copied.
-/
def ExactWhen (column : Nat → Nat) (destX destY srcX srcY width height : Nat) (dest src plane : YuvPlane)
    : Prop :=
  (∀ i < width, ∀ j < height,
    plane.sample ((destY + j) / 2) (column (destX + i)) = src.sample ((srcY + j) / 2) (column (srcX + i)))
    ↔
  (destX % 2 = 0 ∨ width % 2 = 1 ∨ ∀ j < height,
    dest.sample ((destY + j) / 2) (column (destX + (width - 1)))
      = src.sample ((srcY + j) / 2) (column (srcX + (width - 1))))

section ChromaCopy

variable {c o destX destY srcX srcY width height : Nat} {dest src plane : YuvPlane}

theorem column_lt {k n : Nat} (ho : o < c) (hk : k < n) : k * c + o < n * c := by
  have hmul := Nat.mul_le_mul_right c (Nat.succ_le_of_lt hk)
  rw [Nat.succ_mul] at hmul
  omega

theorem column_add (a k : Nat) : (a + k) * c + o = a * c + (k * c + o) := by
  rw [Nat.add_mul, Nat.add_assoc]

variable (hparity : SameParity destX destY srcX srcY width height)

include hparity in
theorem SameParity.row {j : Nat} (hj : j < height)
    : ∃ k, (destY + j) / 2 = destY / 2 + k ∧ (srcY + j) / 2 = srcY / 2 + k
        ∧ k < (destY + height + 1) / 2 - destY / 2 := by
  have hy := hparity.y
  exact ⟨(destY + j) / 2 - destY / 2, by omega, by omega, by omega⟩

include hparity in
theorem SameParity.column (i : Nat)
    : ∃ n, (destX + i) / 2 = destX / 2 + n ∧ (srcX + i) / 2 = srcX / 2 + n := by
  have hx := hparity.x
  exact ⟨(destX + i) / 2 - destX / 2, by omega, by omega⟩

variable (ho : o < c) (hcopy : ChromaCopy c destX destY srcX srcY width height dest src plane)

include hparity ho hcopy in
theorem chromaCopy_column {i j : Nat} (hj : j < height)
    (hi : (destX + i) / 2 < destX / 2 + (width + 1) / 2)
    : plane.sample ((destY + j) / 2) ((destX + i) / 2 * c + o)
        = src.sample ((srcY + j) / 2) ((srcX + i) / 2 * c + o) := by
  obtain ⟨k, hdrow, hsrow, hk⟩ := hparity.row hj
  obtain ⟨n, hdcol, hscol⟩ := hparity.column i
  rw [hdrow, hsrow, hdcol, hscol, column_add, column_add]
  exact hcopy.copied k _ hk (column_lt ho (by omega))

include hparity ho hcopy in
theorem chromaCopy_lastColumn {j : Nat} (hj : j < height) (hodd : destX % 2 = 1) (heven : width % 2 = 0)
    : plane.sample ((destY + j) / 2) ((destX + (width - 1)) / 2 * c + o)
        = dest.sample ((destY + j) / 2) ((destX + (width - 1)) / 2 * c + o) := by
  have hwidth := hparity.width
  obtain ⟨k, hdrow, _, _⟩ := hparity.row hj
  obtain ⟨n, hdcol, _⟩ := hparity.column (width - 1)
  rw [hdrow, hdcol, column_add]
  have hn : n = (width + 1) / 2 := by
    omega
  apply hcopy.left
  . rw [hn]
    omega
  . have hlt : destX / 2 + n < (destX + width + 1) / 2 := by
      omega
    have hwide := column_lt ho hlt
    rw [column_add] at hwide
    omega

include hparity ho hcopy in
theorem chromaCopy_exactWhen
    : ExactWhen (fun x => x / 2 * c + o) destX destY srcX srcY width height dest src plane := by
  unfold ExactWhen
  dsimp only
  have hwidth := hparity.width
  by_cases hgood : destX % 2 = 0 ∨ width % 2 = 1
  . constructor
    . intro _
      obtain heven | hodd := hgood
      . exact .inl heven
      . exact .inr (.inl hodd)
    . intro _ i hi j hj
      exact chromaCopy_column hparity ho hcopy hj (by omega)
  . have hlast : ∀ j < height, plane.sample ((destY + j) / 2) ((destX + (width - 1)) / 2 * c + o)
        = dest.sample ((destY + j) / 2) ((destX + (width - 1)) / 2 * c + o) :=
      fun j hj => chromaCopy_lastColumn hparity ho hcopy hj (by omega) (by omega)
    constructor
    . intro hall
      right
      right
      intro j hj
      rw [← hlast j hj]
      exact hall (width - 1) (by omega) j hj
    . intro hcond i hi j hj
      by_cases hi' : i = width - 1
      . rw [hi', hlast j hj]
        have hor := not_or.mp hgood
        exact (hcond.resolve_left hor.1).resolve_left hor.2 j hj
      . exact chromaCopy_column hparity ho hcopy hj (by omega)

end ChromaCopy

/-
What is passed for a chroma plane with `c` bytes a column.
-/
structure ChromaArgs (c destX destY srcX srcY width height : Nat)
    (copyX copyY fromX fromY bytes lines : BitVec 32) : Prop where
  copyX : copyX.toNat = destX / 2 * c
  copyY : copyY.toNat = destY / 2
  fromX : fromX.toNat = srcX / 2 * c
  fromY : fromY.toNat = srcY / 2
  bytes : bytes.toNat = (width + 1) / 2 * c
  lines : lines.toNat = (destY + height + 1) / 2 - destY / 2

theorem chromaCopy_of_copyFrom {c destX destY srcX srcY width height : Nat} {dest src plane : YuvPlane}
    {copyX copyY fromX fromY bytes lines : BitVec 32}
    (hargs : ChromaArgs c destX destY srcX srcY width height copyX copyY fromX fromY bytes lines)
    (h : dest.copyFrom src copyX copyY fromX fromY bytes lines = some plane)
    (hstride : (destX + width + 1) / 2 * c ≤ dest.stride)
    : ChromaCopy c destX destY srcX srcY width height dest src plane := by
  have hle : (width + 1) / 2 * c ≤ (destX + width + 1) / 2 * c :=
    Nat.mul_le_mul_right c (by omega)
  constructor
  . intro k j hk hj
    rw [← hargs.lines] at hk
    rw [← hargs.bytes] at hj
    rw [← hargs.copyX, ← hargs.copyY, ← hargs.fromX, ← hargs.fromY]
    apply copyFrom_sample h _ hk hj
    rw [hargs.bytes]
    omega
  . intro k j hj hj'
    rw [← hargs.bytes] at hj
    rw [← hargs.copyX, ← hargs.copyY]
    exact copyFrom_beyond h k hj (by omega)

section Args

variable {destX destY srcX srcY width height : BitVec 32}

theorem toNat_half (x : BitVec 32) : (x / 2).toNat = x.toNat / 2 :=
  BitVec.toNat_udiv

theorem toNat_even (x : BitVec 32) : (x &&& ~~~1).toNat = x.toNat / 2 * 2 :=
  toNat_and_not_low 1 x

theorem toNat_chromaHeight (h : destY.toNat + height.toNat < 2 ^ 31)
    : ((destY + height + 1) / 2 - destY / 2).toNat
        = (destY.toNat + height.toNat + 1) / 2 - destY.toNat / 2 := by
  have hsum : (destY + height + 1).toNat = destY.toNat + height.toNat + 1 := by
    rw [BitVec.toNat_add_of_lt, BitVec.toNat_add_of_lt]
    . rfl
    . omega
    . rw [BitVec.toNat_add_of_lt (by omega)]
      change destY.toNat + height.toNat + 1 < 2 ^ 32
      omega
  rw [BitVec.toNat_sub_of_le, toNat_half, toNat_half, hsum]
  rw [BitVec.le_def, toNat_half, toNat_half, hsum]
  omega

theorem toNat_width_succ (h : width.toNat < 2 ^ 31) : (width + 1).toNat = width.toNat + 1 := by
  rw [BitVec.toNat_add_of_lt]
  . rfl
  . change width.toNat + 1 < 2 ^ 32
    omega

variable (hx : destX.toNat + width.toNat < 2 ^ 31) (hy : destY.toNat + height.toNat < 2 ^ 31)

variable (destX destY srcX srcY width height) in
include hx hy in
theorem semiPlanar_args
    : ChromaArgs 2 destX.toNat destY.toNat srcX.toNat srcY.toNat width.toNat height.toNat
        (destX &&& ~~~1) (destY / 2) (srcX &&& ~~~1) (srcY / 2) ((width + 1) &&& ~~~1)
        ((destY + height + 1) / 2 - destY / 2) := by
  constructor
  . exact toNat_even destX
  . exact toNat_half destY
  . exact toNat_even srcX
  . exact toNat_half srcY
  . rw [toNat_even, toNat_width_succ (by omega)]
  . exact toNat_chromaHeight hy

variable (destX destY srcX srcY width height) in
include hx hy in
theorem planar_args
    : ChromaArgs 1 destX.toNat destY.toNat srcX.toNat srcY.toNat width.toNat height.toNat
        (destX / 2) (destY / 2) (srcX / 2) (srcY / 2) ((width + 1) / 2)
        ((destY + height + 1) / 2 - destY / 2) := by
  constructor
  . rw [toNat_half, Nat.mul_one]
  . exact toNat_half destY
  . rw [toNat_half, Nat.mul_one]
  . exact toNat_half srcY
  . rw [toNat_half, toNat_width_succ (by omega), Nat.mul_one]
  . exact toNat_chromaHeight hy

end Args

/-
Two parts of a pixel that go wrong together.
-/
theorem both_iff {P Q : Nat → Nat → Prop} {p q : Nat → Prop} {A B : Prop} {m n : Nat}
    (hP : (∀ i < m, ∀ j < n, P i j) ↔ (A ∨ B ∨ ∀ j < n, p j))
    (hQ : (∀ i < m, ∀ j < n, Q i j) ↔ (A ∨ B ∨ ∀ j < n, q j))
    : (∀ i < m, ∀ j < n, P i j ∧ Q i j) ↔ (A ∨ B ∨ ∀ j < n, p j ∧ q j) := by
  have hsplit : (∀ i < m, ∀ j < n, P i j ∧ Q i j)
      ↔ ((∀ i < m, ∀ j < n, P i j) ∧ ∀ i < m, ∀ j < n, Q i j) := by
    simp only [imp_and, forall_and]
  have hlast : (∀ j < n, p j ∧ q j) ↔ ((∀ j < n, p j) ∧ ∀ j < n, q j) := by
    simp only [imp_and, forall_and]
  rw [hsplit, hP, hQ, hlast, ← or_and_left, ← or_and_left]

theorem copyChroma_y (cf : YuvFormat) (dest src : YuvBuf)
    (destX destY srcX srcY width height : BitVec 32)
    : (copyChroma cf dest src destX destY srcX srcY width height).y = dest.y := by
  unfold copyChroma
  extract_lets
  split
  . split <;> rfl
  . split <;> rfl

section Chroma

variable {dest src : YuvDrawBuf} (y : YuvPlane) {destX destY srcX srcY width height : BitVec 32}
variable (hparity : SameParity destX.toNat destY.toNat srcX.toNat srcY.toNat width.toNat height.toNat)
variable (hx : destX.toNat + width.toNat ≤ dest.w) (hy : destY.toNat + height.toNat ≤ dest.h)

include hparity hx hy in
/-
An interleaved plane, for either of its two bytes.
-/
theorem semiPlanar_copy (hcf : dest.cf = .nv12 ∨ dest.cf = .nv21) (hdest : dest.yuv.u.buf.isSome)
    (hsrc : src.yuv.u.buf.isSome) (hstride : (dest.w + 1) / 2 * 2 ≤ dest.yuv.u.stride)
    : ∃ u,
        copyChroma dest.cf { dest.yuv with y } src.yuv destX destY srcX srcY width height
            = { dest.yuv with y, u }
          ∧
        ∀ o < 2,
          ExactWhen (fun x => x / 2 * 2 + o) destX.toNat destY.toNat srcX.toNat srcY.toNat width.toNat
            height.toNat dest.yuv.u src.yuv.u u := by
  have hw := dest.w_lt
  have hh := dest.h_lt
  have hargs := semiPlanar_args destX destY srcX srcY width height (by omega) (by omega)
  obtain ⟨u, hu⟩ := copyFrom_some _ _ _ _ _ _ hdest hsrc
  have hcopy := chromaCopy_of_copyFrom hargs hu (by omega)
  refine ⟨u, ?_, fun o ho => chromaCopy_exactWhen hparity ho hcopy⟩
  unfold copyChroma
  extract_lets chromaHeight destUvX srcUvX uvBytes
  rw [if_pos hcf, hu]

include hparity hx hy in
theorem planar_copy (hcf : dest.cf = .i420)
    (hdest : dest.yuv.u.buf.isSome ∧ (dest.w + 1) / 2 ≤ dest.yuv.u.stride)
    (hdest' : dest.yuv.v.buf.isSome ∧ (dest.w + 1) / 2 ≤ dest.yuv.v.stride)
    (hsrc : src.yuv.u.buf.isSome) (hsrc' : src.yuv.v.buf.isSome)
    : ∃ u v,
        copyChroma dest.cf { dest.yuv with y } src.yuv destX destY srcX srcY width height = ⟨y, u, v⟩
          ∧
        ExactWhen (fun x => x / 2) destX.toNat destY.toNat srcX.toNat srcY.toNat width.toNat height.toNat
          dest.yuv.u src.yuv.u u
          ∧
        ExactWhen (fun x => x / 2) destX.toNat destY.toNat srcX.toNat srcY.toNat width.toNat height.toNat
          dest.yuv.v src.yuv.v v := by
  have hw := dest.w_lt
  have hh := dest.h_lt
  have hargs := planar_args destX destY srcX srcY width height (by omega) (by omega)
  obtain ⟨u, hu⟩ := copyFrom_some _ _ _ _ _ _ hdest.1 hsrc
  obtain ⟨v, hv⟩ := copyFrom_some _ _ _ _ _ _ hdest'.1 hsrc'
  have hexact := chromaCopy_exactWhen hparity Nat.one_pos (chromaCopy_of_copyFrom hargs hu (by omega))
  have hexact' := chromaCopy_exactWhen hparity Nat.one_pos (chromaCopy_of_copyFrom hargs hv (by omega))
  simp only [Nat.mul_one, Nat.add_zero] at hexact hexact'
  refine ⟨u, v, ?_, hexact, hexact'⟩
  unfold copyChroma
  extract_lets chromaHeight destUvX srcUvX uvBytes chromaWidth destChromaX srcChromaX
  rw [if_neg (by rw [hcf]; decide), hu, hv]

include hparity hx hy in
theorem copyChroma_iff (hdest : dest.HasChroma) (hsrc : src.HasChroma) (hcf : src.cf = dest.cf)
    : (∀ i < width.toNat, ∀ j < height.toNat,
        YuvDrawBuf.chroma
            {
              dest with
              yuv := copyChroma dest.cf { dest.yuv with y } src.yuv destX destY srcX srcY width height
            }
            (destX.toNat + i) (destY.toNat + j)
          = src.chroma (srcX.toNat + i) (srcY.toNat + j))
        ↔
      (destX.toNat % 2 = 0 ∨ width.toNat % 2 = 1 ∨ ∀ j < height.toNat,
        dest.chroma (destX.toNat + (width.toNat - 1)) (destY.toNat + j)
          = src.chroma (srcX.toNat + (width.toNat - 1)) (srcY.toNat + j)) := by
  unfold YuvDrawBuf.HasChroma at hdest hsrc
  unfold YuvDrawBuf.chroma
  rw [hcf] at hsrc ⊢
  cases hformat : dest.cf with
  | nv12 =>
    rw [hformat] at hdest hsrc
    obtain ⟨u, hout, hexact⟩ := semiPlanar_copy y hparity hx hy (.inl hformat) hdest.1 hsrc.1 hdest.2
    rw [hformat] at hout
    dsimp only
    rw [hout]
    simp only [Prod.mk.injEq]
    exact both_iff (hexact 0 (by decide)) (hexact 1 (by decide))
  | nv21 =>
    rw [hformat] at hdest hsrc
    obtain ⟨u, hout, hexact⟩ := semiPlanar_copy y hparity hx hy (.inr hformat) hdest.1 hsrc.1 hdest.2
    rw [hformat] at hout
    dsimp only
    rw [hout]
    simp only [Prod.mk.injEq]
    exact both_iff (hexact 1 (by decide)) (hexact 0 (by decide))
  | i420 =>
    rw [hformat] at hdest hsrc
    obtain ⟨u, v, hout, hexact, hexact'⟩ := planar_copy y hparity hx hy hformat hdest.1 hdest.2 hsrc.1.1
      hsrc.2.1
    rw [hformat] at hout
    dsimp only
    rw [hout]
    simp only [Prod.mk.injEq]
    exact both_iff hexact hexact'
  | other =>
    rw [hformat] at hdest
    exact hdest.elim

end Chroma

theorem copySameYuv_copied_iff {dest src : YuvDrawBuf} {destArea srcArea : Option LvArea}
    {width height : BitVec 32} (h : CopyCall dest destArea src srcArea width height)
    : AreaCopied (copySameYuv dest destArea src srcArea width height).2 src (originX destArea)
        (originY destArea) (originX srcArea) (originY srcArea) width.toNat height.toNat
        ↔
      (originX destArea % 2 = 0 ∨ width.toNat % 2 = 1 ∨ ∀ j < height.toNat,
        dest.chroma (originX destArea + (width.toNat - 1)) (originY destArea + j)
          = src.chroma (originX srcArea + (width.toNat - 1)) (originY srcArea + j)) := by
  obtain ⟨hwidth, hheight, hdestWidth, hdestHeight⟩ := getCopyArea_some h.area
  have hx := origin_add_width h.destInside
  have hy := origin_add_height h.destInside
  rw [hdestWidth, ← toNat_areaX h.destInside] at hx
  rw [hdestHeight, ← toNat_areaY h.destInside] at hy
  have hparityX := h.parityX
  have hparityY := h.parityY
  rw [← toNat_areaX h.destInside, ← toNat_areaX h.srcInside] at hparityX ⊢
  rw [← toNat_areaY h.destInside, ← toNat_areaY h.srcInside] at hparityY ⊢
  have hother : dest.cf ≠ .other := by
    intro hcf
    have hchroma := h.destSound.chroma
    unfold YuvDrawBuf.HasChroma at hchroma
    rw [hcf] at hchroma
    exact hchroma
  obtain ⟨y, hcopied⟩ := copyFrom_some (areaX destArea) (areaY destArea) (areaX srcArea) (areaY srcArea)
    width height h.destSound.luma.1 h.srcSound.luma.1
  unfold copySameYuv
  rw [if_neg hother]
  extract_lets destX destY srcX srcY
  rw [hcopied]
  rw [← copyChroma_iff y ⟨hparityX, hparityY, hwidth, hheight⟩ hx hy h.destSound.chroma h.srcSound.chroma
    h.format]
  constructor
  . intro hall i hi j hj
    exact (hall i hi j hj).2
  . intro hchroma i hi j hj
    refine ⟨?_, hchroma i hi j hj⟩
    unfold YuvDrawBuf.luma
    dsimp only
    rw [copyChroma_y]
    have hstride := h.destSound.luma.2
    exact copyFrom_sample hcopied (by omega) hj hi

def plainBuf (sample : Byte) : YuvDrawBuf where
  cf := .nv12
  w := 4
  h := 2
  yuv := ⟨⟨some (fun _ => sample), 4⟩, ⟨some (fun _ => sample), 4⟩, ⟨none, 0⟩⟩
  w_lt := by decide
  h_lt := by decide

def oddArea : LvArea :=
  ⟨1, 0, 2, 1⟩

theorem copyCall_oddArea : CopyCall (plainBuf 0) (some oddArea) (plainBuf 7) (some oddArea) 2 2 := by
  constructor
  . rfl
  . exact ⟨⟨rfl, by decide⟩, ⟨rfl, by decide⟩⟩
  . exact ⟨⟨rfl, by decide⟩, ⟨rfl, by decide⟩⟩
  . intro a ha
    obtain rfl := Option.some.inj ha
    decide
  . intro a ha
    obtain rfl := Option.some.inj ha
    decide
  . decide
  . rfl
  . rfl

theorem copySameYuv_copied_iff_oddArea
    : AreaCopied (copySameYuv (plainBuf 0) (some oddArea) (plainBuf 7) (some oddArea) 2 2).2 (plainBuf 7) 1 0
        1 0 2 2
        ↔
      (1 % 2 = 0 ∨ 2 % 2 = 1 ∨ ∀ j < 2, (plainBuf 0).chroma 2 (0 + j) = (plainBuf 7).chroma 2 (0 + j)) :=
  copySameYuv_copied_iff copyCall_oddArea

/-
The right one of two columns that start at column 1 keeps its old colour.
-/
theorem copySameYuv_misses
    : CopyCall (plainBuf 0) (some oddArea) (plainBuf 7) (some oddArea) 2 2
        ∧
      ¬AreaCopied (copySameYuv (plainBuf 0) (some oddArea) (plainBuf 7) (some oddArea) 2 2).2 (plainBuf 7)
        (originX (some oddArea)) (originY (some oddArea)) (originX (some oddArea)) (originY (some oddArea)) 2
        2 := by
  refine ⟨copyCall_oddArea, ?_⟩
  intro hall
  have hlast := (hall 1 (by decide) 0 (by decide)).2
  exact absurd hlast (by decide)

end Lvgl

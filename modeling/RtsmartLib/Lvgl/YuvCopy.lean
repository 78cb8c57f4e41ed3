import RtsmartLib.Lib.Lines
import RtsmartLib.Lvgl.Display

/-!
This module contains copying an area between draw buffers whose chroma is subsampled in both directions.
-/

namespace Lvgl

open Lib

inductive YuvFormat where
  | nv12
  | nv21
  | i420
  | other
  deriving DecidableEq, Repr

structure YuvPlane where
  buf : Option Memory
  stride : Nat

/--
The planes of a draw buffer. A semi-planar buffer has its interleaved chroma plane where a planar one has
its `u` plane.
-/
structure YuvBuf where
  y : YuvPlane
  u : YuvPlane
  v : YuvPlane

/-
Coordinates are signed 32-bit numbers.
-/
structure YuvDrawBuf where
  cf : YuvFormat
  w : Nat
  h : Nat
  yuv : YuvBuf
  w_lt : w < 2 ^ 31
  h_lt : h < 2 ^ 31

def areaX (area : Option LvArea) : BitVec 32 :=
  match area with
  | some area => BitVec.ofInt 32 area.x1
  | none => 0

def areaY (area : Option LvArea) : BitVec 32 :=
  match area with
  | some area => BitVec.ofInt 32 area.y1
  | none => 0

def areaWidth (buf : YuvDrawBuf) (area : Option LvArea) : BitVec 32 :=
  match area with
  | some area => BitVec.ofInt 32 (area.x2 - area.x1 + 1)
  | none => BitVec.ofNat 32 buf.w

def areaHeight (buf : YuvDrawBuf) (area : Option LvArea) : BitVec 32 :=
  match area with
  | some area => BitVec.ofInt 32 (area.y2 - area.y1 + 1)
  | none => BitVec.ofNat 32 buf.h

def getCopyArea (dest : YuvDrawBuf) (destArea : Option LvArea) (src : YuvDrawBuf) (srcArea : Option LvArea)
    : Option (BitVec 32 × BitVec 32) :=
  let destWidth := areaWidth dest destArea
  let destHeight := areaHeight dest destArea
  let srcWidth := areaWidth src srcArea
  let srcHeight := areaHeight src srcArea
  if destWidth = 0 ∨ destHeight = 0 ∨ destWidth ≠ srcWidth ∨ destHeight ≠ srcHeight then
    none
  else
    some (destWidth, destHeight)

/-
A plane with lines of `bytes` bytes copied into it, if neither plane is missing.
-/
def YuvPlane.copyFrom (dest src : YuvPlane) (destX destY srcX srcY bytes height : BitVec 32)
    : Option YuvPlane :=
  match dest.buf, src.buf with
  | some destBuf, some srcBuf =>
    let destLine := destY.toNat * dest.stride + destX.toNat
    let srcLine := srcY.toNat * src.stride + srcX.toNat
    some
      {
        dest with
        buf := some (copyLines height.toNat bytes.toNat src.stride dest.stride srcBuf srcLine destLine destBuf)
      }
  | _, _ => none

def copyChroma (cf : YuvFormat) (dest src : YuvBuf) (destX destY srcX srcY width height : BitVec 32)
    : YuvBuf :=
  let chromaHeight := (destY + height + 1) / 2 - destY / 2
  if cf = .nv12 ∨ cf = .nv21 then
    let destUvX := destX &&& ~~~1
    let srcUvX := srcX &&& ~~~1
    let uvBytes := (width + 1) &&& ~~~1
    match dest.u.copyFrom src.u destUvX (destY / 2) srcUvX (srcY / 2) uvBytes chromaHeight with
    | none => dest
    | some u => { dest with u }
  else
    let chromaWidth := (width + 1) / 2
    let destChromaX := destX / 2
    let srcChromaX := srcX / 2
    match dest.u.copyFrom src.u destChromaX (destY / 2) srcChromaX (srcY / 2) chromaWidth chromaHeight,
      dest.v.copyFrom src.v destChromaX (destY / 2) srcChromaX (srcY / 2) chromaWidth chromaHeight with
    | some u, some v => { dest with u, v }
    | _, _ => dest

def copySameYuv (dest : YuvDrawBuf) (destArea : Option LvArea) (src : YuvDrawBuf) (srcArea : Option LvArea)
    (width height : BitVec 32) : Bool × YuvDrawBuf :=
  if dest.cf = .other then
    (false, dest)
  else
    let destX := areaX destArea
    let destY := areaY destArea
    let srcX := areaX srcArea
    let srcY := areaY srcArea
    match dest.yuv.y.copyFrom src.yuv.y destX destY srcX srcY width height with
    | none => (true, dest)
    | some y =>
      let yuv := copyChroma dest.cf { dest.yuv with y } src.yuv destX destY srcX srcY width height
      (true, { dest with yuv })

def YuvPlane.sample (plane : YuvPlane) (row column : Nat) : Option Byte :=
  plane.buf.map (fun mem => mem (row * plane.stride + column))

/-
The samples that a pixel is shown with.
-/
def YuvDrawBuf.luma (buf : YuvDrawBuf) (x y : Nat) : Option Byte :=
  buf.yuv.y.sample y x

def YuvDrawBuf.chroma (buf : YuvDrawBuf) (x y : Nat) : Option Byte × Option Byte :=
  match buf.cf with
  | .nv12 => (buf.yuv.u.sample (y / 2) (x / 2 * 2), buf.yuv.u.sample (y / 2) (x / 2 * 2 + 1))
  | .nv21 => (buf.yuv.u.sample (y / 2) (x / 2 * 2 + 1), buf.yuv.u.sample (y / 2) (x / 2 * 2))
  | .i420 => (buf.yuv.u.sample (y / 2) (x / 2), buf.yuv.v.sample (y / 2) (x / 2))
  | .other => (none, none)

/-
A buffer has the planes of its format, with lines that hold all of its samples.
-/
def YuvDrawBuf.HasChroma (buf : YuvDrawBuf) : Prop :=
  match buf.cf with
  | .nv12 | .nv21 => buf.yuv.u.buf.isSome ∧ (buf.w + 1) / 2 * 2 ≤ buf.yuv.u.stride
  | .i420 =>
    (buf.yuv.u.buf.isSome ∧ (buf.w + 1) / 2 ≤ buf.yuv.u.stride)
      ∧ (buf.yuv.v.buf.isSome ∧ (buf.w + 1) / 2 ≤ buf.yuv.v.stride)
  | .other => False

structure YuvDrawBuf.Sound (buf : YuvDrawBuf) : Prop where
  luma : buf.yuv.y.buf.isSome ∧ buf.w ≤ buf.yuv.y.stride
  chroma : buf.HasChroma

def originX (area : Option LvArea) : Nat :=
  match area with
  | some area => area.x1.toNat
  | none => 0

def originY (area : Option LvArea) : Nat :=
  match area with
  | some area => area.y1.toNat
  | none => 0

def YuvDrawBuf.Inside (buf : YuvDrawBuf) (area : Option LvArea) : Prop :=
  ∀ a, area = some a → (0 ≤ a.x1 ∧ a.x1 ≤ a.x2 ∧ a.x2 < buf.w) ∧ (0 ≤ a.y1 ∧ a.y1 ≤ a.y2 ∧ a.y2 < buf.h)

/-
Every pixel of the area is shown in the destination as in the source.
-/
def AreaCopied (out src : YuvDrawBuf) (destX destY srcX srcY width height : Nat) : Prop :=
  ∀ i < width, ∀ j < height,
    out.luma (destX + i) (destY + j) = src.luma (srcX + i) (srcY + j)
      ∧ out.chroma (destX + i) (destY + j) = src.chroma (srcX + i) (srcY + j)

/-
What `copy_same_yuv` is called with.
-/
structure CopyCall (dest : YuvDrawBuf) (destArea : Option LvArea) (src : YuvDrawBuf)
    (srcArea : Option LvArea) (width height : BitVec 32) : Prop where
  format : src.cf = dest.cf
  destSound : dest.Sound
  srcSound : src.Sound
  destInside : dest.Inside destArea
  srcInside : src.Inside srcArea
  area : getCopyArea dest destArea src srcArea = some (width, height)
  parityX : originX destArea % 2 = originX srcArea % 2
  parityY : originY destArea % 2 = originY srcArea % 2

end Lvgl

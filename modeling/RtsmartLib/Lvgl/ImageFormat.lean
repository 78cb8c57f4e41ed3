import RtsmartLib.Lib.Rvv

/-!
This module contains the pixel formats of the image converter and its scalar path, which reads,
expands and writes one pixel at a time.
-/

namespace Lvgl

open Lib Lib.Rvv

inductive ColorFormat where
  | l8
  | a8
  | al88
  | rgb565
  | rgb565Swapped
  | rgb888
  | xrgb8888
  | argb8888
  | argb8888Premultiplied
  | argb1555
  | argb4444
  | argb2222
  | argb8565
  | other (size : Nat)
deriving DecidableEq

def lvColorFormatGetSize (cf : ColorFormat) : Nat :=
  match cf with
  | .l8 | .a8 | .argb2222 => 1
  | .al88 | .rgb565 | .rgb565Swapped | .argb1555 | .argb4444 => 2
  | .rgb888 | .argb8565 => 3
  | .xrgb8888 | .argb8888 | .argb8888Premultiplied => 4
  | .other size => size

structure Pixel where
  blue : Byte
  green : Byte
  red : Byte
  alpha : Byte

def expand2To8 (value : Byte) : Byte :=
  value * 85

def expand4To8 (value : Byte) : Byte :=
  value <<< 4 ||| value

def expand5To8 (value : Byte) : Byte :=
  value <<< 3 ||| value >>> 2

def expand6To8 (value : Byte) : Byte :=
  value <<< 2 ||| value >>> 4

def word (hi lo : Byte) : BitVec 16 :=
  hi.setWidth 16 <<< 8 ||| lo.setWidth 16

def load16 (src : Memory) (a : Nat) : BitVec 16 :=
  word (src (a + 1)) (src a)

def bits (value : BitVec 16) (shift : Nat) (mask : BitVec 16) : Byte :=
  (value >>> shift &&& mask).setWidth 8

def unpremultiply (channel alpha : Byte) : Byte :=
  BitVec.ofNat 8 (min 255 ((channel.toNat * 255 + alpha.toNat / 2) / alpha.toNat))

def premultiply (channel alpha : Byte) : Byte :=
  BitVec.ofNat 8 ((channel.toNat * alpha.toNat + 127) / 255)

def read565 (value : BitVec 16) (alpha : Byte) : Pixel :=
  {
    blue := expand5To8 (bits value 0 0x1f)
    green := expand6To8 (bits value 5 0x3f)
    red := expand5To8 (bits value 11 0x1f)
    alpha
  }

def readPixel (src : Memory) (a : Nat) (cf : ColorFormat) : Option Pixel :=
  match cf with
  | .l8 => some ⟨src a, src a, src a, 0xff⟩
  | .a8 => some ⟨0xff, 0xff, 0xff, src a⟩
  | .al88 => some ⟨src a, src a, src a, src (a + 1)⟩
  | .rgb565 => some (read565 (load16 src a) 0xff)
  | .rgb565Swapped =>
    let value := load16 src a
    some (read565 (value <<< 8 ||| value >>> 8) 0xff)
  | .rgb888 => some ⟨src a, src (a + 1), src (a + 2), 0xff⟩
  | .xrgb8888 => some ⟨src a, src (a + 1), src (a + 2), 0xff⟩
  | .argb8888 => some ⟨src a, src (a + 1), src (a + 2), src (a + 3)⟩
  | .argb8888Premultiplied =>
    let alpha := src (a + 3)
    if alpha ≠ 0 ∧ alpha ≠ 0xff then
      some
        {
          blue := unpremultiply (src a) alpha
          green := unpremultiply (src (a + 1)) alpha
          red := unpremultiply (src (a + 2)) alpha
          alpha
        }
    else
      some ⟨src a, src (a + 1), src (a + 2), alpha⟩
  | .argb1555 =>
    let value := load16 src a
    some
      {
        blue := expand5To8 (bits value 11 0x1f)
        green := expand5To8 (bits value 6 0x1f)
        red := expand5To8 (bits value 1 0x1f)
        alpha := if value &&& 1 ≠ 0 then 0xff else 0
      }
  | .argb4444 =>
    let value := load16 src a
    some
      {
        blue := expand4To8 (bits value 12 0x0f)
        green := expand4To8 (bits value 8 0x0f)
        red := expand4To8 (bits value 4 0x0f)
        alpha := expand4To8 (bits value 0 0x0f)
      }
  | .argb2222 =>
    some
      {
        blue := expand2To8 (src a >>> 6 &&& 0x03#8)
        green := expand2To8 (src a >>> 4 &&& 0x03#8)
        red := expand2To8 (src a >>> 2 &&& 0x03#8)
        alpha := expand2To8 (src a &&& 0x03#8)
      }
  | .argb8565 => some (read565 (load16 src a) (src (a + 2)))
  | .other _ => none

def luminance (px : Pixel) : Byte :=
  BitVec.ofNat 8 ((px.red.toNat * 77 + px.green.toNat * 150 + px.blue.toNat * 29 + 128) >>> 8)

def store16 (value : BitVec 16) : List Byte :=
  [value.setWidth 8, (value >>> 8).setWidth 8]

def pack565 (px : Pixel) : BitVec 16 :=
  (px.red >>> 3).setWidth 16 <<< 11 ||| (px.green >>> 2).setWidth 16 <<< 5
    ||| (px.blue >>> 3).setWidth 16

def writePixel (cf : ColorFormat) (px : Pixel) : Option (List Byte) :=
  match cf with
  | .l8 => some [luminance px]
  | .a8 => some [px.alpha]
  | .al88 => some [luminance px, px.alpha]
  | .rgb565 => some (store16 (pack565 px))
  | .rgb565Swapped =>
    let value := pack565 px
    some (store16 (value <<< 8 ||| value >>> 8))
  | .rgb888 => some [px.blue, px.green, px.red]
  | .xrgb8888 => some [px.blue, px.green, px.red, 0xff]
  | .argb8888Premultiplied =>
    some
      [
        premultiply px.blue px.alpha,
        premultiply px.green px.alpha,
        premultiply px.red px.alpha,
        px.alpha
      ]
  | .argb8888 => some [px.blue, px.green, px.red, px.alpha]
  | .argb1555 =>
    some
      (store16
        ((px.blue >>> 3).setWidth 16 <<< 11 ||| (px.green >>> 3).setWidth 16 <<< 6
          ||| (px.red >>> 3).setWidth 16 <<< 1 ||| (px.alpha >>> 7).setWidth 16))
  | .argb4444 =>
    some
      (store16
        ((px.blue >>> 4).setWidth 16 <<< 12 ||| (px.green >>> 4).setWidth 16 <<< 8
          ||| (px.red >>> 4).setWidth 16 <<< 4 ||| (px.alpha >>> 4).setWidth 16))
  | .argb2222 =>
    some
      [
        px.blue &&& 0xc0#8 ||| px.green >>> 2 &&& 0x30#8 ||| px.red >>> 4 &&& 0x0c#8
          ||| px.alpha >>> 6
      ]
  | .argb8565 => some (store16 (pack565 px) ++ [px.alpha])
  | .other _ => none

def Pixel.swapRgb (px : Pixel) (swap : Bool) : Pixel :=
  if swap then
    {
      px with
      blue := px.red
      red := px.blue
    }
  else
    px

def convertPixel (src : Memory) (a : Nat) (srcCf destCf : ColorFormat) (sourceIsRgb : Bool)
    : Option (List Byte) :=
  match readPixel src a srcCf with
  | none => none
  | some px => writePixel destCf (px.swapRgb (sourceIsRgb && srcCf = .rgb888))

/--
The arguments every conversion path takes. The two buffers are different memories: the converter
reads `srcMem` from `src` on and writes another buffer from `dest` on.
-/
structure Image where
  dest : Nat
  destStride : Nat
  destCf : ColorFormat
  srcMem : Memory
  src : Nat
  srcStride : Nat
  srcCf : ColorFormat
  width : Nat
  height : Nat
  sourceIsRgb : Bool

def scalarRow (img : Image) (src dest n x : Nat) (mem : Memory) : Option Memory :=
  match n with
  | 0 => some mem
  | n + 1 =>
    let srcAt := src + uint32 (x * lvColorFormatGetSize img.srcCf)
    let destAt := dest + uint32 (x * lvColorFormatGetSize img.destCf)
    match convertPixel img.srcMem srcAt img.srcCf img.destCf img.sourceIsRgb with
    | none => none
    | some bytes => scalarRow img src dest n (x + 1) (writeBytes destAt bytes mem)

def scalarRows (img : Image) (src dest height : Nat) (mem : Memory) : Option Memory :=
  match height with
  | 0 => some mem
  | height + 1 =>
    match scalarRow img src dest img.width 0 mem with
    | none => none
    | some mem => scalarRows img (src + img.srcStride) (dest + img.destStride) height mem

def scalarConvert (img : Image) (mem : Memory) : Option Memory :=
  if lvColorFormatGetSize img.srcCf = 0 ∨ lvColorFormatGetSize img.destCf = 0 then
    none
  else
    scalarRows img img.src img.dest img.height mem

end Lvgl

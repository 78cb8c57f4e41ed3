import RtsmartLib.Lvgl.ImageFormat

/-!
This module contains the vector paths of the image converter, as the instruction sequences that
their loops run for each strip of a row.
-/

namespace Lvgl

open Lib Lib.Rvv

def expandSrcBytes (srcCf : ColorFormat) : Option Nat :=
  match srcCf with
  | .l8 | .a8 | .argb2222 => some 1
  | .al88 | .rgb565 | .rgb565Swapped | .argb1555 | .argb4444 => some 2
  | .argb8565 => some 3
  | _ => none

def widenOps (v tmp : VReg) (up down : Nat) : List Op :=
  [
    .vmvVV tmp v,
    .vsllVI v v up,
    .vsrlVI tmp tmp down,
    .vorVV v v tmp
  ]

def expand565Ops (tmp : VReg) : List Op :=
  [
    .vsllVI 4 0 3,
    .vsrlVI 4 4 3,
    .vsrlVI 5 0 5,
    .vsllVI tmp 1 5,
    .vsrlVI tmp tmp 5,
    .vsllVI tmp tmp 3,
    .vorVV 5 5 tmp,
    .vsrlVI 6 1 3
  ] ++ widenOps 4 tmp 3 2 ++ widenOps 5 tmp 2 4 ++ widenOps 6 tmp 3 2

def swapBytesOps : List Op :=
  [
    .vmvVV 2 0,
    .vmvVV 0 1,
    .vmvVV 1 2
  ]

def expandOps (srcCf : ColorFormat) (srcPixel : Nat) : List Op :=
  match srcCf with
  | .l8 =>
    [
      .vlseg 1 0 srcPixel,
      .vmvVV 4 0,
      .vmvVV 5 0,
      .vmvVV 6 0,
      .vmvVI 7 (-1)
    ]
  | .a8 =>
    [
      .vlseg 1 7 srcPixel,
      .vmvVI 4 (-1),
      .vmvVI 5 (-1),
      .vmvVI 6 (-1)
    ]
  | .al88 =>
    [
      .vlseg 2 0 srcPixel,
      .vmvVV 4 0,
      .vmvVV 5 0,
      .vmvVV 6 0,
      .vmvVV 7 1
    ]
  | .rgb565 => .vlseg 2 0 srcPixel :: expand565Ops 2 ++ [.vmvVI 7 (-1)]
  | .rgb565Swapped => .vlseg 2 0 srcPixel :: swapBytesOps ++ expand565Ops 2 ++ [.vmvVI 7 (-1)]
  | .argb1555 =>
    [
      .vlseg 2 0 srcPixel,
      .vsrlVI 6 0 1,
      .vsllVI 6 6 3,
      .vsrlVI 6 6 3,
      .vsrlVI 5 0 6,
      .vsllVI 2 1 5,
      .vsrlVI 2 2 5,
      .vsllVI 2 2 2,
      .vorVV 5 5 2,
      .vsrlVI 4 1 3,
      .vsllVI 7 0 7,
      .vsrlVI 7 7 7,
      .vmulVX 7 7 255
    ] ++ widenOps 4 2 3 2 ++ widenOps 5 2 3 2 ++ widenOps 6 2 3 2
  | .argb4444 =>
    [
      .vlseg 2 0 srcPixel,
      .vsrlVI 4 1 4,
      .vsllVI 5 1 4,
      .vsrlVI 5 5 4,
      .vsrlVI 6 0 4,
      .vsllVI 7 0 4,
      .vsrlVI 7 7 4,
      .vmvVV 2 4,
      .vsllVI 4 4 4,
      .vorVV 4 4 2,
      .vmvVV 2 5,
      .vsllVI 5 5 4,
      .vorVV 5 5 2,
      .vmvVV 2 6,
      .vsllVI 6 6 4,
      .vorVV 6 6 2,
      .vmvVV 2 7,
      .vsllVI 7 7 4,
      .vorVV 7 7 2
    ]
  | .argb2222 =>
    [
      .vlseg 1 0 srcPixel,
      .vsrlVI 4 0 6,
      .vsllVI 5 0 2,
      .vsrlVI 5 5 6,
      .vsllVI 6 0 4,
      .vsrlVI 6 6 6,
      .vsllVI 7 0 6,
      .vsrlVI 7 7 6,
      .vmulVX 4 4 85,
      .vmulVX 5 5 85,
      .vmulVX 6 6 85,
      .vmulVX 7 7 85
    ]
  | .argb8565 => .vlseg 3 0 srcPixel :: .vmvVV 7 2 :: expand565Ops 3
  | _ => []

def opaqueOps (cf : ColorFormat) : List Op :=
  if cf = .xrgb8888 then [.vmvVI 7 (-1)] else []

def rvvRun (hart : Hart) (img : Image) (strip : Nat → Nat → Strip) (srcBytes destBytes : Nat)
    (s : VState) : VState :=
  stripRows hart img.srcMem strip srcBytes destBytes img.srcStride img.destStride img.width
    img.height 0 img.src img.dest s

def sourceHasAlpha (srcCf : ColorFormat) : Bool :=
  srcCf = .a8 ∨ srcCf = .al88 ∨ srcCf = .argb1555 ∨ srcCf = .argb4444 ∨ srcCf = .argb2222
    ∨ srcCf = .argb8565

def rvvExpandToRgb (hart : Hart) (img : Image) (s : VState) : Option VState :=
  if img.destCf ≠ .rgb888 ∧ img.destCf ≠ .xrgb8888 ∧ img.destCf ≠ .argb8888
      ∧ img.destCf ≠ .argb8888Premultiplied then
    none
  else if img.destCf = .argb8888Premultiplied ∧ sourceHasAlpha img.srcCf then
    none
  else
    match expandSrcBytes img.srcCf with
    | none => none
    | some srcBytes =>
      let destBytes := if img.destCf = .rgb888 then 3 else 4
      let strip := fun srcPixel destPixel =>
        {
          ops := expandOps img.srcCf srcPixel ++ opaqueOps img.destCf
          store := ⟨destBytes, 4, destPixel⟩
        }
      some (rvvRun hart img strip srcBytes destBytes s)

def unpackOps (srcBytes : Nat) (srcCf : ColorFormat) (sourceIsRgb : Bool) (srcPixel : Nat)
    : List Op :=
  if srcBytes = 3 then
    if sourceIsRgb then
      [
        .vlseg 3 0 srcPixel,
        .vmvVV 4 2,
        .vmvVV 5 1,
        .vmvVV 6 0,
        .vmvVI 7 (-1)
      ]
    else
      [
        .vlseg 3 0 srcPixel,
        .vmvVV 4 0,
        .vmvVV 5 1,
        .vmvVV 6 2,
        .vmvVI 7 (-1)
      ]
  else
    [
      .vlseg 4 0 srcPixel,
      .vmvVV 4 0,
      .vmvVV 5 1,
      .vmvVV 6 2,
      .vmvVV 7 3
    ] ++ opaqueOps srcCf

def packSrcBytes (srcCf : ColorFormat) : Option Nat :=
  match srcCf with
  | .rgb888 => some 3
  | .xrgb8888 | .argb8888 => some 4
  | _ => none

def packDestBytes (destCf : ColorFormat) : Option Nat :=
  match destCf with
  | .rgb565 | .rgb565Swapped | .argb1555 | .argb4444 => some 2
  | .argb2222 => some 1
  | .argb8565 => some 3
  | _ => none

def pack565Ops : List Op :=
  [
    .vsrlVI 0 4 3,
    .vsrlVI 2 5 2,
    .vsllVI 2 2 5,
    .vorVV 0 0 2,
    .vsrlVI 1 5 5,
    .vsrlVI 2 6 3,
    .vsllVI 2 2 3,
    .vorVV 1 1 2
  ]

def packOps (destCf : ColorFormat) : List Op :=
  match destCf with
  | .rgb565 => pack565Ops
  | .rgb565Swapped => pack565Ops ++ swapBytesOps
  | .argb8565 => pack565Ops ++ [.vmvVV 2 7]
  | .argb1555 =>
    [
      .vsrlVI 0 7 7,
      .vsrlVI 2 6 3,
      .vsllVI 2 2 1,
      .vorVV 0 0 2,
      .vsrlVI 2 5 3,
      .vsllVI 2 2 6,
      .vorVV 0 0 2,
      .vsrlVI 1 5 5,
      .vsrlVI 2 4 3,
      .vsllVI 2 2 3,
      .vorVV 1 1 2
    ]
  | .argb4444 =>
    [
      .vsrlVI 0 7 4,
      .vsrlVI 2 6 4,
      .vsllVI 2 2 4,
      .vorVV 0 0 2,
      .vsrlVI 1 5 4,
      .vsrlVI 2 4 4,
      .vsllVI 2 2 4,
      .vorVV 1 1 2
    ]
  | .argb2222 =>
    [
      .vsrlVI 0 4 6,
      .vsllVI 0 0 6,
      .vsrlVI 2 5 6,
      .vsllVI 2 2 4,
      .vorVV 0 0 2,
      .vsrlVI 2 6 6,
      .vsllVI 2 2 2,
      .vorVV 0 0 2,
      .vsrlVI 2 7 6,
      .vorVV 0 0 2
    ]
  | _ => []

def rvvPackFrom2432 (hart : Hart) (img : Image) (s : VState) : Option VState :=
  match packSrcBytes img.srcCf, packDestBytes img.destCf with
  | some srcBytes, some destBytes =>
    let strip := fun srcPixel destPixel =>
      {
        ops := unpackOps srcBytes img.srcCf img.sourceIsRgb srcPixel ++ packOps img.destCf
        store := ⟨destBytes, 0, destPixel⟩
      }
    some (rvvRun hart img strip srcBytes destBytes s)
  | _, _ => none

def rvvPackedFormat (cf : ColorFormat) : Option Nat :=
  match cf with
  | .rgb888 => some 3
  | .xrgb8888 | .argb8888 | .argb8888Premultiplied => some 4
  | _ => none

def rvvConvertPacked (hart : Hart) (img : Image) (s : VState) : Option VState :=
  match rvvPackedFormat img.srcCf, rvvPackedFormat img.destCf with
  | some srcBytes, some destBytes =>
    let srcPremultiplied := img.srcCf = .argb8888Premultiplied
    let destPremultiplied := img.destCf = .argb8888Premultiplied
    let sourceOpaque := img.srcCf = .rgb888 ∨ img.srcCf = .xrgb8888
    if ¬(srcPremultiplied ↔ destPremultiplied) ∧ ¬sourceOpaque then
      none
    else
      let strip := fun srcPixel destPixel =>
        {
          ops := unpackOps srcBytes img.srcCf img.sourceIsRgb srcPixel
            ++ if destBytes = 3 then [] else opaqueOps img.destCf
          store := ⟨destBytes, 4, destPixel⟩
        }
      some (rvvRun hart img strip srcBytes destBytes s)
  | _, _ => none

end Lvgl

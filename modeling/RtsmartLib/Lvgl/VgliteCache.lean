import RtsmartLib.Lvgl.VgliteRegistry
import RtsmartLib.Lvgl.Display

/-!
This module contains the cache maintenance of draw buffers: which ranges are flushed or invalidated for an
area, and how much of them reaches the driver.
-/

namespace Lvgl

open Lib

inductive VgliteColorFormat where
  | i1
  | i2
  | i4
  | i8
  | rgb565a8
  | nv12
  | nv21
  | i420
  | packed (code : Nat)
  deriving DecidableEq, Repr

/-
Address zero is `NULL`.
-/
structure LvYuvPlane where
  buf : Nat
  stride : Nat
  stride_lt : stride < 2 ^ 32

/-
A semi-planar frame has its interleaved chroma plane where a planar one has its `u` plane.
-/
structure LvYuvBuf where
  y : LvYuvPlane
  u : LvYuvPlane
  v : LvYuvPlane

/-
The header of a draw buffer and its data. In the formats with planes it is a frame that `data` points to.
-/
structure VgliteDrawBuf where
  cf : VgliteColorFormat
  h : Nat
  stride : Nat
  data : Nat
  dataSize : Nat
  frame : LvYuvBuf
  h_lt : h < 2 ^ 16
  stride_lt : stride < 2 ^ 16
  dataSize_lt : dataSize < 2 ^ 32

inductive CacheCall where
  | mmz (phys ptr size : Nat) (invalidate : Bool)
  | user (ptr size : Nat) (invalidate : Bool)
  deriving DecidableEq, Repr

def CacheCall.extent (call : CacheCall) : Extent :=
  match call with
  | .mmz _ ptr size _ => ⟨ptr, size⟩
  | .user ptr size _ => ⟨ptr, size⟩

/-
A range that is handed to `cache_operation`, the call to a driver that is made for it, and what
`cache_operation` returns.
-/
structure CacheOperation where
  ptr : Nat
  size : Nat
  call : Option CacheCall
  ret : Bool
  deriving DecidableEq, Repr

def CacheOperation.extent (op : CacheOperation) : Extent := ⟨op.ptr, op.size⟩

/-
`succeeds` is whether the driver reports success.
-/
def cacheOperation (sBuffers : List LvK230VgliteBufferNode) (succeeds : Bool) (ptr size : Nat)
    (invalidate : Bool) : CacheOperation :=
  if ptr = 0 ∨ size = 0 then
    ⟨ptr, size, none, false⟩
  else
    match findNodeLocked sBuffers ptr 0 with
    | some (node, offset) =>
      let cut := if size > node.size - offset then (node.size - offset) % 2 ^ 32 else size
      if !node.cached then
        ⟨ptr, size, none, true⟩
      else
        ⟨ptr, size, some (.mmz (node.phys + offset) ptr cut invalidate), succeeds⟩
    | none => ⟨ptr, size, some (.user ptr size invalidate), succeeds⟩

/-
What the functions below read of the system: the registry, and whether the driver succeeds in the first, the
second and the third operation.
-/
structure CacheSystem where
  sBuffers : List LvK230VgliteBufferNode
  succeeds : Nat → Bool

def yuvCacheOperation (sys : CacheSystem) (drawBuf : VgliteDrawBuf) (area : LvArea) (invalidate : Bool)
    : List CacheOperation :=
  let frame := drawBuf.frame
  let y1 := max area.y1 0
  let y2 := min area.y2 (drawBuf.h - 1)
  if y1 > y2 ∨ frame.y.buf = 0 then
    []
  else
    let yStride := if frame.y.stride ≠ 0 then frame.y.stride else drawBuf.stride
    let yOffset := y1.toNat * yStride
    let yBytes := (y2 - y1 + 1).toNat * yStride
    if yBytes = 0 ∨ yBytes > uint32Max ∨ yOffset > 2 ^ 64 - 1 then
      []
    else
      let op := cacheOperation sys.sBuffers (sys.succeeds 0) (frame.y.buf + yOffset) yBytes invalidate
      if !op.ret then
        [op]
      else
        let chromaY1 := y1.toNat / 2
        let chromaY2 := y2.toNat / 2
        match drawBuf.cf with
        | .nv12 | .nv21 =>
          let uvStride := frame.u.stride
          let uvOffset := chromaY1 * uvStride
          let uvBytes := (chromaY2 - chromaY1 + 1) * uvStride
          if frame.u.buf ≠ 0 ∧ uvBytes ≠ 0 ∧ uvBytes ≤ uint32Max ∧ uvOffset ≤ 2 ^ 64 - 1 then
            [op, cacheOperation sys.sBuffers (sys.succeeds 1) (frame.u.buf + uvOffset) uvBytes invalidate]
          else
            [op]
        | .i420 =>
          let uStride := frame.u.stride
          let vStride := frame.v.stride
          let uOffset := chromaY1 * uStride
          let vOffset := chromaY1 * vStride
          let uBytes := (chromaY2 - chromaY1 + 1) * uStride
          let vBytes := (chromaY2 - chromaY1 + 1) * vStride
          if frame.u.buf ≠ 0 ∧ frame.v.buf ≠ 0 ∧ uBytes ≠ 0 ∧ vBytes ≠ 0 ∧ uBytes ≤ uint32Max
              ∧ vBytes ≤ uint32Max ∧ uOffset ≤ 2 ^ 64 - 1 ∧ vOffset ≤ 2 ^ 64 - 1 then
            let opU :=
              cacheOperation sys.sBuffers (sys.succeeds 1) (frame.u.buf + uOffset) uBytes invalidate
            if opU.ret then
              [op, opU,
                cacheOperation sys.sBuffers (sys.succeeds 2) (frame.v.buf + vOffset) vBytes invalidate]
            else
              [op, opU]
          else
            [op]
        | _ => [op]

def drawBufCacheRegion (drawBuf : VgliteDrawBuf) (area : LvArea) : Option (Nat × Nat) :=
  if drawBuf.data = 0 ∨ drawBuf.dataSize = 0 then
    none
  else
    match drawBuf.cf with
    | .i1 | .i2 | .i4 | .i8 | .rgb565a8 => some (drawBuf.data, drawBuf.dataSize)
    | _ =>
      let y1 := max area.y1 0
      let y2 := min area.y2 (drawBuf.h - 1)
      if y1 > y2 then
        none
      else
        let offset := y1.toNat * drawBuf.stride
        let bytes := (y2 - y1 + 1).toNat * drawBuf.stride
        if offset ≥ drawBuf.dataSize then
          none
        else
          let bytes := if bytes > drawBuf.dataSize - offset then drawBuf.dataSize - offset else bytes
          if bytes = 0 then none else some (drawBuf.data + offset, bytes % 2 ^ 32)

/-
What `draw_buf_flush_cache` and `draw_buf_invalidate_cache` do. They differ in the operation only.
-/
def drawBufCacheCallback (invalidate : Bool) (sys : CacheSystem) (drawBuf : VgliteDrawBuf) (area : LvArea)
    : List CacheOperation :=
  match drawBuf.cf with
  | .nv12 | .nv21 | .i420 => yuvCacheOperation sys drawBuf area invalidate
  | _ =>
    match drawBufCacheRegion drawBuf area with
    | some (ptr, size) => [cacheOperation sys.sBuffers (sys.succeeds 0) ptr size invalidate]
    | none => []

def drawBufFlushCache (sys : CacheSystem) (drawBuf : VgliteDrawBuf) (area : LvArea)
    : List CacheOperation :=
  drawBufCacheCallback false sys drawBuf area

def drawBufInvalidateCache (sys : CacheSystem) (drawBuf : VgliteDrawBuf) (area : LvArea)
    : List CacheOperation :=
  drawBufCacheCallback true sys drawBuf area

end Lvgl

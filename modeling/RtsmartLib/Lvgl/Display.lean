import RtsmartLib.Lib.Machine
import RtsmartLib.Lib.Replica
import Mathlib.Data.List.FinRange
import Mathlib.Order.MinMax

/-!
This module contains the buffer rotation of the LVGL display port: choosing and catching up the draw
buffer when rendering starts, recording dirty rows while areas are flushed, and pushing the buffer
after the last area.
-/

namespace Lvgl

open Lib

structure LvArea where
  x1 : Int
  y1 : Int
  x2 : Int
  y2 : Int

abbrev Pos (h w : Nat) := Fin h × Fin w

abbrev Frame (Px : Type) (h w : Nat) := Pos h w → Px

def LvArea.Contains {h w : Nat} (area : LvArea) (p : Pos h w) : Prop :=
  (area.x1 ≤ p.2 ∧ (p.2 : Int) ≤ area.x2) ∧ (area.y1 ≤ p.1 ∧ (p.1 : Int) ≤ area.y2)

instance {h w : Nat} (area : LvArea) (p : Pos h w) : Decidable (area.Contains p) :=
  inferInstanceAs (Decidable (_ ∧ _))

def InRows {h w : Nat} (valid : Bool) (y1 y2 : Int) (p : Pos h w) : Prop :=
  valid = true ∧ y1 ≤ p.1 ∧ (p.1 : Int) ≤ y2

instance {h w : Nat} (valid : Bool) (y1 y2 : Int) (p : Pos h w)
    : Decidable (InRows valid y1 y2 p) :=
  inferInstanceAs (Decidable (_ ∧ _))

/--
`pixels` is what the CPU and the renderer see, `memory` is what VO scans out. They differ where a
cached mapping holds lines that are not written back yet.
-/
structure DisplayBuffer (Px : Type) (h w : Nat) where
  pixels : Frame Px h w
  memory : Frame Px h w
  syncRowsValid : Bool
  syncY1 : Int
  syncY2 : Int

structure DisplayInstance (Px : Type) (h w : Nat) where
  buffer : Fin 3 → DisplayBuffer Px h w
  bufferCached : Bool
  lastBuffer : Option (Fin 3)
  dirtyRowsValid : Bool
  dirtyY1 : Int
  dirtyY2 : Int
  drawBuffer : Fin 3

variable {Px : Type} {h w : Nat}

/--
A store to part of a buffer. Behind a cached mapping the lines of `writtenBack` reach the memory by
eviction, in addition to those an explicit flush writes back.
-/
def DisplayBuffer.write (b : DisplayBuffer Px h w) (cached : Bool) (S : Pos h w → Prop)
    [DecidablePred S] (writtenBack : Pos h w → Bool) (new : Frame Px h w) : DisplayBuffer Px h w :=
  let pixels := overlay S new b.pixels
  {
    b with
    pixels
    memory :=
      if cached then
        overlay (fun p => writtenBack p = true) pixels b.memory
      else
        overlay S new b.memory
  }

def DisplayBuffer.flushCache (b : DisplayBuffer Px h w) (y1 y2 : Int) : DisplayBuffer Px h w :=
  { b with memory := overlay (InRows true y1 y2) b.pixels b.memory }

namespace DisplayInstance

def setBuffer (inst : DisplayInstance Px h w) (i : Fin 3) (b : DisplayBuffer Px h w)
    : DisplayInstance Px h w :=
  { inst with buffer := Function.update inst.buffer i b }

def markDirtyRows (inst : DisplayInstance Px h w) (area : LvArea) : DisplayInstance Px h w :=
  let y1 := max area.y1 0
  let y2 := min area.y2 (h - 1)
  if y1 > y2 then
    inst
  else if !inst.dirtyRowsValid then
    {
      inst with
      dirtyY1 := y1
      dirtyY2 := y2
      dirtyRowsValid := true
    }
  else
    {
      inst with
      dirtyY1 := min inst.dirtyY1 y1
      dirtyY2 := max inst.dirtyY2 y2
    }

def flushDirtyRows (inst : DisplayInstance Px h w) (i : Fin 3) : DisplayInstance Px h w :=
  if !inst.dirtyRowsValid then
    inst
  else
    inst.setBuffer i ((inst.buffer i).flushCache inst.dirtyY1 inst.dirtyY2)

def nextBuffer (inst : DisplayInstance Px h w) (released : Fin 3 → Bool) : Fin 3 :=
  match (List.finRange 3).find? (fun i => inst.lastBuffer ≠ some i ∧ released i) with
  | some i => i
  | none => if inst.lastBuffer = some 0 then 1 else 0

def prepareDrawBuffer (inst : DisplayInstance Px h w) (released : Fin 3 → Bool)
    (writtenBack : Pos h w → Bool) : DisplayInstance Px h w :=
  let next := inst.nextBuffer released
  let b := inst.buffer next
  let b :=
    match inst.lastBuffer with
    | none => b
    | some last =>
      if b.syncRowsValid then
        let copied := b.write inst.bufferCached (InRows true b.syncY1 b.syncY2) writtenBack
          (inst.buffer last).pixels
        let flushed := if inst.bufferCached then copied.flushCache b.syncY1 b.syncY2 else copied
        { flushed with syncRowsValid := false }
      else
        b
  { inst.setBuffer next b with drawBuffer := next }

def rememberDirtyRows (inst : DisplayInstance Px h w) (current : Fin 3) : DisplayInstance Px h w :=
  {
    inst with
    buffer := fun i =>
      let b := inst.buffer i
      if i = current ∨ !inst.dirtyRowsValid then
        b
      else if b.syncRowsValid then
        {
          b with
          syncY1 := min b.syncY1 inst.dirtyY1
          syncY2 := max b.syncY2 inst.dirtyY2
        }
      else
        {
          b with
          syncY1 := inst.dirtyY1
          syncY2 := inst.dirtyY2
          syncRowsValid := true
        }
  }

def flushCb (inst : DisplayInstance Px h w) (area : LvArea) (current : Fin 3)
    (isLast waitIdle : Bool) : DisplayInstance Px h w × Option (Frame Px h w) :=
  let inst := inst.markDirtyRows area
  if !isLast then
    (inst, none)
  else
    let inst := if inst.bufferCached then inst.flushDirtyRows current else inst
    if !waitIdle then
      (inst, none)
    else
      let pushed := (inst.buffer current).memory
      let inst := inst.rememberDirtyRows current
      ({ inst with lastBuffer := some current, dirtyRowsValid := false }, some pushed)

end DisplayInstance

structure RenderedArea (Px : Type) (h w : Nat) where
  area : LvArea
  pixels : Frame Px h w
  writtenBack : Pos h w → Bool

/--
One refresh as LVGL runs it in direct mode, with what the hardware decides on the way: which buffers
have been released when they are polled, which cache lines are evicted, and whether the wait for the
GPU succeeds.
-/
structure Refresh (Px : Type) (h w : Nat) where
  released : Fin 3 → Bool
  writtenBack : Pos h w → Bool
  areas : List (RenderedArea Px h w)
  waitIdle : Bool

structure DisplayState (Px : Type) (h w : Nat) where
  inst : DisplayInstance Px h w
  screen : Frame Px h w

namespace DisplayState

def init (cached : Bool) (blank : Px) : DisplayState Px h w :=
  {
    inst :=
      {
        buffer := fun _ => ⟨fun _ => blank, fun _ => blank, false, 0, 0⟩
        bufferCached := cached
        lastBuffer := none
        dirtyRowsValid := false
        dirtyY1 := 0
        dirtyY2 := 0
        drawBuffer := 0
      }
    screen := fun _ => blank
  }

def render (s : DisplayState Px h w) (r : RenderedArea Px h w) : DisplayState Px h w :=
  let i := s.inst.drawBuffer
  let b := (s.inst.buffer i).write s.inst.bufferCached r.area.Contains r.writtenBack r.pixels
  {
    inst := s.inst.setBuffer i b
    screen := overlay r.area.Contains r.pixels s.screen
  }

def flush (s : DisplayState Px h w) (area : LvArea) (isLast waitIdle : Bool)
    : DisplayState Px h w × Option (Frame Px h w) :=
  let (inst, pushed) := s.inst.flushCb area s.inst.drawBuffer isLast waitIdle
  ({ s with inst }, pushed)

def refreshAreas (s : DisplayState Px h w) (waitIdle : Bool) (areas : List (RenderedArea Px h w))
    : DisplayState Px h w × Option (Frame Px h w) :=
  match areas with
  | [] => (s, none)
  | [r] => (s.render r).flush r.area true waitIdle
  | r :: r' :: rs => ((s.render r).flush r.area false waitIdle).1.refreshAreas waitIdle (r' :: rs)

def refresh (s : DisplayState Px h w) (r : Refresh Px h w)
    : DisplayState Px h w × Option (Frame Px h w) :=
  let s := { s with inst := s.inst.prepareDrawBuffer r.released r.writtenBack }
  s.refreshAreas r.waitIdle r.areas

end DisplayState

def displayMachine : Machine (DisplayState Px h w) (Refresh Px h w) (Option (Frame Px h w)) :=
  ⟨DisplayState.refresh⟩

end Lvgl

import RtsmartLib.Lib.Extents
import RtsmartLib.Lib.Ledger
import RtsmartLib.Lib.Machine
import Mathlib.Algebra.Order.Group.Nat

/-!
This module contains the registry of the buffers that the GPU may access: buffers that others register, and
draw buffers that are allocated for LVGL.
-/

namespace Lvgl

open Lib

def uint32Max : Nat := 2 ^ 32 - 1

def lvDrawBufAlign : Nat := 64

def addressCacheCount : Nat := 256

/-
A node with the place `addr` that it has been allocated at. Its format is left out.
-/
structure LvK230VgliteBufferNode where
  addr : Nat
  virt : Nat
  phys : Nat
  size : Nat
  vgHandle : Option Nat
  vgAddress : Nat
  cached : Bool
  owned : Bool
  mapFailed : Bool
  deriving DecidableEq, Repr

structure LvK230VgliteAddressCache where
  virt : Nat
  size : Nat
  address : Nat
  deriving DecidableEq, Repr

/-
The variables of the file. Address zero is `NULL`.
-/
structure VgliteState where
  sBuffers : List LvK230VgliteBufferNode
  sAddressCache : Nat → LvK230VgliteAddressCache
  sGpuInited : Bool

def addressCacheClear : Nat → LvK230VgliteAddressCache :=
  fun _ => ⟨0, 0, 0⟩

def VgliteState.init : VgliteState :=
  { sBuffers := [], sAddressCache := addressCacheClear, sGpuInited := false }

inductive VgliteResource where
  | node (addr : Nat)
  | mmz (phys virt : Nat)
  | mapping (handle : Nat)
  deriving DecidableEq, Repr

/-
What a function returns and changes, and what it takes from the system and gives back to it.
-/
structure VgliteOutcome where
  ret : Option Nat
  state : VgliteState
  transfers : List (Transfer VgliteResource)

def rangeInNode (node : LvK230VgliteBufferNode) (ptr size : Nat) : Option Nat :=
  if ptr < node.virt then
    none
  else
    let offset := ptr - node.virt
    if offset ≥ node.size ∨ (size ≠ 0 ∧ size > node.size - offset) then
      none
    else
      some offset

def findNodeLocked (sBuffers : List LvK230VgliteBufferNode) (ptr size : Nat)
    : Option (LvK230VgliteBufferNode × Nat) :=
  match sBuffers with
  | [] => none
  | node :: next =>
    match rangeInNode node ptr size with
    | some offset => some (node, offset)
    | none => findNodeLocked next ptr size

/-
A handle is given back even if `vg_lite_unmap` reports an error: that is only printed.
-/
def unmapNode (node : LvK230VgliteBufferNode) : List (Transfer VgliteResource) :=
  match node.vgHandle with
  | none => []
  | some handle => [.release (.mapping handle)]

def releaseNode (node : LvK230VgliteBufferNode) : List (Transfer VgliteResource) :=
  unmapNode node
    ++ (if node.owned then [.release (.mmz node.phys node.virt)] else [])
    ++ [.release (.node node.addr)]

/-
Whether the node is mapped, and the node afterwards. `vgLiteMap` is the handle and the address that
`vg_lite_map` returns if it succeeds.
-/
def mapNodeLocked (sGpuInited : Bool) (vgLiteMap : Option (Nat × Nat)) (node : LvK230VgliteBufferNode)
    : Bool × LvK230VgliteBufferNode × List (Transfer VgliteResource) :=
  if node.vgHandle.isSome then
    (true, node, [])
  else if node.mapFailed ∨ !sGpuInited ∨ node.size = 0 ∨ node.size > 2 ^ 31 - 1
      ∨ node.phys > uint32Max ∨ node.size - 1 > uint32Max - node.phys then
    (false, node, [])
  else
    match vgLiteMap with
    | none => (false, { node with mapFailed := true }, [])
    | some (handle, address) =>
      (true, { node with vgHandle := some handle, vgAddress := address }, [.acquire (.mapping handle)])

/-
What `map_buffer_plane` does for a plane in a registered buffer. It returns the address of the plane.
-/
def mapBufferPlane (memory size : Nat) (vgLiteMap : Option (Nat × Nat)) (s : VgliteState)
    : VgliteOutcome :=
  if memory = 0 ∨ size = 0 then
    ⟨none, s, []⟩
  else
    match splitFirst (fun node => (rangeInNode node memory size).isSome) s.sBuffers with
    | none => ⟨none, s, []⟩
    | some (before, node, after) =>
      let offset := (rangeInNode node memory size).getD 0
      let (mapped, node, transfers) := mapNodeLocked s.sGpuInited vgLiteMap node
      let ret :=
        if mapped ∧ offset ≤ uint32Max - node.vgAddress then some (node.vgAddress + offset) else none
      ⟨ret, { s with sBuffers := before ++ node :: after }, transfers⟩

def lvK230VgliteRegisterBuffer (virt phys size : Nat) (cached : Bool) (calloc : Option Nat)
    (s : VgliteState) : VgliteOutcome :=
  if virt = 0 ∨ size = 0 then
    ⟨none, s, []⟩
  else
    match calloc with
    | none => ⟨none, s, []⟩
    | some addr =>
      let replacement : LvK230VgliteBufferNode := ⟨addr, virt, phys, size, none, 0, cached, false, false⟩
      let s := { s with sAddressCache := addressCacheClear }
      match splitFirst (fun node => node.virt = virt) s.sBuffers with
      | some (before, old, after) =>
        if old.owned ∨ (old.phys = phys ∧ old.size = size ∧ old.cached = cached) then
          ⟨none, s, [.acquire (.node addr), .release (.node addr)]⟩
        else
          ⟨none, { s with sBuffers := before ++ replacement :: after },
            .acquire (.node addr) :: releaseNode old⟩
      | none => ⟨none, { s with sBuffers := replacement :: s.sBuffers }, [.acquire (.node addr)]⟩

def lvK230VgliteUnregisterBuffer (virt : Nat) (s : VgliteState) : VgliteOutcome :=
  if virt = 0 then
    ⟨none, s, []⟩
  else
    let s := { s with sAddressCache := addressCacheClear }
    match splitFirst (fun node => node.virt = virt && !node.owned) s.sBuffers with
    | some (before, node, after) => ⟨none, { s with sBuffers := before ++ after }, releaseNode node⟩
    | none => ⟨none, s, []⟩

def drawBufAllocationSize (size : Nat) : Nat :=
  let allocationSize64 := (size + lvDrawBufAlign - 1) % 2 ^ 64
  (allocationSize64 + 63) % 2 ^ 64 / 64 * 64

def drawBufMalloc (size : Nat) (mmzAlloc : Option (Nat × Nat)) (calloc : Option Nat) (s : VgliteState)
    : VgliteOutcome :=
  if size = 0 then
    ⟨none, s, []⟩
  else if drawBufAllocationSize size > uint32Max then
    ⟨none, s, []⟩
  else
    match mmzAlloc with
    | none => ⟨none, s, []⟩
    | some (phys, virt) =>
      match calloc with
      | none => ⟨none, s, [.acquire (.mmz phys virt), .release (.mmz phys virt)]⟩
      | some addr =>
        let node := ⟨addr, virt, phys, drawBufAllocationSize size, none, 0, true, true, false⟩
        ⟨some virt, { s with sBuffers := node :: s.sBuffers },
          [.acquire (.mmz phys virt), .acquire (.node addr)]⟩

def drawBufFree (buf : Nat) (s : VgliteState) : VgliteOutcome :=
  if buf = 0 then
    ⟨none, s, []⟩
  else
    match splitFirst (fun node => node.virt = buf && node.owned) s.sBuffers with
    | some (before, node, after) => ⟨none, { s with sBuffers := before ++ after }, releaseNode node⟩
    | none => ⟨none, s, []⟩

/-
A call, with what the allocators return in it.
-/
inductive VgliteOp where
  | register (virt phys size : Nat) (cached : Bool) (calloc : Option Nat)
  | unregister (virt : Nat)
  | malloc (size : Nat) (mmzAlloc : Option (Nat × Nat)) (calloc : Option Nat)
  | free (buf : Nat)
  | map (memory size : Nat) (vgLiteMap : Option (Nat × Nat))
  deriving DecidableEq, Repr

def VgliteOp.perform (op : VgliteOp) (s : VgliteState) : VgliteOutcome :=
  match op with
  | .register virt phys size cached calloc => lvK230VgliteRegisterBuffer virt phys size cached calloc s
  | .unregister virt => lvK230VgliteUnregisterBuffer virt s
  | .malloc size mmzAlloc calloc => drawBufMalloc size mmzAlloc calloc s
  | .free buf => drawBufFree buf s
  | .map memory size vgLiteMap => mapBufferPlane memory size vgLiteMap s

def vgliteMachine : Machine VgliteState VgliteOp (Option Nat × List (Transfer VgliteResource)) :=
  ⟨fun s op => ((op.perform s).state, (op.perform s).ret, (op.perform s).transfers)⟩

end Lvgl

import RtsmartLib.Lvgl.VgliteCache

/-!
This module contains the proof that the cache maintenance of an area reaches every row of it, and no byte
beyond the draw buffer or the registered buffer that it lies in.
-/

namespace Lvgl

open Lib

/--
Rows of a draw buffer that lie one after the other, each for `sub` rows of pixels.
-/
structure RowPlane where
  base : Nat
  stride : Nat
  rows : Nat
  sub : Nat

def RowPlane.extent (p : RowPlane) : Extent := ⟨p.base, p.rows * p.stride⟩

/-
The row of the plane for the row `r` of pixels.
-/
def RowPlane.row (p : RowPlane) (r : Nat) : Extent := ⟨p.base + r / p.sub * p.stride, p.stride⟩

def RowPlane.region (p : RowPlane) (y1 y2 : Nat) : Extent :=
  ⟨p.base + y1 / p.sub * p.stride, (y2 / p.sub - y1 / p.sub + 1) * p.stride⟩

def VgliteDrawBuf.yStride (drawBuf : VgliteDrawBuf) : Nat :=
  if drawBuf.frame.y.stride ≠ 0 then drawBuf.frame.y.stride else drawBuf.stride

/-
The planes of a draw buffer. Where a palette comes before the rows or an alpha map after them, all of the data
counts as one row.
-/
def VgliteDrawBuf.planes (drawBuf : VgliteDrawBuf) : List RowPlane :=
  let frame := drawBuf.frame
  let y : RowPlane := ⟨frame.y.buf, drawBuf.yStride, drawBuf.h, 1⟩
  let chroma (plane : LvYuvPlane) : RowPlane := ⟨plane.buf, plane.stride, (drawBuf.h + 1) / 2, 2⟩
  match drawBuf.cf with
  | .nv12 | .nv21 => [y, chroma frame.u]
  | .i420 => [y, chroma frame.u, chroma frame.v]
  | .packed _ => [⟨drawBuf.data, drawBuf.stride, drawBuf.h, 1⟩]
  | .i1 | .i2 | .i4 | .i8 | .rgb565a8 => [⟨drawBuf.data, drawBuf.dataSize, 1, drawBuf.h⟩]

/--
The draw buffer has all its planes. The size of its data covers the rows, and as it is a number of 32 bits so
is the size of each plane.
-/
structure VgliteDrawBuf.HasRows (drawBuf : VgliteDrawBuf) : Prop where
  base_ne : ∀ p ∈ drawBuf.planes, p.base ≠ 0
  stride_pos : ∀ p ∈ drawBuf.planes, 0 < p.stride
  size_le : ∀ p ∈ drawBuf.planes, p.rows * p.stride ≤ uint32Max
  covers : ∀ code, drawBuf.cf = .packed code → drawBuf.h * drawBuf.stride ≤ drawBuf.dataSize

def planeOperation (sys : CacheSystem) (invalidate : Bool) (y1 y2 : Nat) (k : Nat) (p : RowPlane)
    : CacheOperation :=
  cacheOperation sys.sBuffers (sys.succeeds k) (p.region y1 y2).start (p.region y1 y2).len invalidate

/-
Operations on the planes one after the other, until one fails.
-/
def planeOperations (sys : CacheSystem) (invalidate : Bool) (y1 y2 : Nat) (k : Nat) (planes : List RowPlane)
    : List CacheOperation :=
  match planes with
  | [] => []
  | p :: planes =>
    let op := planeOperation sys invalidate y1 y2 k p
    if op.ret then op :: planeOperations sys invalidate y1 y2 (k + 1) planes else [op]

@[simp]
theorem cacheOperation_extent (sBuffers : List LvK230VgliteBufferNode) (succeeds : Bool) (ptr size : Nat)
    (invalidate : Bool)
    : (cacheOperation sBuffers succeeds ptr size invalidate).extent = ⟨ptr, size⟩ := by
  unfold cacheOperation
  split
  . rfl
  . split
    . next node offset _ =>
      cases hcached : node.cached with
      | true => simp [CacheOperation.extent]
      | false => simp [CacheOperation.extent]
    . rfl

/-
What reaches the driver of a range ends where the registered buffer does in which the range begins.
-/
theorem cacheOperation_call {sBuffers : List LvK230VgliteBufferNode} {succeeds : Bool} {ptr size : Nat}
    {invalidate : Bool} {call : CacheCall}
    (h : call ∈ (cacheOperation sBuffers succeeds ptr size invalidate).call)
    : call.extent.Within ⟨ptr, size⟩
        ∧ ∀ node offset, findNodeLocked sBuffers ptr 0 = some (node, offset) →
          call.extent.Within node.extent := by
  unfold cacheOperation at h
  split at h
  . cases h
  . cases hfind : findNodeLocked sBuffers ptr 0 with
    | none =>
      simp only [hfind, Option.mem_def, Option.some.injEq] at h
      rw [← h]
      exact ⟨Extent.Within.refl _, fun _ _ hnone => by cases hnone⟩
    | some found =>
      obtain ⟨node, offset⟩ := found
      have ⟨_, ⟨hstart, hlt, _⟩, hoffset⟩ := findNodeLocked_mem hfind
      simp only [hfind] at h
      split at h
      . cases h
      . simp only [Option.mem_def, Option.some.injEq] at h
        rw [← h]
        have hcut : (if size > node.size - offset then (node.size - offset) % 2 ^ 32 else size)
            ≤ min size (node.size - offset) := by
          split
          . have := Nat.mod_le (node.size - offset) (2 ^ 32)
            omega
          . omega
        constructor
        . refine ⟨Nat.le_refl _, ?_⟩
          simp only [CacheCall.extent]
          omega
        . intro node' offset' heq
          simp only [Option.some.injEq, Prod.mk.injEq] at heq
          rw [← heq.1]
          refine ⟨hstart, ?_⟩
          simp only [CacheCall.extent, LvK230VgliteBufferNode.extent, LiveBuffer.extent,
            LvK230VgliteBufferNode.buffer] at hstart hlt ⊢
          omega

/-
All of a range reaches the driver if it lies in no registered buffer, or wholly in one that is cached.
-/
theorem cacheOperation_whole {sBuffers : List LvK230VgliteBufferNode} (succeeds : Bool) {ptr size : Nat}
    (invalidate : Bool) (hptr : ptr ≠ 0) (hsize : size ≠ 0)
    (h : ∀ node offset, findNodeLocked sBuffers ptr 0 = some (node, offset) →
      node.cached = true ∧ Extent.Within ⟨ptr, size⟩ node.extent)
    : ∃ call ∈ (cacheOperation sBuffers succeeds ptr size invalidate).call, call.extent = ⟨ptr, size⟩ := by
  unfold cacheOperation
  rw [if_neg (by simp [hptr, hsize])]
  cases hfind : findNodeLocked sBuffers ptr 0 with
  | none => exact ⟨_, rfl, rfl⟩
  | some found =>
    obtain ⟨node, offset⟩ := found
    have ⟨_, _, hoffset⟩ := findNodeLocked_mem hfind
    have ⟨hcached, hwithin⟩ := h node offset hfind
    have hend : ptr + size ≤ node.virt + node.size := hwithin.2
    simp only [hcached, Bool.not_true, Bool.false_eq_true, if_false]
    rw [if_neg (by omega)]
    exact ⟨_, rfl, rfl⟩

namespace RowPlane

variable {p : RowPlane} {y1 y2 : Nat}

theorem row_within_region {r : Nat} (h1 : y1 ≤ r) (h2 : r ≤ y2)
    : (p.row r).Within (p.region y1 y2) := by
  have hlow : y1 / p.sub ≤ r / p.sub := Nat.div_le_div_right h1
  have hhigh : r / p.sub ≤ y2 / p.sub := Nat.div_le_div_right h2
  constructor
  . exact Nat.add_le_add_left (Nat.mul_le_mul_right _ hlow) _
  . simp only [row, region]
    have hrow : r / p.sub * p.stride + p.stride = (r / p.sub + 1) * p.stride := by
      rw [Nat.add_mul, Nat.one_mul]
    have hregion : y1 / p.sub * p.stride + (y2 / p.sub - y1 / p.sub + 1) * p.stride
        = (y2 / p.sub + 1) * p.stride := by
      rw [← Nat.add_mul]
      congr 1
      omega
    rw [Nat.add_assoc, hrow, Nat.add_assoc, hregion]
    exact Nat.add_le_add_left (Nat.mul_le_mul_right _ (by omega)) _

theorem region_within_extent (h : y1 ≤ y2) (hrows : y2 / p.sub < p.rows)
    : (p.region y1 y2).Within p.extent := by
  have hlow : y1 / p.sub ≤ y2 / p.sub := Nat.div_le_div_right h
  constructor
  . exact Nat.le_add_right _ _
  . simp only [region, extent]
    rw [Nat.add_assoc, ← Nat.add_mul]
    exact Nat.add_le_add_left (Nat.mul_le_mul_right _ (by omega)) _

end RowPlane

section

variable {sys : CacheSystem} {invalidate : Bool} {y1 y2 : Nat}

theorem planeOperations_cons (p : RowPlane) (planes : List RowPlane) (k : Nat)
    : planeOperations sys invalidate y1 y2 k (p :: planes)
        = if (planeOperation sys invalidate y1 y2 k p).ret then
            planeOperation sys invalidate y1 y2 k p :: planeOperations sys invalidate y1 y2 (k + 1) planes
          else
            [planeOperation sys invalidate y1 y2 k p] := rfl

theorem planeOperations_single (p : RowPlane) (k : Nat)
    : planeOperations sys invalidate y1 y2 k [p] = [planeOperation sys invalidate y1 y2 k p] := by
  rw [planeOperations_cons]
  split
  . rfl
  . rfl

/-
Unless an operation on one of the planes before it fails, there is one on each plane.
-/
theorem planeOperations_reaches {planes : List RowPlane} {k n : Nat} {p : RowPlane}
    (hp : planes[n]? = some p)
    (hsucceeded : ∀ j < n, ∀ op, (planeOperations sys invalidate y1 y2 k planes)[j]? = some op → op.ret = true)
    : ∃ op ∈ planeOperations sys invalidate y1 y2 k planes, op.extent = p.region y1 y2 := by
  induction planes generalizing k n with
  | nil => simp at hp
  | cons q planes ih =>
    rw [planeOperations_cons] at hsucceeded ⊢
    cases n with
    | zero =>
      simp only [List.getElem?_cons_zero, Option.some.injEq] at hp
      rw [← hp]
      refine ⟨planeOperation sys invalidate y1 y2 k q, ?_, cacheOperation_extent ..⟩
      split
      . apply List.mem_cons_self
      . apply List.mem_cons_self
    | succ n =>
      simp only [List.getElem?_cons_succ] at hp
      by_cases hret : (planeOperation sys invalidate y1 y2 k q).ret = true
      . rw [if_pos hret] at hsucceeded ⊢
        have hrest := ih (k := k + 1) hp (fun j hj => hsucceeded (j + 1) (by omega))
        obtain ⟨op, hmem, hop⟩ := hrest
        exact ⟨op, List.mem_cons_of_mem _ hmem, hop⟩
      . rw [if_neg hret] at hsucceeded
        exact absurd (hsucceeded 0 (by omega) _ rfl) hret

theorem planeOperations_mem {planes : List RowPlane} {k : Nat} {op : CacheOperation}
    (hop : op ∈ planeOperations sys invalidate y1 y2 k planes)
    : ∃ p ∈ planes, ∃ n, op = planeOperation sys invalidate y1 y2 n p := by
  induction planes generalizing k with
  | nil => cases hop
  | cons p planes ih =>
    rw [planeOperations_cons] at hop
    split at hop
    . cases List.mem_cons.mp hop with
      | inl heq => exact ⟨p, List.mem_cons_self, _, heq⟩
      | inr hmem =>
        have ⟨q, hq, hrest⟩ := ih hmem
        exact ⟨q, List.mem_cons_of_mem _ hq, hrest⟩
    . rw [List.mem_singleton] at hop
      exact ⟨p, List.mem_cons_self, _, hop⟩

end

section

variable {drawBuf : VgliteDrawBuf}

/-
For each plane the region is not empty, and its bytes and its offset are numbers that the checks let pass.
-/
theorem hasRows_region (h : drawBuf.HasRows) {p : RowPlane} (hp : p ∈ drawBuf.planes) {y1 y2 : Nat}
    (hle : y1 ≤ y2) (hrows : y2 / p.sub < p.rows)
    : (y2 / p.sub - y1 / p.sub + 1) * p.stride ≠ 0
        ∧ (y2 / p.sub - y1 / p.sub + 1) * p.stride ≤ uint32Max
        ∧ y1 / p.sub * p.stride ≤ 2 ^ 64 - 1 := by
  have hsize := h.size_le p hp
  have hpos := h.stride_pos p hp
  have hlow : y1 / p.sub ≤ y2 / p.sub := Nat.div_le_div_right hle
  have hcount : y2 / p.sub - y1 / p.sub + 1 ≤ p.rows := Nat.lt_of_le_of_lt (Nat.sub_le _ _) hrows
  have hbytes := Nat.mul_le_mul_right p.stride hcount
  have hoffset := Nat.mul_le_mul_right p.stride (Nat.le_of_lt (Nat.lt_of_le_of_lt hlow hrows))
  have hmax : uint32Max ≤ 2 ^ 64 - 1 := by decide
  refine ⟨?_, by omega, by omega⟩
  have := Nat.mul_pos (Nat.succ_pos (y2 / p.sub - y1 / p.sub)) hpos
  exact Nat.pos_iff_ne_zero.mp this

theorem planes_rows {p : RowPlane} (hp : p ∈ drawBuf.planes) {y : Nat} (hy : y < drawBuf.h)
    : y / p.sub < p.rows := by
  unfold VgliteDrawBuf.planes at hp
  have hhalf : y / 2 < (drawBuf.h + 1) / 2 := by omega
  split at hp
  all_goals
    simp only [List.mem_cons, List.not_mem_nil, or_false] at hp
  . rcases hp with rfl | rfl
    . simpa using hy
    . exact hhalf
  . rcases hp with rfl | rfl
    . simpa using hy
    . exact hhalf
  . rcases hp with rfl | rfl | rfl
    . simpa using hy
    . exact hhalf
    . exact hhalf
  . rw [hp]
    simpa using hy
  all_goals
    rw [hp]
    rw [Nat.div_eq_of_lt hy]
    exact Nat.zero_lt_one

/-
The rows of an area that lie in the draw buffer, as numbers without a sign.
-/
theorem clipped_rows {area : LvArea} (hmeets : max area.y1 0 ≤ min area.y2 (drawBuf.h - 1))
    : ∃ y1 y2 : Nat,
        max area.y1 0 = y1 ∧ min area.y2 (drawBuf.h - 1) = y2 ∧ y1 ≤ y2 ∧ y2 < drawBuf.h := by
  refine ⟨(max area.y1 0).toNat, (min area.y2 (drawBuf.h - 1)).toNat, ?_⟩
  omega

/-
For the three layouts with planes there is an operation on each plane, one after the other.
-/
theorem yuvCacheOperation_planes (sys : CacheSystem) {area : LvArea} (invalidate : Bool)
    (h : drawBuf.HasRows) {y1 y2 : Nat} (hy1 : max area.y1 0 = y1)
    (hy2 : min area.y2 (drawBuf.h - 1) = y2) (hle : y1 ≤ y2) (hlt : y2 < drawBuf.h)
    (hcf : drawBuf.cf = .nv12 ∨ drawBuf.cf = .nv21 ∨ drawBuf.cf = .i420)
    : yuvCacheOperation sys drawBuf area invalidate
        = planeOperations sys invalidate y1 y2 0 drawBuf.planes := by
  have hcount : ((y2 : Int) - y1 + 1).toNat = y2 - y1 + 1 := by omega
  have hregion : ∀ p ∈ drawBuf.planes, p.base ≠ 0 ∧ (y2 / p.sub - y1 / p.sub + 1) * p.stride ≠ 0
      ∧ (y2 / p.sub - y1 / p.sub + 1) * p.stride ≤ uint32Max ∧ y1 / p.sub * p.stride ≤ 2 ^ 64 - 1 := by
    intro p hp
    exact ⟨h.base_ne p hp, hasRows_region h hp hle (planes_rows hp hlt)⟩
  have hmeets : ¬(y1 : Int) > y2 := by omega
  -- The luma plane comes first in all three layouts, and the loop over the planes goes on if it succeeds.
  have hluma := hregion ⟨drawBuf.frame.y.buf, drawBuf.yStride, drawBuf.h, 1⟩ (by
    rcases hcf with hcf | hcf | hcf <;> simp [VgliteDrawBuf.planes, hcf])
  simp only [Nat.div_one] at hluma
  obtain ⟨hbase, hne, hmax, hoffset⟩ := hluma
  have hy : cacheOperation sys.sBuffers (sys.succeeds 0) (drawBuf.frame.y.buf + y1 * drawBuf.yStride)
      ((y2 - y1 + 1) * drawBuf.yStride) invalidate
        = planeOperation sys invalidate y1 y2 0 ⟨drawBuf.frame.y.buf, drawBuf.yStride, drawBuf.h, 1⟩ := by
    simp [planeOperation, RowPlane.region]
  have hstride : (if drawBuf.frame.y.stride ≠ 0 then drawBuf.frame.y.stride else drawBuf.stride)
      = drawBuf.yStride := rfl
  have hpass : ¬((y2 - y1 + 1) * drawBuf.yStride = 0 ∨ (y2 - y1 + 1) * drawBuf.yStride > uint32Max
      ∨ y1 * drawBuf.yStride > 2 ^ 64 - 1) := by
    rw [not_or, not_or, Nat.not_lt, Nat.not_lt]
    exact ⟨hne, hmax, hoffset⟩
  unfold yuvCacheOperation
  simp only [hy1, hy2, hcount, Int.toNat_natCast, hmeets, false_or]
  rw [if_neg hbase, hstride, if_neg hpass, hy]
  by_cases hret : (planeOperation sys invalidate y1 y2 0
      ⟨drawBuf.frame.y.buf, drawBuf.yStride, drawBuf.h, 1⟩).ret = true
  . rcases hcf with hcf | hcf | hcf
    . simp only [VgliteDrawBuf.planes, hcf, List.forall_mem_cons] at hregion ⊢
      rw [planeOperations_cons, if_pos hret, planeOperations_single]
      simp only [hret, Bool.not_true, Bool.false_eq_true, if_false]
      exact if_pos hregion.2.1
    . simp only [VgliteDrawBuf.planes, hcf, List.forall_mem_cons] at hregion ⊢
      rw [planeOperations_cons, if_pos hret, planeOperations_single]
      simp only [hret, Bool.not_true, Bool.false_eq_true, if_false]
      exact if_pos hregion.2.1
    . simp only [VgliteDrawBuf.planes, hcf, List.forall_mem_cons] at hregion ⊢
      obtain ⟨-, hu, hv, -⟩ := hregion
      rw [planeOperations_cons, if_pos hret, planeOperations_cons, planeOperations_single]
      simp only [hret, Bool.not_true, Bool.false_eq_true, if_false]
      rw [if_pos ⟨hu.1, hv.1, hu.2.1, hv.2.1, hu.2.2.1, hv.2.2.1, hu.2.2.2, hv.2.2.2⟩]
      by_cases hretU : (planeOperation sys invalidate y1 y2 (0 + 1)
          ⟨drawBuf.frame.u.buf, drawBuf.frame.u.stride, (drawBuf.h + 1) / 2, 2⟩).ret = true
      . rw [if_pos hretU]
        exact if_pos hretU
      . rw [if_neg hretU]
        exact if_neg hretU
  . rw [if_pos (by simpa using hret)]
    rcases hcf with hcf | hcf | hcf
    all_goals
      simp only [VgliteDrawBuf.planes, hcf]
      rw [planeOperations_cons, if_neg hret]

/-
In the other formats there is one operation, on the rows or on all of the data.
-/
theorem drawBufCacheRegion_plane {area : LvArea} (h : drawBuf.HasRows) {y1 y2 : Nat}
    (hy1 : max area.y1 0 = y1) (hy2 : min area.y2 (drawBuf.h - 1) = y2) (hle : y1 ≤ y2)
    (hlt : y2 < drawBuf.h)
    (hcf : ¬(drawBuf.cf = .nv12 ∨ drawBuf.cf = .nv21 ∨ drawBuf.cf = .i420))
    : ∃ p, drawBuf.planes = [p]
        ∧ drawBufCacheRegion drawBuf area = some ((p.region y1 y2).start, (p.region y1 y2).len) := by
  have hcount : ((y2 : Int) - y1 + 1).toNat = y2 - y1 + 1 := by omega
  have hmeets : ¬(y1 : Int) > y2 := by omega
  have hbase := h.base_ne
  have hpos := h.stride_pos
  have hfirst : y1 / drawBuf.h = 0 := Nat.div_eq_of_lt (Nat.lt_of_le_of_lt hle hlt)
  have hlast : y2 / drawBuf.h = 0 := Nat.div_eq_of_lt hlt
  cases hcode : drawBuf.cf with
  | nv12 => exact absurd (.inl hcode) hcf
  | nv21 => exact absurd (.inr (.inl hcode)) hcf
  | i420 => exact absurd (.inr (.inr hcode)) hcf
  | packed code =>
    simp only [VgliteDrawBuf.planes, hcode, List.forall_mem_singleton] at hbase hpos
    have hcovers := h.covers code hcode
    have hlt' := drawBuf.dataSize_lt
    have hregion : y1 * drawBuf.stride + (y2 - y1 + 1) * drawBuf.stride ≤ drawBuf.dataSize := by
      rw [← Nat.add_mul]
      exact Nat.le_trans (Nat.mul_le_mul_right _ (by omega)) hcovers
    have hbytes : 0 < (y2 - y1 + 1) * drawBuf.stride := Nat.mul_pos (Nat.succ_pos _) hpos
    refine ⟨⟨drawBuf.data, drawBuf.stride, drawBuf.h, 1⟩, by simp [VgliteDrawBuf.planes, hcode], ?_⟩
    unfold drawBufCacheRegion
    simp only [hcode, hy1, hy2, hcount, Int.toNat_natCast, hmeets, if_false, RowPlane.region, Nat.div_one]
    have hdata : ¬(drawBuf.data = 0 ∨ drawBuf.dataSize = 0) := by omega
    have hoffset : ¬y1 * drawBuf.stride ≥ drawBuf.dataSize := by omega
    have hcut : ¬(y2 - y1 + 1) * drawBuf.stride > drawBuf.dataSize - y1 * drawBuf.stride := by omega
    have hsome : ¬(y2 - y1 + 1) * drawBuf.stride = 0 := by omega
    rw [if_neg hdata, if_neg hoffset, if_neg hcut, if_neg hsome, Nat.mod_eq_of_lt (by omega)]
  | i1 | i2 | i4 | i8 | rgb565a8 =>
    simp only [VgliteDrawBuf.planes, hcode, List.forall_mem_singleton] at hbase hpos
    refine ⟨⟨drawBuf.data, drawBuf.dataSize, 1, drawBuf.h⟩, by simp [VgliteDrawBuf.planes, hcode], ?_⟩
    simp only [drawBufCacheRegion, hcode, RowPlane.region, hfirst, hlast]
    rw [if_neg (by omega)]
    simp

theorem drawBufCacheCallback_planes (sys : CacheSystem) {area : LvArea} (invalidate : Bool)
    (h : drawBuf.HasRows) {y1 y2 : Nat} (hy1 : max area.y1 0 = y1)
    (hy2 : min area.y2 (drawBuf.h - 1) = y2) (hle : y1 ≤ y2) (hlt : y2 < drawBuf.h)
    : drawBufCacheCallback invalidate sys drawBuf area
        = planeOperations sys invalidate y1 y2 0 drawBuf.planes := by
  by_cases hcf : drawBuf.cf = .nv12 ∨ drawBuf.cf = .nv21 ∨ drawBuf.cf = .i420
  . rw [← yuvCacheOperation_planes sys invalidate h hy1 hy2 hle hlt hcf]
    rcases hcf with hcf | hcf | hcf
    all_goals simp only [drawBufCacheCallback, hcf]
  . have ⟨p, hp, hregion⟩ := drawBufCacheRegion_plane h hy1 hy2 hle hlt hcf
    rw [hp, planeOperations_single]
    unfold drawBufCacheCallback
    simp only [not_or] at hcf
    split
    . next heq => exact absurd heq hcf.1
    . next heq => exact absurd heq hcf.2.1
    . next heq => exact absurd heq hcf.2.2
    . rw [hregion]
      rfl

end

/--
Cache maintenance of an area that meets a draw buffer. Unless an operation on an earlier plane fails, each
plane is operated on in all rows of the area; no operation goes beyond its plane; and the driver gets what lies
in the registered buffer, which is all of it unless that buffer ends before or is not cached.
-/
theorem drawBufCacheCallback_rows {sys : CacheSystem} {drawBuf : VgliteDrawBuf} {area : LvArea}
    {ops : List CacheOperation}
    (hops : ops = drawBufFlushCache sys drawBuf area ∨ ops = drawBufInvalidateCache sys drawBuf area)
    (h : drawBuf.HasRows) (hmeets : max area.y1 0 ≤ min area.y2 (drawBuf.h - 1))
    : (∀ (n : Nat) p, drawBuf.planes[n]? = some p →
          (∀ j < n, ∀ op, ops[j]? = some op → op.ret = true) →
          ∃ op ∈ ops, ∀ r < drawBuf.h, area.y1 ≤ r → r ≤ area.y2 → (p.row r).Within op.extent)
        ∧ ∀ op ∈ ops,
          (∃ p ∈ drawBuf.planes, op.extent.Within p.extent)
          ∧ (∀ call ∈ op.call, call.extent.Within op.extent
            ∧ ∀ node offset, findNodeLocked sys.sBuffers op.ptr 0 = some (node, offset) →
              call.extent.Within node.extent)
          ∧ ((∀ node offset, findNodeLocked sys.sBuffers op.ptr 0 = some (node, offset) →
              node.cached = true ∧ op.extent.Within node.extent) →
            ∃ call ∈ op.call, call.extent = op.extent) := by
  obtain ⟨y1, y2, hy1, hy2, hle, hlt⟩ := clipped_rows hmeets
  have ⟨invalidate, hplanes⟩ : ∃ invalidate, ops = planeOperations sys invalidate y1 y2 0 drawBuf.planes := by
    rcases hops with hops | hops
    . exact ⟨false, hops.trans (drawBufCacheCallback_planes sys false h hy1 hy2 hle hlt)⟩
    . exact ⟨true, hops.trans (drawBufCacheCallback_planes sys true h hy1 hy2 hle hlt)⟩
  subst hplanes
  constructor
  . intro n p hp hsucceeded
    have ⟨op, hop, hextent⟩ := planeOperations_reaches hp hsucceeded
    refine ⟨op, hop, ?_⟩
    intro r hr hr1 hr2
    rw [hextent]
    exact RowPlane.row_within_region (by omega) (by omega)
  . intro op hop
    obtain ⟨p, hp, n, rfl⟩ := planeOperations_mem hop
    have hextent : (planeOperation sys invalidate y1 y2 n p).extent = p.region y1 y2 := by
      apply cacheOperation_extent
    have hptr : (planeOperation sys invalidate y1 y2 n p).ptr = (p.region y1 y2).start :=
      congrArg Extent.start hextent
    have hrows := planes_rows hp hlt
    rw [hextent, hptr]
    refine ⟨⟨p, hp, RowPlane.region_within_extent hle hrows⟩, ?_, ?_⟩
    . intro call hcall
      exact cacheOperation_call hcall
    . apply cacheOperation_whole
      . have := h.base_ne p hp
        simp only [RowPlane.region]
        omega
      . exact (hasRows_region h hp hle hrows).1

def nv12DrawBuf : VgliteDrawBuf :=
  {
    cf := .nv12
    h := 5
    stride := 8
    data := 64
    dataSize := 64
    frame := ⟨⟨4096, 0, by decide⟩, ⟨4136, 8, by decide⟩, ⟨0, 0, by decide⟩⟩
    h_lt := by decide
    stride_lt := by decide
    dataSize_lt := by decide
  }

def nv12System : CacheSystem :=
  ⟨[⟨1, 4096, 65536, 64, none, 0, true, false, false⟩], fun _ => true⟩

/-
An NV12 frame of five rows in a registered buffer. The last row of pixels has the last row of chroma to itself.
-/
theorem drawBufCacheCallback_rows_nv12
    : ∃ op ∈ drawBufFlushCache nv12System nv12DrawBuf ⟨0, 3, 7, 4⟩,
        ∀ r : Nat, r < 5 → 3 ≤ (r : Int) → (r : Int) ≤ 4 →
          (RowPlane.row ⟨4136, 8, 3, 2⟩ r).Within op.extent := by
  have hrows : nv12DrawBuf.HasRows := ⟨by decide, by decide, by decide, by simp [nv12DrawBuf]⟩
  have hops : drawBufFlushCache nv12System nv12DrawBuf ⟨0, 3, 7, 4⟩
      = drawBufFlushCache nv12System nv12DrawBuf ⟨0, 3, 7, 4⟩
        ∨ drawBufFlushCache nv12System nv12DrawBuf ⟨0, 3, 7, 4⟩
          = drawBufInvalidateCache nv12System nv12DrawBuf ⟨0, 3, 7, 4⟩ := .inl rfl
  apply (drawBufCacheCallback_rows hops hrows (by decide)).1 1 _ rfl
  intro j hj op hop
  have hzero : j = 0 := by omega
  subst hzero
  cases hop
  rfl

end Lvgl

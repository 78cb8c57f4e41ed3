import RtsmartLib.Lvgl.VgliteRegistry

/-!
This module contains which images the NonAI-2D converter can read directly, and that it reads registered buffers
only.
-/

namespace Lvgl

open Lib

inductive MppPixelFormat where
  | rgb565
  | bgr565
  | rgb565Le
  | bgr565Le
  | rgb888
  | bgr888
  | argb1555
  | argb4444
  | argb8888
  | bgra8888
  | yuvSemiplanar420
  | yvuSemiplanar420
  | yvuPlanar420
  | other (code : Nat)
deriving DecidableEq

inductive MppColorFormat where
  | rgb565
  | rgb888
  | argb1555
  | argb4444
  | argb8888
  | xrgb8888
  | nv12
  | nv21
  | i420
  | other (code : Nat)
deriving DecidableEq

inductive MppLayout where
  | packed
  | semiplanar420
  | planar420
deriving DecidableEq

structure MppFormatInfo where
  mppFormat : MppPixelFormat
  lvFormat : MppColorFormat
  bytesPerPixel : Nat
  hasAlpha : Bool
  layout : MppLayout
deriving DecidableEq

def mppFormats : List MppFormatInfo :=
  [⟨.rgb565, .rgb565, 2, false, .packed⟩,
    ⟨.bgr565, .rgb565, 2, false, .packed⟩,
    ⟨.rgb565Le, .rgb565, 2, false, .packed⟩,
    ⟨.bgr565Le, .rgb565, 2, false, .packed⟩,
    ⟨.rgb888, .rgb888, 3, false, .packed⟩,
    ⟨.bgr888, .rgb888, 3, false, .packed⟩,
    ⟨.argb1555, .argb1555, 2, true, .packed⟩,
    ⟨.argb4444, .argb4444, 2, true, .packed⟩,
    ⟨.argb8888, .argb8888, 4, true, .packed⟩,
    ⟨.bgra8888, .argb8888, 4, true, .packed⟩,
    ⟨.yuvSemiplanar420, .nv12, 0, false, .semiplanar420⟩,
    ⟨.yvuSemiplanar420, .nv21, 0, false, .semiplanar420⟩,
    ⟨.yvuPlanar420, .i420, 0, false, .planar420⟩]

def mppFormatInfo (format : MppPixelFormat) : Option MppFormatInfo :=
  mppFormats.find? fun info => info.mppFormat = format

/--
The registry with the format that a buffer has been registered with, if it has one.
-/
structure MppRegistry where
  nodes : List LvK230VgliteBufferNode
  mppFormat : LvK230VgliteBufferNode → Option MppPixelFormat

def lvK230VgliteGetMppBuffer (registry : MppRegistry) (ptr size : Nat) : Option (Nat × MppPixelFormat) :=
  if ptr = 0 then
    none
  else
    match findNodeLocked registry.nodes ptr size with
    | none => none
    | some (node, offset) => (registry.mppFormat node).map fun format => (node.phys + offset, format)

def registeredPlane (registry : MppRegistry) (data size : Nat) (expected : MppPixelFormat) : Option Nat :=
  if data = 0 ∨ size = 0 then
    none
  else
    match lvK230VgliteGetMppBuffer registry data size with
    | none => none
    | some (phys, format) => if format = expected then some phys else none

structure MppPlane where
  buf : Nat
  stride : BitVec 32
deriving DecidableEq

/-
The interleaved chroma plane of a semi-planar image is where a planar one has its `u` plane.
-/
structure MppYuvBuf where
  y : MppPlane
  u : MppPlane
  v : MppPlane
deriving DecidableEq

def sizeofLvYuvBuf : Nat := 48

/--
What is looked at of a draw buffer. `yuv` is what its data are if it has planes.
-/
structure MppImage where
  colorFormat : MppColorFormat
  width : BitVec 32
  height : BitVec 32
  headerStride : BitVec 32
  data : Nat
  dataSize : BitVec 32
  yuv : MppYuvBuf
deriving DecidableEq

/-
A plane that is not there is at zero.
-/
structure MppSourcePlane where
  phys : Nat
  stride : BitVec 32
deriving DecidableEq

structure MppSource where
  info : MppFormatInfo
  format : MppPixelFormat
  poolId : Option Nat
  planes : Vector MppSourcePlane 3
deriving DecidableEq

def MppColorFormat.HasPlanes (colorFormat : MppColorFormat) : Prop :=
  colorFormat = .nv12 ∨ colorFormat = .nv21 ∨ colorFormat = .i420

instance (colorFormat : MppColorFormat) : Decidable colorFormat.HasPlanes :=
  inferInstanceAs (Decidable (_ ∨ _ ∨ _))

def strideOr (stride default : BitVec 32) : BitVec 32 :=
  if stride ≠ 0 then stride else default

def packedPlanes (image : MppImage) (info : MppFormatInfo) (phys : Nat) : Option (Vector MppSourcePlane 3) :=
  let tight := image.width * BitVec.ofNat 32 info.bytesPerPixel
  let stride := strideOr image.headerStride tight
  let required := stride.toNat * image.height.toNat
  if stride ≠ tight ∨ required = 0 ∨ required > image.dataSize.toNat then
    none
  else
    some #v[⟨phys, stride⟩, ⟨0, 0⟩, ⟨0, 0⟩]

def semiplanarPlanes (registry : MppRegistry) (image : MppImage) (format : MppPixelFormat) (phys : Nat)
    : Option (Vector MppSourcePlane 3) :=
  let uvStride := image.yuv.u.stride
  let uvBytes := uvStride.toNat * (image.height.toNat / 2)
  if uvStride ≠ image.width ∨ uvBytes > uint32Max then
    none
  else
    match registeredPlane registry image.yuv.u.buf uvBytes format with
    | none => none
    | some uvPhys => some #v[⟨phys, image.width⟩, ⟨uvPhys, uvStride⟩, ⟨0, 0⟩]

def planarPlanes (registry : MppRegistry) (image : MppImage) (format : MppPixelFormat) (phys : Nat)
    : Option (Vector MppSourcePlane 3) :=
  let uStride := image.yuv.u.stride
  let vStride := image.yuv.v.stride
  let planeBytes := (image.width.toNat / 2) * (image.height.toNat / 2)
  if uStride ≠ image.width / 2 ∨ vStride ≠ image.width / 2 ∨ planeBytes > uint32Max then
    none
  else
    match registeredPlane registry image.yuv.u.buf planeBytes format with
    | none => none
    | some uPhys =>
      match registeredPlane registry image.yuv.v.buf planeBytes format with
      | none => none
      | some vPhys => some #v[⟨phys, image.width⟩, ⟨uPhys, uStride⟩, ⟨vPhys, vStride⟩]

def sourcePlanes (registry : MppRegistry) (image : MppImage) (info : MppFormatInfo) (format : MppPixelFormat)
    (phys : Nat) : Option (Vector MppSourcePlane 3) :=
  match info.layout with
  | .packed => packedPlanes image info phys
  | .semiplanar420 =>
    if strideOr image.yuv.y.stride image.headerStride ≠ image.width then none
    else semiplanarPlanes registry image format phys
  | .planar420 =>
    if strideOr image.yuv.y.stride image.headerStride ≠ image.width then none
    else planarPlanes registry image format phys

/-
`poolOf` is the pool of the block at a physical address, if it is the address of one.
-/
def resolveMppSource (registry : MppRegistry) (poolOf : Nat → Option Nat) (image : MppImage) : Option MppSource :=
  if image.data = 0 ∨ image.width = 0 ∨ image.height = 0 then
    none
  else if image.colorFormat.HasPlanes ∧
      (image.dataSize.toNat < sizeofLvYuvBuf ∨ image.width % 2 = 1 ∨ image.height % 2 = 1) then
    none
  else
    let formatData := if image.colorFormat.HasPlanes then image.yuv.y.buf else image.data
    let formatSize := if image.colorFormat.HasPlanes then image.width * image.height else image.dataSize
    match lvK230VgliteGetMppBuffer registry formatData formatSize.toNat with
    | none => none
    | some (phys, format) =>
      match mppFormatInfo format with
      | none => none
      | some info =>
        if info.lvFormat ≠ image.colorFormat then
          none
        else
          (sourcePlanes registry image info format phys).map fun planes =>
            ⟨info, format, poolOf phys, planes⟩

/--
The places the converter reads, plane by plane, and how many bytes it reads there.
-/
def MppSource.reads (source : MppSource) (height : Nat) : List (Nat × Nat) :=
  let bytes := fun (plane : MppSourcePlane) rows => (plane.phys, plane.stride.toNat * rows)
  match source.info.layout with
  | .packed => [bytes source.planes[0] height]
  | .semiplanar420 => [bytes source.planes[0] height, bytes source.planes[1] (height / 2)]
  | .planar420 =>
    [bytes source.planes[0] height, bytes source.planes[1] (height / 2), bytes source.planes[2] (height / 2)]

/-
All bytes of a read lie in one buffer that has been registered with the format.
-/
def MppRegistry.Backs (registry : MppRegistry) (format : MppPixelFormat) (read : Nat × Nat) : Prop :=
  ∃ node ∈ registry.nodes, registry.mppFormat node = some format
    ∧ (Extent.mk node.phys node.size).Covers read.1 read.2

section

variable {registry : MppRegistry} {image : MppImage} {format : MppPixelFormat} {info : MppFormatInfo}
variable {phys : Nat} {planes : Vector MppSourcePlane 3}

theorem Backs.of_le {n n' : Nat} (h : registry.Backs format (phys, n)) (hle : n' ≤ n)
    : registry.Backs format (phys, n') := by
  obtain ⟨node, hnode, hformat, hcovers⟩ := h
  refine ⟨node, hnode, hformat, ?_⟩
  simp only [Extent.Covers] at hcovers ⊢
  omega

theorem getMppBuffer_backs {ptr size : Nat}
    (h : lvK230VgliteGetMppBuffer registry ptr size = some (phys, format))
    : registry.Backs format (phys, size) := by
  unfold lvK230VgliteGetMppBuffer at h
  split at h
  . contradiction
  . cases hfind : findNodeLocked registry.nodes ptr size with
    | none =>
      rw [hfind] at h
      contradiction
    | some found =>
      obtain ⟨node, offset⟩ := found
      rw [hfind] at h
      simp only [Option.map_eq_some_iff, Prod.mk.injEq] at h
      obtain ⟨format', hformat, hphys, heq⟩ := h
      obtain ⟨hmem, hcovers, hoffset⟩ := findNodeLocked_mem hfind
      refine ⟨node, hmem, by rw [hformat, heq], ?_⟩
      simp only [LvK230VgliteBufferNode.extent, LiveBuffer.extent, LvK230VgliteBufferNode.buffer,
        Extent.Covers] at hcovers ⊢
      omega

theorem registeredPlane_backs {data size : Nat} (h : registeredPlane registry data size format = some phys)
    : registry.Backs format (phys, size) := by
  unfold registeredPlane at h
  split at h
  . contradiction
  . split at h
    . contradiction
    . next phys' format' hget =>
      split at h
      . next heq =>
        rw [Option.some.injEq] at h
        rw [← h, ← heq]
        exact getMppBuffer_backs hget
      . contradiction

theorem layout_packed_iff (h : mppFormatInfo format = some info)
    : info.layout = .packed ↔ ¬info.lvFormat.HasPlanes := by
  have htable : ∀ info ∈ mppFormats, info.layout = .packed ↔ ¬info.lvFormat.HasPlanes := by decide
  exact htable info (List.mem_of_find?_eq_some h)

/-
A packed image is read as far as its data go, which are in one buffer.
-/
theorem packedPlanes_backs (h : packedPlanes image info phys = some planes)
    (hdata : registry.Backs format (phys, image.dataSize.toNat))
    : registry.Backs format (planes[0].phys, planes[0].stride.toNat * image.height.toNat) := by
  unfold packedPlanes at h
  dsimp only at h
  split at h
  . contradiction
  . next hchecks =>
    rw [Option.some.injEq] at h
    rw [← h]
    apply Backs.of_le hdata
    -- `required` is at most the size of the data.
    simp only [not_or] at hchecks
    show (strideOr image.headerStride _).toNat * image.height.toNat ≤ image.dataSize.toNat
    omega

theorem semiplanarPlanes_backs (h : semiplanarPlanes registry image format phys = some planes)
    (hy : registry.Backs format (phys, image.width.toNat * image.height.toNat))
    : registry.Backs format (planes[0].phys, planes[0].stride.toNat * image.height.toNat)
      ∧ registry.Backs format (planes[1].phys, planes[1].stride.toNat * (image.height.toNat / 2)) := by
  unfold semiplanarPlanes at h
  dsimp only at h
  split at h
  . contradiction
  . split at h
    . contradiction
    . next uvPhys huv =>
      rw [Option.some.injEq] at h
      rw [← h]
      exact ⟨hy, registeredPlane_backs huv⟩

theorem planarPlanes_backs (h : planarPlanes registry image format phys = some planes)
    (hy : registry.Backs format (phys, image.width.toNat * image.height.toNat))
    : registry.Backs format (planes[0].phys, planes[0].stride.toNat * image.height.toNat)
      ∧ registry.Backs format (planes[1].phys, planes[1].stride.toNat * (image.height.toNat / 2))
      ∧ registry.Backs format (planes[2].phys, planes[2].stride.toNat * (image.height.toNat / 2)) := by
  unfold planarPlanes at h
  dsimp only at h
  split at h
  . contradiction
  . next hchecks =>
    simp only [not_or, not_not] at hchecks
    have hhalf : (image.width / 2).toNat = image.width.toNat / 2 := by simp
    split at h
    . contradiction
    . next uPhys hu =>
      split at h
      . contradiction
      . next vPhys hv =>
        rw [Option.some.injEq] at h
        rw [← h]
        refine ⟨hy, ?_, ?_⟩
        . show registry.Backs format (uPhys, image.yuv.u.stride.toNat * _)
          rw [hchecks.1, hhalf]
          exact registeredPlane_backs hu
        . show registry.Backs format (vPhys, image.yuv.v.stride.toNat * _)
          rw [hchecks.2.1, hhalf]
          exact registeredPlane_backs hv

/-
The luma of an image with planes is what has been looked up.
-/
theorem sourcePlanes_backs {poolId : Option Nat} (h : sourcePlanes registry image info format phys = some planes)
    (hlayout : info.layout = .packed ↔ ¬image.colorFormat.HasPlanes)
    (hbacks : registry.Backs format (phys,
      (if image.colorFormat.HasPlanes then image.width * image.height else image.dataSize).toNat))
    (hwidth : image.width.toNat < 2 ^ 16) (hheight : image.height.toNat < 2 ^ 16)
    : ∀ read ∈ (MppSource.mk info format poolId planes).reads image.height.toNat,
      registry.Backs format read := by
  have hluma : image.colorFormat.HasPlanes
      → registry.Backs format (phys, image.width.toNat * image.height.toNat) := by
    intro hplanes
    -- The product of width and height is computed in 32 bits.
    have hsmall : image.width.toNat * image.height.toNat < 2 ^ 32 := by
      have hmul := Nat.mul_lt_mul'' hwidth hheight
      omega
    rw [if_pos hplanes, BitVec.toNat_mul, Nat.mod_eq_of_lt hsmall] at hbacks
    exact hbacks
  have hplanes : info.layout ≠ .packed → image.colorFormat.HasPlanes := by
    intro hne
    by_contra hnot
    exact hne (hlayout.mpr hnot)
  intro read hread
  unfold sourcePlanes at h
  cases hcase : info.layout with
  | packed =>
    rw [hcase] at h
    simp only [MppSource.reads, hcase, List.mem_singleton] at hread
    rw [hread]
    rw [if_neg (hlayout.mp hcase)] at hbacks
    exact packedPlanes_backs h hbacks
  | semiplanar420 =>
    rw [hcase] at h
    have hhas := hplanes (by simp [hcase])
    dsimp only at h
    split at h
    . contradiction
    . obtain ⟨hy, huv⟩ := semiplanarPlanes_backs h (hluma hhas)
      simp only [MppSource.reads, hcase, List.mem_cons, List.not_mem_nil, or_false] at hread
      cases hread with
      | inl hread =>
        rw [hread]
        exact hy
      | inr hread =>
        rw [hread]
        exact huv
  | planar420 =>
    rw [hcase] at h
    have hhas := hplanes (by simp [hcase])
    dsimp only at h
    split at h
    . contradiction
    . obtain ⟨hy, hu, hv⟩ := planarPlanes_backs h (hluma hhas)
      simp only [MppSource.reads, hcase, List.mem_cons, List.not_mem_nil, or_false] at hread
      rcases hread with hread | hread | hread
      . rw [hread]
        exact hy
      . rw [hread]
        exact hu
      . rw [hread]
        exact hv

end

/--
Whatever the converter reads of an image that it is given lies in buffers that have been registered with the format it
is given, if the size of the image is one that an image header can hold.
-/
theorem resolveMppSource_backs {registry : MppRegistry} {poolOf : Nat → Option Nat} {image : MppImage}
    {source : MppSource} (hresolve : resolveMppSource registry poolOf image = some source)
    (hwidth : image.width.toNat < 2 ^ 16) (hheight : image.height.toNat < 2 ^ 16)
    : ∀ read ∈ source.reads image.height.toNat, registry.Backs source.format read := by
  unfold resolveMppSource at hresolve
  split at hresolve
  . contradiction
  . split at hresolve
    . contradiction
    . dsimp only at hresolve
      split at hresolve
      . contradiction
      . next phys format hget =>
        split at hresolve
        . contradiction
        . next info hinfo =>
          split at hresolve
          . contradiction
          . next hsame =>
            rw [not_not] at hsame
            have hlayout := layout_packed_iff hinfo
            rw [hsame] at hlayout
            have hbacks := getMppBuffer_backs hget
            rw [Option.map_eq_some_iff] at hresolve
            obtain ⟨planes, hplanes, heq⟩ := hresolve
            rw [← heq]
            exact sourcePlanes_backs hplanes hlayout hbacks hwidth hheight

/-
An NV12 image of two by two pixels whose planes are in one buffer.
-/
def smallNv12 : MppImage where
  colorFormat := .nv12
  width := 2
  height := 2
  headerStride := 2
  data := 0x9000
  dataSize := 48
  yuv := ⟨⟨0x1000, 2⟩, ⟨0x1004, 2⟩, ⟨0, 0⟩⟩

def smallRegistry : MppRegistry where
  nodes := [⟨0x100, 0x1000, 0x80000000, 6, none, 0, true, false, false⟩]
  mppFormat _ := some .yuvSemiplanar420

theorem resolveMppSource_backs_nv12
    : ∃ source, resolveMppSource smallRegistry some smallNv12 = some source
      ∧ smallRegistry.Backs source.format (0x80000004, 2) := by
  refine ⟨_, rfl, ?_⟩
  exact @resolveMppSource_backs smallRegistry some smallNv12 _ rfl (by decide) (by decide) _ (by decide)

end Lvgl

import RtsmartLib.Lib.Machine
import RtsmartLib.Lvgl.MppSource

/-!
This module contains the buffers that images are decoded into: three of them, kept for the next image of the same size,
and handed out to one image at a time.
-/

namespace Lvgl

open Lib

def decodeBufferCount : Nat := 3

/-
What a decode buffer has to be like to fit an image.
-/
structure DecodeShape where
  width : BitVec 32
  height : BitVec 32
  colorFormat : MppColorFormat
deriving DecidableEq

structure DecodedBuf where
  id : Nat
  shape : DecodeShape
deriving DecidableEq

structure DecodeBuffer where
  drawBuf : Option DecodedBuf
  inUse : Bool
deriving DecidableEq

def DecodeBuffer.empty : DecodeBuffer := ⟨none, false⟩

/-
The buffer in a slot if it has the shape, where it is destroyed otherwise.
-/
def DecodeBuffer.fitting (buffer : DecodeBuffer) (shape : DecodeShape) : Option DecodedBuf :=
  buffer.drawBuf.filter fun drawBuf => drawBuf.shape = shape

/--
The loop over the slots from `i` on, where `creates` says in which of them a buffer can be created. It returns the
slots and, if there is one, the slot that has been taken with its buffer. A new buffer is called `next`.
-/
def decodeBufferAcquire (shape : DecodeShape) (creates : Nat → Bool) (next i : Nat) (buffers : List DecodeBuffer)
    : List DecodeBuffer × Option (Nat × DecodedBuf) :=
  match buffers with
  | [] => ([], none)
  | buffer :: buffers =>
    if buffer.inUse then
      let rest := decodeBufferAcquire shape creates next (i + 1) buffers
      (buffer :: rest.1, rest.2)
    else
      match buffer.fitting shape with
      | some drawBuf => (⟨some drawBuf, true⟩ :: buffers, some (i, drawBuf))
      | none =>
        if creates i then
          (⟨some ⟨next, shape⟩, true⟩ :: buffers, some (i, ⟨next, shape⟩))
        else
          -- A buffer that does not fit has been destroyed by now.
          let rest := decodeBufferAcquire shape creates next (i + 1) buffers
          (DecodeBuffer.empty :: rest.1, rest.2)

def decodeBufferRelease (buffers : List DecodeBuffer) (slot : Nat) : List DecodeBuffer :=
  buffers.modify slot fun buffer => { buffer with inUse := false }

/-
What LVGL keeps of an image that is open.
-/
structure DecoderDsc where
  slot : Nat
  decoded : DecodedBuf
deriving DecidableEq

structure DecodeState where
  buffers : List DecodeBuffer
  next : Nat
  opened : List DecoderDsc
deriving DecidableEq

def DecodeState.init : DecodeState :=
  ⟨List.replicate decodeBufferCount DecodeBuffer.empty, 0, []⟩

/--
An image with the rest of its header and what the calls for it return. `drawBufInit` is for the buffer around packed
data.
-/
structure DecodeRequest where
  image : MppImage
  magic : Bool
  compressed : Bool
  registry : MppRegistry
  poolOf : Nat → Option Nat
  drawBufInit : Bool
  creates : Nat → Bool
  cscConverts : Bool

def mppImageFormat (request : DecodeRequest) : Option MppSource :=
  if request.magic = false ∨ request.image.data = 0 ∨ request.image.dataSize = 0 ∨ request.compressed then
    none
  else
    match resolveMppSource request.registry request.poolOf request.image with
    | none => none
    | some source =>
      if source.poolId = none ∧ source.format ≠ .rgb888 ∧ source.format ≠ .bgr888 then
        none
      else
        some source

def decodedColorFormat (info : MppFormatInfo) : MppColorFormat :=
  if info.hasAlpha then .argb8888 else .xrgb8888

/-
The formats that are converted without the converter.
-/
def softwareConverts (format : MppPixelFormat) : Bool :=
  format = .rgb888 || format = .bgr888 || format = .rgb565 || format = .bgr565

def packedReady (source : MppSource) (request : DecodeRequest) : Bool :=
  let stride := strideOr request.image.headerStride
    (request.image.width * BitVec.ofNat 32 source.info.bytesPerPixel)
  let required := stride.toNat * request.image.height.toNat
  required ≠ 0 && required ≤ request.image.dataSize.toNat && request.drawBufInit

/-
Whether the image has been opened is in the last part.
-/
def mppDecoderOpen (s : DecodeState) (request : DecodeRequest) : DecodeState × Bool :=
  match mppImageFormat request with
  | none => (s, false)
  | some source =>
    if source.info.layout = .packed ∧ packedReady source request = false then
      (s, false)
    else
      let shape := ⟨request.image.width, request.image.height, decodedColorFormat source.info⟩
      let acquired := decodeBufferAcquire shape request.creates s.next 0 s.buffers
      match acquired.2 with
      | none => ({ s with buffers := acquired.1 }, false)
      | some (slot, decoded) =>
        if request.cscConverts || softwareConverts source.format then
          (⟨acquired.1, s.next + 1, s.opened ++ [⟨slot, decoded⟩]⟩, true)
        else
          -- The slot is given back with its buffer, for the next image of this shape.
          (⟨decodeBufferRelease acquired.1 slot, s.next + 1, s.opened⟩, false)

def mppDecoderClose (s : DecodeState) (k : Nat) : DecodeState :=
  match s.opened[k]? with
  | none => s
  | some dsc => { s with buffers := decodeBufferRelease s.buffers dsc.slot, opened := s.opened.eraseIdx k }

/-
What is open stays open.
-/
def decodeBuffersDestroy (s : DecodeState) : DecodeState :=
  { s with buffers := s.buffers.map fun _ => DecodeBuffer.empty }

inductive DecodeEvent where
  | openImage (request : DecodeRequest)
  | closeImage (k : Nat)
  | deinit

def decodeMachine : Machine DecodeState DecodeEvent Bool where
  step s event :=
    match event with
    | .openImage request => mppDecoderOpen s request
    | .closeImage k => (mppDecoderClose s k, true)
    | .deinit => (decodeBuffersDestroy s, true)

section Acquire

/-
A slot that is passed over is as it was, or has been emptied because its buffer does not fit.
-/
def Passed (buffer buffer' : DecodeBuffer) : Prop :=
  buffer' = buffer ∨ buffer.inUse = false ∧ buffer' = DecodeBuffer.empty

/--
What the loop does: it passes slots, takes one that is not in use, and leaves the others.
-/
inductive Acquired (shape : DecodeShape) (next i : Nat) (buffers : List DecodeBuffer)
    : List DecodeBuffer → Option (Nat × DecodedBuf) → Prop where
  | full {buffers' : List DecodeBuffer} (hpassed : List.Forall₂ Passed buffers buffers')
      : Acquired shape next i buffers buffers' none
  | taken {before before' after : List DecodeBuffer} {buffer : DecodeBuffer} {decoded : DecodedBuf}
      (hbuffers : buffers = before ++ buffer :: after) (hpassed : List.Forall₂ Passed before before')
      (hunused : buffer.inUse = false) (hshape : decoded.shape = shape)
      (hdecoded : buffer.drawBuf = some decoded ∨ decoded.id = next)
      : Acquired shape next i buffers (before' ++ ⟨some decoded, true⟩ :: after) (some (i + before.length, decoded))

theorem Acquired.cons {shape : DecodeShape} {next i : Nat} {buffer buffer' : DecodeBuffer}
    {buffers buffers' : List DecodeBuffer} {taken : Option (Nat × DecodedBuf)} (hpassed : Passed buffer buffer')
    (h : Acquired shape next (i + 1) buffers buffers' taken)
    : Acquired shape next i (buffer :: buffers) (buffer' :: buffers') taken := by
  cases h with
  | full hrest => exact .full (.cons hpassed hrest)
  | @taken before before' after found decoded hbuffers hrest hunused hshape hdecoded =>
    have hslot : i + 1 + before.length = i + (buffer :: before).length := by
      rw [List.length_cons]
      omega
    rw [hslot, ← List.cons_append]
    exact .taken (by rw [hbuffers]; rfl) (.cons hpassed hrest) hunused hshape hdecoded

theorem decodeBufferAcquire_acquired (shape : DecodeShape) (creates : Nat → Bool) (next i : Nat)
    (buffers : List DecodeBuffer)
    : let res := decodeBufferAcquire shape creates next i buffers
      Acquired shape next i buffers res.1 res.2 := by
  induction buffers generalizing i with
  | nil => exact .full .nil
  | cons buffer buffers ih =>
    intro res
    simp only [res, decodeBufferAcquire]
    split
    . exact (ih (i + 1)).cons (.inl rfl)
    . next hunused =>
      rw [Bool.not_eq_true] at hunused
      cases hfitting : buffer.fitting shape with
      | some drawBuf =>
        obtain ⟨hdrawBuf, hshape⟩ := Option.filter_eq_some_iff.mp hfitting
        exact @Acquired.taken shape next i _ [] [] buffers buffer drawBuf rfl .nil hunused (by simpa using hshape)
          (.inl hdrawBuf)
      | none =>
        dsimp only
        split
        . exact @Acquired.taken shape next i _ [] [] buffers buffer ⟨next, shape⟩ rfl .nil hunused rfl (.inr rfl)
        . exact (ih (i + 1)).cons (.inr ⟨hunused, rfl⟩)

end Acquire

section SlotsInUse

def slotsInUse (i : Nat) (buffers : List DecodeBuffer) : List (DecodeBuffer × Nat) :=
  (buffers.zipIdx i).filter fun entry => entry.1.inUse

def drawBufIds (buffers : List DecodeBuffer) : List Nat :=
  buffers.filterMap fun buffer => buffer.drawBuf.map (·.id)

theorem slotsInUse_append (i : Nat) (buffers buffers' : List DecodeBuffer)
    : slotsInUse i (buffers ++ buffers') = slotsInUse i buffers ++ slotsInUse (i + buffers.length) buffers' := by
  rw [slotsInUse, List.zipIdx_append, List.filter_append]
  rfl

theorem slotsInUse_cons_of_used {buffer : DecodeBuffer} (h : buffer.inUse = true) (i : Nat)
    (buffers : List DecodeBuffer)
    : slotsInUse i (buffer :: buffers) = (buffer, i) :: slotsInUse (i + 1) buffers := by
  rw [slotsInUse, List.zipIdx_cons]
  exact List.filter_cons_of_pos h

theorem slotsInUse_cons_of_unused {buffer : DecodeBuffer} (h : buffer.inUse = false) (i : Nat)
    (buffers : List DecodeBuffer)
    : slotsInUse i (buffer :: buffers) = slotsInUse (i + 1) buffers := by
  rw [slotsInUse, List.zipIdx_cons]
  apply List.filter_cons_of_neg
  rw [h]
  decide

theorem slotsInUse_passed {buffers buffers' : List DecodeBuffer} (h : List.Forall₂ Passed buffers buffers') (i : Nat)
    : slotsInUse i buffers' = slotsInUse i buffers := by
  induction h generalizing i with
  | nil => rfl
  | @cons buffer buffer' buffers buffers' hpassed hrest ih =>
    cases huse : buffer.inUse with
    | true =>
      have hsame : buffer' = buffer := by
        cases hpassed with
        | inl heq => exact heq
        | inr hempty =>
          rw [huse] at hempty
          exact absurd hempty.1 (by decide)
      rw [hsame, slotsInUse_cons_of_used huse, slotsInUse_cons_of_used huse]
      rw [ih]
    | false =>
      have hunused : buffer'.inUse = false := by
        cases hpassed with
        | inl heq => rw [heq, huse]
        | inr hempty => rw [hempty.2, DecodeBuffer.empty]
      rw [slotsInUse_cons_of_unused huse, slotsInUse_cons_of_unused hunused]
      rw [ih]

theorem drawBufIds_append (buffers buffers' : List DecodeBuffer)
    : drawBufIds (buffers ++ buffers') = drawBufIds buffers ++ drawBufIds buffers' :=
  List.filterMap_append

theorem drawBufIds_cons (buffer : DecodeBuffer) (buffers : List DecodeBuffer)
    : drawBufIds (buffer :: buffers) = (buffer.drawBuf.map (·.id)).toList ++ drawBufIds buffers := by
  rw [drawBufIds, List.filterMap_cons]
  cases buffer.drawBuf with
  | none => rfl
  | some drawBuf => rfl

theorem drawBufIds_passed {buffers buffers' : List DecodeBuffer} (h : List.Forall₂ Passed buffers buffers')
    : (drawBufIds buffers').Sublist (drawBufIds buffers) := by
  induction h with
  | nil => exact List.Sublist.refl _
  | cons hpassed hrest ih =>
    rw [drawBufIds_cons, drawBufIds_cons]
    apply List.Sublist.append _ ih
    cases hpassed with
    | inl heq => rw [heq]
    | inr hempty =>
      rw [hempty.2]
      exact List.nil_sublist _

theorem decodeBufferRelease_append (before after : List DecodeBuffer) (buffer : DecodeBuffer)
    : decodeBufferRelease (before ++ buffer :: after) before.length
      = before ++ { buffer with inUse := false } :: after := by
  induction before with
  | nil => rfl
  | cons first before ih =>
    rw [List.cons_append, List.length_cons, decodeBufferRelease, List.modify_succ_cons]
    exact congrArg _ ih

theorem drawBufIds_release (buffers : List DecodeBuffer) (slot : Nat)
    : drawBufIds (decodeBufferRelease buffers slot) = drawBufIds buffers := by
  induction buffers generalizing slot with
  | nil =>
    rw [decodeBufferRelease, List.modify_nil]
  | cons buffer buffers ih =>
    cases slot with
    | zero => rfl
    | succ slot =>
      rw [decodeBufferRelease, List.modify_succ_cons]
      rw [drawBufIds_cons, drawBufIds_cons]
      exact congrArg _ (ih slot)

theorem slotsInUse_empty (i : Nat) (buffers : List DecodeBuffer)
    : slotsInUse i (buffers.map fun _ => DecodeBuffer.empty) = [] := by
  induction buffers generalizing i with
  | nil => rfl
  | cons buffer buffers ih =>
    rw [List.map_cons, slotsInUse_cons_of_unused rfl]
    exact ih (i + 1)

theorem drawBufIds_empty (buffers : List DecodeBuffer)
    : drawBufIds (buffers.map fun _ => DecodeBuffer.empty) = [] := by
  induction buffers with
  | nil => rfl
  | cons buffer buffers ih =>
    rw [List.map_cons, drawBufIds_cons, ih]
    rfl

/-
A slot that is in use can be taken out.
-/
theorem exists_of_mem_slotsInUse {buffer : DecodeBuffer} {slot : Nat} {buffers : List DecodeBuffer}
    (h : (buffer, slot) ∈ slotsInUse 0 buffers)
    : ∃ before after, buffers = before ++ buffer :: after ∧ before.length = slot := by
  have hmem := (List.mem_filter.mp h).1
  obtain ⟨hlt, hget⟩ := List.getElem?_eq_some_iff.mp (List.mem_zipIdx_iff_getElem?.mp hmem)
  dsimp only at hlt hget
  refine ⟨buffers.take slot, buffers.drop (slot + 1), ?_, List.length_take_of_le (Nat.le_of_lt hlt)⟩
  rw [← hget, List.getElem_cons_drop, List.take_append_drop]

end SlotsInUse

section AcquiredSlots

theorem Acquired.passed {shape : DecodeShape} {next i : Nat} {buffers buffers' : List DecodeBuffer}
    (h : Acquired shape next i buffers buffers' none)
    : List.Forall₂ Passed buffers buffers' := by
  cases h with
  | full hpassed => exact hpassed

variable {shape : DecodeShape} {next slot : Nat} {decoded : DecodedBuf} {buffers buffers' : List DecodeBuffer}

theorem Acquired.shape_eq (h : Acquired shape next 0 buffers buffers' (some (slot, decoded)))
    : decoded.shape = shape := by
  cases h with
  | taken hbuffers hpassed hunused hshape hdecoded => exact hshape

theorem Acquired.slotsInUse_perm (h : Acquired shape next 0 buffers buffers' (some (slot, decoded)))
    : (slotsInUse 0 buffers').Perm ((⟨some decoded, true⟩, slot) :: slotsInUse 0 buffers) := by
  cases h with
  | @taken before before' after buffer _ hbuffers hpassed hunused hshape hdecoded =>
    rw [hbuffers, slotsInUse_append, slotsInUse_append]
    rw [slotsInUse_cons_of_used rfl, slotsInUse_cons_of_unused hunused]
    rw [slotsInUse_passed hpassed, ← hpassed.length_eq]
    exact List.perm_middle

/-
An image that cannot be converted gives its slot back.
-/
theorem Acquired.slotsInUse_release (h : Acquired shape next 0 buffers buffers' (some (slot, decoded)))
    : slotsInUse 0 (decodeBufferRelease buffers' slot) = slotsInUse 0 buffers := by
  cases h with
  | @taken before before' after buffer _ hbuffers hpassed hunused hshape hdecoded =>
    rw [Nat.zero_add, hpassed.length_eq, decodeBufferRelease_append, hbuffers]
    rw [slotsInUse_append, slotsInUse_append]
    rw [slotsInUse_cons_of_unused rfl, slotsInUse_cons_of_unused hunused]
    rw [slotsInUse_passed hpassed, ← hpassed.length_eq]

/-
The buffers there are afterwards are some of those there were, and maybe the new one.
-/
theorem Acquired.drawBufIds_sublist (h : Acquired shape next 0 buffers buffers' (some (slot, decoded)))
    : (drawBufIds buffers').Sublist (drawBufIds buffers)
      ∨ ∃ before after, drawBufIds buffers' = before ++ next :: after
        ∧ (before ++ after).Sublist (drawBufIds buffers) := by
  cases h with
  | @taken before before' after buffer _ hbuffers hpassed hunused hshape hdecoded =>
    rw [hbuffers, drawBufIds_append, drawBufIds_append, drawBufIds_cons, drawBufIds_cons]
    have hbefore := drawBufIds_passed hpassed
    cases hdecoded with
    | inl hkept =>
      rw [hkept]
      exact .inl (hbefore.append (List.Sublist.refl _))
    | inr hnew =>
      refine .inr ⟨_, _, by rw [← hnew]; rfl, ?_⟩
      exact hbefore.append (List.sublist_append_right _ _)

end AcquiredSlots

section Owned

def DecoderDsc.entry (dsc : DecoderDsc) : DecodeBuffer × Nat :=
  (⟨some dsc.decoded, true⟩, dsc.slot)

/--
The images that are open have, in some order, the slots that are in use, each with the buffer it has been decoded into,
and no two of them have the same buffer.
-/
structure DecodeState.Owned (s : DecodeState) : Prop where
  slots : (s.opened.map DecoderDsc.entry).Perm (slotsInUse 0 s.buffers)
  distinct : (s.opened.map fun dsc => dsc.decoded.id).Nodup

structure DecodeState.Inv (s : DecodeState) : Prop where
  slots : (s.opened.map DecoderDsc.entry).Perm (slotsInUse 0 s.buffers)
  ids : (drawBufIds s.buffers).Nodup
  fresh : ∀ id ∈ drawBufIds s.buffers, id < s.next

theorem DecodeState.Inv.owned {s : DecodeState} (h : s.Inv) : s.Owned := by
  have hopened : s.opened.map (fun dsc => dsc.decoded.id)
      = (s.opened.map DecoderDsc.entry).filterMap fun entry => entry.1.drawBuf.map (·.id) := by
    rw [List.filterMap_map, ← List.filterMap_eq_map]
    rfl
  have hbuffers : drawBufIds s.buffers
      = s.buffers.zipIdx.filterMap fun entry => entry.1.drawBuf.map (·.id) := by
    have hfst := List.zipIdx_map_fst 0 s.buffers
    conv => lhs; rw [drawBufIds, ← hfst, List.filterMap_map]
    rfl
  refine ⟨h.slots, ?_⟩
  rw [hopened, (h.slots.filterMap _).nodup_iff]
  apply List.Sublist.nodup _ h.ids
  rw [hbuffers]
  exact List.filter_sublist.filterMap _

theorem DecodeState.inv_init : DecodeState.init.Inv := by
  constructor
  . exact List.Perm.nil
  . exact List.nodup_nil
  . exact List.forall_mem_nil _

end Owned

section Steps

/--
What opening an image can do.
-/
inductive Opens (s : DecodeState) (request : DecodeRequest) : DecodeState × Bool → Prop where
  | refused : Opens s request (s, false)
  | full {shape : DecodeShape} {buffers : List DecodeBuffer}
      (hacquired : Acquired shape s.next 0 s.buffers buffers none)
      : Opens s request ({ s with buffers := buffers }, false)
  | opened {source : MppSource} {buffers : List DecodeBuffer} {slot : Nat} {decoded : DecodedBuf}
      (hsource : mppImageFormat request = some source)
      (hacquired : Acquired ⟨request.image.width, request.image.height, decodedColorFormat source.info⟩ s.next 0
        s.buffers buffers (some (slot, decoded)))
      : Opens s request (⟨buffers, s.next + 1, s.opened ++ [⟨slot, decoded⟩]⟩, true)
  | failed {shape : DecodeShape} {buffers : List DecodeBuffer} {slot : Nat} {decoded : DecodedBuf}
      (hacquired : Acquired shape s.next 0 s.buffers buffers (some (slot, decoded)))
      : Opens s request (⟨decodeBufferRelease buffers slot, s.next + 1, s.opened⟩, false)

theorem mppDecoderOpen_opens (s : DecodeState) (request : DecodeRequest)
    : Opens s request (mppDecoderOpen s request) := by
  rw [mppDecoderOpen]
  cases hsource : mppImageFormat request with
  | none => exact .refused
  | some source =>
    dsimp only
    split
    . exact .refused
    . let shape : DecodeShape := ⟨request.image.width, request.image.height, decodedColorFormat source.info⟩
      have hacquired := decodeBufferAcquire_acquired shape request.creates s.next 0 s.buffers
      dsimp only [shape] at hacquired
      split
      . next hnone =>
        rw [hnone] at hacquired
        exact .full hacquired
      . next slot decoded hsome =>
        rw [hsome] at hacquired
        split
        . exact .opened hsource hacquired
        . exact .failed hacquired

theorem Acquired.inv {s : DecodeState} (hs : s.Inv) {shape : DecodeShape} {buffers : List DecodeBuffer} {slot : Nat}
    {decoded : DecodedBuf} (h : Acquired shape s.next 0 s.buffers buffers (some (slot, decoded)))
    : (drawBufIds buffers).Nodup ∧ ∀ id ∈ drawBufIds buffers, id < s.next + 1 := by
  cases h.drawBufIds_sublist with
  | inl hsublist =>
    refine ⟨hsublist.nodup hs.ids, ?_⟩
    intro id hid
    have := hs.fresh id (hsublist.subset hid)
    omega
  | inr hnew =>
    obtain ⟨before, after, hids, hsublist⟩ := hnew
    have hperm : (drawBufIds buffers).Perm (s.next :: (before ++ after)) := by
      rw [hids]
      exact List.perm_middle
    constructor
    . -- The new id is greater than all that are there.
      rw [hperm.nodup_iff, List.nodup_cons]
      refine ⟨?_, hsublist.nodup hs.ids⟩
      intro hmem
      exact absurd (hs.fresh s.next (hsublist.subset hmem)) (Nat.lt_irrefl _)
    . intro id hid
      cases List.mem_cons.mp (hperm.subset hid) with
      | inl heq => omega
      | inr hmem =>
        have := hs.fresh id (hsublist.subset hmem)
        omega

theorem Opens.inv {s : DecodeState} (hs : s.Inv) {request : DecodeRequest} {res : DecodeState × Bool}
    (h : Opens s request res)
    : res.1.Inv := by
  cases h with
  | refused => exact hs
  | full hacquired =>
    have hids := drawBufIds_passed hacquired.passed
    constructor
    . rw [slotsInUse_passed hacquired.passed]
      exact hs.slots
    . exact hids.nodup hs.ids
    . intro id hid
      exact hs.fresh id (hids.subset hid)
  | opened hsource hacquired =>
    obtain ⟨hids, hfresh⟩ := hacquired.inv hs
    refine ⟨?_, hids, hfresh⟩
    dsimp only
    rw [List.map_append]
    exact (List.perm_append_comm.trans (hs.slots.cons _)).trans hacquired.slotsInUse_perm.symm
  | failed hacquired =>
    obtain ⟨hids, hfresh⟩ := hacquired.inv hs
    constructor
    . rw [hacquired.slotsInUse_release]
      exact hs.slots
    . rw [drawBufIds_release]
      exact hids
    . rw [drawBufIds_release]
      exact hfresh

theorem mppDecoderClose_inv {s : DecodeState} (hs : s.Inv) (k : Nat) : (mppDecoderClose s k).Inv := by
  rw [mppDecoderClose]
  cases hget : s.opened[k]? with
  | none => exact hs
  | some dsc =>
    obtain ⟨hlt, hdsc⟩ := List.getElem?_eq_some_iff.mp hget
    have hopened : (dsc :: s.opened.eraseIdx k).Perm s.opened := by
      rw [← hdsc]
      exact List.getElem_cons_eraseIdx_perm hlt
    -- The slot of the image is in use, so that the slots can be split there.
    have hslots := (hopened.map DecoderDsc.entry).trans hs.slots
    rw [List.map_cons] at hslots
    obtain ⟨before, after, hbuffers, hlength⟩ := exists_of_mem_slotsInUse (hslots.subset List.mem_cons_self)
    rw [hbuffers, slotsInUse_append, slotsInUse_cons_of_used rfl, Nat.zero_add, hlength] at hslots
    constructor
    . dsimp only
      rw [hbuffers, ← hlength, decodeBufferRelease_append, slotsInUse_append, slotsInUse_cons_of_unused rfl]
      rw [Nat.zero_add, hlength]
      exact (hslots.trans List.perm_middle).cons_inv
    . dsimp only
      rw [drawBufIds_release]
      exact hs.ids
    . dsimp only
      rw [drawBufIds_release]
      exact hs.fresh

theorem decodeBuffersDestroy_inv {s : DecodeState} (h : s.opened = []) : (decodeBuffersDestroy s).Inv := by
  constructor
  . rw [decodeBuffersDestroy, slotsInUse_empty, h]
    exact List.Perm.nil
  . rw [decodeBuffersDestroy, drawBufIds_empty]
    exact List.nodup_nil
  . rw [decodeBuffersDestroy, drawBufIds_empty]
    exact List.forall_mem_nil _

/-
An image that is still open would have a slot in use, and there is none.
-/
theorem opened_eq_nil_of_owned {s : DecodeState} (h : (decodeBuffersDestroy s).Owned) : s.opened = [] := by
  have hslots := h.slots
  rw [decodeBuffersDestroy, slotsInUse_empty] at hslots
  exact List.map_eq_nil_iff.mp hslots.eq_nil

end Steps

section Runs

abbrev DecodeVisit := Machine.Visit DecodeState DecodeEvent Bool

/-
An image that has been opened is the last of those that are open, and has a buffer of its size and with its alpha.
-/
def Fits (v : DecodeVisit) : Prop :=
  ∀ request, v.event = .openImage request → v.obs = true → ∃ source dsc, mppImageFormat request = some source
    ∧ v.post.opened = v.pre.opened ++ [dsc]
    ∧ dsc.decoded.shape = ⟨request.image.width, request.image.height, decodedColorFormat source.info⟩

def DestroysOpen (v : DecodeVisit) : Prop :=
  v.event = .deinit ∧ v.pre.opened ≠ []

theorem Opens.fits {s : DecodeState} {request : DecodeRequest} {res : DecodeState × Bool} (h : Opens s request res)
    (hres : res.2 = true)
    : ∃ source dsc, mppImageFormat request = some source ∧ res.1.opened = s.opened ++ [dsc]
      ∧ dsc.decoded.shape = ⟨request.image.width, request.image.height, decodedColorFormat source.info⟩ := by
  cases h with
  | refused => contradiction
  | full hacquired => contradiction
  | opened hsource hacquired => exact ⟨_, _, hsource, rfl, hacquired.shape_eq⟩
  | failed hacquired => contradiction

theorem decodeMachine_fits (s : DecodeState) (event : DecodeEvent) : Fits (decodeMachine.visit s event) := by
  intro request hevent hobs
  rw [Machine.visit_event] at hevent
  rw [hevent] at hobs ⊢
  exact (mppDecoderOpen_opens s request).fits hobs

theorem decodeMachine_inv {s : DecodeState} (hs : s.Inv) (event : DecodeEvent)
    (hevent : ¬DestroysOpen (decodeMachine.visit s event))
    : (decodeMachine.step s event).1.Inv := by
  cases event with
  | openImage request => exact (mppDecoderOpen_opens s request).inv hs
  | closeImage k => exact mppDecoderClose_inv hs k
  | deinit =>
    apply decodeBuffersDestroy_inv
    by_contra hopened
    exact hevent ⟨rfl, hopened⟩

/-
In every run, the images that are open have a buffer each throughout exactly if the buffers are never destroyed while
one is open.
-/
theorem decodeMachine_owned (events : List DecodeEvent)
    : (∀ v ∈ decodeMachine.visits .init events, v.post.Owned ∧ Fits v)
      ↔ ∀ v ∈ decodeMachine.visits .init events, ¬DestroysOpen v := by
  apply Machine.forall_visits_iff DecodeState.Inv (fun s event hs => decodeMachine_inv hs event)
  . intro s event hs
    constructor
    . -- After the buffers have been destroyed no slot is in use.
      intro ⟨howned, _⟩ ⟨hevent, hopened⟩
      rw [Machine.visit_event] at hevent
      rw [hevent] at howned
      exact hopened (opened_eq_nil_of_owned howned)
    . intro hevent
      exact ⟨(decodeMachine_inv hs event hevent).owned, decodeMachine_fits s event⟩
  . exact DecodeState.inv_init

end Runs

end Lvgl

import RtsmartLib.Lvgl.Display

/-!
This module contains the invariant of the buffer rotation: a buffer differs from the logical screen
only inside the rows it is going to be synchronised in, so every pushed frame shows the screen.
-/

namespace Lvgl

open Lib

variable {Px : Type} {h w : Nat}

def DisplayBuffer.SyncRows (b : DisplayBuffer Px h w) : Pos h w → Prop :=
  InRows b.syncRowsValid b.syncY1 b.syncY2

def DisplayInstance.DirtyRows (inst : DisplayInstance Px h w) : Pos h w → Prop :=
  InRows inst.dirtyRowsValid inst.dirtyY1 inst.dirtyY2

theorem not_inRows_false (y1 y2 : Int) (p : Pos h w) : ¬InRows false y1 y2 p := by
  simp [InRows]

namespace DisplayBuffer

@[simp]
theorem write_pixels (b : DisplayBuffer Px h w) (cached : Bool) (S : Pos h w → Prop)
    [DecidablePred S] (writtenBack : Pos h w → Bool) (new : Frame Px h w)
    : (b.write cached S writtenBack new).pixels = overlay S new b.pixels := rfl

@[simp]
theorem write_syncRows (b : DisplayBuffer Px h w) (cached : Bool) (S : Pos h w → Prop)
    [DecidablePred S] (writtenBack : Pos h w → Bool) (new : Frame Px h w)
    : (b.write cached S writtenBack new).SyncRows = b.SyncRows := rfl

@[simp]
theorem flushCache_pixels (b : DisplayBuffer Px h w) (y1 y2 : Int)
    : (b.flushCache y1 y2).pixels = b.pixels := rfl

theorem write_uncached {b : DisplayBuffer Px h w} (hb : b.memory = b.pixels)
    (S : Pos h w → Prop) [DecidablePred S] (writtenBack : Pos h w → Bool) (new : Frame Px h w)
    : (b.write false S writtenBack new).memory = (b.write false S writtenBack new).pixels := by
  simp [write, hb]

theorem write_cached {b : DisplayBuffer Px h w} {D : Pos h w → Prop}
    (hb : AgreeOff D b.memory b.pixels) (S : Pos h w → Prop) [DecidablePred S]
    (writtenBack : Pos h w → Bool) (new : Frame Px h w)
    : AgreeOff (fun p => D p ∨ S p) (b.write true S writtenBack new).memory
        (b.write true S writtenBack new).pixels := by
  apply AgreeOff.mono
  . apply AgreeOff.overlay_left
    exact hb.overlay_right new
  . intro p hp
    exact hp.1

theorem flushCache_memory {b : DisplayBuffer Px h w} {y1 y2 : Int}
    (hb : AgreeOff (InRows true y1 y2) b.memory b.pixels)
    : (b.flushCache y1 y2).memory = b.pixels :=
  hb.copy

theorem catchUp {b : DisplayBuffer Px h w} {y1 y2 : Int} {src : Frame Px h w}
    (hb : b.memory = b.pixels) (hsrc : AgreeOff (InRows true y1 y2) b.pixels src) (cached : Bool)
    (writtenBack : Pos h w → Bool) {b' : DisplayBuffer Px h w}
    (hb' : b' = b.write cached (InRows true y1 y2) writtenBack src)
    : (if cached then b'.flushCache y1 y2 else b').pixels = src
        ∧ (if cached then b'.flushCache y1 y2 else b').memory = src := by
  subst hb'
  have hpixels : (b.write cached (InRows true y1 y2) writtenBack src).pixels = src := hsrc.copy
  cases cached with
  | false =>
    simp only [Bool.false_eq_true, ↓reduceIte]
    rw [write_uncached hb]
    exact ⟨hpixels, hpixels⟩
  | true =>
    simp only [↓reduceIte]
    rw [flushCache_memory]
    . exact ⟨hpixels, hpixels⟩
    . apply (write_cached _ (InRows true y1 y2) writtenBack src).mono
      . intro p hp
        exact hp.elim False.elim id
      . rw [hb]
        exact AgreeOff.refl _ _

end DisplayBuffer

namespace DisplayInstance

@[simp]
theorem setBuffer_self (inst : DisplayInstance Px h w) (i : Fin 3) (b : DisplayBuffer Px h w)
    : (inst.setBuffer i b).buffer i = b := by
  simp [setBuffer]

theorem setBuffer_of_ne (inst : DisplayInstance Px h w) {i j : Fin 3} (hij : j ≠ i)
    (b : DisplayBuffer Px h w)
    : (inst.setBuffer i b).buffer j = inst.buffer j := by
  simp [setBuffer, hij]

theorem markDirtyRows_frame (inst : DisplayInstance Px h w) (area : LvArea)
    : (inst.markDirtyRows area).buffer = inst.buffer
        ∧ (inst.markDirtyRows area).bufferCached = inst.bufferCached
        ∧ (inst.markDirtyRows area).drawBuffer = inst.drawBuffer := by
  unfold markDirtyRows
  dsimp
  split
  . simp
  . split
    . simp
    . simp

theorem markDirtyRows_dirtyRows (inst : DisplayInstance Px h w) (area : LvArea) {p : Pos h w}
    (hp : inst.DirtyRows p ∨ area.Contains p)
    : (inst.markDirtyRows area).DirtyRows p := by
  have hrow : (p.1 : Int) < h := by
    exact_mod_cast p.1.isLt
  simp only [DirtyRows, InRows, LvArea.Contains] at hp
  unfold markDirtyRows
  dsimp
  split
  . simp only [DirtyRows, InRows]
    cases hp with
    | inl hp => exact hp
    | inr hp => omega
  . split
    . next hvalid =>
      simp only [DirtyRows, InRows, true_and]
      simp only [Bool.not_eq_eq_eq_not, Bool.not_true] at hvalid
      simp only [hvalid, Bool.false_eq_true, false_and, false_or] at hp
      omega
    . next hvalid =>
      simp only [Bool.not_eq_eq_eq_not, Bool.not_true, Bool.not_eq_false] at hvalid
      simp only [DirtyRows, InRows, hvalid, true_and] at hp ⊢
      omega

theorem nextBuffer_ne_last (inst : DisplayInstance Px h w) (released : Fin 3 → Bool)
    : inst.lastBuffer ≠ some (inst.nextBuffer released) := by
  unfold nextBuffer
  split
  . next i hfind =>
    have := List.find?_some hfind
    simp only [ne_eq, decide_eq_true_eq] at this
    exact this.1
  . split
    . next hlast =>
      rw [hlast]
      decide
    . next hlast => exact hlast

theorem prepareDrawBuffer_frame (inst : DisplayInstance Px h w) (released : Fin 3 → Bool)
    (writtenBack : Pos h w → Bool) {i : Fin 3}
    (hi : i ≠ (inst.prepareDrawBuffer released writtenBack).drawBuffer)
    : (inst.prepareDrawBuffer released writtenBack).buffer i = inst.buffer i :=
  inst.setBuffer_of_ne hi _

theorem prepareDrawBuffer_noLast {inst : DisplayInstance Px h w} (hlast : inst.lastBuffer = none)
    (released : Fin 3 → Bool) (writtenBack : Pos h w → Bool)
    : (inst.prepareDrawBuffer released writtenBack).buffer = inst.buffer := by
  simp [prepareDrawBuffer, setBuffer, hlast]

theorem flushDirtyRows_self {inst : DisplayInstance Px h w} {i : Fin 3}
    (hi : AgreeOff inst.DirtyRows (inst.buffer i).memory (inst.buffer i).pixels)
    : ((inst.flushDirtyRows i).buffer i).memory = (inst.buffer i).pixels
        ∧ ((inst.flushDirtyRows i).buffer i).pixels = (inst.buffer i).pixels := by
  unfold DirtyRows at hi
  unfold flushDirtyRows
  split
  . next hvalid =>
    simp only [Bool.not_eq_eq_eq_not, Bool.not_true] at hvalid
    rw [hvalid] at hi
    exact ⟨hi.eq (not_inRows_false _ _), rfl⟩
  . next hvalid =>
    simp only [Bool.not_eq_eq_eq_not, Bool.not_true, Bool.not_eq_false] at hvalid
    rw [hvalid] at hi
    rw [setBuffer_self]
    exact ⟨DisplayBuffer.flushCache_memory hi, rfl⟩

theorem flushDirtyRows_frame (inst : DisplayInstance Px h w) {i j : Fin 3} (hij : j ≠ i)
    : (inst.flushDirtyRows i).buffer j = inst.buffer j
        ∧ (inst.flushDirtyRows i).DirtyRows = inst.DirtyRows := by
  unfold flushDirtyRows
  split
  . simp
  . rw [setBuffer_of_ne inst hij]
    exact ⟨rfl, rfl⟩

theorem rememberDirtyRows_pixels (inst : DisplayInstance Px h w) (current i : Fin 3)
    : ((inst.rememberDirtyRows current).buffer i).pixels = (inst.buffer i).pixels
        ∧ ((inst.rememberDirtyRows current).buffer i).memory = (inst.buffer i).memory := by
  unfold rememberDirtyRows
  dsimp
  split
  . simp
  . split
    . simp
    . simp

theorem rememberDirtyRows_syncRows (inst : DisplayInstance Px h w) {current i : Fin 3}
    (hi : i ≠ current) {p : Pos h w} (hp : (inst.buffer i).SyncRows p ∨ inst.DirtyRows p)
    : ((inst.rememberDirtyRows current).buffer i).SyncRows p := by
  simp only [DisplayBuffer.SyncRows, DirtyRows, InRows] at hp
  unfold rememberDirtyRows
  dsimp
  split
  . next hguard =>
    simp only [hi, Bool.not_eq_eq_eq_not, Bool.not_true, false_or] at hguard
    simp only [hguard, Bool.false_eq_true, false_and, or_false] at hp
    exact hp
  . next hguard =>
    simp only [hi, Bool.not_eq_eq_eq_not, Bool.not_true, false_or, Bool.not_eq_false] at hguard
    simp only [hguard, true_and] at hp
    split
    . next hsync =>
      simp only [hsync, true_and] at hp
      simp only [DisplayBuffer.SyncRows, InRows, hsync, true_and]
      omega
    . next hsync =>
      simp only [hsync, Bool.false_eq_true, false_and, false_or] at hp
      simp only [DisplayBuffer.SyncRows, InRows, true_and]
      omega

end DisplayInstance

structure Idle (s : DisplayState Px h w) : Prop where
  clean : s.inst.dirtyRowsValid = false
  coherent : ∀ i, (s.inst.buffer i).memory = (s.inst.buffer i).pixels
  stale : ∀ i, AgreeOff (s.inst.buffer i).SyncRows (s.inst.buffer i).pixels s.screen
  last : ∀ i, s.inst.lastBuffer = some i → (s.inst.buffer i).pixels = s.screen
  noLast : s.inst.lastBuffer = none → ∀ i, (s.inst.buffer i).syncRowsValid = false

structure Rendering (s : DisplayState Px h w) : Prop where
  fresh : (s.inst.buffer s.inst.drawBuffer).pixels = s.screen
  uncached : s.inst.bufferCached = false →
    (s.inst.buffer s.inst.drawBuffer).memory = (s.inst.buffer s.inst.drawBuffer).pixels
  cached : AgreeOff s.inst.DirtyRows (s.inst.buffer s.inst.drawBuffer).memory
    (s.inst.buffer s.inst.drawBuffer).pixels
  coherent : ∀ i, i ≠ s.inst.drawBuffer → (s.inst.buffer i).memory = (s.inst.buffer i).pixels
  stale : ∀ i, i ≠ s.inst.drawBuffer →
    AgreeOff (fun p => (s.inst.buffer i).SyncRows p ∨ s.inst.DirtyRows p)
      (s.inst.buffer i).pixels s.screen

theorem Idle.init (cached : Bool) (blank : Px)
    : Idle (DisplayState.init cached blank : DisplayState Px h w) := by
  constructor
  all_goals simp [DisplayState.init, AgreeOff]

theorem Idle.dirtyRows {s : DisplayState Px h w} (hs : Idle s) (p : Pos h w)
    : ¬s.inst.DirtyRows p := by
  unfold DisplayInstance.DirtyRows
  rw [hs.clean]
  exact not_inRows_false _ _ p

theorem Idle.rendering {s : DisplayState Px h w} (hs : Idle s) {inst : DisplayInstance Px h w}
    {next : Fin 3} {b : DisplayBuffer Px h w} (hpixels : b.pixels = s.screen)
    (hmemory : b.memory = b.pixels)
    (hinst : inst = { s.inst.setBuffer next b with drawBuffer := next })
    : Rendering { s with inst } := by
  subst hinst
  constructor
  . simpa using hpixels
  . simp [hmemory]
  . simp [hmemory, AgreeOff.refl]
  . intro i hi
    rw [DisplayInstance.setBuffer_of_ne s.inst hi]
    exact hs.coherent i
  . intro i hi
    rw [DisplayInstance.setBuffer_of_ne s.inst hi]
    apply (hs.stale i).mono
    intro p hp
    exact .inl hp

theorem Idle.prepareDrawBuffer {s : DisplayState Px h w} (hs : Idle s) (released : Fin 3 → Bool)
    (writtenBack : Pos h w → Bool)
    : Rendering { s with inst := s.inst.prepareDrawBuffer released writtenBack } := by
  unfold DisplayInstance.prepareDrawBuffer
  generalize s.inst.nextBuffer released = next
  have hstale := hs.stale next
  unfold DisplayBuffer.SyncRows at hstale
  dsimp only
  split
  . next hlast =>
    apply hs.rendering _ (hs.coherent next) rfl
    rw [hs.noLast hlast] at hstale
    exact hstale.eq (not_inRows_false _ _)
  . next last hlast =>
    split
    . next hsync =>
      rw [hsync, ← hs.last last hlast] at hstale
      have hcatch := DisplayBuffer.catchUp (hs.coherent next) hstale s.inst.bufferCached
        writtenBack rfl
      rw [hs.last last hlast] at hcatch
      apply hs.rendering _ _ rfl
      . rw [hs.last last hlast]
        exact hcatch.1
      . rw [hs.last last hlast]
        exact hcatch.2.trans hcatch.1.symm
    . next hsync =>
      simp only [Bool.not_eq_true] at hsync
      rw [hsync] at hstale
      apply hs.rendering _ (hs.coherent next) rfl
      exact hstale.eq (not_inRows_false _ _)

/-
Storing an area and recording its rows go together: between the two the invariant does not hold.
-/
def DisplayState.renderMarked (s : DisplayState Px h w) (r : RenderedArea Px h w)
    : DisplayState Px h w :=
  { s.render r with inst := (s.render r).inst.markDirtyRows r.area }

section

variable (s : DisplayState Px h w) (r : RenderedArea Px h w)

theorem renderMarked_drawBuffer : (s.renderMarked r).inst.drawBuffer = s.inst.drawBuffer :=
  ((s.render r).inst.markDirtyRows_frame r.area).2.2

theorem renderMarked_bufferCached
    : (s.renderMarked r).inst.bufferCached = s.inst.bufferCached :=
  ((s.render r).inst.markDirtyRows_frame r.area).2.1

theorem renderMarked_self
    : (s.renderMarked r).inst.buffer s.inst.drawBuffer
        = (s.inst.buffer s.inst.drawBuffer).write s.inst.bufferCached r.area.Contains r.writtenBack
            r.pixels := by
  unfold DisplayState.renderMarked
  rw [((s.render r).inst.markDirtyRows_frame r.area).1]
  exact s.inst.setBuffer_self _ _

theorem renderMarked_of_ne {i : Fin 3} (hi : i ≠ s.inst.drawBuffer)
    : (s.renderMarked r).inst.buffer i = s.inst.buffer i := by
  unfold DisplayState.renderMarked
  rw [((s.render r).inst.markDirtyRows_frame r.area).1]
  exact s.inst.setBuffer_of_ne hi _

theorem renderMarked_dirtyRows {p : Pos h w} (hp : s.inst.DirtyRows p ∨ r.area.Contains p)
    : (s.renderMarked r).inst.DirtyRows p :=
  (s.render r).inst.markDirtyRows_dirtyRows r.area hp

/-
Behind an uncached mapping the store is in the memory at once, behind a cached one it is in the dirty rows.
-/
theorem renderMarked_memory
    (huncached : s.inst.bufferCached = false →
      (s.inst.buffer s.inst.drawBuffer).memory = (s.inst.buffer s.inst.drawBuffer).pixels)
    (hcached : AgreeOff s.inst.DirtyRows (s.inst.buffer s.inst.drawBuffer).memory
      (s.inst.buffer s.inst.drawBuffer).pixels)
    : ((s.renderMarked r).inst.bufferCached = false →
          ((s.renderMarked r).inst.buffer s.inst.drawBuffer).memory
            = ((s.renderMarked r).inst.buffer s.inst.drawBuffer).pixels)
        ∧ AgreeOff (s.renderMarked r).inst.DirtyRows
          ((s.renderMarked r).inst.buffer s.inst.drawBuffer).memory
          ((s.renderMarked r).inst.buffer s.inst.drawBuffer).pixels := by
  rw [renderMarked_self, renderMarked_bufferCached]
  cases hb : s.inst.bufferCached with
  | false =>
    have hsame := DisplayBuffer.write_uncached (huncached hb) r.area.Contains r.writtenBack r.pixels
    rw [hsame]
    exact ⟨fun _ => rfl, AgreeOff.refl _ _⟩
  | true =>
    constructor
    . intro h
      cases h
    . apply (DisplayBuffer.write_cached hcached _ _ _).mono
      intro p
      exact renderMarked_dirtyRows s r

end

theorem Rendering.renderMarked {s : DisplayState Px h w} (hs : Rendering s)
    (r : RenderedArea Px h w)
    : Rendering (s.renderMarked r) := by
  have hmemory := renderMarked_memory s r hs.uncached hs.cached
  constructor
  . rw [renderMarked_drawBuffer, renderMarked_self, DisplayBuffer.write_pixels, hs.fresh]
    rfl
  . rw [renderMarked_drawBuffer]
    exact hmemory.1
  . rw [renderMarked_drawBuffer]
    exact hmemory.2
  . rw [renderMarked_drawBuffer]
    intro i hi
    rw [renderMarked_of_ne s r hi]
    exact hs.coherent i hi
  . rw [renderMarked_drawBuffer]
    intro i hi
    rw [renderMarked_of_ne s r hi]
    apply ((hs.stale i hi).overlay_right r.pixels).mono
    intro p hp
    simp only [or_assoc] at hp
    exact hp.imp id (renderMarked_dirtyRows s r)

theorem flush_not_last (s : DisplayState Px h w) (r : RenderedArea Px h w) (waitIdle : Bool)
    : ((s.render r).flush r.area false waitIdle).1 = s.renderMarked r := rfl

def DisplayState.present (s : DisplayState Px h w) : DisplayState Px h w × Option (Frame Px h w) :=
  let current := s.inst.drawBuffer
  let inst := if s.inst.bufferCached then s.inst.flushDirtyRows current else s.inst
  let pushed := (inst.buffer current).memory
  let inst := inst.rememberDirtyRows current
  ({ s with inst := { inst with lastBuffer := some current, dirtyRowsValid := false } }, some pushed)

theorem flush_last (s : DisplayState Px h w) (r : RenderedArea Px h w)
    : (s.render r).flush r.area true true = (s.renderMarked r).present := by
  unfold DisplayState.flush DisplayInstance.flushCb DisplayState.present
  have hframe := (s.render r).inst.markDirtyRows_frame r.area
  have hdraw : (s.renderMarked r).inst.drawBuffer = (s.render r).inst.drawBuffer := hframe.2.2
  rw [hdraw]
  rfl

theorem Rendering.present {s : DisplayState Px h w} (hs : Rendering s)
    : Idle s.present.1 ∧ s.present.2 = some s.screen := by
  generalize hinst : (if s.inst.bufferCached then s.inst.flushDirtyRows s.inst.drawBuffer else s.inst)
    = inst
  have hself : (inst.buffer s.inst.drawBuffer).memory = s.screen
      ∧ (inst.buffer s.inst.drawBuffer).pixels = s.screen := by
    rw [← hinst, ← hs.fresh]
    split
    . exact DisplayInstance.flushDirtyRows_self hs.cached
    . next hcached => exact ⟨hs.uncached (by simpa using hcached), rfl⟩
  have hother : ∀ i, i ≠ s.inst.drawBuffer →
      inst.buffer i = s.inst.buffer i ∧ inst.DirtyRows = s.inst.DirtyRows := by
    intro i hi
    rw [← hinst]
    split
    . exact s.inst.flushDirtyRows_frame hi
    . exact ⟨rfl, rfl⟩
  have hpixels := inst.rememberDirtyRows_pixels s.inst.drawBuffer
  unfold DisplayState.present
  dsimp only
  rw [hinst]
  constructor
  . constructor
    . rfl
    . intro i
      dsimp only
      rw [(hpixels i).1, (hpixels i).2]
      by_cases hi : i = s.inst.drawBuffer
      . rw [hi, hself.1, hself.2]
      . rw [(hother i hi).1]
        exact hs.coherent i hi
    . intro i
      dsimp only
      rw [(hpixels i).1]
      by_cases hi : i = s.inst.drawBuffer
      . rw [hi, hself.2]
        exact AgreeOff.refl _ _
      . rw [(hother i hi).1]
        apply (hs.stale i hi).mono
        intro p hp
        apply inst.rememberDirtyRows_syncRows hi
        rw [(hother i hi).1, (hother i hi).2]
        exact hp
    . intro i hlast
      simp only [Option.some.injEq] at hlast
      dsimp only
      rw [(hpixels i).1, ← hlast]
      exact hself.2
    . simp
  . rw [hself.1]

/-
A refresh without areas leaves the prepared draw buffer behind, which has caught up by then.
-/
theorem Idle.refreshNothing {s : DisplayState Px h w} (hs : Idle s) (released : Fin 3 → Bool)
    (writtenBack : Pos h w → Bool)
    : Idle { s with inst := s.inst.prepareDrawBuffer released writtenBack } := by
  have hrender := hs.prepareDrawBuffer released writtenBack
  have hframe : ∀ i, i ≠ (s.inst.prepareDrawBuffer released writtenBack).drawBuffer →
      (s.inst.prepareDrawBuffer released writtenBack).buffer i = s.inst.buffer i := by
    intro i hi
    exact s.inst.prepareDrawBuffer_frame released writtenBack hi
  constructor
  . exact hs.clean
  . intro i
    by_cases hi : i = (s.inst.prepareDrawBuffer released writtenBack).drawBuffer
    . rw [hi]
      apply hrender.cached.eq
      exact hs.dirtyRows
    . exact hrender.coherent i hi
  . intro i
    by_cases hi : i = (s.inst.prepareDrawBuffer released writtenBack).drawBuffer
    . rw [hi, hrender.fresh]
      exact AgreeOff.refl _ _
    . dsimp only
      rw [hframe i hi]
      exact hs.stale i
  . intro i hlast
    have hlast : s.inst.lastBuffer = some i := hlast
    have hi : i ≠ (s.inst.prepareDrawBuffer released writtenBack).drawBuffer := by
      intro hi
      apply s.inst.nextBuffer_ne_last released
      rw [hlast, hi]
      rfl
    dsimp only
    rw [hframe i hi]
    exact hs.last i hlast
  . intro hlast i
    have hlast : s.inst.lastBuffer = none := hlast
    dsimp only
    rw [DisplayInstance.prepareDrawBuffer_noLast hlast]
    exact hs.noLast hlast i

theorem Rendering.refreshAreas {s : DisplayState Px h w} (hs : Rendering s)
    (r : RenderedArea Px h w) (rs : List (RenderedArea Px h w))
    : Idle (s.refreshAreas true (r :: rs)).1
        ∧ (s.refreshAreas true (r :: rs)).2 = some (s.refreshAreas true (r :: rs)).1.screen := by
  induction rs generalizing s r with
  | nil =>
    unfold DisplayState.refreshAreas
    rw [flush_last]
    exact (hs.renderMarked r).present
  | cons r' rs ih =>
    unfold DisplayState.refreshAreas
    rw [flush_not_last]
    exact ih (hs.renderMarked r) r'

def FramePushedAsRendered
    (v : Machine.Visit (DisplayState Px h w) (Refresh Px h w) (Option (Frame Px h w))) : Prop :=
  ∀ frame, v.obs = some frame → frame = v.post.screen

def StaleRowsRecorded (s : DisplayState Px h w) : Prop :=
  ∀ last, s.inst.lastBuffer = some last → ∀ i p,
    (s.inst.buffer i).pixels p ≠ (s.inst.buffer last).pixels p → (s.inst.buffer i).SyncRows p

theorem Idle.staleRowsRecorded {s : DisplayState Px h w} (hs : Idle s) : StaleRowsRecorded s := by
  intro last hlast i p hne
  by_contra hsync
  apply hne
  rw [hs.last last hlast]
  exact hs.stale i p hsync

theorem Idle.refresh {s : DisplayState Px h w} (hs : Idle s) {r : Refresh Px h w}
    (hwait : r.waitIdle = true)
    : Idle (s.refresh r).1 ∧ ∀ frame, (s.refresh r).2 = some frame → frame = (s.refresh r).1.screen := by
  unfold DisplayState.refresh
  dsimp only
  rw [hwait]
  cases hareas : r.areas with
  | nil =>
    constructor
    . exact hs.refreshNothing r.released r.writtenBack
    . simp [DisplayState.refreshAreas]
  | cons a as =>
    have hpushed := (hs.prepareDrawBuffer r.released r.writtenBack).refreshAreas a as
    constructor
    . exact hpushed.1
    . intro frame hframe
      rw [hpushed.2] at hframe
      exact (Option.some.inj hframe).symm

/--
Whatever the areas, the release timing and the evictions are, as long as the GPU waits succeed.
-/
theorem framePushedAsRendered (cached : Bool) (blank : Px) (rs : List (Refresh Px h w))
    (hwait : ∀ r ∈ rs, r.waitIdle = true)
    : ∀ v ∈ displayMachine.visits (DisplayState.init cached blank) rs,
        FramePushedAsRendered v ∧ StaleRowsRecorded v.post := by
  refine Machine.forall_visits_of_inv Idle (fun r : Refresh Px h w => r.waitIdle = true)
    ?_ ?_ (Idle.init cached blank) hwait
  . intro s r hr hs
    exact (hs.refresh hr).1
  . intro s r hr hs
    exact ⟨(hs.refresh hr).2, (hs.refresh hr).1.staleRowsRecorded⟩

/-
Three refreshes of a two-row screen behind a cached mapping. The second one has overlapping areas
and finds no buffer released, the third one returns to the first buffer.
-/
def threeRefreshes : List (Refresh Nat 2 1) :=
  [
    ⟨fun _ => true, fun _ => false, [⟨⟨0, 0, 0, 1⟩, fun _ => 1, fun _ => false⟩], true⟩,
    ⟨fun _ => false, fun _ => true, [⟨⟨0, 0, 0, 0⟩, fun _ => 2, fun _ => false⟩,
      ⟨⟨0, -1, 0, 0⟩, fun _ => 3, fun _ => true⟩], true⟩,
    ⟨fun i => i.val == 0, fun _ => false, [⟨⟨0, 1, 0, 7⟩, fun _ => 4, fun _ => false⟩], true⟩
  ]

theorem threeRefreshes_framePushedAsRendered
    : (displayMachine.visits (DisplayState.init true 0) threeRefreshes).map (fun v => v.obs.isSome)
          = [true, true, true]
        ∧ ∀ v ∈ displayMachine.visits (DisplayState.init true 0) threeRefreshes,
            FramePushedAsRendered v ∧ StaleRowsRecorded v.post :=
  ⟨by decide, framePushedAsRendered true 0 threeRefreshes (by decide)⟩

end Lvgl

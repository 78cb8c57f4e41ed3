import RtsmartLib.Lvgl.DisplaySync

/-!
This module contains refreshes whose wait for the GPU fails: what has been rendered into which buffer
since the last frame was pushed, and the refreshes that push a frame from a buffer that lacks some of it.
-/

namespace Lvgl

open Lib

variable {Px : Type} {h w : Nat}

def drawAll (rs : List (RenderedArea Px h w)) (frame : Frame Px h w) : Frame Px h w :=
  rs.foldl (fun frame r => overlay r.area.Contains r.pixels frame) frame

/-
The last pushed frame, and what has been rendered since, each area with its buffer.
-/
structure History (Px : Type) (h w : Nat) where
  shown : Frame Px h w
  pending : List (Fin 3 × RenderedArea Px h w)

namespace History

def draw (g : History Px h w) (i : Fin 3) (rs : List (RenderedArea Px h w)) : History Px h w :=
  { g with pending := g.pending ++ rs.map (i, ·) }

/-
The last pushed frame with what has been rendered into one buffer, and with all that has been rendered.
-/
def into (g : History Px h w) (i : Fin 3) : Frame Px h w :=
  drawAll ((g.pending.filter (·.1 = i)).map (·.2)) g.shown

def all (g : History Px h w) : Frame Px h w := drawAll (g.pending.map (·.2)) g.shown

end History

structure RecordedState (Px : Type) (h w : Nat) where
  display : DisplayState Px h w
  history : History Px h w

def RecordedState.init (cached : Bool) (blank : Px) : RecordedState Px h w :=
  ⟨DisplayState.init cached blank, ⟨fun _ => blank, []⟩⟩

def recordedMachine : Machine (RecordedState Px h w) (Refresh Px h w) (Option (Frame Px h w)) where
  step s r :=
    let (display, pushed) := s.display.refresh r
    match pushed with
    | some frame => (⟨display, ⟨frame, []⟩⟩, pushed)
    | none => (⟨display, s.history.draw (s.display.inst.nextBuffer r.released) r.areas⟩, pushed)

abbrev RecordedVisit (Px : Type) (h w : Nat) :=
  Machine.Visit (RecordedState Px h w) (Refresh Px h w) (Option (Frame Px h w))

/--
A pushed frame has everything that has been rendered.
-/
def NothingLost (v : RecordedVisit Px h w) : Prop :=
  ∀ frame, v.obs = some frame → frame = v.post.display.screen

/--
A frame is pushed from a buffer after refreshes that were rendered into others, and a pixel of these is
neither rendered again nor the same in the buffer by accident.
-/
def RegionLost (v : RecordedVisit Px h w) : Prop :=
  v.event.waitIdle = true ∧ v.event.areas ≠ []
    ∧ ∃ p, (∀ r ∈ v.event.areas, ¬r.area.Contains p)
      ∧ v.pre.history.into (v.pre.display.inst.nextBuffer v.event.released) p
          ≠ v.pre.history.all p

theorem drawAll_append (rs rs' : List (RenderedArea Px h w)) (frame : Frame Px h w)
    : drawAll (rs ++ rs') frame = drawAll rs' (drawAll rs frame) := by
  simp [drawAll]

theorem drawAll_of_not_contains {rs : List (RenderedArea Px h w)} {p : Pos h w}
    (hp : ∀ r ∈ rs, ¬r.area.Contains p) (frame : Frame Px h w)
    : drawAll rs frame p = frame p := by
  induction rs generalizing frame with
  | nil => rfl
  | cons r rs ih =>
    simp only [List.forall_mem_cons] at hp
    exact (ih hp.2 _).trans (overlay_of_not_mem hp.1 r.pixels frame)

/-
Two frames that are drawn over in the same way differ where nothing was drawn.
-/
theorem drawAll_eq_iff (rs : List (RenderedArea Px h w)) (frame frame' : Frame Px h w)
    : drawAll rs frame = drawAll rs frame'
        ↔ ∀ p, (∀ r ∈ rs, ¬r.area.Contains p) → frame p = frame' p := by
  constructor
  . intro heq p hp
    rw [← drawAll_of_not_contains hp frame, ← drawAll_of_not_contains hp frame', heq]
  . intro heq
    induction rs generalizing frame frame' with
    | nil =>
      funext p
      exact heq p (by simp)
    | cons r rs ih =>
      apply ih
      intro p hp
      dsimp only
      by_cases hr : r.area.Contains p
      . rw [overlay_of_mem hr, overlay_of_mem hr]
      . rw [overlay_of_not_mem hr, overlay_of_not_mem hr]
        apply heq
        simpa using ⟨hr, hp⟩

namespace History

variable (g : History Px h w)

theorem into_draw_self (i : Fin 3) (rs : List (RenderedArea Px h w))
    : (g.draw i rs).into i = drawAll rs (g.into i) := by
  unfold into draw
  rw [List.filter_append, List.map_append, drawAll_append]
  simp [List.filter_map, Function.comp_def]

theorem into_draw_of_ne {i j : Fin 3} (hij : j ≠ i) (rs : List (RenderedArea Px h w))
    : (g.draw i rs).into j = g.into j := by
  unfold into draw
  rw [List.filter_append, List.map_append, drawAll_append]
  simp [List.filter_map, Function.comp_def, Ne.symm hij, drawAll]

theorem all_draw (i : Fin 3) (rs : List (RenderedArea Px h w))
    : (g.draw i rs).all = drawAll rs g.all := by
  unfold all draw
  rw [List.map_append, drawAll_append]
  simp [Function.comp_def]

theorem draw_cons (i : Fin 3) (r : RenderedArea Px h w) (rs : List (RenderedArea Px h w))
    : g.draw i (r :: rs) = (g.draw i [r]).draw i rs := by
  simp [draw]

theorem mem_draw {i : Fin 3} {r : RenderedArea Px h w} {e : Fin 3 × RenderedArea Px h w}
    : e ∈ (g.draw i [r]).pending ↔ e ∈ g.pending ∨ e = (i, r) := by
  simp [draw]

theorem into_of_not_contains {p : Pos h w} (hp : ∀ e ∈ g.pending, ¬e.2.area.Contains p) (i : Fin 3)
    : g.into i p = g.shown p := by
  unfold into
  rw [drawAll_of_not_contains]
  intro r hr
  obtain ⟨e, he, rfl⟩ := List.mem_map.mp hr
  exact hp e (List.mem_of_mem_filter he)

theorem into_of_untouched {i : Fin 3} (hi : ∀ e ∈ g.pending, e.1 ≠ i) : g.into i = g.shown := by
  unfold into
  rw [List.filter_eq_nil_iff.mpr (by simpa using hi)]
  rfl

end History

/-
Between two refreshes. A buffer outside of the rows that it will be synchronised in is the last pushed frame
with what has been rendered into it since, and a buffer that will be synchronised has not been rendered into.
-/
structure Lagging (s : DisplayState Px h w) (g : History Px h w) : Prop where
  coherent : ∀ i, (s.inst.buffer i).memory = (s.inst.buffer i).pixels
  screen : s.screen = g.all
  stale : ∀ i, AgreeOff (s.inst.buffer i).SyncRows (s.inst.buffer i).pixels (g.into i)
  untouched : ∀ i, (s.inst.buffer i).syncRowsValid = true → ∀ e ∈ g.pending, e.1 ≠ i
  last : ∀ i, s.inst.lastBuffer = some i →
    (s.inst.buffer i).pixels = g.shown ∧ ∀ e ∈ g.pending, e.1 ≠ i
  noLast : s.inst.lastBuffer = none → ∀ i, (s.inst.buffer i).syncRowsValid = false
  dirty : ∀ e ∈ g.pending, ∀ p, e.2.area.Contains p → s.inst.DirtyRows p

structure Drawing (s : DisplayState Px h w) (g : History Px h w) : Prop where
  fresh : (s.inst.buffer s.inst.drawBuffer).pixels = g.into s.inst.drawBuffer
  synced : (s.inst.buffer s.inst.drawBuffer).syncRowsValid = false
  uncached : s.inst.bufferCached = false →
    (s.inst.buffer s.inst.drawBuffer).memory = (s.inst.buffer s.inst.drawBuffer).pixels
  cached : AgreeOff s.inst.DirtyRows (s.inst.buffer s.inst.drawBuffer).memory
    (s.inst.buffer s.inst.drawBuffer).pixels
  coherent : ∀ i, i ≠ s.inst.drawBuffer → (s.inst.buffer i).memory = (s.inst.buffer i).pixels
  screen : s.screen = g.all
  stale : ∀ i, i ≠ s.inst.drawBuffer →
    AgreeOff (s.inst.buffer i).SyncRows (s.inst.buffer i).pixels (g.into i)
  untouched : ∀ i, (s.inst.buffer i).syncRowsValid = true → ∀ e ∈ g.pending, e.1 ≠ i
  last : ∀ i, s.inst.lastBuffer = some i →
    i ≠ s.inst.drawBuffer ∧ (s.inst.buffer i).pixels = g.shown ∧ ∀ e ∈ g.pending, e.1 ≠ i
  noLast : s.inst.lastBuffer = none → ∀ i, (s.inst.buffer i).syncRowsValid = false
  dirty : ∀ e ∈ g.pending, ∀ p, e.2.area.Contains p → s.inst.DirtyRows p

theorem Lagging.init (cached : Bool) (blank : Px)
    : Lagging (DisplayState.init cached blank : DisplayState Px h w) ⟨fun _ => blank, []⟩ := by
  constructor
  all_goals simp [DisplayState.init, AgreeOff, History.all, History.into, drawAll]

theorem DisplayInstance.markDirtyRows_lastBuffer (inst : DisplayInstance Px h w) (area : LvArea)
    : (inst.markDirtyRows area).lastBuffer = inst.lastBuffer := by
  unfold markDirtyRows
  dsimp only
  split
  . rfl
  . split
    . rfl
    . rfl

/-
Writing the dirty rows back changes nothing but the memory of the buffer.
-/
theorem DisplayInstance.flushDirtyRows_same (inst : DisplayInstance Px h w) (current : Fin 3)
    : (∀ i, ((inst.flushDirtyRows current).buffer i).pixels = (inst.buffer i).pixels
          ∧ ((inst.flushDirtyRows current).buffer i).SyncRows = (inst.buffer i).SyncRows
          ∧ ((inst.flushDirtyRows current).buffer i).syncRowsValid = (inst.buffer i).syncRowsValid)
        ∧ (inst.flushDirtyRows current).DirtyRows = inst.DirtyRows
        ∧ (inst.flushDirtyRows current).lastBuffer = inst.lastBuffer
        ∧ (inst.flushDirtyRows current).drawBuffer = inst.drawBuffer := by
  unfold flushDirtyRows
  split
  . exact ⟨fun _ => ⟨rfl, rfl, rfl⟩, rfl, rfl, rfl⟩
  . refine ⟨?_, rfl, rfl, rfl⟩
    intro i
    by_cases hi : i = current
    . rw [hi, setBuffer_self]
      exact ⟨rfl, rfl, rfl⟩
    . rw [setBuffer_of_ne inst hi]
      exact ⟨rfl, rfl, rfl⟩

/-
The buffer that rendering starts with is brought up to the last pushed frame.
-/
theorem Lagging.drawing {s : DisplayState Px h w} {g : History Px h w} (hs : Lagging s g)
    {inst : DisplayInstance Px h w} {next : Fin 3} {b : DisplayBuffer Px h w}
    (hnext : s.inst.lastBuffer ≠ some next) (hpixels : b.pixels = g.into next)
    (hmemory : b.memory = b.pixels) (hsynced : b.syncRowsValid = false)
    (hinst : inst = { s.inst.setBuffer next b with drawBuffer := next })
    : Drawing { s with inst } g
        ∧ (inst.buffer inst.drawBuffer).memory = (inst.buffer inst.drawBuffer).pixels := by
  subst hinst
  refine ⟨?_, by simpa using hmemory⟩
  constructor
  . simpa using hpixels
  . simpa using hsynced
  . simp [hmemory]
  . simp [hmemory, AgreeOff.refl]
  . intro i hi
    rw [DisplayInstance.setBuffer_of_ne s.inst hi]
    exact hs.coherent i
  . exact hs.screen
  . intro i hi
    rw [DisplayInstance.setBuffer_of_ne s.inst hi]
    exact hs.stale i
  . intro i hsync
    by_cases hi : i = next
    . rw [hi] at hsync
      simp [hsynced] at hsync
    . dsimp only at hsync
      rw [DisplayInstance.setBuffer_of_ne s.inst hi] at hsync
      exact hs.untouched i hsync
  . intro i hlast
    have hne : i ≠ next := by
      intro hi
      rw [hi] at hlast
      exact hnext hlast
    dsimp only
    rw [DisplayInstance.setBuffer_of_ne s.inst hne]
    exact ⟨hne, hs.last i hlast⟩
  . intro hlast i
    by_cases hi : i = next
    . rw [hi]
      simpa using hsynced
    . dsimp only
      rw [DisplayInstance.setBuffer_of_ne s.inst hi]
      exact hs.noLast hlast i
  . exact hs.dirty

theorem Lagging.prepareDrawBuffer {s : DisplayState Px h w} {g : History Px h w} (hs : Lagging s g)
    (released : Fin 3 → Bool) (writtenBack : Pos h w → Bool) {inst : DisplayInstance Px h w}
    (hinst : inst = s.inst.prepareDrawBuffer released writtenBack)
    : Drawing { s with inst } g
        ∧ (inst.buffer inst.drawBuffer).memory = (inst.buffer inst.drawBuffer).pixels := by
  have hnext := s.inst.nextBuffer_ne_last released
  unfold DisplayInstance.prepareDrawBuffer at hinst
  generalize s.inst.nextBuffer released = next at hnext hinst
  have hstale := hs.stale next
  unfold DisplayBuffer.SyncRows at hstale
  dsimp only at hinst
  split at hinst
  . next hlast =>
    have hsync := hs.noLast hlast next
    rw [hsync] at hstale
    exact hs.drawing hnext (hstale.eq (not_inRows_false _ _)) (hs.coherent next) hsync hinst
  . next last hlast =>
    split at hinst
    . next hsync =>
      have hshown : g.into next = g.shown := g.into_of_untouched (hs.untouched next hsync)
      rw [hsync, hshown, ← (hs.last last hlast).1] at hstale
      have hcatch := DisplayBuffer.catchUp (hs.coherent next) hstale s.inst.bufferCached
        writtenBack rfl
      apply hs.drawing hnext _ _ rfl hinst
      . rw [hshown, ← (hs.last last hlast).1]
        exact hcatch.1
      . exact hcatch.2.trans hcatch.1.symm
    . next hsync =>
      simp only [Bool.not_eq_true] at hsync
      rw [hsync] at hstale
      exact hs.drawing hnext (hstale.eq (not_inRows_false _ _)) (hs.coherent next) hsync hinst

theorem renderMarked_syncRowsValid (s : DisplayState Px h w) (r : RenderedArea Px h w) (i : Fin 3)
    : ((s.renderMarked r).inst.buffer i).syncRowsValid = (s.inst.buffer i).syncRowsValid := by
  by_cases hi : i = s.inst.drawBuffer
  . rw [hi, renderMarked_self]
    rfl
  . rw [renderMarked_of_ne s r hi]

theorem Drawing.renderMarked {s : DisplayState Px h w} {g : History Px h w} (hs : Drawing s g)
    (r : RenderedArea Px h w)
    : Drawing (s.renderMarked r) (g.draw s.inst.drawBuffer [r]) := by
  have hmemory := renderMarked_memory s r hs.uncached hs.cached
  have hlast : (s.renderMarked r).inst.lastBuffer = s.inst.lastBuffer :=
    (s.render r).inst.markDirtyRows_lastBuffer r.area
  constructor
  . rw [renderMarked_drawBuffer, renderMarked_self, DisplayBuffer.write_pixels, hs.fresh,
      History.into_draw_self]
    rfl
  . rw [renderMarked_drawBuffer, renderMarked_syncRowsValid]
    exact hs.synced
  . rw [renderMarked_drawBuffer]
    exact hmemory.1
  . rw [renderMarked_drawBuffer]
    exact hmemory.2
  . rw [renderMarked_drawBuffer]
    intro i hi
    rw [renderMarked_of_ne s r hi]
    exact hs.coherent i hi
  . rw [History.all_draw, ← hs.screen]
    rfl
  . rw [renderMarked_drawBuffer]
    intro i hi
    rw [renderMarked_of_ne s r hi, g.into_draw_of_ne hi]
    exact hs.stale i hi
  . intro i hvalid e he
    rw [renderMarked_syncRowsValid] at hvalid
    rw [History.mem_draw] at he
    cases he with
    | inl he => exact hs.untouched i hvalid e he
    | inr he =>
      rw [he]
      rintro rfl
      rw [hs.synced] at hvalid
      cases hvalid
  . intro i hi
    rw [hlast] at hi
    obtain ⟨hne, hpixels, huntouched⟩ := hs.last i hi
    rw [renderMarked_drawBuffer, renderMarked_of_ne s r hne]
    refine ⟨hne, hpixels, ?_⟩
    intro e he
    rw [History.mem_draw] at he
    cases he with
    | inl he => exact huntouched e he
    | inr he =>
      rw [he]
      exact Ne.symm hne
  . intro hnone i
    rw [hlast] at hnone
    rw [renderMarked_syncRowsValid]
    exact hs.noLast hnone i
  . intro e he p hp
    rw [History.mem_draw] at he
    apply renderMarked_dirtyRows
    cases he with
    | inl he => exact .inl (hs.dirty e he p hp)
    | inr he =>
      rw [he] at hp
      exact .inr hp

/-
The draw buffer with its rows written back, before the wait for the GPU.
-/
def DisplayState.writtenBack (s : DisplayState Px h w) : DisplayState Px h w :=
  if s.inst.bufferCached then { s with inst := s.inst.flushDirtyRows s.inst.drawBuffer } else s

theorem flush_last_aborted (s : DisplayState Px h w) (r : RenderedArea Px h w)
    : (s.render r).flush r.area true false = ((s.renderMarked r).writtenBack, none) := by
  unfold DisplayState.flush DisplayInstance.flushCb DisplayState.writtenBack
  have hframe := (s.render r).inst.markDirtyRows_frame r.area
  have hdraw : (s.renderMarked r).inst.drawBuffer = (s.render r).inst.drawBuffer := hframe.2.2
  rw [hdraw]
  cases hcached : (s.renderMarked r).inst.bufferCached with
  | false =>
    have : ((s.render r).inst.markDirtyRows r.area).bufferCached = false := hcached
    simp [this]
    rfl
  | true =>
    have : ((s.render r).inst.markDirtyRows r.area).bufferCached = true := hcached
    simp [this]
    exact ⟨rfl, rfl⟩

theorem Drawing.stale_all {s : DisplayState Px h w} {g : History Px h w} (hs : Drawing s g) (i : Fin 3)
    : AgreeOff (s.inst.buffer i).SyncRows (s.inst.buffer i).pixels (g.into i) := by
  by_cases hi : i = s.inst.drawBuffer
  . rw [hi, hs.fresh]
    exact AgreeOff.refl _ _
  . exact hs.stale i hi

/-
A draw buffer whose stores have all reached the memory is as good as the other ones.
-/
theorem Drawing.lagging {s : DisplayState Px h w} {g : History Px h w} (hs : Drawing s g)
    (hcoherent : (s.inst.buffer s.inst.drawBuffer).memory = (s.inst.buffer s.inst.drawBuffer).pixels)
    : Lagging s g := by
  constructor
  . intro i
    by_cases hi : i = s.inst.drawBuffer
    . rw [hi]
      exact hcoherent
    . exact hs.coherent i hi
  . exact hs.screen
  . exact hs.stale_all
  . exact hs.untouched
  . intro i hi
    exact (hs.last i hi).2
  . exact hs.noLast
  . exact hs.dirty

theorem Drawing.lagging_flushDirtyRows {s : DisplayState Px h w} {g : History Px h w}
    (hs : Drawing s g)
    : Lagging { s with inst := s.inst.flushDirtyRows s.inst.drawBuffer } g := by
  obtain ⟨hsame, hdirty, hlast, _⟩ := s.inst.flushDirtyRows_same s.inst.drawBuffer
  constructor
  . intro i
    by_cases hi : i = s.inst.drawBuffer
    . obtain ⟨hmemory, hpixels⟩ := DisplayInstance.flushDirtyRows_self hs.cached
      rw [hi]
      exact hmemory.trans hpixels.symm
    . dsimp only
      rw [(s.inst.flushDirtyRows_frame hi).1]
      exact hs.coherent i hi
  . exact hs.screen
  . intro i
    dsimp only
    rw [(hsame i).1, (hsame i).2.1]
    exact hs.stale_all i
  . intro i
    dsimp only
    rw [(hsame i).2.2]
    exact hs.untouched i
  . intro i hi
    dsimp only at hi ⊢
    rw [hlast] at hi
    rw [(hsame i).1]
    exact (hs.last i hi).2
  . dsimp only
    rw [hlast]
    intro hnone i
    rw [(hsame i).2.2]
    exact hs.noLast hnone i
  . dsimp only
    rw [hdirty]
    exact hs.dirty

/-
An aborted refresh leaves what it has rendered in its buffer and its rows among the dirty ones.
-/
theorem Drawing.writtenBack {s : DisplayState Px h w} {g : History Px h w} (hs : Drawing s g)
    : Lagging s.writtenBack g ∧ s.writtenBack.inst.drawBuffer = s.inst.drawBuffer
        ∧ (s.writtenBack.inst.buffer s.inst.drawBuffer).pixels = g.into s.inst.drawBuffer := by
  unfold DisplayState.writtenBack
  cases hcached : s.inst.bufferCached with
  | false =>
    rw [if_neg Bool.false_ne_true]
    exact ⟨hs.lagging (hs.uncached hcached), rfl, hs.fresh⟩
  | true =>
    obtain ⟨hsame, _, _, hdraw⟩ := s.inst.flushDirtyRows_same s.inst.drawBuffer
    rw [if_pos rfl]
    refine ⟨hs.lagging_flushDirtyRows, hdraw, ?_⟩
    rw [(hsame _).1]
    exact hs.fresh

/-
Where the draw buffer has everything, pushing it leaves nothing pending. Everywhere else a spare buffer is
synchronised before it is pushed again.
-/
theorem Lagging.push {s : DisplayState Px h w} {g : History Px h w} (hs : Lagging s g)
    {current : Fin 3} (hcurrent : (s.inst.buffer current).pixels = g.into current)
    (hall : g.into current = g.all)
    : Lagging
        { s with
          inst := { s.inst.rememberDirtyRows current with
            lastBuffer := some current
            dirtyRowsValid := false } }
        ⟨g.into current, []⟩ := by
  have hpixels := s.inst.rememberDirtyRows_pixels current
  constructor
  . intro i
    dsimp only
    rw [(hpixels i).1, (hpixels i).2]
    exact hs.coherent i
  . exact hs.screen.trans hall.symm
  . intro i
    dsimp only
    rw [(hpixels i).1]
    by_cases hi : i = current
    . rw [hi, hcurrent]
      exact AgreeOff.refl _ _
    . intro p hp
      have hnot : ¬((s.inst.buffer i).SyncRows p ∨ s.inst.DirtyRows p) := by
        intro h
        exact hp (s.inst.rememberDirtyRows_syncRows hi h)
      rw [not_or] at hnot
      -- nothing that is pending has been rendered there
      have hclean : ∀ e ∈ g.pending, ¬e.2.area.Contains p :=
        fun e he hcontains => hnot.2 (hs.dirty e he p hcontains)
      rw [hs.stale i p hnot.1, g.into_of_not_contains hclean i]
      exact (g.into_of_not_contains hclean current).symm
  . intro i _ e he
    cases he
  . intro i hlast
    simp only [Option.some.injEq] at hlast
    dsimp only
    rw [(hpixels i).1, ← hlast]
    refine ⟨hcurrent, ?_⟩
    intro e he
    cases he
  . intro hnone
    cases hnone
  . intro e he
    cases he

theorem present_eq (s : DisplayState Px h w)
    : s.present
        =
      ({ s.writtenBack with
          inst := { s.writtenBack.inst.rememberDirtyRows s.inst.drawBuffer with
            lastBuffer := some s.inst.drawBuffer
            dirtyRowsValid := false } },
        some (s.writtenBack.inst.buffer s.inst.drawBuffer).memory) := by
  unfold DisplayState.present DisplayState.writtenBack
  cases s.inst.bufferCached with
  | false => rfl
  | true => rfl

/-
A refresh without areas changes nothing but the draw buffer, which has caught up by then.
-/
theorem Lagging.refreshNothing {s : DisplayState Px h w} {g : History Px h w} (hs : Lagging s g)
    (released : Fin 3 → Bool) (writtenBack : Pos h w → Bool)
    : Lagging { s with inst := s.inst.prepareDrawBuffer released writtenBack } g := by
  obtain ⟨hdrawing, hcoherent⟩ := hs.prepareDrawBuffer released writtenBack rfl
  constructor
  . intro i
    by_cases hi : i = (s.inst.prepareDrawBuffer released writtenBack).drawBuffer
    . rw [hi]
      exact hcoherent
    . exact hdrawing.coherent i hi
  . exact hs.screen
  . intro i
    by_cases hi : i = (s.inst.prepareDrawBuffer released writtenBack).drawBuffer
    . rw [hi, hdrawing.fresh]
      exact AgreeOff.refl _ _
    . exact hdrawing.stale i hi
  . exact hdrawing.untouched
  . intro i hlast
    exact (hdrawing.last i hlast).2
  . exact hdrawing.noLast
  . exact hdrawing.dirty

theorem Drawing.refreshAreas_aborted {s : DisplayState Px h w} {g : History Px h w}
    (hs : Drawing s g) (r : RenderedArea Px h w) (rs : List (RenderedArea Px h w))
    : Lagging (s.refreshAreas false (r :: rs)).1 (g.draw s.inst.drawBuffer (r :: rs))
        ∧ (s.refreshAreas false (r :: rs)).2 = none := by
  induction rs generalizing s g r with
  | nil =>
    unfold DisplayState.refreshAreas
    rw [flush_last_aborted]
    exact ⟨(hs.renderMarked r).writtenBack.1, rfl⟩
  | cons r' rs ih =>
    unfold DisplayState.refreshAreas
    have hrest := ih (hs.renderMarked r) r'
    rw [renderMarked_drawBuffer, ← g.draw_cons] at hrest
    exact hrest

/-
The frame that a refresh pushes is what has been rendered into its buffer.
-/
theorem Drawing.refreshAreas_pushed {s : DisplayState Px h w} {g : History Px h w}
    (hs : Drawing s g) (r : RenderedArea Px h w) (rs : List (RenderedArea Px h w))
    {g' : History Px h w} (hg' : g' = g.draw s.inst.drawBuffer (r :: rs))
    {frame : Frame Px h w} (hframe : frame = g'.into s.inst.drawBuffer)
    : (s.refreshAreas true (r :: rs)).2 = some frame
        ∧ (s.refreshAreas true (r :: rs)).1.screen = g'.all
        ∧ (frame = g'.all → Lagging (s.refreshAreas true (r :: rs)).1 ⟨frame, []⟩) := by
  induction rs generalizing s g r with
  | nil =>
    unfold DisplayState.refreshAreas
    obtain ⟨hlag, hdraw, hpixels⟩ := (hs.renderMarked r).writtenBack
    rw [renderMarked_drawBuffer, ← hg'] at hpixels
    rw [← hg'] at hlag
    rw [flush_last, present_eq, renderMarked_drawBuffer, hframe]
    refine ⟨?_, hlag.screen, hlag.push hpixels⟩
    rw [hlag.coherent, hpixels]
  | cons r' rs ih =>
    unfold DisplayState.refreshAreas
    have hrest := ih (hs.renderMarked r) r'
    rw [renderMarked_drawBuffer, ← g.draw_cons] at hrest
    exact hrest hg' hframe

theorem History.draw_nil (g : History Px h w) (i : Fin 3) : g.draw i [] = g := by
  simp [History.draw]

theorem RecordedState.step_aborted {s : RecordedState Px h w} (hs : Lagging s.display s.history)
    {r : Refresh Px h w} (hr : r.waitIdle = false ∨ r.areas = [])
    : (recordedMachine.step s r).2 = none
        ∧ Lagging (recordedMachine.step s r).1.display (recordedMachine.step s r).1.history := by
  have hrefresh : (s.display.refresh r).2 = none
      ∧ Lagging (s.display.refresh r).1
          (s.history.draw (s.display.inst.nextBuffer r.released) r.areas) := by
    unfold DisplayState.refresh
    cases hareas : r.areas with
    | nil =>
      rw [History.draw_nil]
      exact ⟨rfl, hs.refreshNothing r.released r.writtenBack⟩
    | cons a as =>
      have hwait : r.waitIdle = false := by simpa [hareas] using hr
      rw [hwait]
      exact ((hs.prepareDrawBuffer r.released r.writtenBack rfl).1.refreshAreas_aborted a as).symm
  unfold recordedMachine
  dsimp only
  rw [hrefresh.1]
  exact ⟨rfl, hrefresh.2⟩

theorem RecordedState.step_pushed {s : RecordedState Px h w} (hs : Lagging s.display s.history)
    {r : Refresh Px h w} (hwait : r.waitIdle = true) (hareas : r.areas ≠ [])
    {next : Fin 3} (hnext : next = s.display.inst.nextBuffer r.released)
    : (recordedMachine.step s r).2 = some (drawAll r.areas (s.history.into next))
        ∧ (recordedMachine.step s r).1.display.screen = drawAll r.areas s.history.all
        ∧ (drawAll r.areas (s.history.into next) = drawAll r.areas s.history.all →
            Lagging (recordedMachine.step s r).1.display (recordedMachine.step s r).1.history) := by
  have hrefresh : (s.display.refresh r).2 = some (drawAll r.areas (s.history.into next))
      ∧ (s.display.refresh r).1.screen = drawAll r.areas s.history.all
      ∧ (drawAll r.areas (s.history.into next) = drawAll r.areas s.history.all →
          Lagging (s.display.refresh r).1 ⟨drawAll r.areas (s.history.into next), []⟩) := by
    obtain ⟨a, as, hcons⟩ := List.exists_cons_of_ne_nil hareas
    have hdrawing := (hs.prepareDrawBuffer r.released r.writtenBack rfl).1
    rw [← History.into_draw_self, ← s.history.all_draw next r.areas, hnext]
    unfold DisplayState.refresh
    dsimp only
    rw [hwait, hcons]
    exact hdrawing.refreshAreas_pushed a as rfl rfl
  unfold recordedMachine
  dsimp only
  rw [hrefresh.1]
  exact ⟨rfl, hrefresh.2⟩

theorem drawAll_eq_iff_not_regionLost {s : RecordedState Px h w} {r : Refresh Px h w}
    (hwait : r.waitIdle = true) (hareas : r.areas ≠ [])
    : drawAll r.areas (s.history.into (s.display.inst.nextBuffer r.released))
          = drawAll r.areas s.history.all
        ↔ ¬RegionLost (recordedMachine.visit s r) := by
  rw [drawAll_eq_iff]
  unfold RegionLost
  simp [hwait, hareas]

/--
Every pushed frame has all that has been rendered exactly if no refresh of the run pushes a buffer that
lacks what an aborted refresh has rendered into another one.
-/
theorem nothingLost_iff (cached : Bool) (blank : Px) (rs : List (Refresh Px h w))
    : (∀ v ∈ recordedMachine.visits (RecordedState.init cached blank) rs, NothingLost v)
        ↔ (∀ v ∈ recordedMachine.visits (RecordedState.init cached blank) rs, ¬RegionLost v) := by
  apply Machine.forall_visits_iff (fun s => Lagging s.display s.history)
  . intro s r hs hlost
    by_cases hr : r.waitIdle = false ∨ r.areas = []
    . exact (RecordedState.step_aborted hs hr).2
    . simp only [not_or, Bool.not_eq_false] at hr
      rw [← drawAll_eq_iff_not_regionLost hr.1 hr.2] at hlost
      exact (RecordedState.step_pushed hs hr.1 hr.2 rfl).2.2 hlost
  . intro s r hs
    unfold NothingLost
    simp only [Machine.visit_obs, Machine.visit_post]
    by_cases hr : r.waitIdle = false ∨ r.areas = []
    . rw [(RecordedState.step_aborted hs hr).1]
      have hnot : ¬RegionLost (recordedMachine.visit s r) := by
        rintro ⟨hwait, hareas, _⟩
        cases hr with
        | inl hr => exact Bool.false_ne_true (hr.symm.trans hwait)
        | inr hr => exact hareas hr
      simp [hnot]
    . simp only [not_or, Bool.not_eq_false] at hr
      obtain ⟨hpushed, hscreen, _⟩ := RecordedState.step_pushed hs hr.1 hr.2 rfl
      rw [← drawAll_eq_iff_not_regionLost hr.1 hr.2, hpushed, hscreen]
      simp
  . exact Lagging.init cached blank

/-
Two frames are pushed. While VO still shows the first one, a refresh into the third buffer is aborted, and by
the next refresh the first buffer is free.
-/
def abortedRefresh : List (Refresh Nat 2 1) :=
  [
    ⟨fun _ => true, fun _ => false, [⟨⟨0, 0, 0, 1⟩, fun _ => 1, fun _ => false⟩], true⟩,
    ⟨fun _ => true, fun _ => false, [⟨⟨0, 1, 0, 1⟩, fun _ => 2, fun _ => false⟩], true⟩,
    ⟨fun i => i.val == 2, fun _ => false, [⟨⟨0, 0, 0, 0⟩, fun _ => 3, fun _ => false⟩], false⟩
  ]

def refreshAfterAbort : Refresh Nat 2 1 :=
  ⟨fun _ => true, fun _ => false, [⟨⟨0, 1, 0, 1⟩, fun _ => 4, fun _ => false⟩], true⟩

theorem abortedRefresh_lost
    : ¬∀ v ∈ recordedMachine.visits (RecordedState.init true 0) (abortedRefresh ++ [refreshAfterAbort]),
        NothingLost v := by
  intro h
  have hlost := h _ (recordedMachine.visit_final_mem (RecordedState.init true 0) abortedRefresh
    refreshAfterAbort)
  have hframe := hlost _ rfl
  exact absurd (congrFun hframe (0, 0)) (by decide)

end Lvgl

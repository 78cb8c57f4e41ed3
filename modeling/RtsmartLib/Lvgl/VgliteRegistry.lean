import RtsmartLib.Lvgl.Vglite
import Mathlib.Data.Multiset.Bind

/-!
This module contains the proof that the registry lists every live buffer once, finds the buffer that a range
lies in, and gives back whatever it has taken from the system.
-/

namespace Lvgl

open Lib

/-
A buffer, whatever has been mapped of it.
-/
structure LiveBuffer where
  virt : Nat
  phys : Nat
  size : Nat
  cached : Bool
  owned : Bool
  deriving DecidableEq, Repr

def LiveBuffer.extent (b : LiveBuffer) : Extent := ⟨b.virt, b.size⟩

def LvK230VgliteBufferNode.buffer (node : LvK230VgliteBufferNode) : LiveBuffer :=
  ⟨node.virt, node.phys, node.size, node.cached, node.owned⟩

def LvK230VgliteBufferNode.extent (node : LvK230VgliteBufferNode) : Extent := node.buffer.extent

def VgliteOp.Fails (op : VgliteOp) : Prop :=
  match op with
  | .register _ _ _ _ calloc => calloc = none
  | .malloc _ mmzAlloc calloc => mmzAlloc = none ∨ calloc = none
  | _ => False

def OwnedAt (live : Multiset LiveBuffer) (virt : Nat) : Prop :=
  ∃ b ∈ live, b.virt = virt ∧ b.owned = true

instance (live : Multiset LiveBuffer) (virt : Nat) : Decidable (OwnedAt live virt) :=
  Multiset.decidableExistsMultiset

/--
The buffers that are registered or allocated after a call. A buffer that is registered takes the place of the
one that was registered at its address; the address of a draw buffer is left to the draw buffer.
-/
def liveAfter (live : Multiset LiveBuffer) (op : VgliteOp) : Multiset LiveBuffer :=
  match op with
  | .register virt phys size cached (some _) =>
    if virt = 0 ∨ size = 0 ∨ OwnedAt live virt then
      live
    else
      ⟨virt, phys, size, cached, false⟩ ::ₘ live.filter fun b => b.virt ≠ virt
  | .malloc size (some (phys, virt)) (some _) =>
    if size = 0 ∨ drawBufAllocationSize size > uint32Max then
      live
    else
      ⟨virt, phys, drawBufAllocationSize size, true, true⟩ ::ₘ live
  | .unregister virt =>
    if virt = 0 then live else live.filter fun b => ¬(b.virt = virt ∧ b.owned = false)
  | .free buf => if buf = 0 then live else live.filter fun b => ¬(b.virt = buf ∧ b.owned = true)
  | .register _ _ _ _ none | .malloc .. | .map .. => live

def liveAfterAll (live : Multiset LiveBuffer) (ops : List VgliteOp) : Multiset LiveBuffer :=
  ops.foldl liveAfter live

def LiveApart (live : Multiset LiveBuffer) : Prop :=
  live.Pairwise fun a b => a.extent.Apart b.extent

/--
At any time the live buffers lie apart from each other.
-/
def DisjointRun (live : Multiset LiveBuffer) (ops : List VgliteOp) : Prop :=
  match ops with
  | [] => True
  | op :: ops => LiveApart (liveAfter live op) ∧ DisjointRun (liveAfter live op) ops

def liveOf (nodes : List LvK230VgliteBufferNode) : Multiset LiveBuffer :=
  (nodes.map (·.buffer) : Multiset LiveBuffer)

/-
What a node holds: its map, the memory of its buffer if it is the owner, and its own memory.
-/
def nodeResources (node : LvK230VgliteBufferNode) : List VgliteResource :=
  node.vgHandle.toList.map .mapping
    ++ (if node.owned then [.mmz node.phys node.virt] else [])
    ++ [.node node.addr]

def heldBy (nodes : List LvK230VgliteBufferNode) : Multiset VgliteResource :=
  (nodes : Multiset LvK230VgliteBufferNode).bind fun node => (nodeResources node : Multiset VgliteResource)

theorem rangeInNode_eq_some {node : LvK230VgliteBufferNode} {ptr size offset : Nat}
    : rangeInNode node ptr size = some offset
        ↔ node.extent.Covers ptr size ∧ node.virt + offset = ptr := by
  simp only [rangeInNode, Extent.Covers, LvK230VgliteBufferNode.extent, LiveBuffer.extent,
    LvK230VgliteBufferNode.buffer]
  split
  . simp
    omega
  . split
    . simp
      omega
    . simp
      omega

theorem rangeInNode_eq_none {node : LvK230VgliteBufferNode} {ptr size : Nat}
    : rangeInNode node ptr size = none ↔ ¬node.extent.Covers ptr size := by
  constructor
  . intro hnone hcovers
    have hsome : rangeInNode node ptr size = some (ptr - node.virt) := by
      apply rangeInNode_eq_some.mpr
      refine ⟨hcovers, ?_⟩
      have hle : node.virt ≤ ptr := hcovers.1
      omega
    rw [hsome] at hnone
    cases hnone
  . intro hcovers
    cases hrange : rangeInNode node ptr size with
    | none => rfl
    | some offset => exact absurd (rangeInNode_eq_some.mp hrange).1 hcovers

section

variable {nodes : List LvK230VgliteBufferNode}

theorem liveApart_coe (l : List LiveBuffer)
    : LiveApart (l : Multiset LiveBuffer) ↔ ApartTable LiveBuffer.extent l := by
  have : Std.Symm fun a b : LiveBuffer => a.extent.Apart b.extent := ⟨fun _ _ hab => hab.symm⟩
  apply Multiset.pairwise_coe_iff_pairwise

theorem apartTable_of_live (h : LiveApart (liveOf nodes))
    : ApartTable LvK230VgliteBufferNode.extent nodes := by
  have hmap := (liveApart_coe _).mp h
  unfold ApartTable at hmap
  rw [List.pairwise_map] at hmap
  exact hmap

theorem findNodeLocked_mem {ptr size offset : Nat} {node : LvK230VgliteBufferNode}
    (h : findNodeLocked nodes ptr size = some (node, offset))
    : node ∈ nodes ∧ node.extent.Covers ptr size ∧ node.virt + offset = ptr := by
  induction nodes with
  | nil => simp [findNodeLocked] at h
  | cons first next ih =>
    simp only [findNodeLocked] at h
    split at h
    . next offset' hrange =>
      simp only [Option.some.injEq, Prod.mk.injEq] at h
      obtain ⟨rfl, rfl⟩ := h
      exact ⟨List.mem_cons_self, rangeInNode_eq_some.mp hrange⟩
    . next hrange =>
      have ⟨hmem, hcovers⟩ := ih h
      exact ⟨List.mem_cons_of_mem _ hmem, hcovers⟩

theorem findNodeLocked_eq_none {ptr size : Nat}
    : findNodeLocked nodes ptr size = none ↔ ∀ node ∈ nodes, ¬node.extent.Covers ptr size := by
  induction nodes with
  | nil => simp [findNodeLocked]
  | cons first next ih =>
    simp only [findNodeLocked, List.forall_mem_cons]
    rw [← rangeInNode_eq_none, ← ih]
    cases rangeInNode first ptr size with
    | some offset => simp
    | none => simp

theorem findNodeLocked_eq_some (h : ApartTable LvK230VgliteBufferNode.extent nodes)
    {ptr size offset : Nat} {node : LvK230VgliteBufferNode}
    : findNodeLocked nodes ptr size = some (node, offset)
        ↔ node ∈ nodes ∧ node.extent.Covers ptr size ∧ node.virt + offset = ptr := by
  constructor
  . exact findNodeLocked_mem
  . intro ⟨hmem, hcovers, hoffset⟩
    cases hfind : findNodeLocked nodes ptr size with
    | none => exact absurd hcovers (findNodeLocked_eq_none.mp hfind node hmem)
    | some found =>
      obtain ⟨node', offset'⟩ := found
      have ⟨hmem', hcovers', hoffset'⟩ := findNodeLocked_mem hfind
      -- no two buffers of the table cover one range
      have heq : node' = node := h.eq_of_covers hmem' hmem hcovers' hcovers
      subst heq
      have hoff : offset' = offset := by omega
      rw [hoff]

theorem liveOf_others {p : LvK230VgliteBufferNode → Bool} (q : LiveBuffer → Prop) [DecidablePred q]
    {virt : Nat} (h : ApartTable LvK230VgliteBufferNode.extent nodes)
    (hpq : ∀ node, p node = true ↔ q node.buffer) (hstart : ∀ b, q b → b.virt = virt)
    {before after : List LvK230VgliteBufferNode} {node : LvK230VgliteBufferNode}
    (hsplit : splitFirst p nodes = some (before, node, after))
    : liveOf (before ++ after) = (liveOf nodes).filter fun b => ¬q b := by
  have hothers : before ++ after = nodes.filter fun b => !p b := by
    apply h.splitFirst_others (v := virt) ?_ hsplit
    intro a ha
    exact hstart _ ((hpq a).mp ha)
  simp only [liveOf, Multiset.filter_coe, List.filter_map, hothers]
  congr 2
  apply List.filter_congr
  intro b _
  by_cases hq : q b.buffer
  . simp [hq, (hpq b).mpr hq]
  . have hp : p b = false := by
      rw [← Bool.not_eq_true, hpq]
      exact hq
    simp [hq, hp]

theorem liveOf_none {p : LvK230VgliteBufferNode → Bool} (q : LiveBuffer → Prop) [DecidablePred q]
    (hpq : ∀ node, p node = true ↔ q node.buffer) (hsplit : splitFirst p nodes = none)
    : (liveOf nodes).filter (fun b => ¬q b) = liveOf nodes := by
  have hnone := splitFirst_eq_none.mp hsplit
  apply Multiset.filter_eq_self.mpr
  intro b hb
  simp only [liveOf, Multiset.mem_coe, List.mem_map] at hb
  obtain ⟨node, hmem, rfl⟩ := hb
  rw [← hpq, hnone node hmem]
  simp

theorem liveOf_middle (before after : List LvK230VgliteBufferNode) (node : LvK230VgliteBufferNode)
    : liveOf (before ++ node :: after) = node.buffer ::ₘ liveOf (before ++ after) := by
  simp [liveOf]

theorem heldBy_middle (before after : List LvK230VgliteBufferNode) (node : LvK230VgliteBufferNode)
    : heldBy (before ++ node :: after)
        = (nodeResources node : Multiset VgliteResource) + heldBy (before ++ after) := by
  have hperm : (before ++ node :: after : Multiset LvK230VgliteBufferNode)
      = node ::ₘ (before ++ after : List LvK230VgliteBufferNode) :=
    Multiset.coe_eq_coe.mpr List.perm_middle
  unfold heldBy
  rw [hperm]
  apply Multiset.cons_bind

theorem heldBy_cons (node : LvK230VgliteBufferNode) (nodes : List LvK230VgliteBufferNode)
    : heldBy (node :: nodes) = (nodeResources node : Multiset VgliteResource) + heldBy nodes :=
  heldBy_middle [] nodes node

/-
What is released with a node is what it holds.
-/
theorem settle_releaseNode (node : LvK230VgliteBufferNode) (rest : Multiset VgliteResource)
    : Ledger.settle ((nodeResources node : Multiset VgliteResource) + rest) (releaseNode node)
        = some rest := by
  have hrelease : releaseNode node = (nodeResources node).map .release := by
    unfold nodeResources releaseNode unmapNode
    cases node.vgHandle with
    | none => cases node.owned <;> rfl
    | some handle => cases node.owned <;> rfl
  rw [hrelease]
  apply Ledger.settle_release_all

end

/-
What a call leaves listed, with nothing held but what is listed holds.
-/
structure Leaves (s : VgliteState) (out : VgliteOutcome) (live : Multiset LiveBuffer) : Prop where
  live : liveOf out.state.sBuffers = live
  held : Ledger.settle (heldBy s.sBuffers) out.transfers = some (heldBy out.state.sBuffers)

theorem Leaves.same {s : VgliteState} {out : VgliteOutcome}
    (hbuffers : out.state.sBuffers = s.sBuffers) (htransfers : out.transfers = [])
    : Leaves s out (liveOf s.sBuffers) := by
  constructor
  . rw [hbuffers]
  . rw [hbuffers, htransfers]
    rfl

section

variable {s : VgliteState}

/-
A buffer is taken off the list. Both functions that do so look for it in the same way.
-/
theorem leaves_removed (h : LiveApart (liveOf s.sBuffers)) {p : LvK230VgliteBufferNode → Bool}
    (q : LiveBuffer → Prop) [DecidablePred q] {virt : Nat}
    (hpq : ∀ node, p node = true ↔ q node.buffer) (hstart : ∀ b, q b → b.virt = virt)
    {before after : List LvK230VgliteBufferNode} {node : LvK230VgliteBufferNode}
    (hsplit : splitFirst p s.sBuffers = some (before, node, after)) {out : VgliteOutcome}
    (hbuffers : out.state.sBuffers = before ++ after) (htransfers : out.transfers = releaseNode node)
    : Leaves s out ((liveOf s.sBuffers).filter fun b => ¬q b) := by
  constructor
  . rw [hbuffers]
    exact liveOf_others q (apartTable_of_live h) hpq hstart hsplit
  . rw [hbuffers, htransfers, (splitFirst_eq_some hsplit).1, heldBy_middle]
    apply settle_releaseNode

theorem lvK230VgliteUnregisterBuffer_leaves (h : LiveApart (liveOf s.sBuffers)) (virt : Nat)
    : Leaves s (lvK230VgliteUnregisterBuffer virt s) (liveAfter (liveOf s.sBuffers) (.unregister virt)) := by
  simp only [lvK230VgliteUnregisterBuffer, liveAfter]
  by_cases hvirt : virt = 0
  . rw [if_pos hvirt, if_pos hvirt]
    exact .same rfl rfl
  . rw [if_neg hvirt, if_neg hvirt]
    have hpq : ∀ node : LvK230VgliteBufferNode, (decide (node.virt = virt) && !node.owned) = true
        ↔ node.buffer.virt = virt ∧ node.buffer.owned = false := by
      intro node
      simp [LvK230VgliteBufferNode.buffer]
    cases hsplit : splitFirst (fun node => node.virt = virt && !node.owned) s.sBuffers with
    | none =>
      rw [liveOf_none (fun b => b.virt = virt ∧ b.owned = false) hpq hsplit]
      exact .same rfl rfl
    | some split =>
      obtain ⟨before, node, after⟩ := split
      exact leaves_removed h (fun b => b.virt = virt ∧ b.owned = false) hpq (fun b hb => hb.1) hsplit
        rfl rfl

theorem drawBufFree_leaves (h : LiveApart (liveOf s.sBuffers)) (buf : Nat)
    : Leaves s (drawBufFree buf s) (liveAfter (liveOf s.sBuffers) (.free buf)) := by
  simp only [drawBufFree, liveAfter]
  by_cases hbuf : buf = 0
  . rw [if_pos hbuf, if_pos hbuf]
    exact .same rfl rfl
  . rw [if_neg hbuf, if_neg hbuf]
    have hpq : ∀ node : LvK230VgliteBufferNode, (decide (node.virt = buf) && node.owned) = true
        ↔ node.buffer.virt = buf ∧ node.buffer.owned = true := by
      intro node
      simp [LvK230VgliteBufferNode.buffer]
    cases hsplit : splitFirst (fun node => node.virt = buf && node.owned) s.sBuffers with
    | none =>
      rw [liveOf_none (fun b => b.virt = buf ∧ b.owned = true) hpq hsplit]
      exact .same rfl rfl
    | some split =>
      obtain ⟨before, node, after⟩ := split
      exact leaves_removed h (fun b => b.virt = buf ∧ b.owned = true) hpq (fun b hb => hb.1) hsplit
        rfl rfl

theorem drawBufMalloc_leaves (size : Nat) (mmzAlloc : Option (Nat × Nat)) (calloc : Option Nat)
    : Leaves s (drawBufMalloc size mmzAlloc calloc s)
        (liveAfter (liveOf s.sBuffers) (.malloc size mmzAlloc calloc)) := by
  unfold drawBufMalloc
  cases mmzAlloc with
  | none =>
    split
    . exact .same rfl rfl
    . split
      . exact .same rfl rfl
      . exact .same rfl rfl
  | some mmz =>
    obtain ⟨phys, virt⟩ := mmz
    cases calloc with
    | none =>
      split
      . exact .same rfl rfl
      . split
        . exact .same rfl rfl
        . constructor
          . rfl
          . simp
    | some addr =>
      simp only [liveAfter]
      by_cases hsize : size = 0
      . rw [if_pos hsize, if_pos (.inl hsize)]
        exact .same rfl rfl
      . rw [if_neg hsize]
        by_cases hmax : drawBufAllocationSize size > uint32Max
        . rw [if_pos hmax, if_pos (.inr hmax)]
          exact .same rfl rfl
        . rw [if_neg hmax, if_neg (by simp [hsize, hmax])]
          constructor
          . rfl
          . simp only [Ledger.settle_acquire_cons, Ledger.settle_nil, heldBy_cons]
            rw [Multiset.cons_swap]
            simp only [nodeResources, if_true, Option.toList_none, List.map_nil, List.nil_append,
              List.cons_append]
            simp only [← Multiset.cons_coe, Multiset.coe_nil, Multiset.cons_add, zero_add]

theorem ownedAt_iff (h : LiveApart (liveOf s.sBuffers)) {node : LvK230VgliteBufferNode}
    (hnode : node ∈ s.sBuffers)
    : OwnedAt (liveOf s.sBuffers) node.virt ↔ node.owned = true := by
  constructor
  . intro ⟨b, hb, hvirt, howned⟩
    simp only [liveOf, Multiset.mem_coe, List.mem_map] at hb
    obtain ⟨node', hnode', rfl⟩ := hb
    have heq : node' = node := (apartTable_of_live h).eq_of_start hnode' hnode hvirt
    rw [← heq]
    exact howned
  . intro howned
    refine ⟨node.buffer, ?_, rfl, howned⟩
    simp only [liveOf, Multiset.mem_coe]
    exact List.mem_map_of_mem hnode

theorem not_ownedAt {virt : Nat} (h : ∀ node ∈ s.sBuffers, decide (node.virt = virt) = false)
    : ¬OwnedAt (liveOf s.sBuffers) virt := by
  intro ⟨b, hb, hvirt, _⟩
  simp only [liveOf, Multiset.mem_coe, List.mem_map] at hb
  obtain ⟨node, hnode, rfl⟩ := hb
  exact (of_decide_eq_false (h node hnode)) hvirt

theorem lvK230VgliteRegisterBuffer_leaves (h : LiveApart (liveOf s.sBuffers)) (virt phys size : Nat)
    (cached : Bool) (calloc : Option Nat)
    : Leaves s (lvK230VgliteRegisterBuffer virt phys size cached calloc s)
        (liveAfter (liveOf s.sBuffers) (.register virt phys size cached calloc)) := by
  cases calloc with
  | none =>
    simp only [lvK230VgliteRegisterBuffer, liveAfter, ite_self]
    exact .same rfl rfl
  | some addr =>
    simp only [lvK230VgliteRegisterBuffer, liveAfter]
    by_cases hnull : virt = 0 ∨ size = 0
    . rw [if_pos hnull, if_pos (by rw [← or_assoc]; exact .inl hnull)]
      exact .same rfl rfl
    . rw [if_neg hnull]
      have hpq : ∀ node : LvK230VgliteBufferNode, decide (node.virt = virt) = true
          ↔ node.buffer.virt = virt := by
        intro node
        simp [LvK230VgliteBufferNode.buffer]
      cases hsplit : splitFirst (fun node => node.virt = virt) s.sBuffers with
      | none =>
        have hfree := not_ownedAt (splitFirst_eq_none.mp hsplit)
        rw [if_neg (by rw [← or_assoc, not_or]; exact ⟨hnull, hfree⟩)]
        rw [liveOf_none (fun b => b.virt = virt) hpq hsplit]
        constructor
        . rfl
        . simp [heldBy_cons, nodeResources]
      | some split =>
        obtain ⟨before, old, after⟩ := split
        have ⟨hnodes, hvirt, _⟩ := splitFirst_eq_some hsplit
        have hothers := liveOf_others (fun b => b.virt = virt) (apartTable_of_live h) hpq
          (fun b hb => hb) hsplit
        have howned : OwnedAt (liveOf s.sBuffers) virt ↔ old.owned = true := by
          rw [← of_decide_eq_true hvirt]
          apply ownedAt_iff h
          rw [hnodes]
          simp
        simp only [howned, ← or_assoc, hnull, false_or]
        by_cases hold : old.owned = true
        . rw [if_pos (.inl hold), if_pos hold]
          constructor
          . rfl
          . simp
        . rw [if_neg hold, ← hothers]
          by_cases hsame : old.phys = phys ∧ old.size = size ∧ old.cached = cached
          . rw [if_pos (.inr hsame)]
            constructor
            . have hbuffer : old.buffer = ⟨virt, phys, size, cached, false⟩ := by
                obtain ⟨rfl, rfl, rfl⟩ := hsame
                simp [LvK230VgliteBufferNode.buffer, of_decide_eq_true hvirt, hold]
              rw [← hbuffer, ← liveOf_middle, ← hnodes]
            . simp
          . rw [if_neg (by simp [hold, hsame])]
            constructor
            . rw [liveOf_middle]
              rfl
            . simp only [Ledger.settle_acquire_cons, hnodes, heldBy_middle]
              rw [← Multiset.add_cons, settle_releaseNode]
              simp [nodeResources]

theorem mapNodeLocked_held (sGpuInited : Bool) (vgLiteMap : Option (Nat × Nat))
    (node : LvK230VgliteBufferNode) (rest : Multiset VgliteResource)
    : Ledger.settle ((nodeResources node : Multiset VgliteResource) + rest)
        (mapNodeLocked sGpuInited vgLiteMap node).2.2
        = some
            ((nodeResources (mapNodeLocked sGpuInited vgLiteMap node).2.1 : Multiset VgliteResource) + rest)
    := by
  unfold mapNodeLocked
  split
  . rfl
  . next hhandle =>
    split
    . rfl
    . cases vgLiteMap with
      | none => rfl
      | some mapping =>
        have hnone : node.vgHandle = none := by simpa using hhandle
        simp only [Ledger.settle_acquire_cons, Ledger.settle_nil, nodeResources, hnone]
        simp only [Option.toList_none, Option.toList_some, List.map_nil, List.map_cons, List.nil_append,
          List.cons_append, ← Multiset.cons_coe, Multiset.cons_add]

theorem mapNodeLocked_buffer (sGpuInited : Bool) (vgLiteMap : Option (Nat × Nat))
    (node : LvK230VgliteBufferNode)
    : (mapNodeLocked sGpuInited vgLiteMap node).2.1.buffer = node.buffer := by
  unfold mapNodeLocked
  split
  . rfl
  . split
    . rfl
    . cases vgLiteMap with
      | none => rfl
      | some mapping => rfl

theorem mapBufferPlane_leaves (memory size : Nat) (vgLiteMap : Option (Nat × Nat))
    : Leaves s (mapBufferPlane memory size vgLiteMap s) (liveOf s.sBuffers) := by
  unfold mapBufferPlane
  split
  . exact .same rfl rfl
  . split
    . exact .same rfl rfl
    . next before node after hsplit =>
      have ⟨hnodes, _, _⟩ := splitFirst_eq_some hsplit
      constructor
      . simp only [hnodes, liveOf_middle, mapNodeLocked_buffer]
      . simp only [hnodes, heldBy_middle, mapNodeLocked_held]

theorem perform_leaves (h : LiveApart (liveOf s.sBuffers)) (op : VgliteOp)
    : Leaves s (op.perform s) (liveAfter (liveOf s.sBuffers) op) := by
  cases op with
  | register virt phys size cached calloc =>
    exact lvK230VgliteRegisterBuffer_leaves h virt phys size cached calloc
  | unregister virt => exact lvK230VgliteUnregisterBuffer_leaves h virt
  | malloc size mmzAlloc calloc => exact drawBufMalloc_leaves size mmzAlloc calloc
  | free buf => exact drawBufFree_leaves h buf
  | map memory size vgLiteMap => exact mapBufferPlane_leaves memory size vgLiteMap

/-
A call in which an allocation fails gives back what it has acquired before.
-/
theorem perform_fails {op : VgliteOp} (h : op.Fails)
    : (op.perform s).state.sBuffers = s.sBuffers
        ∧ Ledger.settle 0 (op.perform s).transfers = some 0 := by
  cases op with
  | register virt phys size cached calloc =>
    have hcalloc : calloc = none := h
    simp [VgliteOp.perform, lvK230VgliteRegisterBuffer, hcalloc]
  | malloc size mmzAlloc calloc =>
    simp only [VgliteOp.perform, drawBufMalloc]
    split
    . simp
    . split
      . simp
      . cases mmzAlloc with
        | none => simp
        | some mmz =>
          have hcalloc : calloc = none := by simpa [VgliteOp.Fails] using h
          rw [hcalloc]
          simp only [Ledger.settle_acquire_cons, Ledger.settle_release_cons, Ledger.settle_nil, and_self]
  | unregister virt => exact h.elim
  | free buf => exact h.elim
  | map memory size vgLiteMap => exact h.elim

def transfersOf (s : VgliteState) (ops : List VgliteOp) : List (Transfer VgliteResource) :=
  (vgliteMachine.observations s ops).flatMap (·.2)

theorem run_leaves (h : LiveApart (liveOf s.sBuffers)) {ops : List VgliteOp}
    (hdisjoint : DisjointRun (liveOf s.sBuffers) ops)
    : LiveApart (liveOf (vgliteMachine.final s ops).sBuffers)
        ∧ liveOf (vgliteMachine.final s ops).sBuffers = liveAfterAll (liveOf s.sBuffers) ops
        ∧ Ledger.settle (heldBy s.sBuffers) (transfersOf s ops)
            = some (heldBy (vgliteMachine.final s ops).sBuffers) := by
  induction ops generalizing s with
  | nil => exact ⟨h, rfl, rfl⟩
  | cons op ops ih =>
    obtain ⟨hlive, hheld⟩ := perform_leaves h op
    obtain ⟨hnext, hrest⟩ := hdisjoint
    rw [← hlive] at hnext hrest
    have ⟨hapart, hfinal, hsettle⟩ := ih hnext hrest
    refine ⟨hapart, ?_, ?_⟩
    . rw [hlive] at hfinal
      exact hfinal
    . have htransfers : transfersOf s (op :: ops)
          = (op.perform s).transfers ++ transfersOf (op.perform s).state ops := rfl
      rw [htransfers, Ledger.settle_seq hheld]
      exact hsettle

end

theorem heldBy_count_mmz (nodes : List LvK230VgliteBufferNode) (phys virt : Nat)
    : (heldBy nodes).count (.mmz phys virt)
        = (liveOf nodes).countP fun b => b.owned = true ∧ b.phys = phys ∧ b.virt = virt := by
  induction nodes with
  | nil => rfl
  | cons node nodes ih =>
    rw [heldBy_cons, Multiset.count_add, ih]
    have hcons : liveOf (node :: nodes) = node.buffer ::ₘ liveOf nodes := rfl
    rw [hcons, Multiset.countP_cons, Nat.add_comm]
    congr 1
    simp only [nodeResources, LvK230VgliteBufferNode.buffer, Multiset.coe_count, List.count_append]
    by_cases howned : node.owned = true
    . cases node.vgHandle <;> simp [howned, List.count_cons]
    . cases node.vgHandle <;> simp [howned]

/--
The registry lists each live buffer once, and a look-up finds the only one that a range lies in.
-/
structure Registered (s : VgliteState) (live : Multiset LiveBuffer) : Prop where
  listed : liveOf s.sBuffers = live
  once : live.Nodup
  unique : ∀ ptr size, ∀ b ∈ live, ∀ c ∈ live,
    b.extent.Covers ptr size → c.extent.Covers ptr size → b = c
  found : ∀ ptr size node offset, findNodeLocked s.sBuffers ptr size = some (node, offset)
    ↔ node ∈ s.sBuffers ∧ node.extent.Covers ptr size ∧ node.virt + offset = ptr
  missed : ∀ ptr size, findNodeLocked s.sBuffers ptr size = none
    ↔ ∀ b ∈ live, ¬b.extent.Covers ptr size

theorem registered_of_apart {s : VgliteState} (h : LiveApart (liveOf s.sBuffers))
    : Registered s (liveOf s.sBuffers) := by
  have htable : ApartTable LiveBuffer.extent (s.sBuffers.map (·.buffer)) := (liveApart_coe _).mp h
  constructor
  . rfl
  . exact Multiset.coe_nodup.mpr htable.nodup
  . intro ptr size b hb c hc
    exact htable.eq_of_covers hb hc
  . intro ptr size node offset
    exact findNodeLocked_eq_some (apartTable_of_live h)
  . intro ptr size
    rw [findNodeLocked_eq_none]
    simp only [liveOf, Multiset.mem_coe, List.forall_mem_map]
    rfl

/--
After any calls, of which any may fail, that keep the live buffers apart from each other: the registry lists
them, nothing has been given back that was not held, and the memory of each draw buffer has been given back
once unless the draw buffer is live.
-/
theorem vgliteMachine_registered {ops : List VgliteOp} (hdisjoint : DisjointRun 0 ops)
    : Registered (vgliteMachine.final .init ops) (liveAfterAll 0 ops)
        ∧ Ledger.settle 0 (transfersOf .init ops)
            = some (heldBy (vgliteMachine.final .init ops).sBuffers)
        ∧ (∀ phys virt, (transfersOf .init ops).count (.acquire (.mmz phys virt))
            = (transfersOf .init ops).count (.release (.mmz phys virt))
              + (liveAfterAll 0 ops).countP fun b => b.owned = true ∧ b.phys = phys ∧ b.virt = virt)
        ∧ ∀ v ∈ vgliteMachine.visits .init ops, v.event.Fails →
            v.post.sBuffers = v.pre.sBuffers ∧ Ledger.settle 0 v.obs.2 = some 0 := by
  have hzero : LiveApart (liveOf VgliteState.init.sBuffers) := Multiset.pairwise_zero _
  have ⟨hapart, hlive, hsettle⟩ := run_leaves hzero hdisjoint
  have hlive' : liveOf (vgliteMachine.final .init ops).sBuffers = liveAfterAll 0 ops := hlive
  refine ⟨?_, hsettle, ?_, ?_⟩
  . rw [← hlive']
    exact registered_of_apart hapart
  . intro phys virt
    have hcount := Ledger.settle_count hsettle (.mmz phys virt)
    have hnone : (heldBy VgliteState.init.sBuffers).count (.mmz phys virt) = 0 := rfl
    rw [hnone, heldBy_count_mmz (vgliteMachine.final .init ops).sBuffers, hlive'] at hcount
    omega
  . intro v hv hfails
    rw [Machine.eq_visit_of_mem hv]
    exact perform_fails hfails

/-
A display buffer is registered, a draw buffer allocated, and the display buffer replaced by a smaller one
after an allocation has failed. Then the draw buffer is freed.
-/
theorem vgliteMachine_registered_replace
    : Registered (vgliteMachine.final .init [.register 4096 65536 4096 true (some 1),
          .malloc 100 (some (131072, 16384)) (some 2), .malloc 100 (some (262144, 32768)) none,
          .register 4096 65536 2048 true (some 3), .free 16384])
        (liveAfterAll 0 [.register 4096 65536 4096 true (some 1),
          .malloc 100 (some (131072, 16384)) (some 2), .malloc 100 (some (262144, 32768)) none,
          .register 4096 65536 2048 true (some 3), .free 16384]) := by
  apply (vgliteMachine_registered ?_).1
  refine ⟨?_, ?_, ?_, ?_, ?_, trivial⟩
  . exact (liveApart_coe [⟨4096, 65536, 4096, true, false⟩]).mpr (by decide)
  . exact (liveApart_coe [⟨16384, 131072, 192, true, true⟩, ⟨4096, 65536, 4096, true, false⟩]).mpr
      (by decide)
  . exact (liveApart_coe [⟨16384, 131072, 192, true, true⟩, ⟨4096, 65536, 4096, true, false⟩]).mpr
      (by decide)
  . exact (liveApart_coe [⟨4096, 65536, 2048, true, false⟩, ⟨16384, 131072, 192, true, true⟩]).mpr
      (by decide)
  . exact (liveApart_coe [⟨4096, 65536, 2048, true, false⟩]).mpr (by decide)

end Lvgl

import RtsmartLib.Lib.Rvv
import Mathlib.Logic.Function.Basic

/-!
This module contains vector instructions over elements of several widths. An operand is a group of
registers, the longer the wider its elements are, and what an instruction writes leaves nothing of the
groups that it overlaps. Strips read the memory that they write.
-/

namespace Lib.RvvGroups

open Rvv (VReg writeElems writeElems_congr writeElems_of_not_mem)

/-
One element of every register group, by width, and of every mask register.
-/
structure Lane where
  e8 : VReg → Byte
  e16 : VReg → BitVec 16
  e32 : VReg → BitVec 32
  bit : VReg → Bool

/-
What a load reads: the memory that the loop writes, or one that it does not.
-/
inductive Space where
  | buffer
  | constant
  deriving DecidableEq, Repr

inductive Op where
  | vlseg8 (nf : Nat) (vd : VReg) (space : Space) (base : Nat)
  | vmvVV8 (vd vs1 : VReg)
  | vmvVX8 (vd : VReg) (rs1 : Byte)
  | vmvVX32 (vd : VReg) (rs1 : BitVec 32)
  | vrsubVX8 (vd vs2 : VReg) (rs1 : Byte)
  | vwmuluVX8 (vd vs2 : VReg) (rs1 : Byte)
  | vwmaccuVV8 (vd vs1 vs2 : VReg)
  | vnsrlWI8 (vd vs2 : VReg) (uimm : Nat)
  | vmseqVI8 (vd vs2 : VReg) (imm : Int)
  | vmsgtuVX8 (vd vs2 : VReg) (rs1 : Byte)
  | vmergeVVM8 (vd vs2 vs1 : VReg)
  | vmergeVXM8 (vd vs2 : VReg) (rs1 : Byte)

section

variable (m : Nat) (l junk : Lane)

/-
`k` registers from `vd` on are written. A group of bytes has `m` registers.
-/
def Lane.clobber (vd k : Nat) : Lane :=
  {
    e8 := fun r => if r < vd + k ∧ vd < r + m then junk.e8 r else l.e8 r
    e16 := fun r => if r < vd + k ∧ vd < r + 2 * m then junk.e16 r else l.e16 r
    e32 := fun r => if r < vd + k ∧ vd < r + 4 * m then junk.e32 r else l.e32 r
    bit := fun r => if r < vd + k ∧ vd < r + 1 then junk.bit r else l.bit r
  }

def Lane.setE8 (vd : VReg) (x : Byte) : Lane :=
  let l := l.clobber m junk vd m
  { l with e8 := Function.update l.e8 vd x }

def Lane.setE16 (vd : VReg) (x : BitVec 16) : Lane :=
  let l := l.clobber m junk vd (2 * m)
  { l with e16 := Function.update l.e16 vd x }

def Lane.setE32 (vd : VReg) (x : BitVec 32) : Lane :=
  let l := l.clobber m junk vd (4 * m)
  { l with e32 := Function.update l.e32 vd x }

def Lane.setBit (vd : VReg) (x : Bool) : Lane :=
  let l := l.clobber m junk vd 1
  { l with bit := Function.update l.bit vd x }

def Lane.setSegments (nf : Nat) (vd : VReg) (x : Nat → Byte) : Lane :=
  let l := l.clobber m junk vd (nf * m)
  {
    l with
    e8 := fun r =>
      if vd ≤ r ∧ r < vd + nf * m ∧ (r - vd) % m = 0 then x ((r - vd) / m) else l.e8 r
  }

end

def Op.lane (m : Nat) (load : Space → Memory) (j : Nat) (junk : Lane) (op : Op) (l : Lane) : Lane :=
  match op with
  | .vlseg8 nf vd space base => l.setSegments m junk nf vd fun k => load space (base + nf * j + k)
  | .vmvVV8 vd vs1 => l.setE8 m junk vd (l.e8 vs1)
  | .vmvVX8 vd rs1 => l.setE8 m junk vd rs1
  | .vmvVX32 vd rs1 => l.setE32 m junk vd rs1
  | .vrsubVX8 vd vs2 rs1 => l.setE8 m junk vd (rs1 - l.e8 vs2)
  | .vwmuluVX8 vd vs2 rs1 => l.setE16 m junk vd ((l.e8 vs2).setWidth 16 * rs1.setWidth 16)
  | .vwmaccuVV8 vd vs1 vs2 =>
    l.setE16 m junk vd (l.e16 vd + (l.e8 vs1).setWidth 16 * (l.e8 vs2).setWidth 16)
  | .vnsrlWI8 vd vs2 uimm => l.setE8 m junk vd ((l.e16 vs2 >>> uimm).setWidth 8)
  | .vmseqVI8 vd vs2 imm => l.setBit m junk vd (l.e8 vs2 == BitVec.ofInt 8 imm)
  | .vmsgtuVX8 vd vs2 rs1 => l.setBit m junk vd (rs1 < l.e8 vs2)
  | .vmergeVVM8 vd vs2 vs1 => l.setE8 m junk vd (if l.bit 0 then l.e8 vs1 else l.e8 vs2)
  | .vmergeVXM8 vd vs2 rs1 => l.setE8 m junk vd (if l.bit 0 then rs1 else l.e8 vs2)

/--
What the hart is free to choose: the vector length of each strip, and what an instruction leaves in the
elements past it and in the groups that its result overlaps.
-/
structure Hart where
  vsetvli : Nat → Nat → Nat
  junk : Op → (Nat → Lane) → Nat → Lane
  vsetvli_pos : ∀ strip avl, 0 < avl → 0 < vsetvli strip avl
  vsetvli_le : ∀ strip avl, vsetvli strip avl ≤ avl

def Op.exec (hart : Hart) (m : Nat) (load : Space → Memory) (vl : Nat) (op : Op) (regs : Nat → Lane)
    : Nat → Lane :=
  fun j =>
    if j < vl then op.lane m load j (hart.junk op regs j) (regs j) else hart.junk op regs j

def execOps (hart : Hart) (m : Nat) (load : Space → Memory) (vl : Nat) (ops : List Op)
    (regs : Nat → Lane) : Nat → Lane :=
  match ops with
  | [] => regs
  | op :: ops => execOps hart m load vl ops (op.exec hart m load vl regs)

inductive Store where
  | vsseg8 (nf : Nat) (vs : VReg)
  | vse32 (vs : VReg)

def Store.size (store : Store) : Nat :=
  match store with
  | .vsseg8 nf _ => nf
  | .vse32 _ => 4

def Store.Aligned (store : Store) (base : Nat) : Prop :=
  match store with
  | .vsseg8 _ _ => True
  | .vse32 _ => base % 4 = 0

instance (store : Store) (base : Nat) : Decidable (store.Aligned base) :=
  match store with
  | .vsseg8 _ _ => inferInstanceAs (Decidable True)
  | .vse32 _ => inferInstanceAs (Decidable (base % 4 = 0))

def Store.bytes (m : Nat) (store : Store) (l : Lane) : List Byte :=
  match store with
  | .vsseg8 nf vs => (List.range nf).map fun k => l.e8 (vs + k * m)
  | .vse32 vs => (List.range 4).map fun k => (l.e32 vs >>> (8 * k)).setWidth 8

structure Strip where
  ops : List Op
  store : Store
  base : Nat

structure VState where
  regs : Nat → Lane
  mem : Memory

def spaces (buffer constant : Memory) (space : Space) : Memory :=
  match space with
  | .buffer => buffer
  | .constant => constant

/-
A store of words faults where it is not aligned.
-/
def Strip.exec (hart : Hart) (m : Nat) (constant : Memory) (vl : Nat) (strip : Strip) (s : VState)
    : Option VState :=
  if strip.store.Aligned strip.base then
    let regs := execOps hart m (spaces s.mem constant) vl strip.ops s.regs
    some
      {
        regs
        mem := writeElems strip.store.size (fun j => strip.store.bytes m (regs j)) vl strip.base s.mem
      }
  else
    none

/--
A strip-mined loop over one row, `strip` being its body at the running pointers into the buffer and into
an array of bytes beside it. Any fuel from the element count on runs the loop to its end.
-/
def stripLoop (hart : Hart) (m : Nat) (constant : Memory) (strip : Nat → Nat → Strip)
    (elemBytes row fuel remaining dest aux : Nat) (s : VState) : Option VState :=
  match fuel with
  | 0 => some s
  | fuel + 1 =>
    if remaining = 0 then
      some s
    else
      let vl := hart.vsetvli row remaining
      ((strip dest aux).exec hart m constant vl s).bind fun s =>
        stripLoop hart m constant strip elemBytes row fuel (remaining - vl) (dest + vl * elemBytes)
          (aux + vl) s

def stripRows (hart : Hart) (m : Nat) (constant : Memory) (strip : Nat → Nat → Strip)
    (elemBytes : Nat) (destStride auxStride : Int) (width height row : Nat) (dest aux : Int) (s : VState)
    : Option VState :=
  match height with
  | 0 => some s
  | height + 1 =>
    (stripLoop hart m constant strip elemBytes row width width dest.toNat aux.toNat s).bind fun s =>
      stripRows hart m constant strip elemBytes destStride auxStride width height (row + 1)
        (dest + destStride) (aux + auxStride) s

/-
What the instructions make of one element, whatever they leave elsewhere.
-/
def LaneOps (m : Nat) (load : Space → Memory) (j : Nat) (ops : List Op) (l l' : Lane) : Prop :=
  match ops with
  | [] => l' = l
  | op :: ops => ∃ junk, LaneOps m load j ops (op.lane m load j junk l) l'

theorem LaneOps.append {m : Nat} {load : Space → Memory} {j : Nat} {ops ops' : List Op} {l l' : Lane}
    (h : LaneOps m load j (ops ++ ops') l l')
    : ∃ mid, LaneOps m load j ops l mid ∧ LaneOps m load j ops' mid l' := by
  induction ops generalizing l with
  | nil => exact ⟨l, rfl, h⟩
  | cons op ops ih =>
    obtain ⟨junk, h⟩ := h
    obtain ⟨mid, hfirst, hrest⟩ := ih h
    exact ⟨mid, ⟨junk, hfirst⟩, hrest⟩

theorem execOps_lane (hart : Hart) (m : Nat) (load : Space → Memory) {vl j : Nat} (hj : j < vl)
    (ops : List Op) (regs : Nat → Lane)
    : LaneOps m load j ops (regs j) (execOps hart m load vl ops regs j) := by
  induction ops generalizing regs with
  | nil => rfl
  | cons op ops ih =>
    have hrest := ih (op.exec hart m load vl regs)
    have hfirst : op.exec hart m load vl regs j
        = op.lane m load j (hart.junk op regs j) (regs j) := by
      simp [Op.exec, hj]
    rw [hfirst] at hrest
    exact ⟨_, hrest⟩

section

variable {m : Nat} {junk l : Lane} {vd r : Nat}

@[simp]
theorem Lane.setE8_self (x : Byte) : (l.setE8 m junk vd x).e8 vd = x := by
  simp [setE8]

@[simp]
theorem Lane.setE16_self (x : BitVec 16) : (l.setE16 m junk vd x).e16 vd = x := by
  simp [setE16]

@[simp]
theorem Lane.setE32_self (x : BitVec 32) : (l.setE32 m junk vd x).e32 vd = x := by
  simp [setE32]

@[simp]
theorem Lane.setBit_self (x : Bool) : (l.setBit m junk vd x).bit vd = x := by
  simp [setBit]

/-
Groups apart from the one that is written keep what they have.
-/
theorem Lane.setE8_e8 (hpos : 0 < m) (h : r + m ≤ vd ∨ vd + m ≤ r) (x : Byte)
    : (l.setE8 m junk vd x).e8 r = l.e8 r := by
  have hne : r ≠ vd := by
    omega
  have hnot : ¬(r < vd + m ∧ vd < r + m) := by
    omega
  simp only [setE8, clobber, Function.update_of_ne hne, if_neg hnot]

theorem Lane.setE16_e8 (h : r + m ≤ vd ∨ vd + 2 * m ≤ r) (x : BitVec 16)
    : (l.setE16 m junk vd x).e8 r = l.e8 r := by
  have hnot : ¬(r < vd + 2 * m ∧ vd < r + m) := by
    omega
  simp only [setE16, clobber, if_neg hnot]

theorem Lane.setBit_e8 (h : r + m ≤ vd ∨ vd + 1 ≤ r) (x : Bool)
    : (l.setBit m junk vd x).e8 r = l.e8 r := by
  have hnot : ¬(r < vd + 1 ∧ vd < r + m) := by
    omega
  simp only [setBit, clobber, if_neg hnot]

theorem Lane.setSegments_e8_self (hpos : 0 < m) {nf k : Nat} (hk : k < nf) (x : Nat → Byte)
    : (l.setSegments m junk nf vd x).e8 (vd + k * m) = x k := by
  have hlt : k * m < nf * m := Nat.mul_lt_mul_of_pos_right hk hpos
  have hdiv : k * m / m = k := Nat.mul_div_cancel k hpos
  simp [setSegments, hlt, hdiv]

theorem Lane.setSegments_one (hpos : 0 < m) (x : Nat → Byte)
    : (l.setSegments m junk 1 vd x).e8 vd = x 0 := by
  have h := @Lane.setSegments_e8_self m junk l vd hpos 1 0 Nat.one_pos x
  rw [Nat.zero_mul, Nat.add_zero] at h
  exact h

theorem Lane.setSegments_e8 (hpos : 0 < m) {nf : Nat} (h : r + m ≤ vd ∨ vd + nf * m ≤ r)
    (x : Nat → Byte)
    : (l.setSegments m junk nf vd x).e8 r = l.e8 r := by
  have hnot : ¬(r < vd + nf * m ∧ vd < r + m) := by
    omega
  have hout : ¬(vd ≤ r ∧ r < vd + nf * m ∧ (r - vd) % m = 0) := by
    omega
  simp only [setSegments, clobber, if_neg hout, if_neg hnot]

end

/--
Replacing one element after another by what `update` makes of it and of its place in the array beside.
-/
def updateElems (nf : Nat) (update : Nat → List Byte → List Byte) (n dest aux : Nat) (mem : Memory)
    : Memory :=
  (List.range n).foldl
    (fun mem x =>
      writeBytes (dest + nf * x) (update (aux + x) (readBytes mem (dest + nf * x) nf)) mem)
    mem

theorem updateElems_succ (nf : Nat) (update : Nat → List Byte → List Byte) (n dest aux : Nat)
    (mem : Memory)
    : updateElems nf update (n + 1) dest aux mem
        = writeBytes (dest + nf * n)
            (update (aux + n) (readBytes (updateElems nf update n dest aux mem) (dest + nf * n) nf))
            (updateElems nf update n dest aux mem) := by
  simp [updateElems, List.range_succ, List.foldl_append]

theorem updateElems_add (nf : Nat) (update : Nat → List Byte → List Byte) (n k dest aux : Nat)
    (mem : Memory)
    : updateElems nf update (n + k) dest aux mem
        = updateElems nf update k (dest + nf * n) (aux + n) (updateElems nf update n dest aux mem) := by
  simp only [updateElems, List.range_add, List.foldl_append, List.foldl_map]
  simp only [Nat.mul_add, Nat.add_assoc]

/-
No element is part of another one, so it does not matter whether the elements are read before any of them
is written.
-/
theorem writeElems_eq_updateElems {nf : Nat} {update : Nat → List Byte → List Byte}
    (hlen : ∀ a old, old.length = nf → (update a old).length = nf) (n dest aux : Nat) (mem : Memory)
    : writeElems nf (fun j => update (aux + j) (readBytes mem (dest + nf * j) nf)) n dest mem
        = updateElems nf update n dest aux mem := by
  induction n with
  | zero => rfl
  | succ n ih =>
    rw [updateElems_succ, ← ih]
    have hread : readBytes (writeElems nf
          (fun j => update (aux + j) (readBytes mem (dest + nf * j) nf)) n dest mem) (dest + nf * n) nf
        = readBytes mem (dest + nf * n) nf := by
      apply readBytes_congr
      intro i _
      apply writeElems_of_not_mem
      . intro j _
        apply hlen
        rw [length_readBytes]
      . omega
    rw [hread]
    rfl

/-
A strip replaces every element by what `update` makes of it.
-/
structure Strip.Updates (m elemBytes : Nat) (constant : Memory)
    (update : Nat → List Byte → List Byte) (strip : Nat → Nat → Strip) : Prop where
  base : ∀ dest aux, (strip dest aux).base = dest
  size : ∀ dest aux, (strip dest aux).store.size = elemBytes
  aligned : ∀ dest aux, (strip dest aux).store.Aligned dest
  length : ∀ aux old, old.length = elemBytes → (update aux old).length = elemBytes
  lane : ∀ dest aux mem j l l', LaneOps m (spaces mem constant) j (strip dest aux).ops l l' →
    (strip dest aux).store.bytes m l' = update (aux + j) (readBytes mem (dest + elemBytes * j) elemBytes)

section

variable {m elemBytes : Nat} {constant : Memory} {update : Nat → List Byte → List Byte}
  {strip : Nat → Nat → Strip}

theorem Strip.Updates.exec (h : Strip.Updates m elemBytes constant update strip) (hart : Hart)
    (vl dest aux : Nat) (s : VState)
    : ((strip dest aux).exec hart m constant vl s).map (·.mem)
        = some (updateElems elemBytes update vl dest aux s.mem) := by
  unfold Strip.exec
  rw [h.base, if_pos (h.aligned dest aux)]
  simp only [Option.map_some, Option.some.injEq]
  rw [h.size, ← writeElems_eq_updateElems h.length]
  apply writeElems_congr
  intro j hj
  exact h.lane _ _ _ _ _ _ (execOps_lane hart m _ hj _ s.regs)

theorem stripLoop_mem (h : Strip.Updates m elemBytes constant update strip) (hart : Hart) (row : Nat)
    {fuel remaining : Nat} (hfuel : remaining ≤ fuel) (dest aux : Nat) (s : VState)
    : (stripLoop hart m constant strip elemBytes row fuel remaining dest aux s).map (·.mem)
        = some (updateElems elemBytes update remaining dest aux s.mem) := by
  induction fuel generalizing remaining dest aux s with
  | zero =>
    have : remaining = 0 := by
      omega
    rw [this]
    rfl
  | succ fuel ih =>
    unfold stripLoop
    split
    . next hzero =>
      rw [hzero]
      rfl
    . next hzero =>
      have hpos := hart.vsetvli_pos row remaining (by omega)
      have hle := hart.vsetvli_le row remaining
      generalize hart.vsetvli row remaining = vl at hpos hle
      dsimp only
      obtain ⟨s', hs', hmem⟩ := Option.map_eq_some_iff.mp (h.exec hart vl dest aux s)
      have hsum : remaining = vl + (remaining - vl) := by
        omega
      rw [hs', Option.bind_some, ih (by omega), hmem]
      conv =>
        rhs
        rw [hsum]
      rw [updateElems_add, Nat.mul_comm vl elemBytes]

/--
Replacing the elements of one row after another. The rows may overlap.
-/
def updateRows (nf : Nat) (update : Nat → List Byte → List Byte) (destStride auxStride : Int)
    (width height : Nat) (dest aux : Int) (mem : Memory) : Memory :=
  (List.range height).foldl
    (fun mem (y : Nat) =>
      updateElems nf update width (dest + destStride * y).toNat (aux + auxStride * y).toNat mem)
    mem

theorem stripRows_mem (h : Strip.Updates m elemBytes constant update strip) (hart : Hart)
    (destStride auxStride : Int) (width height : Nat) (dest aux : Int) (s : VState)
    : (stripRows hart m constant strip elemBytes destStride auxStride width height 0 dest aux s).map
          (·.mem)
        = some (updateRows elemBytes update destStride auxStride width height dest aux s.mem) := by
  unfold updateRows
  rw [List.range_eq_range']
  suffices hrows : ∀ row : Nat,
      (stripRows hart m constant strip elemBytes destStride auxStride width height row
          (dest + destStride * row) (aux + auxStride * row) s).map (·.mem)
        = some ((List.range' row height).foldl
            (fun mem (y : Nat) => updateElems elemBytes update width (dest + destStride * y).toNat
              (aux + auxStride * y).toNat mem) s.mem) by
    simpa using hrows 0
  intro row
  induction height generalizing row s with
  | zero => rfl
  | succ height ih =>
    unfold stripRows
    obtain ⟨s', hs', hmem⟩ := Option.map_eq_some_iff.mp
      (stripLoop_mem h hart row (Nat.le_refl width) (dest + destStride * row).toNat
        (aux + auxStride * row).toNat s)
    have hnext : ∀ base stride : Int, base + stride * row + stride = base + stride * (row + 1 : Nat) := by
      intro base stride
      rw [Int.natCast_add, Int.mul_add, Int.add_assoc]
      simp
    rw [hs', Option.bind_some, hnext, hnext, ih, hmem, List.range'_succ, List.foldl_cons]

end

end Lib.RvvGroups

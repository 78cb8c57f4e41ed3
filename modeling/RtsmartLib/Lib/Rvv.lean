import RtsmartLib.Lib.Memory

/-!
This module contains the byte vector instructions that strip-mined pixel loops are made of: segment
loads and stores and lane-wise operations under a vector length that the hart chooses per strip.
-/

namespace Lib.Rvv

abbrev VReg := Nat

abbrev VRegs := VReg → Nat → Byte

inductive Op where
  | vlseg (nf : Nat) (vd : VReg) (base : Nat)
  | vmvVV (vd vs1 : VReg)
  | vmvVI (vd : VReg) (imm : Int)
  | vsllVI (vd vs2 : VReg) (uimm : Nat)
  | vsrlVI (vd vs2 : VReg) (uimm : Nat)
  | vorVV (vd vs2 vs1 : VReg)
  | vmulVX (vd vs2 : VReg) (rs1 : Byte)

structure Store where
  nf : Nat
  vs : VReg
  base : Nat

def setReg (v : VReg → Byte) (vd : VReg) (x : Byte) : VReg → Byte :=
  fun r => if r = vd then x else v r

def Op.lane (load : Memory) (j : Nat) (op : Op) (v : VReg → Byte) : VReg → Byte :=
  match op with
  | .vlseg nf vd base => fun r => if vd ≤ r ∧ r < vd + nf then load (base + nf * j + (r - vd)) else v r
  | .vmvVV vd vs1 => setReg v vd (v vs1)
  | .vmvVI vd imm => setReg v vd (BitVec.ofInt 8 imm)
  | .vsllVI vd vs2 uimm => setReg v vd (v vs2 <<< uimm)
  | .vsrlVI vd vs2 uimm => setReg v vd (v vs2 >>> uimm)
  | .vorVV vd vs2 vs1 => setReg v vd (v vs2 ||| v vs1)
  | .vmulVX vd vs2 rs1 => setReg v vd (v vs2 * rs1)

structure Strip where
  ops : List Op
  store : Store

structure VState where
  regs : VRegs
  mem : Memory

def laneOps (load : Memory) (j : Nat) (ops : List Op) (v : VReg → Byte) : VReg → Byte :=
  match ops with
  | [] => v
  | op :: ops => laneOps load j ops (op.lane load j v)

/--
What the hart is free to choose: the vector length of each strip, and, as the tail policy is
agnostic, what every instruction leaves in the elements past it.
-/
structure Hart where
  vsetvli : Nat → Nat → Nat
  tail : Op → VRegs → VRegs
  vsetvli_pos : ∀ strip avl, 0 < avl → 0 < vsetvli strip avl
  vsetvli_le : ∀ strip avl, vsetvli strip avl ≤ avl

def Op.exec (hart : Hart) (load : Memory) (vl : Nat) (op : Op) (regs : VRegs) : VRegs :=
  fun r j => if j < vl then op.lane load j (fun r => regs r j) r else hart.tail op regs r j

def execOps (hart : Hart) (load : Memory) (vl : Nat) (ops : List Op) (regs : VRegs) : VRegs :=
  match ops with
  | [] => regs
  | op :: ops => execOps hart load vl ops (op.exec hart load vl regs)

def Store.exec (vl : Nat) (store : Store) (regs : VRegs) (mem : Memory) : Memory :=
  fun a =>
    if store.base ≤ a ∧ a < store.base + store.nf * vl then
      regs (store.vs + (a - store.base) % store.nf) ((a - store.base) / store.nf)
    else
      mem a

def Strip.exec (hart : Hart) (load : Memory) (vl : Nat) (strip : Strip) (s : VState) : VState :=
  let regs := execOps hart load vl strip.ops s.regs
  {
    regs
    mem := strip.store.exec vl regs s.mem
  }

/--
A strip-mined loop over one row, `strip` being its body at the two running pixel pointers. Any fuel
from the element count on runs the loop to its end.
-/
def stripLoop (hart : Hart) (load : Memory) (strip : Nat → Nat → Strip) (srcBytes destBytes row : Nat)
    (fuel remaining srcPixel destPixel : Nat) (s : VState) : VState :=
  match fuel with
  | 0 => s
  | fuel + 1 =>
    if remaining = 0 then
      s
    else
      let vl := hart.vsetvli row remaining
      let s := (strip srcPixel destPixel).exec hart load vl s
      stripLoop hart load strip srcBytes destBytes row fuel (remaining - vl)
        (srcPixel + vl * srcBytes) (destPixel + vl * destBytes) s

def stripRows (hart : Hart) (load : Memory) (strip : Nat → Nat → Strip) (srcBytes destBytes : Nat)
    (srcStride destStride width height row src dest : Nat) (s : VState) : VState :=
  match height with
  | 0 => s
  | height + 1 =>
    let s := stripLoop hart load strip srcBytes destBytes row width width src dest s
    stripRows hart load strip srcBytes destBytes srcStride destStride width height (row + 1)
      (src + srcStride) (dest + destStride) s

theorem execOps_lane (hart : Hart) (load : Memory) {vl j : Nat} (hj : j < vl) (ops : List Op)
    (regs : VRegs)
    : (fun r => execOps hart load vl ops regs r j) = laneOps load j ops (fun r => regs r j) := by
  induction ops generalizing regs with
  | nil => rfl
  | cons op ops ih =>
    unfold execOps laneOps
    rw [ih]
    have : (fun r => op.exec hart load vl regs r j) = op.lane load j (fun r => regs r j) := by
      funext r
      simp [Op.exec, hj]
    rw [this]

theorem laneOps_append (load : Memory) (j : Nat) (ops ops' : List Op) (v : VReg → Byte)
    : laneOps load j (ops ++ ops') v = laneOps load j ops' (laneOps load j ops v) := by
  induction ops generalizing v with
  | nil => rfl
  | cons op ops ih => exact ih _

/--
Writing one element after another, `nf` bytes each.
-/
def writeElems (nf : Nat) (bytes : Nat → List Byte) (n base : Nat) (mem : Memory) : Memory :=
  match n with
  | 0 => mem
  | n + 1 => writeBytes (base + nf * n) (bytes n) (writeElems nf bytes n base mem)

theorem writeElems_congr {nf n : Nat} {bytes bytes' : Nat → List Byte}
    (h : ∀ j, j < n → bytes j = bytes' j) (base : Nat) (mem : Memory)
    : writeElems nf bytes n base mem = writeElems nf bytes' n base mem := by
  induction n with
  | zero => rfl
  | succ n ih =>
    unfold writeElems
    rw [ih]
    . rw [h n (Nat.lt_succ_self n)]
    . intro j hj
      exact h j (Nat.lt_succ_of_lt hj)

theorem writeElems_add (nf : Nat) (bytes : Nat → List Byte) (m n base : Nat) (mem : Memory)
    : writeElems nf bytes (m + n) base mem
        = writeElems nf (fun j => bytes (m + j)) n (base + nf * m)
            (writeElems nf bytes m base mem) := by
  induction n with
  | zero => rfl
  | succ n ih =>
    rw [← Nat.add_assoc]
    unfold writeElems
    rw [ih]
    rw [Nat.mul_add]
    rw [Nat.add_assoc]

theorem writeElems_of_not_mem {nf n base a : Nat} {bytes : Nat → List Byte}
    (hlen : ∀ j, j < n → (bytes j).length = nf) (h : ¬(base ≤ a ∧ a < base + nf * n)) (mem : Memory)
    : writeElems nf bytes n base mem a = mem a := by
  induction n with
  | zero => rfl
  | succ n ih =>
    unfold writeElems
    rw [Nat.mul_add] at h
    rw [writeBytes_of_not_mem]
    . apply ih
      . intro j hj
        exact hlen j (Nat.lt_succ_of_lt hj)
      . omega
    . rw [hlen n (Nat.lt_succ_self n)]
      omega

theorem Store.exec_eq_writeElems (store : Store) (hnf : 0 < store.nf) (vl : Nat) (regs : VRegs)
    (mem : Memory)
    : store.exec vl regs mem
        = writeElems store.nf
            (fun j => (List.range store.nf).map (fun k => regs (store.vs + k) j)) vl store.base mem := by
  induction vl with
  | zero =>
    funext a
    unfold Store.exec writeElems
    rw [if_neg]
    omega
  | succ n ih =>
    unfold writeElems
    rw [← ih]
    funext a
    unfold Store.exec writeBytes
    rw [Nat.mul_add]
    simp only [List.length_map, List.length_range]
    split
    . next h =>
      split
      . next hlast =>
        have hk : a - store.base = (a - (store.base + store.nf * n)) + store.nf * n := by
          omega
        have hlt : a - (store.base + store.nf * n) < store.nf := by
          omega
        rw [hk]
        rw [Nat.add_mul_mod_self_left, Nat.add_mul_div_left _ _ hnf]
        rw [Nat.mod_eq_of_lt hlt, Nat.div_eq_of_lt hlt]
        simp [hlt]
      . rw [if_pos]
        omega
    . rw [if_neg, if_neg]
      . omega
      . omega

def writeRows (nf : Nat) (bytes : Nat → Nat → List Byte) (stride width height row dest : Nat)
    (mem : Memory) : Memory :=
  match height with
  | 0 => mem
  | height + 1 =>
    writeRows nf bytes stride width height (row + 1) (dest + stride)
      (writeElems nf (bytes row) width dest mem)

theorem writeRows_congr {nf stride width : Nat} {bytes bytes' : Nat → Nat → List Byte} {height : Nat}
    {row : Nat} (h : ∀ y j, y < row + height → j < width → bytes y j = bytes' y j) (dest : Nat)
    (mem : Memory)
    : writeRows nf bytes stride width height row dest mem
        = writeRows nf bytes' stride width height row dest mem := by
  induction height generalizing row dest mem with
  | zero => rfl
  | succ height ih =>
    unfold writeRows
    rw [ih]
    . rw [writeElems_congr]
      intro j hj
      exact h row j (by omega) hj
    . intro y j hy hj
      exact h y j (by omega) hj

theorem writeRows_of_not_mem {nf stride width a : Nat} {bytes : Nat → Nat → List Byte}
    (hlen : ∀ row j, (bytes row j).length = nf) {height : Nat} (row : Nat) {dest : Nat}
    (h : ∀ y, y < height → ¬(dest + stride * y ≤ a ∧ a < dest + stride * y + nf * width))
    (mem : Memory)
    : writeRows nf bytes stride width height row dest mem a = mem a := by
  induction height generalizing row dest mem with
  | zero => rfl
  | succ height ih =>
    unfold writeRows
    rw [ih]
    . apply writeElems_of_not_mem
      . intro j _
        exact hlen row j
      . exact h 0 (Nat.succ_pos height)
    . intro y hy
      have := h (y + 1) (Nat.succ_lt_succ hy)
      rw [Nat.mul_add] at this
      omega

theorem readBytes_writeElems {nf n base j : Nat} {bytes : Nat → List Byte}
    (hlen : ∀ j, j < n → (bytes j).length = nf) (hj : j < n) (mem : Memory)
    : readBytes (writeElems nf bytes n base mem) (base + nf * j) nf = bytes j := by
  induction n with
  | zero => omega
  | succ n ih =>
    unfold writeElems
    have hlast := hlen n (Nat.lt_succ_self n)
    by_cases hjn : j = n
    . rw [hjn]
      have hself := readBytes_writeBytes_self (base + nf * n) (bytes n) (writeElems nf bytes n base mem)
      rw [hlast] at hself
      exact hself
    . have hmul := Nat.mul_le_mul_left nf (show j + 1 ≤ n by omega)
      rw [Nat.mul_succ] at hmul
      rw [readBytes_writeBytes_apart (.inl (by omega))]
      apply ih
      . intro j hj
        exact hlen j (Nat.lt_succ_of_lt hj)
      . omega

theorem readBytes_writeRows {nf stride width : Nat} {bytes : Nat → Nat → List Byte}
    (hlen : ∀ row j, (bytes row j).length = nf) {height : Nat} (hfit : 1 < height → nf * width ≤ stride)
    (row : Nat) {y j : Nat} (hy : y < height) (hj : j < width) (dest : Nat) (mem : Memory)
    : readBytes (writeRows nf bytes stride width height row dest mem) (dest + stride * y + nf * j) nf
        = bytes (row + y) j := by
  induction height generalizing row y dest mem with
  | zero => omega
  | succ height ih =>
    unfold writeRows
    cases y with
    | zero =>
      have hmul := Nat.mul_le_mul_left nf (Nat.succ_le_of_lt hj)
      rw [Nat.mul_succ] at hmul
      simp only [Nat.mul_zero, Nat.add_zero]
      rw [← readBytes_writeElems (fun j _ => hlen row j) hj mem]
      apply readBytes_congr
      intro i hi
      apply writeRows_of_not_mem hlen
      intro y' hy'
      have hstride := hfit (by omega)
      omega
    | succ y =>
      have haddr : dest + stride * (y + 1) + nf * j = dest + stride + stride * y + nf * j := by
        rw [Nat.mul_succ]
        omega
      have hrow : row + (y + 1) = row + 1 + y := by
        omega
      rw [haddr, hrow]
      apply ih
      . intro hheight
        exact hfit (by omega)
      . omega

/-
A strip does for every element what `bytes` says about the source address of that element.
-/
structure Strip.Writes (load : Memory) (srcBytes destBytes : Nat) (bytes : Nat → List Byte)
    (strip : Nat → Nat → Strip) : Prop where
  pos : 0 < destBytes
  nf : ∀ src dest, (strip src dest).store.nf = destBytes
  base : ∀ src dest, (strip src dest).store.base = dest
  lane : ∀ src dest j v,
    (List.range destBytes).map
        (fun k => laneOps load j (strip src dest).ops v ((strip src dest).store.vs + k))
      = bytes (src + srcBytes * j)

theorem Strip.Writes.exec {load : Memory} {srcBytes destBytes : Nat} {bytes : Nat → List Byte}
    {strip : Nat → Nat → Strip} (h : Strip.Writes load srcBytes destBytes bytes strip) (hart : Hart)
    (vl src dest : Nat) (s : VState)
    : ((strip src dest).exec hart load vl s).mem
        = writeElems destBytes (fun j => bytes (src + srcBytes * j)) vl dest s.mem := by
  unfold Strip.exec
  dsimp only
  rw [Store.exec_eq_writeElems]
  . rw [h.nf, h.base]
    apply writeElems_congr
    intro j hj
    rw [← h.lane src dest j (fun r => s.regs r j)]
    rw [← execOps_lane hart load hj]
  . rw [h.nf]
    exact h.pos

theorem stripLoop_mem {load : Memory} {srcBytes destBytes : Nat} {bytes : Nat → List Byte}
    {strip : Nat → Nat → Strip} (h : Strip.Writes load srcBytes destBytes bytes strip) (hart : Hart)
    (row : Nat) {fuel remaining : Nat} (hfuel : remaining ≤ fuel) (src dest : Nat) (s : VState)
    : (stripLoop hart load strip srcBytes destBytes row fuel remaining src dest s).mem
        = writeElems destBytes (fun j => bytes (src + srcBytes * j)) remaining dest s.mem := by
  induction fuel generalizing remaining src dest s with
  | zero =>
    have : remaining = 0 := by
      omega
    rw [this]
    rfl
  | succ fuel ih =>
    unfold stripLoop
    split
    . next hzero =>
      rw [hzero]
      rfl
    . next hzero =>
      have hpos := hart.vsetvli_pos row remaining (by omega)
      have hle := hart.vsetvli_le row remaining
      generalize hart.vsetvli row remaining = vl at hpos hle
      dsimp only
      rw [ih]
      . rw [h.exec hart vl src dest s]
        have hsum : remaining = vl + (remaining - vl) := by
          omega
        conv =>
          rhs
          rw [hsum]
        rw [writeElems_add]
        rw [Nat.mul_comm vl destBytes]
        apply writeElems_congr
        intro j _
        rw [Nat.mul_add, Nat.mul_comm vl srcBytes, Nat.add_assoc]
      . omega

theorem stripRows_mem {load : Memory} {srcBytes destBytes : Nat} {bytes : Nat → List Byte}
    {strip : Nat → Nat → Strip} (h : Strip.Writes load srcBytes destBytes bytes strip) (hart : Hart)
    (srcStride destStride width : Nat) {height : Nat} (row src dest : Nat) (s : VState)
    : (stripRows hart load strip srcBytes destBytes srcStride destStride width height row
          (src + srcStride * row) dest s).mem
        = writeRows destBytes (fun row j => bytes (src + srcStride * row + srcBytes * j)) destStride
            width height row dest s.mem := by
  induction height generalizing row dest s with
  | zero => rfl
  | succ height ih =>
    unfold stripRows writeRows
    dsimp only
    rw [← stripLoop_mem h hart row (Nat.le_refl width)]
    rw [← ih]
    rw [Nat.mul_add, Nat.mul_one, Nat.add_assoc]

end Lib.Rvv

import RtsmartLib.Lib.BlockMode

/-!
This module contains the CMAC of a message over an arbitrary block function and any block size: its
subkeys, its padding, and its value for a message that is given as blocks and a last block.
-/

namespace Lib

def xorBlock (a b : List Byte) : List Byte :=
  List.zipWith (· ^^^ ·) a b

@[simp]
theorem length_xorBlock (a b : List Byte) : (xorBlock a b).length = min a.length b.length :=
  List.length_zipWith

theorem xorBlock_comm (a b : List Byte) : xorBlock a b = xorBlock b a :=
  List.zipWith_comm_of_comm (fun x y => BitVec.xor_comm x y)

theorem xorBlock_zeros {a : List Byte} {n : Nat} (h : a.length ≤ n)
    : xorBlock a (List.replicate n 0) = a := by
  induction a generalizing n with
  | nil => rfl
  | cons x a ih =>
    rw [List.length_cons] at h
    obtain ⟨m, rfl⟩ : ∃ m, n = m + 1 := ⟨n - 1, by omega⟩
    rw [List.replicate_succ]
    change (x ^^^ 0) :: xorBlock a (List.replicate m 0) = _
    rw [ih (by omega)]
    exact congrArg (· :: a) BitVec.xor_zero

/-
A block as a number of `8 * n` bits, shifted left by one. If a bit falls out at the top, `rb` is added to
what is left.
-/
def doubled (n rb v : Nat) : Nat :=
  if 2 * v < 256 ^ n then 2 * v else (2 * v - 256 ^ n) ^^^ rb

def doubleBlock (rb : Nat) (block : List Byte) : List Byte :=
  bytesBE block.length (doubled block.length rb (valueBE block))

/-
What is added for blocks of 128 bits, and for blocks of 64 bits.
-/
def cmacPolynomial (n : Nat) : Nat :=
  if n = 16 then 0x87 else 0x1b

example
    : doubleBlock (cmacPolynomial 16)
        [0xfb, 0xee, 0xd6, 0x18, 0x35, 0x71, 0x33, 0x66, 0x7c, 0x85, 0xe0, 0x8f, 0x72, 0x36, 0xa8, 0xde]
        = [0xf7, 0xdd, 0xac, 0x30, 0x6a, 0xe2, 0x66, 0xcc, 0xf9, 0x0b, 0xc1, 0x1e, 0xe4, 0x6d, 0x51, 0x3b] := by
  decide

/-
A one bit, and zeros.
-/
def padBlock (n : Nat) (last : List Byte) : List Byte :=
  last ++ 0x80 :: List.replicate (n - 1 - last.length) 0

def cbcMac (encrypt : List Byte → List Byte) (state : List Byte) (blocks : List (List Byte)) : List Byte :=
  blocks.foldl (fun state block => encrypt (xorBlock state block)) state

/-
The blocks of a message of which each is complete and followed by more.
-/
def wholeBlocks (n : Nat) (message : List Byte) : Nat :=
  (message.length - 1) / n

def blocksOf (n count : Nat) (message : List Byte) : List (List Byte) :=
  match count with
  | 0 => []
  | count + 1 => message.take n :: blocksOf n count (message.drop n)

def cmac (n : Nat) (encrypt : List Byte → List Byte) (message : List Byte) : List Byte :=
  let k1 := doubleBlock (cmacPolynomial n) (encrypt (List.replicate n 0))
  let k2 := doubleBlock (cmacPolynomial n) k1
  let whole := wholeBlocks n message
  let last := message.drop (whole * n)
  let state := cbcMac encrypt (List.replicate n 0) (blocksOf n whole message)
  if last.length = n then
    encrypt (xorBlock state (xorBlock last k1))
  else
    encrypt (xorBlock state (xorBlock (padBlock n last) k2))

/-
How a message falls into blocks and a last block, which is empty only if the message is.
-/
structure CmacBlocks (n : Nat) (message : List Byte) (blocks : List (List Byte)) (last : List Byte)
    : Prop where
  bytes : message = blocks.flatten ++ last
  block_length : ∀ block ∈ blocks, block.length = n
  last_le : last.length ≤ n
  last_ne : message ≠ [] → last ≠ []

theorem length_flatten_blocks {n : Nat} {blocks : List (List Byte)}
    (h : ∀ block ∈ blocks, block.length = n)
    : blocks.flatten.length = blocks.length * n := by
  induction blocks with
  | nil => simp
  | cons block blocks ih =>
    rw [List.flatten_cons, List.length_append, h block List.mem_cons_self]
    rw [ih (fun b hb => h b (List.mem_cons_of_mem _ hb))]
    rw [List.length_cons, Nat.succ_mul, Nat.add_comm]

theorem blocksOf_flatten {n : Nat} {blocks : List (List Byte)}
    (h : ∀ block ∈ blocks, block.length = n) (last : List Byte)
    : blocksOf n blocks.length (blocks.flatten ++ last) = blocks := by
  induction blocks with
  | nil => rfl
  | cons block blocks ih =>
    have hlen := h block List.mem_cons_self
    rw [List.length_cons]
    unfold blocksOf
    rw [List.flatten_cons, List.append_assoc, List.take_left' hlen, List.drop_left' hlen]
    rw [ih (fun b hb => h b (List.mem_cons_of_mem _ hb))]

theorem CmacBlocks.whole {n : Nat} {message : List Byte} {blocks : List (List Byte)} {last : List Byte}
    (hn : 0 < n) (h : CmacBlocks n message blocks last)
    : wholeBlocks n message = blocks.length := by
  have hlen : message.length = blocks.length * n + last.length := by
    rw [h.bytes, List.length_append, length_flatten_blocks h.block_length]
  have hle := h.last_le
  unfold wholeBlocks
  by_cases hmessage : message = []
  . have hzero : message.length = 0 := by
      rw [hmessage]
      rfl
    have hmul : blocks.length * n = 0 := by
      omega
    rw [hzero]
    have hblocks := (Nat.mul_eq_zero.mp hmul).resolve_right (Nat.ne_of_gt hn)
    rw [hblocks]
    exact Nat.zero_div n
  . have hpos : 0 < last.length := List.length_pos_iff.mpr (h.last_ne hmessage)
    rw [hlen]
    apply Nat.div_eq_of_lt_le
    . omega
    . rw [Nat.succ_mul]
      omega

/-
The CMAC of a message is what the chain over its blocks gives, in whatever way they have been found.
-/
theorem CmacBlocks.cmac_eq {n : Nat} (hn : 0 < n) {message : List Byte} {blocks : List (List Byte)}
    {last : List Byte} (h : CmacBlocks n message blocks last) (encrypt : List Byte → List Byte)
    {k1 k2 : List Byte} (hk1 : k1 = doubleBlock (cmacPolynomial n) (encrypt (List.replicate n 0)))
    (hk2 : k2 = doubleBlock (cmacPolynomial n) k1)
    : cmac n encrypt message
        = encrypt
            (xorBlock (cbcMac encrypt (List.replicate n 0) blocks)
              (if last.length = n then xorBlock last k1 else xorBlock (padBlock n last) k2)) := by
  have hblocks : blocksOf n blocks.length message = blocks := by
    rw [h.bytes]
    exact blocksOf_flatten h.block_length last
  have hlast : message.drop (blocks.length * n) = last := by
    rw [h.bytes, ← length_flatten_blocks h.block_length, List.drop_left]
  unfold cmac
  rw [h.whole hn]
  dsimp only
  rw [hblocks, hlast, ← hk1, ← hk2]
  split
  . rfl
  . rfl

/-
The chain may start from any number of zeros that covers a block.
-/
theorem xorBlock_cbcMac_zeros (encrypt : List Byte → List Byte) {m n : Nat} (h : n ≤ m)
    {blocks : List (List Byte)} (hblocks : ∀ block ∈ blocks, block.length = n) {last : List Byte}
    (hlast : last.length = n)
    : xorBlock (cbcMac encrypt (List.replicate m 0) blocks) last
        = xorBlock (cbcMac encrypt (List.replicate n 0) blocks) last := by
  have hzeros : ∀ block : List Byte, block.length = n →
      xorBlock (List.replicate m 0) block = xorBlock (List.replicate n 0) block := by
    intro block hblock
    rw [xorBlock_comm, xorBlock_zeros (by omega), xorBlock_comm, xorBlock_zeros (by omega)]
  cases blocks with
  | nil => exact hzeros last hlast
  | cons block blocks =>
    change xorBlock (cbcMac encrypt (encrypt (xorBlock (List.replicate m 0) block)) blocks) last = _
    rw [hzeros block (hblocks block List.mem_cons_self)]
    rfl

end Lib

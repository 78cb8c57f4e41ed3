import RtsmartLib.Lib.PackedBits
import Mathlib.Data.List.FinRange

/-!
This module contains the SBUS frames that the driver builds and decodes, what a channel contributes to
the bits of a frame, and when the channels of a frame are the ones that were set.
-/

namespace Sbus

open Lib

def sbusChannelNum : Nat := 16

def sbusFrameSize : Nat := 25

structure SbusFlag where
  ch17 : Bool
  ch18 : Bool
  frameLost : Bool
  failsafe : Bool
  deriving DecidableEq, Repr

structure SbusDevice where
  channels : Vector (BitVec 16) sbusChannelNum
  flags : SbusFlag

/-
What `sbus_create` returns has been cleared.
-/
def sbusCreate : SbusDevice :=
  ⟨Vector.replicate sbusChannelNum 0, ⟨false, false, false, false⟩⟩

def sbusSetChannel (dev : Option SbusDevice) (channelIndex : BitVec 8) (value : BitVec 16)
    : Int × Option SbusDevice :=
  match dev with
  | none => (-1, none)
  | some dev =>
    if h : channelIndex.toNat ≥ sbusChannelNum then
      (-1, some dev)
    else
      (0, some { dev with channels := dev.channels.set channelIndex.toNat value (by omega) })

def sbusSetAllChannels (dev : Option SbusDevice) (channels : Vector (BitVec 16) sbusChannelNum)
    : Int × Option SbusDevice :=
  go dev (List.finRange sbusChannelNum)
where
  go (dev : Option SbusDevice) (is : List (Fin sbusChannelNum)) : Int × Option SbusDevice :=
    match is with
    | [] => (0, dev)
    | i :: is =>
      let (ret, dev) := sbusSetChannel dev (BitVec.ofNat 8 i) channels[i]
      if ret ≠ 0 then
        (ret, dev)
      else
        go dev is

def sbusSetFlags (dev : Option SbusDevice) (flags : Option SbusFlag) : Option SbusDevice :=
  match dev, flags with
  | some dev, some flags => some { dev with flags }
  | dev, _ => dev

def sbusBytePos (i : Nat) : Nat :=
  1 + i * 11 / 8

def sbusBitPos (i : Nat) : Nat :=
  i * 11 % 8

def sbusGetChannel (frame : List Byte) (i : Nat) : BitVec 16 :=
  let bytePos := sbusBytePos i
  let bitPos := sbusBitPos i
  let byte (k : Nat) : BitVec 32 := (frame.getD (bytePos + k) 0).setWidth 32
  let ch := (byte 0 >>> bitPos ||| byte 1 <<< (8 - bitPos)).setWidth 16
  let ch := if bitPos > 5 then ch ||| (byte 2 <<< (16 - bitPos)).setWidth 16 else ch
  ch &&& 0x07FF

/-
The caller's channels and flags are left alone where the frame is not one.
-/
def sbusDecodeFrame (frame : List Byte) (ch : Vector (BitVec 16) sbusChannelNum) (flags : SbusFlag)
    : Vector (BitVec 16) sbusChannelNum × SbusFlag :=
  if frame.getD 0 0 ≠ 0x0F ∨ frame.getD 24 0 ≠ 0x00 then
    (ch, flags)
  else
    let flagByte := frame.getD 23 0
    (Vector.ofFn fun i => sbusGetChannel frame i,
      {
        ch17 := flagByte >>> 0 &&& 0x01 ≠ 0
        ch18 := flagByte >>> 1 &&& 0x01 ≠ 0
        frameLost := flagByte >>> 2 &&& 0x01 ≠ 0
        failsafe := flagByte >>> 3 &&& 0x01 ≠ 0
      })

def sbusPutChannel (frame : List Byte) (i : Nat) (val : BitVec 16) : List Byte :=
  let bytePos := sbusBytePos i
  let bitPos := sbusBitPos i
  let val := val.setWidth 32
  let frame := orByte frame bytePos ((val <<< bitPos &&& 0xFF).setWidth 8)
  let frame := orByte frame (bytePos + 1) ((val >>> (8 - bitPos) &&& 0xFF).setWidth 8)
  if bitPos > 5 then
    orByte frame (bytePos + 2) ((val >>> (16 - bitPos) &&& 0xFF).setWidth 8)
  else
    frame

def sbusPutChannels (frame : List Byte) (channels : Vector (BitVec 16) sbusChannelNum)
    (is : List (Fin sbusChannelNum)) : List Byte :=
  match is with
  | [] => frame
  | i :: is => sbusPutChannels (sbusPutChannel frame i channels[i]) channels is

def SbusFlag.byte (flags : SbusFlag) : Byte :=
  (if flags.ch17 then 1 <<< 0 else 0) ||| (if flags.ch18 then 1 <<< 1 else 0)
    ||| (if flags.frameLost then 1 <<< 2 else 0) ||| (if flags.failsafe then 1 <<< 3 else 0)

/-
The two bytes that are not cleared are the last ones, and they are set at the end.
-/
def sbusFrame (dev : SbusDevice) : List Byte :=
  let frame := 0x0F :: List.replicate (sbusFrameSize - 1) 0
  let frame := sbusPutChannels frame dev.channels (List.finRange sbusChannelNum)
  (frame.set 23 dev.flags.byte).set 24 0x00

/-
The second component is what the UART is handed, `uartWrite` its answer.
-/
def sbusSendFrame (dev : Option SbusDevice) (uartWrite : List Byte → Int)
    : Int × Option (List Byte) :=
  match dev with
  | none => (-1, none)
  | some dev =>
    let frame := sbusFrame dev
    if uartWrite frame ≠ sbusFrameSize then
      (-1, some frame)
    else
      (0, some frame)

/-
How many bits of a value reach the frame. A channel has 11 of them.
-/
def sbusReach (i : Nat) : Nat :=
  if sbusBitPos i > 5 then 16 else 16 - sbusBitPos i

theorem getLsbD_07FF (k : Nat) : (0x07FF : BitVec 16).getLsbD k = decide (k < 11) := by
  have hmask : (0x07FF : BitVec 16) = BitVec.ofNat 16 (2 ^ 11 - 1) := rfl
  rw [hmask, BitVec.getLsbD_ofNat, Nat.testBit_two_pow_sub_one]
  by_cases hk : k < 11
  . have h16 : k < 16 := by
      omega
    simp [hk, h16]
  . simp [hk]

theorem getLsbD_FF {j : Nat} (hj : j < 8) : (0xFF : BitVec 32).getLsbD j = true := by
  revert j
  decide

theorem lowByte_shiftLeft (val : BitVec 16) (r : Nat)
    : (val.setWidth 32 <<< r &&& 0xFF).setWidth 8 = BitVec.ofNat 8 (val.toNat <<< r >>> 0) := by
  apply BitVec.eq_of_getLsbD_eq
  intro j hj
  have hmask := getLsbD_FF hj
  have h32 : j < 32 := by
    omega
  simp only [BitVec.getLsbD_setWidth, BitVec.getLsbD_and, BitVec.getLsbD_shiftLeft, BitVec.getLsbD_ofNat,
    Nat.testBit_shiftRight, Nat.testBit_shiftLeft, hmask, hj, h32, decide_true, Bool.true_and,
    Bool.and_true, Nat.zero_add, BitVec.testBit_toNat]
  have hsub : j - r < 32 := by
    omega
  by_cases hr : r ≤ j
  . simp [hr, Nat.not_lt.mpr hr, hsub]
  . simp [hr, Nat.lt_of_not_le hr]

theorem lowByte_ushiftRight (val : BitVec 16) {r s : Nat} (hr : r ≤ s)
    : (val.setWidth 32 >>> (s - r) &&& 0xFF).setWidth 8 = BitVec.ofNat 8 (val.toNat <<< r >>> s) := by
  apply BitVec.eq_of_getLsbD_eq
  intro j hj
  have hmask := getLsbD_FF hj
  have hle : r ≤ s + j := by
    omega
  have hsub : s + j - r = s - r + j := by
    omega
  simp only [BitVec.getLsbD_setWidth, BitVec.getLsbD_and, BitVec.getLsbD_ushiftRight,
    BitVec.getLsbD_ofNat, Nat.testBit_shiftRight, Nat.testBit_shiftLeft, hmask, hj, hle, hsub,
    decide_true, Bool.true_and, Bool.and_true, BitVec.testBit_toNat]
  by_cases h32 : s - r + j < 32
  . simp [h32]
  . rw [BitVec.getLsbD_of_ge _ _ (by omega)]
    simp

theorem sbusPutChannel_eq_orBytes (frame : List Byte) (i : Nat) (val : BitVec 16)
    : sbusPutChannel frame i val
        = orBytes frame (sbusBytePos i)
            (bytesLE (if sbusBitPos i > 5 then 3 else 2) (val.toNat <<< sbusBitPos i)) := by
  have hpos : sbusBitPos i < 8 := Nat.mod_lt _ (by omega)
  unfold sbusPutChannel
  dsimp only
  rw [lowByte_shiftLeft, lowByte_ushiftRight val (by omega)]
  split
  . rw [lowByte_ushiftRight val (by omega)]
    rfl
  . rfl

theorem sbusBitPos_add (i : Nat) : 8 * sbusBytePos i + sbusBitPos i = 8 + 11 * i := by
  unfold sbusBytePos sbusBitPos
  omega

theorem sbusBytePos_lt {i : Nat} (hi : i < sbusChannelNum)
    : sbusBytePos i + (if sbusBitPos i > 5 then 3 else 2) ≤ 23 := by
  revert i
  decide

theorem length_sbusPutChannel (frame : List Byte) (i : Nat) (val : BitVec 16)
    : (sbusPutChannel frame i val).length = frame.length := by
  rw [sbusPutChannel_eq_orBytes, length_orBytes]

/-
A channel puts the bits of its value that reach the frame where its field starts.
-/
theorem bitAt_sbusPutChannel {frame : List Byte} (hframe : frame.length = sbusFrameSize) {i : Nat}
    (hi : i < sbusChannelNum) (val : BitVec 16) (p : Nat)
    : bitAt (sbusPutChannel frame i val) p
        = (bitAt frame p
          || (decide (8 + 11 * i ≤ p ∧ p < 8 + 11 * i + sbusReach i) && val.getLsbD (p - (8 + 11 * i)))) := by
  have hadd := sbusBitPos_add i
  have hlt := sbusBytePos_lt hi
  have hpos : sbusBitPos i < 8 := Nat.mod_lt _ (by omega)
  have hsize : sbusFrameSize = 25 := rfl
  rw [sbusPutChannel_eq_orBytes]
  rw [bitAt_orBytes (by rw [length_bytesLE]; omega), bitAt_bytesLE]
  rw [Nat.testBit_shiftLeft, BitVec.testBit_toNat]
  have hsub : p - 8 * sbusBytePos i - sbusBitPos i = p - (8 + 11 * i) := by
    omega
  rw [hsub]
  congr 1
  unfold sbusReach
  rw [Bool.eq_iff_iff]
  simp only [Bool.and_eq_true, decide_eq_true_eq, ge_iff_le]
  by_cases hwide : sbusBitPos i > 5
  . rw [if_pos hwide, if_pos hwide]
    constructor
    . intro ⟨hlow, hhigh, hstart, hbit⟩
      have hin := BitVec.lt_of_getLsbD hbit
      exact ⟨by omega, hbit⟩
    . intro ⟨hrange, hbit⟩
      exact ⟨by omega, by omega, by omega, hbit⟩
  . rw [if_neg hwide, if_neg hwide]
    constructor
    . intro ⟨hlow, hhigh, hstart, hbit⟩
      exact ⟨by omega, hbit⟩
    . intro ⟨hrange, hbit⟩
      exact ⟨by omega, by omega, by omega, hbit⟩

theorem length_sbusPutChannels (frame : List Byte) (channels : Vector (BitVec 16) sbusChannelNum)
    (is : List (Fin sbusChannelNum))
    : (sbusPutChannels frame channels is).length = frame.length := by
  induction is generalizing frame with
  | nil => rfl
  | cons i is ih =>
    unfold sbusPutChannels
    rw [ih, length_sbusPutChannel]

/-
What channel `i` contributes to bit `p` of the frame.
-/
def sbusBit (channels : Vector (BitVec 16) sbusChannelNum) (p : Nat) (i : Fin sbusChannelNum) : Bool :=
  decide (8 + 11 * i.val ≤ p ∧ p < 8 + 11 * i + sbusReach i)
    && channels[i].getLsbD (p - (8 + 11 * i))

theorem bitAt_sbusPutChannels {frame : List Byte} (hframe : frame.length = sbusFrameSize)
    (channels : Vector (BitVec 16) sbusChannelNum) (is : List (Fin sbusChannelNum)) (p : Nat)
    : bitAt (sbusPutChannels frame channels is) p
        = (bitAt frame p || is.any (sbusBit channels p)) := by
  induction is generalizing frame with
  | nil => simp [sbusPutChannels]
  | cons i is ih =>
    unfold sbusPutChannels
    rw [ih ((length_sbusPutChannel frame i _).trans hframe)]
    rw [bitAt_sbusPutChannel hframe i.isLt]
    rw [List.any_cons, Bool.or_assoc]
    rfl

theorem bitAt_sbusFrame (dev : SbusDevice) {p : Nat} (hlow : 8 ≤ p) (hhigh : p < 184)
    : bitAt (sbusFrame dev) p
        = (List.finRange sbusChannelNum).any (sbusBit dev.channels p) := by
  unfold sbusFrame
  dsimp only
  rw [bitAt_set_of_ne (by omega), bitAt_set_of_ne (by omega)]
  rw [bitAt_sbusPutChannels (by rfl)]
  rw [bitAt_cons, if_neg (by omega)]
  have hzero : bitAt (List.replicate (sbusFrameSize - 1) 0) (p - 8) = false := by
    unfold bitAt
    rw [List.getD_eq_getElem?_getD, List.getElem?_replicate]
    split
    . exact BitVec.getLsbD_zero
    . exact BitVec.getLsbD_zero
  rw [hzero, Bool.false_or]

/-
The bits beyond the eleventh that reach the frame, as bits of the channel that comes next.
-/
def sbusSpill (i : Nat) (val : BitVec 16) : BitVec 16 :=
  (val &&& BitVec.ofNat 16 (2 ^ sbusReach i - 1)) >>> 11

def sbusSpillInto (channels : Vector (BitVec 16) sbusChannelNum) (i : Fin sbusChannelNum)
    : BitVec 16 :=
  if 0 < i.val then sbusSpill (i - 1) channels[i.val - 1] else 0

theorem getLsbD_sbusSpill (i : Nat) (val : BitVec 16) (k : Nat)
    : (sbusSpill i val).getLsbD k = (decide (11 + k < sbusReach i) && val.getLsbD (11 + k)) := by
  unfold sbusSpill
  rw [BitVec.getLsbD_ushiftRight, BitVec.getLsbD_and, BitVec.getLsbD_ofNat,
    Nat.testBit_two_pow_sub_one]
  by_cases hk : 11 + k < 16
  . rw [Bool.and_comm]
    simp [hk]
  . rw [BitVec.getLsbD_of_ge _ _ (by omega)]
    simp

theorem sbusReach_le (i : Nat) : 11 ≤ sbusReach i ∧ sbusReach i ≤ 16 := by
  unfold sbusReach
  split
  . omega
  . omega

/-
Only the channel of the field and the one before it reach a field.
-/
theorem sbusBit_iff (channels : Vector (BitVec 16) sbusChannelNum) (i j : Fin sbusChannelNum) {k : Nat}
    (hk : k < 11)
    : sbusBit channels (8 + 11 * i + k) j = true
        ↔ (j = i ∧ channels[j].getLsbD k = true)
          ∨ (j.val + 1 = i.val ∧ (sbusSpill j channels[j]).getLsbD k = true) := by
  have hreach := sbusReach_le j
  unfold sbusBit
  rw [getLsbD_sbusSpill, Bool.and_eq_true, Bool.and_eq_true, decide_eq_true_eq, decide_eq_true_eq]
  constructor
  . intro ⟨hrange, hbit⟩
    by_cases hij : j.val = i.val
    . left
      have hsub : 8 + 11 * i.val + k - (8 + 11 * j.val) = k := by
        omega
      rw [hsub] at hbit
      exact ⟨Fin.ext hij, hbit⟩
    . right
      have hsub : 8 + 11 * i.val + k - (8 + 11 * j.val) = 11 + k := by
        omega
      rw [hsub] at hbit
      exact ⟨by omega, by omega, hbit⟩
  . intro h
    cases h with
    | inl hown =>
      obtain ⟨rfl, hbit⟩ := hown
      have hsub : 8 + 11 * j.val + k - (8 + 11 * j.val) = k := by
        omega
      rw [hsub]
      exact ⟨by omega, hbit⟩
    | inr hspill =>
      obtain ⟨hnext, hrange, hbit⟩ := hspill
      have hsub : 8 + 11 * i.val + k - (8 + 11 * j.val) = 11 + k := by
        omega
      rw [hsub]
      exact ⟨by omega, hbit⟩

theorem any_sbusBit (channels : Vector (BitVec 16) sbusChannelNum) (i : Fin sbusChannelNum) {k : Nat}
    (hk : k < 11)
    : (List.finRange sbusChannelNum).any (sbusBit channels (8 + 11 * i + k))
        = (channels[i] ||| sbusSpillInto channels i).getLsbD k := by
  rw [Bool.eq_iff_iff]
  rw [BitVec.getLsbD_or, List.any_eq_true, Bool.or_eq_true]
  unfold sbusSpillInto
  constructor
  . intro ⟨j, _, hj⟩
    obtain ⟨rfl, hbit⟩ | ⟨hnext, hbit⟩ := (sbusBit_iff channels i j hk).mp hj
    . exact .inl hbit
    . right
      have hprev : j.val = i.val - 1 := by
        omega
      rw [if_pos (by omega)]
      simp only [← hprev]
      exact hbit
  . intro h
    cases h with
    | inl hbit => exact ⟨i, List.mem_finRange i, (sbusBit_iff channels i i hk).mpr (.inl ⟨rfl, hbit⟩)⟩
    | inr hspill =>
      split at hspill
      . next hpos =>
        refine ⟨⟨i.val - 1, by omega⟩, List.mem_finRange _, ?_⟩
        exact (sbusBit_iff channels i _ hk).mpr (.inr ⟨Nat.sub_add_cancel hpos, hspill⟩)
      . simp at hspill

theorem getLsbD_sbusGetChannel (frame : List Byte) (i k : Nat)
    : (sbusGetChannel frame i).getLsbD k = (decide (k < 11) && bitAt frame (8 + 11 * i + k)) := by
  have hadd := sbusBitPos_add i
  have hpos : sbusBitPos i < 8 := Nat.mod_lt _ (by omega)
  unfold sbusGetChannel
  dsimp only
  rw [BitVec.getLsbD_and, getLsbD_07FF, Bool.and_comm]
  by_cases hk : k < 11
  . have hk32 : k < 32 := by
      omega
    have hp : 8 * sbusBytePos i + (sbusBitPos i + k) = 8 + 11 * i + k := by
      omega
    have hfirst := getLsbD_byte_ushiftRight frame (sbusBytePos i + 0) (sbusBitPos i) k
    have hsecond := @getLsbD_byte_shiftLeft frame (sbusBytePos i) _ _ 1 (Nat.le_of_lt hpos) hk32
    have hthird := @getLsbD_byte_shiftLeft frame (sbusBytePos i) (sbusBitPos i) _ 2 (by omega) hk32
    rw [Nat.add_zero, hp] at hfirst
    rw [hp] at hsecond hthird
    simp only [hk, decide_true, Bool.true_and]
    -- the bit is in one of the bytes, and the others have been shifted out of its place
    split
    next hwide =>
      rw [BitVec.getLsbD_or, BitVec.getLsbD_setWidth, BitVec.getLsbD_setWidth, BitVec.getLsbD_or]
      rw [Nat.add_zero, hfirst, hsecond, hthird]
      grind
    next hnarrow =>
      rw [BitVec.getLsbD_setWidth, BitVec.getLsbD_or]
      rw [Nat.add_zero, hfirst, hsecond]
      grind
  . simp [hk]

theorem sbusGetChannel_sbusFrame (dev : SbusDevice) (i : Fin sbusChannelNum)
    : sbusGetChannel (sbusFrame dev) i
        = (dev.channels[i] ||| sbusSpillInto dev.channels i) &&& 0x07FF := by
  have hi : i.val < 16 := i.isLt
  apply BitVec.eq_of_getLsbD_eq
  intro k hk
  rw [getLsbD_sbusGetChannel]
  rw [BitVec.getLsbD_and, getLsbD_07FF]
  by_cases hfield : k < 11
  . rw [bitAt_sbusFrame dev (by omega) (by omega), any_sbusBit _ _ hfield]
    simp [hfield]
  . simp [hfield]

theorem sbusFrame_first (dev : SbusDevice) : (sbusFrame dev).getD 0 0 = 0x0F := by
  apply BitVec.eq_of_getLsbD_eq
  intro j hj
  rw [bitAt_getD _ _ hj]
  unfold sbusFrame
  dsimp only
  rw [bitAt_set_of_ne (by omega), bitAt_set_of_ne (by omega)]
  rw [bitAt_sbusPutChannels (by rfl)]
  have hnone : (List.finRange sbusChannelNum).any (sbusBit dev.channels (8 * 0 + j)) = false := by
    rw [List.any_eq_false]
    intro i _
    unfold sbusBit
    have hlow : ¬8 + 11 * i.val ≤ j := by
      omega
    simp [hlow]
  rw [hnone, Bool.or_false, bitAt_cons, if_pos (by omega)]
  rw [Nat.mul_zero, Nat.zero_add]

theorem length_sbusFrame (dev : SbusDevice) : (sbusFrame dev).length = sbusFrameSize := by
  unfold sbusFrame
  dsimp only
  rw [List.length_set, List.length_set, length_sbusPutChannels]
  rfl

theorem sbusFrame_last (dev : SbusDevice)
    : (sbusFrame dev).getD 23 0 = dev.flags.byte ∧ (sbusFrame dev).getD 24 0 = 0x00 := by
  have hlen := length_sbusFrame dev
  unfold sbusFrame at hlen ⊢
  dsimp only at hlen ⊢
  rw [List.length_set, List.length_set] at hlen
  have hsize : sbusFrameSize = 25 := rfl
  constructor
  . rw [List.getD_eq_getElem?_getD, List.getElem?_set_ne (by omega)]
    rw [List.getElem?_set_self (by omega)]
    rfl
  . rw [List.getD_eq_getElem?_getD]
    rw [List.getElem?_set_self (by rw [List.length_set]; omega)]
    rfl

theorem sbusDecodeFrame_sbusFrame (dev : SbusDevice) (ch : Vector (BitVec 16) sbusChannelNum)
    (flags : SbusFlag) (i : Fin sbusChannelNum)
    : (sbusDecodeFrame (sbusFrame dev) ch flags).1[i] = sbusGetChannel (sbusFrame dev) i := by
  unfold sbusDecodeFrame
  rw [sbusFrame_first, (sbusFrame_last dev).2]
  simp

theorem toNat_and_07FF (val : BitVec 16) : (val &&& 0x07FF).toNat = val.toNat % 2048 := by
  rw [BitVec.toNat_and]
  exact Nat.and_two_pow_sub_one_eq_mod val.toNat 11

/-
A field keeps its value if what spills into it is there already.
-/
theorem or_and_07FF_iff {val spill : BitVec 16} (hspill : ∀ k, spill.getLsbD k = true → k < 11)
    : (val ||| spill) &&& 0x07FF = val &&& 0x07FF ↔ spill &&& ~~~val = 0 := by
  constructor
  . intro h
    apply BitVec.eq_of_getLsbD_eq
    intro k hk
    have hbit := congrArg (fun v : BitVec 16 => v.getLsbD k) h
    rw [BitVec.getLsbD_and, BitVec.getLsbD_and, BitVec.getLsbD_or, getLsbD_07FF] at hbit
    have hzero : (0 : BitVec 16).getLsbD k = false := BitVec.getLsbD_zero
    rw [BitVec.getLsbD_and, BitVec.getLsbD_not, hzero]
    cases hs : spill.getLsbD k with
    | false => simp
    | true =>
      have hfield := hspill k hs
      rw [hs] at hbit
      simpa [hk, hfield] using hbit
  . intro h
    apply BitVec.eq_of_getLsbD_eq
    intro k hk
    have hbit := congrArg (fun v : BitVec 16 => v.getLsbD k) h
    have hzero : (0 : BitVec 16).getLsbD k = false := BitVec.getLsbD_zero
    rw [BitVec.getLsbD_and, BitVec.getLsbD_not, hzero] at hbit
    rw [BitVec.getLsbD_and, BitVec.getLsbD_and, BitVec.getLsbD_or]
    cases hs : spill.getLsbD k with
    | false => simp
    | true =>
      rw [hs] at hbit
      have hval : val.getLsbD k = true := by
        simpa [hk] using hbit
      rw [hval]
      simp

theorem sbusSpillInto_lt {channels : Vector (BitVec 16) sbusChannelNum} {i : Fin sbusChannelNum}
    {k : Nat} (h : (sbusSpillInto channels i).getLsbD k = true)
    : k < 11 := by
  unfold sbusSpillInto at h
  split at h
  . rw [getLsbD_sbusSpill, Bool.and_eq_true, decide_eq_true_eq] at h
    have hreach := sbusReach_le (i.val - 1)
    omega
  . simp at h

inductive SbusSetter where
  | channel (channelIndex : BitVec 8) (value : BitVec 16)
  | allChannels (channels : Vector (BitVec 16) sbusChannelNum)

def SbusSetter.apply (setter : SbusSetter) (dev : Option SbusDevice) : Option SbusDevice :=
  match setter with
  | .channel channelIndex value => (sbusSetChannel dev channelIndex value).2
  | .allChannels channels => (sbusSetAllChannels dev channels).2

def sbusBuilt (setters : List SbusSetter) : Option SbusDevice :=
  setters.foldl (fun dev setter => setter.apply dev) (some sbusCreate)

theorem sbusSetChannel_some (dev : SbusDevice) (channelIndex : BitVec 8) (value : BitVec 16)
    : ∃ dev', (sbusSetChannel (some dev) channelIndex value).2 = some dev' := by
  unfold sbusSetChannel
  dsimp only
  split
  . exact ⟨_, rfl⟩
  . exact ⟨_, rfl⟩

/-
No index of the loop is over range, so that the loop runs to its end.
-/
theorem sbusSetAllChannels_go (channels : Vector (BitVec 16) sbusChannelNum)
    (is : List (Fin sbusChannelNum)) (dev : SbusDevice)
    : ∃ set, sbusSetAllChannels.go channels (some dev) is = (0, some { dev with channels := set })
        ∧ ∀ j : Fin sbusChannelNum, set[j] = if j ∈ is then channels[j] else dev.channels[j] := by
  induction is generalizing dev with
  | nil => exact ⟨dev.channels, rfl, by simp⟩
  | cons i is ih =>
    have hindex : (BitVec.ofNat 8 i.val).toNat = i.val := by
      have hi : i.val < 16 := i.isLt
      rw [BitVec.toNat_ofNat]
      omega
    have hstep : sbusSetChannel (some dev) (BitVec.ofNat 8 i) channels[i]
        = (0, some { dev with channels := dev.channels.set i.val channels[i] i.isLt }) := by
      unfold sbusSetChannel
      dsimp only
      rw [dif_neg (by rw [hindex]; exact Nat.not_le.mpr i.isLt)]
      simp only [hindex]
    obtain ⟨set, hgo, hset⟩ := ih { dev with channels := dev.channels.set i.val channels[i] i.isLt }
    refine ⟨set, ?_, ?_⟩
    . unfold sbusSetAllChannels.go
      rw [hstep]
      exact hgo
    . intro j
      rw [hset]
      by_cases hj : j = i
      . subst hj
        simp
      . have hne : i.val ≠ j.val := by
          intro heq
          exact hj (Fin.ext heq.symm)
        simp [hj, hne]

theorem sbusSetAllChannels_eq (dev : SbusDevice) (channels : Vector (BitVec 16) sbusChannelNum)
    : sbusSetAllChannels (some dev) channels = (0, some { dev with channels }) := by
  obtain ⟨set, hgo, hset⟩ :=
    sbusSetAllChannels_go channels (List.finRange sbusChannelNum) dev
  have heq : set = channels := by
    apply Vector.ext
    intro j hj
    have hbyte := hset ⟨j, hj⟩
    rw [if_pos (List.mem_finRange _)] at hbyte
    exact hbyte
  unfold sbusSetAllChannels
  rw [hgo, heq]

theorem sbusBuilt_some (setters : List SbusSetter) : ∃ dev, sbusBuilt setters = some dev := by
  have hfold : ∀ dev : SbusDevice, ∃ dev',
      setters.foldl (fun dev setter => setter.apply dev) (some dev) = some dev' := by
    induction setters with
    | nil => exact fun dev => ⟨dev, rfl⟩
    | cons setter setters ih =>
      intro dev
      rw [List.foldl_cons]
      cases setter with
      | channel channelIndex value =>
        obtain ⟨dev', hdev'⟩ := sbusSetChannel_some dev channelIndex value
        unfold SbusSetter.apply
        dsimp only
        rw [hdev']
        exact ih dev'
      | allChannels channels =>
        have hdev' : SbusSetter.apply (.allChannels channels) (some dev)
            = some { dev with channels } := by
          unfold SbusSetter.apply
          dsimp only
          rw [sbusSetAllChannels_eq]
        rw [hdev']
        exact ih _
  exact hfold sbusCreate

/--
Whatever has been set, the channels of the frame are the stored ones exactly if every bit that spills
over from a channel is set in the next channel already.
-/
theorem sbusIsolated_iff (setters : List SbusSetter) (uartWrite : List Byte → Int)
    (ch : Vector (BitVec 16) sbusChannelNum) (flags : SbusFlag)
    : ∃ dev frame, sbusBuilt setters = some dev
        ∧ (sbusSendFrame (some dev) uartWrite).2 = some frame
        ∧ ((∀ i : Fin sbusChannelNum,
              (sbusDecodeFrame frame ch flags).1[i].toNat = dev.channels[i].toNat % 2048)
            ↔ ∀ i : Fin sbusChannelNum, sbusSpillInto dev.channels i &&& ~~~dev.channels[i] = 0) := by
  obtain ⟨dev, hdev⟩ := sbusBuilt_some setters
  refine ⟨dev, sbusFrame dev, hdev, ?_, ?_⟩
  . unfold sbusSendFrame
    dsimp only
    split
    . rfl
    . rfl
  . apply forall_congr'
    intro i
    rw [sbusDecodeFrame_sbusFrame, sbusGetChannel_sbusFrame, ← toNat_and_07FF]
    rw [← or_and_07FF_iff fun k hk => sbusSpillInto_lt hk]
    exact BitVec.toNat_inj

/-
Bit 11 of the first channel is bit 0 of the second one.
-/
theorem sbusIsolated_fails
    : ¬∀ (setters : List SbusSetter) (dev : SbusDevice) (frame : List Byte),
        sbusBuilt setters = some dev → (sbusSendFrame (some dev) fun _ => 25).2 = some frame →
          ∀ i : Fin sbusChannelNum,
            (sbusDecodeFrame frame dev.channels dev.flags).1[i].toNat = dev.channels[i].toNat % 2048 := by
  intro h
  have hbad := h [.channel 0 2048] _ _ rfl rfl ⟨1, by decide⟩
  revert hbad
  decide

structure SbusFrameOk (frame : List Byte) : Prop where
  length : frame.length = sbusFrameSize
  first : frame.getD 0 0 = 0x0F
  flags : frame.getD 23 0 >>> 4 = 0
  last : frame.getD 24 0 = 0x00

theorem byte_decoded_flags (b : Byte) (h : b >>> 4 = 0)
    : SbusFlag.byte ⟨b >>> 0 &&& 0x01 ≠ 0, b >>> 1 &&& 0x01 ≠ 0, b >>> 2 &&& 0x01 ≠ 0,
        b >>> 3 &&& 0x01 ≠ 0⟩ = b := by
  revert b
  decide

/-
Decoded channels have 11 bits, so that nothing spills.
-/
theorem sbusSpillInto_decoded (frame : List Byte) (i : Fin sbusChannelNum)
    : sbusSpillInto (Vector.ofFn fun i => sbusGetChannel frame i) i = 0 := by
  apply BitVec.eq_of_getLsbD_eq
  intro k hk
  unfold sbusSpillInto
  split
  . rw [getLsbD_sbusSpill, Vector.getElem_ofFn, getLsbD_sbusGetChannel]
    simp
  . rfl

theorem bitAt_sbusFrame_decoded {frame : List Byte} (flags : SbusFlag) {p : Nat} (hlow : 8 ≤ p)
    (hhigh : p < 184)
    : bitAt (sbusFrame ⟨Vector.ofFn fun i => sbusGetChannel frame i, flags⟩) p = bitAt frame p := by
  have hp : p = 8 + 11 * ((p - 8) / 11) + (p - 8) % 11 := by
    omega
  have hk : (p - 8) % 11 < 11 := Nat.mod_lt _ (by omega)
  have hi : (p - 8) / 11 < sbusChannelNum := by
    unfold sbusChannelNum
    omega
  rw [bitAt_sbusFrame _ hlow hhigh]
  generalize (p - 8) % 11 = k at hp hk
  generalize (p - 8) / 11 = i at hp hi
  rw [hp]
  rw [any_sbusBit _ ⟨i, hi⟩ hk, sbusSpillInto_decoded]
  have hzero : ∀ val : BitVec 16, val ||| 0 = val := fun _ => BitVec.or_zero
  rw [hzero]
  have hget : (Vector.ofFn fun i : Fin sbusChannelNum => sbusGetChannel frame i)[(⟨i, hi⟩ : Fin _)]
      = sbusGetChannel frame i := by
    simp
  rw [hget, getLsbD_sbusGetChannel]
  simp [hk]

theorem sbusFrame_decoded {frame : List Byte} (h : SbusFrameOk frame)
    (ch : Vector (BitVec 16) sbusChannelNum) (flags : SbusFlag)
    : sbusFrame ⟨(sbusDecodeFrame frame ch flags).1, (sbusDecodeFrame frame ch flags).2⟩ = frame := by
  unfold sbusDecodeFrame
  rw [h.first, h.last]
  simp only [ne_eq, not_true_eq_false, or_self, ↓reduceIte]
  generalize hflags : SbusFlag.mk _ _ _ _ = decoded
  have hbyte : decoded.byte = frame.getD 23 0 := by
    rw [← hflags]
    exact byte_decoded_flags _ h.flags
  have hlast := sbusFrame_last ⟨Vector.ofFn fun i => sbusGetChannel frame i, decoded⟩
  have hfirst := sbusFrame_first ⟨Vector.ofFn fun i => sbusGetChannel frame i, decoded⟩
  have hmiddle := @bitAt_sbusFrame_decoded frame decoded
  have hlen := length_sbusFrame ⟨Vector.ofFn fun i => sbusGetChannel frame i, decoded⟩
  rw [hbyte] at hlast
  generalize sbusFrame ⟨Vector.ofFn fun i => sbusGetChannel frame i, decoded⟩ = sent
    at hlast hfirst hmiddle hlen ⊢
  apply eq_of_bitAt (hlen.trans h.length.symm)
  intro p hp
  rw [hlen] at hp
  have hsize : sbusFrameSize = 25 := rfl
  by_cases hlow : 8 ≤ p
  . by_cases hhigh : p < 184
    . exact hmiddle hlow hhigh
    . unfold bitAt
      by_cases hflag : p < 192
      . have hdiv : p / 8 = 23 := by
          omega
        rw [hdiv, hlast.1]
      . have hdiv : p / 8 = 24 := by
          omega
        rw [hdiv, hlast.2, h.last]
  . unfold bitAt
    have hdiv : p / 8 = 0 := by
      omega
    rw [hdiv, hfirst, h.first]

/--
A frame that is decoded, stored and sent again is the frame it was.
-/
theorem sbusFrame_roundTrip {frame : List Byte} (h : SbusFrameOk frame) (dev : SbusDevice)
    (ch : Vector (BitVec 16) sbusChannelNum) (flags : SbusFlag) (uartWrite : List Byte → Int)
    : let decoded := sbusDecodeFrame frame ch flags
      let stored := sbusSetAllChannels (some dev) decoded.1
      stored.1 = 0
        ∧ (sbusSendFrame (sbusSetFlags stored.2 (some decoded.2)) uartWrite).2 = some frame := by
  intro decoded stored
  have hstored : stored = (0, some { dev with channels := decoded.1 }) :=
    sbusSetAllChannels_eq dev decoded.1
  have hframe : sbusFrame ⟨decoded.1, decoded.2⟩ = frame := sbusFrame_decoded h ch flags
  rw [hstored]
  refine ⟨rfl, ?_⟩
  unfold sbusSetFlags sbusSendFrame
  dsimp only
  rw [hframe]
  split
  . rfl
  . rfl

theorem sbusFrame_roundTrip_neutral
    : let frame : List Byte := [0x0F, 0x00, 0x04, 0x20, 0x00, 0x01, 0x08, 0x40, 0x00, 0x02, 0x10, 0x80,
        0x00, 0x04, 0x20, 0x00, 0x01, 0x08, 0x40, 0x00, 0x02, 0x10, 0x80, 0x05, 0x00]
      let decoded := sbusDecodeFrame frame sbusCreate.channels sbusCreate.flags
      let stored := sbusSetAllChannels (some sbusCreate) decoded.1
      stored.1 = 0
        ∧ (sbusSendFrame (sbusSetFlags stored.2 (some decoded.2)) fun _ => 25).2 = some frame := by
  intro frame
  exact sbusFrame_roundTrip ⟨rfl, rfl, by decide, rfl⟩ sbusCreate _ _ _

end Sbus

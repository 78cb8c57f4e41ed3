import RtsmartLib.Peer.Rtp

/-!
This module contains frames whose units stand behind start codes, and that the encoder finds the units which a
frame was made of.
-/

namespace Peer

open Lib

def startCode : Delimiter Byte where
  word := [0x00, 0x00, 0x01]
  nonempty := by simp
  borderless := by
    intro part hne hbegins hsuffix
    have hinits := (List.mem_inits part _).mpr hbegins
    have htails := (List.mem_tails part _).mpr hsuffix
    simp at hinits htails
    grind

theorem h264FindNalu_eq (buf : List Byte) : h264FindNalu buf = startCode.endOfFirst buf := by
  fun_induction h264FindNalu buf with
  | case1 a b c rest h =>
    simp [Delimiter.endOfFirst, startCode, h]
  | case2 a b c rest h ih =>
    conv =>
      rhs
      unfold Delimiter.endOfFirst
    rw [if_neg]
    . rw [ih]
    . intro hbegins
      apply h
      simp [startCode] at hbegins
      simp [← hbegins.1, ← hbegins.2.1, ← hbegins.2.2]
  | case3 buf h =>
    rw [Delimiter.endOfFirst_of_absent]
    intro hoccurs
    have hlength := hoccurs.length_le
    have hthree : startCode.word.length = 3 := rfl
    rw [hthree] at hlength
    apply h (buf.getD 0 0) (buf.getD 1 0) (buf.getD 2 0) (buf.drop 3)
    rw [List.getD_eq_getElem _ _ (by omega), List.getD_eq_getElem _ _ (by omega),
      List.getD_eq_getElem _ _ (by omega)]
    rw [List.getElem_cons_drop, List.getElem_cons_drop, List.getElem_cons_drop]
    rfl

/--
A unit that a start code can delimit: nothing in it looks like one, and its last byte is not taken for a zero
byte behind it.
-/
structure Delimitable (nalu : List Byte) : Prop where
  last_ne : ∀ b, nalu.getLast? = some b → b ≠ 0x00
  free : ¬startCode.word <:+: nalu

theorem Delimitable.free_zeros {nalu : List Byte} (h : Delimitable nalu) (k : Nat)
    : ¬startCode.word <:+: nalu ++ List.replicate k 0x00 := by
  apply Delimiter.not_infix_append h.free
  intro b hb
  rw [List.eq_of_mem_replicate hb]
  decide

theorem startCode_not_infix_zeros (k : Nat) : ¬startCode.word <:+: List.replicate k (0x00 : Byte) := by
  have h : ¬startCode.word <:+: ([] : List Byte) := by
    decide
  rw [← List.nil_append (List.replicate k (0x00 : Byte))]
  apply Delimiter.not_infix_append h
  intro b hb
  rw [List.eq_of_mem_replicate hb]
  decide

theorem rdropWhile_zeros (nalu : List Byte) (k : Nat)
    : (nalu ++ List.replicate k 0x00).rdropWhile (· = 0x00) = nalu.rdropWhile (· = 0x00) := by
  induction k with
  | zero => simp
  | succ k ih =>
    rw [List.replicate_succ']
    rw [← List.append_assoc]
    rw [List.rdropWhile_concat_pos]
    . assumption
    . simp

theorem Delimitable.rdropWhile_eq {nalu : List Byte} (h : Delimitable nalu)
    : nalu.rdropWhile (· = 0x00) = nalu := by
  rw [List.rdropWhile_eq_self_iff]
  intro hne
  simp only [decide_eq_true_eq]
  apply h.last_ne
  apply List.getLast?_eq_some_getLast

/-
The unit in front of the next start code.
-/
theorem naluBytes_append {nalu : List Byte} (h : Delimitable nalu) (k : Nat) {rest : List Byte}
    (hrest : rest ≠ [])
    : naluBytes (nalu ++ List.replicate k 0x00 ++ (startCode.word ++ rest)) (nalu.length + k + 3) = nalu := by
  have hlength : 0 < rest.length := List.length_pos_of_ne_nil hrest
  have hsplit : nalu ++ List.replicate k 0x00 ++ (startCode.word ++ rest)
      = (nalu ++ List.replicate (k + 2) 0x00) ++ (0x01 :: rest) := by
    rw [List.replicate_add]
    simp [startCode]
  unfold naluBytes
  rw [if_pos]
  . dsimp only
    rw [hsplit]
    rw [List.take_left']
    . rw [rdropWhile_zeros]
      apply h.rdropWhile_eq
    . simp
      omega
  . simp [startCode]
    omega

theorem naluBytes_last {nalu : List Byte} (h : Delimitable nalu) (k : Nat)
    : naluBytes (nalu ++ List.replicate k 0x00) (nalu ++ List.replicate k 0x00).length = nalu := by
  unfold naluBytes
  rw [if_neg (by simp)]
  dsimp only
  rw [List.take_length]
  rw [rdropWhile_zeros]
  apply h.rdropWhile_eq

/-
Each unit has its start code in front of it, with any number of zero bytes before that.
-/
structure AnnexBUnit where
  zeros : Nat
  nalu : List Byte
deriving DecidableEq

structure AnnexBFrame where
  units : List AnnexBUnit
  trailingZeros : Nat
deriving DecidableEq

def annexBBytes (units : List AnnexBUnit) (trailingZeros : Nat) : List Byte :=
  match units with
  | [] => List.replicate trailingZeros 0x00
  | unit :: units =>
    List.replicate unit.zeros 0x00 ++ (startCode.word ++ (unit.nalu ++ annexBBytes units trailingZeros))

def AnnexBFrame.bytes (frame : AnnexBFrame) : List Byte :=
  annexBBytes frame.units frame.trailingZeros

/-
What the loop over the units does with each of them.
-/
def sendUnit (sizeMin : Nat) (single fragmented : RtpEncode) : RtpEncode := fun encoder nalu =>
  if nalu.length < sizeMin then (encoder, [])
  else if nalu.length ≤ rtpPayloadSize then single encoder nalu
  else fragmented encoder nalu

def sendAll (send : RtpEncode) (encoder : RtpEncoder) (nalus : List (List Byte))
    : RtpEncoder × List (List Byte) :=
  match nalus with
  | [] => (encoder, [])
  | nalu :: nalus =>
    let res := send encoder nalu
    let res' := sendAll send res.1 nalus
    (res'.1, res.2 ++ res'.2)

section Units

variable {sizeMin : Nat} {single fragmented : RtpEncode}

theorem rtpEncodeNalus_nil (encoder : RtpEncoder)
    : rtpEncodeNalus sizeMin single fragmented encoder [] = (encoder, []) := by
  unfold rtpEncodeNalus
  simp

theorem rtpEncodeNalus_last {nalu : List Byte} (hne : nalu ≠ []) (h : Delimitable nalu) (k : Nat)
    (encoder : RtpEncoder)
    : rtpEncodeNalus sizeMin single fragmented encoder (nalu ++ List.replicate k 0x00)
        = sendUnit sizeMin single fragmented encoder nalu := by
  have hlength : 0 < nalu.length := List.length_pos_of_ne_nil hne
  unfold rtpEncodeNalus
  rw [dif_neg (by rw [List.length_append]; omega)]
  rw [h264FindNalu_eq]
  rw [Delimiter.endOfFirst_of_absent (h.free_zeros k)]
  simp only [naluBytes_last h k, List.drop_length, rtpEncodeNalus_nil, List.append_nil]
  rfl

theorem rtpEncodeNalus_append {nalu : List Byte} (h : Delimitable nalu) (k : Nat) {rest : List Byte}
    (hrest : rest ≠ []) (encoder : RtpEncoder)
    : rtpEncodeNalus sizeMin single fragmented encoder
          (nalu ++ List.replicate k 0x00 ++ (startCode.word ++ rest))
        = let res := sendUnit sizeMin single fragmented encoder nalu
          let res' := rtpEncodeNalus sizeMin single fragmented res.1 rest
          (res'.1, res.2 ++ res'.2) := by
  have hfind : h264FindNalu (nalu ++ List.replicate k 0x00 ++ (startCode.word ++ rest))
      = nalu.length + k + 3 := by
    rw [h264FindNalu_eq]
    rw [Delimiter.endOfFirst_append (h.free_zeros k)]
    simp [startCode]
  have hdrop : (nalu ++ List.replicate k 0x00 ++ (startCode.word ++ rest)).drop (nalu.length + k + 3)
      = rest := by
    rw [← List.append_assoc]
    rw [List.drop_left']
    simp [startCode]
    omega
  conv =>
    lhs
    unfold rtpEncodeNalus
  rw [dif_neg (by simp [startCode])]
  simp only [hfind, hdrop, naluBytes_append h k hrest]
  rfl

/-
The loop from the first byte of a unit on.
-/
theorem rtpEncodeNalus_annexBBytes {nalu : List Byte} (hne : nalu ≠ []) (h : Delimitable nalu)
    (units : List AnnexBUnit) (hunits : ∀ unit ∈ units, unit.nalu ≠ [] ∧ Delimitable unit.nalu)
    (trailingZeros : Nat) (encoder : RtpEncoder)
    : rtpEncodeNalus sizeMin single fragmented encoder (nalu ++ annexBBytes units trailingZeros)
        = sendAll (sendUnit sizeMin single fragmented) encoder (nalu :: units.map AnnexBUnit.nalu) := by
  induction units generalizing nalu encoder with
  | nil =>
    simp only [annexBBytes, List.map_nil, sendAll, List.append_nil]
    apply rtpEncodeNalus_last hne h
  | cons unit units ih =>
    have hunit := hunits unit (by simp)
    have hrest : ∀ unit ∈ units, unit.nalu ≠ [] ∧ Delimitable unit.nalu := by
      intro unit' hmem
      apply hunits
      simp [hmem]
    simp only [annexBBytes, List.map_cons]
    rw [← List.append_assoc]
    rw [rtpEncodeNalus_append h]
    . simp only [ih hunit.1 hunit.2 hrest]
      rfl
    . simp [hunit.1]

theorem rtpEncodeNalus_frame (frame : AnnexBFrame)
    (hunits : ∀ unit ∈ frame.units, unit.nalu ≠ [] ∧ Delimitable unit.nalu) (encoder : RtpEncoder)
    : rtpEncodeNalus sizeMin single fragmented encoder (frame.bytes.drop (h264FindNalu frame.bytes))
        = sendAll (sendUnit sizeMin single fragmented) encoder (frame.units.map AnnexBUnit.nalu) := by
  cases frame with
  | mk units trailingZeros =>
    unfold AnnexBFrame.bytes
    cases units with
    | nil =>
      simp only [annexBBytes]
      rw [h264FindNalu_eq]
      rw [Delimiter.endOfFirst_of_absent (startCode_not_infix_zeros trailingZeros)]
      rw [List.drop_length]
      apply rtpEncodeNalus_nil
    | cons unit units =>
      have hunit := hunits unit (by simp)
      simp only [annexBBytes, List.map_cons]
      rw [h264FindNalu_eq]
      rw [Delimiter.endOfFirst_append (startCode_not_infix_zeros unit.zeros)]
      rw [← List.append_assoc]
      rw [List.drop_left' (by simp)]
      apply rtpEncodeNalus_annexBBytes hunit.1 hunit.2
      intro unit' hmem
      apply hunits
      simp [hmem]

end Units

end Peer

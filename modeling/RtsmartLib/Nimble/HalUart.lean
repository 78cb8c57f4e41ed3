import RtsmartLib.Hal.Hci
import RtsmartLib.Lib.Framing
import RtsmartLib.Lib.Machine

/-!
This module contains the transmit side of the UART port: the bytes that the host's callback hands out one
by one are cut into H4 packets, and each packet is given to the HCI driver as a whole.
-/

namespace Nimble

open Lib Posix Hci

def hciTxPacketMax : Nat := 1024

def sizeMax : Nat := 2 ^ 64 - 1

/-
0 while the packet does not tell its size yet.
-/
def hciPacketSize (packet : List Byte) : Nat :=
  let length := packet.length
  if length = 0 then
    0
  else if packet.getD 0 0 = h4Cmd then
    if length ≥ 4 then 4 + (packet.getD 3 0).toNat else 0
  else if packet.getD 0 0 = h4Acl then
    if length ≥ 5 then 5 + (packet.getD 3 0).toNat + (packet.getD 4 0).toNat <<< 8 else 0
  else if packet.getD 0 0 = h4Sco then
    if length ≥ 4 then 4 + (packet.getD 3 0).toNat else 0
  else if packet.getD 0 0 = h4Iso then
    if length ≥ 5 then
      5 + (((packet.getD 3 0).toNat + (packet.getD 4 0).toNat <<< 8) &&& 0x3fff)
    else
      0
  else
    sizeMax

/-
The loop of `hal_uart_start_tx`. The callback takes the bytes off `queue`; it has none when that is empty.
-/
def halUartStartTxLoop (packet queue : List Byte) : Option (List Byte) × List Byte :=
  match queue with
  | [] => (none, [])
  | byte :: queue =>
    if packet.length < hciTxPacketMax then
      let packet := packet ++ [byte]
      let expected := hciPacketSize packet
      if expected = sizeMax ∨ expected > hciTxPacketMax then
        (none, queue)
      else if expected ≠ 0 ∧ packet.length = expected then
        (some packet, queue)
      else
        halUartStartTxLoop packet queue
    else
      (none, byte :: queue)

/-
The packet that is handed to `drv_hci_write_packet`, and what comes of that.
-/
structure StartTx where
  handed : Option (List Byte)
  written : Option HciWritten

def halUartStartTx (answers : HciAnswers) (queue : List Byte) : List Byte × StartTx :=
  let (handed, queue) := halUartStartTxLoop [] queue
  (queue, ⟨handed, handed.map (drvHciWritePacket answers · 1000)⟩)

def halUartMachine : Machine (List Byte) HciAnswers StartTx :=
  ⟨fun queue answers => halUartStartTx answers queue⟩

/-
The H4 packets as a code: the header of a packet tells its size.
-/
def packetSize (packet : List Byte) : Option Nat :=
  let expected := hciPacketSize packet
  if expected = 0 ∨ expected = sizeMax then none else some expected

theorem getD_append_of_lt {packet : List Byte} {i : Nat} (h : i < packet.length) (more : List Byte)
    : (packet ++ more).getD i 0 = packet.getD i 0 := by
  rw [List.getD_append _ _ _ _ h]

theorem hciPacketSize_append {packet : List Byte} (h : hciPacketSize packet ≠ 0) (more : List Byte)
    : hciPacketSize (packet ++ more) = hciPacketSize packet := by
  have htype : 0 < packet.length → (packet ++ more).getD 0 0 = packet.getD 0 0 :=
    fun hlt => getD_append_of_lt hlt more
  have hlow : 3 < packet.length → (packet ++ more).getD 3 0 = packet.getD 3 0 :=
    fun hlt => getD_append_of_lt hlt more
  have hhigh : 4 < packet.length → (packet ++ more).getD 4 0 = packet.getD 4 0 :=
    fun hlt => getD_append_of_lt hlt more
  have hlength : (packet ++ more).length = packet.length + more.length := List.length_append
  unfold hciPacketSize at h ⊢
  grind

def hciCode : LengthCode Byte where
  size := packetSize
  stable := by
    intro packet n h more
    unfold packetSize at h ⊢
    dsimp only at h ⊢
    by_cases hnone : hciPacketSize packet = 0 ∨ hciPacketSize packet = sizeMax
    . rw [if_pos hnone] at h
      cases h
    . rw [hciPacketSize_append (not_or.mp hnone).1]
      exact h

theorem drvHciGetLe16_toNat (packet : List Byte)
    : (drvHciGetLe16 (packet.drop 3)).toNat
        = (packet.getD 3 0).toNat + (packet.getD 4 0).toNat <<< 8 := by
  have hget : ∀ i, (packet.drop 3).getD i 0 = packet.getD (3 + i) 0 := by
    intro i
    simp only [List.getD_eq_getElem?_getD, List.getElem?_drop]
  have hlow := (packet.getD 3 0).isLt
  have hhigh := (packet.getD 4 0).isLt
  unfold drvHciGetLe16
  rw [hget, hget]
  rw [BitVec.toNat_or, BitVec.toNat_shiftLeft, BitVec.toNat_setWidth, BitVec.toNat_setWidth]
  rw [Nat.mod_eq_of_lt (by omega), Nat.mod_eq_of_lt (by omega)]
  rw [Nat.mod_eq_of_lt (by omega)]
  rw [Nat.or_comm, ← Nat.shiftLeft_add_eq_or_of_lt hlow, Nat.add_comm]

/-
The framer and the validator compute lengths on their own, and come to the same.
-/
theorem drvHciTxPacketValid_iff (packet : List Byte)
    : drvHciTxPacketValid packet = true ↔ hciCode.Word packet := by
  have hle16 := drvHciGetLe16_toNat packet
  have hmask : (drvHciGetLe16 (packet.drop 3) &&& 0x3fff#16).toNat
      = ((packet.getD 3 0).toNat + (packet.getD 4 0).toNat <<< 8) &&& 0x3fff := by
    rw [BitVec.toNat_and, hle16]
    rfl
  have hlow := (packet.getD 3 0).isLt
  have hhigh : (packet.getD 4 0).toNat <<< 8 < 2 ^ 16 := by
    have := (packet.getD 4 0).isLt
    rw [Nat.shiftLeft_eq]
    omega
  have hiso : (((packet.getD 3 0).toNat + (packet.getD 4 0).toNat <<< 8) &&& 0x3fff) ≤ 0x3fff :=
    Nat.and_le_right
  change _ ↔ packetSize packet = some packet.length
  unfold drvHciTxPacketValid packetSize hciPacketSize sizeMax
  rw [hle16, hmask]
  grind

theorem hciPacketSize_word {packet : List Byte} (h : hciCode.Word packet)
    : hciPacketSize packet = packet.length ∧ 0 < packet.length ∧ packet.length ≠ sizeMax := by
  change packetSize packet = some packet.length at h
  unfold packetSize at h
  dsimp only at h
  by_cases hnone : hciPacketSize packet = 0 ∨ hciPacketSize packet = sizeMax
  . rw [if_pos hnone] at h
    cases h
  . rw [if_neg hnone] at h
    have hsize := Option.some.inj h
    rw [hsize] at hnone
    have ⟨hzero, hmax⟩ := not_or.mp hnone
    exact ⟨hsize, Nat.pos_of_ne_zero hzero, hmax⟩

/-
A part of a packet tells the size of the whole or nothing yet.
-/
theorem hciPacketSize_prefix {packet part : List Byte} (h : hciCode.Word packet)
    (hinitial : part <+: packet)
    : hciPacketSize part = 0 ∨ hciPacketSize part = packet.length := by
  obtain ⟨more, rfl⟩ := hinitial
  by_cases hzero : hciPacketSize part = 0
  . left
    exact hzero
  . right
    rw [← hciPacketSize_append hzero more]
    apply (hciPacketSize_word h).1

/-
Only packets with a length field of two bytes are long, and these tell their size with the fifth byte.
-/
theorem hciPacketSize_long {packet part : List Byte} (h : hciCode.Word packet)
    (hlong : packet.length > hciTxPacketMax) (hinitial : part <+: packet) (hne : part ≠ [])
    : hciPacketSize part = if part.length < 5 then 0 else packet.length := by
  have hcases := hciPacketSize_prefix h hinitial
  have hpos : 0 < part.length := List.length_pos_of_ne_nil hne
  have hlow := (part.getD 3 0).isLt
  have hmax := (hciPacketSize_word h).2.2
  unfold hciTxPacketMax at hlong
  unfold hciPacketSize at hcases ⊢
  unfold sizeMax at hcases hmax ⊢
  grind

/-
What the loop makes of the packet that it has so far.
-/
def txLook (packet : List Byte) : Reading :=
  let expected := hciPacketSize packet
  if expected = sizeMax ∨ expected > hciTxPacketMax then .stop
  else if expected ≠ 0 ∧ packet.length = expected then .done
  else if packet.length < hciTxPacketMax then .more
  else .stop

theorem halUartStartTxLoop_eq {packet : List Byte} (h : packet.length < hciTxPacketMax)
    (queue : List Byte)
    : halUartStartTxLoop packet queue = readWord txLook packet queue := by
  induction queue generalizing packet with
  | nil => rfl
  | cons byte queue ih =>
    have hnext := @ih (packet ++ [byte])
    unfold halUartStartTxLoop readWord
    generalize readWord txLook (packet ++ [byte]) queue = next at hnext
    unfold txLook
    rw [if_pos h]
    dsimp only
    split
    . rfl
    split
    . rfl
    by_cases hlength : (packet ++ [byte]).length < hciTxPacketMax
    . rw [if_pos hlength, hnext hlength]
    . -- the buffer is full, so the callback is not asked again
      rw [if_neg hlength]
      cases queue with
      | nil => rfl
      | cons byte' queue =>
        unfold halUartStartTxLoop
        rw [if_neg hlength]

theorem halUartStartTxLoop_packet {packet : List Byte} (h : hciCode.Word packet)
    (hlength : packet.length ≤ hciTxPacketMax) (rest : List Byte)
    : halUartStartTxLoop [] (packet ++ rest) = (some packet, rest) := by
  have ⟨hsize, hpos, hmax⟩ := hciPacketSize_word h
  have hdone : txLook packet = .done := by
    unfold txLook
    rw [hsize]
    grind
  rw [halUartStartTxLoop_eq (by decide)]
  rw [readWord_append]
  . rw [List.nil_append, if_pos hdone]
  . exact List.ne_nil_of_length_pos hpos
  . intro part _ hinitial hne
    -- a proper part of the packet is not the whole of one
    have hlt : part.length < packet.length := by
      apply Nat.lt_of_le_of_ne hinitial.length_le
      intro heq
      exact hne (hinitial.eq_of_length heq)
    have hcases := hciPacketSize_prefix h hinitial
    rw [List.nil_append]
    unfold txLook
    unfold sizeMax at hmax ⊢
    grind
  . rw [List.nil_append, hdone]
    decide

theorem halUartStartTxLoop_long {packet : List Byte} (h : hciCode.Word packet)
    (hlong : packet.length > hciTxPacketMax) (rest : List Byte)
    : halUartStartTxLoop [] (packet ++ rest) = (none, packet.drop 5 ++ rest) := by
  have hfive : (packet.take 5).length = 5 := by
    unfold hciTxPacketMax at hlong
    rw [List.length_take]
    omega
  have hne : packet.take 5 ≠ [] := by
    intro hnil
    rw [hnil] at hfive
    cases hfive
  have hstop : txLook (packet.take 5) = .stop := by
    unfold txLook
    rw [hciPacketSize_long h hlong (List.take_prefix 5 packet) hne]
    grind
  rw [halUartStartTxLoop_eq (by decide)]
  conv => lhs; rw [← List.take_append_drop 5 packet, List.append_assoc]
  rw [readWord_append]
  . rw [List.nil_append, hstop, if_neg (by decide)]
  . exact hne
  . intro part hpart hinitial hpart'
    -- the first four bytes do not tell the size yet
    have hlt : part.length < 5 := by
      rw [← hfive]
      apply Nat.lt_of_le_of_ne hinitial.length_le
      intro heq
      exact hpart' (hinitial.eq_of_length heq)
    have hzero := hciPacketSize_long h hlong (hinitial.trans (List.take_prefix 5 packet)) hpart
    rw [if_pos hlt] at hzero
    rw [List.nil_append]
    unfold txLook
    unfold hciTxPacketMax sizeMax
    grind
  . rw [List.nil_append, hstop]
    decide

abbrev H4Packet := { packet : List Byte // drvHciTxPacketValid packet = true }

/-
The bytes of packets one after another.
-/
def packetStream (packets : List H4Packet) : List Byte := (packets.map Subtype.val).flatten

theorem packetStream_cons (packet : H4Packet) (packets : List H4Packet)
    : packetStream (packet :: packets) = packet.val ++ packetStream packets :=
  rfl

theorem H4Packet.word (packet : H4Packet) : hciCode.Word packet.val :=
  (drvHciTxPacketValid_iff packet.val).mp packet.property

theorem halUartStartTx_packet {packet : H4Packet} (h : packet.val.length ≤ hciTxPacketMax)
    (packets : List H4Packet) (answers : HciAnswers)
    : (halUartStartTx answers (packetStream (packet :: packets))).1 = packetStream packets
        ∧ (halUartStartTx answers (packetStream (packet :: packets))).2.handed = some packet.val := by
  unfold halUartStartTx
  rw [packetStream_cons, halUartStartTxLoop_packet packet.word h]
  exact ⟨rfl, rfl⟩

theorem halUartStartTx_long {packet : H4Packet} (h : packet.val.length > hciTxPacketMax)
    (packets : List H4Packet) (answers : HciAnswers)
    : (halUartStartTx answers (packetStream (packet :: packets))).1
        = packet.val.drop 5 ++ packetStream packets := by
  unfold halUartStartTx
  rw [packetStream_cons, halUartStartTxLoop_long packet.word h]

theorem drvHciTxPacketValid_prefixFree {packet packet' : H4Packet}
    (hinitial : packet.val <+: packet'.val)
    : packet = packet' := by
  apply Subtype.ext
  apply packet.word.eq_of_prefix packet'.word hinitial

theorem visits_handed {packets : List H4Packet} (h : ∀ packet ∈ packets, packet.val.length ≤ hciTxPacketMax)
    (answers : List HciAnswers)
    : (halUartMachine.visits (packetStream packets) answers).map (·.obs.handed)
        = (List.range answers.length).map (fun call => packets[call]?.map Subtype.val) := by
  induction answers generalizing packets with
  | nil => rfl
  | cons answer answers ih =>
    rw [List.length_cons, List.range_succ_eq_map]
    rw [Machine.visits_cons, List.map_cons, List.map_cons, List.map_map]
    cases packets with
    | nil =>
      rw [show (halUartMachine.step (packetStream []) answer).1 = packetStream [] from rfl]
      rw [ih h]
      rfl
    | cons packet packets =>
      rw [List.forall_mem_cons] at h
      have ⟨hqueue, hhanded⟩ := halUartStartTx_packet h.1 packets answer
      change _ :: _ = _
      rw [show (halUartMachine.step (packetStream (packet :: packets)) answer).1
        = packetStream packets from hqueue]
      rw [ih h.2]
      rw [Machine.visit_obs]
      rw [show (halUartMachine.step (packetStream (packet :: packets)) answer).2.handed
        = some packet.val from hhanded]
      rfl

/--
Successive calls hand over the packets of a stream one by one, and none once the stream is used up. What
they hand over, the driver accepts; and no packet that it accepts goes on into another one.
-/
theorem halUartStartTx_handsPackets {packets : List H4Packet}
    (h : ∀ packet ∈ packets, packet.val.length ≤ hciTxPacketMax) (answers : List HciAnswers)
    : (halUartMachine.visits (packetStream packets) answers).map (·.obs.handed)
          = (List.range answers.length).map (fun call => packets[call]?.map Subtype.val)
        ∧ (∀ v ∈ halUartMachine.visits (packetStream packets) answers, ∀ packet,
            v.obs.handed = some packet → drvHciTxPacketValid packet = true)
        ∧ ∀ packet packet', drvHciTxPacketValid packet = true →
            drvHciTxPacketValid packet' = true → packet <+: packet' → packet = packet' := by
  have hhanded := visits_handed h answers
  refine ⟨hhanded, ?_, ?_⟩
  . intro v hv packet hpacket
    have hmem : some packet ∈ (halUartMachine.visits (packetStream packets) answers).map
        (·.obs.handed) := by
      rw [← hpacket]
      apply List.mem_map_of_mem hv
    rw [hhanded] at hmem
    obtain ⟨call, _, hcall⟩ := List.mem_map.mp hmem
    obtain ⟨packet', _, heq⟩ := Option.map_eq_some_iff.mp hcall
    rw [← heq]
    exact packet'.property
  . intro packet packet' hvalid hvalid' hinitial
    exact congrArg Subtype.val
      (@drvHciTxPacketValid_prefixFree ⟨packet, hvalid⟩ ⟨packet', hvalid'⟩ hinitial)

/-
The reset command, and data on a connection.
-/
def resetPacket : H4Packet := ⟨[0x01, 0x03, 0x0c, 0x00], by decide⟩

def dataPacket : H4Packet := ⟨[0x02, 0x40, 0x00, 0x02, 0x00, 0xaa, 0xbb], by decide⟩

def noAnswers : HciAnswers := ⟨true, none, .error eagain, .ok none, .error eagain⟩

theorem halUartStartTx_handsPackets_two
    : (halUartMachine.visits (packetStream [resetPacket, dataPacket])
        [noAnswers, noAnswers, noAnswers]).map (·.obs.handed)
          = [some resetPacket.val, some dataPacket.val, none] := by
  have hshort : ∀ packet ∈ [resetPacket, dataPacket], packet.val.length ≤ hciTxPacketMax := by
    decide
  exact (halUartStartTx_handsPackets hshort [noAnswers, noAnswers, noAnswers]).1

/-
Each call takes one packet off the stream and hands it over as a whole or not at all. Once the stream is
used up there is nothing to take.
-/
def TakesPackets (packets : List H4Packet)
    (visits : List (Machine.Visit (List Byte) HciAnswers StartTx)) : Prop :=
  match packets, visits with
  | _, [] => True
  | [], v :: visits => v.post = [] ∧ v.obs.handed = none ∧ TakesPackets [] visits
  | packet :: packets, v :: visits =>
    v.post = packetStream packets
      ∧ (v.obs.handed = some packet.val ∨ v.obs.handed = none)
      ∧ TakesPackets packets visits

/--
For any stream of packets and any number of calls: they take one packet each exactly if none of these is
longer than the buffer.
-/
theorem takesPackets_iff (packets : List H4Packet) (answers : List HciAnswers)
    : TakesPackets packets (halUartMachine.visits (packetStream packets) answers)
        ↔ ∀ packet ∈ packets.take answers.length, packet.val.length ≤ hciTxPacketMax := by
  induction answers generalizing packets with
  | nil => simp [TakesPackets]
  | cons answer answers ih =>
    rw [Machine.visits_cons]
    cases packets with
    | nil =>
      have hnext := ih []
      rw [List.take_nil] at hnext ⊢
      unfold TakesPackets
      constructor
      . intro _ packet hpacket
        cases hpacket
      . intro h
        exact ⟨rfl, rfl, hnext.mpr h⟩
    | cons packet packets =>
      unfold TakesPackets
      rw [List.length_cons, List.take_succ_cons, List.forall_mem_cons]
      rw [Machine.visit_post, Machine.visit_obs]
      by_cases hlength : packet.val.length ≤ hciTxPacketMax
      . have ⟨hqueue, hhanded⟩ := halUartStartTx_packet hlength packets answer
        change (halUartMachine.step (packetStream (packet :: packets)) answer).1 = _ at hqueue
        change (halUartMachine.step (packetStream (packet :: packets)) answer).2.handed = _ at hhanded
        rw [hqueue, hhanded, ih]
        constructor
        . intro ⟨_, _, hrest⟩
          exact ⟨hlength, hrest⟩
        . intro ⟨_, hrest⟩
          exact ⟨rfl, .inl rfl, hrest⟩
      . -- five bytes are gone, and the rest of the packet is still there
        have hqueue := halUartStartTx_long (Nat.lt_of_not_le hlength) packets answer
        change (halUartMachine.step (packetStream (packet :: packets)) answer).1 = _ at hqueue
        rw [hqueue]
        constructor
        . intro ⟨hpost, _⟩
          have hlen := congrArg List.length hpost
          rw [List.length_append, List.length_drop] at hlen
          unfold hciTxPacketMax at hlength
          omega
        . intro ⟨h, _⟩
          contradiction

/-
Data of 1020 bytes, which begin like a command.
-/
def longPacket : H4Packet :=
  ⟨[0x02, 0x40, 0x00, 0xfc, 0x03] ++ (resetPacket.val ++ List.replicate 1016 0), by
    decide +kernel⟩

/-
The first call drops five bytes, and the second sends the controller a command that the host never gave.
-/
theorem longPacket_not_taken
    : ¬TakesPackets [longPacket]
          (halUartMachine.visits (packetStream [longPacket]) [noAnswers, noAnswers])
        ∧ (halUartMachine.visits (packetStream [longPacket]) [noAnswers, noAnswers]).map
            (·.obs.handed) = [none, some resetPacket.val] := by
  constructor
  . intro h
    have hpost := congrArg List.length h.1
    revert hpost
    decide +kernel
  . decide +kernel

end Nimble

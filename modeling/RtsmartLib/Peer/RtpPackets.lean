import RtsmartLib.Peer.Rtp

/-!
This module contains what every packet of the encoder looks like, whatever the frames are: how long it is, which
number it has and how the receiver classifies it.
-/

namespace Peer

open Lib

def rtcpProbe (packet : List Byte) : Int :=
  if packet.length < 8 then -1
  else if rtpPacketType packet ≥ 64 ∧ rtpPacketType packet < 96 then 1 else 0

def dtlsSrtpProbe (buf : List Byte) : Bool :=
  buf.getD 0 0 = 0x17

inductive DatagramKind where
  | rtcp
  | dtls
  | rtp
  | unknown
deriving DecidableEq

/-
The order in which `peer_connection_loop` probes a datagram.
-/
def classifyDatagram (buf : List Byte) : DatagramKind :=
  if rtcpProbe buf ≠ 0 then .rtcp
  else if dtlsSrtpProbe buf then .dtls
  else if rtpPacketValidate buf then .rtp
  else .unknown

/-
The encoder behind `n` packets.
-/
def RtpEncoder.after (encoder : RtpEncoder) (n : Nat) : RtpEncoder :=
  { encoder with seqNumber := encoder.seqNumber + BitVec.ofNat 16 n }

@[simp]
theorem RtpEncoder.after_zero (encoder : RtpEncoder) : encoder.after 0 = encoder := by
  simp [after]

theorem RtpEncoder.after_after (encoder : RtpEncoder) (m n : Nat)
    : (encoder.after m).after n = encoder.after (m + n) := by
  simp [after, BitVec.ofNat_add, BitVec.add_assoc]

theorem RtpEncoder.next_eq (encoder : RtpEncoder) : encoder.next = encoder.after 1 := by
  simp [next, after]

/-
A packet that the encoder makes with the number it has.
-/
def PacketOf (encoder : RtpEncoder) (packet : List Byte) : Prop :=
  ∃ markerbit payload, packet = (encoder.header markerbit).bytes ++ payload ∧ payload ≠ []

/--
The packets that go out one after the other between two states of the encoder.
-/
structure Emitted (encoder : RtpEncoder) (packets : List (List Byte)) (encoder' : RtpEncoder) : Prop where
  encoder_eq : encoder' = encoder.after packets.length
  packet_of : ∀ i (h : i < packets.length), PacketOf (encoder.after i) packets[i]

theorem Emitted.nil (encoder : RtpEncoder) : Emitted encoder [] encoder where
  encoder_eq := by simp
  packet_of := by simp

theorem Emitted.single {encoder : RtpEncoder} {packet : List Byte} (h : PacketOf encoder packet)
    : Emitted encoder [packet] encoder.next where
  encoder_eq := by simp [RtpEncoder.next_eq]
  packet_of := by simpa using h

theorem Emitted.append {encoder encoder' encoder'' : RtpEncoder} {packets packets' : List (List Byte)}
    (h : Emitted encoder packets encoder') (h' : Emitted encoder' packets' encoder'')
    : Emitted encoder (packets ++ packets') encoder'' where
  encoder_eq := by
    rw [h'.encoder_eq, h.encoder_eq]
    rw [RtpEncoder.after_after]
    rw [List.length_append]
  packet_of := by
    intro i hi
    rw [List.getElem_append]
    split
    . apply h.packet_of
    . next hge =>
      rw [List.length_append] at hi
      have hpacket := h'.packet_of (i - packets.length) (by omega)
      rw [h.encoder_eq] at hpacket
      rw [RtpEncoder.after_after] at hpacket
      have hindex : packets.length + (i - packets.length) = i := by
        omega
      rw [hindex] at hpacket
      assumption

/--
An encoding that numbers its packets and keeps them within the transport unit.
-/
structure Packetizes (encode : RtpEncode) (Input : List Byte → Prop) : Prop where
  emitted : ∀ encoder buf, Input buf → Emitted encoder (encode encoder buf).2 (encode encoder buf).1
  length_le : ∀ encoder buf, Input buf → ∀ packet ∈ (encode encoder buf).2, packet.length ≤ configMtu

/-
The units that are sent as they are.
-/
def FitsPayload (buf : List Byte) : Prop :=
  buf ≠ [] ∧ buf.length ≤ rtpPayloadSize

theorem length_packet {header : RtpHeader} {payload : List Byte} (h : payload.length ≤ rtpPayloadSize)
    : (header.bytes ++ payload).length ≤ configMtu := by
  rw [List.length_append]
  rw [RtpHeader.length_bytes]
  simp only [rtpPayloadSize, sizeofRtpHeader, configMtu] at h ⊢
  omega

theorem packetizes_single (markerbit : List Byte → BitVec 1)
    : Packetizes (fun encoder buf => (encoder.next, [(encoder.header (markerbit buf)).bytes ++ buf]))
        FitsPayload where
  emitted := by
    intro encoder buf h
    apply Emitted.single
    exact ⟨markerbit buf, buf, rfl, h.1⟩
  length_le := by
    intro encoder buf h packet hmem
    rw [List.mem_singleton.mp hmem]
    apply length_packet h.2

section Fragments

variable {payloadSize : Nat} {hpos : 0 < payloadSize} {head : BitVec 1 → BitVec 1 → List Byte}

theorem emitted_fragments (hhead : ∀ s e, head s e ≠ []) (s : BitVec 1) (encoder : RtpEncoder)
    (buf : List Byte)
    : Emitted encoder (rtpEncodeFragments payloadSize hpos head s encoder buf).2
        (rtpEncodeFragments payloadSize hpos head s encoder buf).1 := by
  fun_induction rtpEncodeFragments payloadSize hpos head s encoder buf with
  | case1 => apply Emitted.nil
  | case2 s encoder buf =>
    apply Emitted.single
    exact ⟨1, head s 1 ++ buf, by simp, by simp [hhead]⟩
  | case3 s encoder buf _ _ packet res ih =>
    rw [← List.singleton_append]
    refine Emitted.append (Emitted.single ?_) ih
    exact ⟨0, head s 0 ++ buf.take payloadSize, by simp [packet], by simp [hhead]⟩

theorem length_le_of_mem_fragments (hroom : ∀ s e, (head s e).length + payloadSize ≤ rtpPayloadSize)
    (s : BitVec 1) (encoder : RtpEncoder) (buf : List Byte)
    : ∀ packet ∈ (rtpEncodeFragments payloadSize hpos head s encoder buf).2, packet.length ≤ configMtu := by
  fun_induction rtpEncodeFragments payloadSize hpos head s encoder buf with
  | case1 => simp
  | case2 s encoder buf _ hle =>
    have hhead := hroom s 1
    intro packet hmem
    rw [List.mem_singleton.mp hmem, List.append_assoc]
    apply length_packet
    rw [List.length_append]
    omega
  | case3 s encoder buf _ _ packet res ih =>
    have hhead := hroom s 0
    intro packet' hmem
    cases List.mem_cons.mp hmem with
    | inl heq =>
      rw [heq]
      simp only [packet, List.append_assoc]
      apply length_packet
      rw [List.length_append, List.length_take]
      omega
    | inr hmem => exact ih packet' hmem

end Fragments

theorem packetizes_h264FuA : Packetizes rtpEncoderEncodeH264FuA (fun _ => True) where
  emitted := by
    intro encoder buf _
    apply emitted_fragments
    simp [h264FuHead]
  length_le := by
    intro encoder buf _
    apply length_le_of_mem_fragments
    intro s e
    simp [h264FuHead, fuPayloadSize, rtpPayloadSize, sizeofRtpHeader, configMtu]

theorem packetizes_h265Fu : Packetizes rtpEncoderEncodeH265Fu (fun _ => True) where
  emitted := by
    intro encoder buf _
    apply emitted_fragments
    simp [h265FuHead]
  length_le := by
    intro encoder buf _
    apply length_le_of_mem_fragments
    intro s e
    simp [h265FuHead, h265FuPayloadSize, rtpPayloadSize, sizeofRtpHeader, configMtu]

/-
The loop over the units of any frame.
-/
theorem packetizes_nalus {sizeMin : Nat} {single fragmented : RtpEncode} (hmin : 0 < sizeMin)
    (hsingle : Packetizes single FitsPayload) (hfragmented : Packetizes fragmented (fun _ => True))
    : Packetizes (rtpEncodeNalus sizeMin single fragmented) (fun _ => True) where
  emitted := by
    intro encoder buf _
    fun_induction rtpEncodeNalus sizeMin single fragmented encoder buf with
    | case1 => apply Emitted.nil
    | case2 encoder buf hne pend nalu res res' ih =>
      refine Emitted.append ?_ ih
      simp only [res]
      split
      . apply Emitted.nil
      . split
        . apply hsingle.emitted
          unfold FitsPayload
          refine ⟨?_, by assumption⟩
          intro hnil
          simp_all
        . apply hfragmented.emitted
          trivial
  length_le := by
    intro encoder buf _
    fun_induction rtpEncodeNalus sizeMin single fragmented encoder buf with
    | case1 => simp
    | case2 encoder buf hne pend nalu res res' ih =>
      intro packet hmem
      cases List.mem_append.mp hmem with
      | inl hmem =>
        simp only [res] at hmem
        split at hmem
        . contradiction
        . split at hmem
          . apply hsingle.length_le encoder nalu _ packet hmem
            unfold FitsPayload
            refine ⟨?_, by assumption⟩
            intro hnil
            simp_all
          . exact hfragmented.length_le encoder nalu trivial packet hmem
      | inr hmem => exact ih packet hmem

section Header

variable (header : RtpHeader) (payload : List Byte)

@[simp]
theorem rtpPacketType_header : rtpPacketType (header.bytes ++ payload) = header.type := by
  simp only [rtpPacketType, RtpHeader.bytes, List.cons_append, List.getD_cons_succ, List.getD_cons_zero]
  apply BitVec.setWidth_append_eq_right

@[simp]
theorem rtpGetSsrc_header : rtpGetSsrc (header.bytes ++ payload) = header.ssrc := by
  unfold rtpGetSsrc RtpHeader.bytes
  rw [List.append_assoc]
  apply getBigEndian32_append
  simp

theorem getBigEndian16_header : getBigEndian16 (header.bytes ++ payload) 2 = header.seqNumber := by
  unfold RtpHeader.bytes
  simp only [List.append_assoc]
  apply getBigEndian16_append
  simp

end Header

/--
What a receiver finds in a packet that has the number `seqNumber` in a stream.
-/
structure StreamPacket (type : RtpPayloadType) (ssrc : BitVec 32) (seqNumber : BitVec 16) (packet : List Byte)
    : Prop where
  seqNumber_eq : getBigEndian16 packet 2 = seqNumber
  ssrc_eq : rtpGetSsrc packet = ssrc
  type_eq : rtpPacketType packet = type.val
  kind_eq : classifyDatagram packet = .rtp
  longer : sizeofRtpHeader < packet.length

theorem PacketOf.streamPacket {encoder : RtpEncoder} {packet : List Byte} (h : PacketOf encoder packet)
    : StreamPacket encoder.type encoder.ssrc encoder.seqNumber packet := by
  obtain ⟨markerbit, payload, hpacket, hne⟩ := h
  have hpayload : 0 < payload.length := List.length_pos_of_ne_nil hne
  have hlength : sizeofRtpHeader < packet.length := by
    rw [hpacket, List.length_append, RtpHeader.length_bytes]
    omega
  have htype : rtpPacketType packet = encoder.type.val := by
    rw [hpacket, rtpPacketType_header]
    rfl
  refine ⟨?_, ?_, htype, ?_, hlength⟩
  . rw [hpacket]
    apply getBigEndian16_header
  . rw [hpacket]
    apply rtpGetSsrc_header
  . have hfirst : packet.getD 0 0 = 0x80 := by
      rw [hpacket]
      simp [RtpHeader.bytes, RtpEncoder.header]
    have hdtls : dtlsSrtpProbe packet = false := by
      unfold dtlsSrtpProbe
      rw [hfirst]
      decide
    unfold sizeofRtpHeader at hlength
    have hrtcp : rtcpProbe packet = 0 := by
      unfold rtcpProbe
      rw [if_neg (by omega)]
      rw [htype]
      cases encoder.type with
      | _ => decide
    have hrtp : rtpPacketValidate packet = true := by
      unfold rtpPacketValidate
      rw [if_neg (by omega)]
      rw [htype]
      cases encoder.type with
      | _ => decide
    simp [classifyDatagram, hrtcp, hdtls, hrtp]

/-
Packets of one stream, numbered one after the other.
-/
def StreamFrom (type : RtpPayloadType) (ssrc : BitVec 32) (seqNumber : BitVec 16)
    (packets : List (List Byte)) : Prop :=
  ∀ i (h : i < packets.length), StreamPacket type ssrc (seqNumber + BitVec.ofNat 16 i) packets[i]

theorem StreamFrom.append {type : RtpPayloadType} {ssrc : BitVec 32} {seqNumber : BitVec 16}
    {packets packets' : List (List Byte)} (h : StreamFrom type ssrc seqNumber packets)
    (h' : StreamFrom type ssrc (seqNumber + BitVec.ofNat 16 packets.length) packets')
    : StreamFrom type ssrc seqNumber (packets ++ packets') := by
  intro i hi
  rw [List.getElem_append]
  split
  . apply h
  . next hge =>
    rw [List.length_append] at hi
    have hpacket := h' (i - packets.length) (by omega)
    rw [BitVec.add_assoc, ← BitVec.ofNat_add] at hpacket
    have hindex : packets.length + (i - packets.length) = i := by
      omega
    rw [hindex] at hpacket
    assumption

theorem Emitted.streamFrom {encoder encoder' : RtpEncoder} {packets : List (List Byte)}
    (h : Emitted encoder packets encoder')
    : StreamFrom encoder.type encoder.ssrc encoder.seqNumber packets := by
  intro i hi
  exact (h.packet_of i hi).streamPacket

theorem packetizes_h264 : Packetizes rtpEncoderEncodeH264 (fun _ => True) where
  emitted := by
    intro encoder buf h
    apply (packetizes_nalus (by decide) (packetizes_single _) packetizes_h264FuA).emitted
    assumption
  length_le := by
    intro encoder buf h
    apply (packetizes_nalus (by decide) (packetizes_single _) packetizes_h264FuA).length_le
    assumption

theorem packetizes_h265 : Packetizes rtpEncoderEncodeH265 (fun _ => True) where
  emitted := by
    intro encoder buf h
    apply (packetizes_nalus (by decide) (packetizes_single _) packetizes_h265Fu).emitted
    assumption
  length_le := by
    intro encoder buf h
    apply (packetizes_nalus (by decide) (packetizes_single _) packetizes_h265Fu).length_le
    assumption

/-
Packets of the generic encoding are as long as the frame is.
-/
theorem packetizes_generic : Packetizes rtpEncoderEncodeGeneric FitsPayload := packetizes_single fun _ => 0

/--
The frames with which the encoding stays within the transport unit: any for the video codecs.
-/
def RtpEncodeFunc.Accepts (func : RtpEncodeFunc) (buf : List Byte) : Prop :=
  match func with
  | .h264 => True
  | .h265 => True
  | .generic => buf.length ≤ rtpPayloadSize

theorem packetizes_run (func : RtpEncodeFunc)
    : Packetizes func.run (fun buf => func.Accepts buf ∧ buf ≠ []) := by
  cases func with
  | h264 =>
    exact ⟨fun encoder buf _ => packetizes_h264.emitted encoder buf trivial,
      fun encoder buf _ => packetizes_h264.length_le encoder buf trivial⟩
  | h265 =>
    exact ⟨fun encoder buf _ => packetizes_h265.emitted encoder buf trivial,
      fun encoder buf _ => packetizes_h265.length_le encoder buf trivial⟩
  | generic =>
    exact ⟨fun encoder buf h => packetizes_generic.emitted encoder buf ⟨h.2, h.1⟩,
      fun encoder buf h => packetizes_generic.length_le encoder buf ⟨h.2, h.1⟩⟩

/--
All packets of a run over any frames are one stream without gaps in its numbers, and fit the transport unit.
-/
theorem rtpEncodeAll_stream (func : RtpEncodeFunc) (encoder : RtpEncoder)
    (hfunc : encoder.encodeFunc = some func) (frames : List (List Byte × BitVec 64))
    (haccepts : ∀ frame ∈ frames, func.Accepts frame.1)
    : StreamFrom encoder.type encoder.ssrc encoder.seqNumber (rtpEncodeAll encoder frames).2
      ∧ (∀ packet ∈ (rtpEncodeAll encoder frames).2, packet.length ≤ configMtu) := by
  induction frames generalizing encoder with
  | nil => simp [rtpEncodeAll, StreamFrom]
  | cons frame frames ih =>
    have hrest : ∀ frame ∈ frames, func.Accepts frame.1 := by
      intro frame' hmem
      apply haccepts
      simp [hmem]
    have hframe := haccepts frame (by simp)
    unfold rtpEncodeAll rtpEncoderEncode
    simp only [hfunc]
    by_cases hempty : frame.1.length = 0
    . simp only [hempty, ↓reduceIte]
      apply ih encoder hfunc hrest
    . simp only [hempty, ↓reduceIte]
      have hne : frame.1 ≠ [] := by
        intro hnil
        apply hempty
        simp [hnil]
      have hemitted := (packetizes_run func).emitted (encoder.stamp frame.2) frame.1 ⟨hframe, hne⟩
      have hlength := (packetizes_run func).length_le (encoder.stamp frame.2) frame.1 ⟨hframe, hne⟩
      have hnext := ih (func.run (encoder.stamp frame.2) frame.1).1
        (by rw [hemitted.encoder_eq]; exact hfunc) hrest
      have hstream := hnext.1
      rw [hemitted.encoder_eq] at hstream
      constructor
      . apply StreamFrom.append
        . exact hemitted.streamFrom
        . rw [hemitted.encoder_eq]
          exact hstream
      . intro packet hmem
        cases List.mem_append.mp hmem with
        | inl hmem => exact hlength packet hmem
        | inr hmem => exact hnext.2 packet hmem

theorem rtpEncodeAll_stream_parameterSets
    : let encoder := rtpEncoderInit .zero .h265
      let frames := [([0x00, 0x00, 0x01, 0x40, 0x01], 5), ([], 6), ([0x00, 0x00, 0x01, 0x42, 0x01], 7)]
      StreamFrom .h265 2 0 (rtpEncodeAll encoder frames).2
        ∧ (∀ packet ∈ (rtpEncodeAll encoder frames).2, packet.length ≤ configMtu) :=
  rtpEncodeAll_stream .h265 (rtpEncoderInit .zero .h265) rfl
    [([0x00, 0x00, 0x01, 0x40, 0x01], 5), ([], 6), ([0x00, 0x00, 0x01, 0x42, 0x01], 7)]
    (fun _ _ => trivial)

end Peer

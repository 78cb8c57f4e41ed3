import RtsmartLib.Peer.RtpDecode
import RtsmartLib.Peer.RtpPackets
import RtsmartLib.Peer.AnnexB

/-!
This module contains that the units of every frame come out of the decoder as they went into the encoder.
-/

namespace Peer

open Lib

namespace FuHeader

@[simp]
theorem ofByte_byte (header : FuHeader) : FuHeader.ofByte header.byte = header := by
  cases header with
  | mk type r e s =>
    simp only [ofByte, byte, FuHeader.mk.injEq]
    revert type r e s
    decide

end FuHeader

namespace H265FuHeader

@[simp]
theorem ofByte_byte (header : H265FuHeader) : H265FuHeader.ofByte header.byte = header := by
  cases header with
  | mk type e s =>
    simp only [ofByte, byte, H265FuHeader.mk.injEq]
    revert type e s
    decide

end H265FuHeader

namespace RtpDecoder

/-
The decoder with these bytes in front of `nalu_offset`.
-/
def hold (decoder : RtpDecoder) (nalu : List Byte) (h : nalu.length ≤ configMaxNaluSize) : RtpDecoder :=
  ⟨decoder.onPacket, decoder.decodeFunc, nalu, h⟩

@[simp]
theorem nalu_reset (decoder : RtpDecoder) : decoder.reset.nalu = [] := rfl

@[simp]
theorem onPacket_reset (decoder : RtpDecoder) : decoder.reset.onPacket = decoder.onPacket := rfl

@[simp]
theorem decodeFunc_reset (decoder : RtpDecoder) : decoder.reset.decodeFunc = decoder.decodeFunc := rfl

@[simp]
theorem reset_reset (decoder : RtpDecoder) : decoder.reset.reset = decoder.reset := rfl

variable {decoder : RtpDecoder} {nalu : List Byte} {h : nalu.length ≤ configMaxNaluSize}

@[simp]
theorem nalu_hold : (decoder.hold nalu h).nalu = nalu := rfl

@[simp]
theorem onPacket_hold : (decoder.hold nalu h).onPacket = decoder.onPacket := rfl

@[simp]
theorem reset_hold : (decoder.hold nalu h).reset = decoder.reset := rfl

@[simp]
theorem hold_hold {nalu' : List Byte} (h' : nalu'.length ≤ configMaxNaluSize)
    : (decoder.hold nalu h).hold nalu' h' = decoder.hold nalu' h' := rfl

@[simp]
theorem hold_reset : decoder.reset.hold nalu h = decoder.hold nalu h := rfl

theorem deliver_eq (hon : decoder.onPacket = true) (unit : List Byte) : decoder.deliver unit = some unit := by
  simp [deliver, hon]

end RtpDecoder

theorem rtpDecoderAppendNalu_eq {decoder : RtpDecoder} {data : List Byte}
    (h : (decoder.nalu ++ data).length ≤ configMaxNaluSize)
    : rtpDecoderAppendNalu decoder data = some (decoder.hold (decoder.nalu ++ data) h) := by
  unfold rtpDecoderAppendNalu
  rw [dif_pos]
  . rfl
  . rw [List.length_append] at h
    omega

theorem length_naluStart4bytecode : naluStart4bytecode.length = 4 := by
  simp [naluStart4bytecode]

/-
Nothing of what the decoder has kept before matters.
-/
theorem rtpDecodeSingle_eq {decoder : RtpDecoder} (hon : decoder.onPacket = true) (size : Nat)
    {payload : List Byte} (h : (naluStart4bytecode ++ payload).length ≤ configMaxNaluSize)
    : rtpDecodeSingle decoder size payload = ⟨size, decoder.reset, some (naluStart4bytecode ++ payload)⟩ := by
  have hcode : (decoder.reset.nalu ++ naluStart4bytecode).length ≤ configMaxNaluSize := by
    rw [List.length_append] at h
    simp only [RtpDecoder.nalu_reset, List.nil_append]
    omega
  unfold rtpDecodeSingle
  rw [rtpDecoderAppendNalu_eq hcode]
  simp only [Option.bind_eq_bind, Option.bind_some]
  rw [rtpDecoderAppendNalu_eq (by simpa using h)]
  simp [RtpDecoder.deliver_eq, hon]

theorem rtpDecodeFragment_first (decoder : RtpDecoder) (e : BitVec 1) {hdr data : List Byte}
    (h : (naluStart4bytecode ++ hdr ++ data).length ≤ configMaxNaluSize)
    : rtpDecodeFragment decoder 1 e hdr data
        = ⟨0, decoder.hold (naluStart4bytecode ++ hdr ++ data) h, none⟩ := by
  have hcode : (decoder.reset.nalu ++ naluStart4bytecode).length ≤ configMaxNaluSize := by
    rw [List.length_append, List.length_append] at h
    simp only [RtpDecoder.nalu_reset, List.nil_append]
    omega
  have hhdr : (naluStart4bytecode ++ hdr).length ≤ configMaxNaluSize := by
    rw [List.length_append] at h
    omega
  unfold rtpDecodeFragment
  rw [if_pos rfl]
  rw [rtpDecoderAppendNalu_eq hcode]
  simp only [Option.bind_eq_bind, Option.bind_some]
  rw [rtpDecoderAppendNalu_eq (by simpa using hhdr)]
  simp only [Option.bind_some]
  rw [rtpDecoderAppendNalu_eq (by simpa using h)]
  simp

theorem rtpDecodeFragment_next {decoder : RtpDecoder} (hne : decoder.nalu ≠ []) (hdr : List Byte)
    {data : List Byte} (h : (decoder.nalu ++ data).length ≤ configMaxNaluSize)
    : rtpDecodeFragment decoder 0 0 hdr data = ⟨0, decoder.hold (decoder.nalu ++ data) h, none⟩ := by
  have hlength : 0 < decoder.nalu.length := List.length_pos_of_ne_nil hne
  unfold rtpDecodeFragment
  rw [if_neg (by decide)]
  rw [if_pos (by omega)]
  rw [rtpDecoderAppendNalu_eq h]
  simp

theorem rtpDecodeFragment_last {decoder : RtpDecoder} (hon : decoder.onPacket = true)
    (hne : decoder.nalu ≠ []) (hdr : List Byte) {data : List Byte}
    (h : (decoder.nalu ++ data).length ≤ configMaxNaluSize)
    : rtpDecodeFragment decoder 0 1 hdr data = ⟨0, decoder.reset, some (decoder.nalu ++ data)⟩ := by
  have hlength : 0 < decoder.nalu.length := List.length_pos_of_ne_nil hne
  unfold rtpDecodeFragment
  rw [if_neg (by decide)]
  rw [if_pos (by omega)]
  rw [rtpDecoderAppendNalu_eq h]
  simp [RtpDecoder.deliver_eq, hon]

/--
The decoder reads behind the head of a fragment which fragment it is, and with which bytes the unit begins.
-/
def ReadsFragments (decode : RtpDecoder → List Byte → RtpDecoded) (head : BitVec 1 → BitVec 1 → List Byte)
    (hdr : List Byte) : Prop :=
  ∀ (decoder : RtpDecoder) (header : RtpHeader) (s e : BitVec 1) (data : List Byte),
    decode decoder (header.bytes ++ head s e ++ data) = rtpDecodeFragment decoder s e hdr data

section Fragments

variable {decode : RtpDecoder → List Byte → RtpDecoded} {head : BitVec 1 → BitVec 1 → List Byte}
variable {hdr : List Byte} {payloadSize : Nat} (hpos : 0 < payloadSize)

/-
The induction is on the bytes that are left. What has been put together of the unit grows by what goes out.
-/
theorem rtpDecodeAll_fragments_next (hreads : ReadsFragments decode head hdr) (encoder : RtpEncoder)
    (decoder : RtpDecoder) (hon : decoder.onPacket = true) (hne : decoder.nalu ≠ []) (buf : List Byte)
    (hbuf : buf ≠ []) (h : (decoder.nalu ++ buf).length ≤ configMaxNaluSize)
    : rtpDecodeAll decode decoder (rtpEncodeFragments payloadSize hpos head 0 encoder buf).2
        = (decoder.reset, [decoder.nalu ++ buf]) := by
  generalize hn : buf.length = n
  induction n using Nat.strong_induction_on generalizing buf decoder encoder with
  | h n ih =>
    have hlength : 0 < buf.length := List.length_pos_of_ne_nil hbuf
    unfold rtpEncodeFragments
    rw [if_neg (by omega)]
    split
    . simp only [rtpDecodeAll]
      rw [hreads]
      rw [rtpDecodeFragment_last hon hne hdr h]
      simp
    . next hmore =>
      have htake : (decoder.nalu ++ buf.take payloadSize).length ≤ configMaxNaluSize := by
        rw [List.length_append, List.length_take]
        rw [List.length_append] at h
        omega
      simp only [rtpDecodeAll]
      rw [hreads]
      rw [rtpDecodeFragment_next hne hdr htake]
      have hdrop : (buf.drop payloadSize).length < n := by
        rw [List.length_drop]
        omega
      have hall : (decoder.hold _ htake).nalu ++ buf.drop payloadSize = decoder.nalu ++ buf := by
        rw [RtpDecoder.nalu_hold, List.append_assoc, List.take_append_drop]
      have hrest := ih _ hdrop encoder.next (decoder.hold _ htake) (by simpa using hon) (by simp [hne])
        (buf.drop payloadSize) (by simp; omega) (by rw [hall]; exact h) rfl
      rw [hrest]
      rw [hall]
      simp

/-
A unit that is longer than a fragment, from any state of the decoder.
-/
theorem rtpDecodeAll_fragments (hreads : ReadsFragments decode head hdr) (encoder : RtpEncoder)
    {decoder : RtpDecoder} (hon : decoder.onPacket = true) {buf : List Byte} (hlong : payloadSize < buf.length)
    (h : (naluStart4bytecode ++ (hdr ++ buf)).length ≤ configMaxNaluSize)
    : rtpDecodeAll decode decoder (rtpEncodeFragments payloadSize hpos head 1 encoder buf).2
        = (decoder.reset, [naluStart4bytecode ++ (hdr ++ buf)]) := by
  have htake : (naluStart4bytecode ++ hdr ++ buf.take payloadSize).length ≤ configMaxNaluSize := by
    simp only [List.length_append, List.length_take] at h ⊢
    omega
  have hall : (decoder.hold _ htake).nalu ++ buf.drop payloadSize = naluStart4bytecode ++ (hdr ++ buf) := by
    rw [RtpDecoder.nalu_hold, List.append_assoc, List.take_append_drop, List.append_assoc]
  unfold rtpEncodeFragments
  rw [if_neg (by omega)]
  rw [if_neg (by omega)]
  simp only [rtpDecodeAll]
  rw [hreads]
  rw [rtpDecodeFragment_first decoder 0 htake]
  have hrest := rtpDecodeAll_fragments_next hpos hreads encoder.next (decoder.hold _ htake)
    (by simpa using hon) (by simp [naluStart4bytecode]) (buf.drop payloadSize) (by simp; omega)
    (by rw [hall]; exact h)
  rw [hrest]
  rw [hall]
  simp

end Fragments

theorem drop_packet (header : RtpHeader) (payload : List Byte)
    : (header.bytes ++ payload).drop sizeofRtpHeader = payload := by
  rw [List.drop_left' (RtpHeader.length_bytes header)]

theorem readsFragments_h264 (hdr : Byte) (h : hdr &&& 0x80 = 0)
    : ReadsFragments rtpDecodeH264 (h264FuHead hdr) [hdr] := by
  intro decoder header s e data
  have hindicator : NaluHeader.ofByte (NaluHeader.byte ⟨fuA, ((hdr &&& 0x60) >>> 5).setWidth 2, 0⟩)
      = ⟨fuA, ((hdr &&& 0x60) >>> 5).setWidth 2, 0⟩ := by
    revert h hdr
    decide +kernel
  have htype : NaluHeader.byte ⟨fuA, ((hdr &&& 0x60) >>> 5).setWidth 2, 0⟩ &&& 0x1f = 28 := by
    revert h hdr
    decide +kernel
  have hrebuilt : NaluHeader.byte ⟨(hdr &&& 0x1f).setWidth 5, ((hdr &&& 0x60) >>> 5).setWidth 2, 0⟩
      = hdr := by
    revert h hdr
    decide +kernel
  unfold rtpDecodeH264
  rw [if_neg (by simp [h264FuHead])]
  rw [List.append_assoc, drop_packet]
  simp only [h264FuHead, List.cons_append, List.nil_append, List.headD_cons, htype]
  rw [if_neg (by decide)]
  rw [if_pos (by simp [fuA])]
  simp only [List.getD_cons_succ, List.getD_cons_zero, List.drop_succ_cons, List.drop_zero,
    FuHeader.ofByte_byte, hindicator, hrebuilt]

theorem readsFragments_h265 (hdr hdr' : Byte)
    : ReadsFragments rtpDecodeH265 (h265FuHead hdr hdr') [hdr, hdr'] := by
  intro decoder header s e data
  have htype : h265NalType ((hdr &&& (0x81 : Byte)) ||| (h265NalFu.setWidth 8 <<< 1)) = h265NalFu := by
    revert hdr
    decide +kernel
  have hrebuilt : (((hdr &&& (0x81 : Byte)) ||| (h265NalFu.setWidth 8 <<< 1)) &&& (0x81 : Byte))
      ||| ((h265NalType hdr).setWidth 8 <<< 1) = hdr := by
    revert hdr
    decide +kernel
  unfold rtpDecodeH265
  rw [if_neg (by simp [h265FuHead])]
  rw [List.append_assoc, drop_packet]
  simp only [h265FuHead, List.cons_append, List.nil_append, List.headD_cons, htype]
  rw [if_neg (by decide)]
  rw [if_pos (by simp)]
  simp only [List.getD_cons_succ, List.getD_cons_zero, List.drop_succ_cons, List.drop_zero,
    H265FuHeader.ofByte_byte, hrebuilt]

/--
What the encoder sends for a unit is delivered as this unit, in whatever state the decoder is.
-/
def Carries (send : RtpEncode) (decode : RtpDecoder → List Byte → RtpDecoded) (nalu : List Byte) : Prop :=
  ∀ (encoder : RtpEncoder) (decoder : RtpDecoder), decoder.onPacket = true →
    rtpDecodeAll decode decoder (send encoder nalu).2 = (decoder.reset, [naluStart4bytecode ++ nalu])

/--
A unit of a type that is sent on its own, within what the decoder has room for.
-/
structure H264Unit (nalu : List Byte) : Prop where
  delimitable : Delimitable nalu
  type_pos : 0 < nalu.headD 0 &&& 0x1f
  type_lt : nalu.headD 0 &&& 0x1f < 24
  forbidden_zero : nalu.headD 0 &&& 0x80 = 0
  fits : (naluStart4bytecode ++ nalu).length ≤ configMaxNaluSize

theorem H264Unit.ne_nil {nalu : List Byte} (h : H264Unit nalu) : nalu ≠ [] := by
  intro hnil
  have hpos := h.type_pos
  rw [hnil] at hpos
  exact absurd hpos (by decide)

theorem H264Unit.carries {nalu : List Byte} (h : H264Unit nalu)
    : Carries (sendUnit 1 rtpEncoderEncodeH264Single rtpEncoderEncodeH264FuA) RtpDecodeFunc.h264.run nalu := by
  intro encoder decoder hon
  simp only [RtpDecodeFunc.run]
  have hlength : 0 < nalu.length := List.length_pos_of_ne_nil h.ne_nil
  unfold sendUnit
  rw [if_neg (by omega)]
  split
  . simp only [rtpEncoderEncodeH264Single, rtpDecodeAll]
    unfold rtpDecodeH264
    rw [if_neg (by rw [List.length_append, RtpHeader.length_bytes]; omega)]
    rw [drop_packet]
    dsimp only
    rw [if_pos ⟨h.type_pos, h.type_lt⟩]
    rw [rtpDecodeSingle_eq hon _ h.fits]
    simp
  . next hlong =>
    cases nalu with
    | nil => contradiction
    | cons hdr buf =>
      unfold rtpEncoderEncodeH264FuA
      simp only [List.headD_cons, List.drop_succ_cons, List.drop_zero]
      apply rtpDecodeAll_fragments _ (readsFragments_h264 hdr h.forbidden_zero) encoder hon
      . simp only [rtpPayloadSize, fuPayloadSize, configMtu, sizeofRtpHeader, List.length_cons] at hlong ⊢
        omega
      . exact h.fits

structure H265Unit (nalu : List Byte) : Prop where
  delimitable : Delimitable nalu
  length_ge : 2 ≤ nalu.length
  type_lt : h265NalType (nalu.headD 0) < 48
  fits : (naluStart4bytecode ++ nalu).length ≤ configMaxNaluSize

theorem H265Unit.ne_nil {nalu : List Byte} (h : H265Unit nalu) : nalu ≠ [] := by
  intro hnil
  have hlength := h.length_ge
  simp [hnil] at hlength

theorem H265Unit.carries {nalu : List Byte} (h : H265Unit nalu)
    : Carries (sendUnit 2 rtpEncoderEncodeH265Single rtpEncoderEncodeH265Fu) RtpDecodeFunc.h265.run nalu := by
  intro encoder decoder hon
  simp only [RtpDecodeFunc.run]
  have hlength := h.length_ge
  unfold sendUnit
  rw [if_neg (by omega)]
  split
  . simp only [rtpEncoderEncodeH265Single, rtpDecodeAll]
    unfold rtpDecodeH265
    rw [if_neg (by rw [List.length_append, RtpHeader.length_bytes]; omega)]
    rw [drop_packet]
    dsimp only
    rw [if_pos h.type_lt]
    rw [rtpDecodeSingle_eq hon _ h.fits]
    simp
  . next hlong =>
    cases nalu with
    | nil => contradiction
    | cons hdr tail =>
      cases tail with
      | nil => contradiction
      | cons hdr' buf =>
        unfold rtpEncoderEncodeH265Fu
        simp only [List.headD_cons, List.getD_cons_succ, List.getD_cons_zero, List.drop_succ_cons,
          List.drop_zero]
        apply rtpDecodeAll_fragments _ (readsFragments_h265 hdr hdr') encoder hon
        . simp only [rtpPayloadSize, h265FuPayloadSize, configMtu, sizeofRtpHeader, List.length_cons]
            at hlong ⊢
          omega
        . exact h.fits

/-
Unit after unit. A decoder keeps its callback and its codec.
-/
theorem rtpDecodeAll_sendAll {send : RtpEncode} {decode : RtpDecoder → List Byte → RtpDecoded}
    {nalus : List (List Byte)} (hcarries : ∀ nalu ∈ nalus, Carries send decode nalu) (encoder : RtpEncoder)
    (decoder : RtpDecoder) (hon : decoder.onPacket = true)
    : ∃ decoder', rtpDecodeAll decode decoder (sendAll send encoder nalus).2
          = (decoder', nalus.map (naluStart4bytecode ++ ·))
        ∧ decoder'.onPacket = true ∧ decoder'.decodeFunc = decoder.decodeFunc := by
  induction nalus generalizing encoder decoder with
  | nil => exact ⟨decoder, rfl, hon, rfl⟩
  | cons nalu nalus ih =>
    have hrest : ∀ nalu ∈ nalus, Carries send decode nalu := by
      intro nalu' hmem
      apply hcarries
      simp [hmem]
    have hunit := hcarries nalu (by simp) encoder decoder hon
    obtain ⟨decoder', hall, hon', hfunc⟩ := ih hrest (send encoder nalu).1 decoder.reset hon
    refine ⟨decoder', ?_, hon', hfunc⟩
    simp only [sendAll]
    rw [rtpDecodeAll_append]
    rw [hunit]
    simp only
    rw [hall]
    simp

def unitsOf (frames : List (AnnexBFrame × BitVec 64)) : List (List Byte) :=
  frames.flatMap fun frame => frame.1.units.map AnnexBUnit.nalu

section Frames

variable {func : RtpEncodeFunc} {decodeFunc : RtpDecodeFunc} {send : RtpEncode} {Unit : List Byte → Prop}

/-
Frame after frame. Between two frames the decoder is in whatever state the frame before has left it in.
-/
theorem rtpDecodeAll_encodeAll
    (hrun : ∀ (encoder : RtpEncoder) (frame : AnnexBFrame), (∀ unit ∈ frame.units, Unit unit.nalu) →
      func.run encoder frame.bytes = sendAll send encoder (frame.units.map AnnexBUnit.nalu))
    (hcarries : ∀ nalu, Unit nalu → Carries send decodeFunc.run nalu) (haccepts : ∀ buf, func.Accepts buf)
    {encoder : RtpEncoder} (hencode : encoder.encodeFunc = some func) {decoder : RtpDecoder}
    (hdecode : decoder.decodeFunc = some decodeFunc) (hon : decoder.onPacket = true)
    (frames : List (AnnexBFrame × BitVec 64))
    (hunits : ∀ frame ∈ frames, ∀ unit ∈ frame.1.units, Unit unit.nalu)
    : (rtpDecodeAll decodeFunc.run decoder
          (rtpEncodeAll encoder (frames.map fun frame => (frame.1.bytes, frame.2))).2).2
        = (unitsOf frames).map (naluStart4bytecode ++ ·) := by
  induction frames generalizing encoder decoder with
  | nil => rfl
  | cons frame frames ih =>
    have hframe := hunits frame (by simp)
    have hrest : ∀ frame ∈ frames, ∀ unit ∈ frame.1.units, Unit unit.nalu := by
      intro frame' hmem
      apply hunits
      simp [hmem]
    have hsplit : unitsOf (frame :: frames) = frame.1.units.map AnnexBUnit.nalu ++ unitsOf frames := by
      simp [unitsOf]
    rw [hsplit, List.map_append]
    simp only [List.map_cons, rtpEncodeAll, rtpEncoderEncode, hencode]
    by_cases hempty : frame.1.bytes.length = 0
    . have hnone : frame.1.units = [] := by
        cases hlist : frame.1.units with
        | nil => rfl
        | cons unit units =>
          unfold AnnexBFrame.bytes at hempty
          rw [hlist] at hempty
          simp [annexBBytes, startCode] at hempty
      simp only [hempty, ↓reduceIte, hnone, List.map_nil, List.nil_append]
      exact ih hencode hdecode hon hrest
    . have hne : frame.1.bytes ≠ [] := by
        intro hnil
        apply hempty
        simp [hnil]
      simp only [hempty, ↓reduceIte]
      have hkept := ((packetizes_run func).emitted (encoder.stamp frame.2) frame.1.bytes
        ⟨haccepts _, hne⟩).encoder_eq
      have hall : ∀ nalu ∈ frame.1.units.map AnnexBUnit.nalu, Carries send decodeFunc.run nalu := by
        intro nalu hmem
        simp only [List.mem_map] at hmem
        obtain ⟨unit, hunit, rfl⟩ := hmem
        exact hcarries _ (hframe unit hunit)
      obtain ⟨decoder', hdecoded, hon', hdecode'⟩ :=
        rtpDecodeAll_sendAll hall (encoder.stamp frame.2) decoder hon
      have hnext : (func.run (encoder.stamp frame.2) frame.1.bytes).1.encodeFunc = some func := by
        rw [hkept]
        exact hencode
      have hlater := ih hnext (hdecode'.trans hdecode) hon' hrest
      rw [rtpDecodeAll_append]
      rw [← hrun _ _ hframe] at hdecoded
      rw [hdecoded]
      simp only
      rw [hlater]

end Frames

theorem run_h264 (encoder : RtpEncoder) (frame : AnnexBFrame)
    (hunits : ∀ unit ∈ frame.units, H264Unit unit.nalu)
    : RtpEncodeFunc.h264.run encoder frame.bytes
        = sendAll (sendUnit 1 rtpEncoderEncodeH264Single rtpEncoderEncodeH264FuA) encoder
            (frame.units.map AnnexBUnit.nalu) := by
  apply rtpEncodeNalus_frame
  intro unit hmem
  have hunit := hunits unit hmem
  exact ⟨hunit.ne_nil, hunit.delimitable⟩

theorem run_h265 (encoder : RtpEncoder) (frame : AnnexBFrame)
    (hunits : ∀ unit ∈ frame.units, H265Unit unit.nalu)
    : RtpEncodeFunc.h265.run encoder frame.bytes
        = sendAll (sendUnit 2 rtpEncoderEncodeH265Single rtpEncoderEncodeH265Fu) encoder
            (frame.units.map AnnexBUnit.nalu) := by
  apply rtpEncodeNalus_frame
  intro unit hmem
  have hunit := hunits unit hmem
  exact ⟨hunit.ne_nil, hunit.delimitable⟩

/--
Over any run of H.264 frames the receiver gets every unit, in order and behind a start code of four bytes.
-/
theorem rtp_h264_roundTrip {encoder : RtpEncoder} (hencode : encoder.encodeFunc = some .h264)
    {decoder : RtpDecoder} (hdecode : decoder.decodeFunc = some .h264) (hon : decoder.onPacket = true)
    (frames : List (AnnexBFrame × BitVec 64))
    (hunits : ∀ frame ∈ frames, ∀ unit ∈ frame.1.units, H264Unit unit.nalu)
    : (rtpDecodeAll rtpDecoderDecode decoder
          (rtpEncodeAll encoder (frames.map fun frame => (frame.1.bytes, frame.2))).2).2
        = (unitsOf frames).map (naluStart4bytecode ++ ·) := by
  rw [rtpDecodeAll_eq hdecode]
  apply rtpDecodeAll_encodeAll run_h264 (fun nalu hunit => hunit.carries) (fun _ => trivial) hencode hdecode
    hon frames hunits

/-
A unit without zero bytes cannot hold a start code.
-/
theorem delimitable_of_not_mem {nalu : List Byte} (h : 0x00 ∉ nalu) : Delimitable nalu where
  last_ne := by
    intro b hb heq
    apply h
    rw [← heq]
    exact List.mem_of_getLast? hb
  free := by
    intro hoccurs
    apply h
    apply hoccurs.subset
    simp [startCode]

theorem h264Unit_of_not_mem (hdr : Byte) {buf : List Byte} (hpos : 0 < hdr &&& 0x1f) (hlt : hdr &&& 0x1f < 24)
    (hzero : hdr &&& 0x80 = 0) (hmem : 0x00 ∉ hdr :: buf) (hfits : buf.length + 5 ≤ configMaxNaluSize)
    : H264Unit (hdr :: buf) where
  delimitable := delimitable_of_not_mem hmem
  type_pos := hpos
  type_lt := hlt
  forbidden_zero := hzero
  fits := by
    rw [List.length_append, List.length_cons, length_naluStart4bytecode]
    omega

theorem rtp_h264_roundTrip_intraPicture
    : (rtpDecodeAll rtpDecoderDecode (rtpDecoderInit .zero .h264 true)
          (rtpEncodeAll (rtpEncoderInit .zero .h264)
            [((⟨[⟨1, [0x67, 0x42]⟩, ⟨0, 0x65 :: List.replicate 1400 0x41⟩], 2⟩ : AnnexBFrame).bytes, 40)]).2).2
        = [naluStart4bytecode ++ [0x67, 0x42], naluStart4bytecode ++ 0x65 :: List.replicate 1400 0x41] := by
  refine rtp_h264_roundTrip rfl rfl rfl
    [(⟨[⟨1, [0x67, 0x42]⟩, ⟨0, 0x65 :: List.replicate 1400 0x41⟩], 2⟩, 40)] ?_
  intro frame hframe unit hunit
  rw [List.mem_singleton.mp hframe] at hunit
  simp only [List.mem_cons, List.not_mem_nil, or_false] at hunit
  cases hunit with
  | inl heq =>
    rw [heq]
    refine ⟨delimitable_of_not_mem (by decide), by decide, by decide, by decide, by decide⟩
  | inr heq =>
    rw [heq]
    apply h264Unit_of_not_mem 0x65 (by decide) (by decide) (by decide)
    . rw [List.mem_cons, List.mem_replicate]
      decide
    . rw [List.length_replicate]
      decide

/--
The same of H.265 frames.
-/
theorem rtp_h265_roundTrip {encoder : RtpEncoder} (hencode : encoder.encodeFunc = some .h265)
    {decoder : RtpDecoder} (hdecode : decoder.decodeFunc = some .h265) (hon : decoder.onPacket = true)
    (frames : List (AnnexBFrame × BitVec 64))
    (hunits : ∀ frame ∈ frames, ∀ unit ∈ frame.1.units, H265Unit unit.nalu)
    : (rtpDecodeAll rtpDecoderDecode decoder
          (rtpEncodeAll encoder (frames.map fun frame => (frame.1.bytes, frame.2))).2).2
        = (unitsOf frames).map (naluStart4bytecode ++ ·) := by
  rw [rtpDecodeAll_eq hdecode]
  apply rtpDecodeAll_encodeAll run_h265 (fun nalu hunit => hunit.carries) (fun _ => trivial) hencode hdecode
    hon frames hunits

theorem rtp_h265_roundTrip_parameterSets
    : (rtpDecodeAll rtpDecoderDecode (rtpDecoderInit .zero .h265 true)
          (rtpEncodeAll (rtpEncoderInit .zero .h265)
            [((⟨[⟨1, [0x40, 0x01]⟩, ⟨0, [0x42, 0x01, 0x07]⟩], 2⟩ : AnnexBFrame).bytes, 40)]).2).2
        = [naluStart4bytecode ++ [0x40, 0x01], naluStart4bytecode ++ [0x42, 0x01, 0x07]] := by
  refine rtp_h265_roundTrip rfl rfl rfl [(⟨[⟨1, [0x40, 0x01]⟩, ⟨0, [0x42, 0x01, 0x07]⟩], 2⟩, 40)] ?_
  intro frame hframe unit hunit
  rw [List.mem_singleton.mp hframe] at hunit
  simp only [List.mem_cons, List.not_mem_nil, or_false] at hunit
  cases hunit with
  | inl heq =>
    rw [heq]
    refine ⟨delimitable_of_not_mem (by decide), by decide, by decide, by decide⟩
  | inr heq =>
    rw [heq]
    refine ⟨delimitable_of_not_mem (by decide), by decide, by decide, by decide⟩

end Peer

import RtsmartLib.Lib.NetworkOrder
import RtsmartLib.Lib.Delimiter
import Mathlib.Data.List.DropRight

/-!
This module contains the RTP packets of libpeer and their encoder: the search for NAL units in a frame, units
sent as they are and units cut into fragments, and the codecs whose frames are sent whole.
-/

namespace Peer

open Lib

def configMtu : Nat := 1300

def configMaxNaluSize : Nat := 10 * 1024

def sizeofRtpHeader : Nat := 12

def rtpPayloadSize : Nat := configMtu - sizeofRtpHeader

def fuPayloadSize : Nat := configMtu - sizeofRtpHeader - 1 - 1

def h265FuPayloadSize : Nat := configMtu - sizeofRtpHeader - 3

inductive RtpPayloadType where
  | pcmu
  | pcma
  | g722
  | h264
  | h265
  | opus
deriving DecidableEq

def RtpPayloadType.val (type : RtpPayloadType) : BitVec 7 :=
  match type with
  | .pcmu => 0
  | .pcma => 8
  | .g722 => 9
  | .h264 => 96
  | .h265 => 98
  | .opus => 111

inductive MediaCodec where
  | none
  | h264
  | h265
  | vp8
  | mjpeg
  | opus
  | pcma
  | pcmu
deriving DecidableEq

structure RtpHeader where
  version : BitVec 2
  padding : BitVec 1
  extension : BitVec 1
  csrccount : BitVec 4
  markerbit : BitVec 1
  type : BitVec 7
  seqNumber : BitVec 16
  timestamp : BitVec 32
  ssrc : BitVec 32
deriving DecidableEq

def RtpHeader.bytes (header : RtpHeader) : List Byte :=
  [header.version ++ header.padding ++ header.extension ++ header.csrccount, header.markerbit ++ header.type]
    ++ bigEndian16 header.seqNumber ++ bigEndian32 header.timestamp ++ bigEndian32 header.ssrc

@[simp]
theorem RtpHeader.length_bytes (header : RtpHeader) : header.bytes.length = sizeofRtpHeader := by
  simp [bytes, sizeofRtpHeader]

def rtpPacketType (packet : List Byte) : BitVec 7 :=
  (packet.getD 1 0).setWidth 7

def rtpPacketValidate (packet : List Byte) : Bool :=
  if packet.length < 12 then false else rtpPacketType packet < 64 || rtpPacketType packet ≥ 96

def rtpGetSsrc (packet : List Byte) : BitVec 32 :=
  getBigEndian32 packet 8

inductive RtpEncodeFunc where
  | h264
  | h265
  | generic
deriving DecidableEq

structure RtpEncoder where
  type : RtpPayloadType
  encodeFunc : Option RtpEncodeFunc
  seqNumber : BitVec 16
  ssrc : BitVec 32
  timestamp : BitVec 32
  clockRate : BitVec 32
  baseTimestampUs : BitVec 64
deriving DecidableEq

namespace RtpEncoder

/-
The memory of an encoder before its initialization.
-/
def zero : RtpEncoder :=
  ⟨.pcmu, none, 0, 0, 0, 0, 0⟩

def header (encoder : RtpEncoder) (markerbit : BitVec 1) : RtpHeader where
  version := 2
  padding := 0
  extension := 0
  csrccount := 0
  markerbit := markerbit
  type := encoder.type.val
  seqNumber := encoder.seqNumber
  timestamp := encoder.timestamp
  ssrc := encoder.ssrc

/-
The encoder behind `seq_number++`.
-/
def next (encoder : RtpEncoder) : RtpEncoder :=
  { encoder with seqNumber := encoder.seqNumber + 1 }

end RtpEncoder

/-
What an encoder does with a unit or a frame: the packets that go to `on_packet`, in this order.
-/
abbrev RtpEncode := RtpEncoder → List Byte → RtpEncoder × List (List Byte)

structure NaluHeader where
  type : BitVec 5
  nri : BitVec 2
  f : BitVec 1
deriving DecidableEq

def NaluHeader.byte (header : NaluHeader) : Byte :=
  header.f ++ header.nri ++ header.type

def NaluHeader.ofByte (b : Byte) : NaluHeader :=
  ⟨b.extractLsb' 0 5, b.extractLsb' 5 2, b.extractLsb' 7 1⟩

structure FuHeader where
  type : BitVec 5
  r : BitVec 1
  e : BitVec 1
  s : BitVec 1
deriving DecidableEq

def FuHeader.byte (header : FuHeader) : Byte :=
  header.s ++ header.e ++ header.r ++ header.type

def FuHeader.ofByte (b : Byte) : FuHeader :=
  ⟨b.extractLsb' 0 5, b.extractLsb' 5 1, b.extractLsb' 6 1, b.extractLsb' 7 1⟩

structure H265FuHeader where
  type : BitVec 6
  e : BitVec 1
  s : BitVec 1
deriving DecidableEq

def H265FuHeader.byte (header : H265FuHeader) : Byte :=
  header.s ++ header.e ++ header.type

def H265FuHeader.ofByte (b : Byte) : H265FuHeader :=
  ⟨b.extractLsb' 0 6, b.extractLsb' 6 1, b.extractLsb' 7 1⟩

def fuA : BitVec 5 := 28

def h265NalFu : BitVec 6 := 49

def h265NalType (hdr : Byte) : BitVec 6 :=
  hdr.extractLsb' 1 6

def rtpEncoderEncodeH264Single : RtpEncode := fun encoder buf =>
  let type := buf.headD 0 &&& 0x1f
  let markerbit := if type = 0x05 ∨ type = 0x01 then 1 else 0
  (encoder.next, [(encoder.header markerbit).bytes ++ buf])

def rtpEncoderEncodeH265Single : RtpEncode := fun encoder buf =>
  let nalType := h265NalType (buf.headD 0)
  let markerbit := if nalType = 1 ∨ nalType = 19 ∨ nalType = 20 ∨ nalType = 21 then 1 else 0
  (encoder.next, [(encoder.header markerbit).bytes ++ buf])

/--
The loop over the fragments of a unit, `payloadSize` bytes in each but the last. `head s e` is what stands in
front of the bytes of a fragment.
-/
def rtpEncodeFragments (payloadSize : Nat) (hpos : 0 < payloadSize) (head : BitVec 1 → BitVec 1 → List Byte)
    (s : BitVec 1) (encoder : RtpEncoder) (buf : List Byte) : RtpEncoder × List (List Byte) :=
  if buf.length = 0 then
    (encoder, [])
  else if buf.length ≤ payloadSize then
    (encoder.next, [(encoder.header 1).bytes ++ head s 1 ++ buf])
  else
    let packet := (encoder.header 0).bytes ++ head s 0 ++ buf.take payloadSize
    let res := rtpEncodeFragments payloadSize hpos head 0 encoder.next (buf.drop payloadSize)
    (res.1, packet :: res.2)
termination_by buf.length
decreasing_by
  rw [List.length_drop]
  omega

def h264FuHead (hdr : Byte) (s e : BitVec 1) : List Byte :=
  let type := (hdr &&& 0x1f).setWidth 5
  let nri := ((hdr &&& 0x60) >>> 5).setWidth 2
  [NaluHeader.byte ⟨fuA, nri, 0⟩, FuHeader.byte ⟨type, 0, e, s⟩]

def rtpEncoderEncodeH264FuA : RtpEncode := fun encoder buf =>
  rtpEncodeFragments fuPayloadSize (by decide) (h264FuHead (buf.headD 0)) 1 encoder
    (buf.drop 1)

def h265FuHead (hdr hdr' : Byte) (s e : BitVec 1) : List Byte :=
  [(hdr &&& (0x81 : Byte)) ||| (h265NalFu.setWidth 8 <<< 1), hdr', H265FuHeader.byte ⟨h265NalType hdr, e, s⟩]

def rtpEncoderEncodeH265Fu : RtpEncode := fun encoder buf =>
  rtpEncodeFragments h265FuPayloadSize (by decide)
    (h265FuHead (buf.headD 0) (buf.getD 1 0)) 1 encoder (buf.drop 2)

/-
Where the bytes behind the next start code begin, or else the end.
-/
def h264FindNalu (buf : List Byte) : Nat :=
  match buf with
  | a :: b :: c :: rest => if a = 0x00 ∧ b = 0x00 ∧ c = 0x01 then 3 else 1 + h264FindNalu (b :: c :: rest)
  | buf => buf.length

theorem h264FindNalu_pos {buf : List Byte} (h : buf.length ≠ 0) : 0 < h264FindNalu buf := by
  unfold h264FindNalu
  split
  . split
    . omega
    . omega
  . omega

/-
The bytes from `pstart` to `pend` without the start code and the zero bytes behind the unit. The one byte
fewer is the last byte of the start code.
-/
def naluBytes (buf : List Byte) (pend : Nat) : List Byte :=
  let naluSize := if pend ≠ buf.length then pend - 1 else pend
  (buf.take naluSize).rdropWhile (· = 0x00)

/--
The loop over the units of a frame, from `pstart` on. Units of less than `sizeMin` bytes are left out.
-/
def rtpEncodeNalus (sizeMin : Nat) (single fragmented : RtpEncode) (encoder : RtpEncoder) (buf : List Byte)
    : RtpEncoder × List (List Byte) :=
  if _h : buf.length = 0 then
    (encoder, [])
  else
    let pend := h264FindNalu buf
    let nalu := naluBytes buf pend
    let res :=
      if nalu.length < sizeMin then (encoder, [])
      else if nalu.length ≤ rtpPayloadSize then single encoder nalu
      else fragmented encoder nalu
    let res' := rtpEncodeNalus sizeMin single fragmented res.1 (buf.drop pend)
    (res'.1, res.2 ++ res'.2)
termination_by buf.length
decreasing_by
  have hpos := h264FindNalu_pos _h
  rw [List.length_drop]
  omega

def rtpEncoderEncodeH264 : RtpEncode := fun encoder buf =>
  rtpEncodeNalus 1 rtpEncoderEncodeH264Single rtpEncoderEncodeH264FuA encoder (buf.drop (h264FindNalu buf))

def rtpEncoderEncodeH265 : RtpEncode := fun encoder buf =>
  rtpEncodeNalus 2 rtpEncoderEncodeH265Single rtpEncoderEncodeH265Fu encoder (buf.drop (h264FindNalu buf))

def rtpEncoderEncodeGeneric : RtpEncode := fun encoder buf =>
  (encoder.next, [(encoder.header 0).bytes ++ buf])

def RtpEncodeFunc.run (func : RtpEncodeFunc) : RtpEncode :=
  match func with
  | .h264 => rtpEncoderEncodeH264
  | .h265 => rtpEncoderEncodeH265
  | .generic => rtpEncoderEncodeGeneric

def rtpEncoderInit (encoder : RtpEncoder) (codec : MediaCodec) : RtpEncoder :=
  let encoder := { encoder with seqNumber := 0, clockRate := 0, baseTimestampUs := 0 }
  match codec with
  | .h264 => { encoder with type := .h264, ssrc := 1, clockRate := 90000, encodeFunc := some .h264 }
  | .h265 => { encoder with type := .h265, ssrc := 2, clockRate := 90000, encodeFunc := some .h265 }
  | .pcma => { encoder with type := .pcma, ssrc := 4, clockRate := 8000, encodeFunc := some .generic }
  | .pcmu => { encoder with type := .pcmu, ssrc := 5, clockRate := 8000, encodeFunc := some .generic }
  | .opus => { encoder with type := .opus, ssrc := 6, clockRate := 48000, encodeFunc := some .generic }
  | _ => encoder

/-
The encoder with the timestamp of the frame, which counts from the first frame.
-/
def RtpEncoder.stamp (encoder : RtpEncoder) (timestampUs : BitVec 64) : RtpEncoder :=
  let base := if encoder.baseTimestampUs = 0 then timestampUs else encoder.baseTimestampUs
  let deltaUs := timestampUs - base
  let rtpTs := (deltaUs * encoder.clockRate.setWidth 64) / 1000000
  { encoder with baseTimestampUs := base, timestamp := rtpTs.setWidth 32 }

def rtpEncoderEncode (encoder : RtpEncoder) (buf : List Byte) (timestampUs : BitVec 64)
    : Option (RtpEncoder × List (List Byte)) :=
  match encoder.encodeFunc with
  | none => none
  | some func =>
    if buf.length = 0 then
      none
    else
      some (func.run (encoder.stamp timestampUs) buf)

/-
Frames one after the other, each with its time, and all packets that go out.
-/
def rtpEncodeAll (encoder : RtpEncoder) (frames : List (List Byte × BitVec 64))
    : RtpEncoder × List (List Byte) :=
  match frames with
  | [] => (encoder, [])
  | (buf, timestampUs) :: frames =>
    match rtpEncoderEncode encoder buf timestampUs with
    | none => rtpEncodeAll encoder frames
    | some res =>
      let res' := rtpEncodeAll res.1 frames
      (res'.1, res.2 ++ res'.2)

end Peer

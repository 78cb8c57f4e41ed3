import RtsmartLib.Peer.Rtp

/-!
This module contains the RTP decoder of libpeer: the buffer in which a unit is put together, and the packets
that are read one after the other.
-/

namespace Peer

open Lib

inductive RtpDecodeFunc where
  | h264
  | h265
  | generic
deriving DecidableEq

/--
`nalu` is what stands in `nalu_buf` in front of `nalu_offset`.
-/
structure RtpDecoder where
  onPacket : Bool
  decodeFunc : Option RtpDecodeFunc
  nalu : List Byte
  naluOffset_le : nalu.length ≤ configMaxNaluSize

namespace RtpDecoder

def zero : RtpDecoder :=
  ⟨false, none, [], by decide⟩

/-
The decoder with `nalu_offset` zero.
-/
def reset (decoder : RtpDecoder) : RtpDecoder :=
  ⟨decoder.onPacket, decoder.decodeFunc, [], by decide⟩

/-
What `on_packet` is called with, if there is one.
-/
def deliver (decoder : RtpDecoder) (unit : List Byte) : Option (List Byte) :=
  if decoder.onPacket then some unit else none

end RtpDecoder

structure RtpDecoded where
  ret : Int
  decoder : RtpDecoder
  delivered : Option (List Byte)

def rtpDecoderInit (decoder : RtpDecoder) (codec : MediaCodec) (onPacket : Bool) : RtpDecoder :=
  let decodeFunc :=
    match codec with
    | .h264 => some RtpDecodeFunc.h264
    | .h265 => some .h265
    | .pcma | .pcmu | .opus => some .generic
    | _ => none
  { decoder.reset with onPacket := onPacket, decodeFunc := decodeFunc }

/-
Where the bytes do not fit, the unit is dropped and the result is negative.
-/
def rtpDecoderAppendNalu (decoder : RtpDecoder) (data : List Byte) : Option RtpDecoder :=
  if h : data.length ≤ configMaxNaluSize - decoder.nalu.length then
    some {
      decoder with
      nalu := decoder.nalu ++ data
      naluOffset_le := by
        have hle := decoder.naluOffset_le
        rw [List.length_append]
        omega
    }
  else
    none

/-
The value 0x01000000 as a little endian machine keeps it.
-/
def naluStart4bytecode : List Byte :=
  [0x00, 0x00, 0x00, 0x01]

def rtpDecodeSingle (decoder : RtpDecoder) (size : Nat) (payload : List Byte) : RtpDecoded :=
  let res := do
    let decoder ← rtpDecoderAppendNalu decoder.reset naluStart4bytecode
    rtpDecoderAppendNalu decoder payload
  match res with
  | none => ⟨-1, decoder.reset, none⟩
  | some decoder => ⟨size, decoder.reset, decoder.deliver decoder.nalu⟩

/-
A fragment of a unit that begins with the header `hdr`.
-/
def rtpDecodeFragment (decoder : RtpDecoder) (s e : BitVec 1) (hdr data : List Byte) : RtpDecoded :=
  if s = 1 then
    let res := do
      let decoder ← rtpDecoderAppendNalu decoder.reset naluStart4bytecode
      let decoder ← rtpDecoderAppendNalu decoder hdr
      rtpDecoderAppendNalu decoder data
    match res with
    | none => ⟨-1, decoder.reset, none⟩
    | some decoder => ⟨0, decoder, none⟩
  else if decoder.nalu.length ≠ 0 then
    match rtpDecoderAppendNalu decoder data with
    | none => ⟨-1, decoder.reset, none⟩
    | some decoder =>
      if e = 1 then
        ⟨0, decoder.reset, decoder.deliver decoder.nalu⟩
      else
        ⟨0, decoder, none⟩
  else
    ⟨0, decoder, none⟩

def rtpDecodeH264 (decoder : RtpDecoder) (buf : List Byte) : RtpDecoded :=
  if buf.length ≤ sizeofRtpHeader then
    ⟨-1, decoder, none⟩
  else
    let payload := buf.drop sizeofRtpHeader
    let naluType := payload.headD 0 &&& 0x1f
    if naluType > 0 ∧ naluType < 24 then
      rtpDecodeSingle decoder buf.length payload
    else if naluType = fuA.setWidth 8 ∧ payload.length ≥ 2 then
      let fuIndicator := NaluHeader.ofByte (payload.headD 0)
      let fuHeader := FuHeader.ofByte (payload.getD 1 0)
      let reconstructedNaluType := NaluHeader.byte ⟨fuHeader.type, fuIndicator.nri, fuIndicator.f⟩
      rtpDecodeFragment decoder fuHeader.s fuHeader.e [reconstructedNaluType] (payload.drop 2)
    else
      ⟨-1, decoder.reset, none⟩

def rtpDecodeH265 (decoder : RtpDecoder) (buf : List Byte) : RtpDecoded :=
  if buf.length < sizeofRtpHeader + 2 then
    ⟨-1, decoder, none⟩
  else
    let payload := buf.drop sizeofRtpHeader
    let nalType := h265NalType (payload.headD 0)
    if nalType < 48 then
      rtpDecodeSingle decoder buf.length payload
    else if nalType = h265NalFu ∧ payload.length ≥ 3 then
      let fuHeader := H265FuHeader.ofByte (payload.getD 2 0)
      let nalHdr := [(payload.headD 0 &&& (0x81 : Byte)) ||| (fuHeader.type.setWidth 8 <<< 1), payload.getD 1 0]
      rtpDecodeFragment decoder fuHeader.s fuHeader.e nalHdr (payload.drop 3)
    else
      ⟨-1, decoder.reset, none⟩

def rtpDecodeGeneric (decoder : RtpDecoder) (buf : List Byte) : RtpDecoded :=
  ⟨buf.length, decoder, decoder.deliver (buf.drop sizeofRtpHeader)⟩

def RtpDecodeFunc.run (func : RtpDecodeFunc) : RtpDecoder → List Byte → RtpDecoded :=
  match func with
  | .h264 => rtpDecodeH264
  | .h265 => rtpDecodeH265
  | .generic => rtpDecodeGeneric

def rtpDecoderDecode (decoder : RtpDecoder) (buf : List Byte) : RtpDecoded :=
  match decoder.decodeFunc with
  | none => ⟨-1, decoder, none⟩
  | some func => func.run decoder buf

/-
Packets one after the other, and all that is delivered.
-/
def rtpDecodeAll (decode : RtpDecoder → List Byte → RtpDecoded) (decoder : RtpDecoder)
    (packets : List (List Byte)) : RtpDecoder × List (List Byte) :=
  match packets with
  | [] => (decoder, [])
  | packet :: packets =>
    let res := decode decoder packet
    let res' := rtpDecodeAll decode res.decoder packets
    (res'.1, res.delivered.toList ++ res'.2)

theorem rtpDecodeAll_append (decode : RtpDecoder → List Byte → RtpDecoded) (decoder : RtpDecoder)
    (packets packets' : List (List Byte))
    : rtpDecodeAll decode decoder (packets ++ packets')
        = ((rtpDecodeAll decode (rtpDecodeAll decode decoder packets).1 packets').1,
           (rtpDecodeAll decode decoder packets).2
             ++ (rtpDecodeAll decode (rtpDecodeAll decode decoder packets).1 packets').2) := by
  induction packets generalizing decoder with
  | nil => simp [rtpDecodeAll]
  | cons packet packets ih =>
    rw [List.cons_append]
    simp only [rtpDecodeAll]
    rw [ih]
    rw [List.append_assoc]

/-
Decoding changes nothing of a decoder but the unit that it puts together.
-/
structure SameSetup (decoder decoder' : RtpDecoder) : Prop where
  onPacket_eq : decoder'.onPacket = decoder.onPacket
  decodeFunc_eq : decoder'.decodeFunc = decoder.decodeFunc

theorem SameSetup.refl (decoder : RtpDecoder) : SameSetup decoder decoder := ⟨rfl, rfl⟩

theorem SameSetup.reset (decoder : RtpDecoder) : SameSetup decoder decoder.reset := ⟨rfl, rfl⟩

theorem SameSetup.trans {decoder decoder' decoder'' : RtpDecoder} (h : SameSetup decoder decoder')
    (h' : SameSetup decoder' decoder'')
    : SameSetup decoder decoder'' :=
  ⟨h'.onPacket_eq.trans h.onPacket_eq, h'.decodeFunc_eq.trans h.decodeFunc_eq⟩

theorem rtpDecoderAppendNalu_cases {decoder decoder' : RtpDecoder} {data : List Byte}
    (h : rtpDecoderAppendNalu decoder data = some decoder')
    : SameSetup decoder decoder' ∧ decoder'.nalu = decoder.nalu ++ data := by
  unfold rtpDecoderAppendNalu at h
  split at h
  . cases h
    exact ⟨⟨rfl, rfl⟩, rfl⟩
  . contradiction

/--
What a packet can do: nothing, a unit that is begun or goes on, one that is dropped, or one that is delivered.
-/
inductive DecodeOutcome (decoder : RtpDecoder) (res : RtpDecoded) : Prop where
  | unchanged (decoder_eq : res.decoder = decoder) (delivered_eq : res.delivered = none)
  | dropped (decoder_eq : res.decoder = decoder.reset) (delivered_eq : res.delivered = none)
  | begun (unit : List Byte) (setup : SameSetup decoder res.decoder)
      (nalu_eq : res.decoder.nalu = naluStart4bytecode ++ unit) (ne_nil : unit ≠ [])
      (delivered_eq : res.delivered = none)
  | continued (data : List Byte) (setup : SameSetup decoder res.decoder)
      (nalu_eq : res.decoder.nalu = decoder.nalu ++ data) (ne_nil : decoder.nalu ≠ [])
      (delivered_eq : res.delivered = none)
  | single (unit : List Byte) (decoder_eq : res.decoder = decoder.reset)
      (delivered_eq : res.delivered = decoder.deliver (naluStart4bytecode ++ unit)) (ne_nil : unit ≠ [])
      (fits : (naluStart4bytecode ++ unit).length ≤ configMaxNaluSize)
  | completed (data : List Byte) (decoder_eq : res.decoder = decoder.reset)
      (delivered_eq : res.delivered = decoder.deliver (decoder.nalu ++ data)) (ne_nil : decoder.nalu ≠ [])
      (fits : (decoder.nalu ++ data).length ≤ configMaxNaluSize)

section Outcome

variable {decoder : RtpDecoder}

theorem length_append_le {decoder decoder' : RtpDecoder} {data : List Byte}
    (h : rtpDecoderAppendNalu decoder data = some decoder')
    : (decoder.nalu ++ data).length ≤ configMaxNaluSize := by
  rw [← (rtpDecoderAppendNalu_cases h).2]
  apply decoder'.naluOffset_le

theorem SameSetup.reset_eq {decoder' : RtpDecoder} (h : SameSetup decoder decoder')
    : decoder'.reset = decoder.reset := by
  simp [RtpDecoder.reset, h.onPacket_eq, h.decodeFunc_eq]

theorem SameSetup.deliver_eq {decoder' : RtpDecoder} (h : SameSetup decoder decoder') (unit : List Byte)
    : decoder'.deliver unit = decoder.deliver unit := by
  simp [RtpDecoder.deliver, h.onPacket_eq]

theorem rtpDecodeSingle_outcome (decoder : RtpDecoder) (size : Nat) {payload : List Byte} (hne : payload ≠ [])
    : DecodeOutcome decoder (rtpDecodeSingle decoder size payload) := by
  unfold rtpDecodeSingle
  dsimp only
  split
  . exact .dropped rfl rfl
  . next decoder' hres =>
    simp only [Option.bind_eq_bind, Option.bind_eq_some_iff] at hres
    obtain ⟨started, hstart, hpayload⟩ := hres
    have hstarted := rtpDecoderAppendNalu_cases hstart
    have hall := rtpDecoderAppendNalu_cases hpayload
    have hsetup := (SameSetup.reset decoder).trans (hstarted.1.trans hall.1)
    have hnalu : decoder'.nalu = naluStart4bytecode ++ payload := by
      rw [hall.2, hstarted.2]
      simp [RtpDecoder.reset]
    apply DecodeOutcome.single payload
    . exact hsetup.reset_eq
    . rw [← hnalu]
      exact hsetup.deliver_eq _
    . exact hne
    . rw [← hnalu]
      exact decoder'.naluOffset_le

theorem rtpDecodeFragment_outcome (decoder : RtpDecoder) (s e : BitVec 1) {hdr : List Byte} (hne : hdr ≠ [])
    (data : List Byte)
    : DecodeOutcome decoder (rtpDecodeFragment decoder s e hdr data) := by
  unfold rtpDecodeFragment
  dsimp only
  split
  . split
    . exact .dropped rfl rfl
    . next decoder' hres =>
      simp only [Option.bind_eq_bind, Option.bind_eq_some_iff] at hres
      obtain ⟨started, hstart, headed, hhead, hdata⟩ := hres
      have hstarted := rtpDecoderAppendNalu_cases hstart
      have hheaded := rtpDecoderAppendNalu_cases hhead
      have hall := rtpDecoderAppendNalu_cases hdata
      apply DecodeOutcome.begun (hdr ++ data)
      . exact (SameSetup.reset decoder).trans (hstarted.1.trans (hheaded.1.trans hall.1))
      . simp only
        rw [hall.2, hheaded.2, hstarted.2]
        simp [RtpDecoder.reset]
      . simp [hne]
      . rfl
  . split
    . next hkept =>
      have hkept : decoder.nalu ≠ [] := by
        intro hnil
        apply hkept
        simp [hnil]
      split
      . exact .dropped rfl rfl
      . next decoder' hres =>
        have hall := rtpDecoderAppendNalu_cases hres
        split
        . apply DecodeOutcome.completed data
          . exact hall.1.reset_eq
          . rw [← hall.2]
            exact hall.1.deliver_eq _
          . exact hkept
          . exact length_append_le hres
        . exact .continued data hall.1 hall.2 hkept rfl
    . exact .unchanged rfl rfl

theorem rtpDecodeH264_outcome (decoder : RtpDecoder) (buf : List Byte)
    : DecodeOutcome decoder (rtpDecodeH264 decoder buf) := by
  unfold rtpDecodeH264
  split
  . exact .unchanged rfl rfl
  . next hlong =>
    dsimp only
    split
    . apply rtpDecodeSingle_outcome
      apply List.ne_nil_of_length_pos
      rw [List.length_drop]
      omega
    . split
      . apply rtpDecodeFragment_outcome
        simp
      . exact .dropped rfl rfl

theorem rtpDecodeH265_outcome (decoder : RtpDecoder) (buf : List Byte)
    : DecodeOutcome decoder (rtpDecodeH265 decoder buf) := by
  unfold rtpDecodeH265
  split
  . exact .unchanged rfl rfl
  . next hlong =>
    dsimp only
    split
    . apply rtpDecodeSingle_outcome
      apply List.ne_nil_of_length_pos
      rw [List.length_drop]
      omega
    . split
      . apply rtpDecodeFragment_outcome
        simp
      . exact .dropped rfl rfl

theorem DecodeOutcome.sameSetup {res : RtpDecoded} (h : DecodeOutcome decoder res)
    : SameSetup decoder res.decoder := by
  cases h with
  | unchanged heq =>
    rw [heq]
    apply SameSetup.refl
  | dropped heq =>
    rw [heq]
    apply SameSetup.reset
  | begun _ hsetup => assumption
  | continued _ hsetup => assumption
  | single _ heq =>
    rw [heq]
    apply SameSetup.reset
  | completed _ heq =>
    rw [heq]
    apply SameSetup.reset

theorem RtpDecodeFunc.sameSetup (func : RtpDecodeFunc) (decoder : RtpDecoder) (buf : List Byte)
    : SameSetup decoder (func.run decoder buf).decoder := by
  cases func with
  | h264 => exact (rtpDecodeH264_outcome decoder buf).sameSetup
  | h265 => exact (rtpDecodeH265_outcome decoder buf).sameSetup
  | generic => apply SameSetup.refl

/-
A decoder decodes all packets with the codec that it has been given.
-/
theorem rtpDecodeAll_eq {func : RtpDecodeFunc} (hfunc : decoder.decodeFunc = some func)
    (packets : List (List Byte))
    : rtpDecodeAll rtpDecoderDecode decoder packets = rtpDecodeAll func.run decoder packets := by
  induction packets generalizing decoder with
  | nil => rfl
  | cons packet packets ih =>
    have hstep : rtpDecoderDecode decoder packet = func.run decoder packet := by
      simp [rtpDecoderDecode, hfunc]
    simp only [rtpDecodeAll]
    rw [hstep]
    rw [ih]
    rw [(func.sameSetup decoder packet).decodeFunc_eq]
    assumption

end Outcome

end Peer

import RtsmartLib.Peer.RtpRoundTrip

/-!
This module contains what the decoder makes of packets that are lost or that nobody has encoded.
-/

namespace Peer

open Lib

/-
A unit behind its start code, within the buffer.
-/
def Deliverable (bytes : List Byte) : Prop :=
  ∃ unit, bytes = naluStart4bytecode ++ unit ∧ unit ≠ [] ∧ bytes.length ≤ configMaxNaluSize

def AllDeliverable (delivered : List (List Byte)) : Prop :=
  ∀ bytes ∈ delivered, Deliverable bytes

/--
What stands in the buffer is the beginning of a unit, or nothing does.
-/
def RtpDecoder.Begun (decoder : RtpDecoder) : Prop :=
  decoder.nalu = [] ∨ ∃ unit, decoder.nalu = naluStart4bytecode ++ unit ∧ unit ≠ []

theorem RtpDecoder.Begun.append {decoder : RtpDecoder} (h : decoder.Begun) (hne : decoder.nalu ≠ [])
    (data : List Byte)
    : ∃ unit, decoder.nalu ++ data = naluStart4bytecode ++ unit ∧ unit ≠ [] := by
  cases h with
  | inl hnil => contradiction
  | inr hunit =>
    cases hunit with
    | intro unit hunit =>
      refine ⟨unit ++ data, ?_, ?_⟩
      . rw [hunit.1, List.append_assoc]
      . simp [hunit.2]

theorem RtpDecoder.mem_deliver {decoder : RtpDecoder} {bytes unit : List Byte}
    (h : some unit = decoder.deliver bytes)
    : unit = bytes := by
  unfold deliver at h
  split at h
  . exact Option.some.inj h
  . contradiction

/-
One packet, whatever is in it.
-/
theorem DecodeOutcome.begun_step {decoder : RtpDecoder} {res : RtpDecoded} (h : DecodeOutcome decoder res)
    (hbegun : decoder.Begun)
    : res.decoder.Begun ∧ ∀ bytes ∈ res.delivered, Deliverable bytes := by
  cases h with
  | unchanged hdecoder hdelivered =>
    rw [hdecoder, hdelivered]
    exact ⟨hbegun, by simp⟩
  | dropped hdecoder hdelivered =>
    rw [hdecoder, hdelivered]
    exact ⟨.inl rfl, by simp⟩
  | begun unit _ hnalu hne hdelivered =>
    rw [hdelivered]
    exact ⟨.inr ⟨unit, hnalu, hne⟩, by simp⟩
  | continued data _ hnalu hne hdelivered =>
    rw [hdelivered]
    refine ⟨.inr ?_, by simp⟩
    rw [hnalu]
    exact hbegun.append hne data
  | single unit hdecoder hdelivered hne hfits =>
    rw [hdecoder, hdelivered]
    refine ⟨.inl rfl, ?_⟩
    intro bytes hbytes
    rw [RtpDecoder.mem_deliver (Option.mem_def.mp hbytes).symm]
    exact ⟨unit, rfl, hne, hfits⟩
  | completed data hdecoder hdelivered hne hfits =>
    rw [hdecoder, hdelivered]
    refine ⟨.inl rfl, ?_⟩
    intro bytes hbytes
    rw [RtpDecoder.mem_deliver (Option.mem_def.mp hbytes).symm]
    obtain ⟨unit, hunit, hunitne⟩ := hbegun.append hne data
    exact ⟨unit, hunit, hunitne, hfits⟩

/-
The codecs that put units together.
-/
def RtpDecodeFunc.IsVideo (func : RtpDecodeFunc) : Prop :=
  func = .h264 ∨ func = .h265

theorem RtpDecodeFunc.IsVideo.outcome {func : RtpDecodeFunc} (h : func.IsVideo) (decoder : RtpDecoder)
    (packet : List Byte)
    : DecodeOutcome decoder (func.run decoder packet) := by
  cases h with
  | inl heq =>
    rw [heq]
    apply rtpDecodeH264_outcome
  | inr heq =>
    rw [heq]
    apply rtpDecodeH265_outcome

/--
Whatever arrives, all that is delivered is a start code of four bytes with a unit behind it, and no more than the
buffer holds.
-/
theorem rtpDecodeAll_deliverable {func : RtpDecodeFunc} (hvideo : func.IsVideo) {decoder : RtpDecoder}
    (hfunc : decoder.decodeFunc = some func) (hbegun : decoder.Begun) (packets : List (List Byte))
    : AllDeliverable (rtpDecodeAll rtpDecoderDecode decoder packets).2 := by
  unfold AllDeliverable
  rw [rtpDecodeAll_eq hfunc]
  induction packets generalizing decoder with
  | nil => simp [rtpDecodeAll]
  | cons packet packets ih =>
    have houtcome := hvideo.outcome decoder packet
    have hstep := houtcome.begun_step hbegun
    have hrest := ih (houtcome.sameSetup.decodeFunc_eq.trans hfunc) hstep.1
    intro bytes hmem
    simp only [rtpDecodeAll, List.mem_append, Option.mem_toList] at hmem
    cases hmem with
    | inl hnow => exact hstep.2 bytes hnow
    | inr hlater => exact hrest bytes hlater

theorem rtpDecodeAll_deliverable_init
    : AllDeliverable (rtpDecodeAll rtpDecoderDecode (rtpDecoderInit .zero .h264 true)
        [List.replicate 20 0x7c, [0x80], List.replicate 14 0x41]).2 :=
  rtpDecodeAll_deliverable (.inl rfl) rfl (.inl rfl)
    [List.replicate 20 0x7c, [0x80], List.replicate 14 0x41]

section Loss

variable {decode : RtpDecoder → List Byte → RtpDecoded} {head : BitVec 1 → BitVec 1 → List Byte}
variable {hdr : List Byte}

/-
A fragment with its bytes, as the encoder puts them into a packet.
-/
structure Fragment where
  header : RtpHeader
  data : List Byte

def Fragment.packet (head : BitVec 1 → BitVec 1 → List Byte) (s e : BitVec 1) (fragment : Fragment)
    : List Byte :=
  fragment.header.bytes ++ head s e ++ fragment.data

def bytesOf (fragments : List Fragment) : List Byte :=
  fragments.flatMap Fragment.data

/-
The fragments between the first and the last one are appended as they come.
-/
theorem rtpDecodeAll_middle (hreads : ReadsFragments decode head hdr) (fragments : List Fragment)
    (decoder : RtpDecoder) (hne : decoder.nalu ≠ [])
    (h : (decoder.nalu ++ bytesOf fragments).length ≤ configMaxNaluSize)
    : rtpDecodeAll decode decoder (fragments.map (Fragment.packet head 0 0))
        = (decoder.hold (decoder.nalu ++ bytesOf fragments) h, []) := by
  induction fragments generalizing decoder with
  | nil =>
    simp only [List.map_nil, rtpDecodeAll, bytesOf, List.flatMap_nil, List.append_nil]
    rfl
  | cons fragment fragments ih =>
    have hall : decoder.nalu ++ fragment.data ++ bytesOf fragments
        = decoder.nalu ++ bytesOf (fragment :: fragments) := by
      simp [bytesOf]
    have hfirst : (decoder.nalu ++ fragment.data).length ≤ configMaxNaluSize := by
      rw [← hall, List.length_append] at h
      omega
    have hstep : decode decoder (fragment.packet head 0 0) = ⟨0, decoder.hold _ hfirst, none⟩ := by
      unfold Fragment.packet
      rw [hreads]
      apply rtpDecodeFragment_next hne hdr hfirst
    have hrest := ih (decoder.hold _ hfirst) (by simp [hne]) (by rw [RtpDecoder.nalu_hold, hall]; exact h)
    simp only [List.map_cons, rtpDecodeAll, hstep, hrest]
    simp [hall]

/-
Without a unit that has begun they are all passed over.
-/
theorem rtpDecodeAll_headless (hreads : ReadsFragments decode head hdr) (fragments : List Fragment) (e : BitVec 1)
    {decoder : RtpDecoder} (hnil : decoder.nalu = [])
    : rtpDecodeAll decode decoder (fragments.map (Fragment.packet head 0 e)) = (decoder, []) := by
  induction fragments with
  | nil => rfl
  | cons fragment fragments ih =>
    have hstep : decode decoder (fragment.packet head 0 e) = ⟨0, decoder, none⟩ := by
      unfold Fragment.packet
      rw [hreads]
      simp [rtpDecodeFragment, hnil]
    simp only [List.map_cons, rtpDecodeAll, hstep, ih]
    simp

theorem length_bytesOf_le {fragments fragments' : List Fragment} (h : fragments.Sublist fragments')
    : (bytesOf fragments).length ≤ (bytesOf fragments').length := by
  induction h with
  | slnil => simp
  | cons fragment _ ih =>
    simp only [bytesOf, List.flatMap_cons, List.length_append] at ih ⊢
    omega
  | cons_cons fragment _ ih =>
    simp only [bytesOf, List.flatMap_cons, List.length_append] at ih ⊢
    omega

/-
The packets that the encoder makes of a unit.
-/
theorem exists_fragments_next (head : BitVec 1 → BitVec 1 → List Byte) {payloadSize : Nat}
    (hpos : 0 < payloadSize) (encoder : RtpEncoder) {buf : List Byte} (hne : buf ≠ [])
    : ∃ middle last, (rtpEncodeFragments payloadSize hpos head 0 encoder buf).2
          = middle.map (Fragment.packet head 0 0) ++ [Fragment.packet head 0 1 last]
        ∧ bytesOf (middle ++ [last]) = buf := by
  generalize hn : buf.length = n
  induction n using Nat.strong_induction_on generalizing buf encoder with
  | h n ih =>
    have hlength : 0 < buf.length := List.length_pos_of_ne_nil hne
    unfold rtpEncodeFragments
    rw [if_neg (by omega)]
    split
    . exact ⟨[], ⟨encoder.header 1, buf⟩, by simp [Fragment.packet], by simp [bytesOf]⟩
    . next hmore =>
      have hdrop : buf.drop payloadSize ≠ [] := by
        simp
        omega
      obtain ⟨middle, last, hpackets, hbytes⟩ :=
        ih (buf.drop payloadSize).length (by rw [List.length_drop]; omega) encoder.next hdrop rfl
      refine ⟨⟨encoder.header 0, buf.take payloadSize⟩ :: middle, last, ?_, ?_⟩
      . simp only [hpackets, Fragment.packet, List.map_cons, List.cons_append]
      . rw [List.cons_append]
        simp only [bytesOf, List.flatMap_cons] at hbytes ⊢
        rw [hbytes]
        apply List.take_append_drop

theorem exists_fragments (head : BitVec 1 → BitVec 1 → List Byte) {payloadSize : Nat}
    (hpos : 0 < payloadSize) (encoder : RtpEncoder) {buf : List Byte} (hlong : payloadSize < buf.length)
    : ∃ first middle last, (rtpEncodeFragments payloadSize hpos head 1 encoder buf).2
          = Fragment.packet head 1 0 first
              :: (middle.map (Fragment.packet head 0 0) ++ [Fragment.packet head 0 1 last])
        ∧ bytesOf (first :: (middle ++ [last])) = buf := by
  have hdrop : buf.drop payloadSize ≠ [] := by
    simp
    omega
  obtain ⟨middle, last, hpackets, hbytes⟩ := exists_fragments_next head hpos encoder.next hdrop
  refine ⟨⟨encoder.header 0, buf.take payloadSize⟩, middle, last, ?_, ?_⟩
  . unfold rtpEncodeFragments
    rw [if_neg (by omega)]
    rw [if_neg (by omega)]
    simp only [hpackets, Fragment.packet]
  . simp only [bytesOf, List.flatMap_cons] at hbytes ⊢
    rw [hbytes]
    apply List.take_append_drop

/--
What comes of a fragmented unit when only `received` of the fragments between the first and the last arrive: the
unit without the bytes of the others. When the first or the last is lost, nothing is delivered.
-/
structure LossOutcome (decode : RtpDecoder → List Byte → RtpDecoded)
    (head : BitVec 1 → BitVec 1 → List Byte) (hdr : List Byte) (first : Fragment) (received : List Fragment)
    (last : Fragment) : Prop where
  gap : ∀ decoder : RtpDecoder, decoder.onPacket = true →
    rtpDecodeAll decode decoder
        (first.packet head 1 0 :: (received.map (Fragment.packet head 0 0) ++ [last.packet head 0 1]))
      = (decoder.reset, [naluStart4bytecode ++ (hdr ++ bytesOf (first :: (received ++ [last])))])
  last_lost : ∀ decoder : RtpDecoder,
    (rtpDecodeAll decode decoder (first.packet head 1 0 :: received.map (Fragment.packet head 0 0))).2 = []
  first_lost : ∀ decoder : RtpDecoder, decoder.nalu = [] →
    rtpDecodeAll decode decoder (received.map (Fragment.packet head 0 0) ++ [last.packet head 0 1])
      = (decoder, [])

theorem lossOutcome (hreads : ReadsFragments decode head hdr) {first last : Fragment} {received : List Fragment}
    (hfits : (naluStart4bytecode ++ (hdr ++ bytesOf (first :: (received ++ [last])))).length ≤ configMaxNaluSize)
    : LossOutcome decode head hdr first received last := by
  have hsplit : bytesOf (first :: (received ++ [last])) = first.data ++ (bytesOf received ++ last.data) := by
    simp [bytesOf]
  rw [hsplit] at hfits
  have hfirst : (naluStart4bytecode ++ hdr ++ first.data).length ≤ configMaxNaluSize := by
    simp only [List.length_append] at hfits ⊢
    omega
  have hstart : ∀ decoder : RtpDecoder,
      decode decoder (first.packet head 1 0) = ⟨0, decoder.hold _ hfirst, none⟩ := by
    intro decoder
    unfold Fragment.packet
    rw [hreads]
    apply rtpDecodeFragment_first
  have hkept : ∀ decoder : RtpDecoder,
      ((decoder.hold _ hfirst).nalu ++ bytesOf received).length ≤ configMaxNaluSize := by
    intro decoder
    simp only [RtpDecoder.nalu_hold, List.length_append] at hfits ⊢
    omega
  have hne : ∀ decoder : RtpDecoder, (decoder.hold _ hfirst).nalu ≠ [] := by
    intro decoder
    simp [naluStart4bytecode]
  have hmiddle := fun decoder : RtpDecoder =>
    rtpDecodeAll_middle hreads received (decoder.hold _ hfirst) (hne decoder) (hkept decoder)
  constructor
  . intro decoder hon
    have hall : ((decoder.hold _ (hkept decoder)).nalu ++ last.data).length ≤ configMaxNaluSize := by
      simpa [List.append_assoc] using hfits
    have hcalled : (decoder.hold _ (hkept decoder)).onPacket = true := hon
    have hheld : (decoder.hold _ (hkept decoder)).nalu ≠ [] := by
      simp [naluStart4bytecode]
    have hlast := rtpDecodeFragment_last hcalled hheld hdr hall
    simp only [rtpDecodeAll]
    rw [hstart]
    simp only
    rw [rtpDecodeAll_append]
    rw [hmiddle]
    simp only [rtpDecodeAll]
    unfold Fragment.packet
    rw [hreads]
    rw [RtpDecoder.hold_hold]
    rw [hlast]
    rw [hsplit]
    simp
  . intro decoder
    simp only [rtpDecodeAll]
    rw [hstart]
    simp only
    rw [hmiddle]
    simp
  . intro decoder hnil
    rw [rtpDecodeAll_append]
    rw [rtpDecodeAll_headless hreads received 0 hnil]
    have hlast := rtpDecodeAll_headless hreads [last] 1 hnil
    simp only [List.map_cons, List.map_nil] at hlast
    simp only
    rw [hlast]
    simp

/--
The packets of a fragmented unit, and what comes of them over a channel that loses some.
-/
theorem exists_lossOutcome (hreads : ReadsFragments decode head hdr) {payloadSize : Nat}
    (hpos : 0 < payloadSize) (encoder : RtpEncoder) {buf : List Byte} (hlong : payloadSize < buf.length)
    (hfits : (naluStart4bytecode ++ (hdr ++ buf)).length ≤ configMaxNaluSize)
    : ∃ first middle last, (rtpEncodeFragments payloadSize hpos head 1 encoder buf).2
          = Fragment.packet head 1 0 first
              :: (middle.map (Fragment.packet head 0 0) ++ [Fragment.packet head 0 1 last])
        ∧ bytesOf (first :: (middle ++ [last])) = buf
        ∧ ∀ received, received.Sublist middle → LossOutcome decode head hdr first received last := by
  obtain ⟨first, middle, last, hpackets, hbytes⟩ := exists_fragments head hpos encoder hlong
  refine ⟨first, middle, last, hpackets, hbytes, ?_⟩
  intro received hreceived
  apply lossOutcome hreads
  have hle : (bytesOf (first :: (received ++ [last]))).length ≤ buf.length := by
    rw [← hbytes]
    apply length_bytesOf_le
    apply List.Sublist.cons_cons
    exact hreceived.append_right [last]
  simp only [List.length_append] at hfits ⊢
  omega

end Loss

theorem rtp_h265_lostFragments (encoder : RtpEncoder) {hdr hdr' : Byte} {buf : List Byte}
    (hunit : H265Unit (hdr :: hdr' :: buf)) (hlong : rtpPayloadSize < (hdr :: hdr' :: buf).length)
    : ∃ first middle last, (rtpEncoderEncodeH265Fu encoder (hdr :: hdr' :: buf)).2
          = Fragment.packet (h265FuHead hdr hdr') 1 0 first
              :: (middle.map (Fragment.packet (h265FuHead hdr hdr') 0 0)
                  ++ [Fragment.packet (h265FuHead hdr hdr') 0 1 last])
        ∧ bytesOf (first :: (middle ++ [last])) = buf
        ∧ ∀ received, received.Sublist middle →
            LossOutcome rtpDecodeH265 (h265FuHead hdr hdr') [hdr, hdr'] first received last := by
  unfold rtpEncoderEncodeH265Fu
  simp only [List.headD_cons, List.getD_cons_succ, List.getD_cons_zero, List.drop_succ_cons, List.drop_zero]
  apply exists_lossOutcome (readsFragments_h265 hdr hdr')
  . simp only [rtpPayloadSize, h265FuPayloadSize, configMtu, sizeofRtpHeader, List.length_cons] at hlong ⊢
    omega
  . exact hunit.fits

end Peer

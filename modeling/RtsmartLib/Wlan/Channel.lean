import RtsmartLib.Wlan.Wire

/-!
This module contains the agreement of the two directions of the channel codec.
-/

namespace Wlan

open Lib Posix

variable {channel : WlanOffloadChannel} {wire : RtwoCtrlChannel} {allowUnspecified : Bool}

theorem channelToWire_ok (h : wlanOffloadChannelToWire channel allowUnspecified = .ok wire)
    : wire = wireOf channel
        ∧ channel.width ≤ channelWidth320
        ∧ (channel.band = bandUnspecified ∨ channel.band ≤ band6Ghz) := by
  unfold wlanOffloadChannelToWire at h
  split at h
  . cases h
  next hwidth =>
    have hwidth : channel.width ≤ channelWidth320 := BitVec.not_lt.mp hwidth
    split at h
    next hband =>
      split at h
      . cases h
      . cases h
        exact ⟨rfl, hwidth, Or.inl hband⟩
    next hband =>
      split at h
      . cases h
      next hfields =>
        cases h
        have hlow := (not_or.mp hfields).1
        exact ⟨rfl, hwidth, Or.inr (BitVec.not_lt.mp hlow)⟩

theorem setWidth_setWidth_le {x : BitVec 32} {n : Nat} (h : x ≤ BitVec.ofNat 32 n) (hn : n < 256)
    : (x.setWidth 8).setWidth 32 = x := by
  rw [BitVec.le_def, BitVec.toNat_ofNat] at h
  apply BitVec.eq_of_toNat_eq
  rw [BitVec.toNat_setWidth, BitVec.toNat_setWidth]
  omega

/-
The limits of the encoder leave nothing of a channel out of its wire value.
-/
theorem channelOf_wireOf (hwidth : channel.width ≤ channelWidth320)
    (hband : channel.band = bandUnspecified ∨ channel.band ≤ band6Ghz)
    : channelOf (wireOf channel) = channel := by
  have hwidth' : (channel.width.setWidth 8).setWidth 32 = channel.width :=
    setWidth_setWidth_le hwidth (by omega)
  have hband' : (channelOf (wireOf channel)).band = channel.band := by
    unfold channelOf wireOf
    dsimp only
    cases hband with
    | inl h => rw [if_pos h, if_pos rfl, h]
    | inr h =>
      have hcopy : (channel.band.setWidth 8).setWidth 32 = channel.band :=
        setWidth_setWidth_le h (by omega)
      have hspecified : channel.band ≠ bandUnspecified := by
        intro heq
        rw [heq] at h
        exact absurd h (by decide)
      have hspecified' : channel.band.setWidth 8 ≠ rtwoCtrlBandUnspecified := by
        intro heq
        rw [heq] at hcopy
        exact hspecified hcopy.symm
      rw [if_neg hspecified, if_neg hspecified', hcopy]
  obtain ⟨band, width, primary, frequency, center1, center2⟩ := channel
  unfold channelOf wireOf at hband' ⊢
  dsimp only at hband' hwidth' ⊢
  rw [hband', hwidth']

theorem channelFromWire_ok (h : wlanOffloadChannelFromWire wire allowUnspecified = .ok channel)
    : wire.reserved = Vector.replicate 2 0#8
        ∧ channel = channelOf wire
        ∧ ∃ checked, wlanOffloadChannelToWire channel allowUnspecified = .ok checked := by
  unfold wlanOffloadChannelFromWire at h
  split at h
  . cases h
  next hreserved =>
    have ⟨hfirst, hrest⟩ := not_or.mp hreserved
    have ⟨hsecond, _⟩ := not_or.mp hrest
    have hcleared : wire.reserved = Vector.replicate 2 0#8 := by
      apply Vector.ext
      intro i hi
      rw [Vector.getElem_replicate]
      obtain rfl | rfl : i = 0 ∨ i = 1 := by omega
      . exact not_not.mp hfirst
      . exact not_not.mp hsecond
    split at h
    . cases h
    next checked hchecked =>
      cases h
      exact ⟨hcleared, rfl, checked, hchecked⟩

theorem wireOf_channelOf (hreserved : wire.reserved = Vector.replicate 2 0#8)
    : wireOf (channelOf wire) = wire := by
  have hcopy : ∀ x : Byte, (x.setWidth 32).setWidth 8 = x := by
    intro x
    apply BitVec.eq_of_toNat_eq
    rw [BitVec.toNat_setWidth, BitVec.toNat_setWidth]
    omega
  have hband : (wireOf (channelOf wire)).band = wire.band := by
    unfold wireOf channelOf
    dsimp only
    by_cases h : wire.band = rtwoCtrlBandUnspecified
    . rw [if_pos h, if_pos rfl, h]
    . have hspecified : wire.band.setWidth 32 ≠ bandUnspecified := by
        intro heq
        apply h
        rw [← hcopy wire.band, heq]
        rfl
      rw [if_neg h, if_neg hspecified, hcopy]
  obtain ⟨frequency, center1, center2, primary, band, width, reserved⟩ := wire
  unfold wireOf channelOf at hband ⊢
  dsimp only at hband hreserved ⊢
  rw [hband, hcopy, hreserved]

theorem channelFromWire_of_toWire (h : wlanOffloadChannelToWire channel allowUnspecified = .ok wire)
    : wlanOffloadChannelFromWire wire allowUnspecified = .ok channel := by
  have ⟨hwire, hwidth, hband⟩ := channelToWire_ok h
  have hcopy : channelOf wire = channel := by
    rw [hwire]
    exact channelOf_wireOf hwidth hband
  have hwidth' : wire.width ≤ rtwoCtrlChannelWidth320 := by
    rw [BitVec.le_def] at hwidth ⊢
    rw [hwire]
    exact Nat.le_trans (Nat.mod_le channel.width.toNat 256) hwidth
  have hcleared : ¬(wire.reserved[0] ≠ 0#8 ∨ wire.reserved[1] ≠ 0#8
      ∨ wire.width > rtwoCtrlChannelWidth320) := by
    rw [not_or, not_or]
    refine ⟨?_, ?_, BitVec.not_lt.mpr hwidth'⟩
    . simp [hwire, wireOf]
    . simp [hwire, wireOf]
  unfold wlanOffloadChannelFromWire
  rw [if_neg hcleared]
  rw [hcopy, h]

theorem channelToWire_of_fromWire (h : wlanOffloadChannelFromWire wire allowUnspecified = .ok channel)
    : wlanOffloadChannelToWire channel allowUnspecified = .ok wire := by
  have ⟨hreserved, hchannel, checked, hchecked⟩ := channelFromWire_ok h
  have hencoded := (channelToWire_ok hchecked).1
  rw [hchannel, wireOf_channelOf hreserved] at hencoded
  rw [hchecked, hencoded]

theorem rtwoCtrlChannel_exact : rtwoCtrlChannel.Exact := by
  apply Layout.Exact.map
  have hword := Layout.word16_exact
  have hbyte := Layout.byte_exact
  exact hword.seq (hword.seq (hword.seq (hword.seq (hbyte.seq (hbyte.seq (hbyte.array 2))))))

theorem wlanOffloadChannel_codec (allowUnspecified : Bool)
    : (∀ channel wire, wlanOffloadChannelToWire channel allowUnspecified = .ok wire →
          wlanOffloadChannelFromWire wire allowUnspecified = .ok channel)
        ∧ (∀ wire, (∃ channel, wlanOffloadChannelFromWire wire allowUnspecified = .ok channel)
          ↔ ∃ channel, wlanOffloadChannelToWire channel allowUnspecified = .ok wire)
        ∧ ∀ bytes, bytes.length = rtwoCtrlChannel.size → ∀ channel,
          wlanOffloadChannelFromWire (rtwoCtrlChannel.read bytes) allowUnspecified = .ok channel →
            ∃ wire, wlanOffloadChannelToWire channel allowUnspecified = .ok wire
              ∧ rtwoCtrlChannel.write wire = bytes := by
  refine ⟨?_, ?_, ?_⟩
  . intro channel wire h
    exact channelFromWire_of_toWire h
  . intro wire
    constructor
    . intro ⟨channel, h⟩
      exact ⟨channel, channelToWire_of_fromWire h⟩
    . intro ⟨channel, h⟩
      exact ⟨channel, channelFromWire_of_toWire h⟩
  . intro bytes hlength channel h
    exact ⟨rtwoCtrlChannel.read bytes, channelToWire_of_fromWire h, rtwoCtrlChannel_exact bytes hlength⟩

end Wlan

import RtsmartLib.Mbedtls.EcdhAlt

/-!
This module contains what the ECDH port relies on: the curves, and what the calls to the driver and to
the library have done when they succeed.
-/

namespace Mbedtls

open Lib Pufs

/--
The curves: base points and the multiplication of a point by a number, `none` where the product is the
point at infinity.
-/
structure Ecp where
  G : EcpGroupId → EcpPoint
  mul : EcpGroupId → Nat → EcpPoint → Option EcpPoint

/--
The driver and the library as what they answer. `slotKey` is the key in PRK slot 0, which no call gives
out.
-/
structure EcdhLib (W : Type) where
  call : Callee EcdhOp EcdhOp.Answer W
  slotKey : W → Option Nat

def EcdhOp.writesSlot (op : EcdhOp) : Bool :=
  match op with
  | .eccPrkGen _ _ _ | .keyImportPlaintext _ _ _ _ | .keyClear _ _ _ => true
  | _ => false

variable {W : Type}

/--
What a call that succeeds has done, and that nothing but generation, import and clear changes the key
in the slot. Of calls that fail nothing more is known.
-/
structure EcdhLib.Lawful (lib : EcdhLib W) (ecp : Ecp) : Prop where
  eccPukGen : ∀ cm ∈ ecdhCurveMap, ∀ puk w,
    (lib.call (.eccPukGen cm.pufsId .prkey .prk0) w).1 = .ok puk →
      ∃ k, lib.slotKey w = some k ∧ ecp.mul cm.mbedtlsId k (ecp.G cm.mbedtlsId)
        = some ⟨mpiReadBinary puk.x cm.qlen, mpiReadBinary puk.y cm.qlen⟩
  eccCdh : ∀ cm ∈ ecdhCurveMap, ∀ puk shared w,
    (lib.call (.eccCdh cm.pufsId true .prk0 puk cm.qlen) w).1 = .ok shared →
      ∃ k R, lib.slotKey w = some k
        ∧ ecp.mul cm.mbedtlsId k ⟨valueBE puk.x, valueBE puk.y⟩ = some R
        ∧ mpiReadBinary shared cm.qlen = R.X
  keyImportPlaintext : ∀ key keybits w,
    (lib.call (.keyImportPlaintext .prkey .prk0 key keybits) w).1 = .ok () →
      lib.slotKey (lib.call (.keyImportPlaintext .prkey .prk0 key keybits) w).2
        = some (valueBE key)
  ecpMul : ∀ id m P R w,
    (lib.call (.ecpMul id m P) w).1 = .ok R → R = ecp.mul id m P
  slotKey : ∀ op w, op.writesSlot = false → lib.slotKey (lib.call op w).2 = lib.slotKey w

/-
`z` is the x coordinate of `k * Q`.
-/
def IsSecret (ecp : Ecp) (id : EcpGroupId) (k : Nat) (Q : EcpPoint) (z : Nat) : Prop :=
  ∃ R, ecp.mul id k Q = some R ∧ z = R.X

/-
The peer's coordinates fit the buffers of the driver.
-/
def Fits (cm : EcdhCurveEntry) (Q : EcpPoint) : Prop :=
  Q.X < 256 ^ cm.qlen ∧ Q.Y < 256 ^ cm.qlen

def pukOf (cm : EcdhCurveEntry) (Q : EcpPoint) : EccPuk :=
  ⟨cm.qlen, bytesBE cm.qlen Q.X, bytesBE cm.qlen Q.Y⟩

theorem ecdhFindCurve_some {id : EcpGroupId} {cm : EcdhCurveEntry} (h : ecdhFindCurve id = some cm)
    : cm ∈ ecdhCurveMap ∧ cm.mbedtlsId = id := by
  constructor
  . apply List.mem_of_find?_eq_some h
  . have hid := List.find?_some h
    apply of_decide_eq_true hid

theorem mpiBitlen_le_iff (X n : Nat) : mpiBitlen X ≤ n ↔ X < 2 ^ n := by
  unfold mpiBitlen
  split
  . next h =>
    rw [h]
    simp only [Nat.zero_le, Nat.two_pow_pos]
  . next h =>
    rw [Nat.succ_le_iff]
    apply Nat.log2_lt h

theorem ecdhIsSentinel_iff (d : Nat) : ecdhIsSentinel d = true ↔ 0x100 ≤ d ∧ d < 0x200 := by
  unfold ecdhIsSentinel
  rw [Bool.and_eq_true, decide_eq_true_iff, decide_eq_true_iff]
  rw [mpiBitlen_le_iff]
  exact Iff.rfl

theorem ecdhIsSentinel_sentinel : ecdhIsSentinel ecdhSentinel = true := by
  rw [ecdhIsSentinel_iff]
  decide

theorem mpiWriteBinary_ok {X n : Nat} (h : X < 256 ^ n) : mpiWriteBinary X n = .ok (bytesBE n X) := by
  unfold mpiWriteBinary
  rw [if_pos h]

theorem mpiWriteBinary_error {X n : Nat} (h : ¬X < 256 ^ n)
    : mpiWriteBinary X n = .error errMpiBufferTooSmall := by
  unfold mpiWriteBinary
  rw [if_neg h]

theorem valueBE_bytesBE_of_lt {X n : Nat} (h : X < 256 ^ n) : valueBE (bytesBE n X) = X := by
  rw [valueBE_bytesBE]
  apply Nat.mod_eq_of_lt h

theorem valueBE_of_mpiWriteBinary {X n : Nat} {buf : List Byte} (h : mpiWriteBinary X n = .ok buf)
    : valueBE buf = X := by
  unfold mpiWriteBinary at h
  split at h
  . next hlt =>
    cases h
    apply valueBE_bytesBE_of_lt hlt
  . cases h

section

variable {dev : Bool} {grp : EcpGroup} {cm : EcdhCurveEntry} {Q : EcpPoint} {d : Nat}

/--
The ways through `mbedtls_ecdh_compute_shared`: without the hardware, with coordinates that do not fit,
with the sentinel and with a number.
-/
theorem computeShared_cases {motive : EcdhCalls Nat → Prop}
    (hsw : (dev = true → ecdhFindCurve grp.id = none) → motive (ecdhComputeSharedSw grp Q d))
    (hrefused : ∀ cm, dev = true → ecdhFindCurve grp.id = some cm → ¬Fits cm Q →
      motive (.ret (.error errMpiBufferTooSmall)))
    (hsentinel : ∀ cm, dev = true → ecdhFindCurve grp.id = some cm → Fits cm Q →
      ecdhIsSentinel d = true → motive (ecdhComputeSharedSlot grp cm (pukOf cm Q) Q d false))
    (hnumber : ∀ cm, dev = true → ecdhFindCurve grp.id = some cm → Fits cm Q →
      ¬ecdhIsSentinel d = true → motive (ecdhComputeSharedImport grp cm (pukOf cm Q) Q d))
    : motive (mbedtlsEcdhComputeShared dev grp Q d) := by
  unfold mbedtlsEcdhComputeShared
  split
  . next cm hcm =>
    by_cases hx : Q.X < 256 ^ cm.qlen
    . rw [mpiWriteBinary_ok hx]
      dsimp only
      by_cases hy : Q.Y < 256 ^ cm.qlen
      . rw [mpiWriteBinary_ok hy]
        dsimp only
        split
        next hd =>
          apply hsentinel cm rfl hcm ⟨hx, hy⟩ hd
        next hd =>
          apply hnumber cm rfl hcm ⟨hx, hy⟩ hd
      . rw [mpiWriteBinary_error hy]
        apply hrefused cm rfl hcm
        intro hfits
        apply hy hfits.2
    . rw [mpiWriteBinary_error hx]
      apply hrefused cm rfl hcm
      intro hfits
      apply hx hfits.1
  . next hnone =>
    apply hsw
    intro hdev
    cases hcm : ecdhFindCurve grp.id with
    | none => rfl
    | some cm => cases hnone cm hcm hdev

end

theorem mpiChk_ensures {σ α : Type} {callee : Callee EcdhOp EcdhOp.Answer σ}
    {other : σ → σ → Prop} {post : Except Errno α → σ → Prop} {next : EcdhCalls α} {s : σ}
    (herror : ∀ errno s', other s s' →
      Calls.Ensures callee other post (.ret (.error errno)) (callee .mpiGrow s').2)
    (hnext : ∀ s', other s s' → next.Ensures callee other post (callee .mpiGrow s').2)
    : (mpiChk next).Ensures callee other post s := by
  intro s' hother
  dsimp only
  split
  . apply herror _ s' hother
  . apply hnext s' hother

section

variable {lib : EcdhLib W} {ecp : Ecp} {id : EcpGroupId} {cm : EcdhCurveEntry} {Q : EcpPoint}

theorem mpiReadBinary_shared (hlib : lib.Lawful ecp) (hcm : ecdhFindCurve id = some cm)
    (hfits : Fits cm Q) {shared : List Byte} {w : W}
    (h : (lib.call (.eccCdh cm.pufsId true .prk0 (pukOf cm Q) cm.qlen) w).1 = .ok shared)
    : ∃ k, lib.slotKey w = some k ∧ IsSecret ecp id k Q (mpiReadBinary shared cm.qlen) := by
  have ⟨hmem, hid⟩ := ecdhFindCurve_some hcm
  obtain ⟨k, R, hk, hmul, hR⟩ := hlib.eccCdh cm hmem _ shared w h
  rw [hid] at hmul
  dsimp only [pukOf] at hmul
  rw [valueBE_bytesBE_of_lt hfits.1, valueBE_bytesBE_of_lt hfits.2] at hmul
  exact ⟨k, hk, R, hmul, hR⟩

end

end Mbedtls

import RtsmartLib.Mbedtls.Secp256r1

/-!
This module contains when the shared secret is the one of the private key, for one call of
`mbedtls_ecdh_compute_shared` with a number or with the sentinel.
-/

namespace Mbedtls

open Lib Pufs

variable {W : Type}

/-
A private key as `mbedtls_ecdh_gen_public` leaves it: a number, or in the slot.
-/
inductive EcdhKey where
  | genuine (d : Nat)
  | slot
deriving DecidableEq

def EcdhKey.d (key : EcdhKey) : Nat :=
  match key with
  | .genuine d => d
  | .slot => ecdhSentinel

def EcdhKey.scalar (key : EcdhKey) (lib : EcdhLib W) (w : W) : Option Nat :=
  match key with
  | .genuine d => some d
  | .slot => lib.slotKey w

def EcdhOp.isCdh (op : EcdhOp) : Bool :=
  match op with
  | .eccCdh _ _ _ _ _ => true
  | _ => false

def EcdhOp.isImport (op : EcdhOp) : Bool :=
  match op with
  | .keyImportPlaintext _ _ _ _ => true
  | _ => false

/-
The number that a call uses as a private key.
-/
def EcdhOp.scalar (op : EcdhOp) : Option Nat :=
  match op with
  | .ecpMul _ m _ => some m
  | .keyImportPlaintext _ _ key _ => some (valueBE key)
  | _ => none

/-
The secret was taken from the slot without the key being put there.
-/
def TakenForSentinel (ops : List EcdhOp) : Prop :=
  (∃ op ∈ ops, op.isCdh) ∧ ∀ op ∈ ops, ¬op.isImport

/--
A call with the private key `key` returns only the secret of that key, takes no number for the
sentinel and uses the sentinel as no number.
-/
structure SecretOk (lib : EcdhLib W) (ecp : Ecp) (dev : Bool) (grp : EcpGroup) (Q : EcpPoint)
    (key : EcdhKey) (w : W) : Prop where
  secret : ∀ z, ((mbedtlsEcdhComputeShared dev grp Q key.d).run lib.call w).1 = .ok z →
    ∃ k, key.scalar lib w = some k ∧ IsSecret ecp grp.id k Q z
  genuine : ∀ d, key = .genuine d →
    ¬TakenForSentinel ((mbedtlsEcdhComputeShared dev grp Q key.d).trace lib.call w)
  slot : key = .slot →
    ∀ op ∈ (mbedtlsEcdhComputeShared dev grp Q key.d).trace lib.call w, op.scalar ≠ some key.d

/-
When the call does what it should: a number outside of the sentinel's range unless the hardware is out
of the question, and a key in the slot only if the hardware is there and its CDH succeeds.
-/
def SecretCondition (lib : EcdhLib W) (dev : Bool) (grp : EcpGroup) (Q : EcpPoint) (key : EcdhKey)
    (w : W) : Prop :=
  match key with
  | .genuine d =>
    ∀ cm, ecdhFindCurve grp.id = some cm → dev = true → Fits cm Q → d < 0x100 ∨ 0x200 ≤ d
  | .slot =>
    dev = true ∧ ∃ cm, ecdhFindCurve grp.id = some cm
      ∧ (Fits cm Q →
          ∃ shared, (lib.call (.eccCdh cm.pufsId true .prk0 (pukOf cm Q) cm.qlen) w).1 = .ok shared)

section

variable {lib : EcdhLib W} {ecp : Ecp} {dev : Bool} {grp : EcpGroup} {cm : EcdhCurveEntry}
  {Q : EcpPoint} {d : Nat}

theorem makes_mpiChk {allowed : EcdhOp → Prop} {α : Type} {next : EcdhCalls α}
    (hgrow : allowed .mpiGrow) (h : next.Makes allowed)
    : (mpiChk next).Makes allowed := by
  constructor
  . exact hgrow
  . intro ans
    cases ans with
    | error errno => trivial
    | ok _ => exact h

/-
The software path multiplies and does nothing with the slot.
-/
theorem makes_sw {allowed : EcdhOp → Prop} (hmul : allowed (.ecpMul grp.id d Q))
    (hgrow : allowed .mpiGrow)
    : (ecdhComputeSharedSw grp Q d).Makes allowed := by
  constructor
  . exact hmul
  . intro ans
    rcases ans with errno | _ | P
    . trivial
    . trivial
    . apply makes_mpiChk hgrow
      trivial

theorem makes_slot {allowed : EcdhOp → Prop} {puk : EccPuk}
    (hcdh : allowed (.eccCdh cm.pufsId true .prk0 puk cm.qlen))
    (hmul : allowed (.ecpMul grp.id d Q)) (hgrow : allowed .mpiGrow)
    : (ecdhComputeSharedSlot grp cm puk Q d false).Makes allowed := by
  constructor
  . exact hcdh
  . intro ans
    cases ans with
    | error errno => apply makes_sw hmul hgrow
    | ok shared =>
      apply makes_mpiChk hgrow
      trivial

theorem mpiChk_ret_ensures {α : Type} {a : α} {P : α → Prop} (h : P a) (w : W)
    : (mpiChk (.ret (.ok a))).Ensures lib.call Eq (fun r _ => ∀ z, r = .ok z → P z) w := by
  apply mpiChk_ensures
  . intro errno w' hw w'' hw' z hz
    cases hz
  . intro w' hw w'' hw' z hz
    cases hz
    exact h

theorem sw_ensures (hlib : lib.Lawful ecp) (grp : EcpGroup) (Q : EcpPoint) (d : Nat) (w : W)
    : (ecdhComputeSharedSw grp Q d).Ensures lib.call Eq
        (fun r _ => ∀ z, r = .ok z → IsSecret ecp grp.id d Q z) w := by
  intro w' hw
  have hmul := hlib.ecpMul grp.id d Q
  dsimp only
  split
  . intro w'' hw' z hz
    cases hz
  . intro w'' hw' z hz
    cases hz
  . next P hP =>
    apply mpiChk_ret_ensures
    exact ⟨P, (hmul _ w' hP).symm, rfl⟩

theorem end_ensures (hlib : lib.Lawful ecp) {P : Nat → Prop} {res : Except Errno (List Byte)}
    (herror : ∀ errno, res = .error errno → ∀ z, IsSecret ecp grp.id d Q z → P z)
    (hok : ∀ shared, res = .ok shared → P (mpiReadBinary shared cm.qlen)) (w : W)
    : (ecdhComputeSharedEnd grp cm Q d res).Ensures lib.call Eq
        (fun r _ => ∀ z, r = .ok z → P z) w := by
  cases res with
  | error errno =>
    apply (sw_ensures hlib grp Q d w).mono
    intro r w' h z hz
    apply herror errno rfl
    apply h z hz
  | ok shared =>
    apply mpiChk_ret_ensures
    apply hok shared rfl

/-
With a loaded slot the secret is what the CDH gave, but after a failed CDH it is the one of the number
`d`.
-/
theorem slot_ensures (hlib : lib.Lawful ecp) {P : Nat → Prop} {puk : EccPuk} {w : W}
    (herror : ∀ errno, (lib.call (.eccCdh cm.pufsId true .prk0 puk cm.qlen) w).1 = .error errno →
      ∀ z, IsSecret ecp grp.id d Q z → P z)
    (hok : ∀ shared, (lib.call (.eccCdh cm.pufsId true .prk0 puk cm.qlen) w).1 = .ok shared →
      P (mpiReadBinary shared cm.qlen))
    (needClear : Bool)
    : (ecdhComputeSharedSlot grp cm puk Q d needClear).Ensures lib.call Eq
        (fun r _ => ∀ z, r = .ok z → P z) w := by
  intro w' hw
  subst hw
  cases needClear with
  | false => apply end_ensures hlib herror hok
  | true =>
    intro w' _
    apply end_ensures hlib herror hok

theorem import_ensures (hlib : lib.Lawful ecp) (hcm : ecdhFindCurve grp.id = some cm)
    (hfits : Fits cm Q) (d : Nat) (w : W)
    : (ecdhComputeSharedImport grp cm (pukOf cm Q) Q d).Ensures lib.call Eq
        (fun r _ => ∀ z, r = .ok z → IsSecret ecp grp.id d Q z) w := by
  unfold ecdhComputeSharedImport
  split
  . apply sw_ensures hlib
  split
  . intro w' hw z hz
    cases hz
  . next keybuf hkeybuf =>
    intro w' hw
    dsimp only
    split
    . apply sw_ensures hlib
    . next himport =>
      have hkey := hlib.keyImportPlaintext keybuf (cm.qlen * 8) w' himport
      rw [valueBE_of_mpiWriteBinary hkeybuf] at hkey
      -- with its own number in the slot the CDH and the library give the same
      apply slot_ensures hlib
      . intro errno _ z hz
        exact hz
      . intro shared hshared
        obtain ⟨k, hk, hsecret⟩ := mpiReadBinary_shared hlib hcm hfits hshared
        rw [hkey] at hk
        cases hk
        exact hsecret

theorem computeShared_genuine_ensures (hlib : lib.Lawful ecp) {w : W}
    (h : SecretCondition lib dev grp Q (.genuine d) w)
    : (mbedtlsEcdhComputeShared dev grp Q d).Ensures lib.call Eq
        (fun r _ => ∀ z, r = .ok z → IsSecret ecp grp.id d Q z) w := by
  refine computeShared_cases (motive := fun prog => prog.Ensures lib.call Eq _ w) ?_ ?_ ?_ ?_
  . intro _
    apply sw_ensures hlib
  . intro cm _ _ _ w' _ z hz
    cases hz
  . intro cm hdev hcm hfits hd
    rw [ecdhIsSentinel_iff] at hd
    have := h cm hcm hdev hfits
    omega
  . intro cm _ hcm hfits _
    apply import_ensures hlib hcm hfits

theorem sw_not_taken (w : W)
    : ¬TakenForSentinel ((ecdhComputeSharedSw grp Q d).trace lib.call w) := by
  intro ⟨⟨op, hop, hcdh⟩, _⟩
  have hmakes : (ecdhComputeSharedSw grp Q d).Makes (fun op => ¬op.isCdh = true) := by
    apply makes_sw
    . simp [EcdhOp.isCdh]
    . simp [EcdhOp.isCdh]
  apply hmakes.trace w op hop hcdh

theorem import_not_taken {puk : EccPuk} (w : W)
    : ¬TakenForSentinel ((ecdhComputeSharedImport grp cm puk Q d).trace lib.call w) := by
  unfold ecdhComputeSharedImport
  split
  . apply sw_not_taken
  split
  . intro ⟨⟨op, hop, _⟩, _⟩
    cases hop
  . next keybuf hkeybuf =>
    intro ⟨_, himport⟩
    apply himport (.keyImportPlaintext .prkey .prk0 keybuf (cm.qlen * 8))
    . apply List.mem_cons_self
    . rfl

theorem slot_taken {puk : EccPuk} (w : W)
    : TakenForSentinel ((ecdhComputeSharedSlot grp cm puk Q d false).trace lib.call w) := by
  constructor
  . exists .eccCdh cm.pufsId true .prk0 puk cm.qlen
    constructor
    . apply List.mem_cons_self
    . rfl
  . have hmakes : (ecdhComputeSharedSlot grp cm puk Q d false).Makes
        (fun op => ¬op.isImport = true) := by
      apply makes_slot
      . simp [EcdhOp.isImport]
      . simp [EcdhOp.isImport]
      . simp [EcdhOp.isImport]
    apply hmakes.trace w

theorem nil_not_taken : ¬TakenForSentinel [] := by
  intro ⟨⟨op, hop, _⟩, _⟩
  cases hop

theorem computeShared_genuine_taken_iff (w : W)
    : TakenForSentinel ((mbedtlsEcdhComputeShared dev grp Q d).trace lib.call w)
        ↔ ¬SecretCondition lib dev grp Q (.genuine d) w := by
  refine computeShared_cases (motive := fun prog => TakenForSentinel (prog.trace lib.call w) ↔ _)
    ?_ ?_ ?_ ?_
  . intro hsw
    apply iff_of_false (sw_not_taken w)
    intro h
    apply h
    intro cm hcm hdev
    rw [hsw hdev] at hcm
    cases hcm
  . intro cm _ hcm hfits
    apply iff_of_false nil_not_taken
    intro h
    apply h
    intro cm' hcm' _ hfits'
    rw [hcm] at hcm'
    cases hcm'
    cases hfits hfits'
  . -- whatever the hardware answers, a number in the range of the sentinel is taken for it
    intro cm hdev hcm hfits hd
    rw [ecdhIsSentinel_iff] at hd
    apply iff_of_true (slot_taken w)
    intro h
    have := h cm hcm hdev hfits
    omega
  . intro cm hdev hcm hfits hd
    rw [ecdhIsSentinel_iff] at hd
    apply iff_of_false (import_not_taken w)
    intro h
    apply h
    intro _ _ _ _
    omega

/-
The software path multiplies by the number it is given, sentinel or not.
-/
theorem sw_uses_scalar (grp : EcpGroup) (Q : EcpPoint) (d : Nat) (w : W)
    : ¬∀ op ∈ (ecdhComputeSharedSw grp Q d).trace lib.call w, op.scalar ≠ some d := by
  intro h
  apply h (.ecpMul grp.id d Q)
  . apply List.mem_cons_self
  . rfl

theorem computeShared_slot_ensures (hlib : lib.Lawful ecp) {w : W}
    (h : SecretCondition lib dev grp Q .slot w)
    : (mbedtlsEcdhComputeShared dev grp Q ecdhSentinel).Ensures lib.call Eq
        (fun r _ => ∀ z, r = .ok z → ∃ k, lib.slotKey w = some k ∧ IsSecret ecp grp.id k Q z) w := by
  obtain ⟨hdev, cm, hcm, hcdh⟩ := h
  refine computeShared_cases (motive := fun prog => prog.Ensures lib.call Eq _ w) ?_ ?_ ?_ ?_
  . intro hsw
    rw [hsw hdev] at hcm
    cases hcm
  . intro cm' _ _ _ w' _ z hz
    cases hz
  . intro cm' _ hcm' hfits _
    rw [hcm] at hcm'
    cases hcm'
    obtain ⟨shared, hshared⟩ := hcdh hfits
    apply slot_ensures hlib
    . intro errno herrno
      rw [hshared] at herrno
      cases herrno
    . intro shared' hshared'
      apply mpiReadBinary_shared hlib hcm hfits hshared'
  . intro cm' _ _ _ hd
    cases hd ecdhIsSentinel_sentinel

theorem slot_scalar_iff {puk : EccPuk} (w : W)
    : (∀ op ∈ (ecdhComputeSharedSlot grp cm puk Q d false).trace lib.call w, op.scalar ≠ some d)
        ↔ ∃ shared, (lib.call (.eccCdh cm.pufsId true .prk0 puk cm.qlen) w).1 = .ok shared := by
  cases hres : (lib.call (.eccCdh cm.pufsId true .prk0 puk cm.qlen) w).1 with
  | error errno =>
    -- the call goes on in software, with the sentinel as it is
    apply iff_of_false
    . intro h
      apply sw_uses_scalar grp Q d (lib.call (.eccCdh cm.pufsId true .prk0 puk cm.qlen) w).2
      intro op hop
      apply h
      unfold ecdhComputeSharedSlot Calls.trace
      rw [hres]
      apply List.mem_cons_of_mem
      exact hop
    . intro h
      obtain ⟨shared, hshared⟩ := h
      cases hshared
  | ok shared =>
    apply iff_of_true
    . unfold ecdhComputeSharedSlot Calls.trace
      rw [hres]
      rw [List.forall_mem_cons]
      constructor
      . intro h
        cases h
      . have hmakes : (ecdhComputeSharedEnd grp cm Q d (.ok shared)).Makes
            (fun op => op.scalar ≠ some d) := by
          apply makes_mpiChk
          . intro h
            cases h
          . trivial
        apply hmakes.trace
    . exact ⟨shared, rfl⟩

theorem computeShared_slot_scalar_iff (w : W)
    : (∀ op ∈ (mbedtlsEcdhComputeShared dev grp Q ecdhSentinel).trace lib.call w,
        op.scalar ≠ some ecdhSentinel)
        ↔ SecretCondition lib dev grp Q .slot w := by
  refine computeShared_cases
    (motive := fun prog => (∀ op ∈ prog.trace lib.call w, op.scalar ≠ some ecdhSentinel) ↔ _)
    ?_ ?_ ?_ ?_
  . intro hsw
    apply iff_of_false (sw_uses_scalar grp Q ecdhSentinel w)
    intro ⟨hdev, cm, hcm, _⟩
    rw [hsw hdev] at hcm
    cases hcm
  . intro cm hdev hcm hfits
    apply iff_of_true
    . intro op hop
      cases hop
    . refine ⟨hdev, cm, hcm, ?_⟩
      intro hfits'
      cases hfits hfits'
  . intro cm hdev hcm hfits _
    rw [slot_scalar_iff]
    simp [SecretCondition, hdev, hcm, hfits]
  . intro cm _ _ _ hd
    cases hd ecdhIsSentinel_sentinel

end

/--
A call does what it should exactly under the condition.
-/
theorem computeShared_secretOk_iff {lib : EcdhLib W} {ecp : Ecp} (hlib : lib.Lawful ecp) (dev : Bool)
    (grp : EcpGroup) (Q : EcpPoint) (key : EcdhKey) (w : W)
    : SecretOk lib ecp dev grp Q key w ↔ SecretCondition lib dev grp Q key w := by
  cases key with
  | genuine d =>
    constructor
    . intro h
      apply not_not.mp
      rw [← computeShared_genuine_taken_iff]
      apply h.genuine d rfl
    . intro h
      constructor
      . intro z hz
        have hsecret := (computeShared_genuine_ensures hlib h).run (fun _ => rfl) z hz
        exact ⟨d, rfl, hsecret⟩
      . intro d' _
        rw [EcdhKey.d, computeShared_genuine_taken_iff, not_not]
        exact h
      . intro hkey
        cases hkey
  | slot =>
    constructor
    . intro h
      rw [← computeShared_slot_scalar_iff]
      apply h.slot rfl
    . intro h
      constructor
      . apply (computeShared_slot_ensures hlib h).run (fun _ => rfl)
      . intro d hkey
        cases hkey
      . intro _
        rw [EcdhKey.d, computeShared_slot_scalar_iff]
        exact h

/-
The key 2 in the slot and a CDH that works: the secret with the base point is the one of the key.
-/
theorem secretOk_engine
    : SecretOk engineLib secp256r1Ecp true secp256r1Group secp256r1G .slot ⟨some 2, [], false⟩ := by
  apply (computeShared_secretOk_iff engineLib_lawful true secp256r1Group secp256r1G .slot _).mpr
  constructor
  . rfl
  . exists ⟨.secp256r1, .nistp256, 32⟩
    constructor
    . rfl
    . intro _
      have hpuk : (engineLib.call (.eccCdh .nistp256 true .prk0
          (pukOf ⟨.secp256r1, .nistp256, 32⟩ secp256r1G) 32) ⟨some 2, [], false⟩).1.isOk = true := by
        decide +kernel
      revert hpuk
      cases (engineLib.call (.eccCdh .nistp256 true .prk0
        (pukOf ⟨.secp256r1, .nistp256, 32⟩ secp256r1G) 32) ⟨some 2, [], false⟩).1 with
      | error errno =>
        intro hpuk
        cases hpuk
      | ok shared =>
        intro _
        exact ⟨shared, rfl⟩

/-
The CDH fails for the key 2 in the slot: the library is given the number of the sentinel, and its
multiple of the base point is returned for the secret.
-/
theorem sentinel_not_secretOk
    : ¬SecretOk engineLib secp256r1Ecp true secp256r1Group secp256r1G .slot ⟨some 2, [], true⟩ := by
  intro h
  have hwrong : secp256r1Mul ecdhSentinel secp256r1G ≠ none
      ∧ (secp256r1Mul ecdhSentinel secp256r1G).map (·.X)
        ≠ (secp256r1Mul 2 secp256r1G).map (·.X) := by
    decide +kernel
  obtain ⟨P, hP⟩ := Option.ne_none_iff_exists'.mp hwrong.1
  have hrun : ((mbedtlsEcdhComputeShared true secp256r1Group secp256r1G ecdhSentinel).run
      engineLib.call ⟨some 2, [], true⟩).1
        = (secp256r1Mul ecdhSentinel secp256r1G).elim (.error errEcpBadInputData) (.ok ·.X) := by
    decide +kernel
  rw [hP] at hrun
  obtain ⟨k, hk, R, hR, hz⟩ := h.secret P.X hrun
  cases hk
  have hR := (secp256r1Ecp_mul 2 secp256r1G).symm.trans hR
  apply hwrong.2
  rw [hP, hR]
  rw [Option.map_some, Option.map_some, hz]

end Mbedtls

import RtsmartLib.Mbedtls.EcdsaAlt
import Mathlib.Data.Int.ModEq
import Mathlib.Data.Nat.Prime.Int
import Mathlib.Data.ZMod.Basic
import Mathlib.Tactic.LinearCombination

/-!
This module contains which signatures of the software part of the ECDSA port its verification accepts.
-/

namespace Ecdsa

open Lib Mbedtls

variable {P : Type} [AddCommGroup P]

/-
The first of the drawn numbers that a signature can be made with.
-/
def firstNonce (grp : EcpGroup P) (draws : List (Draw grp.N)) : Option Nat :=
  match draws with
  | [] => none
  | .error _ :: draws => firstNonce grp draws
  | .key k :: draws =>
    if k.val = 0 ∨ grp.X ((k.val : Int) • grp.G) % grp.N = 0 then firstNonce grp draws
    else some k.val

def hashNumber (grp : EcpGroup P) (buf : List Byte) : Nat :=
  mpiReadBinary buf (grp.useSize buf.length) >>> (grp.useSize buf.length * 8 - grp.nbits)

def ValidKey (grp : EcpGroup P) (Q : P) : Prop :=
  Q ≠ 0 ∧ ∃ d : Int, Q = d • grp.G

/-
Whether the library takes zero for a number that a point is multiplied with.
-/
def TakesZero (lib : EcpLib P) (grp : EcpGroup P) : Prop :=
  ∀ n Q, 0 < n → n < (grp.N : Int) → ValidKey grp Q → lib.muladd 0 grp.G n Q = .ok (n • Q)

def RefusesZero (lib : EcpLib P) (grp : EcpGroup P) : Prop :=
  ∀ n Q, 0 < n → n < (grp.N : Int) → ValidKey grp Q → ∃ ret, lib.muladd 0 grp.G n Q = .error ret

/--
What the calls to the library do. A multiplication with the point at infinity fails, as it is no public key;
versions of the library differ in whether they take a zero.
-/
structure EcpLib.Lawful (lib : EcpLib P) (grp : EcpGroup P) : Prop where
  mul : ∀ m R, lib.mul m grp.G = .ok R → R = m • grp.G
  muladd : ∀ m n Q, 0 < m → m < (grp.N : Int) → 0 < n → n < (grp.N : Int) → ValidKey grp Q →
    lib.muladd m grp.G n Q = .ok (m • grp.G + n • Q)
  muladd_infinity : ∀ m n, ∃ ret, lib.muladd m grp.G n 0 = .error ret
  muladd_zero : TakesZero lib grp ∨ RefusesZero lib grp
  invMod : ∀ a x, lib.invMod a grp.N = .ok x → a * x ≡ 1 [ZMOD grp.N]
  invMod_unit : ∀ a, ¬(grp.N : Int) ∣ a → ∃ x, lib.invMod a grp.N = .ok x

/-
The calls on numbers succeed.
-/
def Env.succeeding {N : Nat} : Env N := ⟨[], []⟩

/--
The signature is in range and the verification with the matching public key accepts it.
-/
structure Verified [DecidableEq P] (lib : EcpLib P) (grp : EcpGroup P) (d : Int) (buf : List Byte) (r s : Int)
    : Prop where
  rRange : 1 ≤ r ∧ r < grp.N
  sRange : 1 ≤ s ∧ s < grp.N
  accepts : ecdsaVerifySw lib grp buf (d • grp.G) r s .succeeding = .ok ((), .succeeding)

/--
The private key is not zero, the first usable number does not lead to zero for `s`, and where the hash is zero
the library takes a zero.
-/
def Signable (lib : EcpLib P) (grp : EcpGroup P) (d : Int) (buf : List Byte) (draws : List (Draw grp.N)) : Prop :=
  ∃ k, firstNonce grp draws = some k ∧ ¬(grp.N : Int) ∣ d
    ∧ ¬(grp.N : Int) ∣ hashNumber grp buf + (grp.X ((k : Int) • grp.G) % grp.N : Nat) * d
    ∧ ((grp.N : Int) ∣ hashNumber grp buf → TakesZero lib grp)

theorem bind_eq_ok {N : Nat} {α β : Type} {x : Run N α} {f : α → Run N β} {env : Env N} {p : β × Env N}
    : (x >>= f) env = .ok p ↔ ∃ a env', x env = .ok (a, env') ∧ f a env' = .ok p := by
  change (x env >>= fun q => f q.1 q.2) = .ok p ↔ _
  cases x env with
  | error ret =>
    constructor
    . intro h
      cases h
    . rintro ⟨a, env', h, -⟩
      cases h
  | ok q =>
    constructor
    . intro h
      exact ⟨q.1, q.2, rfl, h⟩
    . rintro ⟨a, env', hq, h⟩
      cases hq
      exact h

theorem pure_eq_ok {N : Nat} {α : Type} {a : α} {env : Env N} {p : α × Env N}
    : (pure a : Run N α) env = .ok p ↔ p = (a, env) := by
  change Except.ok (a, env) = .ok p ↔ _
  rw [Except.ok.injEq]
  exact eq_comm

theorem mpiChk_ok {N : Nat} {env : Env N} {p : Unit × Env N} (h : mpiChk env = .ok p)
    : p.2.draws = env.draws := by
  unfold mpiChk at h
  split at h
  . cases h
    rfl
  . split at h
    . cases h
    . cases h
      rfl

theorem libChk_ok {N : Nat} {α : Type} {result : Except Failure α} {env : Env N} {p : α × Env N}
    (h : libChk result env = .ok p)
    : result = .ok p.1 ∧ p.2 = env := by
  unfold libChk at h
  split at h
  . cases h
  . cases h
    exact ⟨rfl, rfl⟩

theorem ecpGenPrivkey_ok {N : Nat} {env : Env N} {p : Nat × Env N} (h : ecpGenPrivkey env = .ok p)
    : ∃ k : Fin N, env.draws = .key k :: p.2.draws ∧ p.1 = k.val := by
  unfold ecpGenPrivkey at h
  split at h
  . cases h
  . cases h
  next k draws hdraws =>
    cases h
    exact ⟨k, hdraws, rfl⟩

theorem readHash_ok {grp : EcpGroup P} {buf : List Byte} {env : Env grp.N} {p : Nat × Env grp.N}
    (h : readHash grp buf env = .ok p)
    : p.1 = hashNumber grp buf := by
  unfold readHash at h
  obtain ⟨_, env₁, -, h⟩ := bind_eq_ok.mp h
  unfold hashNumber
  split at h
  . obtain ⟨_, env₂, -, h⟩ := bind_eq_ok.mp h
    rw [pure_eq_ok.mp h]
  next hsize =>
    rw [pure_eq_ok.mp h, Nat.sub_eq_zero_of_le (Nat.not_lt.mp hsize)]
    rfl

theorem signKey_ok (grp : EcpGroup P) {tries : Nat} {env : Env grp.N} {p : Nat × Env grp.N}
    (h : signKey grp.N tries env = .ok p)
    : 0 < p.1 ∧ p.1 < grp.N
        ∧ firstNonce grp env.draws =
            if grp.X ((p.1 : Int) • grp.G) % grp.N = 0 then firstNonce grp p.2.draws else some p.1 := by
  induction tries generalizing env with
  | zero => cases h
  | succ tries ih =>
    unfold signKey at h
    obtain ⟨k, env', hdraw, h⟩ := bind_eq_ok.mp h
    obtain ⟨key, hdraws, hk⟩ := ecpGenPrivkey_ok hdraw
    dsimp only at hk hdraws
    rw [hdraws, firstNonce]
    split at h
    next hzero =>
      rw [if_pos (Or.inl (hk.symm.trans hzero))]
      exact ih h
    next hzero =>
      rw [pure_eq_ok.mp h]
      subst hk
      refine ⟨Nat.pos_of_ne_zero hzero, key.isLt, ?_⟩
      simp only [hzero, false_or]

theorem signNonce_ok {lib : EcpLib P} {grp : EcpGroup P} (hlib : lib.Lawful grp) {tries : Nat} {env : Env grp.N}
    {p : (Nat × Nat) × Env grp.N} (h : signNonce lib grp tries env = .ok p)
    : 0 < p.1.1 ∧ p.1.1 < grp.N ∧ p.1.2 = grp.X ((p.1.1 : Int) • grp.G) % grp.N ∧ p.1.2 ≠ 0
        ∧ firstNonce grp env.draws = some p.1.1 := by
  induction tries generalizing env with
  | zero => cases h
  | succ tries ih =>
    unfold signNonce at h
    obtain ⟨k, env₁, hkey, h⟩ := bind_eq_ok.mp h
    obtain ⟨R, env₂, hmul, h⟩ := bind_eq_ok.mp h
    obtain ⟨_, env₃, hchk, h⟩ := bind_eq_ok.mp h
    obtain ⟨hpos, hlt, hfirst⟩ := signKey_ok grp hkey
    obtain ⟨hR, henv⟩ := libChk_ok hmul
    have hdraws := mpiChk_ok hchk
    dsimp only at hpos hlt hfirst hR henv hdraws h
    rw [hlib.mul _ _ hR] at h
    rw [henv] at hdraws
    rw [hfirst]
    split at h
    next hzero =>
      rw [if_pos hzero, ← hdraws]
      exact ih h
    next hzero =>
      rw [pure_eq_ok.mp h, if_neg hzero]
      exact ⟨hpos, hlt, rfl, hzero, rfl⟩

/-
What a signature is made of.
-/
theorem ecdsaSignSw_ok {lib : EcpLib P} {grp : EcpGroup P} (hlib : lib.Lawful grp) {d : Int} {buf : List Byte}
    {env : Env grp.N} {p : (Int × Int) × Env grp.N} (h : ecdsaSignSw lib grp d buf env = .ok p)
    : ∃ k : Nat, ∃ kInv : Int, 0 < k ∧ k < grp.N ∧ firstNonce grp env.draws = some k
        ∧ k * kInv ≡ 1 [ZMOD grp.N]
        ∧ p.1.1 = (grp.X ((k : Int) • grp.G) % grp.N : Nat) ∧ p.1.1 ≠ 0
        ∧ p.1.2 = kInv * (hashNumber grp buf + p.1.1 * d) % grp.N := by
  unfold ecdsaSignSw at h
  obtain ⟨⟨k, r⟩, env₁, hnonce, h⟩ := bind_eq_ok.mp h
  obtain ⟨e, env₂, hhash, h⟩ := bind_eq_ok.mp h
  obtain ⟨_, env₃, -, h⟩ := bind_eq_ok.mp h
  obtain ⟨_, env₄, -, h⟩ := bind_eq_ok.mp h
  obtain ⟨kInv, env₅, hinv, h⟩ := bind_eq_ok.mp h
  obtain ⟨_, env₆, -, h⟩ := bind_eq_ok.mp h
  obtain ⟨_, env₇, -, h⟩ := bind_eq_ok.mp h
  obtain ⟨hpos, hlt, hr, hne, hfirst⟩ := signNonce_ok hlib hnonce
  have he := readHash_ok hhash
  dsimp only at hpos hlt hr hne hfirst he
  rw [pure_eq_ok.mp h, ← he]
  exact ⟨k, kInv, hpos, hlt, hfirst, hlib.invMod _ _ (libChk_ok hinv).1, congrArg Nat.cast hr,
    Int.natCast_ne_zero.mpr hne, rfl⟩

theorem bind_of_ok {N : Nat} {α β : Type} {x : Run N α} {f : α → Run N β} {env env' : Env N} {a : α}
    (h : x env = .ok (a, env'))
    : (x >>= f) env = f a env' := by
  change (x env >>= fun q => f q.1 q.2) = _
  rw [h]
  rfl

theorem bind_of_error {N : Nat} {α β : Type} {x : Run N α} {f : α → Run N β} {env : Env N} {ret : Failure}
    (h : x env = .error ret)
    : (x >>= f) env = .error ret := by
  change (x env >>= fun q => f q.1 q.2) = _
  rw [h]
  rfl

theorem mpiChk_succeeding {N : Nat} : mpiChk (Env.succeeding : Env N) = .ok ((), .succeeding) := rfl

theorem readHash_succeeding (grp : EcpGroup P) (buf : List Byte)
    : readHash grp buf .succeeding = .ok (hashNumber grp buf, .succeeding) := by
  unfold readHash hashNumber
  rw [bind_of_ok mpiChk_succeeding]
  split
  . rw [bind_of_ok mpiChk_succeeding]
    rfl
  next hsize =>
    rw [Nat.sub_eq_zero_of_le (Nat.not_lt.mp hsize)]
    rfl

/-
The number of a hash that is longer than the order is below twice the order.
-/
theorem deriveMpi_succeeding (grp : EcpGroup P) (buf : List Byte)
    : ∃ e : Nat, deriveMpi grp buf .succeeding = .ok (e, .succeeding)
        ∧ (e : Int) ≡ hashNumber grp buf [ZMOD grp.N] := by
  unfold deriveMpi
  rw [bind_of_ok (readHash_succeeding grp buf)]
  split
  next hle =>
    refine ⟨hashNumber grp buf - grp.N, ?_, ?_⟩
    . rw [bind_of_ok mpiChk_succeeding]
      rfl
    . rw [Int.natCast_sub hle]
      exact Int.sub_modulus_modEq_iff.mpr rfl
  . exact ⟨_, rfl, rfl⟩

theorem not_dvd_of_range {N : Nat} {a : Int} (h : 1 ≤ a ∧ a < N) : ¬(N : Int) ∣ a := by
  intro hdvd
  have hle := Int.le_of_dvd (by omega) hdvd
  omega

theorem emod_range {N : Nat} (hN : 0 < N) {a : Int} (h : ¬(N : Int) ∣ a) : 1 ≤ a % N ∧ a % N < N := by
  have hpos : (0 : Int) < N := by exact_mod_cast hN
  have hne : a % N ≠ 0 := fun hzero => h (Int.dvd_of_emod_eq_zero hzero)
  have hnonneg := Int.emod_nonneg a (Int.ne_of_gt hpos)
  have hlt := Int.emod_lt_of_pos a hpos
  omega

theorem not_dvd_of_mul_modEq_one {N : Nat} (hN : N.Prime) {a b : Int} (h : a * b ≡ 1 [ZMOD N])
    : ¬(N : Int) ∣ b := by
  intro hdvd
  have hzero := (Int.modEq_zero_iff_dvd.mpr (Dvd.dvd.mul_left hdvd a)).symm.trans h
  have hone := Int.modEq_iff_dvd.mp hzero
  rw [sub_zero] at hone
  exact hN.one_lt.not_ge (Nat.le_of_dvd one_pos (by exact_mod_cast hone))

theorem EcpGroup.not_dvd_mul (grp : EcpGroup P) {a b : Int} (ha : ¬(grp.N : Int) ∣ a)
    (hb : ¬(grp.N : Int) ∣ b)
    : ¬(grp.N : Int) ∣ a * b := by
  intro hdvd
  cases (Nat.prime_iff_prime_int.mp grp.prime).dvd_or_dvd hdvd with
  | inl h => exact ha h
  | inr h => exact hb h

theorem EcpGroup.zsmul_eq_zero_iff (grp : EcpGroup P) (a : Int) : a • grp.G = 0 ↔ (grp.N : Int) ∣ a := by
  rw [← grp.order]
  exact addOrderOf_dvd_iff_zsmul_eq_zero.symm

theorem EcpGroup.validKey (grp : EcpGroup P) {d : Int} (hd : ¬(grp.N : Int) ∣ d)
    : ValidKey grp (d • grp.G) := by
  refine ⟨?_, d, rfl⟩
  rw [ne_eq, grp.zsmul_eq_zero_iff]
  exact hd

/-
The two numbers of a verification put the nonce together again.
-/
theorem combine_modEq {N : Nat} {k kInv s sInv e h r d : Int} (hk : k * kInv ≡ 1 [ZMOD N])
    (hs : s ≡ kInv * (h + r * d) [ZMOD N]) (hsInv : s * sInv ≡ 1 [ZMOD N]) (he : e ≡ h [ZMOD N])
    : e * sInv % N + r * sInv % N * d ≡ k [ZMOD N] := by
  have hmod : e * sInv % N + r * sInv % N * d ≡ h * sInv + r * sInv * d [ZMOD N] :=
    ((Int.mod_modEq _ _).trans (he.mul_right sInv)).add ((Int.mod_modEq _ _).mul_right d)
  apply hmod.trans
  rw [← ZMod.intCast_eq_intCast_iff] at hk hs hsInv ⊢
  push_cast at hk hs hsInv ⊢
  linear_combination (k : ZMod N) * hsInv - (k : ZMod N) * sInv * hs - (sInv : ZMod N) * (h + r * d) * hk

section

variable [DecidableEq P] {lib : EcpLib P} {grp : EcpGroup P} {buf : List Byte} {Q : P} {r s : Int}

/-
A verification whose calls on numbers succeed, up to what the library makes of the points.
-/
theorem verify_eq (hr : 1 ≤ r ∧ r < grp.N) (hs : 1 ≤ s ∧ s < grp.N) {sInv : Int}
    (hinv : lib.invMod s grp.N = .ok sInv)
    : ∃ e : Nat, (e : Int) ≡ hashNumber grp buf [ZMOD grp.N]
        ∧ (∀ ret, lib.muladd (e * sInv % grp.N) grp.G (r * sInv % grp.N) Q = .error ret →
          ecdsaVerifySw lib grp buf Q r s .succeeding = .error ret)
        ∧ (∀ R, lib.muladd (e * sInv % grp.N) grp.G (r * sInv % grp.N) Q = .ok R → R ≠ 0 →
          (grp.X R : Int) % grp.N = r →
          ecdsaVerifySw lib grp buf Q r s .succeeding = .ok ((), .succeeding)) := by
  obtain ⟨e, hderive, he⟩ := deriveMpi_succeeding grp buf
  have hrange : ¬(r < 1 ∨ r ≥ grp.N ∨ s < 1 ∨ s ≥ grp.N) := by omega
  have hlib : libChk (lib.invMod s grp.N) (.succeeding : Env grp.N) = .ok (sInv, .succeeding) := by
    rw [hinv]
    rfl
  have hmuladd : ∀ result, lib.muladd (e * sInv % grp.N) grp.G (r * sInv % grp.N) Q = result →
      libChk (lib.muladd (e * sInv % grp.N) grp.G (r * sInv % grp.N) Q) (.succeeding : Env grp.N) =
        result.map fun R => (R, .succeeding) := by
    intro result hresult
    rw [hresult]
    cases result <;> rfl
  unfold ecdsaVerifySw
  rw [if_neg hrange]
  refine ⟨e, he, ?_, ?_⟩
  . intro ret hret
    rw [bind_of_ok hderive, bind_of_ok hlib]
    dsimp only
    rw [bind_of_ok mpiChk_succeeding, bind_of_ok mpiChk_succeeding, bind_of_ok mpiChk_succeeding,
      bind_of_ok mpiChk_succeeding]
    exact bind_of_error (hmuladd _ hret)
  . intro R hR hne hX
    rw [bind_of_ok hderive, bind_of_ok hlib]
    dsimp only
    rw [bind_of_ok mpiChk_succeeding, bind_of_ok mpiChk_succeeding, bind_of_ok mpiChk_succeeding,
      bind_of_ok mpiChk_succeeding, bind_of_ok (hmuladd _ hR), if_neg hne, bind_of_ok mpiChk_succeeding,
      if_neg (not_not.mpr hX)]
    rfl

end

section

variable [DecidableEq P] {lib : EcpLib P} {grp : EcpGroup P} (hlib : lib.Lawful grp) {d : Int} {buf : List Byte}
  {env : Env grp.N} {p : (Int × Int) × Env grp.N} (h : ecdsaSignSw lib grp d buf env = .ok p)
include hlib h

theorem signable_of_verified (hverified : Verified lib grp d buf p.1.1 p.1.2)
    : Signable lib grp d buf env.draws := by
  obtain ⟨k, kInv, hpos, hlt, hfirst, hkInv, hr, hne, hs⟩ := ecdsaSignSw_ok hlib h
  obtain ⟨sInv, hsInv⟩ := hlib.invMod_unit p.1.2 (not_dvd_of_range hverified.sRange)
  obtain ⟨e, he, herror, -⟩ :=
    verify_eq (Q := d • grp.G) hverified.rRange hverified.sRange hsInv
  have hrefused : ∀ ret, lib.muladd (e * sInv % grp.N) grp.G (p.1.1 * sInv % grp.N) (d • grp.G) ≠ .error ret := by
    intro ret hret
    have haccepts := hverified.accepts
    rw [herror ret hret] at haccepts
    cases haccepts
  have hd : ¬(grp.N : Int) ∣ d := by
    intro hdvd
    rw [(grp.zsmul_eq_zero_iff d).mpr hdvd] at hrefused
    obtain ⟨ret, hret⟩ := hlib.muladd_infinity (e * sInv % grp.N) (p.1.1 * sInv % grp.N)
    exact hrefused ret hret
  refine ⟨k, hfirst, hd, ?_, ?_⟩
  . intro hdvd
    have hsRange := hverified.sRange
    rw [hs, hr, Int.emod_eq_zero_of_dvd (Dvd.dvd.mul_left hdvd kInv)] at hsRange
    omega
  . intro hdvd
    refine hlib.muladd_zero.resolve_right ?_
    intro hrefuses
    have he : (grp.N : Int) ∣ e :=
      Int.modEq_zero_iff_dvd.mp (he.trans (Int.modEq_zero_iff_dvd.mpr hdvd))
    have hu2 := emod_range grp.prime.pos (grp.not_dvd_mul (not_dvd_of_range hverified.rRange)
      (not_dvd_of_mul_modEq_one grp.prime (hlib.invMod _ _ hsInv)))
    rw [Int.emod_eq_zero_of_dvd (Dvd.dvd.mul_right he sInv)] at hrefused
    obtain ⟨ret, hret⟩ := hrefuses _ _ (by omega) hu2.2 (grp.validKey hd)
    exact hrefused ret hret

theorem verified_of_signable (hsignable : Signable lib grp d buf env.draws)
    : Verified lib grp d buf p.1.1 p.1.2 := by
  obtain ⟨k, kInv, hpos, hlt, hfirst, hkInv, hr, hne, hs⟩ := ecdsaSignSw_ok hlib h
  obtain ⟨k', hfirst', hd, hsum, htakes⟩ := hsignable
  rw [hfirst, Option.some.injEq] at hfirst'
  subst hfirst'
  have hpos' : 1 ≤ (k : Int) ∧ (k : Int) < grp.N := by omega
  have hrRange : 1 ≤ p.1.1 ∧ p.1.1 < grp.N := by
    have hltN := Nat.mod_lt (grp.X ((k : Int) • grp.G)) grp.prime.pos
    omega
  have hsRange : 1 ≤ p.1.2 ∧ p.1.2 < grp.N := by
    rw [← hr] at hsum
    rw [hs]
    exact emod_range grp.prime.pos (grp.not_dvd_mul (not_dvd_of_mul_modEq_one grp.prime hkInv) hsum)
  obtain ⟨sInv, hsInv⟩ := hlib.invMod_unit p.1.2 (not_dvd_of_range hsRange)
  obtain ⟨e, he, -, haccepts⟩ := verify_eq (Q := d • grp.G) hrRange hsRange hsInv
  refine ⟨hrRange, hsRange, haccepts ((k : Int) • grp.G) ?_ ?_ ?_⟩
  . have hu1 : 0 ≤ e * sInv % grp.N ∧ e * sInv % grp.N < grp.N := by
      have hN : (0 : Int) < grp.N := by exact_mod_cast grp.prime.pos
      exact ⟨Int.emod_nonneg _ (Int.ne_of_gt hN), Int.emod_lt_of_pos _ hN⟩
    have hsInv' := not_dvd_of_mul_modEq_one grp.prime (hlib.invMod _ _ hsInv)
    have hu2 := emod_range grp.prime.pos (grp.not_dvd_mul (not_dvd_of_range hrRange) hsInv')
    have hcombine := combine_modEq hkInv (hs ▸ Int.mod_modEq _ _) (hlib.invMod _ _ hsInv) he
    have hk : (e * sInv % grp.N) • grp.G + (p.1.1 * sInv % grp.N) • d • grp.G = (k : Int) • grp.G := by
      rw [← mul_zsmul, ← add_zsmul, zsmul_eq_zsmul_iff_modEq, grp.order]
      exact hcombine
    by_cases hzero : e * sInv % grp.N = 0
    . have hdvd : (grp.N : Int) ∣ e := by
        by_contra hndvd
        exact grp.not_dvd_mul hndvd hsInv' (Int.dvd_of_emod_eq_zero hzero)
      have hhash : (grp.N : Int) ∣ hashNumber grp buf :=
        Int.modEq_zero_iff_dvd.mp (he.symm.trans (Int.modEq_zero_iff_dvd.mpr hdvd))
      rw [hzero, zero_zsmul, zero_add] at hk
      rw [hzero, ← hk]
      exact htakes hhash _ _ (by omega) hu2.2 (grp.validKey hd)
    . rw [← hk]
      exact hlib.muladd _ _ _ (by omega) hu1.2 (by omega) hu2.2 (grp.validKey hd)
  . rw [ne_eq, grp.zsmul_eq_zero_iff]
    exact not_dvd_of_range hpos'
  . rw [hr, Int.natCast_mod]

/-
Every hash is signed, whatever its length.
-/
theorem ecdsaSignSw_verified_iff : Verified lib grp d buf p.1.1 p.1.2 ↔ Signable lib grp d buf env.draws :=
  ⟨signable_of_verified hlib h, verified_of_signable hlib h⟩

end

/-
A library for small groups.
-/
def plainLib [DecidableEq P] : EcpLib P where
  mul m Q := .ok (m • Q)
  muladd m Q n Q' := if Q' = 0 then .error ⟨-0x4C80, by decide⟩ else .ok (m • Q + n • Q')
  invMod a n := if Int.gcd a n = 1 then .ok (Int.gcdA a n % n) else .error ⟨-0x000E, by decide⟩

theorem plainLib_lawful [DecidableEq P] (grp : EcpGroup P) : (plainLib : EcpLib P).Lawful grp where
  mul := by
    intro m R h
    cases h
    rfl
  muladd := by
    intro m n Q _ _ _ _ hQ
    exact if_neg hQ.1
  muladd_infinity := by
    intro m n
    exact ⟨_, if_pos rfl⟩
  muladd_zero := by
    left
    intro n Q _ _ hQ
    dsimp only [plainLib]
    rw [if_neg hQ.1, zero_zsmul, zero_add]
  invMod := by
    intro a x h
    dsimp only [plainLib] at h
    split at h
    next hgcd =>
      cases h
      have hbezout := Int.gcd_eq_gcd_ab a grp.N
      rw [hgcd, Nat.cast_one] at hbezout
      apply ((Int.mod_modEq _ _).mul_left a).trans
      rw [Int.modEq_iff_dvd]
      exact ⟨Int.gcdB a grp.N, by omega⟩
    . cases h
  invMod_unit := by
    intro a ha
    have hgcd : Int.gcd a grp.N = 1 := by
      rw [Int.natCast_dvd] at ha
      exact (grp.prime.coprime_iff_not_dvd.mpr ha).symm
    exact ⟨_, if_pos hgcd⟩

def grp7 : EcpGroup (ZMod 7) where
  N := 7
  prime := by decide
  G := 1
  order := ZMod.addOrderOf_one 7
  X Q := (Q * Q).val

theorem sign_two : ecdsaSignSw plainLib grp7 1 [0x20] ⟨[], [.key (1 : Fin 7)]⟩ = .ok ((1, 2), ⟨[], []⟩) := by
  decide +kernel

theorem ecdsaSignSw_verified_iff_two
    : Verified plainLib grp7 1 [0x20] 1 2 ↔ Signable plainLib grp7 1 [0x20] [.key (1 : Fin 7)] :=
  ecdsaSignSw_verified_iff (plainLib_lawful grp7) sign_two

/-
The hash is minus one modulo seven, and so the sum that is divided by the nonce is a multiple of seven.
-/
theorem sign_zero : ecdsaSignSw plainLib grp7 1 [0xC0] ⟨[], [.key (1 : Fin 7)]⟩ = .ok ((1, 0), ⟨[], []⟩) := by
  decide +kernel

theorem sign_zero_not_verified
    : ¬∀ (P : Type) [AddCommGroup P] [DecidableEq P] (lib : EcpLib P) (grp : EcpGroup P) (d : Int)
        (buf : List Byte) (env : Env grp.N) (p : (Int × Int) × Env grp.N), lib.Lawful grp → 1 ≤ d →
        d < grp.N → ecdsaSignSw lib grp d buf env = .ok p → Verified lib grp d buf p.1.1 p.1.2 := by
  intro h
  have hverified := h (ZMod 7) plainLib grp7 1 [0xC0] _ _ (plainLib_lawful grp7) (by decide) (by decide)
    sign_zero
  have hrange := hverified.sRange.1
  revert hrange
  decide

end Ecdsa

import RtsmartLib.Mbedtls.EcdhLib

/-!
This module contains the curve secp256r1, and a driver and a library for it that keep the key in the
slot as a number.
-/

namespace Mbedtls

open Lib Pufs

/-
Square and multiply; the fuel bounds the bits of the exponent.
-/
def powMod (fuel : Nat) (p x e : Nat) : Nat :=
  match fuel with
  | 0 => 1 % p
  | fuel + 1 =>
    let half := powMod fuel p (x * x % p) (e / 2)
    if e % 2 = 1 then x * half % p else half

/-
A curve `y² = x³ + a x + b` over the numbers modulo `p`.
-/
structure Weierstrass where
  p : Nat
  a : Nat
  b : Nat
  pos : 0 < p

namespace Weierstrass

variable (c : Weierstrass)

def inv (x : Nat) : Nat :=
  powMod 256 c.p x (c.p - 2)

def onCurve (P : EcpPoint) : Bool :=
  P.X < c.p && P.Y < c.p && P.Y * P.Y % c.p == (P.X * P.X * P.X + c.a * P.X + c.b) % c.p

/-
The third point of the line of slope `lambda` through two points, mirrored.
-/
def third (lambda : Nat) (P Q : EcpPoint) : EcpPoint :=
  let X := (lambda * lambda + 2 * c.p - P.X - Q.X) % c.p
  ⟨X, (lambda * (P.X + c.p - X) + c.p - P.Y) % c.p⟩

def add (P Q : Option EcpPoint) : Option EcpPoint :=
  match P, Q with
  | none, Q => Q
  | P, none => P
  | some P, some Q =>
    if P.X = Q.X then
      if (P.Y + Q.Y) % c.p = 0 then
        none
      else
        some (c.third ((3 * P.X * P.X + c.a) * c.inv (2 * P.Y) % c.p) P Q)
    else
      some (c.third ((Q.Y + c.p - P.Y) * c.inv (Q.X + c.p - P.X) % c.p) P Q)

/-
Double and add; the fuel bounds the bits of `m`.
-/
def mulLoop (fuel m : Nat) (P : Option EcpPoint) : Option EcpPoint :=
  match fuel with
  | 0 => none
  | fuel + 1 =>
    let half := mulLoop fuel (m / 2) P
    let double := c.add half half
    if m % 2 = 1 then c.add double P else double

def Reduced (P : Option EcpPoint) : Prop :=
  ∀ R, P = some R → R.X < c.p ∧ R.Y < c.p

variable {c}

theorem Reduced.third (lambda : Nat) (P Q : EcpPoint) : c.Reduced (some (c.third lambda P Q)) := by
  intro R hR
  cases hR
  constructor
  . apply Nat.mod_lt _ c.pos
  . apply Nat.mod_lt _ c.pos

theorem Reduced.none : c.Reduced none := by
  intro R hR
  cases hR

theorem Reduced.add {P Q : Option EcpPoint} (hP : c.Reduced P) (hQ : c.Reduced Q)
    : c.Reduced (c.add P Q) := by
  unfold Weierstrass.add
  split
  . exact hQ
  . exact hP
  . split
    . split
      . apply Reduced.none
      . apply Reduced.third
    . apply Reduced.third

theorem Reduced.mulLoop {P : Option EcpPoint} (hP : c.Reduced P) (fuel m : Nat)
    : c.Reduced (c.mulLoop fuel m P) := by
  induction fuel generalizing m with
  | zero => apply Reduced.none
  | succ fuel ih =>
    unfold Weierstrass.mulLoop
    dsimp only
    split
    . apply Reduced.add _ hP
      apply Reduced.add (ih (m / 2)) (ih (m / 2))
    . apply Reduced.add (ih (m / 2)) (ih (m / 2))

theorem Reduced.of_onCurve {P : EcpPoint} (h : c.onCurve P = true) : c.Reduced (some P) := by
  intro R hR
  cases hR
  unfold onCurve at h
  rw [Bool.and_eq_true, Bool.and_eq_true] at h
  exact ⟨of_decide_eq_true h.1.1, of_decide_eq_true h.1.2⟩

end Weierstrass

def secp256r1P : Nat :=
  0xffffffff00000001000000000000000000000000ffffffffffffffffffffffff

def secp256r1 : Weierstrass where
  p := secp256r1P
  a := secp256r1P - 3
  b := 0x5ac635d8aa3a93e7b3ebbd55769886bc651d06b0cc53b0f63bce3c3e27d2604b
  pos := by decide

def secp256r1G : EcpPoint where
  X := 0x6b17d1f2e12c4247f8bce6e563a440f277037d812deb33a0f4a13945d898c296
  Y := 0x4fe342e2fe1a7f9b8ee7eb4a7c0f9e162bce33576b315ececbb6406837bf51f5

def secp256r1Group : EcpGroup :=
  ⟨.secp256r1, secp256r1G⟩

def secp256r1N : Nat :=
  0xffffffff00000000ffffffffffffffffbce6faada7179e84f3b9cac2fc632551

def secp256r1Mul (m : Nat) (P : EcpPoint) : Option EcpPoint :=
  if secp256r1.onCurve P then secp256r1.mulLoop 256 m (some P) else none

/-
A build with this one curve.
-/
def secp256r1Ecp : Ecp where
  G _ := secp256r1G
  mul id m P := if id = .secp256r1 then secp256r1Mul m P else none

@[simp]
theorem secp256r1Ecp_mul (m : Nat) (P : EcpPoint)
    : secp256r1Ecp.mul .secp256r1 m P = secp256r1Mul m P := by
  unfold secp256r1Ecp
  dsimp only
  rw [if_pos rfl]

/-
The key in the slot, the keys that are still to be generated, and whether the CDH is out of order.
-/
structure Engine where
  slot : Option Nat
  keys : List Nat
  cdhFails : Bool
deriving DecidableEq

def engineFailed : Errno :=
  ⟨-5, by decide⟩

def Engine.puk (e : Engine) : Except Errno EccPuk :=
  match e.slot.bind (secp256r1Mul · secp256r1G) with
  | none => .error engineFailed
  | some P => .ok ⟨32, bytesBE 32 P.X, bytesBE 32 P.Y⟩

def Engine.cdh (e : Engine) (puk : EccPuk) : Except Errno (List Byte) :=
  if e.cdhFails then
    .error engineFailed
  else
    match e.slot.bind (secp256r1Mul · ⟨valueBE puk.x, valueBE puk.y⟩) with
    | none => .error engineFailed
    | some R => .ok (bytesBE 32 R.X)

def engineCall : Callee EcdhOp EcdhOp.Answer Engine := fun op e =>
  match op with
  | .eccPrkGen _ _ _ =>
    match e.keys with
    | [] => (.error engineFailed, e)
    | k :: keys => (.ok (), { e with slot := some k, keys := keys })
  | .eccPukGen ecctype _ _ => (if ecctype = .nistp256 then e.puk else .error engineFailed, e)
  | .eccCdh ecctype _ _ puk _ => (if ecctype = .nistp256 then e.cdh puk else .error engineFailed, e)
  | .keyImportPlaintext _ _ key _ => (.ok (), { e with slot := some (valueBE key) })
  | .keyClear _ _ _ => (.ok (), { e with slot := none })
  | .ecpGenPrivkey _ =>
    match e.keys with
    | [] => (.error engineFailed, e)
    | k :: keys => (.ok k, { e with keys := keys })
  | .ecpMul id m P =>
    (if id = .secp256r1 ∧ 1 ≤ m ∧ m < secp256r1N ∧ secp256r1.onCurve P then .ok (secp256r1Mul m P)
      else .error engineFailed, e)
  | .mpiGrow => (.ok (), e)

def engineLib : EcdhLib Engine where
  call := engineCall
  slotKey e := e.slot

theorem secp256r1Mul_lt {m : Nat} {P R : EcpPoint} (h : secp256r1Mul m P = some R)
    : R.X < 256 ^ 32 ∧ R.Y < 256 ^ 32 := by
  unfold secp256r1Mul at h
  split at h
  . next honcurve =>
    have hp : secp256r1.p < 256 ^ 32 := by decide
    have hR := (Weierstrass.Reduced.of_onCurve honcurve).mulLoop 256 m R h
    exact ⟨hR.1.trans hp, hR.2.trans hp⟩
  . cases h

theorem mpiReadBinary_bytesBE {X : Nat} (h : X < 256 ^ 32) : mpiReadBinary (bytesBE 32 X) 32 = X := by
  unfold mpiReadBinary
  rw [List.take_of_length_le (by rw [length_bytesBE])]
  apply valueBE_bytesBE_of_lt h

theorem eq_secp256r1_of_nistp256 {cm : EcdhCurveEntry} (hmem : cm ∈ ecdhCurveMap)
    (h : cm.pufsId = .nistp256)
    : cm = ⟨.secp256r1, .nistp256, 32⟩ := by
  revert cm
  decide

theorem Engine.puk_ok {e : Engine} {puk : EccPuk} (h : e.puk = .ok puk)
    : ∃ k, e.slot = some k ∧ secp256r1Mul k secp256r1G
        = some ⟨mpiReadBinary puk.x 32, mpiReadBinary puk.y 32⟩ := by
  unfold Engine.puk at h
  split at h
  . cases h
  . next P hP =>
    rw [Option.bind_eq_some_iff] at hP
    obtain ⟨k, hk, hmul⟩ := hP
    have hlt := secp256r1Mul_lt hmul
    cases h
    rw [mpiReadBinary_bytesBE hlt.1, mpiReadBinary_bytesBE hlt.2]
    exact ⟨k, hk, hmul⟩

theorem Engine.cdh_ok {e : Engine} {puk : EccPuk} {shared : List Byte} (h : e.cdh puk = .ok shared)
    : ∃ k R, e.slot = some k ∧ secp256r1Mul k ⟨valueBE puk.x, valueBE puk.y⟩ = some R
        ∧ mpiReadBinary shared 32 = R.X := by
  unfold Engine.cdh at h
  split at h
  . cases h
  split at h
  . cases h
  . next R hR =>
    rw [Option.bind_eq_some_iff] at hR
    obtain ⟨k, hk, hmul⟩ := hR
    cases h
    exact ⟨k, R, hk, hmul, mpiReadBinary_bytesBE (secp256r1Mul_lt hmul).1⟩

theorem engineLib_lawful : engineLib.Lawful secp256r1Ecp := by
  constructor
  . intro cm hcm puk e h
    dsimp only [engineLib, engineCall] at h
    split at h
    . next hid =>
      cases eq_secp256r1_of_nistp256 hcm hid
      apply Engine.puk_ok h
    . cases h
  . intro cm hcm puk shared e h
    dsimp only [engineLib, engineCall] at h
    split at h
    . next hid =>
      cases eq_secp256r1_of_nistp256 hcm hid
      apply Engine.cdh_ok h
    . cases h
  . intro key keybits e _
    rfl
  . intro id m P R e h
    dsimp only [engineLib, engineCall] at h
    split at h
    . next hid =>
      cases h
      rw [hid.1]
      rw [secp256r1Ecp_mul]
    . cases h
  . intro op e hop
    unfold engineLib engineCall
    cases op with
    | eccPrkGen ecctype isEphemeral prkslot => cases hop
    | keyImportPlaintext keytype keyslot key keybits => cases hop
    | keyClear keytype keyslot keybits => cases hop
    | ecpGenPrivkey id =>
      dsimp only
      split
      . rfl
      . rfl
    | eccPukGen ecctype prktype prkslot => rfl
    | eccCdh ecctype isEphemeral prkslot puk outlen => rfl
    | ecpMul id m P => rfl
    | mpiGrow => rfl

end Mbedtls

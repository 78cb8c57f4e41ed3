import RtsmartLib.Mbedtls.EcdhAlt
import Mathlib.GroupTheory.OrderOfElement
import Mathlib.Data.Nat.Prime.Basic

/-!
This module contains the software part of the ECDSA port: signing and verification over a group of prime order,
with the calls to the library and to the random source that they make.
-/

namespace Ecdsa

open Lib Mbedtls

/-
A group with a base point of prime order, and the x coordinates of its points.
-/
structure EcpGroup (P : Type) [AddCommGroup P] where
  N : Nat
  prime : N.Prime
  G : P
  order : addOrderOf G = N
  X : P → Nat

/-
What a call returns that fails.
-/
abbrev Failure := { ret : Int // ret ≠ 0 }

def errEcpRandomFailed : Failure := ⟨-0x4D00, by decide⟩
def errEcpVerifyFailed : Failure := ⟨-0x4E00, by decide⟩

/--
The calls to the library that this port leaves the arithmetic of the curve to.
-/
structure EcpLib (P : Type) where
  mul : Int → P → Except Failure P
  muladd : Int → P → Int → P → Except Failure P
  invMod : Int → Int → Except Failure Int

inductive Draw (N : Nat) where
  | error (ret : Failure)
  | key (k : Fin N)
  deriving DecidableEq

/-
What the calls on numbers are going to return, and the private keys that the random source leads to. Where
the results end, the calls succeed.
-/
structure Env (N : Nat) where
  rets : List Int
  draws : List (Draw N)
  deriving DecidableEq

abbrev Run (N : Nat) (α : Type) := StateT (Env N) (Except Failure) α

def mpiChk {N : Nat} : Run N Unit := fun env =>
  match env.rets with
  | [] => .ok ((), env)
  | ret :: rets => if h : ret ≠ 0 then .error ⟨ret, h⟩ else .ok ((), { env with rets := rets })

def libChk {N : Nat} {α : Type} (result : Except Failure α) : Run N α := fun env =>
  match result with
  | .error ret => .error ret
  | .ok a => .ok (a, env)

def fail {N : Nat} {α : Type} (ret : Failure) : Run N α := fun _ => .error ret

def ecpGenPrivkey {N : Nat} : Run N Nat := fun env =>
  match env.draws with
  | [] => .error errEcpRandomFailed
  | .error ret :: _ => .error ret
  | .key k :: draws => .ok (k, { env with draws := draws })

section

variable {P : Type} [AddCommGroup P]

def EcpGroup.nbits (grp : EcpGroup P) : Nat :=
  mpiBitlen grp.N

def EcpGroup.useSize (grp : EcpGroup P) (blen : Nat) : Nat :=
  let nSize := (grp.nbits + 7) / 8
  if blen > nSize then nSize else blen

/-
The number of a hash before it is reduced.
-/
def readHash (grp : EcpGroup P) (buf : List Byte) : Run grp.N Nat := do
  let useSize := grp.useSize buf.length
  mpiChk
  let x := mpiReadBinary buf useSize
  if useSize * 8 > grp.nbits then
    mpiChk
    pure (x >>> (useSize * 8 - grp.nbits))
  else
    pure x

def deriveMpi (grp : EcpGroup P) (buf : List Byte) : Run grp.N Nat := do
  let x ← readHash grp buf
  if x ≥ grp.N then
    mpiChk
    pure (x - grp.N)
  else
    pure x

def ecdsaVerifySw [DecidableEq P] (lib : EcpLib P) (grp : EcpGroup P) (buf : List Byte) (Q : P) (r s : Int)
    : Run grp.N Unit := do
  if r < 1 ∨ r ≥ grp.N ∨ s < 1 ∨ s ≥ grp.N then
    fail errEcpVerifyFailed
  else
    let e ← deriveMpi grp buf
    let sInv ← libChk (lib.invMod s grp.N)
    mpiChk
    let u1 := e * sInv
    mpiChk
    let u1 := u1 % grp.N
    mpiChk
    let u2 := r * sInv
    mpiChk
    let u2 := u2 % grp.N
    let R ← libChk (lib.muladd u1 grp.G u2 Q)
    if R = 0 then
      fail errEcpVerifyFailed
    else
      mpiChk
      let v : Int := grp.X R % grp.N
      if v ≠ r then fail errEcpVerifyFailed
      else pure ()

/-
The loop that draws a private key. `tries` is how often it may still draw.
-/
def signKey (N : Nat) (tries : Nat) : Run N Nat :=
  match tries with
  | 0 => fail errEcpRandomFailed
  | tries + 1 => do
    let k ← ecpGenPrivkey
    if k = 0 then signKey N tries
    else pure k

def signNonce (lib : EcpLib P) (grp : EcpGroup P) (tries : Nat) : Run grp.N (Nat × Nat) :=
  match tries with
  | 0 => fail errEcpRandomFailed
  | tries + 1 => do
    let k ← signKey grp.N 31
    let R ← libChk (lib.mul k grp.G)
    mpiChk
    let r := grp.X R % grp.N
    if r = 0 then signNonce lib grp tries
    else pure (k, r)

def ecdsaSignSw (lib : EcpLib P) (grp : EcpGroup P) (d : Int) (buf : List Byte) : Run grp.N (Int × Int) := do
  let (k, r) ← signNonce lib grp 11
  let e ← readHash grp buf
  mpiChk
  let s := r * d
  mpiChk
  let e := e + s
  let s ← libChk (lib.invMod k grp.N)
  mpiChk
  let s := s * e
  mpiChk
  let s := s % grp.N
  pure (r, s)

end

end Ecdsa

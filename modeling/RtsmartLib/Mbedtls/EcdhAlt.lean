import RtsmartLib.Lib.BlockMode
import RtsmartLib.Lib.Calls
import RtsmartLib.Pufs.Ecc

/-!
This module contains the ECDH port, as computations over the calls that it makes to the driver and to
the library.
-/

namespace Mbedtls

open Lib Pufs

def errEcpBadInputData : Errno :=
  ⟨-0x4F80, by decide⟩

def errMpiBufferTooSmall : Errno :=
  ⟨-0x0008, by decide⟩

inductive EcpGroupId where
  | none
  | secp192r1
  | secp224r1
  | secp256r1
  | secp384r1
  | secp521r1
  | bp256r1
  | bp384r1
  | bp512r1
  | curve25519
  | secp192k1
  | secp224k1
  | secp256k1
  | curve448
deriving DecidableEq

/-
A point in affine coordinates. Where a result may be the point at infinity it is an `Option EcpPoint`,
and `none` is what `mbedtls_ecp_is_zero` looks for.
-/
structure EcpPoint where
  X : Nat
  Y : Nat
deriving DecidableEq

structure EcpGroup where
  id : EcpGroupId
  G : EcpPoint
deriving DecidableEq

structure EcdhCurveEntry where
  mbedtlsId : EcpGroupId
  pufsId : EccType
  qlen : Nat
deriving DecidableEq

def ecdhCurveMap : List EcdhCurveEntry :=
  [⟨.secp192r1, .nistp192, 24⟩, ⟨.secp224r1, .nistp224, 28⟩, ⟨.secp256r1, .nistp256, 32⟩,
    ⟨.secp384r1, .nistp384, 48⟩, ⟨.secp521r1, .nistp521, 66⟩]

def ecdhFindCurve (id : EcpGroupId) : Option EcdhCurveEntry :=
  ecdhCurveMap.find? fun entry => entry.mbedtlsId = id

/--
The calls of the port. A driver call holds the device lock while its ioctl runs, so each is one step.
`mpiGrow` is the part of an assignment to a number that may run out of memory.
-/
inductive EcdhOp where
  | eccPrkGen (ecctype : EccType) (isEphemeral : Bool) (prkslot : KeySlot)
  | eccPukGen (ecctype : EccType) (prktype : KeyType) (prkslot : KeySlot)
  | eccCdh (ecctype : EccType) (isEphemeral : Bool) (prkslotE : KeySlot) (pukE : EccPuk)
    (outlen : Nat)
  | keyImportPlaintext (keytype : KeyType) (keyslot : KeySlot) (key : List Byte) (keybits : Nat)
  | keyClear (keytype : KeyType) (keyslot : KeySlot) (keybits : Nat)
  | ecpGenPrivkey (id : EcpGroupId)
  | ecpMul (id : EcpGroupId) (m : Nat) (P : EcpPoint)
  | mpiGrow
deriving DecidableEq

@[reducible]
def EcdhOp.Answer (op : EcdhOp) : Type :=
  match op with
  | .eccPrkGen _ _ _ => Except Errno Unit
  | .eccPukGen _ _ _ => Except Errno EccPuk
  | .eccCdh _ _ _ _ _ => Except Errno (List Byte)
  | .keyImportPlaintext _ _ _ _ => Except Errno Unit
  | .keyClear _ _ _ => Except Errno Unit
  | .ecpGenPrivkey _ => Except Errno Nat
  | .ecpMul _ _ _ => Except Errno (Option EcpPoint)
  | .mpiGrow => Except Errno Unit

abbrev EcdhCalls (α : Type) :=
  Calls EcdhOp EcdhOp.Answer (Except Errno α)

def mpiChk {α : Type} (next : EcdhCalls α) : EcdhCalls α :=
  .call .mpiGrow fun
  | .error errno => .ret (.error errno)
  | .ok _ => next

def mpiWriteBinary (X : Nat) (buflen : Nat) : Except Errno (List Byte) :=
  if X < 256 ^ buflen then
    .ok (bytesBE buflen X)
  else
    .error errMpiBufferTooSmall

def mpiReadBinary (buf : List Byte) (buflen : Nat) : Nat :=
  valueBE (buf.take buflen)

def mpiBitlen (X : Nat) : Nat :=
  if X = 0 then 0 else X.log2 + 1

/-
The sentinel that stands for the key in PRK slot 0: the slot in bits 0-7, the flag in bit 8.
-/
def ecdhSentinel : Nat :=
  0x100 ||| KeySlot.prk0.ctorIdx

def ecdhIsSentinel (d : Nat) : Bool :=
  d ≥ 0x100 && mpiBitlen d ≤ 9

def ecdhGenPublicSw (grp : EcpGroup) : EcdhCalls (Nat × Option EcpPoint) :=
  .call (.ecpGenPrivkey grp.id) fun
  | .error errno => .ret (.error errno)
  | .ok d =>
    .call (.ecpMul grp.id d grp.G) fun
    | .error errno => .ret (.error errno)
    | .ok Q => .ret (.ok (d, Q))

/--
`mbedtls_ecdh_gen_public`: the private key or the sentinel, and the public point. `dev` is whether the
device could be opened.
-/
def mbedtlsEcdhGenPublic (dev : Bool) (grp : EcpGroup) : EcdhCalls (Nat × Option EcpPoint) :=
  match ecdhFindCurve grp.id, dev with
  | some cm, true =>
    .call (.eccPrkGen cm.pufsId true .prk0) fun
    | .error _ => ecdhGenPublicSw grp
    | .ok _ =>
      .call (.eccPukGen cm.pufsId .prkey .prk0) fun
      | .error _ => .call (.keyClear .prkey .prk0 (cm.qlen * 8)) fun _ => ecdhGenPublicSw grp
      | .ok puk =>
        let Q : EcpPoint := ⟨mpiReadBinary puk.x cm.qlen, mpiReadBinary puk.y cm.qlen⟩
        -- the three coordinates of Q, then d
        mpiChk <| mpiChk <| mpiChk <| mpiChk <| .ret (.ok (ecdhSentinel, some Q))
  | _, _ => ecdhGenPublicSw grp

def ecdhComputeSharedSw (grp : EcpGroup) (Q : EcpPoint) (d : Nat) : EcdhCalls Nat :=
  .call (.ecpMul grp.id d Q) fun
  | .error errno => .ret (.error errno)
  | .ok none => .ret (.error errEcpBadInputData)
  | .ok (some P) => mpiChk (.ret (.ok P.X))

/-
What follows after the CDH.
-/
def ecdhComputeSharedEnd (grp : EcpGroup) (cm : EcdhCurveEntry) (Q : EcpPoint) (d : Nat)
    (res : Except Errno (List Byte)) : EcdhCalls Nat :=
  match res with
  | .error _ => ecdhComputeSharedSw grp Q d
  | .ok shared => mpiChk (.ret (.ok (mpiReadBinary shared cm.qlen)))

/-
What follows once the slot is loaded. A key that was imported for this call is cleared after it.
-/
def ecdhComputeSharedSlot (grp : EcpGroup) (cm : EcdhCurveEntry) (puk : EccPuk) (Q : EcpPoint)
    (d : Nat) (needClear : Bool) : EcdhCalls Nat :=
  .call (.eccCdh cm.pufsId true .prk0 puk cm.qlen) fun res =>
    if needClear then
      .call (.keyClear .prkey .prk0 (cm.qlen * 8)) fun _ => ecdhComputeSharedEnd grp cm Q d res
    else
      ecdhComputeSharedEnd grp cm Q d res

/-
Import of a plaintext key works for keys of up to 256 bits only.
-/
def ecdhComputeSharedImport (grp : EcpGroup) (cm : EcdhCurveEntry) (puk : EccPuk) (Q : EcpPoint)
    (d : Nat) : EcdhCalls Nat :=
  if cm.qlen > 32 then
    ecdhComputeSharedSw grp Q d
  else
    match mpiWriteBinary d cm.qlen with
    | .error errno => .ret (.error errno)
    | .ok keybuf =>
      .call (.keyImportPlaintext .prkey .prk0 keybuf (cm.qlen * 8)) fun
      | .error _ => ecdhComputeSharedSw grp Q d
      | .ok _ => ecdhComputeSharedSlot grp cm puk Q d true

/--
`mbedtls_ecdh_compute_shared`: the secret `z` for the peer's point `Q` and the private key or sentinel
`d`.
-/
def mbedtlsEcdhComputeShared (dev : Bool) (grp : EcpGroup) (Q : EcpPoint) (d : Nat)
    : EcdhCalls Nat :=
  match ecdhFindCurve grp.id, dev with
  | some cm, true =>
    match mpiWriteBinary Q.X cm.qlen with
    | .error errno => .ret (.error errno)
    | .ok x =>
      match mpiWriteBinary Q.Y cm.qlen with
      | .error errno => .ret (.error errno)
      | .ok y =>
        let puk : EccPuk := ⟨cm.qlen, x, y⟩
        if ecdhIsSentinel d then
          ecdhComputeSharedSlot grp cm puk Q d false
        else
          ecdhComputeSharedImport grp cm puk Q d
  | _, _ => ecdhComputeSharedSw grp Q d

end Mbedtls

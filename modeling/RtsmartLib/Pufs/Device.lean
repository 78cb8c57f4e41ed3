import RtsmartLib.Lib.Memory

/-!
This module contains the interface of the PUF secure engine driver: the operation structures that
are handed to the kernel, and kernels as what their ioctls answer.
-/

namespace Pufs

open Lib

def pufsBcBlockSize : Nat := 16

def pufsSwKeyMaxlen : Nat := 64

def pufsHmacBlockMaxlen : Nat := 128

abbrev Errno := { e : Int // e ≠ 0 }

/-
What the driver returns for its own checks.
-/
def eperm : Errno :=
  ⟨-1, by omega⟩

def einval : Errno :=
  ⟨-22, by omega⟩

def pufsErrVerfail : Errno :=
  ⟨-8, by omega⟩

inductive KeyType where
  | swkey
  | otpkey
  | pufkey
  | randkey
  | sharesec
  | sskey
  | prkey
deriving DecidableEq

inductive HashType where
  | sha224
  | sha256
  | sha384
  | sha512
  | sha512224
  | sha512256
  | sm3
deriving DecidableEq

inductive SkCipher where
  | aes
  | sm4
deriving DecidableEq

inductive SkcipherMode where
  | ecb
  | cfb
  | ofb
  | cbc
  | cbcCs1
  | cbcCs2
  | cbcCs3
  | ctr32
  | ctr64
  | ctr
  | gcm
  | ccm
  | xts
deriving DecidableEq

def SkcipherMode.isSp38a (mode : SkcipherMode) : Bool :=
  match mode with
  | .gcm | .ccm | .xts => false
  | _ => true

structure Sp38aOp where
  cipher : SkCipher
  mode : SkcipherMode
  encrypt : Bool
  keytype : KeyType
  keybits : UInt32
  key : List Byte
  iv : List Byte
  ivlen : UInt32
deriving DecidableEq

structure Sp38dOp where
  cipher : SkCipher
  encrypt : Bool
  keytype : KeyType
  keybits : UInt32
  key : List Byte
  iv : List Byte
  ivlen : UInt32
deriving DecidableEq

structure Sp38cOp where
  cipher : SkCipher
  encrypt : Bool
  keytype : KeyType
  keybits : UInt32
  key : List Byte
  nonce : List Byte
  noncelen : UInt32
  ccmAadlen : UInt64
  ccmInlen : UInt64
  taglen : UInt32
deriving DecidableEq

structure Sp38eOp where
  cipher : SkCipher
  encrypt : Bool
  keytype1 : KeyType
  keytype2 : KeyType
  keybits : UInt32
  key1 : List Byte
  key2 : List Byte
  iv : List Byte
  ivlen : UInt32
deriving DecidableEq

/--
The open device. `drv_pufs_open` sets the buffer size to 65536, all the chunk loops need of it is
that it is not zero.
-/
structure DrvPufsInst where
  bufSize : Nat
  bufSize_pos : 0 < bufSize

def pufsBufSize : DrvPufsInst :=
  ⟨65536, by omega⟩

/-
What a final operation is given and what it leaves behind: the tag buffer is read when a tag is to be
verified and written when one is produced.
-/
structure FinalArgs where
  hasOut : Bool
  tag : Option (List Byte)
  taglen : Nat

structure FinalOut where
  out : List Byte
  tag : List Byte

inductive CipherOp where
  | sp38a (op : Sp38aOp)
  | sp38d (op : Sp38dOp)
  | sp38c (op : Sp38cOp)
  | sp38e (op : Sp38eOp)
deriving DecidableEq

/--
A kernel. Contexts `κ` are the kernel's own, the driver only clears them and carries them from one
ioctl to the next. `W` is whatever else the answers depend on. An update without an output buffer
feeds additional data.
-/
structure CipherKernel (κ W : Type) where
  zero : κ
  init : CipherOp → W → Except Errno κ × W
  update : κ → Bool → List Byte → W → Except Errno (κ × List Byte) × W
  final : κ → FinalArgs → W → Except Errno FinalOut × W

/-
The operations that do two steps of GCM in one ioctl.
-/
structure CompoundKernel (κ W : Type) extends CipherKernel κ W where
  initUpdate : Sp38dOp → Bool → List Byte → W → Except Errno (κ × List Byte) × W
  updateFinal : κ → List Byte → FinalArgs → W → Except Errno FinalOut × W

/-
A fixed array that is cleared before `n` bytes are copied to its start.
-/
def copyInto (size : Nat) (bytes : List Byte) (n : Nat) : List Byte :=
  bytes.take n ++ List.replicate (size - (bytes.take n).length) 0

end Pufs

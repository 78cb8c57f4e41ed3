import RtsmartLib.Lib.Tlv
import RtsmartLib.Lib.Crc

/-!
This module contains the STUN messages of libpeer: their attributes and the loop over them, writing a message,
the checks of a received one and what is taken from it.
-/

namespace Peer

open Lib

def crc32Table : List (BitVec 32) :=
  [
    0x00000000, 0x77073096, 0xee0e612c, 0x990951ba, 0x076dc419, 0x706af48f, 0xe963a535,
    0x9e6495a3, 0x0edb8832, 0x79dcb8a4, 0xe0d5e91e, 0x97d2d988, 0x09b64c2b, 0x7eb17cbd,
    0xe7b82d07, 0x90bf1d91, 0x1db71064, 0x6ab020f2, 0xf3b97148, 0x84be41de, 0x1adad47d,
    0x6ddde4eb, 0xf4d4b551, 0x83d385c7, 0x136c9856, 0x646ba8c0, 0xfd62f97a, 0x8a65c9ec,
    0x14015c4f, 0x63066cd9, 0xfa0f3d63, 0x8d080df5, 0x3b6e20c8, 0x4c69105e, 0xd56041e4,
    0xa2677172, 0x3c03e4d1, 0x4b04d447, 0xd20d85fd, 0xa50ab56b, 0x35b5a8fa, 0x42b2986c,
    0xdbbbc9d6, 0xacbcf940, 0x32d86ce3, 0x45df5c75, 0xdcd60dcf, 0xabd13d59, 0x26d930ac,
    0x51de003a, 0xc8d75180, 0xbfd06116, 0x21b4f4b5, 0x56b3c423, 0xcfba9599, 0xb8bda50f,
    0x2802b89e, 0x5f058808, 0xc60cd9b2, 0xb10be924, 0x2f6f7c87, 0x58684c11, 0xc1611dab,
    0xb6662d3d, 0x76dc4190, 0x01db7106, 0x98d220bc, 0xefd5102a, 0x71b18589, 0x06b6b51f,
    0x9fbfe4a5, 0xe8b8d433, 0x7807c9a2, 0x0f00f934, 0x9609a88e, 0xe10e9818, 0x7f6a0dbb,
    0x086d3d2d, 0x91646c97, 0xe6635c01, 0x6b6b51f4, 0x1c6c6162, 0x856530d8, 0xf262004e,
    0x6c0695ed, 0x1b01a57b, 0x8208f4c1, 0xf50fc457, 0x65b0d9c6, 0x12b7e950, 0x8bbeb8ea,
    0xfcb9887c, 0x62dd1ddf, 0x15da2d49, 0x8cd37cf3, 0xfbd44c65, 0x4db26158, 0x3ab551ce,
    0xa3bc0074, 0xd4bb30e2, 0x4adfa541, 0x3dd895d7, 0xa4d1c46d, 0xd3d6f4fb, 0x4369e96a,
    0x346ed9fc, 0xad678846, 0xda60b8d0, 0x44042d73, 0x33031de5, 0xaa0a4c5f, 0xdd0d7cc9,
    0x5005713c, 0x270241aa, 0xbe0b1010, 0xc90c2086, 0x5768b525, 0x206f85b3, 0xb966d409,
    0xce61e49f, 0x5edef90e, 0x29d9c998, 0xb0d09822, 0xc7d7a8b4, 0x59b33d17, 0x2eb40d81,
    0xb7bd5c3b, 0xc0ba6cad, 0xedb88320, 0x9abfb3b6, 0x03b6e20c, 0x74b1d29a, 0xead54739,
    0x9dd277af, 0x04db2615, 0x73dc1683, 0xe3630b12, 0x94643b84, 0x0d6d6a3e, 0x7a6a5aa8,
    0xe40ecf0b, 0x9309ff9d, 0x0a00ae27, 0x7d079eb1, 0xf00f9344, 0x8708a3d2, 0x1e01f268,
    0x6906c2fe, 0xf762575d, 0x806567cb, 0x196c3671, 0x6e6b06e7, 0xfed41b76, 0x89d32be0,
    0x10da7a5a, 0x67dd4acc, 0xf9b9df6f, 0x8ebeeff9, 0x17b7be43, 0x60b08ed5, 0xd6d6a3e8,
    0xa1d1937e, 0x38d8c2c4, 0x4fdff252, 0xd1bb67f1, 0xa6bc5767, 0x3fb506dd, 0x48b2364b,
    0xd80d2bda, 0xaf0a1b4c, 0x36034af6, 0x41047a60, 0xdf60efc3, 0xa867df55, 0x316e8eef,
    0x4669be79, 0xcb61b38c, 0xbc66831a, 0x256fd2a0, 0x5268e236, 0xcc0c7795, 0xbb0b4703,
    0x220216b9, 0x5505262f, 0xc5ba3bbe, 0xb2bd0b28, 0x2bb45a92, 0x5cb36a04, 0xc2d7ffa7,
    0xb5d0cf31, 0x2cd99e8b, 0x5bdeae1d, 0x9b64c2b0, 0xec63f226, 0x756aa39c, 0x026d930a,
    0x9c0906a9, 0xeb0e363f, 0x72076785, 0x05005713, 0x95bf4a82, 0xe2b87a14, 0x7bb12bae,
    0x0cb61b38, 0x92d28e9b, 0xe5d5be0d, 0x7cdcefb7, 0x0bdbdf21, 0x86d3d2d4, 0xf1d4e242,
    0x68ddb3f8, 0x1fda836e, 0x81be16cd, 0xf6b9265b, 0x6fb077e1, 0x18b74777, 0x88085ae6,
    0xff0f6a70, 0x66063bca, 0x11010b5c, 0x8f659eff, 0xf862ae69, 0x616bffd3, 0x166ccf45,
    0xa00ae278, 0xd70dd2ee, 0x4e048354, 0x3903b3c2, 0xa7672661, 0xd06016f7, 0x4969474d,
    0x3e6e77db, 0xaed16a4a, 0xd9d65adc, 0x40df0b66, 0x37d83bf0, 0xa9bcae53, 0xdebb9ec5,
    0x47b2cf7f, 0x30b5ffe9, 0xbdbdf21c, 0xcabac28a, 0x53b39330, 0x24b4a3a6, 0xbad03605,
    0xcdd70693, 0x54de5729, 0x23d967bf, 0xb3667a2e, 0xc4614ab8, 0x5d681b02, 0x2a6f2b94,
    0xb40bbe37, 0xc30c8ea1, 0x5a05df1b, 0x2d02ef8d]

def stunAttrBufSize : Nat := 1500

def magicCookie : BitVec 32 := 0x2112a442

def stunFingerprintXor : BitVec 32 := 0x5354554e

def sizeofStunHeader : Nat := 20

inductive StunClass where
  | request
  | indication
  | response
  | error
deriving DecidableEq

def StunClass.val (cls : StunClass) : BitVec 16 :=
  match cls with
  | .request => 0x0000
  | .indication => 0x0010
  | .response => 0x0100
  | .error => 0x0110

inductive StunMethod where
  | binding
  | allocate
  | refresh
  | send
  | data
  | createPermission
  | channelBind
deriving DecidableEq

def StunMethod.val (method : StunMethod) : BitVec 16 :=
  match method with
  | .binding => 0x0001
  | .allocate => 0x0003
  | .refresh => 0x0004
  | .send => 0x0006
  | .data => 0x0007
  | .createPermission => 0x0008
  | .channelBind => 0x0009

inductive StunAttrType where
  | mappedAddress
  | username
  | messageIntegrity
  | errorCode
  | lifetime
  | channelNumber
  | xorPeerAddress
  | data
  | realm
  | nonce
  | xorRelayedAddress
  | requestedTransport
  | xorMappedAddress
  | priority
  | useCandidate
  | fingerprint
  | iceControlled
  | iceControlling
  | software
  | networkCost
deriving DecidableEq

namespace StunAttrType

def val (type : StunAttrType) : BitVec 16 :=
  match type with
  | .mappedAddress => 0x0001
  | .username => 0x0006
  | .messageIntegrity => 0x0008
  | .errorCode => 0x0009
  | .lifetime => 0x000d
  | .channelNumber => 0x000c
  | .xorPeerAddress => 0x0012
  | .data => 0x0013
  | .realm => 0x0014
  | .nonce => 0x0015
  | .xorRelayedAddress => 0x0016
  | .requestedTransport => 0x0019
  | .xorMappedAddress => 0x0020
  | .priority => 0x0024
  | .useCandidate => 0x0025
  | .fingerprint => 0x8028
  | .iceControlled => 0x8029
  | .iceControlling => 0x802a
  | .software => 0x8022
  | .networkCost => 0xc057

def all : List StunAttrType :=
  [.mappedAddress, .username, .messageIntegrity, .errorCode, .lifetime, .channelNumber, .xorPeerAddress, .data,
    .realm, .nonce, .xorRelayedAddress, .requestedTransport, .xorMappedAddress, .priority, .useCandidate,
    .fingerprint, .iceControlled, .iceControlling, .software, .networkCost]

def ofVal? (val : BitVec 16) : Option StunAttrType :=
  all.find? (·.val = val)

@[simp]
theorem ofVal?_val (type : StunAttrType) : ofVal? type.val = some type := by
  cases type <;> decide

theorem val_inj {type type' : StunAttrType} (h : type.val = type'.val) : type = type' := by
  have hsome := ofVal?_val type
  rw [h, ofVal?_val] at hsome
  exact (Option.some.inj hsome).symm

end StunAttrType

inductive StunCredential where
  | shortTerm
  | longTerm
deriving DecidableEq

inductive AddrFamily where
  | unspec
  | inet
  | inet6
deriving DecidableEq

/--
An address with room for both families. The bytes are in network order.
-/
structure Address where
  family : AddrFamily
  sinAddr : List Byte
  sin6Addr : List Byte
  port : BitVec 16
  length_sinAddr : sinAddr.length = 4
  length_sin6Addr : sin6Addr.length = 16
deriving DecidableEq

def addrEqual (a b : Address) : Bool :=
  if a.family ≠ b.family then
    false
  else if a.port ≠ b.port then
    false
  else
    match a.family with
    | .inet => a.sinAddr = b.sinAddr
    | .inet6 => a.sin6Addr = b.sin6Addr
    | .unspec => false

structure StunMessage where
  stunclass : StunClass
  stunmethod : BitVec 16
  fingerprint : List Byte
  messageIntegrity : List Byte
  username : List Byte
  realm : List Byte
  nonce : List Byte
  mappedAddr : Address
  relayedAddr : Address
  peerAddr : Address
  errorCode : BitVec 16
  dataOffset : BitVec 16
  dataLen : BitVec 16
  channelNumber : BitVec 16
  /- the first `size` bytes of the buffer -/
  buf : List Byte
deriving DecidableEq

def sizeofUsername : Nat := 128

def sizeofRealm : Nat := 64

def sizeofNonce : Nat := 64

/-
What a copy into a zeroed array of `size` characters leaves there in front of the zeros.
-/
def copyString (size : Nat) (value : List Byte) : List Byte :=
  if value.length < size then value else value.take (size - 1)

def cString (array : List Byte) : List Byte :=
  array.takeWhile (· ≠ 0x00)

def stunHeader (type length : BitVec 16) (transactionId : List Byte) : List Byte :=
  bigEndian16 type ++ bigEndian16 length ++ bigEndian32 magicCookie ++ transactionId

namespace StunMessage

def size (msg : StunMessage) : Nat := msg.buf.length

def headerType (buf : List Byte) : BitVec 16 := getBigEndian16 buf 0

def headerLength (buf : List Byte) : BitVec 16 := getBigEndian16 buf 2

def transactionId (buf : List Byte) : List Byte := (buf.drop 8).take 12

def setHeaderLength (buf : List Byte) (length : BitVec 16) : List Byte :=
  buf.take 2 ++ bigEndian16 length ++ buf.drop 4

def setTransactionId (buf transactionId : List Byte) : List Byte :=
  buf.take 8 ++ transactionId ++ buf.drop 20

end StunMessage

open StunMessage

/-
`randomBytes` is what `utils_random_bytes` fills the transaction id with, if it does.
-/
def stunMsgCreate (msg : StunMessage) (type : BitVec 16) (randomBytes : Option (Vector Byte 12))
    : Bool × StunMessage :=
  match randomBytes with
  | none => (false, { msg with buf := [] })
  | some transactionId => (true, { msg with buf := stunHeader type 0 transactionId.toList })

/-
Memory that has been zeroed.
-/
def zeroes (n : Nat) : List Byte := List.replicate n 0x00

instance : Inhabited Address where
  default := ⟨.unspec, zeroes 4, zeroes 16, 0, rfl, rfl⟩

/-
A message of which nothing but the buffer is looked at before it is set.
-/
def blankMessage : StunMessage where
  stunclass := .request
  stunmethod := 0
  fingerprint := []
  messageIntegrity := []
  username := []
  realm := []
  nonce := []
  mappedAddr := default
  relayedAddr := default
  peerAddr := default
  errorCode := 0
  dataOffset := 0
  dataLen := 0
  channelNumber := 0
  buf := []

def xorBytes (n : Nat) (a b : List Byte) : List Byte :=
  (List.range n).map fun i => a.getD i 0 ^^^ b.getD i 0

@[simp]
theorem length_xorBytes (n : Nat) (a b : List Byte) : (xorBytes n a b).length = n := by
  simp [xorBytes]

def stunFamilyIpv4 : Byte := 0x01

def stunFamilyIpv6 : Byte := 0x02

/-
The attribute's value. Nothing is written to its first byte.
-/
def stunSetMappedAddress (reserved : Byte) (mask : List Byte) (addr : Address) : List Byte :=
  let port := xorBytes 2 (bigEndian16 addr.port) mask
  match addr.family with
  | .inet6 => [reserved, stunFamilyIpv6] ++ port ++ xorBytes 16 addr.sin6Addr mask
  | _ => [reserved, stunFamilyIpv4] ++ port ++ xorBytes 4 addr.sinAddr mask

def stunGetMappedAddress (value mask : List Byte) (addr : Address) : Address :=
  let port := getBigEndian16 (xorBytes 2 (value.drop 2) mask) 0
  if value.getD 1 0 = stunFamilyIpv6 then
    { addr with
      family := .inet6
      sin6Addr := xorBytes 16 (value.drop 4) mask
      port := port
      length_sin6Addr := length_xorBytes _ _ _ }
  else
    { addr with
      family := .inet
      sinAddr := xorBytes 4 (value.drop 4) mask
      port := port
      length_sinAddr := length_xorBytes _ _ _ }

/-
An attribute as the loops over a message see it.
-/
structure StunAttribute where
  pos : Nat
  type : BitVec 16
  length : BitVec 16
  value : List Byte
  next : Nat
deriving DecidableEq

def sizeofStunAttribute : Nat := 4

def stunAddressAttrIsValid (attr : StunAttribute) : Bool :=
  if attr.length.toNat < 8 then
    false
  else if attr.value.getD 1 0 = stunFamilyIpv4 then
    true
  else
    attr.value.getD 1 0 = stunFamilyIpv6 && attr.length.toNat ≥ 20

def stunProbe (buf : List Byte) : Bool :=
  !(buf.length < sizeofStunHeader) && getBigEndian32 buf 4 = magicCookie

/-
The loop over the attributes from `pos` on, `step` being its switch.
-/
def stunForEachAttr {σ : Type} (step : σ → StunAttribute → Option σ) (buf : List Byte) (pos : Nat) (s : σ)
    : Option σ :=
  if pos < buf.length then
    if buf.length - pos < sizeofStunAttribute then
      none
    else
      let type := getBigEndian16 buf pos
      let length := getBigEndian16 buf (pos + 2)
      let paddedLen := (length.toNat + 3) / 4 * 4
      let next := pos + sizeofStunAttribute + paddedLen
      if next > buf.length then
        none
      else
        match step s ⟨pos, type, length, (buf.drop (pos + sizeofStunAttribute)).take length.toNat, next⟩ with
        | none => none
        | some s => stunForEachAttr step buf next s
  else
    some s
termination_by buf.length - pos
decreasing_by
  simp only [sizeofStunAttribute] at *
  omega

def stunXorMask (transactionId : List Byte) : List Byte :=
  bigEndian32 magicCookie ++ transactionId

def stunNoMask : List Byte := List.replicate 16 0x00

def stunParseAttr (transactionId : List Byte) (msg : StunMessage) (attr : StunAttribute) : Option StunMessage :=
  match StunAttrType.ofVal? attr.type with
  | some .mappedAddress =>
    if !stunAddressAttrIsValid attr then
      none
    else
      some { msg with mappedAddr := stunGetMappedAddress attr.value stunNoMask msg.mappedAddr }
  | some .username => some { msg with username := copyString sizeofUsername attr.value }
  | some .messageIntegrity =>
    if attr.length.toNat ≠ 20 then
      none
    else
      some { msg with messageIntegrity := attr.value }
  | some .errorCode =>
    if attr.length.toNat < 4 then
      none
    else
      let errorClass := (attr.value.getD 2 0).toNat
      let errorNumber := (attr.value.getD 3 0).toNat
      some { msg with errorCode := BitVec.ofNat 16 (errorClass * 100 + errorNumber) }
  | some .channelNumber =>
    if attr.length.toNat < 2 then
      none
    else
      some { msg with channelNumber := getBigEndian16 attr.value 0 }
  | some .xorPeerAddress =>
    if !stunAddressAttrIsValid attr then
      none
    else
      some { msg with peerAddr := stunGetMappedAddress attr.value (stunXorMask transactionId) msg.peerAddr }
  | some .data =>
    some { msg with dataOffset := BitVec.ofNat 16 (attr.pos + sizeofStunAttribute), dataLen := attr.length }
  | some .realm => some { msg with realm := copyString sizeofRealm attr.value }
  | some .nonce => some { msg with nonce := copyString sizeofNonce attr.value }
  | some .xorRelayedAddress =>
    if !stunAddressAttrIsValid attr then
      none
    else
      some { msg with relayedAddr := stunGetMappedAddress attr.value (stunXorMask transactionId) msg.relayedAddr }
  | some .xorMappedAddress =>
    if !stunAddressAttrIsValid attr then
      none
    else
      some { msg with mappedAddr := stunGetMappedAddress attr.value (stunXorMask transactionId) msg.mappedAddr }
  | some .fingerprint =>
    if attr.length.toNat ≠ 4 then
      none
    else
      some { msg with fingerprint := attr.value }
  -- nothing is taken from the attributes left, known or not
  | _ => some msg

def StunClass.ofType (type : BitVec 16) : StunClass :=
  if type &&& StunClass.error.val = StunClass.error.val then
    .error
  else if type &&& StunClass.indication.val = StunClass.indication.val then
    .indication
  else if type &&& StunClass.response.val = StunClass.response.val then
    .response
  else
    .request

def stunMethodOfType (type : BitVec 16) : BitVec 16 :=
  ((type &&& 0x3e00) >>> 2) ||| ((type &&& 0x00e0) >>> 1) ||| (type &&& 0x000f)

/-
`msg.buf` is what has been received. `none` is the return of an error, with which the caller drops the message.
-/
def stunParseMsgBuf (msg : StunMessage) : Option StunMessage :=
  if msg.buf.length < sizeofStunHeader ∨ msg.buf.length > stunAttrBufSize ∨ !stunProbe msg.buf then
    none
  else if (headerLength msg.buf).toNat + sizeofStunHeader ≠ msg.buf.length then
    none
  else
    let type := headerType msg.buf
    let msg := { msg with stunclass := StunClass.ofType type, stunmethod := stunMethodOfType type }
    stunForEachAttr (stunParseAttr (transactionId msg.buf)) msg.buf sizeofStunHeader msg

def crc32Step (c : BitVec 32) (b : Byte) : BitVec 32 :=
  crc32Table.getD ((c ^^^ b.setWidth 32) &&& 0xff).toNat 0 ^^^ (c >>> 8)

def stunCalculateFingerprint (buf : List Byte) : List Byte :=
  let c := buf.foldl crc32Step 0xffffffff
  bigEndian32 ((c ^^^ 0xffffffff) ^^^ stunFingerprintXor)

/-
`value` points to at least `length` bytes or is null.
-/
def stunMsgWriteAttr (msg : StunMessage) (type : StunAttrType) (length : BitVec 16) (value : Option (List Byte))
    : Bool × StunMessage :=
  let paddedLength := (length.toNat + 3) / 4 * 4
  if msg.size < sizeofStunHeader ∨ (length ≠ 0 ∧ value = none) ∨
      paddedLength > stunAttrBufSize - sizeofStunAttribute ∨
      msg.size > stunAttrBufSize - sizeofStunAttribute - paddedLength then
    (false, msg)
  else
    let bytes := (value.getD []).take length.toNat
    let buf := setHeaderLength msg.buf
      (headerLength msg.buf + BitVec.ofNat 16 (sizeofStunAttribute + paddedLength))
    let msg :=
      { msg with
        buf := buf ++ (bigEndian16 type.val ++ bigEndian16 length ++ bytes
          ++ List.replicate (paddedLength - length.toNat) 0x00) }
    match type with
    | .realm => (true, { msg with realm := copyString sizeofRealm bytes })
    | .nonce => (true, { msg with nonce := copyString sizeofNonce bytes })
    | .username => (true, { msg with username := copyString sizeofUsername bytes })
    | _ => (true, msg)

section Integrity

/-
`utils_get_hmac_sha1` with the message before the key, and `utils_get_md5`.
-/
variable (hmacSha1 : List Byte → List Byte → Option (Vector Byte 20)) (md5 : List Byte → Vector Byte 16)

def colon : Byte := 0x3a

def stunMsgFinish (msg : StunMessage) (credential : StunCredential) (password : List Byte)
    : Bool × StunMessage :=
  if msg.size > stunAttrBufSize - 32 then
    (false, msg)
  else
    let headerLength := headerLength msg.buf
    let password :=
      match credential with
      | .longTerm =>
        let key := cString msg.username ++ [colon] ++ cString msg.realm ++ [colon] ++ password
        (md5 (key.take 255)).toList
      | .shortTerm => password
    let buf := setHeaderLength msg.buf (headerLength + 24)
    match hmacSha1 buf password with
    | none => (false, { msg with buf := buf })
    | some mac =>
      let buf := buf ++ (bigEndian16 StunAttrType.messageIntegrity.val ++ bigEndian16 20 ++ mac.toList)
      let buf := setHeaderLength buf (headerLength + 24 + 8)
      let fingerprint := stunCalculateFingerprint buf
      (true, { msg with
        buf := buf ++ (bigEndian16 StunAttrType.fingerprint.val ++ bigEndian16 4 ++ fingerprint) })

def stunMsgAddFingerprint (msg : StunMessage) : Bool × StunMessage :=
  if msg.size > stunAttrBufSize - sizeofStunAttribute - 4 then
    (false, msg)
  else
    let buf := setHeaderLength msg.buf (headerLength msg.buf + BitVec.ofNat 16 (sizeofStunAttribute + 4))
    let fingerprint := stunCalculateFingerprint buf
    (true, { msg with
      buf := buf ++ (bigEndian16 StunAttrType.fingerprint.val ++ bigEndian16 4 ++ fingerprint) })

/-
What the first loop of `stun_msg_is_valid` has come across, with the offsets.
-/
structure IntegrityScan where
  mi : Option (Nat × List Byte) := none
  fingerprint : Option (Nat × List Byte) := none
deriving DecidableEq

def stunScanAttr (messageSize : Nat) (scan : IntegrityScan) (attr : StunAttribute) : Option IntegrityScan :=
  if attr.type = StunAttrType.messageIntegrity.val then
    if attr.length.toNat ≠ 20 ∨ scan.mi.isSome then
      none
    else
      some { scan with mi := some (attr.pos, attr.value) }
  else if attr.type = StunAttrType.fingerprint.val then
    if attr.length.toNat ≠ 4 ∨ scan.fingerprint.isSome ∨ attr.next ≠ messageSize then
      none
    else
      some { scan with fingerprint := some (attr.pos, attr.value) }
  else
    some scan

def fingerprintMatches (buf : List Byte) (fingerprint : Option (Nat × List Byte)) : Bool :=
  match fingerprint with
  | none => true
  | some (offset, received) => stunCalculateFingerprint (buf.take offset) = received

/-
The length in the header ends with MESSAGE-INTEGRITY while the digest is made.
-/
def integrityMatches (buf password : List Byte) (offset : Nat) (received : List Byte) : Bool :=
  let length := BitVec.ofNat 16 (offset + sizeofStunAttribute + 20 - sizeofStunHeader)
  match hmacSha1 ((setHeaderLength buf length).take offset) password with
  | none => false
  | some calculated => calculated.toList = received

def stunMsgIsValid (buf password : List Byte) : Bool :=
  if buf.length < sizeofStunHeader ∨ buf.length > stunAttrBufSize ∨ !stunProbe buf then
    false
  else if sizeofStunHeader + (headerLength buf).toNat ≠ buf.length then
    false
  else
    match stunForEachAttr (stunScanAttr buf.length) buf sizeofStunHeader {} with
    | none => false
    | some scan =>
      match scan.mi with
      | none => false
      | some (offset, received) =>
        fingerprintMatches buf scan.fingerprint && integrityMatches hmacSha1 buf password offset received

end Integrity

end Peer

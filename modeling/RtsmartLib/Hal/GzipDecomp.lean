import RtsmartLib.Lib.Errno
import RtsmartLib.Lib.Machine
import RtsmartLib.Lib.Memory

/-!
This module contains the driver of the gzip engine: the buffers that it shares with the engine, the
checks of the header, and how a stream is brought into the form that the engine expects.
-/

namespace Gzip

open Lib Posix

/-
What the program must not do: read a stream at or past its length, or touch a mapping that is not there
or not that large.
-/
inductive Fault where
  | pastEnd
  | noMapping
  | overrun
  deriving DecidableEq, Repr

def drvGzipDecompDefaultSrcSize : BitVec 32 := 256 * 1024

def drvGzipDecompDefaultDstSize : BitVec 32 := 1 * 1024 * 1024

def drvGzipDecompNodeSize : BitVec 32 := 128 * 1024

def drvGzipDecompAlignNode (size : BitVec 32) : BitVec 32 :=
  (size + drvGzipDecompNodeSize - 1) &&& ~~~(drvGzipDecompNodeSize - 1)

/--
A mapping that the driver shares with the engine: what the program sees, and what is in the memory
behind its cache.
-/
structure Mapping where
  phy : BitVec 64
  size : Nat
  virt : Memory
  ram : Memory

/-
How an allocation is answered: a failure with its code, or a mapping with whatever is in it.
-/
abbrev MmzAnswer := Except { ret : Int // ret ≠ 0 } (BitVec 64 × Memory × Memory)

structure GzipBuffer where
  mapping : Option Mapping
  allocSize : BitVec 32

def drvGzipDecompResizeBuffer (buffer : GzipBuffer) (size : BitVec 32) (answer : MmzAnswer)
    : Int × GzipBuffer :=
  if size = 0 then
    (-einval.1, buffer)
  else if buffer.mapping.isSome ∧ buffer.allocSize = size then
    (0, buffer)
  else
    match answer with
    | .error ret => (ret.1, buffer)
    | .ok (phy, virt, ram) => (0, ⟨some ⟨phy, size.toNat, virt, ram⟩, size⟩)

/--
A stream that the caller has in its memory.
-/
structure Input where
  bytes : List Byte
  length_lt : bytes.length < 2 ^ 32

def Input.len (src : Input) : BitVec 32 :=
  BitVec.ofNat 32 src.bytes.length

def drvGzipDecompValidateHeader (src : Option Input) : Int :=
  match src with
  | none => -einval.1
  | some src =>
    let header := src.bytes
    if src.len < 18 then
      -einval.1
    else if header.getD 0 0 ≠ 0x1f ∨ header.getD 1 0 ≠ 0x8b then
      -einval.1
    else if header.getD 2 0 ≠ 0x09 then
      -enotsup.1
    else if header.getD 3 0 &&& 0xe0 ≠ 0 then
      -einval.1
    else
      0

def drvGzipDecompGetLe32 (data : List Byte) : BitVec 32 :=
  (data.getD 0 0).setWidth 32 ||| (data.getD 1 0).setWidth 32 <<< 8
    ||| (data.getD 2 0).setWidth 32 <<< 16 ||| (data.getD 3 0).setWidth 32 <<< 24

def emptyTail : List Byte :=
  [0x05, 0xc1, 0x81, 0x00, 0x00, 0x00, 0x00, 0x00,
    0x10, 0xff, 0xd5, 0x08, 0x00, 0x00, 0x00, 0x00,
    0x00, 0x00, 0x00, 0x00]

def drvGzipDecompValidateEmptyStream (stream : Memory) (streamLen : Nat) : Int :=
  if streamLen ≠ 10 + emptyTail.length ∨ readBytes stream 10 emptyTail.length ≠ emptyTail then
    -einval.1
  else
    0

inductive StripError where
  | pastEnd
  | malformed
  deriving DecidableEq, Repr

/-
A byte of the stream. Reading at or past the length is an error of its own.
-/
def readAt (buf : Memory) (len off : Nat) : Except StripError Byte :=
  if off < len then .ok (buf off) else .error .pastEnd

def sub32 (a b : Nat) : Nat :=
  (a + 2 ^ 32 - b) % 2 ^ 32

/-
`FEXTRA`
-/
def skipExtra (buf : Memory) (len off : Nat) : Except StripError Nat :=
  if sub32 len off < 2 then
    .error .malformed
  else do
    let lo ← readAt buf len off
    let hi ← readAt buf len (uint32 (off + 1))
    let xlen := lo.toNat ||| hi.toNat <<< 8
    let off := uint32 (off + 2)
    if xlen > sub32 len off then
      .error .malformed
    else
      return uint32 (off + xlen)

/-
The loop of `FNAME` and `FCOMMENT`. It ends at the length at the latest, so that there are enough steps
for it.
-/
def scanString (buf : Memory) (len steps off : Nat) : Except StripError Nat :=
  match steps with
  | 0 => .ok off
  | steps + 1 =>
    if off < len then do
      let byte ← readAt buf len off
      if byte ≠ 0 then
        scanString buf len steps (uint32 (off + 1))
      else
        return off
    else
      .ok off

def skipString (buf : Memory) (len off : Nat) : Except StripError Nat := do
  let off ← scanString buf len (len - off) off
  if off = len then
    .error .malformed
  else
    return uint32 (off + 1)

/-
`FHCRC`
-/
def skipHcrc (len off : Nat) : Except StripError Nat :=
  if sub32 len off < 2 then
    .error .malformed
  else
    .ok (uint32 (off + 2))

def skipExtras (buf : Memory) (len : Nat) (flg : Byte) : Except StripError Nat := do
  let off := 10
  let off ← (if flg &&& 0x04 ≠ 0 then skipExtra buf len off else pure off)
  let off ← (if flg &&& 0x08 ≠ 0 then skipString buf len off else pure off)
  let off ← (if flg &&& 0x10 ≠ 0 then skipString buf len off else pure off)
  (if flg &&& 0x02 ≠ 0 then skipHcrc len off else pure off)

/-
The returned length is 0 if the header is malformed.
-/
def drvGzipDecompStripHeaderExtras (buf : Memory) (len : Nat) : Except Fault (Nat × Memory) :=
  match readAt buf len 3 with
  | .error _ => .error .pastEnd
  | .ok flg =>
    if flg = 0 then
      .ok (len, buf)
    else
      match skipExtras buf len flg with
      | .error .malformed => .ok (0, buf)
      | .error .pastEnd => .error .pastEnd
      | .ok off =>
        let rest := sub32 len off
        if rest < 8 then
          .ok (0, buf)
        else if off + rest > len then
          .error .pastEnd
        else
          let buf := writeBytes 3 [0] buf
          .ok (uint32 (10 + rest), writeBytes 10 (readBytes buf off rest) buf)

structure GzipInst where
  fd : Int
  src : GzipBuffer
  dst : GzipBuffer

/-
What the environment answers to `drv_gzip_decomp_open`.
-/
structure OpenAnswers where
  calloc : Bool
  fd : Except Errno Nat
  src : MmzAnswer
  dst : MmzAnswer

/-
`inst` says whether the caller has a place for the instance.
-/
def drvGzipDecompOpen (inst : Bool) (answers : OpenAnswers) : Int × Option GzipInst :=
  if inst = false then
    (-einval.1, none)
  else if answers.calloc = false then
    (-enomem.1, none)
  else
    match answers.fd with
    | .error errno => (-errno.1, none)
    | .ok fd =>
      let src : GzipBuffer := ⟨none, drvGzipDecompDefaultSrcSize⟩
      let dst : GzipBuffer := ⟨none, drvGzipDecompDefaultDstSize⟩
      let (ret, src) := drvGzipDecompResizeBuffer src src.allocSize answers.src
      if ret ≠ 0 then
        (ret, none)
      else
        let (ret, dst) := drvGzipDecompResizeBuffer dst dst.allocSize answers.dst
        if ret ≠ 0 then
          (ret, none)
        else
          (0, some ⟨fd, src, dst⟩)

def drvGzipDecompSetSrcAllocSize (inst : GzipInst) (size : BitVec 32) (answer : MmzAnswer)
    : Int × GzipInst :=
  if inst.fd < 0 then
    (-einval.1, inst)
  else
    let (ret, src) := drvGzipDecompResizeBuffer inst.src size answer
    (ret, { inst with src })

def drvGzipDecompSetDstAllocSize (inst : GzipInst) (size : BitVec 32) (answer : MmzAnswer)
    : Int × GzipInst :=
  if inst.fd < 0 then
    (-einval.1, inst)
  else
    let (ret, dst) := drvGzipDecompResizeBuffer inst.dst size answer
    (ret, { inst with dst })

structure GzipDecompArgs where
  srcPhys : BitVec 64
  srcLen : BitVec 32
  dstPhys : BitVec 64
  dstLen : BitVec 32
  timeoutMs : BitVec 32

/-
A start of the engine: its arguments, and the buffers of the driver at that moment.
-/
structure EngineStart where
  args : GzipDecompArgs
  inst : GzipInst

def drvGzipDecompGunzipPhys (inst : GzipInst) (args : GzipDecompArgs) (ioctl : Int)
    : Int × Option EngineStart :=
  if inst.fd < 0 then (-einval.1, none) else (ioctl, some ⟨args, inst⟩)

def GzipBuffer.get (buffer : GzipBuffer) : Except Fault Mapping :=
  match buffer.mapping with
  | none => .error .noMapping
  | some mapping => .ok mapping

def GzipBuffer.set (buffer : GzipBuffer) (mapping : Mapping) : GzipBuffer :=
  { buffer with mapping := some mapping }

def Mapping.store (m : Mapping) (off : Nat) (bytes : List Byte) : Except Fault Mapping :=
  if off + bytes.length ≤ m.size then
    .ok { m with virt := writeBytes off bytes m.virt }
  else
    .error .overrun

/-
`kd_mpi_sys_mmz_flush_cache`
-/
def Mapping.flush (m : Mapping) (n : Nat) : Except Fault Mapping :=
  if n ≤ m.size then
    .ok { m with ram := writeBytes 0 (readBytes m.virt 0 n) m.ram }
  else
    .error .overrun

/-
`kd_mpi_sys_mmz_invalidate_cache`
-/
def Mapping.invalidate (m : Mapping) (n : Nat) : Except Fault Mapping :=
  if n ≤ m.size then
    .ok { m with virt := writeBytes 0 (readBytes m.ram 0 n) m.virt }
  else
    .error .overrun

/-
How `drv_gzip_decomp_gunzip` is called, and what the environment answers in the course of it. The engine
answers with what `ioctl` returns and with what is in the memory of the destination after it.
-/
structure GunzipCall where
  src : Option Input
  dst : Bool
  dstLen : BitVec 32
  timeoutMs : BitVec 32
  srcMmz : MmzAnswer
  dstMmz : MmzAnswer
  engine : Int × Memory

structure GunzipResult where
  inst : GzipInst
  ret : Int
  start : Option EngineStart
  output : List Byte

def GunzipResult.fail (inst : GzipInst) (ret : Int) : GunzipResult :=
  ⟨inst, ret, none, []⟩

/-
The checks before anything is touched.
-/
def checkCall (call : GunzipCall) : Except Int Input :=
  let ret := drvGzipDecompValidateHeader call.src
  match call.src with
  | none => .error ret
  | some src =>
    if ret ≠ 0 then
      .error ret
    else if drvGzipDecompGetLe32 (src.bytes.drop (src.bytes.length - 4)) ≠ call.dstLen then
      .error (-einval.1)
    else if call.dstLen ≠ 0 ∧ call.dst = false then
      .error (-einval.1)
    else
      .ok src

/-
How the stream gets into the source mapping. The returned length is 0 if its header is malformed.
-/
def loadStream (m : Mapping) (src : Input) (srcDmaSize : Nat) : Except Fault (Nat × Mapping) := do
  let m ← m.store 0 (List.replicate srcDmaSize 0)
  let m ← m.store 0 src.bytes
  let m ← m.store 2 [0x08]
  let (srcLen, virt) ← drvGzipDecompStripHeaderExtras m.virt src.bytes.length
  let m := { m with virt }
  if srcLen = 0 then
    .ok (0, m)
  else do
    let m ← m.store srcLen (List.replicate (sub32 srcDmaSize srcLen) 0)
    .ok (srcLen, m)

/-
What becomes of the destination after the engine has been asked to run.
-/
def receive (inst : GzipInst) (call : GunzipCall) (ret : Int) (start : Option EngineStart) (dst : Mapping)
    : Except Fault GunzipResult :=
  if ret = 0 then do
    let dst ← dst.invalidate call.dstLen.toNat
    .ok ⟨{ inst with dst := inst.dst.set dst }, ret, start, readBytes dst.virt 0 call.dstLen.toNat⟩
  else
    .ok ⟨{ inst with dst := inst.dst.set dst }, ret, start, []⟩

def transfer (inst : GzipInst) (call : GunzipCall) (srcDmaSize srcLen : BitVec 32)
    : Except Fault GunzipResult := do
  let src ← inst.src.get
  let src ← src.flush srcDmaSize.toNat
  let inst := { inst with src := inst.src.set src }
  let dst ← inst.dst.get
  let args : GzipDecompArgs := ⟨src.phy, srcLen, dst.phy, call.dstLen, call.timeoutMs⟩
  let (ret, start) := drvGzipDecompGunzipPhys inst args call.engine.1
  receive inst call ret start { dst with ram := call.engine.2 }

def runEngine (inst : GzipInst) (call : GunzipCall) (srcDmaSize srcLen : BitVec 32)
    : Except Fault GunzipResult :=
  let dstDmaSize := drvGzipDecompAlignNode call.dstLen
  if dstDmaSize < call.dstLen then
    .ok (GunzipResult.fail inst (-eoverflow.1))
  else
    let (ret, inst) :=
      if dstDmaSize > inst.dst.allocSize then
        drvGzipDecompSetDstAllocSize inst dstDmaSize call.dstMmz
      else
        (0, inst)
    if ret ≠ 0 then
      .ok (GunzipResult.fail inst ret)
    else
      transfer inst call srcDmaSize srcLen

def drvGzipDecompGunzip (inst : GzipInst) (call : GunzipCall) : Except Fault GunzipResult :=
  if inst.fd < 0 then
    .ok (GunzipResult.fail inst (-einval.1))
  else
    match checkCall call with
    | .error ret => .ok (GunzipResult.fail inst ret)
    | .ok src =>
      let srcDmaSize := drvGzipDecompAlignNode src.len
      if srcDmaSize < src.len then
        .ok (GunzipResult.fail inst (-eoverflow.1))
      else
        let (ret, inst) :=
          if srcDmaSize > inst.src.allocSize then
            drvGzipDecompSetSrcAllocSize inst srcDmaSize call.srcMmz
          else
            (0, inst)
        if ret ≠ 0 then
          .ok (GunzipResult.fail inst ret)
        else do
          let m ← inst.src.get
          let (srcLen, m) ← loadStream m src srcDmaSize.toNat
          let inst := { inst with src := inst.src.set m }
          if srcLen = 0 then
            .ok (GunzipResult.fail inst (-einval.1))
          else if call.dstLen = 0 then
            .ok (GunzipResult.fail inst (drvGzipDecompValidateEmptyStream m.virt srcLen))
          else
            runEngine inst call srcDmaSize (BitVec.ofNat 32 srcLen)

inductive GzipOp where
  | setSrcAllocSize (size : BitVec 32) (answer : MmzAnswer)
  | setDstAllocSize (size : BitVec 32) (answer : MmzAnswer)
  | gunzip (call : GunzipCall)

/-
An instance that meets a fault is left as it is; the fault is what one sees of it.
-/
def gzipMachine : Machine GzipInst GzipOp (Except Fault GunzipResult) where
  step inst op :=
    let res : Except Fault GunzipResult :=
      match op with
      | .setSrcAllocSize size answer =>
        let (ret, inst) := drvGzipDecompSetSrcAllocSize inst size answer
        .ok ⟨inst, ret, none, []⟩
      | .setDstAllocSize size answer =>
        let (ret, inst) := drvGzipDecompSetDstAllocSize inst size answer
        .ok ⟨inst, ret, none, []⟩
      | .gunzip call => drvGzipDecompGunzip inst call
    match res with
    | .ok res => (res.inst, .ok res)
    | .error fault => (inst, .error fault)

end Gzip

import RtsmartLib.Lib.Errno
import RtsmartLib.Lib.Machine
import RtsmartLib.Lib.MemoryLayout
import Mathlib.Data.BitVec
import Mathlib.Logic.Function.Basic

/-!
This module contains the FFT driver: its two buffers and how they are resized, how samples are packed into
words and unpacked again, and a run.
-/

namespace Fft

open Lib Posix

def fftMode : BitVec 32 := 0
def ifftMode : BitVec 32 := 1

def riri : BitVec 32 := 0
def rrrr : BitVec 32 := 1
def rrIi : BitVec 32 := 2

def ririOut : BitVec 32 := 0
def rrIiOut : BitVec 32 := 1

structure DrvFftCfg where
  point : BitVec 32
  mode : BitVec 32
  inputMode : BitVec 32
  outputMode : BitVec 32
  shift : BitVec 16
  timeoutMs : BitVec 32

/-
A mapped buffer: how many bytes of it there are, and what they are.
-/
structure Mapping where
  size : Nat
  bytes : Memory

structure FftBuffer where
  mapping : Option Mapping
  allocSize : BitVec 32

structure DrvFftInst where
  fd : Int
  input : FftBuffer
  output : FftBuffer

def drvFftMaxDmaBytes : BitVec 32 := 4096 * 2 * 2

def drvFftPointValid (point : BitVec 32) : Bool :=
  match point with
  | 64 => true
  | 128 => true
  | 256 => true
  | 512 => true
  | 1024 => true
  | 2048 => true
  | 4096 => true
  | _ => false

def drvFftInputBytes (cfg : DrvFftCfg) : BitVec 32 :=
  let bytes := cfg.point * 2 * 2
  if cfg.inputMode = rrrr then bytes / 2 else bytes

def drvFftOutputBytes (cfg : DrvFftCfg) : BitVec 32 :=
  cfg.point * 2 * 2

/-
What `kd_mpi_sys_mmz_alloc_cached` answers: an error, or a buffer of the size asked for with these bytes in it.
-/
inductive MmzAnswer where
  | error (ret : { ret : Int // ret ≠ 0 })
  | ok (bytes : Memory)

def drvFftResizeBuffer (buffer : FftBuffer) (size : BitVec 32) (answer : MmzAnswer) : Int × FftBuffer :=
  if size = 0 then (-einval, buffer)
  else if buffer.mapping.isSome ∧ buffer.allocSize = size then (0, buffer)
  else
    match answer with
    | .error ret => (ret, buffer)
    | .ok bytes => (0, ⟨some ⟨size.toNat, bytes⟩, size⟩)

structure OpenAnswers where
  calloc : Bool
  fd : Int
  errno : Int
  input : MmzAnswer
  output : MmzAnswer

def drvFftOpen (answers : OpenAnswers) : Int × Option DrvFftInst :=
  if !answers.calloc then (-enomem, none)
  else if answers.fd < 0 then (-answers.errno, none)
  else
    let r := drvFftResizeBuffer ⟨none, drvFftMaxDmaBytes⟩ drvFftMaxDmaBytes answers.input
    if r.1 ≠ 0 then (r.1, none)
    else
      let r' := drvFftResizeBuffer ⟨none, drvFftMaxDmaBytes⟩ drvFftMaxDmaBytes answers.output
      if r'.1 ≠ 0 then (r'.1, none)
      else (0, some ⟨answers.fd, r.2, r'.2⟩)

def drvFftSetInputAllocSize (inst : DrvFftInst) (size : BitVec 32) (answer : MmzAnswer)
    : Int × DrvFftInst :=
  if inst.fd < 0 then (-einval, inst)
  else
    let r := drvFftResizeBuffer inst.input size answer
    (r.1, { inst with input := r.2 })

def drvFftSetOutputAllocSize (inst : DrvFftInst) (size : BitVec 32) (answer : MmzAnswer)
    : Int × DrvFftInst :=
  if inst.fd < 0 then (-einval, inst)
  else
    let r := drvFftResizeBuffer inst.output size answer
    (r.1, { inst with output := r.2 })

abbrev Samples := Nat → BitVec 16

/-
The vectors of a run; a pointer may be `NULL`. Those for the result hold what was in them before.
-/
structure Vectors where
  inReal : Option Samples
  inImag : Option Samples
  outReal : Option Samples
  outImag : Option Samples

def drvFftValidate (cfg : Option DrvFftCfg) (v : Vectors) : Int :=
  match cfg with
  | none => -einval
  | some cfg =>
    if v.inReal.isNone ∨ v.outReal.isNone ∨ v.outImag.isNone then -einval
    else if !drvFftPointValid cfg.point then -einval
    else if cfg.mode > ifftMode ∨ cfg.inputMode > rrIi ∨ cfg.outputMode > rrIiOut then -einval
    else if cfg.inputMode ≠ rrrr ∧ v.inImag.isNone then -einval
    else 0

/-
The values of an index that a loop takes in steps from zero up.
-/
def indices (point step : Nat) : List Nat :=
  (List.range ((point + step - 1) / step)).map (· * step)

def packWord (d c b a : BitVec 16) : BitVec 64 :=
  (d.setWidth 64 <<< 48) ||| (c.setWidth 64 <<< 32) ||| (b.setWidth 64 <<< 16) ||| a.setWidth 64

/-
A write to a buffer: where it begins, and its bytes.
-/
abbrev Write := Nat × List Byte

def storeWord (index : Nat) (value : BitVec 64) : Write :=
  (index * 8, Layout.word64.write value)

def copySamples (offset point : Nat) (src : Samples) : Write :=
  (offset, Layout.word16.writeAll ((List.range point).map src))

/-
The writes to `dst` in their order.
-/
def drvFftPackInput (cfg : DrvFftCfg) (inReal inImag : Samples) : List Write :=
  let point := cfg.point.toNat
  if cfg.inputMode = riri then
    (indices point 2).map fun index =>
      storeWord (index / 2)
        (packWord (inImag (index + 1)) (inReal (index + 1)) (inImag index) (inReal index))
  else if cfg.inputMode = rrrr then
    [copySamples 0 point inReal]
  else if cfg.inputMode = rrIi then
    [copySamples 0 point inReal, copySamples (point * 2) point inImag]
  else
    ((indices point 4).map fun index =>
      storeWord (index / 4)
        (packWord (inReal (index + 3)) (inReal (index + 2)) (inReal (index + 1)) (inReal index)))
    ++ (indices point 4).map fun index =>
      storeWord (point / 4 + index / 4)
        (packWord (inImag (index + 3)) (inImag (index + 2)) (inImag (index + 1)) (inImag index))

/-
The result vectors, and the reads of the output buffer that they are filled from: where a read begins and how
many bytes it takes.
-/
structure Unpacked where
  outReal : Samples
  outImag : Samples
  reads : List (Nat × Nat)

def Unpacked.pair (src : Memory) (u : Unpacked) (index : Nat) : Unpacked :=
  let value := Layout.word64.load src (index * 8)
  let outReal := Function.update u.outReal (index * 2) ((value &&& 0xffff).setWidth 16)
  let outImag := Function.update u.outImag (index * 2) ((value >>> 16 &&& 0xffff).setWidth 16)
  let outReal := Function.update outReal (index * 2 + 1) ((value >>> 32 &&& 0xffff).setWidth 16)
  let outImag := Function.update outImag (index * 2 + 1) ((value >>> 48 &&& 0xffff).setWidth 16)
  ⟨outReal, outImag, u.reads ++ [(index * 8, 8)]⟩

def loadSamples (src : Memory) (offset point : Nat) (dst : Samples) : Samples :=
  fun i => if i < point then Layout.word16.load src (offset + i * 2) else dst i

def drvFftUnpackOutput (cfg : DrvFftCfg) (src : Memory) (outReal outImag : Samples) : Unpacked :=
  let point := cfg.point.toNat
  if cfg.outputMode = ririOut then
    (List.range (point / 2)).foldl (Unpacked.pair src) ⟨outReal, outImag, []⟩
  else
    ⟨loadSamples src 0 point outReal, loadSamples src (point * 2) point outImag,
      [(0, point * 2), (point * 2, point * 2)]⟩

structure KFftRunRequest where
  cfg : DrvFftCfg
  inputLen : BitVec 32
  outputLen : BitVec 32

/-
What the calls of a run answer, and what the device makes of the two buffers.
-/
structure RunAnswers where
  flushInput : Int
  flushOutput : Int
  ioctl : Int
  errno : Int
  device : KFftRunRequest → Memory → Memory → Memory
  invalidate : Int

inductive Side where
  | input
  | output

/-
A part of a buffer that is read or written.
-/
structure Access where
  side : Side
  offset : Nat
  length : Nat

structure RunResult where
  ret : Int
  inst : DrvFftInst
  outReal : Option Samples
  outImag : Option Samples
  accesses : List Access

def applyWrites (mem : Memory) (writes : List Write) : Memory :=
  writes.foldl (fun mem w => writeBytes w.1 w.2 mem) mem

/-
A mapping that is not there has no bytes.
-/
def FftBuffer.map (buffer : FftBuffer) : Mapping :=
  buffer.mapping.getD ⟨0, fun _ => 0⟩

def FftBuffer.store (buffer : FftBuffer) (bytes : Memory) : FftBuffer :=
  { buffer with mapping := buffer.mapping.map fun m => { m with bytes := bytes } }

def drvFftRun (inst : DrvFftInst) (cfg : Option DrvFftCfg) (v : Vectors) (answers : RunAnswers)
    : RunResult :=
  let rejected (ret : Int) : RunResult := ⟨ret, inst, v.outReal, v.outImag, []⟩
  if inst.fd < 0 then rejected (-einval)
  else
    let ret := drvFftValidate cfg v
    if ret ≠ 0 then rejected ret
    else
      match cfg, v.inReal, v.outReal, v.outImag with
      | some cfg, some inReal, some outReal, some outImag =>
        let req : KFftRunRequest := ⟨cfg, drvFftInputBytes cfg, drvFftOutputBytes cfg⟩
        if req.inputLen > inst.input.allocSize ∨ req.outputLen > inst.output.allocSize then
          rejected (-enomem)
        else
          let writes := drvFftPackInput cfg inReal (v.inImag.getD fun _ => 0)
          let input := applyWrites inst.input.map.bytes writes
          let zeros := List.replicate req.outputLen.toNat 0
          let output := writeBytes 0 zeros inst.output.map.bytes
          let accesses := writes.map (fun w => ⟨.input, w.1, w.2.length⟩)
            ++ [⟨.output, 0, req.outputLen.toNat⟩]
          let inst := { inst with input := inst.input.store input, output := inst.output.store output }
          if answers.flushInput ≠ 0 then
            ⟨answers.flushInput, inst, outReal, outImag, accesses⟩
          else if answers.flushOutput ≠ 0 then
            ⟨answers.flushOutput, inst, outReal, outImag, accesses⟩
          else if answers.ioctl < 0 then
            ⟨if answers.errno ≠ 0 then -answers.errno else answers.ioctl, inst, outReal, outImag, accesses⟩
          else
            let output := answers.device req input output
            let inst := { inst with output := inst.output.store output }
            if answers.invalidate ≠ 0 then
              ⟨answers.invalidate, inst, outReal, outImag, accesses⟩
            else
              let u := drvFftUnpackOutput cfg output outReal outImag
              ⟨0, inst, u.outReal, u.outImag,
                accesses ++ u.reads.map fun r => ⟨.output, r.1, r.2⟩⟩
      | _, _, _, _ => rejected (-einval)

inductive FftOp where
  | setInputAllocSize (size : BitVec 32) (answer : MmzAnswer)
  | setOutputAllocSize (size : BitVec 32) (answer : MmzAnswer)
  | run (cfg : Option DrvFftCfg) (v : Vectors) (answers : RunAnswers)

structure FftObs where
  ret : Int
  outReal : Option Samples
  outImag : Option Samples
  accesses : List Access

def fftMachine : Machine DrvFftInst FftOp FftObs :=
  ⟨fun inst op =>
    match op with
    | .setInputAllocSize size answer =>
      let r := drvFftSetInputAllocSize inst size answer
      (r.2, ⟨r.1, none, none, []⟩)
    | .setOutputAllocSize size answer =>
      let r := drvFftSetOutputAllocSize inst size answer
      (r.2, ⟨r.1, none, none, []⟩)
    | .run cfg v answers =>
      let r := drvFftRun inst cfg v answers
      (r.inst, ⟨r.ret, r.outReal, r.outImag, r.accesses⟩)⟩

end Fft

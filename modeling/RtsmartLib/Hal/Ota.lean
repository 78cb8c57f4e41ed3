import RtsmartLib.Lib.Errno
import RtsmartLib.Lib.Memory
import RtsmartLib.Lib.Transmit

/-!
This module contains the update of the firmware over the air: an image is read in chunks, and each chunk is
written to the update device until all of it is taken.
-/

namespace Ota

open Lib Posix

/-
A `write` takes no more than what it is given, and a `read` returns no more than there is room for and than
is left of the image.
-/
inductive WriteResult where
  | wrote (count : Nat)
  | error (errno : Errno)
  deriving DecidableEq

inductive ReadResult where
  | got (count : Nat)
  | error (errno : Errno)
  deriving DecidableEq

structure K230OtaCtx where
  fd : Int
  totalWritten : Nat

/-
How the calls that come before the first read end.
-/
structure OtaSetup where
  bufAllocated : Bool
  imageOpen : Except Errno Nat
  ctxAllocated : Bool
  deviceOpen : Except Errno Nat
  deviceSeek : Except Errno Unit

def k230OtaCreate (setup : OtaSetup) : Option K230OtaCtx :=
  if setup.ctxAllocated then
    match setup.deviceOpen with
    | .error _ => none
    | .ok fd =>
      match setup.deviceSeek with
      | .error _ => none
      | .ok _ => some ⟨fd, 0⟩
  else
    none

/-
`target` is what the device has taken from the start of the partition on. A call that waits for the result of
a `write` has still to write `p`.
-/
inductive UpdateRun where
  | returned (ret : Int) (ctx : Option K230OtaCtx) (target : List Byte) (writes : List WriteResult)
  | waiting (p target : List Byte)

def k230OtaUpdateLoop (ctx : K230OtaCtx) (size : Nat) (p target : List Byte) (writes : List WriteResult)
    : UpdateRun :=
  match p, writes with
  | [], writes => .returned 0 (some { ctx with totalWritten := ctx.totalWritten + size }) target writes
  | b :: p, [] => .waiting (b :: p) target
  | b :: p, .error errno :: writes =>
    if errno = eintr then
      k230OtaUpdateLoop ctx size (b :: p) target writes
    else
      .returned (-1) (some ctx) target writes
  | b :: p, .wrote n :: writes =>
    k230OtaUpdateLoop ctx size ((b :: p).drop n) (target ++ (b :: p).take n) writes

/-
Both pointers may be null.
-/
def k230OtaUpdate (ctx : Option K230OtaCtx) (buf : Option (List Byte)) (target : List Byte)
    (writes : List WriteResult) : UpdateRun :=
  match ctx, buf with
  | some ctx, some buf =>
    if ctx.fd < 0 ∨ buf.length = 0 then
      .returned (-1) (some ctx) target writes
    else
      k230OtaUpdateLoop ctx buf.length buf target writes
  | ctx, _ => .returned (-1) ctx target writes

/-
A call that waits for the result of a `read` has not read `rest` of the image yet.
-/
inductive FileRun where
  | returned (ret : Int) (target : List Byte) (writes : List WriteResult)
  | reading (rest target : List Byte)
  | writing (p rest target : List Byte)

def k230OtaWriteFileLoop (chunkSize : Nat) (ctx : Option K230OtaCtx) (rest target : List Byte)
    (writes : List WriteResult) (reads : List ReadResult) : FileRun :=
  match reads with
  | [] => .reading rest target
  | .error _ :: _ => .returned (-1) target writes
  | .got count :: reads =>
    let rd := rest.take (min count chunkSize)
    if rd.length > 0 then
      match k230OtaUpdate ctx (some rd) target writes with
      | .waiting p target => .writing p (rest.drop (min count chunkSize)) target
      | .returned ret ctx target writes =>
        if ret < 0 then
          .returned (-1) target writes
        else
          k230OtaWriteFileLoop chunkSize ctx (rest.drop (min count chunkSize)) target writes reads
    else
      .returned 0 target writes

/-
The path of the image may be null. The device takes nothing before the first write.
-/
def k230OtaWriteFile (setup : OtaSetup) (image : Option (List Byte)) (chunkSize : Nat)
    (reads : List ReadResult) (writes : List WriteResult) : FileRun :=
  match image with
  | none => .returned (-1) [] writes
  | some image =>
    if chunkSize = 0 then .returned (-1) [] writes
    else if setup.bufAllocated then
      match setup.imageOpen with
      | .error _ => .returned (-1) [] writes
      | .ok _ =>
        match k230OtaCreate setup with
        | none => .returned (-1) [] writes
        | some ctx => k230OtaWriteFileLoop chunkSize (some ctx) image [] writes reads
    else
      .returned (-1) [] writes

/-
What the calls do on endless streams of results, of which a call that has returned has used the first ones
only.
-/
structure UpdateArgs where
  ctx : Option K230OtaCtx
  buf : Option (List Byte)
  target : List Byte

def UpdateArgs.run (args : UpdateArgs) (writes : Stream' WriteResult) (m : Nat) : UpdateRun :=
  k230OtaUpdate args.ctx args.buf args.target (writes.take m)

structure FileArgs where
  setup : OtaSetup
  image : Option (List Byte)
  chunkSize : Nat

def FileArgs.run (args : FileArgs) (reads : Stream' ReadResult) (writes : Stream' WriteResult) (n m : Nat)
    : FileRun :=
  k230OtaWriteFile args.setup args.image args.chunkSize (reads.take n) (writes.take m)

/--
The call returns, and if it returns zero, the device has taken the buffer behind what it had taken before.
-/
def UpdateWrites (args : UpdateArgs) (writes : Stream' WriteResult) : Prop :=
  (∃ m ret ctx target rest, args.run writes m = .returned ret ctx target rest)
    ∧ ∀ m ctx target rest, args.run writes m = .returned 0 ctx target rest →
      ∃ buf, args.buf = some buf ∧ target = args.target ++ buf

/--
The call returns, and if it returns zero, the device has taken the image.
-/
def FileWrites (args : FileArgs) (reads : Stream' ReadResult) (writes : Stream' WriteResult) : Prop :=
  (∃ n m ret target rest, args.run reads writes n m = .returned ret target rest)
    ∧ ∀ n m target rest, args.run reads writes n m = .returned 0 target rest → args.image = some target

def ZeroFrom (writes : Stream' WriteResult) (m : Nat) : Prop :=
  ∀ k, m ≤ k → writes.get k = .wrote 0

/-
From a write of the call on each result is a count of zero.
-/
def UpdateStalls (args : UpdateArgs) (writes : Stream' WriteResult) : Prop :=
  ∃ m p target, args.run writes m = .waiting p target ∧ ZeroFrom writes m

def FileStalls (args : FileArgs) (reads : Stream' ReadResult) (writes : Stream' WriteResult) : Prop :=
  ∃ n m p rest target, args.run reads writes n m = .writing p rest target ∧ ZeroFrom writes m

/-
A read of the call returns zero although some of the image is left.
-/
def ReadEndsEarly (args : FileArgs) (reads : Stream' ReadResult) (writes : Stream' WriteResult) : Prop :=
  ∃ n m rest target, args.run reads writes n m = .reading rest target ∧ rest ≠ [] ∧ reads.get n = .got 0

end Ota

import RtsmartLib.Lib.Machine
import RtsmartLib.Modem.Capture

/-!
This module contains the AT command channel of the modem: the thread that reads the port, the commands
that are sent through it one at a time, and a modem that answers them after any delay.
-/

namespace Modem

open Lib

/-
What the modem sent a byte for: a command, of which it may be the final result, or nothing.
-/
inductive Origin where
  | answer (number : Nat) (result : Option Bool)
  | unsolicited
deriving DecidableEq

structure RxByte where
  byte : Byte
  origin : Origin
deriving DecidableEq

def RxByte.tag (origin : Origin) (text : List Byte) : List RxByte :=
  text.map (fun byte => ⟨byte, origin⟩)

def crLf : List Byte := [0x0d, 0x0a]

def okText : List Byte := [0x4f, 0x4b]

def errorText : List Byte := [0x45, 0x52, 0x52, 0x4f, 0x52]

def okCr : List Byte := okText ++ [0x0d]

def okLf : List Byte := okText ++ [0x0a]

/-
A command may be answered by text before its result. An error may be wrapped in more text, as in
`+CME ERROR: 3`.
-/
inductive ModemSend where
  | text (number : Nat) (text : List Byte)
  | ok (number : Nat)
  | error (number : Nat) (before after : List Byte)
  | unsolicited (text : List Byte)

structure AtCall where
  number : Nat
  cmd : List Byte
  respSize : Nat
deriving DecidableEq

/-
Where the reader thread is in its loop: before it looks whether the port is to be reopened, before it
forgets that, before it opens the port if that is closed, before it reads, and before it hands what it
has read to `at_capture`.
-/
inductive ReaderPc where
  | check
  | clear
  | open
  | read
  | capture (chunk : List RxByte)
deriving DecidableEq

/-
Where a caller of `at_cmd` is: it has written a part of its line, it waits for a result, or it is about
to return. `looked` is what had been captured when it found a result.
-/
inductive CallerPc where
  | idle
  | writing (call : AtCall) (off : Nat)
  | waiting (call : AtCall)
  | leaving (call : AtCall) (rc : Int) (looked : Option (List RxByte))

/--
The channel, and what the modem has still to answer and has answered with OK. `captured` are all the
bytes that were captured since the command in flight was started, also those that the buffer no longer
holds.
-/
structure AtState where
  atFd : Bool
  atReopen : Bool
  reader : ReaderPc
  atCapturing : Bool
  atBuf : List RxByte
  caller : CallerPc
  issued : Nat
  captured : List RxByte
  tty : List RxByte
  outstanding : List Nat
  answeredOk : List Nat

def AtState.init : AtState :=
  {
    atFd := false
    atReopen := false
    reader := .check
    atCapturing := false
    atBuf := []
    caller := .idle
    issued := 0
    captured := []
    tty := []
    outstanding := []
    answeredOk := []
  }

structure AtReturn where
  call : AtCall
  rc : Int
  looked : Option (List RxByte)
  resp : List Byte
deriving DecidableEq

/-
A C string ends at its first NUL.
-/
def cString (buf : List RxByte) : List RxByte :=
  buf.takeWhile (fun b => b.byte ≠ 0)

def bytesOf (buf : List RxByte) : List Byte :=
  buf.map RxByte.byte

def strstr (buf : List RxByte) (needle : List Byte) : Bool :=
  decide (needle <:+: bytesOf (cString buf))

/-
The modem answers only what it has got and not yet answered.
-/
def modemSend (s : AtState) (send : ModemSend) : AtState :=
  match send with
  | .text number text =>
    if number ∈ s.outstanding then
      { s with tty := s.tty ++ RxByte.tag (.answer number none) text }
    else
      s
  | .ok number =>
    if number ∈ s.outstanding then
      { s with
        tty := s.tty ++ RxByte.tag (.answer number (some true)) (crLf ++ okText ++ crLf)
        outstanding := s.outstanding.erase number
        answeredOk := number :: s.answeredOk
      }
    else
      s
  | .error number before after =>
    if number ∈ s.outstanding then
      { s with
        tty := s.tty
          ++ RxByte.tag (.answer number (some false)) (crLf ++ before ++ errorText ++ after ++ crLf)
        outstanding := s.outstanding.erase number
      }
    else
      s
  | .unsolicited text => { s with tty := s.tty ++ RxByte.tag .unsolicited text }

def atCaptureChunk (s : AtState) (chunk : List RxByte) : AtState :=
  if s.atCapturing then
    { s with atBuf := atCapture s.atBuf chunk, captured := s.captured ++ chunk }
  else
    s

def chunkSize : Nat := 128

inductive ReadOutcome where
  | bytes (n : Nat)
  | again
  | error

/-
One piece of the loop of `at_reader_fn`, between which the other thread may run. No lock is held from the
read to the capture, so a command may be started or looked at while the reader holds a chunk.
-/
def atReaderStep (s : AtState) (opens : Bool) (outcome : ReadOutcome) : AtState :=
  match s.reader with
  | .check => { s with atFd := if s.atReopen then false else s.atFd, reader := .clear }
  | .clear => { s with atReopen := false, reader := .open }
  | .open =>
    if s.atFd then
      { s with reader := .read }
    else if opens then
      { s with atFd := true, reader := .read }
    else
      { s with reader := .check }
  | .read =>
    match outcome with
    | .bytes n =>
      let chunk := s.tty.take (min n chunkSize)
      let tty := s.tty.drop (min n chunkSize)
      -- a read of nothing is no reason to capture
      if chunk = [] then { s with tty, reader := .check } else { s with tty, reader := .capture chunk }
    | .again => { s with reader := .check }
    | .error => { s with atFd := false, reader := .check }
  | .capture chunk => atCaptureChunk { s with reader := .check } chunk

inductive WriteOutcome where
  | wrote (n : Nat)
  | again
  | failed
  | deadline

/-
The line is the command and a carriage return.
-/
def lineLength (cmd : List Byte) : Nat :=
  cmd.length + 1

def atWriteAllStep (s : AtState) (call : AtCall) (off : Nat) (outcome : WriteOutcome) : AtState :=
  match outcome with
  | .wrote n =>
    if !s.atFd then
      s
    else if n = 0 then
      { s with caller := .leaving call (-1) none }
    else if off + n < lineLength call.cmd then
      { s with caller := .writing call (off + n) }
    else
      { s with caller := .waiting call, outstanding := s.outstanding ++ [call.number] }
  | .again => s
  | .failed | .deadline => { s with caller := .leaving call (-1) none }

/-
An error counts even if there is also an OK.
-/
def atResult (buf : List RxByte) : Int :=
  if strstr buf errorText then
    0
  else if strstr buf okCr || strstr buf okLf then
    1
  else
    -1

inductive AtEvent where
  | modem (send : ModemSend)
  | lose (n : Nat)
  | reader (opens : Bool) (outcome : ReadOutcome)
  | reopen
  | start (cmd : List Byte) (respSize : Nat)
  | write (outcome : WriteOutcome)
  | look
  | deadline
  | finish

def atCmdStart (s : AtState) (cmd : List Byte) (respSize : Nat) : AtState × Option AtReturn :=
  let call : AtCall := ⟨s.issued, cmd, respSize⟩
  let s := { s with issued := s.issued + 1 }
  if s.atFd then
    ({ s with atCapturing := true, atBuf := [], captured := [], caller := .writing call 0 }, none)
  else
    (s, some ⟨call, -1, none, []⟩)

def atCmdLook (s : AtState) (call : AtCall) : AtState :=
  let rc := atResult s.atBuf
  if 0 ≤ rc then
    { s with caller := .leaving call rc (some s.captured) }
  else
    s

def atCmdFinish (s : AtState) (call : AtCall) (rc : Int) (looked : Option (List RxByte))
    : AtState × Option AtReturn :=
  ({ s with atCapturing := false, caller := .idle },
    some ⟨call, rc, looked, (bytesOf (cString s.atBuf)).take (call.respSize - 1)⟩)

/-
An event that does not fit the place where the caller is changes nothing, a call that finds another one
in flight waits for it.
-/
def atStep (s : AtState) (event : AtEvent) : AtState × Option AtReturn :=
  match event, s.caller with
  | .modem send, _ => (modemSend s send, none)
  | .lose n, _ => ({ s with tty := s.tty.drop n }, none)
  | .reader opens outcome, _ => (atReaderStep s opens outcome, none)
  | .reopen, _ => ({ s with atReopen := true }, none)
  | .start cmd respSize, .idle => atCmdStart s cmd respSize
  | .write outcome, .writing call off => (atWriteAllStep s call off outcome, none)
  | .look, .waiting call => (atCmdLook s call, none)
  | .deadline, .waiting call => ({ s with caller := .leaving call (-1) none }, none)
  | .finish, .leaving call rc looked => atCmdFinish s call rc looked
  | _, _ => (s, none)

def atMachine : Machine AtState AtEvent (Option AtReturn) :=
  ⟨atStep⟩

end Modem

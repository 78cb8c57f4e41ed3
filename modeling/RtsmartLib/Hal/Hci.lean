import RtsmartLib.Lib.Errno
import RtsmartLib.Lib.Memory

/-!
This module contains the HCI controller driver: which H4 packets it accepts for transmission, and how it
writes one.
-/

namespace Hci

open Lib Posix

def h4Cmd : Byte := 0x01#8
def h4Acl : Byte := 0x02#8
def h4Sco : Byte := 0x03#8
def h4Iso : Byte := 0x05#8

def drvHciGetLe16 (data : List Byte) : BitVec 16 :=
  (data.getD 0 0).setWidth 16 ||| (data.getD 1 0).setWidth 16 <<< 8

def drvHciTxPacketValid (packet : List Byte) : Bool :=
  let size := packet.length
  if size < 2 then
    false
  else if packet.getD 0 0 = h4Cmd then
    if size < 4 then false else size = 4 + (packet.getD 3 0).toNat
  else if packet.getD 0 0 = h4Acl then
    if size < 5 then false else size = 5 + (drvHciGetLe16 (packet.drop 3)).toNat
  else if packet.getD 0 0 = h4Sco then
    if size < 4 then false else size = 4 + (packet.getD 3 0).toNat
  else if packet.getD 0 0 = h4Iso then
    if size < 5 then false else size = 5 + (drvHciGetLe16 (packet.drop 3) &&& 0x3fff#16).toNat
  else
    false

/-
What `poll` reports of the descriptor: that it can be written, or an error condition.
-/
inductive PollEvent where
  | out
  | failed
deriving DecidableEq

/-
The answers that one transmission gets: from the lock, from the calls of `write` that are not interrupted,
and from the `poll` between them.
-/
structure HciAnswers where
  isOpen : Bool
  lock : Option Errno
  write : Except Errno Nat
  poll : Except Errno (Option PollEvent)
  rewrite : Except Errno Nat

def drvHciWriteOnce (answer : Except Errno Nat) : Int :=
  match answer with
  | .error errno => -errno
  | .ok written => written

structure HciWritten where
  result : Int
  writes : List (List Byte)
deriving DecidableEq

/-
The second `write` is made if the first would have blocked and the descriptor becomes ready in time.
-/
def drvHciWritePacket (answers : HciAnswers) (packet : List Byte) (timeoutMs : Int) : HciWritten :=
  if !answers.isOpen ∨ !drvHciTxPacketValid packet then
    ⟨-einval, []⟩
  else
    match answers.lock with
    | some errno => ⟨-errno, []⟩
    | none =>
      let first := drvHciWriteOnce answers.write
      let (result, writes) :=
        if first = -eagain ∧ timeoutMs ≠ 0 then
          match answers.poll with
          | .ok (some .out) => (drvHciWriteOnce answers.rewrite, [packet, packet])
          | .ok (some .failed) => (-eio, [packet])
          | .ok none => (-etimedout, [packet])
          | .error errno => (-errno, [packet])
        else
          (first, [packet])
      if result ≥ 0 ∧ result.toNat ≠ packet.length then ⟨-eio, writes⟩ else ⟨result, writes⟩

/-
Nothing but the packet as a whole is ever written.
-/
theorem drvHciWritePacket_writes (answers : HciAnswers) (packet : List Byte) (timeoutMs : Int)
    : ∀ bytes ∈ (drvHciWritePacket answers packet timeoutMs).writes,
        bytes = packet ∧ drvHciTxPacketValid packet = true := by
  intro bytes hbytes
  unfold drvHciWritePacket at hbytes
  split at hbytes
  . simp at hbytes
  . next hvalid =>
    have hvalid : drvHciTxPacketValid packet = true := by
      simpa using (not_or.mp hvalid).2
    split at hbytes
    . simp at hbytes
    . dsimp only at hbytes
      have hwrites : ∀ result writes, (∀ bytes ∈ writes, bytes = packet) →
          bytes ∈ (if result ≥ 0 ∧ result.toNat ≠ packet.length then ⟨-eio, writes⟩
            else (⟨result, writes⟩ : HciWritten)).writes → bytes = packet := by
        intro result writes hall hmem
        apply hall
        split at hmem
        . exact hmem
        . exact hmem
      refine ⟨?_, hvalid⟩
      apply hwrites _ _ _ hbytes
      split
      . split <;> simp
      . simp

end Hci

import RtsmartLib.Lib.NetworkOrder
import RtsmartLib.Lib.Reassembly

/-!
This module contains the assembly of a fragmented DTLS ClientHello in front of the TLS library, which takes only
whole ones.
-/

namespace Peer

open Lib

def dtlsRecordHeaderLen : Nat := 13

def dtlsHandshakeHeaderLen : Nat := 12

def dtlsContentHandshake : Byte := 22

def dtlsHandshakeClientHello : Byte := 1

def dtlsClientHelloMax : Nat := 16384

/-
Where the bytes of a handshake fragment begin in its record.
-/
def dtlsHeadersLen : Nat := dtlsRecordHeaderLen + dtlsHandshakeHeaderLen

/--
What has come of a message: both headers as they will be for the whole of it, and the bytes behind them.
-/
structure ClientHello where
  head : List Byte
  body : Assembly Byte
  seq : BitVec 16

inductive Reassembled where
  | packet (bytes : List Byte)
  | decodeError
  | bufferTooSmall
  | allocFailed
  | wantRead
deriving DecidableEq

def peerConnectionReadU24 (bytes : List Byte) (offset : Nat) : Nat :=
  (getBigEndian24 bytes offset).toNat

def recordLen (packet : List Byte) : Nat :=
  (getBigEndian16 packet 11).toNat

def totalLen (packet : List Byte) : Nat :=
  peerConnectionReadU24 packet 14

def messageSeq (packet : List Byte) : BitVec 16 :=
  getBigEndian16 packet 17

def fragmentOffset (packet : List Byte) : Nat :=
  peerConnectionReadU24 packet 19

def fragmentLen (packet : List Byte) : Nat :=
  peerConnectionReadU24 packet 22

/-
The datagram is one record that holds one fragment of a ClientHello and no other message.
-/
def isClientHello (packet : List Byte) : Bool :=
  dtlsHeadersLen ≤ packet.length
    && packet.getD 0 0 = dtlsContentHandshake
    && recordLen packet + dtlsRecordHeaderLen = packet.length
    && dtlsHandshakeHeaderLen ≤ recordLen packet
    && packet.getD dtlsRecordHeaderLen 0 = dtlsHandshakeClientHello

/-
The headers of a fragment rewritten for a message in one piece.
-/
def wholeHead (packet : List Byte) : List Byte :=
  packet.take 11
    ++ bigEndian16 (BitVec.ofNat 16 (dtlsHandshakeHeaderLen + totalLen packet))
    ++ (packet.drop 13).take 6
    ++ [0, 0, 0]
    ++ bigEndian24 (BitVec.ofNat 24 (totalLen packet))

/-
A new buffer, with whatever has stood in its memory.
-/
def newClientHello (packet : List Byte) (memory : Nat → Byte) : ClientHello where
  head := wholeHead packet
  body := .fresh ((List.range (totalLen packet)).map memory)
  seq := messageSeq packet

/-
The buffer that the fragment belongs to, or a new one. `alloc` is what the allocator gives.
-/
def selectClientHello (hello : Option ClientHello) (packet : List Byte) (alloc : Option (Nat → Byte))
    : Option { hello : ClientHello // hello.body.cells.length = totalLen packet } :=
  let new : Option { hello : ClientHello // hello.body.cells.length = totalLen packet } :=
    match alloc with
    | none => none
    | some memory => some ⟨newClientHello packet memory, by simp [newClientHello, Assembly.fresh]⟩
  match hello with
  | none => new
  | some hello =>
    if h : hello.body.cells.length = totalLen packet ∧ hello.seq = messageSeq packet then
      some ⟨hello, h.1⟩
    else
      new

/-
The fragment does not lie within the message, or the record holds more than it.
-/
def malformedFragment (packet : List Byte) : Prop :=
  totalLen packet = 0 ∨ totalLen packet > dtlsClientHelloMax ∨ fragmentOffset packet > totalLen packet
    ∨ fragmentLen packet > totalLen packet - fragmentOffset packet
    ∨ recordLen packet ≠ dtlsHandshakeHeaderLen + fragmentLen packet

instance (packet : List Byte) : Decidable (malformedFragment packet) :=
  inferInstanceAs (Decidable (_ ∨ _))

def fragmentData (packet : List Byte) : List Byte :=
  (packet.drop dtlsHeadersLen).take (fragmentLen packet)

theorem fragmentData_fits {packet : List Byte} (h : ¬malformedFragment packet) {cells : List Byte}
    (hcells : cells.length = totalLen packet)
    : fragmentOffset packet + (fragmentData packet).length ≤ cells.length := by
  have hlength : (fragmentData packet).length ≤ fragmentLen packet := by
    apply List.length_take_le
  simp only [malformedFragment, not_or] at h
  omega

/--
`capacity` is what the TLS library has room for. The result is the whole record once all of it is there.
-/
def peerConnectionReassembleClientHello (hello : Option ClientHello) (packet : List Byte) (capacity : Nat)
    (alloc : Option (Nat → Byte)) : Option ClientHello × Reassembled :=
  if ¬isClientHello packet then
    (hello, .packet packet)
  else if fragmentOffset packet = 0 ∧ fragmentLen packet = totalLen packet then
    (none, .packet packet)
  else if h : malformedFragment packet then
    (none, .decodeError)
  else if dtlsHeadersLen + totalLen packet > capacity then
    (none, .bufferTooSmall)
  else
    match selectClientHello hello packet alloc with
    | none => (none, .allocFailed)
    | some ⟨hello, hcells⟩ =>
      let body := hello.body.copy (fragmentOffset packet) (fragmentData packet) (fragmentData_fits h hcells)
      if body.received ≠ totalLen packet then
        (some { hello with body := body }, .wantRead)
      else
        (none, .packet (hello.head ++ body.cells))

/-
Datagrams one after the other, each with the capacity and the allocator that it meets.
-/
structure HelloEvent where
  packet : List Byte
  capacity : Nat
  alloc : Option (Nat → Byte)

def reassembleAll (hello : Option ClientHello) (events : List HelloEvent)
    : Option ClientHello × List Reassembled :=
  match events with
  | [] => (hello, [])
  | event :: events =>
    let res := peerConnectionReassembleClientHello hello event.packet event.capacity event.alloc
    let res' := reassembleAll res.1 events
    (res'.1, res.2 :: res'.2)

end Peer

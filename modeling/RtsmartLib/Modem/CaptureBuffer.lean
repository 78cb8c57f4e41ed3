import RtsmartLib.Lib.Machine
import RtsmartLib.Lib.Memory
import RtsmartLib.Modem.Capture

/-!
This module contains the capture of an answer with the indices of its buffer, and that the buffer holds the
newest bytes of the answer whatever chunks it comes in.
-/

namespace Modem

open Lib

/-
A `size_t` wraps around.
-/
def sizeAdd (a b : Nat) : Nat :=
  (a + b) % 2 ^ 64

def sizeSub (a b : Nat) : Nat :=
  (a + 2 ^ 64 - b) % 2 ^ 64

/-
A piece of data whose length is a `size_t`.
-/
abbrev Chunk := { data : List Byte // data.length < 2 ^ 64 }

/-
The memory starts with `at_buf`, and goes on behind it.
-/
structure AtBuffer where
  mem : Memory
  atLen : Nat
  atCapturing : Bool

structure Store where
  start : Nat
  length : Nat

/-
The first two branches of `at_capture`: of a chunk that is too long only the newest bytes are kept, and the
oldest bytes in the buffer make room for them. The results have the stores that are made.
-/
def keepTail (data : List Byte) (n : Nat) : List Byte × Nat :=
  if n > atBufSize - 1 then (data.drop (sizeSub n (atBufSize - 1)), atBufSize - 1) else (data, n)

def makeRoom (s : AtBuffer) (n : Nat) : AtBuffer × List Store :=
  if sizeAdd s.atLen n > atBufSize - 1 then
    let drop := sizeSub (sizeAdd s.atLen n) (atBufSize - 1)
    let count := sizeSub s.atLen drop
    -- a `memmove`, which reads all it moves before it writes
    ({ s with mem := writeBytes 0 (readBytes s.mem drop count) s.mem, atLen := count }, [⟨0, count⟩])
  else
    (s, [])

def atCaptureBytes (s : AtBuffer) (chunk : Chunk) : AtBuffer × List Store :=
  if s.atCapturing then
    let (data, n) := keepTail chunk.val chunk.val.length
    let (s, stores) := makeRoom s n
    let atLen := sizeAdd s.atLen n
    let mem := writeBytes s.atLen (data.take n) s.mem
    ({ s with mem := writeBytes atLen [0] mem, atLen := atLen }, stores ++ [⟨s.atLen, n⟩, ⟨atLen, 1⟩])
  else
    (s, [])

inductive BufferEvent where
  | start
  | chunk (data : Chunk)
  | finish

/-
What `at_cmd` does to the buffer at its start and its end, and what the reader does with each chunk.
-/
def bufferStep (s : AtBuffer) (event : BufferEvent) : AtBuffer × List Store :=
  match event with
  | .start => ({ mem := writeBytes 0 [0] s.mem, atLen := 0, atCapturing := true }, [⟨0, 1⟩])
  | .chunk data => atCaptureBytes s data
  | .finish => ({ s with atCapturing := false }, [])

/-
`received` is what has been captured since the last command was started.
-/
structure CaptureLog where
  buffer : AtBuffer
  received : List Byte

def CaptureLog.record (s : CaptureLog) (event : BufferEvent) : List Byte :=
  match event with
  | .start => []
  | .chunk data => if s.buffer.atCapturing then s.received ++ data.val else s.received
  | .finish => s.received

def captureMachine : Machine CaptureLog BufferEvent (List Store) :=
  ⟨fun s event =>
    let r := bufferStep s.buffer event
    (⟨r.1, s.record event⟩, r.2)⟩

/-
The buffer as `modem_init` leaves it, with any memory behind it.
-/
def CaptureLog.init (behind : Memory) : CaptureLog :=
  ⟨⟨writeBytes 0 (List.replicate atBufSize 0) behind, 0, false⟩, []⟩

/--
The buffer holds the newest bytes of what has been received, as many as it has room for, and a NUL. No store
goes beyond it, and the memory behind it stays as it is.
-/
def BufferHolds (v : Machine.Visit CaptureLog BufferEvent (List Store)) : Prop :=
  let kept := min v.post.received.length (atBufSize - 1)
  readBytes v.post.buffer.mem 0 kept = v.post.received.drop (v.post.received.length - kept)
    ∧ v.post.buffer.mem kept = 0
    ∧ (∀ store ∈ v.obs, store.start + store.length ≤ atBufSize)
    ∧ ∀ a, atBufSize ≤ a → v.post.buffer.mem a = v.pre.buffer.mem a

def AtBuffer.text (s : AtBuffer) : List Byte :=
  readBytes s.mem 0 s.atLen

theorem sizeAdd_eq {a b : Nat} (h : a + b < 2 ^ 64) : sizeAdd a b = a + b := by
  apply Nat.mod_eq_of_lt h

theorem sizeSub_eq {a b : Nat} (h : b ≤ a) (ha : a < 2 ^ 64) : sizeSub a b = a - b := by
  unfold sizeSub
  omega

@[simp]
theorem length_text (s : AtBuffer) : s.text.length = s.atLen := by
  apply length_readBytes

theorem keepTail_eq (chunk : Chunk)
    : keepTail chunk.val chunk.val.length
        = (newest (atBufSize - 1) chunk.val, (newest (atBufSize - 1) chunk.val).length) := by
  unfold keepTail
  split
  next hlong =>
    have hlen : (newest (atBufSize - 1) chunk.val).length = atBufSize - 1 := by
      unfold newest
      rw [List.length_drop]
      omega
    rw [hlen, sizeSub_eq (Nat.le_of_lt hlong) chunk.property]
    rfl
  next hshort => rw [newest_of_le (Nat.not_lt.mp hshort)]

theorem makeRoom_text {s : AtBuffer} (hlen : s.atLen ≤ atBufSize - 1) {n : Nat} (hn : n ≤ atBufSize - 1)
    : (makeRoom s n).1.text = newest (atBufSize - 1 - n) s.text
        ∧ (∀ store ∈ (makeRoom s n).2, store.start + store.length ≤ atBufSize - 1)
        ∧ ∀ a, atBufSize - 1 ≤ a → (makeRoom s n).1.mem a = s.mem a := by
  have hadd : sizeAdd s.atLen n = s.atLen + n := by
    apply sizeAdd_eq
    unfold atBufSize at hlen hn
    omega
  have hdrop : s.atLen + n > atBufSize - 1 →
      sizeSub (s.atLen + n) (atBufSize - 1) = s.atLen + n - (atBufSize - 1) := by
    intro hfull
    apply sizeSub_eq (Nat.le_of_lt hfull)
    unfold atBufSize at hlen hn
    omega
  have hcount : sizeSub s.atLen (s.atLen + n - (atBufSize - 1))
      = s.atLen - (s.atLen + n - (atBufSize - 1)) := by
    apply sizeSub_eq
    . omega
    . unfold atBufSize at hlen
      omega
  unfold makeRoom
  rw [hadd]
  -- the size is of no more account
  generalize atBufSize - 1 = size at hlen hn hdrop hcount ⊢
  by_cases hfull : s.atLen + n > size
  . rw [if_pos hfull]
    dsimp only
    rw [hdrop hfull, hcount]
    refine ⟨?_, ?_, ?_⟩
    . have hself := readBytes_writeBytes_self 0
        (readBytes s.mem (s.atLen + n - size) (s.atLen - (s.atLen + n - size)))
        s.mem
      rw [length_readBytes] at hself
      have hstart : s.atLen - (size - n) = s.atLen + n - size := by
        omega
      unfold AtBuffer.text newest
      dsimp only
      rw [hself, drop_readBytes, length_readBytes, Nat.zero_add, hstart]
    . intro store hstore
      rw [List.mem_singleton] at hstore
      rw [hstore]
      dsimp only
      omega
    . intro a ha
      apply writeBytes_of_not_mem
      rw [length_readBytes]
      omega
  . rw [if_neg hfull]
    refine ⟨?_, ?_, ?_⟩
    . rw [newest_of_le]
      rw [length_text]
      omega
    . intro store hstore
      cases hstore
    . intro a _
      rfl

/-
Appending to the text in the buffer, with the NUL behind it.
-/
theorem text_append (mem : Memory) (len : Nat) (data : List Byte)
    : let mem' := writeBytes (len + data.length) [0] (writeBytes len data mem)
      readBytes mem' 0 (len + data.length) = readBytes mem 0 len ++ data ∧ mem' (len + data.length) = 0 := by
  have hnul : Apart 0 (len + data.length) (len + data.length) [(0 : Byte)].length :=
    Or.inl (Nat.le_of_eq (Nat.zero_add _))
  have hdata : Apart 0 len len data.length := Or.inl (Nat.le_of_eq (Nat.zero_add _))
  have hself := readBytes_writeBytes_self len data mem
  dsimp only
  constructor
  . rw [readBytes_writeBytes_apart hnul, readBytes_add, readBytes_writeBytes_apart hdata, Nat.zero_add, hself]
  . apply writeBytes_of_mem (len + data.length) (show 0 < [(0 : Byte)].length by decide)

/-
The buffer with its indices does what the list of its bytes does.
-/
theorem atCaptureBytes_text {s : AtBuffer} (hcapturing : s.atCapturing = true)
    (hlen : s.atLen ≤ atBufSize - 1) (chunk : Chunk)
    : let r := atCaptureBytes s chunk
      r.1.text = atCapture s.text chunk.val ∧ r.1.atLen ≤ atBufSize - 1 ∧ r.1.mem r.1.atLen = 0
        ∧ (∀ store ∈ r.2, store.start + store.length ≤ atBufSize)
        ∧ ∀ a, atBufSize ≤ a → r.1.mem a = s.mem a := by
  have hn := length_newest_le (atBufSize - 1) chunk.val
  obtain ⟨htext, hstores, hbehind⟩ := makeRoom_text hlen hn
  have hroom : (makeRoom s (newest (atBufSize - 1) chunk.val).length).1.atLen
      ≤ atBufSize - 1 - (newest (atBufSize - 1) chunk.val).length := by
    rw [← length_text, htext]
    apply length_newest_le
  have hadd : sizeAdd (makeRoom s (newest (atBufSize - 1) chunk.val).length).1.atLen
      (newest (atBufSize - 1) chunk.val).length
        = (makeRoom s (newest (atBufSize - 1) chunk.val).length).1.atLen
          + (newest (atBufSize - 1) chunk.val).length := by
    apply sizeAdd_eq
    unfold atBufSize at hroom hn ⊢
    omega
  rw [atCapture_eq, ← htext]
  unfold atCaptureBytes
  rw [if_pos hcapturing, keepTail_eq]
  dsimp only
  rw [hadd, List.take_of_length_le (Nat.le_refl _)]
  generalize makeRoom s (newest (atBufSize - 1) chunk.val).length = room at htext hstores hbehind hroom ⊢
  generalize newest (atBufSize - 1) chunk.val = data at hn hstores hroom ⊢
  -- what is left over of the old text and the new bytes have room before the NUL
  obtain ⟨happend, hnul⟩ := text_append room.1.mem room.1.atLen data
  refine ⟨happend, by omega, hnul, ?_, ?_⟩
  . intro store hstore
    rw [List.mem_append] at hstore
    cases hstore with
    | inl h => exact Nat.le_trans (hstores store h) (Nat.sub_le _ _)
    | inr h =>
      unfold atBufSize at hroom hn ⊢
      rw [List.mem_cons, List.mem_singleton] at h
      cases h with
      | inl h =>
        rw [h]
        dsimp only
        omega
      | inr h =>
        rw [h]
        dsimp only
        omega
  . intro a ha
    unfold atBufSize at hroom hn ha
    rw [writeBytes_of_not_mem (by rw [List.length_singleton]; omega), writeBytes_of_not_mem (by omega)]
    apply hbehind
    unfold atBufSize
    omega

structure CaptureInv (s : CaptureLog) : Prop where
  text : s.buffer.text = newest (atBufSize - 1) s.received
  nul : s.buffer.mem s.buffer.atLen = 0

theorem CaptureInv.atLen {s : CaptureLog} (h : CaptureInv s)
    : s.buffer.atLen = min s.received.length (atBufSize - 1) := by
  rw [← length_text, h.text]
  unfold newest
  rw [List.length_drop]
  omega

theorem CaptureInv.init (behind : Memory) : CaptureInv (CaptureLog.init behind) where
  text := by
    simp [CaptureLog.init, AtBuffer.text, newest]
  nul := by
    have hsize : 0 < atBufSize := by
      decide
    have hlen : 0 < (List.replicate atBufSize (0 : Byte)).length := by
      rw [List.length_replicate]
      exact hsize
    have h := writeBytes_of_mem 0 hlen behind
    unfold CaptureLog.init
    generalize atBufSize = size at h hsize ⊢
    rw [Nat.add_zero, List.getD_replicate _ hsize] at h
    exact h

theorem captureMachine_step {s : CaptureLog} (h : CaptureInv s) (event : BufferEvent)
    : CaptureInv (captureMachine.visit s event).post
        ∧ (∀ store ∈ (captureMachine.visit s event).obs, store.start + store.length ≤ atBufSize)
        ∧ ∀ a, atBufSize ≤ a → (captureMachine.visit s event).post.buffer.mem a = s.buffer.mem a := by
  cases event with
  | start =>
    refine ⟨?_, ?_, ?_⟩
    . constructor
      . simp [captureMachine, bufferStep, CaptureLog.record, AtBuffer.text, newest]
      . exact writeBytes_of_mem 0 (show 0 < [(0 : Byte)].length by decide) s.buffer.mem
    . intro store hstore
      rw [List.mem_singleton.mp hstore]
      decide
    . intro a ha
      apply writeBytes_of_not_mem
      rw [List.length_singleton]
      unfold atBufSize at ha
      omega
  | chunk data =>
    by_cases hcapturing : s.buffer.atCapturing = true
    . have hlen : s.buffer.atLen ≤ atBufSize - 1 := by
        rw [h.atLen]
        apply Nat.min_le_right
      obtain ⟨htext, _, hnul, hstores, hbehind⟩ := atCaptureBytes_text hcapturing hlen data
      have hreceived : s.record (.chunk data) = s.received ++ data.val := by
        simp [CaptureLog.record, hcapturing]
      refine ⟨⟨?_, hnul⟩, hstores, hbehind⟩
      rw [h.text, atCapture_newest, ← hreceived] at htext
      exact htext
    . have hsame : bufferStep s.buffer (.chunk data) = (s.buffer, []) := by
        simp [bufferStep, atCaptureBytes, hcapturing]
      have hreceived : s.record (.chunk data) = s.received := by
        simp [CaptureLog.record, hcapturing]
      simp only [captureMachine, Machine.visit_post, Machine.visit_obs]
      rw [hsame, hreceived]
      refine ⟨h, ?_, fun _ _ => rfl⟩
      intro store hstore
      cases hstore
  | finish =>
    refine ⟨⟨h.text, h.nul⟩, ?_, fun _ _ => rfl⟩
    intro store hstore
    cases hstore

/-
Over every run of commands and of the chunks that come in, the buffer holds the newest bytes since the last
command was started.
-/
theorem captureMachine_holds (behind : Memory) (events : List BufferEvent)
    : ∀ v ∈ captureMachine.visits (.init behind) events, BufferHolds v := by
  refine Machine.forall_visits_of_inv CaptureInv (fun _ => True) ?_ ?_ (CaptureInv.init behind)
    (fun _ _ => trivial)
  . intro s event _ h
    apply (captureMachine_step h event).1
  . intro s event _ h
    obtain ⟨hinv, hstores, hbehind⟩ := captureMachine_step h event
    change ∀ a, atBufSize ≤ a → _ = (captureMachine.visit s event).pre.buffer.mem a at hbehind
    generalize (captureMachine.visit s event) = v at hinv hstores hbehind ⊢
    unfold BufferHolds
    dsimp only
    rw [← hinv.atLen]
    refine ⟨?_, hinv.nul, hstores, hbehind⟩
    have htext := hinv.text
    unfold AtBuffer.text newest at htext
    have hstart : v.post.received.length - (atBufSize - 1) = v.post.received.length - v.post.buffer.atLen := by
      rw [hinv.atLen]
      omega
    rw [htext, hstart]

theorem captureMachine_holds_ok
    : BufferHolds (captureMachine.visit (captureMachine.step (.init fun _ => 0xff) .start).1
        (.chunk ⟨[0x4f, 0x4b], by decide⟩)) :=
  captureMachine_holds (fun _ => 0xff) [.start, .chunk ⟨[0x4f, 0x4b], by decide⟩] _ (.tail _ (.head _))

end Modem

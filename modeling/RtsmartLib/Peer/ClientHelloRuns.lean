import RtsmartLib.Peer.ClientHello

/-!
This module contains that the fragments of a ClientHello become the whole message in whatever order they come, and
what can become of datagrams that are not its fragments.
-/

namespace Peer

open Lib

/--
A record with one fragment of a ClientHello of `total` bytes. `recordHead` is the version, the epoch and the
sequence number of the record.
-/
def helloRecord (recordHead : List Byte) (seq : BitVec 16) (total offset : Nat) (data : List Byte)
    : List Byte :=
  (dtlsContentHandshake :: recordHead)
    ++ (bigEndian16 (BitVec.ofNat 16 (dtlsHandshakeHeaderLen + data.length))
    ++ ([dtlsHandshakeClientHello]
    ++ (bigEndian24 (BitVec.ofNat 24 total)
    ++ (bigEndian16 seq
    ++ (bigEndian24 (BitVec.ofNat 24 offset)
    ++ (bigEndian24 (BitVec.ofNat 24 data.length)
    ++ data))))))

section Record

variable {recordHead : List Byte} (hhead : recordHead.length = 10) (seq : BitVec 16) {total offset : Nat}
variable {data : List Byte}

include hhead

theorem length_helloRecord
    : (helloRecord recordHead seq total offset data).length = dtlsHeadersLen + data.length := by
  simp [helloRecord, hhead, dtlsHeadersLen, dtlsRecordHeaderLen, dtlsHandshakeHeaderLen]
  omega

theorem recordLen_helloRecord (hdata : dtlsHandshakeHeaderLen + data.length < 2 ^ 16)
    : recordLen (helloRecord recordHead seq total offset data) = dtlsHandshakeHeaderLen + data.length := by
  unfold recordLen helloRecord
  rw [getBigEndian16_append (by simp [hhead])]
  rw [BitVec.toNat_ofNat]
  exact Nat.mod_eq_of_lt hdata

/-
The fields behind the length of the record, each behind what stands in front of it.
-/
theorem totalLen_helloRecord (htotal : total < 2 ^ 24)
    : totalLen (helloRecord recordHead seq total offset data) = total := by
  unfold totalLen peerConnectionReadU24 helloRecord
  rw [← List.append_assoc, ← List.append_assoc]
  rw [getBigEndian24_append (by simp [hhead])]
  rw [BitVec.toNat_ofNat]
  exact Nat.mod_eq_of_lt htotal

theorem messageSeq_helloRecord
    : messageSeq (helloRecord recordHead seq total offset data) = seq := by
  unfold messageSeq helloRecord
  rw [← List.append_assoc, ← List.append_assoc, ← List.append_assoc]
  apply getBigEndian16_append
  simp [hhead]

theorem fragmentOffset_helloRecord (hoffset : offset < 2 ^ 24)
    : fragmentOffset (helloRecord recordHead seq total offset data) = offset := by
  unfold fragmentOffset peerConnectionReadU24 helloRecord
  rw [← List.append_assoc, ← List.append_assoc, ← List.append_assoc, ← List.append_assoc]
  rw [getBigEndian24_append (by simp [hhead])]
  rw [BitVec.toNat_ofNat]
  exact Nat.mod_eq_of_lt hoffset

theorem fragmentLen_helloRecord (hdata : data.length < 2 ^ 24)
    : fragmentLen (helloRecord recordHead seq total offset data) = data.length := by
  unfold fragmentLen peerConnectionReadU24 helloRecord
  rw [← List.append_assoc, ← List.append_assoc, ← List.append_assoc, ← List.append_assoc,
    ← List.append_assoc]
  rw [getBigEndian24_append (by simp [hhead])]
  rw [BitVec.toNat_ofNat]
  exact Nat.mod_eq_of_lt hdata

theorem fragmentData_helloRecord (hdata : data.length < 2 ^ 24)
    : fragmentData (helloRecord recordHead seq total offset data) = data := by
  unfold fragmentData
  rw [fragmentLen_helloRecord hhead seq hdata]
  unfold helloRecord
  rw [← List.append_assoc, ← List.append_assoc, ← List.append_assoc, ← List.append_assoc,
    ← List.append_assoc, ← List.append_assoc]
  rw [List.drop_left' (by simp [hhead, dtlsHeadersLen, dtlsRecordHeaderLen, dtlsHandshakeHeaderLen])]
  apply List.take_length

theorem isClientHello_helloRecord (hdata : dtlsHandshakeHeaderLen + data.length < 2 ^ 16)
    : isClientHello (helloRecord recordHead seq total offset data) = true := by
  have hlength : (helloRecord recordHead seq total offset data).length = dtlsHeadersLen + data.length :=
    length_helloRecord hhead seq
  have hrecord : recordLen (helloRecord recordHead seq total offset data)
      = dtlsHandshakeHeaderLen + data.length :=
    recordLen_helloRecord hhead seq hdata
  have htype : (helloRecord recordHead seq total offset data).getD dtlsRecordHeaderLen 0
      = dtlsHandshakeClientHello := by
    unfold helloRecord
    rw [← List.append_assoc]
    rw [List.getD_append_right _ _ _ _ (by simp [hhead, dtlsRecordHeaderLen])]
    simp [hhead, dtlsRecordHeaderLen]
  have hfirst : (helloRecord recordHead seq total offset data).getD 0 0 = dtlsContentHandshake := by
    simp [helloRecord]
  unfold isClientHello
  rw [hlength, hrecord, htype, hfirst]
  have hsum : dtlsHandshakeHeaderLen + data.length + dtlsRecordHeaderLen
      = dtlsRecordHeaderLen + dtlsHandshakeHeaderLen + data.length := by
    omega
  simp [dtlsHeadersLen, hsum]

/-
The head that a fragment gives the whole message does not depend on which fragment it is.
-/
theorem wholeHead_helloRecord (htotal : total < 2 ^ 24) {body : List Byte} (hbody : body.length = total)
    : wholeHead (helloRecord recordHead seq total offset data) ++ body
        = helloRecord recordHead seq total 0 body := by
  have htake : (helloRecord recordHead seq total offset data).take 11 = dtlsContentHandshake :: recordHead := by
    unfold helloRecord
    rw [List.take_left' (by simp [hhead])]
  have hmiddle : ((helloRecord recordHead seq total offset data).drop 13).take 6
      = [dtlsHandshakeClientHello] ++ (bigEndian24 (BitVec.ofNat 24 total) ++ bigEndian16 seq) := by
    unfold helloRecord
    rw [← List.append_assoc]
    rw [List.drop_left' (by simp [hhead])]
    rw [← List.append_assoc, ← List.append_assoc]
    rw [List.take_left' (by simp)]
    simp
  unfold wholeHead
  rw [htake, hmiddle, totalLen_helloRecord hhead seq htotal]
  unfold helloRecord
  rw [hbody]
  simp [bigEndian24]

end Record

structure HelloFragment where
  recordHead : List Byte
  offset : Nat
  length : Nat

namespace HelloFragment

/--
A fragment of this message, and not the whole of it.
-/
structure Of (body : List Byte) (fragment : HelloFragment) : Prop where
  length_recordHead : fragment.recordHead.length = 10
  within : fragment.offset + fragment.length ≤ body.length
  partial_ : ¬(fragment.offset = 0 ∧ fragment.length = body.length)

def data (body : List Byte) (fragment : HelloFragment) : List Byte :=
  (body.drop fragment.offset).take fragment.length

def record (body : List Byte) (seq : BitVec 16) (fragment : HelloFragment) : List Byte :=
  helloRecord fragment.recordHead seq body.length fragment.offset (fragment.data body)

def Contains (fragment : HelloFragment) (i : Nat) : Prop :=
  fragment.offset ≤ i ∧ i < fragment.offset + fragment.length

instance (fragment : HelloFragment) (i : Nat) : Decidable (fragment.Contains i) :=
  inferInstanceAs (Decidable (_ ∧ _))

theorem Of.length_data {body : List Byte} {fragment : HelloFragment} (h : fragment.Of body)
    : (fragment.data body).length = fragment.length := by
  have hwithin := h.within
  unfold data
  rw [List.length_take, List.length_drop]
  omega

end HelloFragment

def Covered (body : List Byte) (fragments : List HelloFragment) : Prop :=
  ∀ i < body.length, ∃ fragment ∈ fragments, fragment.Contains i

instance (body : List Byte) (fragments : List HelloFragment) : Decidable (Covered body fragments) :=
  inferInstanceAs (Decidable (∀ i < body.length, _))

/-
A message that the assembly takes.
-/
structure Acceptable (body : List Byte) : Prop where
  pos : 0 < body.length
  le_max : body.length ≤ dtlsClientHelloMax

/--
What the fragments so far have left: the message under way, with a mark wherever one of them lies.
-/
structure Pending (body : List Byte) (seq : BitVec 16) (fragments : List HelloFragment) (hello : ClientHello)
    : Prop where
  seq_eq : hello.seq = seq
  head_eq : ∀ first ∈ fragments.head?, hello.head = wholeHead (first.record body seq)
  holds : hello.body.Holds body
  mark_iff : ∀ i < body.length, hello.body.map.getD i false = true ↔ ∃ f ∈ fragments, f.Contains i

theorem Pending.received_iff {body : List Byte} {seq : BitVec 16} {fragments : List HelloFragment}
    {hello : ClientHello} (h : Pending body seq fragments hello)
    : hello.body.received = body.length ↔ Covered body fragments := by
  rw [← h.holds.length_eq]
  rw [Assembly.received_eq_length_iff]
  unfold Covered
  rw [h.holds.length_eq]
  constructor
  . intro hall i hi
    exact (h.mark_iff i hi).mp (hall i hi)
  . intro hall i hi
    exact (h.mark_iff i hi).mpr (hall i hi)

/-
The state between two fragments: no message is under way before the first one.
-/
def Under (body : List Byte) (seq : BitVec 16) (fragments : List HelloFragment) (state : Option ClientHello)
    : Prop :=
  match state with
  | none => fragments = []
  | some hello => fragments ≠ [] ∧ Pending body seq fragments hello

section Run

variable {body : List Byte} {seq : BitVec 16}

/-
The buffer that a fragment is copied to, with all that has to be known of it.
-/
theorem exists_selectClientHello (hbody : Acceptable body) {fragments : List HelloFragment}
    {state : Option ClientHello} (hunder : Under body seq fragments state) {fragment : HelloFragment}
    (hof : fragment.Of body) (memory : Nat → Byte)
    : ∃ hello hcells, selectClientHello state (fragment.record body seq) (some memory) = some ⟨hello, hcells⟩
        ∧ hello.seq = seq
        ∧ (∀ first ∈ (fragments ++ [fragment]).head?, hello.head = wholeHead (first.record body seq))
        ∧ hello.body.Holds body
        ∧ (∀ i < body.length, hello.body.map.getD i false = true ↔ ∃ f ∈ fragments, f.Contains i) := by
  have hmax := hbody.le_max
  unfold dtlsClientHelloMax at hmax
  have htotal : totalLen (fragment.record body seq) = body.length :=
    totalLen_helloRecord hof.length_recordHead seq (by omega)
  have hseq : messageSeq (fragment.record body seq) = seq :=
    messageSeq_helloRecord hof.length_recordHead seq
  cases state with
  | none =>
    have hnil : fragments = [] := hunder
    refine ⟨newClientHello (fragment.record body seq) memory, by simp [newClientHello, Assembly.fresh], rfl,
      hseq, ?_, ?_, ?_⟩
    . rw [hnil]
      simp [newClientHello]
    . apply Assembly.holds_fresh
      simp [htotal]
    . intro i hi
      rw [hnil]
      simp [newClientHello, Assembly.fresh]
  | some hello =>
    have hne : fragments ≠ [] := hunder.1
    have hpending := hunder.2
    have hcells : hello.body.cells.length = totalLen (fragment.record body seq) := by
      rw [hpending.holds.length_eq, htotal]
    have hsame : hello.body.cells.length = totalLen (fragment.record body seq)
        ∧ hello.seq = messageSeq (fragment.record body seq) := by
      rw [hpending.seq_eq, hseq]
      exact ⟨hcells, rfl⟩
    refine ⟨hello, hcells, ?_, hpending.seq_eq, ?_, hpending.holds, hpending.mark_iff⟩
    . simp only [selectClientHello]
      rw [dif_pos hsame]
    . rw [List.head?_append_of_ne_nil _ hne]
      exact hpending.head_eq

/-
One more fragment. The call gives the whole message as soon as the fragments cover it.
-/
theorem reassemble_fragment (hbody : Acceptable body) {fragments : List HelloFragment}
    {state : Option ClientHello} (hunder : Under body seq fragments state) {fragment : HelloFragment}
    (hall : ∀ f ∈ fragments ++ [fragment], f.Of body) {capacity : Nat}
    (hcapacity : dtlsHeadersLen + body.length ≤ capacity) (memory : Nat → Byte)
    : let res := peerConnectionReassembleClientHello state (fragment.record body seq) capacity (some memory)
      (¬Covered body (fragments ++ [fragment]) →
        res.2 = .wantRead ∧ Under body seq (fragments ++ [fragment]) res.1)
      ∧ (Covered body (fragments ++ [fragment]) →
        ∀ first ∈ (fragments ++ [fragment]).head?,
          res = (none, .packet (helloRecord first.recordHead seq body.length 0 body))) := by
  have hmax := hbody.le_max
  have hpos := hbody.pos
  unfold dtlsClientHelloMax at hmax
  have hof : fragment.Of body := hall fragment (by simp)
  have hwithin := hof.within
  have hlength := hof.length_data
  have hsize : dtlsHandshakeHeaderLen + (fragment.data body).length < 2 ^ 16 := by
    unfold dtlsHandshakeHeaderLen
    omega
  have hhello : isClientHello (fragment.record body seq) = true :=
    isClientHello_helloRecord hof.length_recordHead seq hsize
  have htotal : totalLen (fragment.record body seq) = body.length :=
    totalLen_helloRecord hof.length_recordHead seq (by omega)
  have hoffset : fragmentOffset (fragment.record body seq) = fragment.offset :=
    fragmentOffset_helloRecord hof.length_recordHead seq (by omega)
  have hlen : fragmentLen (fragment.record body seq) = (fragment.data body).length :=
    fragmentLen_helloRecord hof.length_recordHead seq (by omega)
  have hdata : fragmentData (fragment.record body seq) = fragment.data body :=
    fragmentData_helloRecord hof.length_recordHead seq (by omega)
  have hrecord : recordLen (fragment.record body seq)
      = dtlsHandshakeHeaderLen + (fragment.data body).length :=
    recordLen_helloRecord hof.length_recordHead seq hsize
  have hwhole : ¬(fragmentOffset (fragment.record body seq) = 0
      ∧ fragmentLen (fragment.record body seq) = totalLen (fragment.record body seq)) := by
    rw [hoffset, hlen, hlength, htotal]
    exact hof.partial_
  have hformed : ¬malformedFragment (fragment.record body seq) := by
    unfold malformedFragment dtlsClientHelloMax
    rw [hoffset, hlen, hlength, htotal, hrecord, hlength]
    omega
  obtain ⟨hello, hcells, hselect, hseq, hhead, hholds, hmark⟩ :=
    exists_selectClientHello hbody hunder hof memory
  have hfits := fragmentData_fits hformed hcells
  have hcopied : (hello.body.copy _ _ hfits).Holds body := by
    apply hholds.copy
    rw [hdata, hoffset]
    apply List.take_prefix
  have hpending : Pending body seq (fragments ++ [fragment]) { hello with body := hello.body.copy _ _ hfits } := by
    refine ⟨hseq, hhead, hcopied, ?_⟩
    intro i hi
    rw [Assembly.getD_map_copy]
    rw [hdata, hoffset, hlength]
    rw [Bool.or_eq_true, decide_eq_true_eq]
    rw [hmark i hi]
    simp only [List.mem_append, List.mem_singleton, or_and_right, exists_or, exists_eq_left]
    exact or_comm
  have hreceived := hpending.received_iff
  have hres : peerConnectionReassembleClientHello state (fragment.record body seq) capacity (some memory)
      = if (hello.body.copy _ _ hfits).received ≠ body.length then
          (some { hello with body := hello.body.copy _ _ hfits }, .wantRead)
        else
          (none, .packet (hello.head ++ (hello.body.copy _ _ hfits).cells)) := by
    unfold peerConnectionReassembleClientHello
    rw [if_neg (by simp [hhello])]
    rw [if_neg hwhole]
    rw [dif_neg hformed]
    rw [if_neg (by rw [htotal]; omega)]
    rw [hselect]
    simp only [htotal]
  intro res
  constructor
  . intro hnot
    rw [← hreceived] at hnot
    simp only [res, hres]
    rw [if_pos hnot]
    exact ⟨rfl, by simp, hpending⟩
  . intro hcovered first hfirst
    rw [← hreceived] at hcovered
    simp only [res, hres]
    rw [if_neg (by simpa using hcovered)]
    rw [hcopied.cells_eq]
    . rw [hhead first hfirst]
      have hfirstOf : first.Of body := hall first (List.mem_of_head? hfirst)
      rw [← wholeHead_helloRecord hfirstOf.length_recordHead seq (by omega) rfl]
      rfl
    . rw [hcopied.length_eq]
      exact hcovered

/--
Datagrams among which these fragments of the message come, with an allocator that gives and room for the message.
The others belong to no ClientHello.
-/
inductive Arrivals (body : List Byte) (seq : BitVec 16) : List HelloEvent → List HelloFragment → Prop where
  | nil : Arrivals body seq [] []
  | other {event : HelloEvent} {events : List HelloEvent} {fragments : List HelloFragment}
      (hother : isClientHello event.packet = false) (hrest : Arrivals body seq events fragments)
      : Arrivals body seq (event :: events) fragments
  | fragment {fragment : HelloFragment} {capacity : Nat} {memory : Nat → Byte} {events : List HelloEvent}
      {fragments : List HelloFragment} (hof : fragment.Of body)
      (hcapacity : dtlsHeadersLen + body.length ≤ capacity) (hrest : Arrivals body seq events fragments)
      : Arrivals body seq (⟨fragment.record body seq, capacity, some memory⟩ :: events)
          (fragment :: fragments)

/-
While the message is incomplete its fragments give nothing, and other datagrams are passed on.
-/
def passedOn (event : HelloEvent) : Reassembled :=
  if isClientHello event.packet then .wantRead else .packet event.packet

theorem Arrivals.of_all {events : List HelloEvent} {fragments : List HelloFragment}
    (h : Arrivals body seq events fragments)
    : ∀ f ∈ fragments, f.Of body := by
  induction h with
  | nil => simp
  | other _ _ ih => assumption
  | fragment hof _ _ ih =>
    intro f hf
    cases List.mem_cons.mp hf with
    | inl heq =>
      rw [heq]
      assumption
    | inr hmem => exact ih f hmem

theorem Covered.mono {fragments fragments' : List HelloFragment} (h : Covered body fragments)
    (hsub : fragments ⊆ fragments')
    : Covered body fragments' := by
  intro i hi
  obtain ⟨f, hf, hcontains⟩ := h i hi
  exact ⟨f, hsub hf, hcontains⟩

theorem isClientHello_record (hbody : Acceptable body) {fragment : HelloFragment} (hof : fragment.Of body)
    : isClientHello (fragment.record body seq) = true := by
  have hmax := hbody.le_max
  have hwithin := hof.within
  have hlength := hof.length_data
  apply isClientHello_helloRecord hof.length_recordHead
  unfold dtlsHandshakeHeaderLen
  unfold dtlsClientHelloMax at hmax
  omega

/-
The induction is on the datagrams. `before` are the fragments that have come already.
-/
theorem reassembleAll_pending (hbody : Acceptable body) {events : List HelloEvent}
    {fragments : List HelloFragment} (harrivals : Arrivals body seq events fragments)
    (before : List HelloFragment) (hbefore : ∀ f ∈ before, f.Of body)
    (hincomplete : ¬Covered body (before ++ fragments)) {state : Option ClientHello}
    (hunder : Under body seq before state)
    : (reassembleAll state events).2 = events.map passedOn
      ∧ Under body seq (before ++ fragments) (reassembleAll state events).1 := by
  induction harrivals generalizing before state with
  | nil => simpa [reassembleAll] using hunder
  | @other event events fragments hother _ ih =>
    have hstep : peerConnectionReassembleClientHello state event.packet event.capacity event.alloc
        = (state, .packet event.packet) := by
      unfold peerConnectionReassembleClientHello
      rw [if_pos (by simp [hother])]
    have hrest := ih before hbefore hincomplete hunder
    simp only [reassembleAll, hstep, List.map_cons]
    refine ⟨?_, hrest.2⟩
    rw [hrest.1]
    simp [passedOn, hother]
  | @fragment fragment capacity memory events fragments hof hcapacity _ ih =>
    have hall : ∀ f ∈ before ++ [fragment], f.Of body := by
      intro f hf
      cases List.mem_append.mp hf with
      | inl hmem => exact hbefore f hmem
      | inr hmem =>
        rw [List.mem_singleton.mp hmem]
        assumption
    have hsplit : before ++ fragment :: fragments = before ++ [fragment] ++ fragments := by
      simp
    rw [hsplit] at hincomplete ⊢
    have hnot : ¬Covered body (before ++ [fragment]) := by
      intro hcovered
      apply hincomplete
      apply hcovered.mono
      simp
    have hstep := (reassemble_fragment hbody hunder hall hcapacity memory).1 hnot
    have hrest := ih (before ++ [fragment]) hall hincomplete hstep.2
    simp only [reassembleAll, List.map_cons]
    refine ⟨?_, hrest.2⟩
    rw [hrest.1, hstep.1]
    simp [passedOn, isClientHello_record hbody hof]

theorem reassembleAll_append (state : Option ClientHello) (events events' : List HelloEvent)
    : reassembleAll state (events ++ events')
        = ((reassembleAll (reassembleAll state events).1 events').1,
           (reassembleAll state events).2 ++ (reassembleAll (reassembleAll state events).1 events').2) := by
  induction events generalizing state with
  | nil => rfl
  | cons event events ih =>
    rw [List.cons_append]
    simp only [reassembleAll]
    rw [ih]
    rfl

/-
One fragment alone is not the whole message.
-/
theorem HelloFragment.Of.not_covered (hbody : Acceptable body) {fragment : HelloFragment}
    (hof : fragment.Of body)
    : ¬Covered body [fragment] := by
  intro hcovered
  have hpos := hbody.pos
  have hwithin := hof.within
  have hpart := hof.partial_
  have hfirst := hcovered 0 hpos
  have hlast := hcovered (body.length - 1) (by omega)
  simp only [List.mem_singleton, exists_eq_left, Contains] at hfirst hlast
  omega

/--
Fragments of one ClientHello in any order, more than once or overlapping, and with other datagrams among them:
the datagram that completes the message gives all of it in one record, and no datagram before does.
-/
theorem reassembleAll_complete (hbody : Acceptable body) {events : List HelloEvent}
    {fragments : List HelloFragment} (harrivals : Arrivals body seq events fragments)
    (hincomplete : ¬Covered body fragments) {last : HelloFragment} (hlast : last.Of body)
    (hcomplete : Covered body (fragments ++ [last])) {capacity : Nat}
    (hcapacity : dtlsHeadersLen + body.length ≤ capacity) (memory : Nat → Byte)
    : ∃ first, fragments.head? = some first
        ∧ reassembleAll none (events ++ [⟨last.record body seq, capacity, some memory⟩])
            = (none, events.map passedOn
                ++ [.packet (helloRecord first.recordHead seq body.length 0 body)]) := by
  cases hfragments : fragments with
  | nil =>
    rw [hfragments] at hcomplete
    exact absurd hcomplete (hlast.not_covered hbody)
  | cons first rest =>
    refine ⟨first, rfl, ?_⟩
    have hstart : Under body seq [] none := rfl
    have hbefore := reassembleAll_pending hbody harrivals [] (by simp) hincomplete hstart
    have hall : ∀ f ∈ fragments ++ [last], f.Of body := by
      intro f hf
      cases List.mem_append.mp hf with
      | inl hmem => exact harrivals.of_all f hmem
      | inr hmem =>
        rw [List.mem_singleton.mp hmem]
        assumption
    have hstep := (reassemble_fragment hbody hbefore.2 hall hcapacity memory).2 hcomplete first
      (by rw [List.nil_append, hfragments]; rfl)
    rw [reassembleAll_append]
    rw [hbefore.1]
    simp only [reassembleAll]
    rw [hstep]

end Run

theorem reassembleAll_complete_swapped
    : let recordHead := [0xfe, 0xfd, 0, 0, 0, 0, 0, 0, 0, 7]
      let body := [0x11, 0x22, 0x33, 0x44]
      let late : HelloFragment := ⟨recordHead, 2, 2⟩
      let early : HelloFragment := ⟨recordHead, 0, 3⟩
      ∃ first, [late].head? = some first
        ∧ reassembleAll none ([⟨late.record body 1, 100, some fun _ => 0xaa⟩, ⟨[0x80], 100, none⟩]
              ++ [⟨early.record body 1, 100, some fun _ => 0xaa⟩])
            = (none, [⟨late.record body 1, 100, some fun _ => 0xaa⟩, ⟨[0x80], 100, none⟩].map passedOn
                ++ [.packet (helloRecord first.recordHead 1 4 0 body)]) := by
  refine reassembleAll_complete ⟨by decide, by decide⟩ ?_ (by decide) ⟨by decide, by decide, by decide⟩
    (by decide) (by decide) (fun _ => 0xaa)
  apply Arrivals.fragment ⟨by decide, by decide, by decide⟩ (by decide)
  apply Arrivals.other (by decide)
  exact .nil

/-
The record that a completed message gives, whatever the datagram was that began it.
-/
theorem wholeHead_append {packet cells : List Byte} (hhello : isClientHello packet = true)
    (hcells : cells.length = totalLen packet)
    : wholeHead packet ++ cells
        = helloRecord ((packet.drop 1).take 10) (messageSeq packet) (totalLen packet) 0 cells := by
  simp only [isClientHello, Bool.and_eq_true, decide_eq_true_eq] at hhello
  have hlength : 25 ≤ packet.length := hhello.1.1.1.1
  have hfirst := hhello.1.1.1.2
  have htype := hhello.2
  unfold dtlsRecordHeaderLen at htype
  have htake : packet.take 11 = dtlsContentHandshake :: (packet.drop 1).take 10 := by
    cases packet with
    | nil => simp at hlength
    | cons b packet =>
      simp only [List.getD_cons_zero] at hfirst
      simp [hfirst]
  have htotal : BitVec.ofNat 24 (totalLen packet) = getBigEndian24 packet 14 := by
    apply BitVec.ofNat_toNat
  have hmiddle : (packet.drop 13).take 6
      = dtlsHandshakeClientHello :: (bigEndian24 (getBigEndian24 packet 14)
          ++ bigEndian16 (getBigEndian16 packet 17)) := by
    rw [bigEndian24_getBigEndian24 (by omega), bigEndian16_getBigEndian16 (by omega)]
    rw [List.drop_eq_getElem_cons (by omega)]
    rw [List.getD_eq_getElem _ _ (by omega)] at htype
    rw [htype]
    rw [List.take_succ_cons]
    congr 1
    have hbehind : packet.drop 17 = (packet.drop 14).drop 3 := by
      rw [List.drop_drop]
    have hfields : (packet.drop 14).take (3 + 2)
        = (packet.drop 14).take 3 ++ ((packet.drop 14).drop 3).take 2 :=
      List.take_add
    rw [hbehind, ← hfields]
  unfold wholeHead helloRecord messageSeq
  rw [htake, hmiddle, htotal, hcells, htotal]
  simp [bigEndian24]

/-
The message under way is the one that some fragment has begun, and is not complete.
-/
structure Sound (hello : ClientHello) : Prop where
  begun : ∃ packet, isClientHello packet = true ∧ hello.head = wholeHead packet
    ∧ hello.body.cells.length = totalLen packet
  incomplete : hello.body.received ≠ hello.body.cells.length

/--
What the TLS library can get of a ClientHello: all of it, in one record.
-/
def Unfragmented (bytes : List Byte) : Prop :=
  isClientHello bytes = true → fragmentOffset bytes = 0 ∧ fragmentLen bytes = totalLen bytes

/-
A datagram is passed on as it has come, or completes a message that fits the buffer.
-/
def HelloOutcome (event : HelloEvent) (res : Reassembled) : Prop :=
  ∀ bytes, res = .packet bytes →
    Unfragmented bytes ∧ (bytes = event.packet ∨ bytes.length ≤ event.capacity)

theorem unfragmented_wholeHead {packet cells : List Byte} (hhello : isClientHello packet = true)
    (hcells : cells.length = totalLen packet)
    : Unfragmented (wholeHead packet ++ cells) := by
  intro _
  have hlength : 25 ≤ packet.length := by
    simp only [isClientHello, Bool.and_eq_true, decide_eq_true_eq] at hhello
    exact hhello.1.1.1.1
  have hhead : ((packet.drop 1).take 10).length = 10 := by
    simp
    omega
  have htotal : totalLen packet < 2 ^ 24 := BitVec.isLt _
  rw [wholeHead_append hhello hcells]
  rw [fragmentOffset_helloRecord hhead _ (by decide)]
  rw [fragmentLen_helloRecord hhead _ (by omega)]
  rw [totalLen_helloRecord hhead _ htotal]
  exact ⟨rfl, hcells⟩

theorem length_wholeHead {packet : List Byte} (hhello : isClientHello packet = true)
    : (wholeHead packet).length = dtlsHeadersLen := by
  have hlength : 25 ≤ packet.length := by
    simp only [isClientHello, Bool.and_eq_true, decide_eq_true_eq] at hhello
    exact hhello.1.1.1.1
  simp [wholeHead, dtlsHeadersLen, dtlsRecordHeaderLen, dtlsHandshakeHeaderLen]
  omega

theorem selectClientHello_begun {state : Option ClientHello} (hsound : ∀ hello ∈ state, Sound hello)
    {packet : List Byte} (hhello : isClientHello packet = true) {alloc : Option (Nat → Byte)}
    {hello : ClientHello} {hcells : hello.body.cells.length = totalLen packet}
    (hselect : selectClientHello state packet alloc = some ⟨hello, hcells⟩)
    : ∃ packet, isClientHello packet = true ∧ hello.head = wholeHead packet
        ∧ hello.body.cells.length = totalLen packet := by
  have hnew : ∀ {hello : ClientHello} {hcells : hello.body.cells.length = totalLen packet},
      selectClientHello none packet alloc = some ⟨hello, hcells⟩ →
        ∃ packet, isClientHello packet = true ∧ hello.head = wholeHead packet
          ∧ hello.body.cells.length = totalLen packet := by
    intro hello hcells hselect
    cases alloc with
    | none => simp [selectClientHello] at hselect
    | some memory =>
      simp only [selectClientHello, Option.some.injEq, Subtype.mk.injEq] at hselect
      refine ⟨packet, hhello, ?_, hcells⟩
      rw [← hselect]
      rfl
  cases state with
  | none => exact hnew hselect
  | some old =>
    simp only [selectClientHello] at hselect
    split at hselect
    . simp only [Option.some.injEq, Subtype.mk.injEq] at hselect
      rw [← hselect]
      exact (hsound old rfl).begun
    . apply hnew
      simpa [selectClientHello] using hselect

/-
One datagram, whatever is in it.
-/
theorem reassemble_sound {state : Option ClientHello} (hsound : ∀ hello ∈ state, Sound hello)
    (event : HelloEvent)
    : let res := peerConnectionReassembleClientHello state event.packet event.capacity event.alloc
      (∀ hello ∈ res.1, Sound hello) ∧ HelloOutcome event res.2 := by
  dsimp only
  unfold peerConnectionReassembleClientHello
  split
  . next hother =>
    refine ⟨hsound, ?_⟩
    intro bytes hbytes
    cases hbytes
    refine ⟨?_, .inl rfl⟩
    intro hhello
    contradiction
  . next hhello =>
    rw [not_not] at hhello
    split
    . next hwhole =>
      refine ⟨by simp, ?_⟩
      intro bytes hbytes
      cases hbytes
      exact ⟨fun _ => hwhole, .inl rfl⟩
    . split
      . refine ⟨by simp, ?_⟩
        intro bytes hbytes
        contradiction
      . next hformed =>
        split
        . refine ⟨by simp, ?_⟩
          intro bytes hbytes
          contradiction
        . next hcapacity =>
          split
          . refine ⟨by simp, ?_⟩
            intro bytes hbytes
            contradiction
          . next hello hcells hselect =>
            have hbegun := selectClientHello_begun hsound hhello hselect
            dsimp only
            split
            . next hincomplete =>
              constructor
              . intro hello' hmem
                simp only [Option.mem_def, Option.some.injEq] at hmem
                rw [← hmem]
                refine ⟨?_, ?_⟩
                . simpa using hbegun
                . simpa [hcells] using hincomplete
              . intro bytes hbytes
                contradiction
            . refine ⟨by simp, ?_⟩
              intro bytes hbytes
              cases hbytes
              obtain ⟨first, hfirst, hhead, hfirstCells⟩ := hbegun
              rw [hhead]
              refine ⟨?_, .inr ?_⟩
              . apply unfragmented_wholeHead hfirst
                simpa using hfirstCells
              . rw [List.length_append, length_wholeHead hfirst]
                rw [Assembly.length_cells_copy, hcells]
                omega

/--
Whatever datagrams arrive, the TLS library never gets a fragment of a ClientHello, and never more bytes than it
has room for beyond those of the datagram itself.
-/
theorem reassembleAll_sound (events : List HelloEvent) {state : Option ClientHello}
    (hsound : ∀ hello ∈ state, Sound hello)
    : List.Forall₂ HelloOutcome events (reassembleAll state events).2 := by
  induction events generalizing state with
  | nil => exact .nil
  | cons event events ih =>
    have hstep := reassemble_sound hsound event
    exact .cons hstep.2 (ih hstep.1)

/-
Two fragments of a ClientHello of four bytes. There is no memory for the first one, which comes again after the second.
-/
def retriedHello : List HelloEvent :=
  let recordHead := [0xfe, 0xfd, 0, 0, 0, 0, 0, 0, 0, 7]
  let body := [0x11, 0x22, 0x33, 0x44]
  let early : HelloFragment := ⟨recordHead, 0, 3⟩
  let late : HelloFragment := ⟨recordHead, 2, 2⟩
  [
    ⟨early.record body 1, 100, none⟩,
    ⟨late.record body 1, 100, some fun _ => 0xaa⟩,
    ⟨[0x80], 100, none⟩,
    ⟨early.record body 1, 100, none⟩
  ]

theorem reassembleAll_sound_retried
    : List.Forall₂ HelloOutcome retriedHello (reassembleAll none retriedHello).2
      ∧ (reassembleAll none retriedHello).2
        = [.allocFailed, .wantRead, .packet [0x80],
            .packet (helloRecord [0xfe, 0xfd, 0, 0, 0, 0, 0, 0, 0, 7] 1 4 0 [0x11, 0x22, 0x33, 0x44])] := by
  constructor
  . exact reassembleAll_sound retriedHello (by simp)
  . decide +kernel

end Peer

import RtsmartLib.Lib.Machine
import RtsmartLib.Lib.Runs
import RtsmartLib.Modem.AtLine
import Mathlib.Data.List.TakeWhile

/-!
This module contains the search for the IMEI in the answer of the modem, and for which answers it finds what
the answer holds.
-/

namespace Modem

open Lib

def modemImeiLen : Nat := 15

/-
The text `AT+CGSN=1`.
-/
def atCgsn : CString :=
  ⟨[0x41, 0x54, 0x2b, 0x43, 0x47, 0x53, 0x4e, 0x3d, 0x31], by decide⟩

def isDigit (b : Byte) : Bool :=
  0x30 ≤ b.toNat && b.toNat ≤ 0x39

/-
A text is followed by a NUL.
-/
def charAt (text : List Byte) (i : Nat) : Byte :=
  text.getD i 0

theorem lt_length_of_charAt {text : List Byte} {i : Nat} (h : charAt text i ≠ 0) : i < text.length := by
  by_contra hle
  unfold charAt at h
  rw [List.getD_eq_default _ _ (Nat.not_lt.mp hle)] at h
  exact h rfl

theorem ne_zero_of_isDigit {b : Byte} (h : isDigit b = true) : b ≠ 0 := by
  intro hzero
  rw [hzero] at h
  exact absurd h (by decide)

/-
The inner loop: the first place from `j` on that holds no digit.
-/
def digitsEnd (resp : List Byte) (j : Nat) : Nat :=
  if isDigit (charAt resp j) then digitsEnd resp (j + 1) else j
termination_by resp.length - j
decreasing_by
  have := lt_length_of_charAt (ne_zero_of_isDigit ‹_›)
  omega

theorem digitsEnd_of_isDigit {resp : List Byte} {j : Nat} (h : isDigit (charAt resp j) = true)
    : digitsEnd resp j = digitsEnd resp (j + 1) := by
  rw [digitsEnd, if_pos h]

theorem digitsEnd_of_not {resp : List Byte} {j : Nat} (h : isDigit (charAt resp j) = false)
    : digitsEnd resp j = j := by
  rw [digitsEnd, h]
  rfl

theorem le_digitsEnd (resp : List Byte) (j : Nat) : j ≤ digitsEnd resp j := by
  fun_induction digitsEnd resp j with
  | case1 j _ ih => omega
  | case2 j _ => apply Nat.le_refl

/-
The outer loop.
-/
def scanImei (resp : List Byte) (i : Nat) : Option Nat :=
  if charAt resp i = 0 then
    none
  else if isDigit (charAt resp i) then
    let j := digitsEnd resp i
    if j - i = modemImeiLen then some i else scanImei resp j
  else
    scanImei resp (i + 1)
termination_by resp.length - i
decreasing_by
  . have hlt := lt_length_of_charAt ‹_›
    have hle := le_digitsEnd resp (i + 1)
    rw [digitsEnd_of_isDigit ‹_›]
    omega
  . have := lt_length_of_charAt ‹_›
    omega

structure ImeiState where
  inited : Bool
  imei : List Byte
  imeiValid : Bool

structure ImeiResult where
  ret : Int
  buf : Option (List Byte)
  deriving DecidableEq

/-
`buf` tells whether the caller's pointer is not null.
-/
def modemGetImei (s : ImeiState) (buf : Bool) (size : Nat) (stack : Memory) (port : AtPort)
    : ImeiState × ImeiResult :=
  if !s.inited || !buf || decide (size < modemImeiLen + 1) then
    (s, ⟨-1, none⟩)
  else if s.imeiValid then
    (s, ⟨0, some (s.imei ++ [0])⟩)
  else
    let run := atCmd stack atCgsn 256 port
    if run.rc ≠ 1 then
      (s, ⟨-1, none⟩)
    else
      let resp := run.resp.getD []
      match scanImei resp 0 with
      | none => (s, ⟨-1, none⟩)
      | some start =>
        let imei := (resp.drop start).take modemImeiLen
        ({ s with imei := imei, imeiValid := true }, ⟨0, some (imei ++ [0])⟩)

/-
What `modem_init` and `modem_deinit` do here: the one clears all, the other keeps the IMEI.
-/
def modemInitImei (s : ImeiState) (succeeds : Bool) : ImeiState :=
  if s.inited then s else ⟨succeeds, List.replicate (modemImeiLen + 1) 0, false⟩

def modemDeinitImei (s : ImeiState) : ImeiState :=
  { s with inited := false }

inductive ImeiEvent where
  | init (succeeds : Bool)
  | deinit
  | getImei (buf : Bool) (size : Nat) (stack : Memory) (port : AtPort)

/-
The text of the answer in the buffer that captures it.
-/
def AtPort.answer (port : AtPort) : List Byte :=
  bytesOf (cString port.last)

/-
The call gets as far as the command, and the command has been answered with OK.
-/
def Asks (s : ImeiState) (buf : Bool) (size : Nat) (stack : Memory) (port : AtPort) : Prop :=
  s.inited = true ∧ buf = true ∧ modemImeiLen + 1 ≤ size ∧ s.imeiValid = false
    ∧ (atCmd stack atCgsn 256 port).rc = 1

instance (s : ImeiState) (buf : Bool) (size : Nat) (stack : Memory) (port : AtPort)
    : Decidable (Asks s buf size stack port) :=
  inferInstanceAs (Decidable (_ ∧ _ ∧ _ ∧ _ ∧ _))

/-
`answer` is what the last call that has asked the modem got for an answer, and `start` is where it has found
the IMEI there.
-/
structure ImeiLog where
  state : ImeiState
  answer : List Byte
  start : Nat

def ImeiLog.init : ImeiLog :=
  ⟨⟨false, [], false⟩, [], 0⟩

def imeiMachine : Machine ImeiLog ImeiEvent (Option ImeiResult) :=
  ⟨fun s event =>
    match event with
    | .init succeeds => ({ s with state := modemInitImei s.state succeeds }, none)
    | .deinit => ({ s with state := modemDeinitImei s.state }, none)
    | .getImei buf size stack port =>
      let r := modemGetImei s.state buf size stack port
      if Asks s.state buf size stack port then
        (⟨r.1, port.answer, (scanImei (port.answer.take 255) 0).getD 0⟩, some r.2)
      else
        (⟨r.1, s.answer, s.start⟩, some r.2)⟩

abbrev ImeiVisit := Machine.Visit ImeiLog ImeiEvent (Option ImeiResult)

/-
A call with an answer, its own or that of an earlier call whose IMEI is kept.
-/
def Answered (s : ImeiState) (event : ImeiEvent) : Prop :=
  match event with
  | .getImei buf size stack port =>
    s.inited = true ∧ buf = true ∧ modemImeiLen + 1 ≤ size
      ∧ (s.imeiValid = true ∨ (atCmd stack atCgsn 256 port).rc = 1)
  | _ => False

/--
A call succeeds exactly if it has an answer with a maximal run of 15 digits, and it returns such a run.
-/
def ImeiRight (v : ImeiVisit) : Prop :=
  ∀ r, v.obs = some r →
    (r.ret = 0 ↔ Answered v.pre.state v.event ∧ ∃ k, RunAt isDigit v.post.answer modemImeiLen k)
      ∧ (r.ret = 0 → RunAt isDigit v.post.answer modemImeiLen v.post.start
        ∧ r.buf = some ((v.post.answer.drop v.post.start).take modemImeiLen ++ [0]))

/--
The call asks the modem, and the answer is longer than the buffer for it in a way that matters: no maximal
run of 15 digits ends within the first 255 bytes, and there is one that ends later, or a longer run of which
just 15 digits lie within them.
-/
def CutMatters (v : ImeiVisit) : Prop :=
  ∃ buf size stack port, v.event = .getImei buf size stack port ∧ Asks v.pre.state buf size stack port
    ∧ ¬CutHarmless isDigit port.answer modemImeiLen 255

theorem isDigit_charAt (text : List Byte) (i : Nat) : isDigit (charAt text i) = holdsAt isDigit text i := by
  unfold charAt holdsAt
  rw [List.getD_eq_getElem?_getD]
  cases text[i]? with
  | none => rfl
  | some b => rfl

/-
All before the end are digits, and at the end is none.
-/
theorem digitsEnd_spec (resp : List Byte) (j : Nat)
    : (∀ k, j ≤ k → k < digitsEnd resp j → holdsAt isDigit resp k = true)
        ∧ holdsAt isDigit resp (digitsEnd resp j) = false := by
  fun_induction digitsEnd resp j with
  | case1 j hdigit ih =>
    refine ⟨?_, ih.2⟩
    intro k hk hlt
    by_cases hsame : k = j
    . rw [hsame, ← isDigit_charAt]
      exact hdigit
    . apply ih.1 k (by omega) hlt
  | case2 j hdigit =>
    rw [Bool.not_eq_true] at hdigit
    refine ⟨?_, ?_⟩
    . intro k hk hlt
      omega
    . rw [← isDigit_charAt]
      exact hdigit

theorem length_le_of_charAt {resp : List Byte} {i : Nat} (hnul : 0 ∉ resp) (h : charAt resp i = 0)
    : resp.length ≤ i := by
  by_contra hlt
  unfold charAt at h
  rw [List.getD_eq_getElem _ _ (Nat.not_le.mp hlt)] at h
  exact hnul (List.mem_of_getElem h)

/-
The loop has passed no run of the right length, and is not inside of one.
-/
theorem scanImei_from {resp : List Byte} (hnul : 0 ∉ resp) (i : Nat)
    (hpassed : ∀ k, RunAt isDigit resp modemImeiLen k → i ≤ k)
    (hbefore : ∀ k, k + 1 = i → holdsAt isDigit resp k = false ∨ holdsAt isDigit resp i = false)
    : FirstRun isDigit resp modemImeiLen (scanImei resp i) := by
  fun_induction scanImei resp i with
  | case1 i hend =>
    have hlen := length_le_of_charAt hnul hend
    constructor
    . intro k h
      cases h
    . intro k k' h
      cases h
    . intro _ k hk
      have hstart := hk.inside 0 (by decide)
      have hle := hpassed k hk
      unfold holdsAt at hstart
      rw [List.getElem?_eq_none (by omega)] at hstart
      cases hstart
  | case2 i _ hdigit j hlen =>
    -- the digits from here on are as many as an IMEI has, and no digit is before them
    obtain ⟨hdigits, hbehind⟩ := digitsEnd_spec resp i
    have hj : digitsEnd resp i = i + modemImeiLen := by
      have hpos : 0 < modemImeiLen := by decide
      change digitsEnd resp i - i = modemImeiLen at hlen
      omega
    rw [isDigit_charAt] at hdigit
    constructor
    . intro k h
      cases h
      constructor
      . intro m hm
        apply hdigits
        . apply Nat.le_add_right
        . omega
      . rw [← hj]
        exact hbehind
      . intro k hk
        cases hbefore k hk with
        | inl h => exact h
        | inr h =>
          rw [hdigit] at h
          cases h
    . intro k k' h hk'
      cases h
      apply hpassed k' hk'
    . intro h
      cases h
  | case3 i _ hdigit j hlen ih =>
    obtain ⟨hdigits, hbehind⟩ := digitsEnd_spec resp i
    have hle := le_digitsEnd resp i
    apply ih
    . intro k hk
      have hfrom := hpassed k hk
      by_contra hlt
      -- it would be all of the digits that are passed here, which are too few or too many
      obtain ⟨hfirst, hlast⟩ := hk.of_block hdigits hbehind hfrom (Nat.not_le.mp hlt)
      apply hlen
      change digitsEnd resp i - i = modemImeiLen
      omega
    . intro k _
      exact Or.inr hbehind
  | case4 i _ hdigit ih =>
    rw [isDigit_charAt, Bool.not_eq_true] at hdigit
    apply ih
    . intro k hk
      have hfrom := hpassed k hk
      have hne : k ≠ i := by
        intro hsame
        have hstart := hk.inside 0 (by decide)
        rw [hsame, Nat.add_zero, hdigit] at hstart
        cases hstart
      omega
    . intro k hk
      left
      rw [Nat.succ.inj hk]
      exact hdigit

theorem scanImei_firstRun {resp : List Byte} (hnul : 0 ∉ resp)
    : FirstRun isDigit resp modemImeiLen (scanImei resp 0) := by
  apply scanImei_from hnul
  . intro k _
    apply Nat.zero_le
  . intro k hk
    cases hk

theorem zero_not_mem_answer (port : AtPort) : 0 ∉ port.answer := by
  unfold AtPort.answer bytesOf cString
  intro h
  obtain ⟨b, hb, hzero⟩ := List.mem_map.mp h
  have hne := List.mem_takeWhile_imp hb
  rw [decide_eq_true_iff] at hne
  exact hne hzero

/-
The caller gets the first 255 bytes of the text that the modem has answered.
-/
theorem atCmd_resp {stack : Memory} {port : AtPort} (hok : (atCmd stack atCgsn 256 port).rc = 1)
    : (atCmd stack atCgsn 256 port).resp = some (port.answer.take 255) := by
  unfold atCmd at hok ⊢
  by_cases hopen : port.atFd = true
  . rw [if_pos hopen]
    rfl
  . rw [if_neg hopen] at hok
    cases hok

theorem firstRun_answer (port : AtPort)
    : FirstRun isDigit (port.answer.take 255) modemImeiLen (scanImei (port.answer.take 255) 0) := by
  apply scanImei_firstRun
  intro h
  exact zero_not_mem_answer port (List.mem_of_mem_take h)

theorem take_drop_answer {text : List Byte} {start : Nat} (h : start + modemImeiLen ≤ 255)
    : ((text.take 255).drop start).take modemImeiLen = (text.drop start).take modemImeiLen := by
  rw [List.drop_take, List.take_take, Nat.min_eq_left (by omega)]

/-
An IMEI that is kept stands in the answer that it has been found in.
-/
def ImeiInv (s : ImeiLog) : Prop :=
  s.state.imeiValid = true → RunAt isDigit s.answer modemImeiLen s.start
    ∧ s.state.imei = (s.answer.drop s.start).take modemImeiLen

section

variable {s : ImeiLog} {buf : Bool} {size : Nat} {stack : Memory} {port : AtPort}

theorem cutMatters_iff
    : CutMatters (imeiMachine.visit s (.getImei buf size stack port))
        ↔ Asks s.state buf size stack port ∧ ¬CutHarmless isDigit port.answer modemImeiLen 255 := by
  constructor
  . intro hcut
    obtain ⟨_, _, _, _, hevent, h⟩ := hcut
    cases hevent
    exact h
  . intro h
    exact ⟨buf, size, stack, port, rfl, h⟩

theorem modemGetImei_asks (h : Asks s.state buf size stack port)
    : modemGetImei s.state buf size stack port
        = match scanImei (port.answer.take 255) 0 with
          | none => (s.state, ⟨-1, none⟩)
          | some start =>
            ({ s.state with
                imei := ((port.answer.take 255).drop start).take modemImeiLen
                imeiValid := true },
              ⟨0, some (((port.answer.take 255).drop start).take modemImeiLen ++ [0])⟩) := by
  obtain ⟨hinited, hbuf, hsize, hvalid, hok⟩ := h
  unfold modemGetImei
  dsimp only
  rw [if_neg (by simp [hinited, hbuf]; omega), if_neg (by simp [hvalid]), if_neg (by simp [hok]),
    atCmd_resp hok]
  rfl

theorem imeiVisit_eq (h : Asks s.state buf size stack port)
    : imeiMachine.visit s (.getImei buf size stack port)
        = ⟨s, .getImei buf size stack port,
            ⟨(modemGetImei s.state buf size stack port).1, port.answer,
              (scanImei (port.answer.take 255) 0).getD 0⟩,
            some (modemGetImei s.state buf size stack port).2⟩ := by
  simp only [Machine.visit, imeiMachine]
  rw [if_pos h]

theorem imeiRight_failed {v : ImeiVisit} (hobs : v.obs = some ⟨-1, none⟩)
    (hno : ¬(Answered v.pre.state v.event ∧ ∃ k, RunAt isDigit v.post.answer modemImeiLen k))
    : ImeiRight v := by
  intro r hr
  rw [hobs] at hr
  cases hr
  constructor
  . constructor
    . intro h
      cases h
    . intro h
      exact absurd h hno
  . intro h
    cases h

/-
The call asks the modem, so that all depends on what the search in the cut answer finds.
-/
theorem imeiVisit_asks (h : Asks s.state buf size stack port)
    : let v := imeiMachine.visit s (.getImei buf size stack port)
      (¬CutMatters v → ImeiInv v.post) ∧ (ImeiRight v ↔ ¬CutMatters v) := by
  have hfirst := firstRun_answer port
  have hharmless := firstRun_take_iff (by decide) hfirst
  have hanswered : Answered s.state (.getImei buf size stack port) :=
    ⟨h.1, h.2.1, h.2.2.1, Or.inr h.2.2.2.2⟩
  have hcut : ¬CutMatters (imeiMachine.visit s (.getImei buf size stack port))
      ↔ CutHarmless isDigit port.answer modemImeiLen 255 := by
    rw [cutMatters_iff, not_and_not_right]
    exact ⟨fun himp => himp h, fun hharmless _ => hharmless⟩
  dsimp only
  rw [hcut, ← hharmless, imeiVisit_eq h, modemGetImei_asks h]
  cases hfound : scanImei (port.answer.take 255) 0 with
  | none =>
    constructor
    . intro _ hvalid
      rw [h.2.2.2.1] at hvalid
      cases hvalid
    . constructor
      . intro hright
        obtain ⟨hret, _⟩ := hright _ rfl
        refine ⟨⟨fun h => ?_, fun h => ?_⟩, fun k h => ?_⟩
        . obtain ⟨k, h⟩ := h
          cases h
        . cases hret.mpr ⟨hanswered, h⟩
        . cases h
      . intro hiff
        apply imeiRight_failed rfl
        intro hanswered
        obtain ⟨k, h⟩ := hiff.1.mpr hanswered.2
        cases h
  | some start =>
    rw [hfound] at hfirst
    have hle := ((hfirst.run start rfl).of_take (by decide)).1
    dsimp only
    rw [take_drop_answer hle]
    constructor
    . intro hiff _
      exact ⟨hiff.2 start rfl, rfl⟩
    . constructor
      . intro hright
        obtain ⟨hret, hbuf⟩ := hright _ rfl
        refine ⟨⟨fun _ => (hret.mp rfl).2, fun _ => ⟨start, rfl⟩⟩, fun k h => ?_⟩
        cases h
        exact (hbuf rfl).1
      . intro hiff r hr
        cases hr
        have hrun := hiff.2 start rfl
        exact ⟨⟨fun _ => ⟨hanswered, start, hrun⟩, fun _ => rfl⟩, fun _ => ⟨hrun, rfl⟩⟩

theorem modemGetImei_kept (hinited : s.state.inited = true) (hbuf : buf = true)
    (hsize : modemImeiLen + 1 ≤ size) (hvalid : s.state.imeiValid = true)
    : modemGetImei s.state buf size stack port = (s.state, ⟨0, some (s.state.imei ++ [0])⟩) := by
  unfold modemGetImei
  rw [if_neg (by simp [hinited, hbuf]; omega), if_pos hvalid]

/-
The call is refused, or the command gets no answer.
-/
theorem modemGetImei_failed (hno : ¬Answered s.state (.getImei buf size stack port))
    : modemGetImei s.state buf size stack port = (s.state, ⟨-1, none⟩) := by
  unfold modemGetImei
  dsimp only
  by_cases hrefused : (!s.state.inited || !buf || decide (size < modemImeiLen + 1)) = true
  . rw [if_pos hrefused]
  . rw [if_neg hrefused]
    rw [Bool.not_eq_true, Bool.or_eq_false_iff, Bool.or_eq_false_iff, Bool.not_eq_false',
      Bool.not_eq_false', decide_eq_false_iff_not, Nat.not_lt] at hrefused
    obtain ⟨⟨hinited, hbuf⟩, hsize⟩ := hrefused
    have hvalid : ¬s.state.imeiValid = true := by
      intro hvalid
      exact hno ⟨hinited, hbuf, hsize, Or.inl hvalid⟩
    have hfailed : (atCmd stack atCgsn 256 port).rc ≠ 1 := by
      intro hok
      exact hno ⟨hinited, hbuf, hsize, Or.inr hok⟩
    rw [if_neg hvalid, if_pos hfailed]

/-
The call fails before it has an answer, or returns the IMEI that is kept.
-/
theorem imeiVisit_not_asks (hs : ImeiInv s) (h : ¬Asks s.state buf size stack port)
    : let v := imeiMachine.visit s (.getImei buf size stack port)
      ImeiInv v.post ∧ ImeiRight v := by
  have hvisit : imeiMachine.visit s (.getImei buf size stack port)
      = ⟨s, .getImei buf size stack port,
          ⟨(modemGetImei s.state buf size stack port).1, s.answer, s.start⟩,
          some (modemGetImei s.state buf size stack port).2⟩ := by
    simp only [Machine.visit, imeiMachine]
    rw [if_neg h]
  dsimp only
  rw [hvisit]
  by_cases hyes : Answered s.state (.getImei buf size stack port)
  . obtain ⟨hinited, hbuf, hsize, hor⟩ := id hyes
    have hvalid : s.state.imeiValid = true := by
      by_contra hnot
      apply h
      exact ⟨hinited, hbuf, hsize, Bool.eq_false_iff.mpr hnot, hor.resolve_left hnot⟩
    obtain ⟨hrun, himei⟩ := hs hvalid
    rw [modemGetImei_kept hinited hbuf hsize hvalid]
    constructor
    . intro _
      exact ⟨hrun, himei⟩
    . intro r hr
      cases hr
      refine ⟨⟨fun _ => ⟨hyes, _, hrun⟩, fun _ => rfl⟩, fun _ => ⟨hrun, ?_⟩⟩
      rw [himei]
  . rw [modemGetImei_failed hyes]
    constructor
    . exact hs
    . apply imeiRight_failed rfl
      intro hanswered
      exact hyes hanswered.1

end

theorem imeiMachine_visit_iff {s : ImeiLog} (hs : ImeiInv s) (event : ImeiEvent)
    : let v := imeiMachine.visit s event
      (¬CutMatters v → ImeiInv v.post) ∧ (ImeiRight v ↔ ¬CutMatters v) := by
  cases event with
  | init succeeds =>
    have hcut : ¬CutMatters (imeiMachine.visit s (.init succeeds)) := by
      intro h
      obtain ⟨_, _, _, _, hevent, _⟩ := h
      cases hevent
    have hright : ImeiRight (imeiMachine.visit s (.init succeeds)) := by
      intro r hr
      cases hr
    refine ⟨fun _ => ?_, fun _ => hcut, fun _ => hright⟩
    intro hvalid
    simp only [imeiMachine, Machine.visit_post, modemInitImei] at hvalid ⊢
    split at hvalid
    next hinited =>
      rw [if_pos hinited]
      exact hs hvalid
    next => cases hvalid
  | deinit =>
    have hcut : ¬CutMatters (imeiMachine.visit s .deinit) := by
      intro h
      obtain ⟨_, _, _, _, hevent, _⟩ := h
      cases hevent
    have hright : ImeiRight (imeiMachine.visit s .deinit) := by
      intro r hr
      cases hr
    exact ⟨fun _ => hs, fun _ => hcut, fun _ => hright⟩
  | getImei buf size stack port =>
    by_cases hasks : Asks s.state buf size stack port
    . apply imeiVisit_asks hasks
    . obtain ⟨hinv, hright⟩ := imeiVisit_not_asks hs hasks
      have hcut : ¬CutMatters (imeiMachine.visit s (.getImei buf size stack port)) := by
        rw [cutMatters_iff]
        intro h
        exact hasks h.1
      exact ⟨fun _ => hinv, fun _ => hcut, fun _ => hright⟩

/-
In a run each call returns a maximal run of 15 digits exactly where its answer holds one, if and only if the
cut of no answer matters.
-/
theorem imeiMachine_right_iff (events : List ImeiEvent)
    : (∀ v ∈ imeiMachine.visits .init events, ImeiRight v)
        ↔ ∀ v ∈ imeiMachine.visits .init events, ¬CutMatters v := by
  apply Machine.forall_visits_iff ImeiInv
  . intro s event hs
    apply (imeiMachine_visit_iff hs event).1
  . intro s event hs
    apply (imeiMachine_visit_iff hs event).2
  . intro h
    cases h

theorem digitsEnd_skip {resp : List Byte} (n j : Nat)
    (h : ∀ i, i < n → isDigit (charAt resp (j + i)) = true)
    : digitsEnd resp j = digitsEnd resp (j + n) := by
  induction n with
  | zero => rfl
  | succ n ih =>
    rw [ih (fun i hi => h i (Nat.lt_succ_of_lt hi)), digitsEnd_of_isDigit (h n (Nat.lt_succ_self n))]
    rfl

theorem scanImei_skip {resp : List Byte} (n j : Nat)
    (h : ∀ i, i < n → charAt resp (j + i) ≠ 0 ∧ isDigit (charAt resp (j + i)) = false)
    : scanImei resp j = scanImei resp (j + n) := by
  induction n with
  | zero => rfl
  | succ n ih =>
    obtain ⟨hne, hdigit⟩ := h n (Nat.lt_succ_self n)
    rw [ih (fun i hi => h i (Nat.lt_succ_of_lt hi)), scanImei, if_neg hne, hdigit]
    rfl

/-
An answer with 16 digits from its byte 240 on.
-/
def sixteenDigits : List RxByte :=
  RxByte.tag (.answer 0 none)
    (List.replicate 240 0x61 ++ List.replicate 16 0x31 ++ crLf ++ okText ++ crLf)

def sixteenPort : AtPort :=
  ⟨true, [.wrote 10], [sixteenDigits], sixteenDigits⟩

theorem scanImei_sixteenDigits : scanImei (sixteenPort.answer.take 255) 0 = some 240 := by
  have hdigits : digitsEnd (sixteenPort.answer.take 255) 240 = 255 := by
    rw [digitsEnd_skip 15 240 (by decide +kernel), digitsEnd_of_not (by decide +kernel)]
  rw [scanImei_skip 240 0 (by decide +kernel), scanImei, if_neg (by decide +kernel), if_pos (by decide +kernel)]
  dsimp only
  rw [hdigits]
  rfl

theorem imeiMachine_returns_part
    : ∃ v ∈ imeiMachine.visits .init [.init true, .getImei true 16 (fun _ => 0) sixteenPort],
        v.obs = some ⟨0, some (List.replicate 15 0x31 ++ [0])⟩ ∧ ¬ImeiRight v := by
  refine ⟨_, .tail _ (.head _), ?_⟩
  have hasks : Asks (imeiMachine.step .init (.init true)).1.state true 16 (fun _ => 0) sixteenPort := by
    decide +kernel
  rw [imeiVisit_eq hasks, modemGetImei_asks hasks, scanImei_sixteenDigits]
  constructor
  . decide +kernel
  . intro h
    obtain ⟨hrun, _⟩ := (h _ rfl).2 rfl
    have hbehind := hrun.behind
    exact absurd hbehind (by decide +kernel)

end Modem

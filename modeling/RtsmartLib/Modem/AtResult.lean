import RtsmartLib.Modem.AtCmd

/-!
This module contains what the result of a command may be taken from, and the texts that `at_cmd` takes
for the result of the wrong command.
-/

namespace Modem

open Lib

/-
A part of the captured bytes that reads as `needle`, all of it sent for the origins of `sent`.
-/
def Received (captured : List RxByte) (needle : List Byte) (sent : Origin → Prop) : Prop :=
  ∃ part, part <:+: captured ∧ bytesOf part = needle ∧ ∀ b ∈ part, sent b.origin

/-
The command's own final result OK.
-/
def ReceivedOk (number : Nat) (captured : List RxByte) : Prop :=
  Received captured okCr (fun origin => origin = .answer number (some true))
    ∨ Received captured okLf (fun origin => origin = .answer number (some true))

/-
An ERROR that was not sent for another command.
-/
def ReceivedError (number : Nat) (captured : List RxByte) : Prop :=
  Received captured errorText
    (fun origin => ∀ number' result, origin = .answer number' result → number' = number)

/--
A call reports success only if the modem answered OK to its own command and that is what was captured,
and an error only if one was captured that does not stem from another command.
-/
structure AtReturn.Faithful (ret : AtReturn) (answeredOk : List Nat) : Prop where
  ok : ret.rc = 1 → ret.call.number ∈ answeredOk
    ∧ ∃ looked, ret.looked = some looked ∧ ReceivedOk ret.call.number looked
  error : ret.rc = 0 → ∃ looked, ret.looked = some looked ∧ ReceivedError ret.call.number looked

abbrev AtVisit := Machine.Visit AtState AtEvent (Option AtReturn)

def ResultsFaithful (v : AtVisit) : Prop :=
  ∀ ret, v.obs = some ret → ret.Faithful v.pre.answeredOk

/-
What the buffer holds of the captured bytes.
-/
def seen (captured : List RxByte) : List RxByte :=
  newest (atBufSize - 1) captured

theorem seen_nil : seen [] = [] := by
  apply newest_of_le
  apply Nat.zero_le

/-
What `at_cmd` searches for a result.
-/
def visible (captured : List RxByte) : List RxByte :=
  cString (seen captured)

/--
Bytes with a result that is not the command's own: an ERROR with a byte that was sent for another command, or
an OK with a byte that is not of the command's final result OK.
-/
def Stray (number : Nat) (bytes : List RxByte) : Prop :=
  ∃ part, part <:+: bytes ∧
    ((bytesOf part = errorText ∧ ∃ b ∈ part, ∃ number' result, b.origin = .answer number' result ∧ number' ≠ number)
      ∨ ((bytesOf part = okCr ∨ bytesOf part = okLf) ∧ ∃ b ∈ part, b.origin ≠ .answer number (some true)))

def inFlight (caller : CallerPc) : Option AtCall :=
  match caller with
  | .idle | .leaving _ _ _ => none
  | .writing call _ | .waiting call => some call

/-
The reader hands over a chunk that brings such a result in sight of a command that is written or waited for.
-/
def CapturesStray (v : AtVisit) : Prop :=
  match v.event, v.pre.reader, inFlight v.pre.caller with
  | .reader _ _, .capture chunk, some call => Stray call.number (visible (v.pre.captured ++ chunk))
  | _, _, _ => False

/-
Captured bytes in which `at_cmd` sees a result but none of its own was captured.
-/
def Misread (number : Nat) (captured : List RxByte) : Prop :=
  (atResult (seen captured) = 1 ∧ ¬ReceivedOk number captured)
    ∨ (atResult (seen captured) = 0 ∧ ¬ReceivedError number captured)

/-
Every byte of a final result OK was sent with that result.
-/
def SentOk (answeredOk : List Nat) (bytes : List RxByte) : Prop :=
  ∀ b ∈ bytes, ∀ number, b.origin = .answer number (some true) → number ∈ answeredOk

def ReaderPc.held (reader : ReaderPc) : List RxByte :=
  match reader with
  | .capture chunk => chunk
  | _ => []

def CallerOk (s : AtState) : Prop :=
  match s.caller with
  | .idle => True
  | .writing _ _ | .waiting _ => s.atCapturing = true ∧ s.atBuf = seen s.captured
  | .leaving _ rc looked =>
    s.atCapturing = true ∧ s.atBuf = seen s.captured
      ∧ match looked with
        | none => rc = -1
        | some captured => rc = atResult (seen captured) ∧ SentOk s.answeredOk captured

/--
The buffer holds the newest bytes of what was captured since the command in flight was started, and a
result was found in them.
-/
structure AtInv (s : AtState) : Prop where
  caller : CallerOk s
  tty : SentOk s.answeredOk s.tty
  held : SentOk s.answeredOk s.reader.held
  captured : SentOk s.answeredOk s.captured

theorem sentOk_nil {answeredOk : List Nat} : SentOk answeredOk [] := by
  intro b hb
  cases hb

theorem AtInv.init : AtInv AtState.init := by
  constructor
  . trivial
  . apply sentOk_nil
  . apply sentOk_nil
  . apply sentOk_nil

section

variable {answeredOk : List Nat} {bytes bytes' : List RxByte}

theorem SentOk.append (h : SentOk answeredOk bytes) (h' : SentOk answeredOk bytes')
    : SentOk answeredOk (bytes ++ bytes') := by
  intro b hb
  rcases List.mem_append.mp hb with hb | hb
  . apply h b hb
  . apply h' b hb

theorem SentOk.of_subset (h : SentOk answeredOk bytes) (hsub : bytes' ⊆ bytes)
    : SentOk answeredOk bytes' := by
  intro b hb
  apply h b (hsub hb)

theorem SentOk.mono {answeredOk' : List Nat} (h : SentOk answeredOk bytes)
    (hsub : answeredOk ⊆ answeredOk') : SentOk answeredOk' bytes := by
  intro b hb number horigin
  apply hsub
  apply h b hb number horigin

theorem sentOk_tag {origin : Origin} (h : ∀ number, origin = .answer number (some true) →
      number ∈ answeredOk) (text : List Byte)
    : SentOk answeredOk (RxByte.tag origin text) := by
  intro b hb number horigin
  unfold RxByte.tag at hb
  rw [List.mem_map] at hb
  obtain ⟨byte, _, hbyte⟩ := hb
  apply h
  rw [← horigin, ← hbyte]

theorem ReceivedOk.answered {number : Nat} (h : ReceivedOk number bytes)
    (hsent : SentOk answeredOk bytes) : number ∈ answeredOk := by
  have hpart : ∀ needle, needle ≠ [] →
      Received bytes needle (fun origin => origin = .answer number (some true)) →
        number ∈ answeredOk := by
    intro needle hne ⟨part, hpiece, hbytes, horigin⟩
    cases part with
    | nil =>
      apply absurd hbytes.symm hne
    | cons b part =>
      have hmem : b ∈ b :: part := List.mem_cons_self
      apply hsent b (hpiece.subset hmem) number
      apply horigin b hmem
  rcases h with h | h
  . apply hpart okCr (by decide) h
  . apply hpart okLf (by decide) h

end

theorem CallerOk.mono {s s' : AtState} (h : CallerOk s) (hcaller : s'.caller = s.caller)
    (hcapturing : s'.atCapturing = s.atCapturing) (hbuf : s'.atBuf = s.atBuf)
    (hcaptured : s'.captured = s.captured) (hsub : s.answeredOk ⊆ s'.answeredOk)
    : CallerOk s' := by
  unfold CallerOk at h ⊢
  rw [hcaller, hcapturing, hbuf, hcaptured]
  cases hcases : s.caller with
  | idle =>
    trivial
  | writing call off =>
    rw [hcases] at h
    apply h
  | waiting call =>
    rw [hcases] at h
    apply h
  | leaving call rc looked =>
    rw [hcases] at h
    obtain ⟨hcap, hbuf, hlooked⟩ := h
    refine ⟨hcap, hbuf, ?_⟩
    cases looked with
    | none =>
      apply hlooked
    | some captured =>
      constructor
      . apply hlooked.1
      . apply hlooked.2.mono hsub

theorem AtInv.sent {s : AtState} (hinv : AtInv s) {tty : List RxByte}
    {outstanding answeredOk : List Nat} (hsub : s.answeredOk ⊆ answeredOk)
    (htty : SentOk answeredOk tty) : AtInv { s with tty, outstanding, answeredOk } := by
  constructor
  . apply CallerOk.mono hinv.caller
    . rfl
    . rfl
    . rfl
    . rfl
    . apply hsub
  . apply htty
  . apply hinv.held.mono hsub
  . apply hinv.captured.mono hsub

/-
The reader moves on, and what it holds was on the line.
-/
theorem AtInv.read {s : AtState} (hinv : AtInv s) {atFd atReopen : Bool} {tty : List RxByte} {reader : ReaderPc}
    (htty : SentOk s.answeredOk tty) (hheld : SentOk s.answeredOk reader.held)
    : AtInv { s with atFd, atReopen, tty, reader } := by
  constructor
  . apply hinv.caller.mono rfl rfl rfl rfl (List.Subset.refl _)
  . apply htty
  . apply hheld
  . apply hinv.captured

/-
The caller moves on, and what has been read and captured stays.
-/
theorem AtInv.move {s : AtState} (hinv : AtInv s) {atCapturing : Bool} {caller : CallerPc} {issued : Nat}
    {outstanding : List Nat} (hcaller : CallerOk { s with atCapturing, caller, issued, outstanding })
    : AtInv { s with atCapturing, caller, issued, outstanding } := by
  constructor
  . apply hcaller
  . apply hinv.tty
  . apply hinv.held
  . apply hinv.captured

theorem modemSend_inv {s : AtState} (hinv : AtInv s) (send : ModemSend)
    : AtInv (modemSend s send) := by
  unfold modemSend
  cases send with
  | text number text =>
    dsimp only
    split
    . apply hinv.sent (List.Subset.refl _)
      apply hinv.tty.append
      apply sentOk_tag
      intro number' h
      cases h
    . apply hinv
  | ok number =>
    dsimp only
    split
    . have hsub : s.answeredOk ⊆ number :: s.answeredOk := List.subset_cons_self number s.answeredOk
      apply hinv.sent hsub
      apply (hinv.tty.mono hsub).append
      apply sentOk_tag
      intro number' h
      cases h
      apply List.mem_cons_self
    . apply hinv
  | error number before after =>
    dsimp only
    split
    . apply hinv.sent (List.Subset.refl _)
      apply hinv.tty.append
      apply sentOk_tag
      intro number' h
      cases h
    . apply hinv
  | unsolicited text =>
    apply hinv.sent (List.Subset.refl _)
    apply hinv.tty.append
    apply sentOk_tag
    intro number' h
    cases h

/-
The buffer and the captured bytes take a chunk alike.
-/
theorem atCaptureChunk_inv {s : AtState} (hinv : AtInv s) {chunk : List RxByte}
    (hchunk : SentOk s.answeredOk chunk) : AtInv (atCaptureChunk s chunk) := by
  unfold atCaptureChunk
  split
  . constructor
    . have hcaller := hinv.caller
      have hbuf : ∀ {captured : List RxByte}, s.atBuf = seen captured →
          atCapture s.atBuf chunk = seen (captured ++ chunk) := by
        intro captured h
        rw [h]
        apply atCapture_newest
      unfold CallerOk at hcaller ⊢
      dsimp only
      cases hcases : s.caller with
      | idle =>
        trivial
      | writing call off =>
        rw [hcases] at hcaller
        exact ⟨hcaller.1, hbuf hcaller.2⟩
      | waiting call =>
        rw [hcases] at hcaller
        exact ⟨hcaller.1, hbuf hcaller.2⟩
      | leaving call rc looked =>
        rw [hcases] at hcaller
        exact ⟨hcaller.1, hbuf hcaller.2.1, hcaller.2.2⟩
    . apply hinv.tty
    . apply hinv.held
    . apply hinv.captured.append hchunk
  . apply hinv

theorem atReaderStep_inv {s : AtState} (hinv : AtInv s) (opens : Bool) (outcome : ReadOutcome)
    : AtInv (atReaderStep s opens outcome) := by
  unfold atReaderStep
  split
  . apply hinv.read hinv.tty sentOk_nil
  . apply hinv.read hinv.tty sentOk_nil
  . split
    . apply hinv.read hinv.tty sentOk_nil
    . split
      . apply hinv.read hinv.tty sentOk_nil
      . apply hinv.read hinv.tty sentOk_nil
  . split
    . -- what is read leaves the line and is held
      dsimp only
      split
      . apply hinv.read
        . apply hinv.tty.of_subset (List.drop_subset _ _)
        . apply sentOk_nil
      . apply hinv.read
        . apply hinv.tty.of_subset (List.drop_subset _ _)
        . apply hinv.tty.of_subset (List.take_subset _ _)
    . apply hinv.read hinv.tty sentOk_nil
    . apply hinv.read hinv.tty sentOk_nil
  next chunk hreader =>
    have hheld := hinv.held
    rw [hreader] at hheld
    apply atCaptureChunk_inv
    . apply hinv.read hinv.tty sentOk_nil
    . apply hheld

section

variable {s : AtState} {call : AtCall}

/-
While a command is written or waited for, the caller may move on as long as it stays with what the
buffer has captured.
-/
theorem AtInv.leave (hinv : AtInv s) (hseen : s.atCapturing = true ∧ s.atBuf = seen s.captured)
    (call : AtCall) : AtInv { s with caller := .leaving call (-1) none } := by
  apply hinv.move
  exact ⟨hseen.1, hseen.2, rfl⟩

theorem atCmdStart_inv (hinv : AtInv s) (hidle : s.caller = .idle) (cmd : List Byte)
    (respSize : Nat) : AtInv (atCmdStart s cmd respSize).1 := by
  unfold atCmdStart
  dsimp only
  split
  . -- the capture starts with an empty buffer
    constructor
    . exact ⟨rfl, seen_nil.symm⟩
    . apply hinv.tty
    . apply hinv.held
    . apply sentOk_nil
  . apply hinv.move
    unfold CallerOk
    dsimp only
    rw [hidle]
    trivial

theorem atWriteAllStep_inv (hinv : AtInv s)
    (hseen : s.atCapturing = true ∧ s.atBuf = seen s.captured) (off : Nat) (outcome : WriteOutcome)
    : AtInv (atWriteAllStep s call off outcome) := by
  unfold atWriteAllStep
  split
  . split
    . apply hinv
    split
    . apply hinv.leave hseen
    split
    . apply hinv.move
      exact hseen
    . apply hinv.move
      exact hseen
  . apply hinv
  . apply hinv.leave hseen
  . apply hinv.leave hseen

theorem atCmdLook_inv (hinv : AtInv s) (hseen : s.atCapturing = true ∧ s.atBuf = seen s.captured)
    : AtInv (atCmdLook s call) := by
  unfold atCmdLook
  dsimp only
  split
  . -- what is looked at is what was captured so far
    apply hinv.move
    unfold CallerOk
    dsimp only
    rw [← hseen.2]
    exact ⟨hseen.1, rfl, rfl, hinv.captured⟩
  . apply hinv

end

theorem atStep_inv {s : AtState} (hinv : AtInv s) (event : AtEvent) : AtInv (atStep s event).1 := by
  have hcaller := hinv.caller
  unfold CallerOk at hcaller
  unfold atStep
  split
  . apply modemSend_inv hinv
  next n =>
    apply hinv.read
    . apply hinv.tty.of_subset (List.drop_subset _ _)
    . apply hinv.held
  . apply atReaderStep_inv hinv
  . apply hinv.read hinv.tty hinv.held
  next hidle =>
    apply atCmdStart_inv hinv hidle
  next outcome call off hwriting =>
    rw [hwriting] at hcaller
    apply atWriteAllStep_inv hinv hcaller
  next call hwaiting =>
    rw [hwaiting] at hcaller
    apply atCmdLook_inv hinv hcaller
  next call hwaiting =>
    rw [hwaiting] at hcaller
    apply hinv.leave hcaller
  . apply hinv.move
    trivial
  . apply hinv

theorem atResult_eq_zero {buf : List RxByte}
    : atResult buf = 0 ↔ strstr buf errorText = true := by
  unfold atResult
  constructor
  . intro h
    split at h
    next herror =>
      apply herror
    next =>
      split at h
      . cases h
      . cases h
  . intro h
    rw [if_pos h]

theorem atResult_eq_one {buf : List RxByte}
    : atResult buf = 1
        ↔ ¬strstr buf errorText = true ∧ (strstr buf okCr || strstr buf okLf) = true := by
  unfold atResult
  constructor
  . intro h
    split at h
    . cases h
    next herror =>
      split at h
      next hok =>
        exact ⟨herror, hok⟩
      . cases h
  . intro h
    rw [if_neg h.1, if_pos h.2]

theorem not_misread_iff {number : Nat} {captured : List RxByte}
    : ¬Misread number captured
        ↔ (atResult (seen captured) = 1 → ReceivedOk number captured)
            ∧ (atResult (seen captured) = 0 → ReceivedError number captured) := by
  unfold Misread
  rw [not_or, not_and, not_and, Classical.not_not, Classical.not_not]

theorem Misread.atResult_nonneg {number : Nat} {captured : List RxByte} (h : Misread number captured)
    : 0 ≤ atResult (seen captured) := by
  cases h with
  | inl hone => omega
  | inr hzero => omega

theorem visible_within (captured : List RxByte) : visible captured <:+: captured := by
  apply List.IsInfix.trans
  . apply List.IsPrefix.isInfix
    apply List.takeWhile_prefix
  . apply List.IsSuffix.isInfix
    apply newest_suffix

theorem strstr_seen {captured : List RxByte} {needle : List Byte} (h : strstr (seen captured) needle = true)
    : ∃ part, part <:+: visible captured ∧ bytesOf part = needle := by
  unfold strstr bytesOf at h
  rw [decide_eq_true_eq, List.infix_map_iff] at h
  obtain ⟨part, hpiece, hpart⟩ := h
  exact ⟨part, hpiece, hpart.symm⟩

section

variable {number : Nat} {captured : List RxByte}

/-
An OK in sight is the command's own where no other command's is.
-/
theorem received_of_not_stray (hclean : ¬Stray number (visible captured)) {needle : List Byte}
    (hneedle : needle = okCr ∨ needle = okLf) (hfound : strstr (seen captured) needle = true)
    : Received captured needle (fun origin => origin = .answer number (some true)) := by
  obtain ⟨part, hpiece, hpart⟩ := strstr_seen hfound
  refine ⟨part, hpiece.trans (visible_within captured), hpart, ?_⟩
  intro b hb
  apply Classical.byContradiction
  intro hother
  apply hclean
  refine ⟨part, hpiece, Or.inr ⟨?_, b, hb, hother⟩⟩
  rw [hpart]
  exact hneedle

theorem not_misread_of_not_stray (hclean : ¬Stray number (visible captured)) : ¬Misread number captured := by
  rw [not_misread_iff, atResult_eq_one, atResult_eq_zero]
  constructor
  . intro ⟨_, hfound⟩
    rw [Bool.or_eq_true] at hfound
    cases hfound with
    | inl hcr => exact Or.inl (received_of_not_stray hclean (Or.inl rfl) hcr)
    | inr hlf => exact Or.inr (received_of_not_stray hclean (Or.inr rfl) hlf)
  . intro hfound
    obtain ⟨part, hpiece, hpart⟩ := strstr_seen hfound
    refine ⟨part, hpiece.trans (visible_within captured), hpart, ?_⟩
    intro b hb number' result horigin
    apply Classical.byContradiction
    intro hne
    exact hclean ⟨part, hpiece, Or.inl ⟨hpart, b, hb, number', result, horigin, hne⟩⟩

theorem not_stray_of_own (hown : ∀ b ∈ captured, b.origin = .answer number (some true))
    : ¬Stray number captured := by
  intro ⟨part, hpiece, hstray⟩
  cases hstray with
  | inl herror =>
    obtain ⟨_, b, hb, number', result, horigin, hne⟩ := herror
    rw [hown b (hpiece.subset hb)] at horigin
    cases horigin
    exact hne rfl
  | inr hok =>
    obtain ⟨_, b, hb, hother⟩ := hok
    exact hother (hown b (hpiece.subset hb))

/-
Nothing but the command's own result has been captured or is held.
-/
theorem not_capturesStray_of_own {v : AtVisit}
    (hown : ∀ call ∈ inFlight v.pre.caller, ∀ b ∈ v.pre.captured ++ v.pre.reader.held,
      b.origin = .answer call.number (some true))
    : ¬CapturesStray v := by
  unfold CapturesStray
  split
  next chunk call _ hreader hcaller =>
    apply not_stray_of_own
    intro b hb
    apply hown call hcaller
    rw [hreader]
    exact (visible_within _).subset hb
  . exact id

theorem not_stray_nil : ¬Stray number (visible []) := by
  apply not_stray_of_own
  intro b hb
  have hempty : visible [] = [] := by
    unfold visible
    rw [seen_nil]
    rfl
  rw [hempty] at hb
  cases hb

end

/-
No other result is in sight of the command in flight, and the one that was found is its own.
-/
def OwnResult (s : AtState) : Prop :=
  match s.caller with
  | .idle => True
  | .writing call _ | .waiting call => ¬Stray call.number (visible s.captured)
  | .leaving call _ looked => ∀ captured, looked = some captured → ¬Misread call.number captured

theorem OwnResult.mono {s s' : AtState} (h : OwnResult s) (hcaller : s'.caller = s.caller)
    (hcaptured : s'.captured = s.captured) : OwnResult s' := by
  unfold OwnResult
  rw [hcaller, hcaptured]
  exact h

theorem modemSend_own {s : AtState} (h : OwnResult s) (send : ModemSend) : OwnResult (modemSend s send) := by
  unfold modemSend
  split
  . split
    . apply h.mono rfl rfl
    . exact h
  . split
    . apply h.mono rfl rfl
    . exact h
  . split
    . apply h.mono rfl rfl
    . exact h
  . apply h.mono rfl rfl

/-
Only a capture changes what is in sight.
-/
theorem atReaderStep_own {s : AtState} (h : OwnResult s) {opens : Bool} {outcome : ReadOutcome}
    (hclean : ¬CapturesStray (atMachine.visit s (.reader opens outcome)))
    : OwnResult (atReaderStep s opens outcome) := by
  unfold atReaderStep
  split
  . apply h.mono rfl rfl
  . apply h.mono rfl rfl
  . split
    . apply h.mono rfl rfl
    . split
      . apply h.mono rfl rfl
      . apply h.mono rfl rfl
  . split
    . dsimp only
      split
      . apply h.mono rfl rfl
      . apply h.mono rfl rfl
    . apply h.mono rfl rfl
    . apply h.mono rfl rfl
  next chunk hreader =>
    unfold atCaptureChunk
    split
    . unfold OwnResult at h ⊢
      dsimp only
      simp only [CapturesStray, Machine.visit_event, Machine.visit_pre, hreader] at hclean
      cases hcaller : s.caller with
      | idle => trivial
      | writing call off =>
        rw [hcaller] at hclean
        exact hclean
      | waiting call =>
        rw [hcaller] at hclean
        exact hclean
      | leaving call rc looked =>
        rw [hcaller] at h
        exact h
    . apply h.mono rfl rfl

theorem atWriteAllStep_own {s : AtState} {call : AtCall} {off : Nat} (hcaller : s.caller = .writing call off)
    (h : ¬Stray call.number (visible s.captured)) (outcome : WriteOutcome)
    : OwnResult (atWriteAllStep s call off outcome) := by
  have hsame : OwnResult s := by
    unfold OwnResult
    rw [hcaller]
    exact h
  have hleaves : OwnResult { s with caller := .leaving call (-1) none } := by
    intro captured hnone
    cases hnone
  unfold atWriteAllStep
  split
  . split
    . exact hsame
    split
    . exact hleaves
    split
    . exact h
    . exact h
  . exact hsame
  . exact hleaves
  . exact hleaves

theorem atStep_own {s : AtState} (h : OwnResult s) {event : AtEvent}
    (hclean : ¬CapturesStray (atMachine.visit s event))
    : OwnResult (atStep s event).1 := by
  have hown := h
  unfold OwnResult at hown
  unfold atStep
  split
  . apply modemSend_own h
  . apply h.mono rfl rfl
  . apply atReaderStep_own h hclean
  . apply h.mono rfl rfl
  next hidle =>
    unfold atCmdStart
    dsimp only
    split
    . exact not_stray_nil
    . unfold OwnResult
      dsimp only
      rw [hidle]
      trivial
  next outcome call off hwriting =>
    rw [hwriting] at hown
    apply atWriteAllStep_own hwriting hown
  next call hwaiting =>
    rw [hwaiting] at hown
    unfold atCmdLook
    dsimp only
    split
    . -- the result is found in what is in sight
      intro captured hlooked
      cases hlooked
      apply not_misread_of_not_stray hown
    . exact h
  . intro captured hlooked
    cases hlooked
  . trivial
  . exact h

theorem finish_faithful_iff {s : AtState} (hinv : AtInv s) {call : AtCall} {rc : Int}
    {looked : Option (List RxByte)} (hcaller : s.caller = .leaving call rc looked)
    (resp : List Byte)
    : (AtReturn.mk call rc looked resp).Faithful s.answeredOk
        ↔ ∀ captured, looked = some captured → ¬Misread call.number captured := by
  have hleaving := hinv.caller
  unfold CallerOk at hleaving
  rw [hcaller] at hleaving
  obtain ⟨_, _, hlooked⟩ := hleaving
  cases looked with
  | none =>
    dsimp only at hlooked
    constructor
    . intro _ captured h
      cases h
    . intro _
      constructor
      . intro h
        dsimp only at h
        omega
      . intro h
        dsimp only at h
        omega
  | some captured =>
    obtain ⟨hrc, hsent⟩ := hlooked
    constructor
    . intro hfaithful captured' h
      cases h
      rw [not_misread_iff, ← hrc]
      constructor
      . intro hone
        obtain ⟨_, _, h, hown⟩ := hfaithful.ok hone
        cases h
        apply hown
      . intro hzero
        obtain ⟨_, h, hown⟩ := hfaithful.error hzero
        cases h
        apply hown
    . intro hread
      have hread := hread captured rfl
      rw [not_misread_iff, ← hrc] at hread
      constructor
      . intro hone
        have hown := hread.1 hone
        exact ⟨hown.answered hsent, captured, rfl, hown⟩
      . intro hzero
        exact ⟨captured, rfl, hread.2 hzero⟩

/-
A call returns when it is finished, or at once if there is no port.
-/
theorem atStep_returns {s : AtState} {event : AtEvent} {ret : AtReturn} (h : (atStep s event).2 = some ret)
    : ret.rc = -1 ∨ ∃ call rc looked resp, s.caller = .leaving call rc looked ∧ ret = ⟨call, rc, looked, resp⟩ := by
  unfold atStep at h
  split at h
  . cases h
  . cases h
  . cases h
  . cases h
  . unfold atCmdStart at h
    dsimp only at h
    split at h
    . cases h
    . cases h
      exact Or.inl rfl
  . cases h
  . cases h
  . cases h
  next call rc looked hleaving =>
    cases h
    exact Or.inr ⟨call, rc, looked, _, hleaving, rfl⟩
  . cases h

theorem atMachine_own_faithful {s : AtState} (hinv : AtInv s) (hown : OwnResult s) (event : AtEvent)
    : ResultsFaithful (atMachine.visit s event) := by
  intro ret hret
  cases atStep_returns hret with
  | inl hrc =>
    constructor
    . intro hone
      omega
    . intro hzero
      omega
  | inr hleaving =>
    obtain ⟨call, rc, looked, resp, hcaller, rfl⟩ := hleaving
    unfold OwnResult at hown
    rw [hcaller] at hown
    exact (finish_faithful_iff hinv hcaller resp).mpr hown

theorem atStep_look {s : AtState} {call : AtCall} (hcaller : s.caller = .waiting call) (hfound : 0 ≤ atResult s.atBuf)
    : (atStep s .look).1.caller = .leaving call (atResult s.atBuf) (some s.captured) := by
  simp only [atStep, hcaller, atCmdLook]
  rw [if_pos hfound]

theorem atStep_finish {s : AtState} {call : AtCall} {rc : Int} {looked : Option (List RxByte)}
    (hcaller : s.caller = .leaving call rc looked)
    : (atStep s .finish).2 = some ⟨call, rc, looked, (bytesOf (cString s.atBuf)).take (call.respSize - 1)⟩ := by
  simp only [atStep, hcaller, atCmdFinish]

/-
What a waiting command misreads is what it returns when it looks now.
-/
theorem misread_look_finish {s : AtState} (hinv : AtInv s) {call : AtCall} (hcaller : s.caller = .waiting call)
    (hmisread : Misread call.number s.captured)
    : ¬ResultsFaithful (atMachine.visit (atStep s .look).1 .finish) := by
  have hbuf := hinv.caller
  unfold CallerOk at hbuf
  rw [hcaller] at hbuf
  have hfound : 0 ≤ atResult s.atBuf := by
    rw [hbuf.2]
    exact hmisread.atResult_nonneg
  have hlook := atStep_look hcaller hfound
  intro hfaithful
  have hret := hfaithful _ (atStep_finish hlook)
  exact (finish_faithful_iff (atStep_inv hinv .look) hlook _).mp hret s.captured rfl hmisread

/--
In a run in which no chunk is captured that brings another result in sight of the command in flight, the results of
all commands are their own. Whenever a command that waits misreads what was captured, its next look at the buffer makes
it return a result that is not.
-/
theorem atMachine_resultsFaithful (events : List AtEvent)
    : ((∀ v ∈ atMachine.visits AtState.init events, ¬CapturesStray v) →
        ∀ v ∈ atMachine.visits AtState.init events, ResultsFaithful v)
      ∧ ∀ call, (atMachine.final AtState.init events).caller = .waiting call →
          Misread call.number (atMachine.final AtState.init events).captured →
          ¬∀ v ∈ atMachine.visits AtState.init (events ++ [.look, .finish]), ResultsFaithful v := by
  constructor
  . intro hclean
    apply @Machine.forall_visits_of_clean _ _ _ atMachine (fun s => AtInv s ∧ OwnResult s) ResultsFaithful CapturesStray
    . intro s event ⟨hinv, hown⟩ hclean
      exact ⟨atStep_inv hinv event, atStep_own hown hclean⟩
    . intro s event ⟨hinv, hown⟩ _
      exact atMachine_own_faithful hinv hown event
    . exact ⟨AtInv.init, trivial⟩
    . exact hclean
  . intro call hcaller hmisread hfaithful
    have hinv : AtInv (atMachine.final AtState.init events) := by
      apply @Machine.final_inv _ _ _ atMachine AtInv (fun _ => False)
      . intro s event hinv _
        exact atStep_inv hinv event
      . exact AtInv.init
      . intro v _ h
        exact h
    apply misread_look_finish hinv hcaller hmisread
    apply hfaithful
    have hlast := Machine.visit_final_mem atMachine AtState.init (events ++ [.look]) .finish
    rw [Machine.final_append, Machine.final_cons, Machine.final_nil] at hlast
    rw [List.append_assoc, List.singleton_append] at hlast
    exact hlast

/-
The first command has timed out, and the OK to it is read and dropped before the second one is started, which gets
its own.
-/
def drainedOk : List AtEvent :=
  [
    .reader true .again,
    .reader true .again,
    .reader true .again,
    .start [0x41, 0x54] 0,
    .write (.wrote 3),
    .deadline,
    .finish,
    .modem (.ok 0),
    .reader true (.bytes 6),
    .reader true .again,
    .start [0x41, 0x54] 0,
    .write (.wrote 3),
    .modem (.ok 1),
    .reader true .again,
    .reader true .again,
    .reader true .again,
    .reader true (.bytes 6),
    .reader true .again,
    .look,
    .finish
  ]

theorem atMachine_resultsFaithful_drained
    : (atMachine.observations AtState.init drainedOk).filterMap (fun obs => obs.map AtReturn.rc) = [-1, 1]
      ∧ ∀ v ∈ atMachine.visits AtState.init drainedOk, ResultsFaithful v := by
  constructor
  . decide +kernel
  . apply (atMachine_resultsFaithful drainedOk).1
    have hown : ∀ v ∈ atMachine.visits AtState.init drainedOk, ∀ call ∈ inFlight v.pre.caller,
        ∀ b ∈ v.pre.captured ++ v.pre.reader.held, b.origin = .answer call.number (some true) := by
      decide +kernel
    intro v hv
    apply not_capturesStray_of_own (hown v hv)

/-
The first command has timed out when the second one is started, and the OK to the first, which the reader has read
before but hands over after that, is the result of the second.
-/
def lateOk : List AtEvent :=
  [
    .reader true .again,
    .reader true .again,
    .reader true .again,
    .start [0x41, 0x54] 0,
    .write (.wrote 3),
    .deadline,
    .finish,
    .modem (.ok 0),
    .reader true (.bytes 6),
    .start [0x41, 0x54] 0,
    .write (.wrote 3),
    .reader true .again,
    .look,
    .finish
  ]

theorem lateOk_not_resultsFaithful
    : ¬∀ v ∈ atMachine.visits AtState.init lateOk, ResultsFaithful v := by
  intro h
  have hlast := h (atMachine.visit (atMachine.final AtState.init (lateOk.take 13)) .finish) (by
    iterate 13 apply List.Mem.tail
    apply List.Mem.head)
  have hfaithful := hlast
    ⟨⟨1, [0x41, 0x54], 0⟩, 1,
      some (RxByte.tag (.answer 0 (some true)) (crLf ++ okText ++ crLf)), []⟩ (by decide +kernel)
  have hanswered := (hfaithful.ok rfl).1
  revert hanswered
  decide +kernel

end Modem

import RtsmartLib.Mbedtls.Sha256Clone

/-!
This module contains what a failed update leaves of a SHA-256/224 context: which bytes have got into the
digest although the update was refused.
-/

namespace Mbedtls

open Lib Pufs

variable {σ τ W : Type}

/-
How much of an input has gone into the hardware hash when its update comes to an end.
-/
def sha256HwConsumed (hw : Sha256Hw σ τ W) (fuel : Nat) (hash : Option (HashCtx σ))
    (input : List Byte) (w : W) : Nat :=
  match fuel with
  | 0 => 0
  | fuel + 1 =>
    if 0 < input.length then
      let chunk := if input.length > 0x7FFFFFFF then 0x7FFFFFFF else input.length
      let (ret, hash, w) := drvPufsHashInstUpdate hw.kernel hw.dev hash (input.take chunk) w
      if ret ≠ 0 then 0 else chunk + sha256HwConsumed hw fuel hash (input.drop chunk) w
    else
      0

/-
The bytes that an update which fails leaves behind in what the next finish gives the digest of: the
buffer once more if it has been flushed into the software hash, or the part of the input that the
hardware has taken.
-/
def sha256LeftBehind (hw : Sha256Hw σ τ W) (ctx : MbedtlsSha256Context σ τ) (input : List Byte) (w : W)
    : List Byte :=
  match ctx.mode with
  | .buffered =>
    let start := sha256StartHw hw ctx w
    if start.ret = 0 ∧ (sha256FeedNonempty hw start start.ctx.buffered.contents).ret = 0 then
      ctx.buffered.contents
    else
      []
  | .hw => input.take (sha256HwConsumed hw input.length ctx.hash input w)

section

variable {hw : Sha256Hw σ τ W} {digest : HashType → List Byte → List Byte}
    {hard : HashLaws hw.kernel digest} {soft : SoftLaws hw.soft digest}
    (softFail : ∀ {sw input w ret sw' w'}, hw.soft.update sw input w = (ret, sw', w') → ret ≠ 0 →
      sw' = sw)

theorem sha256HwUpdateLoop_consumed {fuel : Nat} {ctx : MbedtlsSha256Context σ τ}
    {hashType : HashType} {hash : HashCtx σ} {bytes input : List Byte} {w : W}
    (hctx : ctx.hash = some hash) (hfed : hard.fed hashType hash bytes)
    : ∃ hash', (sha256HwUpdateLoop hw fuel ctx input w).ctx = { ctx with hash := some hash' }
        ∧ hard.fed hashType hash'
            (bytes ++ input.take (sha256HwConsumed hw fuel (some hash) input w)) := by
  induction fuel generalizing ctx hash bytes input w with
  | zero =>
    exists hash
    constructor
    . rw [← hctx]
      rfl
    . simpa [sha256HwConsumed] using hfed
  | succ fuel ih =>
    unfold sha256HwUpdateLoop sha256HwConsumed
    by_cases hpos : 0 < input.length
    . rw [if_pos hpos, if_pos hpos]
      generalize (if input.length > 0x7FFFFFFF then 0x7FFFFFFF else input.length) = chunk
      unfold drvPufsHashInstUpdate
      cases hdev : hw.dev with
      | none =>
        exists hash
        simp only [hctx]
        constructor
        . rfl
        . simpa [eperm] using hfed
      | some dev =>
        simp only [hctx]
        by_cases hret : (drvPufsHashUpdate hw.kernel dev hash (input.take chunk) w).ret = 0
        . rw [if_neg (by simp [hret]), if_neg (by simp [hret])]
          have hfed' := drvPufsHashUpdate_fed hard dev hfed hret
          obtain ⟨hash', hctx', hrest⟩ :=
            @ih { ctx with hash := some (drvPufsHashUpdate hw.kernel dev hash (input.take chunk) w).ctx }
              _ _ (input.drop chunk) (drvPufsHashUpdate hw.kernel dev hash (input.take chunk) w).world
              rfl hfed'
          exists hash'
          constructor
          . apply hctx'
          . rw [List.append_assoc, ← List.take_add] at hrest
            apply hrest
        . exists hash
          rw [if_pos hret, if_pos hret]
          constructor
          . rw [drvPufsHashUpdate_fail hret]
          . simpa using hfed
    . exists hash
      rw [if_neg hpos, if_neg hpos]
      constructor
      . rw [← hctx]
      . simpa using hfed

include softFail in
theorem sha256SwUpdate_fail {ctx : MbedtlsSha256Context σ τ} {input : List Byte} {w : W}
    (hret : (sha256SwUpdate hw ctx input w).ret ≠ 0) : (sha256SwUpdate hw ctx input w).ctx = ctx := by
  unfold sha256SwUpdate at hret ⊢
  generalize hupdate : hw.soft.update ctx.sw input w = res at hret ⊢
  obtain ⟨ret, sw', w'⟩ := res
  change ret ≠ 0 at hret
  change { ctx with sw := sw' } = ctx
  rw [softFail hupdate hret]

/-
Feeding both hashes fails with the software hash as it was and part of the input in the hardware hash.
-/
include softFail in
theorem sha256FeedBoth_fail {ctx : MbedtlsSha256Context σ τ} {hashType : HashType}
    {hash : HashCtx σ} {bytes input : List Byte} {w : W} (hctx : ctx.hash = some hash)
    (hfed : hard.fed hashType hash bytes) (hret : (sha256FeedBoth hw ctx input w).ret ≠ 0)
    : ∃ hash', (sha256FeedBoth hw ctx input w).ctx = { ctx with hash := some hash' }
        ∧ hard.fed hashType hash'
            (bytes ++ input.take (sha256HwConsumed hw input.length (some hash) input w)) := by
  obtain ⟨hash', hctx', hfed'⟩ :=
    @sha256HwUpdateLoop_consumed _ _ _ hw digest hard input.length ctx hashType hash bytes input w
      hctx hfed
  change (sha256HwUpdate hw ctx input w).ctx = _ at hctx'
  exists hash'
  unfold sha256FeedBoth at hret ⊢
  dsimp only at hret ⊢
  by_cases hhw : (sha256HwUpdate hw ctx input w).ret = 0
  . rw [if_neg (by simp [hhw])] at hret ⊢
    constructor
    . rw [sha256SwUpdate_fail softFail hret, hctx']
    . apply hfed'
  . rw [if_pos hhw]
    exact ⟨hctx', hfed'⟩

theorem sha256FeedNonempty_fail {res : Sha256Status σ τ W} {input : List Byte}
    (hzero : res.ret = 0) (hret : (sha256FeedNonempty hw res input).ret ≠ 0)
    : sha256FeedNonempty hw res input = sha256FeedBoth hw res.ctx input res.world := by
  unfold sha256FeedNonempty at hret ⊢
  by_cases hpos : 0 < input.length
  . rw [if_pos hpos]
  . rw [if_neg hpos] at hret
    contradiction

theorem sha256StartHw_buffered (ctx : MbedtlsSha256Context σ τ) (w : W)
    : (sha256StartHw hw ctx w).ctx.buffered = ctx.buffered := by
  by_cases hret : (sha256StartHw hw ctx w).ret = 0
  . rw [sha256StartHw_ok hret]
  . rw [sha256StartHw_failed hret]

section

variable {ctx : MbedtlsSha256Context σ τ} {input : List Byte} {w : W}

/-
Where a switch that fails has come to its end.
-/
theorem sha256SwitchToHw_cases (hret : (sha256SwitchToHw hw ctx input w).ret ≠ 0)
    : let start := sha256StartHw hw ctx w
      let flush := sha256FeedNonempty hw start ctx.buffered.contents
      (start.ret ≠ 0 ∧ sha256SwitchToHw hw ctx input w = start)
        ∨ (start.ret = 0 ∧ flush.ret ≠ 0 ∧ sha256SwitchToHw hw ctx input w = flush)
        ∨ (start.ret = 0 ∧ flush.ret = 0
          ∧ sha256SwitchToHw hw ctx input w = sha256FeedNonempty hw flush input) := by
  have hbuffered := @sha256StartHw_buffered _ _ _ hw ctx w
  intro start flush
  unfold flush
  rw [← hbuffered]
  unfold sha256SwitchToHw at hret ⊢
  dsimp only at hret ⊢
  by_cases hstart : start.ret = 0
  . right
    rw [if_neg (not_not.mpr hstart)] at hret ⊢
    by_cases hflush : (sha256FeedNonempty hw start start.ctx.buffered.contents).ret = 0
    . right
      rw [if_neg (not_not.mpr hflush)] at hret ⊢
      split at hret
      . next hinput =>
        rw [if_pos hinput]
        exact ⟨hstart, hflush, rfl⟩
      . next hinput => exact absurd hret hinput
    . left
      rw [if_pos hflush]
      exact ⟨hstart, hflush, rfl⟩
  . left
    rw [if_pos hstart]
    exact ⟨hstart, rfl⟩

theorem sha256LeftBehind_flushed (hmode : ctx.mode = .buffered)
    (hstart : (sha256StartHw hw ctx w).ret = 0)
    (hflush : (sha256FeedNonempty hw (sha256StartHw hw ctx w) ctx.buffered.contents).ret = 0)
    : sha256LeftBehind hw ctx input w = ctx.buffered.contents := by
  unfold sha256LeftBehind
  rw [hmode]
  dsimp only
  rw [sha256StartHw_buffered, if_pos ⟨hstart, hflush⟩]

theorem sha256LeftBehind_unflushed (hmode : ctx.mode = .buffered)
    (h : (sha256StartHw hw ctx w).ret = 0 →
      (sha256FeedNonempty hw (sha256StartHw hw ctx w) ctx.buffered.contents).ret ≠ 0)
    : sha256LeftBehind hw ctx input w = [] := by
  unfold sha256LeftBehind
  rw [hmode]
  dsimp only
  rw [sha256StartHw_buffered, if_neg (not_and.mpr h)]

/-
A switch that fails stays in buffered mode. The software hash has the buffer if the flush went through.
-/
variable (hard) in
include hard softFail in
theorem sha256SwitchToHw_fail {all : List Byte} (hmode : ctx.mode = .buffered)
    (hsoft : soft.fed (sha256HashType ctx.is224) ctx.sw all)
    (hret : (sha256SwitchToHw hw ctx input w).ret ≠ 0)
    : ∃ hash' sw', (sha256SwitchToHw hw ctx input w).ctx = { ctx with hash := hash', sw := sw' }
        ∧ soft.fed (sha256HashType ctx.is224) sw' (all ++ sha256LeftBehind hw ctx input w) := by
  have hhard := hard.init (sha256HashType ctx.is224)
  obtain ⟨hstart, hend⟩ | ⟨hstart, hflush, hend⟩ | ⟨hstart, hflush, hend⟩ := sha256SwitchToHw_cases hret
  . rw [sha256LeftBehind_unflushed hmode (fun hzero => absurd hzero hstart), List.append_nil, hend]
    exists ctx.hash, ctx.sw
    exact ⟨sha256StartHw_failed hstart, hsoft⟩
  . rw [sha256LeftBehind_unflushed hmode (fun _ => hflush), List.append_nil, hend]
    have hctx := sha256StartHw_ok hstart
    have hboth := sha256FeedNonempty_fail hstart hflush
    rw [hboth] at hflush ⊢
    obtain ⟨hash₁, hctx₁, _⟩ := sha256FeedBoth_fail softFail (by rw [hctx]) hhard hflush
    exists some hash₁, ctx.sw
    rw [hctx₁, hctx]
    exact ⟨rfl, hsoft⟩
  . rw [sha256LeftBehind_flushed hmode hstart hflush, hend]
    rw [hend] at hret
    have hctx := sha256StartHw_ok hstart
    obtain ⟨hash₁, sw₁, hctx₁, hhard₁, hsoft₁⟩ :=
      sha256FeedNonempty_fed (by rw [hctx]) hhard (by rw [hctx]; exact hsoft) hflush
    have hboth := sha256FeedNonempty_fail hflush hret
    rw [hboth] at hret ⊢
    obtain ⟨hash₂, hctx₂, _⟩ := sha256FeedBoth_fail softFail (by rw [hctx₁]) hhard₁ hret
    exists some hash₂, sw₁
    rw [hctx₂, hctx₁, hctx]
    exact ⟨rfl, hsoft₁⟩

end

theorem mbedtlsSha256Finish_buffered {ctx : MbedtlsSha256Context σ τ} (hstarted : ctx.started = true)
    (hmode : ctx.mode = .buffered) (w : W)
    : mbedtlsSha256Finish hw ctx w = sha256FinishBuffered hw ctx w := by
  unfold mbedtlsSha256Finish
  rw [if_neg (by simp [hstarted]), hmode]

theorem mbedtlsSha256Finish_hw {ctx : MbedtlsSha256Context σ τ} (hstarted : ctx.started = true)
    (hmode : ctx.mode = .hw) (w : W)
    : mbedtlsSha256Finish hw ctx w = sha256FinishHw hw ctx w := by
  unfold mbedtlsSha256Finish
  rw [if_neg (by simp [hstarted]), hmode]

section

variable {ctx : MbedtlsSha256Context σ τ} {log : Sha256Log} (htracks : Sha256Tracks hard soft ctx log)
    (hstarted : ctx.started = true) {input : List Byte} {w : W}

include softFail htracks hstarted in
theorem sha256SwitchToHw_left (hmode : ctx.mode = .buffered)
    (hret : (sha256SwitchToHw hw ctx input w).ret ≠ 0)
    : let ctx' := (sha256SwitchToHw hw ctx input w).ctx
      (∀ w', (mbedtlsSha256Finish hw ctx' w').ret = 0 →
          (mbedtlsSha256Finish hw ctx' w').out
            = digest log.hash (log.hashed ++ sha256LeftBehind hw ctx input w))
        ∧ (sha256LeftBehind hw ctx input w = [] → Sha256Tracks hard soft ctx' log) := by
  obtain ⟨hcontents, hsoft⟩ := htracks.buffered hmode
  have hhashed : log.hashed = log.fed := if_neg (htracks.not_switched hmode)
  rw [← htracks.hash] at hsoft
  obtain ⟨hash', sw', hctx', hsoft'⟩ := sha256SwitchToHw_fail hard softFail hmode hsoft hret
  rw [htracks.hash] at hsoft'
  have hleft : sha256LeftBehind hw ctx input w = []
      ∨ sha256LeftBehind hw ctx input w = ctx.buffered.contents := by
    unfold sha256LeftBehind
    rw [hmode]
    dsimp only
    split
    . right
      rfl
    . left
      rfl
  intro ctx'
  unfold ctx'
  rw [hctx']
  constructor
  . intro w' hfinish
    have hpath := @mbedtlsSha256Finish_buffered _ _ _ hw { ctx with hash := hash', sw := sw' }
      hstarted hmode w'
    rw [hpath] at hfinish ⊢
    rw [sha256FinishBuffered_out hsoft' hfinish, hhashed, hcontents]
    -- Twice the same bytes, in whatever order.
    obtain hleft | hleft := hleft
    . rw [hleft, List.append_nil, List.append_nil, List.take_append_drop]
    . rw [hleft, hcontents, List.take_append_drop]
  . intro hnil
    rw [hnil, List.append_nil] at hsoft'
    refine ⟨htracks.hash, htracks.base_le, ?_, ?_⟩
    . intro _
      exact ⟨hcontents, hsoft'⟩
    . intro hhw
      exact absurd (hmode.symm.trans hhw) (by decide)

include softFail htracks hstarted in
theorem sha256FeedBoth_left (hmode : ctx.mode = .hw)
    (hret : (sha256FeedBoth hw ctx input w).ret ≠ 0)
    : let ctx' := (sha256FeedBoth hw ctx input w).ctx
      (∀ w', (mbedtlsSha256Finish hw ctx' w').ret = 0 →
          (mbedtlsSha256Finish hw ctx' w').out
            = digest log.hash (log.hashed ++ sha256LeftBehind hw ctx input w))
        ∧ (sha256LeftBehind hw ctx input w = [] → Sha256Tracks hard soft ctx' log) := by
  obtain ⟨hswitched, ⟨hash, hhash, hhard⟩, hsoft⟩ := htracks.hw hmode
  have hhashed : log.hashed = log.fed.drop log.base := if_pos hswitched
  obtain ⟨hash', hctx', hhard'⟩ := sha256FeedBoth_fail softFail hhash hhard hret
  have hleft : sha256LeftBehind hw ctx input w
      = input.take (sha256HwConsumed hw input.length (some hash) input w) := by
    unfold sha256LeftBehind
    rw [hmode, hhash]
  rw [← hleft] at hhard'
  intro ctx'
  unfold ctx'
  rw [hctx']
  constructor
  . intro w' hfinish
    have hpath := @mbedtlsSha256Finish_hw _ _ _ hw { ctx with hash := some hash' } hstarted hmode w'
    rw [hpath] at hfinish ⊢
    rw [hhashed]
    apply sha256FinishHw_out rfl hhard' hfinish
  . intro hnil
    rw [hnil, List.append_nil] at hhard'
    refine ⟨htracks.hash, htracks.base_le, ?_, ?_⟩
    . intro hbuffered
      exact absurd (hmode.symm.trans hbuffered) (by decide)
    . intro _
      exact ⟨hswitched, ⟨hash', rfl, hhard'⟩, hsoft⟩

/-
What a failed update does to the digest that a finish gives out next: it is that of the bytes before
with those that the update has left behind.
-/
include softFail htracks hstarted in
theorem mbedtlsSha256Update_left (hret : (mbedtlsSha256Update hw ctx input w).ret ≠ 0)
    : let ctx' := (mbedtlsSha256Update hw ctx input w).ctx
      (∀ w', (mbedtlsSha256Finish hw ctx' w').ret = 0 →
          (mbedtlsSha256Finish hw ctx' w').out
            = digest log.hash (log.hashed ++ sha256LeftBehind hw ctx input w))
        ∧ (sha256LeftBehind hw ctx input w = [] → Sha256Tracks hard soft ctx' log) := by
  unfold mbedtlsSha256Update at hret ⊢
  rw [if_neg (by simp [hstarted])] at hret ⊢
  by_cases hzero : input.length = 0
  . rw [if_pos hzero] at hret
    contradiction
  . rw [if_neg hzero] at hret ⊢
    generalize hmode : ctx.mode = mode at hret ⊢
    cases mode with
    | buffered =>
      dsimp only at hret ⊢
      by_cases hfits : ctx.buffered.len + input.length ≤ sha256SwFallbackThreshold
      . rw [dif_pos hfits] at hret
        contradiction
      . rw [dif_neg hfits] at hret ⊢
        apply sha256SwitchToHw_left softFail htracks hstarted hmode hret
    | hw => apply sha256FeedBoth_left softFail htracks hstarted hmode hret

end

end

/-
The failures that leave nothing behind: with bytes in the buffer, the hardware does not start or the
flush of the buffer fails; in hardware mode, the hardware refuses the input from the first chunk on.
-/
def Sha256Untouched (hw : Sha256Hw σ τ W) (ctx : MbedtlsSha256Context σ τ) (input : List Byte) (w : W)
    : Prop :=
  match ctx.mode with
  | .buffered =>
    let start := sha256StartHw hw ctx w
    ctx.buffered.len = 0
      ∨ start.ret ≠ 0
      ∨ (sha256FeedNonempty hw start start.ctx.buffered.contents).ret ≠ 0
  | .hw => (drvPufsHashInstUpdate hw.kernel hw.dev ctx.hash (input.take 0x7FFFFFFF) w).1 ≠ 0

theorem sha256HwConsumed_eq_zero_iff {hw : Sha256Hw σ τ W} {hash : Option (HashCtx σ)}
    {input : List Byte} {w : W} (hpos : 0 < input.length)
    : sha256HwConsumed hw input.length hash input w = 0
        ↔ (drvPufsHashInstUpdate hw.kernel hw.dev hash (input.take 0x7FFFFFFF) w).1 ≠ 0 := by
  obtain ⟨fuel, hfuel⟩ := Nat.exists_eq_succ_of_ne_zero (Nat.ne_of_gt hpos)
  rw [hfuel]
  unfold sha256HwConsumed
  rw [if_pos hpos]
  have hchunk : input.take (if input.length > 0x7FFFFFFF then 0x7FFFFFFF else input.length)
      = input.take 0x7FFFFFFF := by
    split
    . rfl
    next hle =>
      rw [List.take_length, List.take_of_length_le (by omega)]
  dsimp only
  rw [hchunk]
  split
  next hret =>
    exact iff_of_true rfl hret
  next hret =>
    apply iff_of_false
    . split
      . omega
      . omega
    . apply hret

theorem sha256LeftBehind_eq_nil_iff {hw : Sha256Hw σ τ W} {ctx : MbedtlsSha256Context σ τ}
    {input : List Byte} {w : W} (hpos : 0 < input.length)
    : sha256LeftBehind hw ctx input w = [] ↔ Sha256Untouched hw ctx input w := by
  unfold sha256LeftBehind Sha256Untouched
  cases ctx.mode with
  | buffered =>
    have hempty : ctx.buffered.contents = [] ↔ ctx.buffered.len = 0 := by
      rw [← Sha256Buffer.length_contents]
      apply List.length_eq_zero_iff.symm
    dsimp only
    split
    next hboth =>
      rw [hempty]
      simp [hboth.1, hboth.2]
    next hnot =>
      apply iff_of_true rfl
      right
      apply not_and_or.mp hnot
  | hw =>
    dsimp only
    rw [List.take_eq_nil_iff, sha256HwConsumed_eq_zero_iff hpos]
    apply or_iff_left
    intro hnil
    simp [hnil] at hpos

/-
The machine over all contexts once more, with a log that marks a context only if one of its failed
updates has left something behind.
-/
def Sha256Log.tryUpdate (log : Sha256Log) (input left : List Byte) (ret : Int) : Sha256Log :=
  if ret = 0 then log.append input else { log with failed := log.failed || left ≠ [] }

def sha256ErrorLogStep (hw : Sha256Hw σ τ W) (s : Sha256Run σ τ W) (op : Sha256Op) (ret : Int)
    : Nat → Sha256Log :=
  match op with
  | .update i input =>
    let left := sha256LeftBehind hw (s.state.contexts i) input s.state.world
    Function.update s.log i ((s.log i).tryUpdate input left ret)
  | op => sha256LogStep s.log op ret

def sha256ErrorMachine (hw : Sha256Hw σ τ W) : Machine (Sha256Run σ τ W) Sha256Op Sha256Obs :=
  ⟨fun s op =>
    let (state, obs) := sha256Step hw s.state op
    (⟨state, sha256ErrorLogStep hw s op obs.ret⟩, obs)⟩

section

variable {hw : Sha256Hw σ τ W} {digest : HashType → List Byte → List Byte}
    (hard : HashLaws hw.kernel digest) (soft : SoftLaws hw.soft digest)
    (softFail : ∀ {sw input w ret sw' w'}, hw.soft.update sw input w = (ret, sw', w') → ret ≠ 0 →
      sw' = sw)

include softFail in
theorem mbedtlsSha256Update_tryInv {ctx : MbedtlsSha256Context σ τ} {log : Sha256Log}
    (hinv : Sha256Inv hard soft ctx log) (input : List Byte) (w : W)
    : let res := mbedtlsSha256Update hw ctx input w
      Sha256Inv hard soft res.ctx
        (log.tryUpdate input (sha256LeftBehind hw ctx input w) res.ret) := by
  intro res hstarted' hfailed
  unfold Sha256Log.tryUpdate at hfailed ⊢
  by_cases hstarted : ctx.started = true
  . by_cases hret : res.ret = 0
    . rw [if_pos hret] at hfailed ⊢
      apply mbedtlsSha256Update_tracks hstarted (hinv hstarted hfailed) hret
    . rw [if_neg hret] at hfailed ⊢
      simp only [Bool.or_eq_false_iff, decide_eq_false_iff_not, not_not] at hfailed
      have htracks := hinv hstarted hfailed.1
      have hleft := (mbedtlsSha256Update_left softFail htracks hstarted hret).2 hfailed.2
      refine ⟨hleft.hash, hleft.base_le, ?_, ?_⟩
      . apply hleft.buffered
      . apply hleft.hw
  . have hsame : res.ctx = ctx := by
      unfold res mbedtlsSha256Update
      rw [if_pos (by simp [hstarted])]
    rw [hsame] at hstarted'
    contradiction

include softFail in
theorem sha256ErrorStep_inv {s : Sha256Run σ τ W} (hinv : Sha256RunInv hard soft s) (op : Sha256Op)
    : Sha256RunInv hard soft ((sha256ErrorMachine hw).step s op).1 := by
  cases op with
  | update i input =>
    apply Sha256RunInv.set hard soft hinv
    apply mbedtlsSha256Update_tryInv hard soft softFail (hinv i)
  | init i => apply sha256Step_inv hard soft hinv (.init i)
  | free i => apply sha256Step_inv hard soft hinv (.free i)
  | clone dst src => apply sha256Step_inv hard soft hinv (.clone dst src)
  | starts i is224 => apply sha256Step_inv hard soft hinv (.starts i is224)
  | finish i => apply sha256Step_inv hard soft hinv (.finish i)

/-
In any run: as long as no failed update has left anything behind, a finish that goes through gives out
the digest of the accepted bytes (those that the hardware has not missed after a clone); and after a
failed update it does so exactly if that update leaves nothing behind.
-/
include hard soft softFail in
theorem failedUpdate_digest_iff (w : W) (ops : List Sha256Op)
    : ∀ v ∈ (sha256ErrorMachine hw).visits (Sha256Run.init hw w) ops, ∀ i,
        (v.pre.log i).failed = false →
          (v.event = .finish i → v.obs.ret = 0 → ¬(v.pre.log i).Cut →
              v.obs.out = digest (v.pre.log i).hash (v.pre.log i).fed)
            ∧ ∀ input, v.event = .update i input → v.obs.ret ≠ 0 →
              let log := v.pre.log i
              let left := sha256LeftBehind hw (v.pre.state.contexts i) input v.pre.state.world
              ∀ w', let finish := mbedtlsSha256Finish hw (v.post.state.contexts i) w'
                finish.ret = 0 →
                  (finish.out = digest log.hash log.hashed
                    ↔ Sha256Untouched hw (v.pre.state.contexts i) input v.pre.state.world
                      ∨ digest log.hash (log.hashed ++ left) = digest log.hash log.hashed) := by
  intro v hv i hfailed
  have hinv : Sha256RunInv hard soft v.pre :=
    @Machine.visits_inv _ _ _ (sha256ErrorMachine hw) (Sha256RunInv hard soft)
      (fun _ op h => sha256ErrorStep_inv hard soft softFail h op) _ (sha256Run_init_inv hard soft w)
      ops v hv
  have heq := Machine.eq_visit_of_mem hv
  have hstep : v.obs = ((sha256ErrorMachine hw).step v.pre v.event).2
      ∧ v.post = ((sha256ErrorMachine hw).step v.pre v.event).1 := by
    rw [heq]
    exact ⟨rfl, rfl⟩
  obtain ⟨hobs, hpost⟩ := hstep
  constructor
  . intro hevent hret hcut
    rw [hevent] at hobs
    rw [hobs] at hret ⊢
    rw [← Sha256Log.hashed_of_not_cut hcut]
    apply mbedtlsSha256Finish_out (hinv i) hfailed hret
  . intro input hevent hret log left w' finish hfinish
    rw [hevent] at hobs hpost
    have hctx : v.post.state.contexts i
        = (mbedtlsSha256Update hw (v.pre.state.contexts i) input v.pre.state.world).ctx := by
      rw [hpost]
      exact if_pos rfl
    rw [hobs] at hret
    unfold finish at hfinish ⊢
    rw [hctx] at hfinish ⊢
    by_cases hstarted : (v.pre.state.contexts i).started = true
    . -- an empty update does not fail
      have htracks := hinv i hstarted hfailed
      have hpos : 0 < input.length := by
        apply Nat.pos_of_ne_zero
        intro hzero
        apply hret
        change (mbedtlsSha256Update hw _ input _).ret = 0
        unfold mbedtlsSha256Update
        rw [if_neg (by simp [hstarted]), if_pos hzero]
      have hout := (mbedtlsSha256Update_left softFail htracks hstarted hret).1 w' hfinish
      rw [hout, ← sha256LeftBehind_eq_nil_iff hpos]
      constructor
      . intro hsame
        right
        apply hsame
      . intro hor
        obtain hnil | hsame := hor
        . rw [hnil, List.append_nil]
        . apply hsame
    . -- a context that is not started is not finished either
      have hsame : (mbedtlsSha256Update hw (v.pre.state.contexts i) input v.pre.state.world).ctx
          = v.pre.state.contexts i := by
        unfold mbedtlsSha256Update
        rw [if_pos (by simp [hstarted])]
      rw [hsame] at hfinish
      unfold mbedtlsSha256Finish at hfinish
      rw [if_pos (by simp [hstarted])] at hfinish
      exact absurd hfinish (show errSha256BadInputData ≠ 0 by decide)

end

/-
Hardware that refuses messages that begin with 255.
-/
def pickyKernel : HashKernel (List Byte) Unit :=
  { countKernel with
    update := fun ctx msg w =>
      if msg.head? = some 255 then (.error einval, w) else countKernel.update ctx msg w
  }

def pickyHw : Sha256Hw (List Byte) (HashType × List Byte) Unit :=
  { countHw with kernel := pickyKernel }

def pickyKernel_laws : HashLaws pickyHw.kernel countDigest where
  fed := countKernel_laws.fed
  init := countKernel_laws.init
  update := by
    intro hash ctx bytes msg w ctx' w' hfed hupdate
    simp only [pickyHw, pickyKernel] at hupdate
    split at hupdate
    . injection hupdate with hctx _
      cases hctx
    . apply countKernel_laws.update hfed hupdate
  final := countKernel_laws.final

theorem countSoft_fail {sw : HashType × List Byte} {input : List Byte} {w : Unit} {ret : Int}
    {sw' : HashType × List Byte} {w' : Unit} (h : pickyHw.soft.update sw input w = (ret, sw', w'))
    (hret : ret ≠ 0) : sw' = sw := by
  injection h with hzero _
  exact absurd hzero.symm hret

/-
A large update that the hardware refuses, after `buffered` has been fed.
-/
def refusedAfter (buffered : List Byte) : List Sha256Op :=
  [.starts 0 0, .update 0 buffered, .update 0 (List.replicate 257 255), .finish 0]

theorem refusedAfter_nil_digest
    : let s := (sha256ErrorMachine pickyHw).final (Sha256Run.init pickyHw ())
        ((refusedAfter []).take 3)
      ((sha256ErrorMachine pickyHw).step s (.finish 0)).2.out
        = countDigest (s.log 0).hash (s.log 0).fed := by
  intro s
  have hmem : (sha256ErrorMachine pickyHw).visit s (.finish 0)
      ∈ (sha256ErrorMachine pickyHw).visits (Sha256Run.init pickyHw ()) (refusedAfter []) :=
    .tail _ (.tail _ (.tail _ (.head _)))
  apply (failedUpdate_digest_iff pickyKernel_laws countSoft_laws countSoft_fail () (refusedAfter [])
    _ hmem 0 (by decide +kernel)).1 rfl
  . decide +kernel
  . decide +kernel

theorem refusedAfter_one_not_digest
    : let refused := (sha256ErrorMachine pickyHw).final (Sha256Run.init pickyHw ())
        ((refusedAfter [1]).take 2)
      let s := (sha256ErrorMachine pickyHw).final (Sha256Run.init pickyHw ())
        ((refusedAfter [1]).take 3)
      let obs := ((sha256ErrorMachine pickyHw).step s (.finish 0)).2
      ((sha256ErrorMachine pickyHw).step refused (.update 0 (List.replicate 257 255))).2.ret ≠ 0
        ∧ (s.log 0).fed = [1]
        ∧ obs.ret = 0
        ∧ obs.out ≠ countDigest (s.log 0).hash (s.log 0).fed := by
  decide +kernel

end Mbedtls

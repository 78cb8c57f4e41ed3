import RtsmartLib.Mbedtls.Sha256Alt
import RtsmartLib.Lib.Machine
import Mathlib.Logic.Function.Basic

/-!
This module contains what a SHA-256/224 context stands for in each of its modes, and which of the
digests are those of all bytes fed to a context and to those it was cloned from.
-/

namespace Mbedtls

open Lib Pufs

variable {σ τ W : Type}

/-
A software hash that computes `digest` of what it is fed. Any call may fail; `starts` fails before it
has changed anything, and nothing is known of a context after an update that failed.
-/
structure SoftLaws (soft : Sha256Soft τ W) (digest : HashType → List Byte → List Byte) where
  fed : HashType → τ → List Byte → Prop
  starts : ∀ {sw is224 w sw' w'}, soft.starts sw is224 w = (0, sw', w') →
    fed (sha256HashType is224) sw' []
  starts_fail : ∀ {sw is224 w ret sw' w'}, soft.starts sw is224 w = (ret, sw', w') → ret ≠ 0 → sw' = sw
  update : ∀ {hash sw bytes input w sw' w'}, fed hash sw bytes →
    soft.update sw input w = (0, sw', w') → fed hash sw' (bytes ++ input)
  finish : ∀ {hash sw bytes w out sw' w'}, fed hash sw bytes →
    soft.finish sw w = (0, out, sw', w') → out = digest hash bytes

/-
What has happened to a context: all bytes fed to it and to its ancestors since the start, how many of
them lie before the last clone from hardware mode, and whether an update failed.
-/
structure Sha256Log where
  hash : HashType
  fed : List Byte
  base : Nat
  failed : Bool

namespace Sha256Log

def Switched (log : Sha256Log) : Prop :=
  log.base + sha256SwFallbackThreshold < log.fed.length

instance (log : Sha256Log) : Decidable log.Switched :=
  inferInstanceAs (Decidable (_ < _))

def append (log : Sha256Log) (input : List Byte) : Sha256Log :=
  { log with fed := log.fed ++ input }

def update (log : Sha256Log) (input : List Byte) (ret : Int) : Sha256Log :=
  if ret = 0 then log.append input else { log with failed := true }

def starts (log : Sha256Log) (is224 ret : Int) : Sha256Log :=
  if ret = 0 then ⟨sha256HashType is224, [], 0, false⟩ else log

def clone (log : Sha256Log) : Sha256Log :=
  if log.Switched then { log with base := log.fed.length } else log

/-
The hardware has seen only what came after the last clone from hardware mode.
-/
def hashed (log : Sha256Log) : List Byte :=
  if log.Switched then log.fed.drop log.base else log.fed

def Cut (log : Sha256Log) : Prop :=
  log.base ≠ 0 ∧ log.Switched

instance (log : Sha256Log) : Decidable log.Cut :=
  inferInstanceAs (Decidable (_ ∧ _))

section

variable {log : Sha256Log} (h : log.base ≤ log.fed.length) (input : List Byte)

include h in
theorem base_le_append : (log.append input).base ≤ (log.append input).fed.length := by
  unfold append
  rw [List.length_append]
  dsimp only
  omega

include h in
theorem drop_append
    : (log.append input).fed.drop (log.append input).base = log.fed.drop log.base ++ input :=
  List.drop_append_of_le_length h

include h in
theorem take_append
    : (log.append input).fed.take (log.append input).base = log.fed.take log.base :=
  List.take_append_of_le_length h

theorem switched_append (hswitched : log.Switched) : (log.append input).Switched := by
  unfold Switched at hswitched ⊢
  unfold append
  rw [List.length_append]
  dsimp only
  omega

end

theorem hashed_of_not_cut {log : Sha256Log} (h : ¬log.Cut) : log.hashed = log.fed := by
  unfold hashed
  by_cases hswitched : log.Switched
  . have hbase : log.base = 0 := by
      apply Decidable.not_not.mp
      intro hne
      exact h ⟨hne, hswitched⟩
    rw [if_pos hswitched, hbase, List.drop_zero]
  . rw [if_neg hswitched]

theorem hashed_of_cut {log : Sha256Log} (h : log.Cut) : log.hashed = log.fed.drop log.base := by
  unfold hashed
  rw [if_pos h.2]

end Sha256Log

section

variable {hw : Sha256Hw σ τ W} {digest : HashType → List Byte → List Byte}
    (hard : HashLaws hw.kernel digest) (soft : SoftLaws hw.soft digest)

/-
The representation invariant. In buffered mode the software hash has what came before the buffer; in
hardware mode it has everything, and the hardware what came after the last clone.
-/
structure Sha256Tracks (ctx : MbedtlsSha256Context σ τ) (log : Sha256Log) : Prop where
  hash : sha256HashType ctx.is224 = log.hash
  base_le : log.base ≤ log.fed.length
  buffered : ctx.mode = .buffered →
    ctx.buffered.contents = log.fed.drop log.base
      ∧ soft.fed log.hash ctx.sw (log.fed.take log.base)
  hw : ctx.mode = .hw →
    log.Switched
      ∧ (∃ hash, ctx.hash = some hash ∧ hard.fed log.hash hash (log.fed.drop log.base))
      ∧ soft.fed log.hash ctx.sw log.fed

def Sha256Inv (ctx : MbedtlsSha256Context σ τ) (log : Sha256Log) : Prop :=
  ctx.started = true → log.failed = false → Sha256Tracks hard soft ctx log

variable {hard soft}

theorem Sha256Tracks.not_switched {ctx : MbedtlsSha256Context σ τ} {log : Sha256Log}
    (h : Sha256Tracks hard soft ctx log) (hmode : ctx.mode = .buffered) : ¬log.Switched := by
  have hlen := congrArg List.length (h.buffered hmode).1
  have hle := ctx.buffered.len_le
  rw [Sha256Buffer.length_contents, List.length_drop] at hlen
  unfold Sha256Log.Switched
  omega

theorem sha256HwUpdateLoop_fed {fuel : Nat} {ctx : MbedtlsSha256Context σ τ} {hashType : HashType}
    {hash : HashCtx σ} {bytes input : List Byte} {w : W} (hfuel : input.length ≤ fuel)
    (hctx : ctx.hash = some hash) (hfed : hard.fed hashType hash bytes)
    (hret : (sha256HwUpdateLoop hw fuel ctx input w).ret = 0)
    : ∃ hash', (sha256HwUpdateLoop hw fuel ctx input w).ctx = { ctx with hash := some hash' }
        ∧ hard.fed hashType hash' (bytes ++ input) := by
  induction fuel generalizing ctx hash bytes input w with
  | zero =>
    have hnil : input = [] := List.eq_nil_of_length_eq_zero (Nat.le_zero.mp hfuel)
    rw [hnil, List.append_nil]
    refine ⟨hash, ?_, hfed⟩
    rw [← hctx]
    rfl
  | succ fuel ih =>
    unfold sha256HwUpdateLoop at hret ⊢
    by_cases hpos : 0 < input.length
    . rw [if_pos hpos] at hret ⊢
      generalize hchunk : (if input.length > 0x7FFFFFFF then 0x7FFFFFFF else input.length) = chunk
        at hret ⊢
      have hchunkPos : 0 < chunk := by
        rw [← hchunk]
        split
        . decide
        . exact hpos
      unfold drvPufsHashInstUpdate at hret ⊢
      cases hdev : hw.dev with
      | none =>
        simp only [hdev] at hret
        exact absurd hret (show errSha256BadInputData ≠ 0 by decide)
      | some dev =>
        simp only [hdev, hctx] at hret ⊢
        by_cases hupdate : (drvPufsHashUpdate hw.kernel dev hash (input.take chunk) w).ret = 0
        . rw [if_neg (by simp [hupdate])] at hret ⊢
          have hfed' := drvPufsHashUpdate_fed hard dev hfed hupdate
          obtain ⟨hash', hctx', hrest⟩ := ih (by rw [List.length_drop]; omega) rfl hfed' hret
          rw [List.append_assoc, List.take_append_drop] at hrest
          exact ⟨hash', hctx', hrest⟩
        . rw [if_pos hupdate] at hret
          exact absurd hret (show errSha256BadInputData ≠ 0 by decide)
    . have hnil : input = [] := List.eq_nil_of_length_eq_zero (by omega)
      rw [if_neg hpos]
      rw [hnil, List.append_nil]
      refine ⟨hash, ?_, hfed⟩
      rw [← hctx]

theorem sha256FeedBoth_fed {ctx : MbedtlsSha256Context σ τ} {hashType : HashType} {hash : HashCtx σ}
    {bytes all input : List Byte} {w : W} (hctx : ctx.hash = some hash)
    (hhard : hard.fed hashType hash bytes) (hsoft : soft.fed hashType ctx.sw all)
    (hret : (sha256FeedBoth hw ctx input w).ret = 0)
    : ∃ hash' sw', (sha256FeedBoth hw ctx input w).ctx = { ctx with hash := some hash', sw := sw' }
        ∧ hard.fed hashType hash' (bytes ++ input)
        ∧ soft.fed hashType sw' (all ++ input) := by
  unfold sha256FeedBoth at hret ⊢
  dsimp only at hret ⊢
  by_cases hhw : (sha256HwUpdate hw ctx input w).ret = 0
  . rw [if_neg (by simp [hhw])] at hret ⊢
    obtain ⟨hash', hctx', hfed⟩ := sha256HwUpdateLoop_fed Nat.le.refl hctx hhard hhw
    change (sha256HwUpdate hw ctx input w).ctx = _ at hctx'
    rw [hctx'] at hret ⊢
    unfold sha256SwUpdate at hret ⊢
    generalize hupdate :
      hw.soft.update _ input (sha256HwUpdate hw ctx input w).world = res at hret ⊢
    obtain ⟨ret, sw', w'⟩ := res
    change ret = 0 at hret
    subst hret
    exact ⟨hash', sw', rfl, hfed, soft.update hsoft hupdate⟩
  . rw [if_pos hhw] at hret
    exact absurd hret hhw

theorem sha256FeedNonempty_fed {res : Sha256Status σ τ W} {hashType : HashType} {hash : HashCtx σ}
    {bytes all input : List Byte} (hctx : res.ctx.hash = some hash)
    (hhard : hard.fed hashType hash bytes) (hsoft : soft.fed hashType res.ctx.sw all)
    (hret : (sha256FeedNonempty hw res input).ret = 0)
    : ∃ hash' sw',
        (sha256FeedNonempty hw res input).ctx = { res.ctx with hash := some hash', sw := sw' }
          ∧ hard.fed hashType hash' (bytes ++ input)
          ∧ soft.fed hashType sw' (all ++ input) := by
  unfold sha256FeedNonempty at hret ⊢
  by_cases hpos : 0 < input.length
  . rw [if_pos hpos] at hret ⊢
    exact sha256FeedBoth_fed hctx hhard hsoft hret
  . have hnil : input = [] := List.eq_nil_of_length_eq_zero (by omega)
    rw [if_neg hpos]
    rw [hnil, List.append_nil, List.append_nil]
    refine ⟨hash, res.ctx.sw, ?_, hhard, hsoft⟩
    rw [← hctx]

theorem sha256StartHw_ok {ctx : MbedtlsSha256Context σ τ} {w : W}
    (h : (sha256StartHw hw ctx w).ret = 0)
    : (sha256StartHw hw ctx w).ctx
        = { ctx with hash := some (drvPufsHashInit hw.kernel (sha256HashType ctx.is224)) } := by
  unfold sha256StartHw at h ⊢
  cases hdev : hw.dev with
  | none =>
    simp only [hdev] at h
    exact absurd h (show errSha256BadInputData ≠ 0 by decide)
  | some dev => rfl

theorem sha256StartHw_failed {ctx : MbedtlsSha256Context σ τ} {w : W}
    (h : (sha256StartHw hw ctx w).ret ≠ 0)
    : (sha256StartHw hw ctx w).ctx = ctx := by
  unfold sha256StartHw at h ⊢
  cases hdev : hw.dev with
  | none => rfl
  | some dev =>
    simp only [hdev] at h
    contradiction

theorem sha256SwitchToHw_fed {ctx : MbedtlsSha256Context σ τ} {all input : List Byte} {w : W}
    (hsoft : soft.fed (sha256HashType ctx.is224) ctx.sw all)
    (hret : (sha256SwitchToHw hw ctx input w).ret = 0)
    : ∃ hash' sw',
        (sha256SwitchToHw hw ctx input w).ctx
            = { ctx with
                hash := some hash'
                sw := sw'
                mode := .hw
                buffered := ctx.buffered.clear
              }
          ∧ hard.fed (sha256HashType ctx.is224) hash' (ctx.buffered.contents ++ input)
          ∧ soft.fed (sha256HashType ctx.is224) sw' (all ++ ctx.buffered.contents ++ input) := by
  unfold sha256SwitchToHw at hret ⊢
  have hstart : (sha256StartHw hw ctx w).ret = 0 → (sha256StartHw hw ctx w).ctx
      = { ctx with hash := some (drvPufsHashInit hw.kernel (sha256HashType ctx.is224)) } :=
    sha256StartHw_ok
  generalize sha256StartHw hw ctx w = start at hret hstart ⊢
  dsimp only at hret ⊢
  -- the start, the flush of the buffer and the new input go through, or the call fails with them
  by_cases hzero : start.ret = 0
  . rw [if_neg (by simp [hzero])] at hret ⊢
    have hctx := hstart hzero
    have hcontents : start.ctx.buffered.contents = ctx.buffered.contents := by
      rw [hctx]
    rw [hcontents] at hret ⊢
    have hhard := hard.init (sha256HashType ctx.is224)
    by_cases hbuffered : (sha256FeedNonempty hw start ctx.buffered.contents).ret = 0
    . rw [if_neg (by simp [hbuffered])] at hret ⊢
      obtain ⟨hash₁, sw₁, hctx₁, hhard₁, hsoft₁⟩ :=
        sha256FeedNonempty_fed (by rw [hctx]) hhard (by rw [hctx]; exact hsoft) hbuffered
      generalize sha256FeedNonempty hw start ctx.buffered.contents = feedBuffered
        at hret hctx₁ ⊢
      by_cases hinput : (sha256FeedNonempty hw feedBuffered input).ret = 0
      . obtain ⟨hash₂, sw₂, hctx₂, hhard₂, hsoft₂⟩ :=
          sha256FeedNonempty_fed (by rw [hctx₁]) hhard₁ (by rw [hctx₁]; exact hsoft₁) hinput
        rw [if_neg (by simp [hinput])]
        refine ⟨hash₂, sw₂, ?_, ?_, ?_⟩
        . rw [hctx₂, hctx₁, hctx]
        . exact hhard₂
        . exact hsoft₂
      . rw [if_pos hinput] at hret
        exact absurd hret hinput
    . rw [if_pos hbuffered] at hret
      exact absurd hret hbuffered
  . rw [if_pos hzero] at hret
    exact absurd hret hzero

section

variable {ctx : MbedtlsSha256Context σ τ} {log : Sha256Log} (h : Sha256Tracks hard soft ctx log)
    {input : List Byte}

include h in
theorem Sha256Tracks.append_buffered (hmode : ctx.mode = .buffered)
    (hfits : ctx.buffered.len + input.length ≤ sha256SwFallbackThreshold)
    : Sha256Tracks hard soft { ctx with buffered := ctx.buffered.append input hfits }
        (log.append input) := by
  obtain ⟨hcontents, hsoft⟩ := h.buffered hmode
  refine ⟨h.hash, Sha256Log.base_le_append h.base_le input, ?_, ?_⟩
  . intro _
    rw [Sha256Log.drop_append h.base_le, Sha256Log.take_append h.base_le]
    dsimp only
    rw [Sha256Buffer.contents_append, hcontents]
    exact ⟨rfl, hsoft⟩
  . intro hhw
    exact absurd (hmode.symm.trans hhw) (by decide)

include h in
theorem Sha256Tracks.append_switch (hmode : ctx.mode = .buffered)
    (hfull : ¬ctx.buffered.len + input.length ≤ sha256SwFallbackThreshold) {w : W}
    (hret : (sha256SwitchToHw hw ctx input w).ret = 0)
    : Sha256Tracks hard soft (sha256SwitchToHw hw ctx input w).ctx (log.append input) := by
  have hle := h.base_le
  have hlen := congrArg List.length (h.buffered hmode).1
  rw [Sha256Buffer.length_contents, List.length_drop] at hlen
  obtain ⟨hcontents, hsoft⟩ := h.buffered hmode
  rw [← h.hash] at hsoft
  obtain ⟨hash', sw', hctx', hhard', hsoft'⟩ := sha256SwitchToHw_fed hsoft hret
  rw [hcontents, h.hash] at hhard' hsoft'
  rw [List.take_append_drop] at hsoft'
  rw [← Sha256Log.drop_append h.base_le] at hhard'
  rw [hctx']
  refine ⟨h.hash, Sha256Log.base_le_append h.base_le input, ?_, ?_⟩
  . intro hbuffered
    cases hbuffered
  . intro _
    refine ⟨?_, ⟨hash', rfl, hhard'⟩, hsoft'⟩
    unfold Sha256Log.Switched Sha256Log.append
    rw [List.length_append]
    dsimp only
    omega

include h in
theorem Sha256Tracks.append_hw (hmode : ctx.mode = .hw) {w : W}
    (hret : (sha256FeedBoth hw ctx input w).ret = 0)
    : Sha256Tracks hard soft (sha256FeedBoth hw ctx input w).ctx (log.append input) := by
  obtain ⟨hswitched, ⟨hash, hhash, hhard⟩, hsoft⟩ := h.hw hmode
  obtain ⟨hash', sw', hctx', hhard', hsoft'⟩ := sha256FeedBoth_fed hhash hhard hsoft hret
  rw [← Sha256Log.drop_append h.base_le] at hhard'
  rw [hctx']
  refine ⟨h.hash, Sha256Log.base_le_append h.base_le input, ?_, ?_⟩
  . intro hbuffered
    exact absurd (hmode.symm.trans hbuffered) (by decide)
  . intro _
    exact ⟨Sha256Log.switched_append input hswitched, ⟨hash', rfl, hhard'⟩, hsoft'⟩

end

theorem mbedtlsSha256Update_tracks {ctx : MbedtlsSha256Context σ τ} {log : Sha256Log}
    (hstarted : ctx.started = true) (h : Sha256Tracks hard soft ctx log) {input : List Byte} {w : W}
    (hret : (mbedtlsSha256Update hw ctx input w).ret = 0)
    : Sha256Tracks hard soft (mbedtlsSha256Update hw ctx input w).ctx (log.append input) := by
  unfold mbedtlsSha256Update at hret ⊢
  rw [if_neg (by simp [hstarted])] at hret ⊢
  by_cases hnil : input.length = 0
  . rw [if_pos hnil]
    unfold Sha256Log.append
    rw [List.eq_nil_of_length_eq_zero hnil, List.append_nil]
    exact h
  . rw [if_neg hnil] at hret ⊢
    generalize hmode : ctx.mode = mode at hret ⊢
    cases mode with
    | buffered =>
      dsimp only at hret ⊢
      by_cases hfits : ctx.buffered.len + input.length ≤ sha256SwFallbackThreshold
      . rw [dif_pos hfits]
        have happend := h.append_buffered hmode hfits
        rw [hmode] at happend
        exact happend
      . rw [dif_neg hfits] at hret ⊢
        exact h.append_switch hmode hfits hret
    | hw => exact h.append_hw hmode hret

theorem mbedtlsSha256Update_inv {ctx : MbedtlsSha256Context σ τ} {log : Sha256Log}
    (hinv : Sha256Inv hard soft ctx log) (input : List Byte) (w : W)
    : let res := mbedtlsSha256Update hw ctx input w
      Sha256Inv hard soft res.ctx (log.update input res.ret) := by
  intro res _ hfailed
  unfold Sha256Log.update at hfailed ⊢
  by_cases hret : res.ret = 0
  . rw [if_pos hret] at hfailed ⊢
    by_cases hstarted : ctx.started = true
    . exact mbedtlsSha256Update_tracks hstarted (hinv hstarted hfailed) hret
    . unfold res mbedtlsSha256Update at hret
      rw [if_pos (by simp [hstarted])] at hret
      exact absurd hret (show errSha256BadInputData ≠ 0 by decide)
  . rw [if_neg hret] at hfailed
    cases hfailed

theorem mbedtlsSha256Clone_inv {ctx : MbedtlsSha256Context σ τ} {log : Sha256Log}
    (hinv : Sha256Inv hard soft ctx log)
    : Sha256Inv hard soft (mbedtlsSha256Clone ctx) log.clone := by
  unfold mbedtlsSha256Clone Sha256Log.clone
  by_cases hhw : ctx.started = true ∧ ctx.mode = .hw
  . rw [if_pos hhw]
    intro hstarted hfailed
    by_cases hfailed' : log.failed = false
    . have htracks := hinv hhw.1 hfailed'
      obtain ⟨hswitched, _, hsoft⟩ := htracks.hw hhw.2
      rw [if_pos hswitched]
      refine ⟨htracks.hash, Nat.le_refl _, ?_, ?_⟩
      . intro _
        dsimp only
        rw [Sha256Buffer.contents_clear, List.drop_length, List.take_length]
        exact ⟨rfl, hsoft⟩
      . intro hhw
        cases hhw
    . split at hfailed
      . exact absurd hfailed hfailed'
      . exact absurd hfailed hfailed'
  . rw [if_neg hhw]
    intro hstarted hfailed
    have hmode : ctx.mode = .buffered := by
      cases h : ctx.mode with
      | buffered => rfl
      | hw => exact absurd ⟨hstarted, h⟩ hhw
    by_cases hswitched : log.Switched
    . rw [if_pos hswitched] at hfailed
      exact absurd hswitched ((hinv hstarted hfailed).not_switched hmode)
    . rw [if_neg hswitched] at hfailed ⊢
      exact hinv hstarted hfailed

theorem mbedtlsSha256Starts_inv {ctx : MbedtlsSha256Context σ τ} {log : Sha256Log}
    (hinv : Sha256Inv hard soft ctx log) (is224 : Int) (w : W)
    : let res := mbedtlsSha256Starts hw ctx is224 w
      Sha256Inv hard soft res.ctx (log.starts is224 res.ret) := by
  intro res
  unfold res mbedtlsSha256Starts Sha256Log.starts
  by_cases hvalid : is224 ≠ 0 ∧ is224 ≠ 1
  . rw [if_pos hvalid]
    exact hinv
  . rw [if_neg hvalid]
    generalize hstarts : hw.soft.starts ctx.sw is224 w = res
    obtain ⟨ret, sw', w'⟩ := res
    by_cases hret : ret = 0
    . subst hret
      simp only [ne_eq, not_true_eq_false, if_false, if_true]
      intro _ _
      refine ⟨rfl, Nat.le_refl _, ?_, ?_⟩
      . intro _
        exact ⟨rfl, soft.starts hstarts⟩
      . intro hhw
        cases hhw
    . simp only [ne_eq, hret, not_false_eq_true, if_true, if_false]
      rw [soft.starts_fail hstarts hret]
      exact hinv

theorem mbedtlsSha256Finish_started (ctx : MbedtlsSha256Context σ τ) (w : W)
    : (mbedtlsSha256Finish hw ctx w).ctx.started = false := by
  unfold mbedtlsSha256Finish
  by_cases hstarted : ctx.started = true
  . rw [if_neg (by simp [hstarted])]
    cases ctx.mode with
    | buffered =>
      unfold sha256FinishBuffered
      by_cases hflush : (sha256FlushBuffered hw ctx w).ret = 0
      . rw [if_neg (by simp [hflush])]
      . rw [if_pos hflush]
    | hw =>
      unfold sha256FinishHw
      dsimp only
      split
      . rfl
      . rfl
  . rw [if_pos (by simp [hstarted])]
    exact Bool.eq_false_iff.mpr hstarted

theorem sha256FlushBuffered_fed {ctx : MbedtlsSha256Context σ τ} {hashType : HashType}
    {bytes : List Byte} {w : W} (hsoft : soft.fed hashType ctx.sw bytes)
    (hret : (sha256FlushBuffered hw ctx w).ret = 0)
    : soft.fed hashType (sha256FlushBuffered hw ctx w).ctx.sw (bytes ++ ctx.buffered.contents) := by
  unfold sha256FlushBuffered at hret ⊢
  by_cases hpos : 0 < ctx.buffered.len
  . rw [if_pos hpos] at hret ⊢
    unfold sha256SwUpdate at hret ⊢
    generalize hupdate : hw.soft.update ctx.sw ctx.buffered.contents w = res at hret ⊢
    obtain ⟨ret, sw', w'⟩ := res
    change ret = 0 at hret
    subst hret
    exact soft.update hsoft hupdate
  . have hnil : ctx.buffered.contents = [] := by
      apply List.eq_nil_of_length_eq_zero
      rw [Sha256Buffer.length_contents]
      omega
    rw [if_neg hpos]
    rw [hnil, List.append_nil]
    exact hsoft

theorem sha256FinishBuffered_out {ctx : MbedtlsSha256Context σ τ} {hashType : HashType}
    {bytes : List Byte} (hsoft : soft.fed hashType ctx.sw bytes) {w : W}
    (hret : (sha256FinishBuffered hw ctx w).ret = 0)
    : (sha256FinishBuffered hw ctx w).out = digest hashType (bytes ++ ctx.buffered.contents) := by
  unfold sha256FinishBuffered at hret ⊢
  by_cases hflush : (sha256FlushBuffered hw ctx w).ret = 0
  . have hfed := sha256FlushBuffered_fed hsoft hflush
    rw [if_neg (by simp [hflush])] at hret ⊢
    generalize hfinish :
      hw.soft.finish (sha256FlushBuffered hw ctx w).ctx.sw (sha256FlushBuffered hw ctx w).world
        = res at hret ⊢
    obtain ⟨ret, out, sw', w'⟩ := res
    change ret = 0 at hret
    subst hret
    exact soft.finish hfed hfinish
  . rw [if_pos hflush] at hret
    exact absurd hret hflush

theorem sha256FinishHw_out {ctx : MbedtlsSha256Context σ τ} {hashType : HashType} {hash : HashCtx σ}
    {bytes : List Byte} (hctx : ctx.hash = some hash) (hhard : hard.fed hashType hash bytes) {w : W}
    (hret : (sha256FinishHw hw ctx w).ret = 0)
    : (sha256FinishHw hw ctx w).out = digest hashType bytes := by
  unfold sha256FinishHw drvPufsHashInstFinal drvPufsHashFinal at hret ⊢
  cases hdev : hw.dev with
  | none =>
    simp only [hdev] at hret
    exact absurd hret (show errSha256BadInputData ≠ 0 by decide)
  | some dev =>
    simp only [hdev, hctx] at hret ⊢
    generalize hfinal : hw.kernel.final hash w = res at hret ⊢
    obtain ⟨res, w'⟩ := res
    cases res with
    | error e => exact absurd hret (show errSha256BadInputData ≠ 0 by decide)
    | ok out => exact hard.final hhard hfinal

/-
A finish that goes through gives out the digest of all bytes in buffered mode, and in hardware mode
that of the bytes the hardware has seen.
-/
theorem mbedtlsSha256Finish_out {ctx : MbedtlsSha256Context σ τ} {log : Sha256Log}
    (hinv : Sha256Inv hard soft ctx log) (hfailed : log.failed = false) {w : W}
    (hret : (mbedtlsSha256Finish hw ctx w).ret = 0)
    : (mbedtlsSha256Finish hw ctx w).out = digest log.hash log.hashed := by
  unfold mbedtlsSha256Finish at hret ⊢
  by_cases hstarted : ctx.started = true
  . rw [if_neg (by simp [hstarted])] at hret ⊢
    have htracks := hinv hstarted hfailed
    generalize hmode : ctx.mode = mode at hret ⊢
    cases mode with
    | buffered =>
      obtain ⟨hcontents, hsoft⟩ := htracks.buffered hmode
      have hhashed : log.hashed = log.fed := if_neg (htracks.not_switched hmode)
      have hout := sha256FinishBuffered_out hsoft hret
      rw [hcontents, List.take_append_drop] at hout
      rw [hhashed]
      exact hout
    | hw =>
      obtain ⟨hswitched, ⟨hash, hhash, hhard⟩, _⟩ := htracks.hw hmode
      have hhashed : log.hashed = log.fed.drop log.base := if_pos hswitched
      rw [hhashed]
      exact sha256FinishHw_out hhash hhard hret
  . rw [if_pos (by simp [hstarted])] at hret
    exact absurd hret (show errSha256BadInputData ≠ 0 by decide)

end

/-
The machine over all contexts, together with the log of each of them.
-/
structure Sha256Run (σ τ W : Type) where
  state : Sha256State σ τ W
  log : Nat → Sha256Log

def Sha256Run.init (hw : Sha256Hw σ τ W) (w : W) : Sha256Run σ τ W :=
  ⟨⟨fun _ => mbedtlsSha256Init hw, w⟩, fun _ => ⟨.sha256, [], 0, false⟩⟩

def sha256LogStep (log : Nat → Sha256Log) (op : Sha256Op) (ret : Int) : Nat → Sha256Log :=
  match op with
  | .clone dst src => Function.update log dst (log src).clone
  | .starts i is224 => Function.update log i ((log i).starts is224 ret)
  | .update i input => Function.update log i ((log i).update input ret)
  | .init _ | .free _ | .finish _ => log

def sha256Machine (hw : Sha256Hw σ τ W) : Machine (Sha256Run σ τ W) Sha256Op Sha256Obs :=
  ⟨fun s op =>
    let (state, obs) := sha256Step hw s.state op
    (⟨state, sha256LogStep s.log op obs.ret⟩, obs)⟩

section

variable {hw : Sha256Hw σ τ W} {digest : HashType → List Byte → List Byte}
    (hard : HashLaws hw.kernel digest) (soft : SoftLaws hw.soft digest)

def Sha256RunInv (s : Sha256Run σ τ W) : Prop :=
  ∀ i, Sha256Inv hard soft (s.state.contexts i) (s.log i)

theorem sha256Inv_of_not_started {ctx : MbedtlsSha256Context σ τ} {log : Sha256Log}
    (h : ctx.started = false) : Sha256Inv hard soft ctx log := by
  intro hstarted
  rw [h] at hstarted
  cases hstarted

/-
An operation touches one context and its log.
-/
theorem Sha256RunInv.set {s : Sha256Run σ τ W} (hinv : Sha256RunInv hard soft s) {i : Nat}
    {res : Sha256Status σ τ W} {log : Sha256Log} (hres : Sha256Inv hard soft res.ctx log)
    : Sha256RunInv hard soft ⟨s.state.set i res, Function.update s.log i log⟩ := by
  intro j
  unfold Sha256State.set
  dsimp only
  by_cases hj : j = i
  . subst hj
    rw [if_pos rfl, Function.update_self]
    exact hres
  . rw [if_neg hj, Function.update_of_ne hj]
    exact hinv j

theorem Sha256RunInv.set_of_not_started {s : Sha256Run σ τ W} (hinv : Sha256RunInv hard soft s)
    {i : Nat} {res : Sha256Status σ τ W} (hres : res.ctx.started = false)
    : Sha256RunInv hard soft ⟨s.state.set i res, s.log⟩ := by
  have hset : Sha256RunInv hard soft ⟨s.state.set i res, Function.update s.log i (s.log i)⟩ :=
    Sha256RunInv.set hard soft hinv (sha256Inv_of_not_started hard soft hres)
  rw [Function.update_eq_self] at hset
  exact hset

theorem sha256Step_inv {s : Sha256Run σ τ W} (hinv : Sha256RunInv hard soft s) (op : Sha256Op)
    : Sha256RunInv hard soft ((sha256Machine hw).step s op).1 := by
  cases op with
  | init i =>
    apply Sha256RunInv.set_of_not_started hard soft hinv
    rfl
  | free i =>
    apply Sha256RunInv.set_of_not_started hard soft hinv
    rfl
  | clone dst src =>
    apply Sha256RunInv.set hard soft hinv
    exact mbedtlsSha256Clone_inv (hinv src)
  | starts i is224 =>
    apply Sha256RunInv.set hard soft hinv
    exact mbedtlsSha256Starts_inv (hinv i) is224 s.state.world
  | update i input =>
    apply Sha256RunInv.set hard soft hinv
    exact mbedtlsSha256Update_inv (hinv i) input s.state.world
  | finish i =>
    apply Sha256RunInv.set_of_not_started hard soft hinv
    exact mbedtlsSha256Finish_started _ _

theorem sha256Run_init_inv (w : W) : Sha256RunInv hard soft (Sha256Run.init hw w) :=
  fun _ => sha256Inv_of_not_started hard soft rfl

/-
In any run, a finish that goes through on a context without failed updates is right unless more than
256 bytes have been fed to it since the last clone from hardware mode.
-/
include hard soft in
theorem finish_digest_iff (w : W) (ops : List Sha256Op)
    : ∀ v ∈ (sha256Machine hw).visits (Sha256Run.init hw w) ops,
        ∀ i, v.event = .finish i → v.obs.ret = 0 → (v.pre.log i).failed = false →
          (v.obs.out = digest (v.pre.log i).hash (v.pre.log i).fed
            ↔ ¬(v.pre.log i).Cut
              ∨ digest (v.pre.log i).hash ((v.pre.log i).fed.drop (v.pre.log i).base)
                  = digest (v.pre.log i).hash (v.pre.log i).fed) := by
  intro v hv i hevent hret hfailed
  have hinv : Sha256RunInv hard soft v.pre :=
    @Machine.visits_inv _ _ _ (sha256Machine hw) (Sha256RunInv hard soft)
      (fun _ op h => sha256Step_inv hard soft h op) _ (sha256Run_init_inv hard soft w) ops v hv
  have heq := Machine.eq_visit_of_mem hv
  have hobs : v.obs = ((sha256Machine hw).step v.pre v.event).2 := by
    rw [heq]
    rfl
  rw [hevent] at hobs
  have hout : v.obs.out = digest (v.pre.log i).hash (v.pre.log i).hashed := by
    rw [hobs] at hret ⊢
    exact mbedtlsSha256Finish_out (hinv i) hfailed hret
  rw [hout]
  by_cases hcut : (v.pre.log i).Cut
  . rw [Sha256Log.hashed_of_cut hcut]
    simp [hcut]
  . rw [Sha256Log.hashed_of_not_cut hcut]
    simp [hcut]

end

/-
Hashes that count their bytes.
-/
def countDigest (hash : HashType) (bytes : List Byte) : List Byte :=
  [if hash = .sha224 then 224 else 0, BitVec.ofNat 8 bytes.length, BitVec.ofNat 8 (bytes.length / 256)]

def countKernel : HashKernel (List Byte) Unit :=
  {
    zero := []
    update := fun ctx msg w => (.ok { ctx with state := ctx.state ++ msg }, w)
    final := fun ctx w => (.ok (countDigest ctx.hash ctx.state), w)
    hmacUpdate := fun _ _ w => (.error einval, w)
    hmacFinal := fun _ w => (.error einval, w)
  }

def countSoft : Sha256Soft (HashType × List Byte) Unit :=
  {
    zero := (.sha256, [])
    init := fun _ => (.sha256, [])
    free := fun _ => (.sha256, [])
    starts := fun _ is224 w => (0, (sha256HashType is224, []), w)
    update := fun sw input w => (0, (sw.1, sw.2 ++ input), w)
    finish := fun sw w => (0, countDigest sw.1 sw.2, sw, w)
  }

def countHw : Sha256Hw (List Byte) (HashType × List Byte) Unit :=
  ⟨some pufsBufSize, countKernel, countSoft⟩

def countKernel_laws : HashLaws countHw.kernel countDigest where
  fed := fun hash ctx bytes => ctx.hash = hash ∧ ctx.state = bytes
  init := fun _ => ⟨rfl, rfl⟩
  update := by
    intro hash ctx bytes msg w ctx' w' hfed hupdate
    injection hupdate with hctx _
    injection hctx with hctx
    rw [← hctx]
    exact ⟨hfed.1, congrArg (· ++ msg) hfed.2⟩
  final := by
    intro hash ctx bytes w out w' hfed hfinal
    injection hfinal with hout _
    injection hout with hout
    rw [← hout, hfed.1, hfed.2]

def countSoft_laws : SoftLaws countHw.soft countDigest where
  fed := fun hash sw bytes => sw = (hash, bytes)
  starts := by
    intro sw is224 w sw' w' hstarts
    injection hstarts with _ hrest
    injection hrest with hsw _
    exact hsw.symm
  starts_fail := by
    intro sw is224 w ret sw' w' hstarts hret
    injection hstarts with hzero _
    exact absurd hzero.symm hret
  update := by
    intro hash sw bytes input w sw' w' hfed hupdate
    injection hupdate with _ hrest
    injection hrest with hsw _
    rw [← hsw, hfed]
  finish := by
    intro hash sw bytes w out sw' w' hfed hfinish
    injection hfinish with _ hrest
    injection hrest with hout _
    rw [← hout, hfed]

/-
A context that has gone over to the hardware, and a clone of it that is fed a little or a lot.
-/
def clonedAndFed (n : Nat) : List Sha256Op :=
  [.starts 0 0, .update 0 (List.replicate 257 1), .clone 1 0, .update 1 (List.replicate n 2), .finish 1]

theorem clonedAndFed_one_digest
    : let s := (sha256Machine countHw).final (Sha256Run.init countHw ()) ((clonedAndFed 1).take 4)
      ((sha256Machine countHw).step s (.finish 1)).2.out
        = countDigest (s.log 1).hash (s.log 1).fed := by
  intro s
  have hmem : (sha256Machine countHw).visit s (.finish 1)
      ∈ (sha256Machine countHw).visits (Sha256Run.init countHw ()) (clonedAndFed 1) :=
    .tail _ (.tail _ (.tail _ (.tail _ (.head _))))
  exact (finish_digest_iff countKernel_laws countSoft_laws () (clonedAndFed 1) _ hmem 1 rfl
    (by decide +kernel) (by decide +kernel)).mpr (.inl (by decide +kernel))

theorem clonedAndFed_many_not_digest
    : let s := (sha256Machine countHw).final (Sha256Run.init countHw ()) ((clonedAndFed 257).take 4)
      let obs := ((sha256Machine countHw).step s (.finish 1)).2
      obs.ret = 0
        ∧ (s.log 1).failed = false
        ∧ obs.out ≠ countDigest (s.log 1).hash (s.log 1).fed := by
  decide +kernel

end Mbedtls

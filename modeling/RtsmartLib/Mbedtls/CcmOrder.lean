import RtsmartLib.Mbedtls.CcmAlt

/-!
This module contains the two orders in which the nonce and the lengths of a CCM operation can be given.
-/

namespace Mbedtls

open Lib Pufs

variable {κ W : Type}

/--
The kernel over a world that also lists the initialisations that it was asked for.
-/
def initsRecorded (kernel : CipherKernel κ W) : CipherKernel κ (W × List CipherOp) :=
  {
    zero := kernel.zero
    init := fun op w =>
      let (res, w') := kernel.init op w.1
      (res, w', w.2 ++ [op])
    update := fun ctx hasOut bytes w =>
      let (res, w') := kernel.update ctx hasOut bytes w.1
      (res, w', w.2)
    final := fun ctx args w =>
      let (res, w') := kernel.final ctx args w.1
      (res, w', w.2)
  }

/-
What an operation is set up with.
-/
structure CcmSetup where
  mode : Int
  iv : Option (List Byte)
  totalAdLen : Nat
  plaintextLen : Nat
  tagLen : Nat

def ccmStarts (hw : CcmHw κ W) (setup : CcmSetup) (ctx : MbedtlsCcmContext κ) (w : W) : CcmStatus κ W :=
  mbedtlsCcmStarts hw ctx setup.mode setup.iv w

def ccmSetLengths (hw : CcmHw κ W) (setup : CcmSetup) (ctx : MbedtlsCcmContext κ) (w : W)
    : CcmStatus κ W :=
  mbedtlsCcmSetLengths hw ctx setup.totalAdLen setup.plaintextLen setup.tagLen w

def ccmStartsThenLengths (hw : CcmHw κ W) (setup : CcmSetup) (ctx : MbedtlsCcmContext κ) (w : W)
    : CcmStatus κ W :=
  let starts := ccmStarts hw setup ctx w
  ccmSetLengths hw setup starts.ctx starts.world

def ccmLengthsThenStarts (hw : CcmHw κ W) (setup : CcmSetup) (ctx : MbedtlsCcmContext κ) (w : W)
    : CcmStatus κ W :=
  let lengths := ccmSetLengths hw setup ctx w
  ccmStarts hw setup lengths.ctx lengths.world

inductive CcmCall where
  | updateAd (ad : List Byte)
  | update (input : List Byte) (hasOut : Bool) (outputSize : Nat)
  | finish (tag : List Byte) (tagLen : Nat)

structure CcmAnswer where
  ret : Int
  out : List Byte
deriving DecidableEq

def ccmCall (hw : CcmHw κ W) (ctx : MbedtlsCcmContext κ) (w : W) (call : CcmCall)
    : CcmAnswer × MbedtlsCcmContext κ × W :=
  match call with
  | .updateAd ad =>
    let res := mbedtlsCcmUpdateAd hw ctx ad w
    (⟨res.ret, []⟩, res.ctx, res.world)
  | .update input hasOut outputSize =>
    let res := mbedtlsCcmUpdate hw ctx input hasOut outputSize w
    (⟨res.ret, res.out⟩, res.ctx, res.world)
  | .finish tag tagLen =>
    let res := mbedtlsCcmFinish hw ctx tag tagLen w
    (⟨res.ret, res.tag⟩, res.ctx, res.world)

def ccmAnswers (hw : CcmHw κ W) (ctx : MbedtlsCcmContext κ) (w : W) (calls : List CcmCall)
    : List CcmAnswer :=
  match calls with
  | [] => []
  | call :: calls =>
    let (answer, ctx, w) := ccmCall hw ctx w call
    answer :: ccmAnswers hw ctx w calls

def StartsAccepts (setup : CcmSetup) (ctx : MbedtlsCcmContext κ) : Prop :=
  ctx.hasKey = true ∧ ccmModeValid setup.mode = true
    ∧ ∃ iv, setup.iv = some iv ∧ 7 ≤ iv.length ∧ iv.length ≤ 13

def LengthsAccept (setup : CcmSetup) : Prop :=
  ¬(setup.tagLen = 2 ∨ setup.tagLen % 2 ≠ 0 ∨ setup.tagLen > 16 ∨ setup.tagLen = 0)

/--
Both orders lead to the same context after the same initialisations of the hardware, of which there is
exactly one if both calls accept what they are given; and every sequence of calls is answered alike.
-/
def SetupCommutes (hw : CcmHw κ W) (setup : CcmSetup) (ctx : MbedtlsCcmContext κ) (w : W) : Prop :=
  let hw : CcmHw κ (W × List CipherOp) := ⟨hw.dev, initsRecorded hw.kernel⟩
  let startsFirst := ccmStartsThenLengths hw setup ctx (w, [])
  let lengthsFirst := ccmLengthsThenStarts hw setup ctx (w, [])
  startsFirst.ctx = lengthsFirst.ctx
    ∧ startsFirst.world.2 = lengthsFirst.world.2
    ∧ (StartsAccepts setup ctx ∧ LengthsAccept setup → startsFirst.world.2.length = 1)
    ∧ ∀ calls, ccmAnswers hw startsFirst.ctx startsFirst.world calls
        = ccmAnswers hw lengthsFirst.ctx lengthsFirst.world calls

section

variable (hw : CcmHw κ W) (setup : CcmSetup) {ctx : MbedtlsCcmContext κ} (w : W)

theorem ccmHwInit_waits (h : ctx.haveLengths = false) : ccmHwInit hw ctx w = ⟨0, ctx, w⟩ := by
  unfold ccmHwInit
  rw [if_pos (by simp [h])]

theorem ccmHwInit_fields (ctx : MbedtlsCcmContext κ)
    : (ccmHwInit hw ctx w).ctx.haveLengths = ctx.haveLengths
        ∧ (ccmHwInit hw ctx w).ctx.hasKey = ctx.hasKey := by
  unfold ccmHwInit
  split
  . exact ⟨rfl, rfl⟩
  split
  . exact ⟨rfl, rfl⟩
  split
  . exact ⟨rfl, rfl⟩
  . exact ⟨rfl, rfl⟩

variable {setup}

/-
Starting an operation drops the lengths, whether they were of an earlier operation or of this one.
-/
theorem ccmStarts_accepted (h : StartsAccepts setup ctx)
    : (ccmStarts hw setup ctx w).ctx.haveLengths = false
        ∧ (ccmStarts hw setup ctx w).ctx.started = false
        ∧ (ccmStarts hw setup ctx w).world = w := by
  obtain ⟨hkey, hmode, iv, hiv, hlow, hhigh⟩ := h
  unfold ccmStarts mbedtlsCcmStarts
  rw [hiv]
  dsimp only
  rw [if_neg (by simp [hkey]), if_neg (by simp [hmode]), if_neg (by omega)]
  rw [ccmHwInit_waits hw w rfl]
  exact ⟨rfl, rfl, rfl⟩

theorem ccmStarts_refused (h : ¬StartsAccepts setup ctx)
    : (ccmStarts hw setup ctx w).ctx = ctx ∧ (ccmStarts hw setup ctx w).world = w := by
  unfold ccmStarts mbedtlsCcmStarts
  split
  . exact ⟨rfl, rfl⟩
  next iv hiv =>
    split
    . exact ⟨rfl, rfl⟩
    next hkey =>
      split
      . exact ⟨rfl, rfl⟩
      next hmode =>
        split
        . exact ⟨rfl, rfl⟩
        next hlength =>
          have hbounds := not_or.mp hlength
          exfalso
          apply h
          refine ⟨by simpa using hkey, by simpa using hmode, iv, hiv, ?_, ?_⟩
          . exact Nat.le_of_not_lt hbounds.1
          . exact Nat.le_of_not_lt hbounds.2

theorem ccmSetLengths_accepted (h : LengthsAccept setup) (ctx : MbedtlsCcmContext κ)
    : (ccmSetLengths hw setup ctx w).ctx.haveLengths = true
        ∧ (ccmSetLengths hw setup ctx w).ctx.hasKey = ctx.hasKey := by
  unfold ccmSetLengths mbedtlsCcmSetLengths
  rw [if_neg h]
  apply ccmHwInit_fields

theorem ccmSetLengths_refused (h : ¬LengthsAccept setup) (ctx : MbedtlsCcmContext κ)
    : (ccmSetLengths hw setup ctx w).ctx = ctx ∧ (ccmSetLengths hw setup ctx w).world = w := by
  unfold ccmSetLengths mbedtlsCcmSetLengths
  rw [if_pos (not_not.mp h)]
  exact ⟨rfl, rfl⟩

/-
Given in the order of the lengths first, an operation is not started.
-/
theorem ccmLengthsThenStarts_accepted (hstarts : StartsAccepts setup ctx) (hlengths : LengthsAccept setup)
    : (ccmLengthsThenStarts hw setup ctx w).ctx.haveLengths = false
        ∧ (ccmLengthsThenStarts hw setup ctx w).ctx.started = false := by
  have hkey := (ccmSetLengths_accepted hw w hlengths ctx).2
  have haccepts : StartsAccepts setup (ccmSetLengths hw setup ctx w).ctx := by
    unfold StartsAccepts at hstarts ⊢
    rw [hkey]
    exact hstarts
  have ⟨hlost, hidle, _⟩ := ccmStarts_accepted hw (ccmSetLengths hw setup ctx w).world haccepts
  exact ⟨hlost, hidle⟩

/-
All that an operation answers that is not started is that it was used wrongly.
-/
theorem ccmAnswers_notStarted (hstarted : ctx.started = false) (calls : List CcmCall)
    : ∀ answer ∈ ccmAnswers hw ctx w calls, answer.ret = errCcmBadInput := by
  induction calls with
  | nil =>
    intro answer hanswer
    simp [ccmAnswers] at hanswer
  | cons call calls ih =>
    have hcall : (ccmCall hw ctx w call).1.ret = errCcmBadInput
        ∧ (ccmCall hw ctx w call).2 = (ctx, w) := by
      cases call with
      | updateAd ad => simp [ccmCall, mbedtlsCcmUpdateAd, hstarted]
      | update input hasOut outputSize => simp [ccmCall, mbedtlsCcmUpdate, hstarted]
      | finish tag tagLen => simp [ccmCall, mbedtlsCcmFinish, hstarted]
    intro answer hanswer
    simp only [ccmAnswers, hcall.2, List.mem_cons] at hanswer
    cases hanswer with
    | inl h =>
      rw [h]
      exact hcall.1
    | inr h => exact ih answer h

theorem ccmLengthsThenStarts_answers (hstarts : StartsAccepts setup ctx)
    (hlengths : LengthsAccept setup) (calls : List CcmCall)
    : ∀ answer ∈ ccmAnswers hw (ccmLengthsThenStarts hw setup ctx w).ctx
        (ccmLengthsThenStarts hw setup ctx w).world calls, answer.ret = errCcmBadInput := by
  apply ccmAnswers_notStarted
  exact (ccmLengthsThenStarts_accepted hw w hstarts hlengths).2

theorem ccmStartsThenLengths_accepted (hlengths : LengthsAccept setup) (ctx : MbedtlsCcmContext κ)
    : (ccmStartsThenLengths hw setup ctx w).ctx.haveLengths = true :=
  (ccmSetLengths_accepted hw _ hlengths _).1

theorem not_setupCommutes (hstarts : StartsAccepts setup ctx) (hlengths : LengthsAccept setup)
    : ¬SetupCommutes hw setup ctx w := by
  intro h
  have hheld := ccmStartsThenLengths_accepted ⟨hw.dev, initsRecorded hw.kernel⟩ (w, []) hlengths ctx
  have hlost := (ccmLengthsThenStarts_accepted ⟨hw.dev, initsRecorded hw.kernel⟩ (w, []) hstarts
    hlengths).1
  rw [h.1, hlost] at hheld
  cases hheld

theorem setupCommutes_of_same (hctx : (ccmStartsThenLengths
      (⟨hw.dev, initsRecorded hw.kernel⟩ : CcmHw κ (W × List CipherOp)) setup ctx (w, [])).ctx
        = (ccmLengthsThenStarts ⟨hw.dev, initsRecorded hw.kernel⟩ setup ctx (w, [])).ctx)
    (hworld : (ccmStartsThenLengths
      (⟨hw.dev, initsRecorded hw.kernel⟩ : CcmHw κ (W × List CipherOp)) setup ctx (w, [])).world
        = (ccmLengthsThenStarts ⟨hw.dev, initsRecorded hw.kernel⟩ setup ctx (w, [])).world)
    (hrefused : ¬(StartsAccepts setup ctx ∧ LengthsAccept setup))
    : SetupCommutes hw setup ctx w := by
  refine ⟨hctx, congrArg Prod.snd hworld, ?_, ?_⟩
  . intro h
    contradiction
  . intro calls
    rw [hctx, hworld]

end

/--
On any context, fresh or used, the two calls commute exactly if one of them refuses what it is given.
-/
theorem setupCommutes_iff (hw : CcmHw κ W) (setup : CcmSetup) (ctx : MbedtlsCcmContext κ) (w : W)
    : SetupCommutes hw setup ctx w ↔ ¬(StartsAccepts setup ctx ∧ LengthsAccept setup) := by
  constructor
  . intro h ⟨hstarts, hlengths⟩
    exact not_setupCommutes hw w hstarts hlengths h
  . intro hrefused
    have hkeep : ∀ (hw : CcmHw κ (W × List CipherOp)) (w : W × List CipherOp),
        (ccmStartsThenLengths hw setup ctx w).ctx = (ccmLengthsThenStarts hw setup ctx w).ctx
          ∧ (ccmStartsThenLengths hw setup ctx w).world
            = (ccmLengthsThenStarts hw setup ctx w).world := by
      intro hw w
      unfold ccmStartsThenLengths ccmLengthsThenStarts
      dsimp only
      -- whichever call refuses leaves the context to the other one
      by_cases hlengths : LengthsAccept setup
      . have hstarts : ¬StartsAccepts setup ctx := fun h => hrefused ⟨h, hlengths⟩
        have hkey := (ccmSetLengths_accepted hw w hlengths ctx).2
        have hstarts' : ¬StartsAccepts setup (ccmSetLengths hw setup ctx w).ctx := by
          unfold StartsAccepts at hstarts ⊢
          rw [hkey]
          exact hstarts
        have ⟨hctx, hworld⟩ := ccmStarts_refused hw w hstarts
        have ⟨hctx', hworld'⟩ := ccmStarts_refused hw (ccmSetLengths hw setup ctx w).world hstarts'
        rw [hctx, hworld, hctx', hworld']
        exact ⟨rfl, rfl⟩
      . have ⟨hctx, hworld⟩ := ccmSetLengths_refused hw w hlengths ctx
        have ⟨hctx', hworld'⟩ := ccmSetLengths_refused hw (ccmStarts hw setup ctx w).world hlengths
          (ccmStarts hw setup ctx w).ctx
        rw [hctx, hworld, hctx', hworld']
        exact ⟨rfl, rfl⟩
    have ⟨hctx, hworld⟩ := hkeep ⟨hw.dev, initsRecorded hw.kernel⟩ (w, [])
    exact setupCommutes_of_same hw w hctx hworld hrefused

/-
A kernel that accepts everything, and a context that has only been given a key.
-/
def acceptingKernel : CipherKernel Unit Unit :=
  {
    zero := ()
    init := fun _ w => (.ok (), w)
    update := fun _ _ bytes w => (.ok ((), bytes), w)
    final := fun _ _ w => (.ok ⟨[], List.replicate 16 0⟩, w)
  }

def keyedContext : MbedtlsCcmContext Unit :=
  { mbedtlsCcmInit with
    key := List.replicate 16 7 ++ List.replicate 16 0
    keybits := 128
    hasKey := true
  }

def shortMessage : CcmSetup := ⟨mbedtlsCcmEncrypt, some (List.replicate 12 0), 0, 1, 16⟩

theorem shortMessage_not_commutes
    : ¬SetupCommutes ⟨some pufsBufSize, acceptingKernel⟩ shortMessage keyedContext () := by
  apply not_setupCommutes
  . refine ⟨rfl, by decide, List.replicate 12 0, rfl, ?_, ?_⟩
    . decide
    . decide
  . unfold LengthsAccept
    decide

end Mbedtls

import RtsmartLib.Pufs.Hash

/-!
This module contains the SHA-256/224 port: a buffer for short messages, the hardware hash beyond it, a
software hash kept alongside for clones, and the machine over any number of contexts.
-/

namespace Mbedtls

open Lib Pufs

def errSha256BadInputData : Int := -0x0074

def sha256SwFallbackThreshold : Nat := 256

/-
The software hash behind the port, whose code is not part of the repository.
-/
structure Sha256Soft (τ W : Type) where
  zero : τ
  init : τ → τ
  free : τ → τ
  starts : τ → Int → W → Int × τ × W
  update : τ → List Byte → W → Int × τ × W
  finish : τ → W → Int × List Byte × τ × W

inductive Sha256Mode where
  | buffered
  | hw
deriving DecidableEq

/-
The bytes of `buffered` up to `buffered_len` are those waiting there.
-/
structure Sha256Buffer where
  bytes : List Byte
  length_bytes : bytes.length = sha256SwFallbackThreshold
  len : Nat
  len_le : len ≤ sha256SwFallbackThreshold

namespace Sha256Buffer

def wiped : Sha256Buffer :=
  ⟨List.replicate sha256SwFallbackThreshold 0, List.length_replicate, 0, Nat.zero_le _⟩

def clear (b : Sha256Buffer) : Sha256Buffer :=
  { b with len := 0, len_le := Nat.zero_le _ }

def append (b : Sha256Buffer) (input : List Byte)
    (h : b.len + input.length ≤ sha256SwFallbackThreshold) : Sha256Buffer :=
  {
    bytes := b.bytes.take b.len ++ input ++ b.bytes.drop (b.len + input.length)
    length_bytes := by
      have := b.length_bytes
      simp only [List.length_append, List.length_take, List.length_drop]
      omega
    len := b.len + input.length
    len_le := h
  }

def contents (b : Sha256Buffer) : List Byte :=
  b.bytes.take b.len

@[simp]
theorem contents_wiped : wiped.contents = [] := rfl

@[simp]
theorem contents_clear (b : Sha256Buffer) : b.clear.contents = [] := rfl

theorem length_contents (b : Sha256Buffer) : b.contents.length = b.len := by
  have hlen := b.length_bytes
  have hle := b.len_le
  unfold contents
  rw [List.length_take]
  omega

@[simp]
theorem contents_append (b : Sha256Buffer) (input : List Byte)
    (h : b.len + input.length ≤ sha256SwFallbackThreshold)
    : (b.append input h).contents = b.contents ++ input := by
  have hlen : (b.contents ++ input).length = b.len + input.length := by
    rw [List.length_append, length_contents]
  have htake : (b.append input h).contents
      = (b.contents ++ input ++ b.bytes.drop (b.len + input.length)).take
          (b.len + input.length) := rfl
  rw [htake]
  rw [← hlen]
  exact List.take_left

end Sha256Buffer

structure MbedtlsSha256Context (σ τ : Type) where
  sw : τ
  hash : Option (HashCtx σ)
  is224 : Int
  started : Bool
  mode : Sha256Mode
  buffered : Sha256Buffer

structure Sha256Hw (σ τ W : Type) where
  dev : Option DrvPufsInst
  kernel : HashKernel σ W
  soft : Sha256Soft τ W

structure Sha256Status (σ τ W : Type) where
  ret : Int
  ctx : MbedtlsSha256Context σ τ
  world : W

variable {σ τ W : Type}

def sha256HashType (is224 : Int) : HashType :=
  if is224 ≠ 0 then .sha224 else .sha256

def sha256StartHw (hw : Sha256Hw σ τ W) (ctx : MbedtlsSha256Context σ τ) (w : W)
    : Sha256Status σ τ W :=
  match hw.dev with
  | none => ⟨errSha256BadInputData, ctx, w⟩
  | some _ => ⟨0, { ctx with hash := some (drvPufsHashInit hw.kernel (sha256HashType ctx.is224)) }, w⟩

def sha256HwUpdateLoop (hw : Sha256Hw σ τ W) (fuel : Nat) (ctx : MbedtlsSha256Context σ τ)
    (input : List Byte) (w : W) : Sha256Status σ τ W :=
  match fuel with
  | 0 => ⟨0, ctx, w⟩
  | fuel + 1 =>
    if 0 < input.length then
      let chunk := if input.length > 0x7FFFFFFF then 0x7FFFFFFF else input.length
      let (ret, hash, w) := drvPufsHashInstUpdate hw.kernel hw.dev ctx.hash (input.take chunk) w
      let ctx := { ctx with hash }
      if ret ≠ 0 then
        ⟨errSha256BadInputData, ctx, w⟩
      else
        sha256HwUpdateLoop hw fuel ctx (input.drop chunk) w
    else
      ⟨0, ctx, w⟩

def sha256HwUpdate (hw : Sha256Hw σ τ W) (ctx : MbedtlsSha256Context σ τ) (input : List Byte) (w : W)
    : Sha256Status σ τ W :=
  sha256HwUpdateLoop hw input.length ctx input w

def sha256SwUpdate (hw : Sha256Hw σ τ W) (ctx : MbedtlsSha256Context σ τ) (input : List Byte) (w : W)
    : Sha256Status σ τ W :=
  let (ret, sw, w) := hw.soft.update ctx.sw input w
  ⟨ret, { ctx with sw }, w⟩

/-
Bytes go to the hardware and then to the software hash, which is kept in step for clones.
-/
def sha256FeedBoth (hw : Sha256Hw σ τ W) (ctx : MbedtlsSha256Context σ τ) (input : List Byte) (w : W)
    : Sha256Status σ τ W :=
  let res := sha256HwUpdate hw ctx input w
  if res.ret ≠ 0 then res else sha256SwUpdate hw res.ctx input res.world

def sha256FeedNonempty (hw : Sha256Hw σ τ W) (res : Sha256Status σ τ W) (input : List Byte)
    : Sha256Status σ τ W :=
  if 0 < input.length then sha256FeedBoth hw res.ctx input res.world else res

def sha256SwitchToHw (hw : Sha256Hw σ τ W) (ctx : MbedtlsSha256Context σ τ) (input : List Byte)
    (w : W) : Sha256Status σ τ W :=
  let start := sha256StartHw hw ctx w
  if start.ret ≠ 0 then
    start
  else
    let feedBuffered := sha256FeedNonempty hw start start.ctx.buffered.contents
    if feedBuffered.ret ≠ 0 then
      feedBuffered
    else
      let feedInput := sha256FeedNonempty hw feedBuffered input
      if feedInput.ret ≠ 0 then
        feedInput
      else
        { feedInput with
          ctx := { feedInput.ctx with mode := .hw, buffered := feedInput.ctx.buffered.clear }
        }

def sha256Zero (hw : Sha256Hw σ τ W) : MbedtlsSha256Context σ τ :=
  {
    sw := hw.soft.zero
    hash := none
    is224 := 0
    started := false
    mode := .buffered
    buffered := .wiped
  }

def mbedtlsSha256Init (hw : Sha256Hw σ τ W) : MbedtlsSha256Context σ τ :=
  { sha256Zero hw with sw := hw.soft.init hw.soft.zero }

def mbedtlsSha256Free (hw : Sha256Hw σ τ W) : MbedtlsSha256Context σ τ :=
  sha256Zero hw

/-
A clone of a context that is in hardware mode starts over in buffered mode, with the software hash as
it was in the source.
-/
def mbedtlsSha256Clone (src : MbedtlsSha256Context σ τ) : MbedtlsSha256Context σ τ :=
  if src.started ∧ src.mode = .hw then
    { src with mode := .buffered, buffered := src.buffered.clear }
  else
    src

def mbedtlsSha256Starts (hw : Sha256Hw σ τ W) (ctx : MbedtlsSha256Context σ τ) (is224 : Int) (w : W)
    : Sha256Status σ τ W :=
  if is224 ≠ 0 ∧ is224 ≠ 1 then
    ⟨errSha256BadInputData, ctx, w⟩
  else
    let (ret, sw, w) := hw.soft.starts ctx.sw is224 w
    if ret ≠ 0 then
      ⟨ret, { ctx with sw }, w⟩
    else
      ⟨0,
        { ctx with
          sw
          is224
          mode := .buffered
          buffered := ctx.buffered.clear
          started := true
        }, w⟩

def mbedtlsSha256Update (hw : Sha256Hw σ τ W) (ctx : MbedtlsSha256Context σ τ) (input : List Byte)
    (w : W) : Sha256Status σ τ W :=
  if !ctx.started then
    ⟨errSha256BadInputData, ctx, w⟩
  else if input.length = 0 then
    ⟨0, ctx, w⟩
  else
    match ctx.mode with
    | .buffered =>
      if h : ctx.buffered.len + input.length ≤ sha256SwFallbackThreshold then
        ⟨0, { ctx with buffered := ctx.buffered.append input h }, w⟩
      else
        sha256SwitchToHw hw ctx input w
    | .hw => sha256FeedBoth hw ctx input w

def sha256FlushBuffered (hw : Sha256Hw σ τ W) (ctx : MbedtlsSha256Context σ τ) (w : W)
    : Sha256Status σ τ W :=
  if 0 < ctx.buffered.len then sha256SwUpdate hw ctx ctx.buffered.contents w else ⟨0, ctx, w⟩

structure Sha256Finished (σ τ W : Type) extends Sha256Status σ τ W where
  out : List Byte

def sha256FinishBuffered (hw : Sha256Hw σ τ W) (ctx : MbedtlsSha256Context σ τ) (w : W)
    : Sha256Finished σ τ W :=
  let update := sha256FlushBuffered hw ctx w
  if update.ret ≠ 0 then
    ⟨⟨update.ret, { update.ctx with started := false }, update.world⟩, []⟩
  else
    let (ret, out, sw, w) := hw.soft.finish update.ctx.sw update.world
    ⟨⟨ret, { update.ctx with sw, started := false, buffered := .wiped }, w⟩, out⟩

def sha256FinishHw (hw : Sha256Hw σ τ W) (ctx : MbedtlsSha256Context σ τ) (w : W)
    : Sha256Finished σ τ W :=
  let ctx' := { ctx with started := false, buffered := .wiped, sw := hw.soft.free ctx.sw }
  match drvPufsHashInstFinal hw.kernel hw.dev ctx.hash w with
  | (.error _, w) => ⟨⟨errSha256BadInputData, ctx', w⟩, []⟩
  | (.ok out, w) => ⟨⟨0, ctx', w⟩, out⟩

def mbedtlsSha256Finish (hw : Sha256Hw σ τ W) (ctx : MbedtlsSha256Context σ τ) (w : W)
    : Sha256Finished σ τ W :=
  if !ctx.started then
    ⟨⟨errSha256BadInputData, ctx, w⟩, []⟩
  else
    match ctx.mode with
    | .buffered => sha256FinishBuffered hw ctx w
    | .hw => sha256FinishHw hw ctx w

/-
Any number of contexts, each at its own address.
-/
structure Sha256State (σ τ W : Type) where
  contexts : Nat → MbedtlsSha256Context σ τ
  world : W

inductive Sha256Op where
  | init (ctx : Nat)
  | free (ctx : Nat)
  | clone (dst src : Nat)
  | starts (ctx : Nat) (is224 : Int)
  | update (ctx : Nat) (input : List Byte)
  | finish (ctx : Nat)

structure Sha256Obs where
  ret : Int
  out : List Byte
deriving DecidableEq

def Sha256State.set (s : Sha256State σ τ W) (i : Nat) (res : Sha256Status σ τ W) : Sha256State σ τ W :=
  ⟨fun j => if j = i then res.ctx else s.contexts j, res.world⟩

def sha256Step (hw : Sha256Hw σ τ W) (s : Sha256State σ τ W) (op : Sha256Op)
    : Sha256State σ τ W × Sha256Obs :=
  match op with
  | .init i => (s.set i ⟨0, mbedtlsSha256Init hw, s.world⟩, ⟨0, []⟩)
  | .free i => (s.set i ⟨0, mbedtlsSha256Free hw, s.world⟩, ⟨0, []⟩)
  | .clone dst src => (s.set dst ⟨0, mbedtlsSha256Clone (s.contexts src), s.world⟩, ⟨0, []⟩)
  | .starts i is224 =>
    let res := mbedtlsSha256Starts hw (s.contexts i) is224 s.world
    (s.set i res, ⟨res.ret, []⟩)
  | .update i input =>
    let res := mbedtlsSha256Update hw (s.contexts i) input s.world
    (s.set i res, ⟨res.ret, []⟩)
  | .finish i =>
    let res := mbedtlsSha256Finish hw (s.contexts i) s.world
    (s.set i res.toSha256Status, ⟨res.ret, res.out⟩)

end Mbedtls

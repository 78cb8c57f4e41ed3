import RtsmartLib.Lib.BlockMode
import RtsmartLib.Lib.Chunks
import RtsmartLib.Pufs.Cmac

/-!
This module contains messages that are given to the driver in pieces, over a kernel whose updates are
homomorphic: neither the pieces of the caller nor the chunks of the driver make a difference.
-/

namespace Pufs

open Lib

variable {κ σ τ W : Type}

/-
An update of the kernel as a step on the context and the state of the kernel.
-/
def hashStep (update : HashCtx σ → List Byte → W → Except Errno (HashCtx σ) × W)
    : ChunkStep (HashCtx σ × W) Byte Byte Errno := fun (ctx, w) msg =>
  let (res, w') := update ctx msg w
  res.map fun ctx' => ((ctx', w'), [])

def cmacStep (update : CmacCtx τ → List Byte → W → Except Errno (CmacCtx τ) × W)
    : ChunkStep (CmacCtx τ × W) Byte Byte Errno := fun (ctx, w) msg =>
  let (res, w') := update ctx msg w
  res.map fun ctx' => ((ctx', w'), [])

def cipherStep (update : κ → Bool → List Byte → W → Except Errno (κ × List Byte) × W) (hasOut : Bool)
    : ChunkStep (κ × W) Byte Byte Errno := fun (ctx, w) input =>
  let (res, w') := update ctx hasOut input w
  res.map fun (ctx', out) => ((ctx', w'), out)

theorem hashStep_error {update : HashCtx σ → List Byte → W → Except Errno (HashCtx σ) × W}
    {ctx : HashCtx σ} {msg : List Byte} {w w' : W} {e : Errno} (h : update ctx msg w = (.error e, w'))
    : hashStep update (ctx, w) msg = .error e := by
  simp [hashStep, h, Except.map]

theorem hashStep_ok {update : HashCtx σ → List Byte → W → Except Errno (HashCtx σ) × W}
    {ctx ctx' : HashCtx σ} {msg : List Byte} {w w' : W} (h : update ctx msg w = (.ok ctx', w'))
    : hashStep update (ctx, w) msg = .ok ((ctx', w'), []) := by
  simp [hashStep, h, Except.map]

theorem cmacStep_error {update : CmacCtx τ → List Byte → W → Except Errno (CmacCtx τ) × W}
    {ctx : CmacCtx τ} {msg : List Byte} {w w' : W} {e : Errno} (h : update ctx msg w = (.error e, w'))
    : cmacStep update (ctx, w) msg = .error e := by
  simp [cmacStep, h, Except.map]

theorem cmacStep_ok {update : CmacCtx τ → List Byte → W → Except Errno (CmacCtx τ) × W}
    {ctx ctx' : CmacCtx τ} {msg : List Byte} {w w' : W} (h : update ctx msg w = (.ok ctx', w'))
    : cmacStep update (ctx, w) msg = .ok ((ctx', w'), []) := by
  simp [cmacStep, h, Except.map]

theorem cipherStep_error {update : κ → Bool → List Byte → W → Except Errno (κ × List Byte) × W}
    {hasOut : Bool} {ctx : κ} {input : List Byte} {w w' : W} {e : Errno}
    (h : update ctx hasOut input w = (.error e, w'))
    : cipherStep update hasOut (ctx, w) input = .error e := by
  simp [cipherStep, h, Except.map]

theorem cipherStep_ok {update : κ → Bool → List Byte → W → Except Errno (κ × List Byte) × W}
    {hasOut : Bool} {ctx ctx' : κ} {input out : List Byte} {w w' : W}
    (h : update ctx hasOut input w = (.ok (ctx', out), w'))
    : cipherStep update hasOut (ctx, w) input = .ok ((ctx', w'), out) := by
  simp [cipherStep, h, Except.map]

/-
What a call of the driver returns: an error, or the context that it has saved and the output.
-/
def callResult {γ : Type} (ret : Int) (next : γ) (out : List Byte) : Except Errno (γ × List Byte) :=
  if h : ret = 0 then .ok (next, out) else .error ⟨ret, h⟩

def hashCall (kernel : HashKernel σ W) (dev : DrvPufsInst)
    : ChunkStep (HashCtx σ × W) Byte Byte Errno := fun (ctx, w) msg =>
  let res := drvPufsHashUpdate kernel dev ctx msg w
  callResult res.ret (res.ctx, res.world) []

def hmacCall (kernel : HashKernel σ W) (dev : DrvPufsInst)
    : ChunkStep (HashCtx σ × W) Byte Byte Errno := fun (ctx, w) msg =>
  let res := drvPufsHmacUpdate kernel dev ctx msg w
  callResult res.ret (res.ctx, res.world) []

def cmacCall (kernel : CmacKernel τ W) (dev : DrvPufsInst)
    : ChunkStep (CmacCtx τ × W) Byte Byte Errno := fun (ctx, w) msg =>
  let res := drvPufsCmacUpdate kernel dev ctx msg w
  callResult res.ret (res.ctx, res.world) []

def cipherCall (kernel : CipherKernel κ W) (dev : DrvPufsInst) (hasOut : Bool)
    : ChunkStep (κ × W) Byte Byte Errno := fun (ctx, w) input =>
  let res := drvPufsCipherFeed kernel dev hasOut ctx input w
  callResult res.ret (res.ctx, res.world) res.out

theorem callResult_ok {γ : Type} (next : γ) (out : List Byte)
    : callResult 0 next out = .ok (next, out) :=
  dif_pos rfl

theorem callResult_error {γ : Type} (e : Errno) (next : γ) (out : List Byte)
    : callResult e.1 next out = .error e :=
  dif_neg e.2

/-
Output that comes before that of a call.
-/
theorem callResult_prepend {γ : Type} (ret : Int) (next : γ) (first out : List Byte)
    : callResult ret next (first ++ out)
        = (callResult ret next out).map fun (s, out') => (s, first ++ out') := by
  unfold callResult
  by_cases h : ret = 0
  . rw [dif_pos h, dif_pos h]
    rfl
  . rw [dif_neg h, dif_neg h]
    rfl

/-
The loops of the driver as steps.
-/
def hashLoopCall (update : HashCtx σ → List Byte → W → Except Errno (HashCtx σ) × W)
    (dev : DrvPufsInst) (fuel : Nat) : ChunkStep (HashCtx σ × W) Byte Byte Errno := fun (ctx, w) msg =>
  let res := hashUpdateLoop update dev fuel ctx msg w
  callResult res.ret (res.ctx, res.world) []

def cmacLoopCall (kernel : CmacKernel τ W) (dev : DrvPufsInst) (fuel : Nat)
    : ChunkStep (CmacCtx τ × W) Byte Byte Errno := fun (ctx, w) msg =>
  let res := cmacUpdateLoop kernel dev fuel ctx msg w
  callResult res.ret (res.ctx, res.world) []

def cipherLoopCall (kernel : CipherKernel κ W) (dev : DrvPufsInst) (hasOut : Bool) (fuel : Nat)
    : ChunkStep (κ × W) Byte Byte Errno := fun (ctx, w) input =>
  let res := cipherFeedLoop kernel dev hasOut fuel ctx input w
  callResult res.ret (res.ctx, res.world) res.out

section

variable {update : HashCtx σ → List Byte → W → Except Errno (HashCtx σ) × W}

theorem hashLoopCall_nil (dev : DrvPufsInst) (fuel : Nat) (s : HashCtx σ × W)
    : hashLoopCall update dev fuel s [] = .ok (s, []) := by
  cases fuel with
  | zero => apply callResult_ok
  | succ fuel => apply callResult_ok

theorem hashLoopCall_piece (dev : DrvPufsInst) (fuel : Nat) (s : HashCtx σ × W) (msg : List Byte)
    (hne : msg ≠ [])
    : hashLoopCall update dev (fuel + 1) s msg
        = chunkThen (hashStep update s (msg.take (min msg.length dev.bufSize)))
            (hashLoopCall update dev fuel · (msg.drop (min msg.length dev.bufSize))) := by
  obtain ⟨ctx, w⟩ := s
  generalize hloop : hashLoopCall update dev fuel = loop
  unfold hashLoopCall hashUpdateLoop
  dsimp only
  rw [if_pos (List.length_pos_of_ne_nil hne)]
  rcases hanswer : update ctx (msg.take (min msg.length dev.bufSize)) w with ⟨answer, w'⟩
  cases answer with
  | error e =>
    rw [hashStep_error hanswer]
    apply callResult_error
  | ok ctx' =>
    rw [hashStep_ok hanswer, chunkThen_ok, ← hloop]
    rfl

theorem hashLoopCall_eq (h : Homomorphic (hashStep update)) (dev : DrvPufsInst)
    (s : HashCtx σ × W) (msg : List Byte)
    : hashLoopCall update dev msg.length s msg = skipEmpty (hashStep update) s msg :=
  h.loop_eq dev.bufSize_pos (hashLoopCall_nil dev) (hashLoopCall_piece dev) (Nat.le_refl _) s

end

section

variable {kernel : CmacKernel τ W}

theorem cmacLoopCall_nil (dev : DrvPufsInst) (fuel : Nat) (s : CmacCtx τ × W)
    : cmacLoopCall kernel dev fuel s [] = .ok (s, []) := by
  cases fuel with
  | zero => apply callResult_ok
  | succ fuel => apply callResult_ok

theorem cmacLoopCall_piece (dev : DrvPufsInst) (fuel : Nat) (s : CmacCtx τ × W) (msg : List Byte)
    (hne : msg ≠ [])
    : cmacLoopCall kernel dev (fuel + 1) s msg
        = chunkThen (cmacStep kernel.update s (msg.take (min msg.length dev.bufSize)))
            (cmacLoopCall kernel dev fuel · (msg.drop (min msg.length dev.bufSize))) := by
  obtain ⟨ctx, w⟩ := s
  generalize hloop : cmacLoopCall kernel dev fuel = loop
  unfold cmacLoopCall cmacUpdateLoop
  dsimp only
  rw [if_pos (List.length_pos_of_ne_nil hne)]
  rcases hanswer : kernel.update ctx (msg.take (min msg.length dev.bufSize)) w with ⟨answer, w'⟩
  cases answer with
  | error e =>
    rw [cmacStep_error hanswer]
    apply callResult_error
  | ok ctx' =>
    rw [cmacStep_ok hanswer, chunkThen_ok, ← hloop]
    rfl

theorem cmacLoopCall_eq (h : Homomorphic (cmacStep kernel.update)) (dev : DrvPufsInst)
    (s : CmacCtx τ × W) (msg : List Byte)
    : cmacLoopCall kernel dev msg.length s msg = skipEmpty (cmacStep kernel.update) s msg :=
  h.loop_eq dev.bufSize_pos (cmacLoopCall_nil dev) (cmacLoopCall_piece dev) (Nat.le_refl _) s

end

section

variable {kernel : CipherKernel κ W} {hasOut : Bool}

theorem cipherLoopCall_nil (dev : DrvPufsInst) (fuel : Nat) (s : κ × W)
    : cipherLoopCall kernel dev hasOut fuel s [] = .ok (s, []) := by
  cases fuel with
  | zero => apply callResult_ok
  | succ fuel => apply callResult_ok

theorem cipherLoopCall_piece (dev : DrvPufsInst) (fuel : Nat) (s : κ × W) (input : List Byte)
    (hne : input ≠ [])
    : cipherLoopCall kernel dev hasOut (fuel + 1) s input
        = chunkThen (cipherStep kernel.update hasOut s (input.take (min input.length dev.bufSize)))
            (cipherLoopCall kernel dev hasOut fuel ·
              (input.drop (min input.length dev.bufSize))) := by
  obtain ⟨ctx, w⟩ := s
  generalize hloop : cipherLoopCall kernel dev hasOut fuel = loop
  unfold cipherLoopCall cipherFeedLoop
  dsimp only
  rw [if_pos (List.length_pos_of_ne_nil hne)]
  rcases hanswer : kernel.update ctx hasOut (input.take (min input.length dev.bufSize)) w
    with ⟨answer, w'⟩
  cases answer with
  | error e =>
    rw [cipherStep_error hanswer]
    apply callResult_error
  | ok next =>
    obtain ⟨ctx', out⟩ := next
    rw [cipherStep_ok hanswer, ← hloop]
    apply callResult_prepend

theorem cipherLoopCall_eq (h : Homomorphic (cipherStep kernel.update hasOut)) (dev : DrvPufsInst)
    (s : κ × W) (input : List Byte)
    : cipherLoopCall kernel dev hasOut input.length s input
        = skipEmpty (cipherStep kernel.update hasOut) s input :=
  h.loop_eq dev.bufSize_pos (cipherLoopCall_nil dev) (cipherLoopCall_piece dev) (Nat.le_refl _) s

end

section

variable {hashKernel : HashKernel σ W} {cmacKernel : CmacKernel τ W} {cipherKernel : CipherKernel κ W}
    (dev : DrvPufsInst)

theorem hashCall_eq (h : Homomorphic (hashStep hashKernel.update))
    : hashCall hashKernel dev = skipEmpty (hashStep hashKernel.update) := by
  funext s msg
  rw [← hashLoopCall_eq h dev]
  unfold hashCall drvPufsHashUpdate hashLoopCall
  dsimp only
  split
  . rfl
  . next hret =>
    unfold callResult
    rw [dif_neg hret, dif_neg hret]

theorem hmacCall_eq (h : Homomorphic (hashStep hashKernel.hmacUpdate))
    : hmacCall hashKernel dev = skipEmpty (hashStep hashKernel.hmacUpdate) := by
  funext s msg
  rw [← hashLoopCall_eq h dev]
  unfold hmacCall drvPufsHmacUpdate hashLoopCall
  dsimp only
  split
  . rfl
  . next hret =>
    unfold callResult
    rw [dif_neg hret, dif_neg hret]

theorem cmacCall_eq (h : Homomorphic (cmacStep cmacKernel.update))
    : cmacCall cmacKernel dev = skipEmpty (cmacStep cmacKernel.update) := by
  funext s msg
  rw [← cmacLoopCall_eq h dev]
  unfold cmacCall drvPufsCmacUpdate cmacLoopCall
  dsimp only
  split
  . rfl
  . next hret =>
    unfold callResult
    rw [dif_neg hret, dif_neg hret]

theorem cipherCall_eq {hasOut : Bool} (h : Homomorphic (cipherStep cipherKernel.update hasOut))
    : cipherCall cipherKernel dev hasOut = skipEmpty (cipherStep cipherKernel.update hasOut) := by
  funext s input
  rw [← cipherLoopCall_eq h dev]
  rfl

end

/-
What a final operation makes of the context that the updates have led to.
-/
def finished {γ δ : Type} (final : γ → W → Except Errno δ × W) (res : Except Errno ((γ × W) × List Byte))
    : Except Errno δ :=
  res.bind fun next => (final next.1.1 next.1.2).1

/--
Over homomorphic kernels any split of a message, through chunks of any size, comes to what one update with
the whole message through chunks of any other size comes to: the same error, or the same context, output and
digest. Both are what one call of the kernel makes of the whole message, and nothing if it is empty. And over any
kernel a hash, HMAC or CMAC update that fails leaves the context as it was.
-/
theorem drvPufsUpdates_split (hashKernel : HashKernel σ W) (cmacKernel : CmacKernel τ W)
    (cipherKernel : CipherKernel κ W) (dev dev' : DrvPufsInst) (pieces : List (List Byte))
    : (Homomorphic (hashStep hashKernel.update) → ∀ s,
          let split := stepAll (hashCall hashKernel dev) s pieces
          let whole := hashCall hashKernel dev' s pieces.flatten
          split = whole
            ∧ finished (drvPufsHashFinal hashKernel) split
              = finished (drvPufsHashFinal hashKernel) whole
            ∧ whole = skipEmpty (hashStep hashKernel.update) s pieces.flatten)
        ∧ (Homomorphic (hashStep hashKernel.hmacUpdate) → ∀ s,
          let split := stepAll (hmacCall hashKernel dev) s pieces
          let whole := hmacCall hashKernel dev' s pieces.flatten
          split = whole
            ∧ finished (drvPufsHmacFinal hashKernel) split
              = finished (drvPufsHmacFinal hashKernel) whole
            ∧ whole = skipEmpty (hashStep hashKernel.hmacUpdate) s pieces.flatten)
        ∧ (Homomorphic (cmacStep cmacKernel.update) → ∀ s,
          let split := stepAll (cmacCall cmacKernel dev) s pieces
          let whole := cmacCall cmacKernel dev' s pieces.flatten
          split = whole
            ∧ finished (drvPufsCmacFinal cmacKernel) split
              = finished (drvPufsCmacFinal cmacKernel) whole
            ∧ whole = skipEmpty (cmacStep cmacKernel.update) s pieces.flatten)
        ∧ (∀ hasOut, Homomorphic (cipherStep cipherKernel.update hasOut) → ∀ s,
          stepAll (cipherCall cipherKernel dev hasOut) s pieces
              = cipherCall cipherKernel dev' hasOut s pieces.flatten
            ∧ cipherCall cipherKernel dev' hasOut s pieces.flatten
              = skipEmpty (cipherStep cipherKernel.update hasOut) s pieces.flatten)
        ∧ (∀ ctx msg w, (drvPufsHashUpdate hashKernel dev ctx msg w).ret ≠ 0 →
          (drvPufsHashUpdate hashKernel dev ctx msg w).ctx = ctx)
        ∧ (∀ ctx msg w, (drvPufsHmacUpdate hashKernel dev ctx msg w).ret ≠ 0 →
          (drvPufsHmacUpdate hashKernel dev ctx msg w).ctx = ctx)
        ∧ ∀ ctx msg w, (drvPufsCmacUpdate cmacKernel dev ctx msg w).ret ≠ 0 →
          (drvPufsCmacUpdate cmacKernel dev ctx msg w).ctx = ctx := by
  refine ⟨?_, ?_, ?_, ?_, ?_, ?_, ?_⟩
  . intro h s split whole
    have heq : split = whole := by
      unfold split whole
      rw [hashCall_eq dev h, hashCall_eq dev' h]
      apply h.stepAll_flatten
    refine ⟨heq, congrArg _ heq, ?_⟩
    unfold whole
    rw [hashCall_eq dev' h]
  . intro h s split whole
    have heq : split = whole := by
      unfold split whole
      rw [hmacCall_eq dev h, hmacCall_eq dev' h]
      apply h.stepAll_flatten
    refine ⟨heq, congrArg _ heq, ?_⟩
    unfold whole
    rw [hmacCall_eq dev' h]
  . intro h s split whole
    have heq : split = whole := by
      unfold split whole
      rw [cmacCall_eq dev h, cmacCall_eq dev' h]
      apply h.stepAll_flatten
    refine ⟨heq, congrArg _ heq, ?_⟩
    unfold whole
    rw [cmacCall_eq dev' h]
  . intro hasOut h s
    rw [cipherCall_eq dev h, cipherCall_eq dev' h]
    exact ⟨h.stepAll_flatten s pieces, rfl⟩
  . intro ctx msg w
    apply drvPufsHashUpdate_fail
  . intro ctx msg w
    apply drvPufsHmacUpdate_fail
  . intro ctx msg w
    apply drvPufsCmacUpdate_fail

/-
Kernels whose state is the message that they have been given, and a stream cipher whose state is the
position in the keystream. The hash fails for messages with a zero in them.
-/
def collectHash (ctx : HashCtx (List Byte)) (msg : List Byte) (w : Unit)
    : Except Errno (HashCtx (List Byte)) × Unit :=
  (if 0#8 ∈ msg then .error einval else .ok { ctx with state := ctx.state ++ msg }, w)

def collectHashKernel : HashKernel (List Byte) Unit :=
  {
    zero := []
    update := collectHash
    final := fun ctx w => (.ok ctx.state, w)
    hmacUpdate := collectHash
    hmacFinal := fun ctx w => (.ok ctx.state, w)
  }

def collectCmacKernel : CmacKernel (List Byte) Unit :=
  {
    zero := []
    update := fun ctx msg w => (.ok { ctx with state := ctx.state ++ msg }, w)
    final := fun ctx w => (.ok ctx.state, w)
  }

def keystreamKernel : CipherKernel Nat Unit :=
  {
    zero := 0
    init := fun _ w => (.ok 0, w)
    update := fun ctx _ input w =>
      (.ok (ctx + input.length, xorBytes (fun i => BitVec.ofNat 8 (i + 1)) ctx input), w)
    final := fun _ _ w => (.ok ⟨[], []⟩, w)
  }

theorem collectHash_homomorphic : Homomorphic (hashStep collectHash) := by
  intro s msg msg' _ _
  obtain ⟨ctx, w⟩ := s
  by_cases hzero : 0#8 ∈ msg
  . simp [hashStep, collectHash, chunkThen, Except.map, Except.bind, hzero]
  by_cases hzero' : 0#8 ∈ msg'
  . simp [hashStep, collectHash, chunkThen, Except.map, Except.bind, hzero, hzero']
  simp [hashStep, collectHash, chunkThen, Except.map, Except.bind, hzero, hzero']

theorem collectCmac_homomorphic : Homomorphic (cmacStep collectCmacKernel.update) := by
  intro s msg msg' _ _
  simp [cmacStep, collectCmacKernel, chunkThen, Except.map, Except.bind]

theorem keystream_homomorphic (hasOut : Bool)
    : Homomorphic (cipherStep keystreamKernel.update hasOut) := by
  intro s input input' _ _
  simp [cipherStep, keystreamKernel, chunkThen, Except.map, Except.bind, xorBytes_append, Nat.add_assoc]

def byteInst : DrvPufsInst := ⟨1, by decide⟩

def collectHashCtx : HashCtx (List Byte) := drvPufsHashInit collectHashKernel .sha256

def collectCmacCtx : CmacCtx (List Byte) :=
  drvPufsCmacInit collectCmacKernel .aes .swkey (.bytes 0 []) 128

/-
Pieces of one and two bytes through chunks of one byte.
-/
theorem drvPufsUpdates_split_three
    : stepAll (hashCall collectHashKernel byteInst) (collectHashCtx, ()) [[1], [2, 3]]
          = hashCall collectHashKernel pufsBufSize (collectHashCtx, ()) [1, 2, 3]
        ∧ stepAll (hmacCall collectHashKernel byteInst) (collectHashCtx, ()) [[1], [2, 3]]
          = hmacCall collectHashKernel pufsBufSize (collectHashCtx, ()) [1, 2, 3]
        ∧ stepAll (cmacCall collectCmacKernel byteInst) (collectCmacCtx, ()) [[1], [2, 3]]
          = cmacCall collectCmacKernel pufsBufSize (collectCmacCtx, ()) [1, 2, 3]
        ∧ stepAll (cipherCall keystreamKernel byteInst true) (0, ()) [[1], [2, 3]]
          = .ok ((3, ()), [0, 0, 0])
        ∧ (drvPufsHashUpdate collectHashKernel byteInst collectHashCtx [1, 0] ()).ctx
          = collectHashCtx := by
  have ⟨hhash, hhmac, hcmac, hcipher, hfail, _⟩ := drvPufsUpdates_split collectHashKernel
    collectCmacKernel keystreamKernel byteInst pufsBufSize [[1], [2, 3]]
  refine ⟨(hhash collectHash_homomorphic _).1, (hhmac collectHash_homomorphic _).1,
    (hcmac collectCmac_homomorphic _).1, ?_, ?_⟩
  . rw [(hcipher true (keystream_homomorphic true) _).1]
    rfl
  . apply hfail
    decide

end Pufs

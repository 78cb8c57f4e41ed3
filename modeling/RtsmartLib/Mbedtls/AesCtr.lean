import RtsmartLib.Mbedtls.AesCounter
import RtsmartLib.Mbedtls.AesDevice

/-!
This module contains counter mode over successive calls of arbitrary lengths: the hardware path and
the software loop hand over the counter, the offset and the rest of the keystream block in a way
that no split of a message is visible.
-/

namespace Mbedtls

open Lib Pufs

variable {sw : AesSw} (ctx : sw.Context)

def ctrAfter (n : Nat) (s : CtrState) : CtrState :=
  match n with
  | 0 => s
  | n + 1 => ctrAfter n (ctrStep sw ctx s).2

def ctrKey (s : CtrState) (i : Nat) : Byte :=
  (ctrStep sw ctx (ctrAfter ctx i s)).1

theorem ctrAfter_add (m n : Nat) (s : CtrState)
    : ctrAfter ctx (m + n) s = ctrAfter ctx n (ctrAfter ctx m s) := by
  induction m generalizing s with
  | zero =>
    rw [Nat.zero_add]
    rfl
  | succ m ih =>
    rw [Nat.succ_add]
    exact ih (ctrStep sw ctx s).2

theorem ctrAfter_succ (n : Nat) (s : CtrState)
    : ctrAfter ctx (n + 1) s = (ctrStep sw ctx (ctrAfter ctx n s)).2 := by
  rw [ctrAfter_add]
  rfl

theorem ctrKey_add (s : CtrState) (m i : Nat)
    : ctrKey ctx s (m + i) = ctrKey ctx (ctrAfter ctx m s) i := by
  unfold ctrKey
  rw [ctrAfter_add]

theorem swCryptCtrLoop_eq {n input output : Nat} (h : Overlay input output n) (s : CtrState)
    (mem : Memory)
    : swCryptCtrLoop sw ctx n s input output mem
        = (writeBytes output (xorBytes (ctrKey ctx s) 0 (readBytes mem input n)) mem,
            ctrAfter ctx n s) := by
  induction n generalizing s input output mem with
  | zero =>
    simp only [swCryptCtrLoop, readBytes_zero, xorBytes, writeBytes_nil]
    rfl
  | succ n ih =>
    unfold swCryptCtrLoop
    dsimp only
    rw [Nat.add_comm] at h
    rw [ih h.advance]
    have hread : readBytes (writeBytes output [mem input ^^^ (ctrStep sw ctx s).1] mem) (input + 1) n
        = readBytes mem (input + 1) n :=
      readBytes_writeBytes_apart h.apart mem
    have hkey : ctrKey ctx (ctrStep sw ctx s).2 = fun j => ctrKey ctx s (j + 1) := by
      funext j
      rfl
    rw [hread]
    rw [readBytes_succ]
    rw [xorBytes, Nat.zero_add]
    rw [xorBytes_succ]
    rw [← hkey]
    rw [writeBytes_cons output (mem input ^^^ ctrKey ctx s 0)]
    rfl

theorem swCryptCtr_eq {s : CtrState} (hs : s.ncOff < 16) {length input output : Nat}
    (h : Overlay input output length) (mem : Memory)
    : swCryptCtr sw ctx length s input output mem
        = ⟨0, writeBytes output (xorBytes (ctrKey ctx s) 0 (readBytes mem input length)) mem,
            ctrAfter ctx length s⟩ := by
  unfold swCryptCtr
  rw [if_neg (by omega)]
  rw [swCryptCtrLoop_eq ctx h]

/--
Two states from which the same keystream follows: a byte of the stream block counts only from the
offset on, and none does at offset zero.
-/
structure CtrState.Same (s t : CtrState) : Prop where
  ncOff : s.ncOff = t.ncOff
  nonceCounter : s.nonceCounter = t.nonceCounter
  streamBlock : s.ncOff ≠ 0 →
    ∀ i, s.ncOff ≤ i → i < 16 → s.streamBlock.1.getD i 0 = t.streamBlock.1.getD i 0

theorem CtrState.Same.refl (s : CtrState) : s.Same s :=
  ⟨rfl, rfl, fun _ _ _ _ => rfl⟩

theorem CtrState.Same.symm {s t : CtrState} (h : s.Same t) : t.Same s := by
  refine ⟨h.ncOff.symm, h.nonceCounter.symm, ?_⟩
  rw [← h.ncOff]
  intro hne i hi hlt
  exact (h.streamBlock hne i hi hlt).symm

theorem CtrState.Same.trans {s t u : CtrState} (h : s.Same t) (h' : t.Same u) : s.Same u := by
  refine ⟨h.ncOff.trans h'.ncOff, h.nonceCounter.trans h'.nonceCounter, ?_⟩
  intro hne i hi hlt
  rw [h.streamBlock hne i hi hlt]
  rw [h.ncOff] at hne hi
  exact h'.streamBlock hne i hi hlt

theorem ctrStep_ncOff (s : CtrState) : (ctrStep sw ctx s).2.ncOff < 16 := by
  unfold ctrStep
  dsimp only
  omega

theorem ctrStep_same {s t : CtrState} (hs : s.ncOff < 16) (h : s.Same t)
    : (ctrStep sw ctx s).1 = (ctrStep sw ctx t).1
        ∧ (ctrStep sw ctx s).2.Same (ctrStep sw ctx t).2 := by
  have hoff := h.ncOff
  have hcounter := h.nonceCounter
  unfold ctrStep
  dsimp only
  rw [← hoff, ← hcounter]
  by_cases hzero : s.ncOff = 0
  . simp only [hzero, ↓reduceIte]
    exact ⟨trivial, rfl, rfl, fun _ _ _ _ => rfl⟩
  . simp only [hzero, ↓reduceIte]
    rw [← hoff]
    refine ⟨h.streamBlock hzero s.ncOff (Nat.le_refl _) hs, rfl, hcounter, ?_⟩
    dsimp only
    intro hne i hi hlt
    exact h.streamBlock hzero i (by omega) hlt

theorem ctrAfter_ncOff {s : CtrState} (hs : s.ncOff < 16) (n : Nat)
    : (ctrAfter ctx n s).ncOff < 16 := by
  cases n with
  | zero => exact hs
  | succ n =>
    rw [ctrAfter_succ]
    exact ctrStep_ncOff ctx _

theorem ctrAfter_same {s t : CtrState} (hs : s.ncOff < 16) (h : s.Same t) (n : Nat)
    : (ctrAfter ctx n s).Same (ctrAfter ctx n t) := by
  induction n with
  | zero => exact h
  | succ n ih =>
    rw [ctrAfter_succ, ctrAfter_succ]
    exact (ctrStep_same ctx (ctrAfter_ncOff ctx hs n) ih).2

theorem ctrKey_same {s t : CtrState} (hs : s.ncOff < 16) (h : s.Same t)
    : ctrKey ctx s = ctrKey ctx t := by
  funext i
  exact (ctrStep_same ctx (ctrAfter_ncOff ctx hs i) (ctrAfter_same ctx hs h i)).1

/--
The state `i` bytes after offset zero, in closed form.
-/
def ctrClosed (counter : Block) (i : Nat) : CtrState :=
  {
    ncOff := i % 16
    nonceCounter := counter.add ((i + 15) / 16)
    streamBlock := sw.encrypt ctx (counter.add ((i - 1) / 16))
  }

theorem ctrStep_closed (counter : Block) (i : Nat)
    : ctrStep sw ctx (ctrClosed ctx counter i)
        = (ctrByte (sw.encrypt ctx) counter i, ctrClosed ctx counter (i + 1)) := by
  unfold ctrStep ctrClosed ctrByte
  dsimp only
  by_cases hzero : i % 16 = 0
  . -- At a block boundary the counter in use is the one of block `i / 16`.
    have hblock : (i + 15) / 16 = i / 16 := by
      omega
    have hnext : (i + 1 + 15) / 16 = i / 16 + 1 := by
      omega
    simp only [hzero, ↓reduceIte, Nat.add_sub_cancel]
    rw [incrementCounter_eq]
    rw [Block.add_add]
    rw [hblock, hnext]
    congr 2
    omega
  . have hblock : (i - 1) / 16 = i / 16 := by
      omega
    have hnext : (i + 1 + 15) / 16 = (i + 15) / 16 := by
      omega
    simp only [hzero, ↓reduceIte, Nat.add_sub_cancel]
    rw [hblock, hnext]
    congr 2
    omega

theorem ctrAfter_closed (counter : Block) (i : Nat)
    : ctrAfter ctx i (ctrClosed ctx counter 0) = ctrClosed ctx counter i := by
  induction i with
  | zero => rfl
  | succ i ih =>
    rw [ctrAfter_succ]
    rw [ih]
    rw [ctrStep_closed]

theorem same_closed {s : CtrState} (hs : s.ncOff = 0) : s.Same (ctrClosed ctx s.nonceCounter 0) := by
  refine ⟨hs, ?_, ?_⟩
  . exact (Block.add_zero s.nonceCounter).symm
  . intro hne
    exact absurd hs hne

theorem ctrKey_eq_ctrByte {s : CtrState} (hs : s.ncOff = 0)
    : ctrKey ctx s = ctrByte (sw.encrypt ctx) s.nonceCounter := by
  rw [ctrKey_same ctx (by omega) (same_closed ctx hs)]
  funext i
  unfold ctrKey
  rw [ctrAfter_closed]
  rw [ctrStep_closed]

theorem ctrAfter_same_closed {s : CtrState} (hs : s.ncOff = 0) (n : Nat)
    : (ctrAfter ctx n s).Same (ctrClosed ctx s.nonceCounter n) := by
  rw [← ctrAfter_closed]
  exact ctrAfter_same ctx (by omega) (same_closed ctx hs) n

section

variable {ctx : MbedtlsAesContext sw} (hkeyed : Keyed sw.setkeyEnc ctx) {s : CtrState}
    (hold : HoldBack) {faults : Faults} {w : Nat} {dev : DrvPufsInst} {length input output : Nat}

theorem aesHwCryptCtr_none {κ W : Type} (kernel : CipherKernel κ W) (mem : Memory) (w : W)
    : aesHwCryptCtr ⟨none, kernel⟩ ctx length s input output mem w = (⟨-1, mem, w⟩, s) := rfl

include hkeyed in
theorem aesHwCryptCtr_success (hs : s.ncOff = 0) (h : Overlay input output length) (mem : Memory)
    (hsucc : hwSucceeds faults w dev length)
    : let res := aesHwCryptCtr ⟨some dev, aesDevice sw hold faults⟩ ctx length s input output mem w
      res.1.ret = 0
        ∧ res.1.mem
            = writeBytes output (xorBytes (ctrKey ctx.sw s) 0 (readBytes mem input length)) mem
        ∧ res.2.Same (ctrAfter ctx.sw length s) := by
  intro res
  simp only [hwSucceeds, Bool.decide_and, Bool.decide_eq_true, Bool.and_eq_true,
    decide_eq_true_eq] at hsucc
  obtain ⟨hanswer, hlen⟩ := hsucc
  have hhw := aesHwCryptSp38a_success hkeyed (.inr rfl) true s.nonceCounter hold h mem hanswer
    (by rw [aesTransducer_ctr hkeyed]; simp [hlen])
  rw [aesTransducer_ctr hkeyed, hlen] at hhw
  obtain ⟨hret, hmem⟩ := hhw
  have hlt : length < 2 ^ 32 := by
    unfold uint32 at hlen
    omega
  dsimp only [res]
  unfold aesHwCryptCtr
  dsimp only
  rw [if_neg (by simpa using hret)]
  refine ⟨hret, ?_, ?_⟩
  . rw [hmem]
    rw [ctrKey_eq_ctrByte ctx.sw hs]
    rfl
  . refine CtrState.Same.trans ?_ (ctrAfter_same_closed ctx.sw hs length).symm
    rw [aesAddCounter_eq _ (by omega), aesAddCounter_eq _ (by omega)]
    refine ⟨?_, rfl, ?_⟩
    . simp [ctrClosed, hs]
    . intro hne i _ _
      simp only [hs, Nat.zero_add] at hne
      have hblock : (length + 15) / 16 - 1 = (length - 1) / 16 := by
        omega
      simp [ctrClosed, hne, hblock]

include hkeyed in
theorem aesHwCryptCtr_failure (h : Overlay input output length) (mem : Memory)
    (hfail : ¬hwSucceeds faults w dev length)
    : let consumed := attempted faults w dev (uint32 length)
      let key := ctrByte (sw.encrypt ctx.sw) s.nonceCounter
      let bytes := (xorBytes key 0 (readBytes mem input consumed)).take (hold.emitted consumed)
      let res := aesHwCryptCtr ⟨some dev, aesDevice sw hold faults⟩ ctx length s input output mem w
      res.1.ret ≠ 0 ∧ res.1.mem = writeBytes output bytes mem := by
  intro consumed key bytes res
  have hhw := aesHwCryptSp38a_failure hkeyed (.inr rfl) true s.nonceCounter hold h mem
    (by
      rw [aesTransducer_ctr hkeyed]
      simpa [hwSucceeds] using hfail)
  rw [aesTransducer_ctr hkeyed] at hhw
  obtain ⟨hret, hmem⟩ := hhw
  dsimp only [res]
  unfold aesHwCryptCtr
  dsimp only
  rw [if_pos hret]
  refine ⟨hret, ?_⟩
  rw [hmem]
  unfold Transducer.given
  rw [Transducer.emitted_ofKeystream]
  rw [length_readBytes]
  rfl

include hkeyed in
theorem mbedtlsAesCryptCtr_eq (hs : s.ncOff < 16) (h : Overlay input output length) (mem : Memory)
    (dev : Option DrvPufsInst)
    (hclean : output = input → s.ncOff = 0 → mbedtlsPufsAesHwThreshold ≤ length →
      ∀ d, dev = some d → leavesInput hold.emitted faults w d length)
    : let res :=
        (mbedtlsAesCryptCtr ⟨dev, aesDevice sw hold faults⟩ ctx length s input output mem w).1
      res.ret = 0
        ∧ res.mem = writeBytes output (xorBytes (ctrKey ctx.sw s) 0 (readBytes mem input length)) mem
        ∧ res.state.Same (ctrAfter ctx.sw length s) := by
  intro res
  dsimp only [res]
  unfold mbedtlsAesCryptCtr
  by_cases hhw : mbedtlsPufsAesHwThreshold ≤ length ∧ ctx.hasKey ∧ s.ncOff = 0
  . rw [if_pos hhw]
    obtain ⟨hlong, -, hzero⟩ := hhw
    cases dev with
    | none =>
      rw [aesHwCryptCtr_none]
      dsimp only
      rw [if_neg (Int.neg_ne_zero.mpr Int.one_ne_zero)]
      rw [swCryptCtr_eq ctx.sw hs h]
      exact ⟨rfl, rfl, CtrState.Same.refl _⟩
    | some d =>
      by_cases hsucc : hwSucceeds faults w d length
      . obtain ⟨hret, hmem, hstate⟩ := aesHwCryptCtr_success hkeyed hold hzero h mem hsucc
        dsimp only
        rw [if_pos hret]
        exact ⟨rfl, hmem, hstate⟩
      . obtain ⟨hret, hmem⟩ := aesHwCryptCtr_failure hkeyed hold h mem hsucc (s := s)
        dsimp only
        rw [if_neg hret]
        rw [hmem]
        rw [swCryptCtr_eq ctx.sw hs h]
        have hle : attempted faults w d (uint32 length) ≤ length :=
          Nat.le_trans (attempted_le faults w d (uint32 length)) (Nat.mod_le _ _)
        rw [readBytes_leftover h]
        . rw [writeBytes_writeBytes_of_le]
          . exact ⟨rfl, rfl, CtrState.Same.refl _⟩
          . simp
            omega
        . simp
          omega
        . intro hsame
          obtain hgood | hnone := hclean hsame hzero hlong d rfl
          . exact absurd hgood hsucc
          . rw [hnone]
            rfl
  . rw [if_neg hhw]
    dsimp only
    rw [swCryptCtr_eq ctx.sw hs h]
    exact ⟨rfl, rfl, CtrState.Same.refl _⟩

end

/-
A message in consecutive calls of the given lengths, up to the first that fails.
-/
def cryptCtrCalls {κ W : Type} (hw : AesHw κ W) (ctx : MbedtlsAesContext sw) (lengths : List Nat)
    (s : CtrState) (input output : Nat) (mem : Memory) (w : W) : CtrResult :=
  match lengths with
  | [] => ⟨0, mem, s⟩
  | length :: lengths =>
    let (res, w) := mbedtlsAesCryptCtr hw ctx length s input output mem w
    if res.ret = 0 then
      cryptCtrCalls hw ctx lengths res.state (input + length) (output + length) res.mem w
    else
      res

theorem writeBytes_keystream (ctx : sw.Context) (s : CtrState) {m n input output : Nat}
    (h : Overlay input output (m + n)) (mem : Memory)
    : let first := writeBytes output (xorBytes (ctrKey ctx s) 0 (readBytes mem input m)) mem
      writeBytes (output + m)
          (xorBytes (ctrKey ctx (ctrAfter ctx m s)) 0 (readBytes first (input + m) n)) first
        = writeBytes output (xorBytes (ctrKey ctx s) 0 (readBytes mem input (m + n))) mem := by
  intro first
  have hread : readBytes first (input + m) n = readBytes mem (input + m) n := by
    apply readBytes_writeBytes_apart
    rw [length_xorBytes, length_readBytes]
    exact h.apart
  have hkey : ctrKey ctx (ctrAfter ctx m s) = fun j => ctrKey ctx s (m + j) := by
    funext j
    exact (ctrKey_add ctx s m j).symm
  rw [hread, hkey]
  rw [← xorBytes_add]
  rw [readBytes_add]
  rw [xorBytes_append]
  rw [writeBytes_append]
  rw [length_xorBytes, length_readBytes]
  rw [Nat.zero_add]

theorem cryptCtrCalls_eq {ctx : MbedtlsAesContext sw} (hkeyed : Keyed sw.setkeyEnc ctx)
    (hold : HoldBack) (dev : Option DrvPufsInst) {lengths : List Nat} {s : CtrState}
    (hs : s.ncOff < 16) {input output : Nat} (h : Overlay input output lengths.sum)
    (hsame : output = input → ∀ length ∈ lengths, length < 2 ^ 32) (mem : Memory) (w : Nat)
    : let res :=
        cryptCtrCalls ⟨dev, aesDevice sw hold noFaults⟩ ctx lengths s input output mem w
      res.ret = 0
        ∧ res.mem
            = writeBytes output (xorBytes (ctrKey ctx.sw s) 0 (readBytes mem input lengths.sum)) mem
        ∧ res.state.Same (ctrAfter ctx.sw lengths.sum s) := by
  induction lengths generalizing s input output mem w with
  | nil =>
    simp only [cryptCtrCalls, List.sum_nil, readBytes_zero, xorBytes, writeBytes_nil]
    exact ⟨trivial, trivial, CtrState.Same.refl s⟩
  | cons length lengths ih =>
    rw [List.sum_cons] at h ⊢
    intro res
    dsimp only [res]
    unfold cryptCtrCalls
    have hcall := mbedtlsAesCryptCtr_eq hkeyed hold hs (h.of_le (Nat.le_add_right _ _)) mem dev (by
      intro heq _ _ d _
      exact .inl (hwSucceeds_noFaults (hsame heq length List.mem_cons_self) w))
    generalize mbedtlsAesCryptCtr ⟨dev, aesDevice sw hold noFaults⟩ ctx length s input output mem w
      = call at hcall
    obtain ⟨hret, hmem, hstate⟩ := hcall
    dsimp only
    rw [if_pos hret]
    have hoff : call.1.state.ncOff < 16 := by
      rw [hstate.ncOff]
      exact ctrAfter_ncOff ctx.sw hs length
    obtain ⟨hret', hmem', hstate'⟩ := ih hoff h.advance (by
      intro heq l hl
      exact hsame (by omega) l (List.mem_cons_of_mem length hl)) call.1.mem call.2
    refine ⟨hret', ?_, ?_⟩
    . rw [hmem']
      rw [ctrKey_same ctx.sw hoff hstate]
      rw [hmem]
      exact writeBytes_keystream ctx.sw s h mem
    . rw [ctrAfter_add]
      exact hstate'.trans (ctrAfter_same ctx.sw hoff hstate lengths.sum)

theorem mbedtlsAesCryptCtr_badOffset {κ W : Type} (hw : AesHw κ W) (ctx : MbedtlsAesContext sw)
    {s : CtrState} (hs : 16 ≤ s.ncOff) (length input output : Nat) (mem : Memory) (w : W)
    : mbedtlsAesCryptCtr hw ctx length s input output mem w = (⟨errAesBadInputData, mem, s⟩, w) := by
  unfold mbedtlsAesCryptCtr swCryptCtr
  rw [if_neg (by omega)]
  rw [if_pos (by omega)]

/--
However a message is split into calls, and whichever of them the hardware serves, the calls leave the
same bytes and the same state behind as one software run over the whole message.
-/
theorem cryptCtrCalls_eq_swCryptCtr {key : List Byte} {keybits : UInt32}
    {ctx : MbedtlsAesContext sw} (hkey : (keybits / 8).toNat ≤ key.length)
    (hctx : mbedtlsAesSetkeyEnc sw key keybits = .ok ctx) (hold : HoldBack)
    (dev : Option DrvPufsInst) (lengths : List Nat) (s : CtrState) {input output : Nat}
    (h : Overlay input output lengths.sum)
    (hsame : output = input → ∀ length ∈ lengths, length < 2 ^ 32) (mem : Memory) (w : Nat)
    : let res :=
        cryptCtrCalls ⟨dev, aesDevice sw hold noFaults⟩ ctx lengths s input output mem w
      let whole := swCryptCtr sw ctx.sw lengths.sum s input output mem
      (lengths ≠ [] → res.ret = whole.ret)
        ∧ res.mem = whole.mem
        ∧ res.state.Same whole.state := by
  intro res whole
  dsimp only [res, whole]
  by_cases hs : s.ncOff < 16
  . have hkeyed := keyed_of_setkey hkey hctx
    obtain ⟨hret, hmem, hstate⟩ := cryptCtrCalls_eq hkeyed hold dev hs h hsame mem w
    rw [swCryptCtr_eq ctx.sw hs h]
    exact ⟨fun _ => hret, hmem, hstate⟩
  . have hwhole : swCryptCtr sw ctx.sw lengths.sum s input output mem
        = ⟨errAesBadInputData, mem, s⟩ := by
      unfold swCryptCtr
      rw [if_pos (by omega)]
    rw [hwhole]
    cases lengths with
    | nil => exact ⟨fun hne => absurd rfl hne, rfl, CtrState.Same.refl s⟩
    | cons length lengths =>
      unfold cryptCtrCalls
      rw [mbedtlsAesCryptCtr_badOffset _ ctx (by omega)]
      exact ⟨fun _ => rfl, rfl, CtrState.Same.refl s⟩

/-
A block cipher to run examples with: the key is added to the block.
-/
def xorCipher : AesSw :=
  {
    Context := Block
    setkeyEnc := Block.ofList
    setkeyDec := Block.ofList
    encrypt := fun ctx block => block.xor ctx
    decrypt := fun ctx block => block.xor ctx
  }

def xorCipherContext (key : List Byte) : MbedtlsAesContext xorCipher :=
  ⟨key, 128, true, Block.ofList key⟩

def wrappingState : CtrState :=
  ⟨0, ⟨List.replicate 16 0xff, rfl⟩, ⟨List.replicate 16 0, rfl⟩⟩

theorem wrappingCalls_eq_swCryptCtr
    : let ctx := xorCipherContext (List.replicate 16 0x5a)
      let res :=
        cryptCtrCalls ⟨some pufsBufSize, aesDevice xorCipher HoldBack.none noFaults⟩ ctx
          [5000, 3, 4096] wrappingState 0 10000 (fun a => BitVec.ofNat 8 a) 0
      let whole :=
        swCryptCtr xorCipher ctx.sw 9099 wrappingState 0 10000 (fun a => BitVec.ofNat 8 a)
      ([5000, 3, 4096] ≠ [] → res.ret = whole.ret)
        ∧ res.mem = whole.mem
        ∧ res.state.Same whole.state :=
  cryptCtrCalls_eq_swCryptCtr
    (show ((128 : UInt32) / 8).toNat ≤ (List.replicate 16 (0x5a : Byte)).length by decide) rfl
    HoldBack.none (some pufsBufSize) [5000, 3, 4096] wrappingState (.inr (.inl (by decide)))
    (fun heq => absurd heq (by decide)) (fun a => BitVec.ofNat 8 a) 0

end Mbedtls

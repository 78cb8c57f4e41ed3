import RtsmartLib.Mbedtls.AesAlt
import RtsmartLib.Pufs.Sp38aDevice

/-!
This module contains the AES port over a device that computes the same block cipher as the software:
what one attempt of the hardware path leaves behind, whether it succeeds or not.
-/

namespace Mbedtls

open Lib Pufs

variable (sw : AesSw)

def aesDevice (hold : HoldBack) (faults : Faults) : CipherKernel StreamContext Nat :=
  sp38aDevice (fun key => sw.encrypt (sw.setkeyEnc key)) (fun key => sw.decrypt (sw.setkeyDec key))
    hold faults

def aesTransducer (op : Sp38aOp) : Transducer :=
  sp38aTransducer (fun key => sw.encrypt (sw.setkeyEnc key))
    (fun key => sw.decrypt (sw.setkeyDec key)) op

variable {sw}

/-
A context after one of the setkey functions: the key in it is as long as its bits say.
-/
structure Keyed (schedule : List Byte → sw.Context) (ctx : MbedtlsAesContext sw) : Prop where
  hasKey : ctx.hasKey = true
  keybits : ctx.keybits = 128 ∨ ctx.keybits = 192 ∨ ctx.keybits = 256
  length : ctx.key.length = (ctx.keybits / 8).toNat
  sw_eq : ctx.sw = schedule ctx.key

theorem keyed_of_setkey {schedule : List Byte → sw.Context} {key : List Byte} {keybits : UInt32}
    {ctx : MbedtlsAesContext sw} (hlen : (keybits / 8).toNat ≤ key.length)
    (h : setkey sw schedule key keybits = .ok ctx)
    : Keyed schedule ctx := by
  unfold setkey at h
  by_cases hvalid : aesValidateKeybits keybits
  . simp only [hvalid, Bool.not_true, Bool.false_eq_true, ↓reduceIte, Except.ok.injEq] at h
    subst h
    refine ⟨rfl, by simpa [aesValidateKeybits] using hvalid, ?_, rfl⟩
    rw [List.length_take]
    exact Nat.min_eq_left hlen
  . simp [hvalid] at h

theorem take_swKey {key : List Byte} {keybits : UInt32}
    (hbits : keybits = 128 ∨ keybits = 192 ∨ keybits = 256)
    (hlen : key.length = (keybits / 8).toNat)
    : (swKey pufsSwKeyMaxlen .swkey (some key) keybits).take (keybits / 8).toNat = key := by
  have hkeyLen : keyLen pufsSwKeyMaxlen keybits = (keybits / 8).toNat := by
    obtain rfl | rfl | rfl := hbits
    . rfl
    . rfl
    . rfl
  unfold swKey copyInto
  dsimp only
  rw [hkeyLen, ← hlen]
  rw [List.take_length]
  exact List.take_left

theorem ivBytes_block (iv : Block) : ivBytes (some iv.1) 16 = iv.1 := by
  have hlen : (min (16 : UInt32) 16).toNat = 16 := by
    rfl
  unfold ivBytes copyInto
  dsimp only
  rw [hlen]
  rw [List.take_of_length_le (by omega)]
  rw [iv.2]
  simp [pufsBcBlockSize]

def hwParams (ctx : MbedtlsAesContext sw) (encrypt : Bool) (iv : Block) : CipherParams :=
  ⟨.aes, encrypt, .swkey, some ctx.key, ctx.keybits, some iv.1, 16⟩

theorem isSp38a_of {hwMode : SkcipherMode} (hmode : hwMode = .cbc ∨ hwMode = .ctr)
    : hwMode.isSp38a = true := by
  obtain rfl | rfl := hmode
  . rfl
  . rfl

theorem sp38aAccepts_hwParams {schedule : List Byte → sw.Context} {ctx : MbedtlsAesContext sw}
    (hkeyed : Keyed schedule ctx) {hwMode : SkcipherMode} (hmode : hwMode = .cbc ∨ hwMode = .ctr)
    (encrypt : Bool) (iv : Block)
    : sp38aAccepts (sp38aInitOp hwMode (hwParams ctx encrypt iv)) = true := by
  have hbits := hkeyed.keybits
  have hiv : min (16 : UInt32) 16 = 16 := rfl
  simp [sp38aAccepts, sp38aInitOp, hwParams, ivLen, hmode, hbits, hiv]

def schedule (sw : AesSw) (mode : AesMode) : List Byte → sw.Context :=
  match mode with
  | .decrypt => sw.setkeyDec
  | .encrypt => sw.setkeyEnc

theorem aesTransducer_cbc {mode : AesMode} {ctx : MbedtlsAesContext sw}
    (hkeyed : Keyed (schedule sw mode) ctx) (iv : Block)
    : aesTransducer sw (sp38aInitOp .cbc (hwParams ctx (mode = .encrypt) iv))
        = Transducer.ofChain (cbcStep sw ctx.sw mode) iv := by
  have hkey := take_swKey hkeyed.keybits hkeyed.length
  have hsw := hkeyed.sw_eq
  unfold aesTransducer sp38aTransducer sp38aInitOp hwParams
  dsimp only
  rw [hkey]
  rw [ivBytes_block]
  rw [Block.ofList_block]
  rw [hsw]
  cases mode with
  | decrypt => rfl
  | encrypt => rfl

theorem aesTransducer_ctr {ctx : MbedtlsAesContext sw} (hkeyed : Keyed sw.setkeyEnc ctx)
    (counter : Block)
    : aesTransducer sw (sp38aInitOp .ctr (hwParams ctx true counter))
        = Transducer.ofKeystream (ctrByte (sw.encrypt ctx.sw) counter) := by
  have hkey := take_swKey hkeyed.keybits hkeyed.length
  have hsw := hkeyed.sw_eq
  unfold aesTransducer sp38aTransducer sp38aInitOp hwParams
  dsimp only
  rw [hkey]
  rw [ivBytes_block]
  rw [Block.ofList_block]
  rw [hsw]

/-
Whether the ioctls of an attempt all answer: the init, one update for each chunk, the final.
-/
def ioctlsAnswer (faults : Faults) (w : Nat) (dev : DrvPufsInst) (n : Nat) : Bool :=
  (faults w).isNone
    ∧ okRun faults (w + 1) (chunkCount dev n) = chunkCount dev n
    ∧ (faults (w + 1 + chunkCount dev n)).isNone

/-
How much of its input an attempt consumes before the first of its ioctls that fails.
-/
def attempted (faults : Faults) (w : Nat) (dev : DrvPufsInst) (n : Nat) : Nat :=
  if (faults w).isNone then consumedBy faults (w + 1) dev n else 0

theorem attempted_le (faults : Faults) (w : Nat) (dev : DrvPufsInst) (n : Nat)
    : attempted faults w dev n ≤ n := by
  unfold attempted
  split
  . exact consumedBy_le faults (w + 1) dev n
  . exact Nat.zero_le n

theorem attempted_of_answer {faults : Faults} {w : Nat} {dev : DrvPufsInst} {n : Nat}
    (h : ioctlsAnswer faults w dev n)
    : attempted faults w dev n = n := by
  simp only [ioctlsAnswer, Bool.decide_and, Bool.and_eq_true, decide_eq_true_eq] at h
  unfold attempted
  rw [if_pos h.1]
  exact consumedBy_all dev h.2.1

/-
Whether an attempt goes through: all ioctls answer and the length fits the driver's 32 bit one.
-/
def hwSucceeds (faults : Faults) (w : Nat) (dev : DrvPufsInst) (length : Nat) : Bool :=
  ioctlsAnswer faults w dev (uint32 length) ∧ uint32 length = length

theorem hwSucceeds_noFaults {dev : DrvPufsInst} {length : Nat} (h : length < 2 ^ 32) (w : Nat)
    : hwSucceeds noFaults w dev length := by
  have hlen : uint32 length = length := Nat.mod_eq_of_lt h
  have hok : okRun noFaults (w + 1) (chunkCount dev length) = chunkCount dev length :=
    okRun_never (w + 1) (chunkCount dev length)
  unfold hwSucceeds ioctlsAnswer
  rw [hlen]
  simp [hok, noFaults]

/-
An attempt that fails does no harm in place as long as the device has not given out any of its
result. `emitted` says how much it gives out for what it has consumed.
-/
def leavesInput (emitted : Nat → Nat) (faults : Faults) (w : Nat) (dev : DrvPufsInst) (length : Nat)
    : Prop :=
  hwSucceeds faults w dev length ∨ emitted (attempted faults w dev (uint32 length)) = 0

section

variable {schedule : List Byte → sw.Context} {ctx : MbedtlsAesContext sw}
    (hkeyed : Keyed schedule ctx) {hwMode : SkcipherMode} (hmode : hwMode = .cbc ∨ hwMode = .ctr)
    (encrypt : Bool) (iv : Block) (hold : HoldBack) {faults : Faults} {dev : DrvPufsInst} {w : Nat}
    {input length output : Nat}

include hmode in
theorem aesHwCryptSp38a_init_fault (mem : Memory) {e : Errno} (hw : faults w = some e)
    : aesHwCryptSp38a ⟨some dev, aesDevice sw hold faults⟩ ctx hwMode encrypt iv input length output
          mem w
        = ⟨e.1, mem, w + 1⟩ := by
  unfold aesHwCryptSp38a aesDevice
  dsimp only
  rw [drvPufsCipherInit_sp38a _ (isSp38a_of hmode)]
  rw [sp38aDevice_init_fault hw]

include hkeyed hmode in
theorem aesHwCryptSp38a_answer (h : Overlay input output (uint32 length)) (mem : Memory)
    (hanswer : ioctlsAnswer faults w dev (uint32 length))
    : let t := aesTransducer sw (sp38aInitOp hwMode (hwParams ctx encrypt iv))
      let bytes := readBytes mem input (uint32 length)
      aesHwCryptSp38a ⟨some dev, aesDevice sw hold faults⟩ ctx hwMode encrypt iv input length output
          mem w
        = if (t.output bytes).length = length then
            ⟨0, writeBytes output (t.output bytes) mem, w + 1 + chunkCount dev (uint32 length) + 1⟩
          else
            ⟨-1, writeBytes output (t.given hold bytes) mem,
              w + 1 + chunkCount dev (uint32 length) + 1⟩ := by
  intro t bytes
  have hinit := sp38aAccepts_hwParams hkeyed hmode encrypt iv
  simp only [ioctlsAnswer, Bool.decide_and, Bool.and_eq_true, decide_eq_true_eq,
    Option.isNone_iff_eq_none] at hanswer
  obtain ⟨hw, hok, hfinal⟩ := hanswer
  have hret := (faultRet_eq_zero_iff faults (w + 1) (chunkCount dev (uint32 length))).mpr hok
  have hlen := congrArg List.length (t.given_append_rest hold bytes)
  rw [List.length_append] at hlen
  unfold aesHwCryptSp38a aesDevice
  dsimp only
  unfold hwParams at hinit
  rw [drvPufsCipherInit_sp38a _ (isSp38a_of hmode)]
  rw [sp38aDevice_init hw hinit]
  dsimp only
  rw [drvPufsCipherUpdate_eq hold faults dev _ h mem (w + 1)]
  rw [hret]
  rw [callAfter_all hok]
  rw [consumedBy_all dev hok]
  unfold updatedTo
  simp only [ne_eq, not_true_eq_false, ↓reduceIte]
  rw [drvPufsCipherFinal_sp38a _ (isSp38a_of hmode)]
  rw [sp38aDevice_final hfinal]
  change (if ¬(t.given hold bytes).length + (t.rest hold bytes).length = length then
      (⟨-1, writeBytes output (t.given hold bytes) mem, _⟩ : HwResult Nat)
    else
      ⟨0, writeBytes (output + (t.given hold bytes).length) (t.rest hold bytes)
        (writeBytes output (t.given hold bytes) mem), _⟩) = _
  rw [← writeBytes_append]
  rw [t.given_append_rest hold bytes]
  rw [hlen]
  rw [ite_not]

include hkeyed hmode in
theorem aesHwCryptSp38a_fault (h : Overlay input output (uint32 length)) (mem : Memory)
    (hanswer : ¬ioctlsAnswer faults w dev (uint32 length))
    : let t := aesTransducer sw (sp38aInitOp hwMode (hwParams ctx encrypt iv))
      let res :=
        aesHwCryptSp38a ⟨some dev, aesDevice sw hold faults⟩ ctx hwMode encrypt iv input length
          output mem w
      res.ret ≠ 0
        ∧ res.mem = writeBytes output
            (t.given hold (readBytes mem input (attempted faults w dev (uint32 length)))) mem := by
  intro t res
  have hinit := sp38aAccepts_hwParams hkeyed hmode encrypt iv
  cases hw : faults w with
  | some e =>
    have hnone : attempted faults w dev (uint32 length) = 0 := by
      simp [attempted, hw]
    dsimp only [res]
    rw [aesHwCryptSp38a_init_fault hmode encrypt iv hold mem hw]
    rw [hnone]
    rw [readBytes_zero, Transducer.given_nil, writeBytes_nil]
    exact ⟨e.2, rfl⟩
  | none =>
    have hsome : attempted faults w dev (uint32 length)
        = consumedBy faults (w + 1) dev (uint32 length) := by
      simp [attempted, hw]
    rw [hsome]
    dsimp only [res]
    unfold aesHwCryptSp38a aesDevice
    dsimp only
    unfold hwParams at hinit
    rw [drvPufsCipherInit_sp38a _ (isSp38a_of hmode)]
    rw [sp38aDevice_init hw hinit]
    dsimp only
    rw [drvPufsCipherUpdate_eq hold faults dev _ h mem (w + 1)]
    unfold updatedTo
    dsimp only
    by_cases hret : faultRet faults (w + 1) (chunkCount dev (uint32 length)) = 0
    . have hok := (faultRet_eq_zero_iff _ _ _).mp hret
      rw [if_neg (by simpa using hret)]
      rw [callAfter_all hok]
      cases hfinal : faults (w + 1 + chunkCount dev (uint32 length)) with
      | some e =>
        rw [drvPufsCipherFinal_sp38a _ (isSp38a_of hmode)]
        rw [sp38aDevice_final_fault hfinal]
        exact ⟨e.2, rfl⟩
      | none =>
        refine absurd ?_ hanswer
        simp [ioctlsAnswer, hw, hok, hfinal]
    . rw [if_pos hret]
      exact ⟨hret, rfl⟩

include hkeyed hmode in
theorem aesHwCryptSp38a_success (h : Overlay input output length) (mem : Memory)
    (hanswer : ioctlsAnswer faults w dev (uint32 length))
    (hlen : ((aesTransducer sw (sp38aInitOp hwMode (hwParams ctx encrypt iv))).output
        (readBytes mem input (uint32 length))).length = length)
    : let t := aesTransducer sw (sp38aInitOp hwMode (hwParams ctx encrypt iv))
      let res :=
        aesHwCryptSp38a ⟨some dev, aesDevice sw hold faults⟩ ctx hwMode encrypt iv input length
          output mem w
      res.ret = 0
        ∧ res.mem = writeBytes output (t.output (readBytes mem input (uint32 length))) mem := by
  intro t res
  have hle : uint32 length ≤ length := Nat.mod_le _ _
  have hres := aesHwCryptSp38a_answer hkeyed hmode encrypt iv hold (h.of_le hle) mem hanswer
  dsimp only at hres
  rw [if_pos hlen] at hres
  dsimp only [res]
  rw [hres]
  exact ⟨rfl, rfl⟩

include hkeyed hmode in
theorem aesHwCryptSp38a_failure (h : Overlay input output length) (mem : Memory)
    (hfail : ¬(ioctlsAnswer faults w dev (uint32 length)
      ∧ ((aesTransducer sw (sp38aInitOp hwMode (hwParams ctx encrypt iv))).output
          (readBytes mem input (uint32 length))).length = length))
    : let t := aesTransducer sw (sp38aInitOp hwMode (hwParams ctx encrypt iv))
      let res :=
        aesHwCryptSp38a ⟨some dev, aesDevice sw hold faults⟩ ctx hwMode encrypt iv input length
          output mem w
      res.ret ≠ 0
        ∧ res.mem = writeBytes output
            (t.given hold (readBytes mem input (attempted faults w dev (uint32 length)))) mem := by
  intro t res
  have hle : uint32 length ≤ length := Nat.mod_le _ _
  by_cases hanswer : ioctlsAnswer faults w dev (uint32 length)
  . have hres := aesHwCryptSp38a_answer hkeyed hmode encrypt iv hold (h.of_le hle) mem hanswer
    dsimp only at hres
    rw [if_neg (fun hlen => hfail ⟨hanswer, hlen⟩)] at hres
    dsimp only [res]
    rw [hres]
    rw [attempted_of_answer hanswer]
    exact ⟨Int.neg_ne_zero.mpr Int.one_ne_zero, rfl⟩
  . exact aesHwCryptSp38a_fault hkeyed hmode encrypt iv hold (h.of_le hle) mem hanswer

end

end Mbedtls

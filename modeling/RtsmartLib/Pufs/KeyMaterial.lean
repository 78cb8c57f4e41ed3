import RtsmartLib.Pufs.Hash

/-!
This module contains what of a key and an iv the init functions let through to the kernel: two calls
are told apart exactly if they differ before the bounds at which the driver cuts off its copies.
-/

namespace Pufs

open Lib

theorem keyLen_le (maxlen : Nat) (keybits : UInt32)
    : keyLen maxlen keybits ≤ (keybits.toNat + 7) / 8 := by
  unfold keyLen
  apply Nat.le_trans (Nat.min_le_left _ _)
  rw [UInt32.toNat_shiftRight, UInt32.toNat_add]
  rw [Nat.shiftRight_eq_div_pow]
  apply Nat.div_le_div_right
  exact Nat.mod_le _ _

theorem copyInto_inj (size : Nat) {bytes bytes' : List Byte} {n n' : Nat} (hn : n ≤ bytes.length)
    (hn' : n' ≤ bytes'.length) (h : n = n')
    : copyInto size bytes n = copyInto size bytes' n' ↔ bytes.take n = bytes'.take n' := by
  subst h
  unfold copyInto
  constructor
  . intro heq
    apply List.append_inj_left heq
    rw [List.length_take, List.length_take]
    omega
  . intro heq
    rw [heq]

theorem toNat_min_block (ivlen : UInt32) : (min ivlen 16).toNat = min ivlen.toNat 16 := by
  change (if ivlen ≤ 16 then ivlen else 16).toNat = min ivlen.toNat 16
  have h16 : (16 : UInt32).toNat = 16 := rfl
  split
  . next hle =>
    rw [UInt32.le_iff_toNat_le, h16] at hle
    exact (Nat.min_eq_left hle).symm
  . next hle =>
    rw [UInt32.le_iff_toNat_le, h16] at hle
    rw [h16]
    exact (Nat.min_eq_right (by omega)).symm

/-
The front of a key, which is all of it unless it is longer than the buffer it is copied to.
-/
def keyFront (maxlen : Nat) (key : List Byte) (keybits : UInt32) : List Byte :=
  key.take (keyLen maxlen keybits)

def ivFront (iv : List Byte) : List Byte :=
  iv.take pufsBcBlockSize

theorem swKey_inj {maxlen : Nat} {key key' : List Byte} {keybits : UInt32}
    (h : key.length = (keybits.toNat + 7) / 8) (h' : key'.length = (keybits.toNat + 7) / 8)
    : swKey maxlen .swkey (some key) keybits = swKey maxlen .swkey (some key') keybits
        ↔ keyFront maxlen key keybits = keyFront maxlen key' keybits := by
  have hle := keyLen_le maxlen keybits
  exact copyInto_inj maxlen (by omega) (by omega) rfl

theorem take_ivlen {iv : List Byte} {ivlen : UInt32} (h : iv.length = ivlen.toNat)
    : iv.take (min ivlen 16).toNat = ivFront iv := by
  rw [toNat_min_block, ← h]
  unfold ivFront pufsBcBlockSize
  by_cases hle : iv.length ≤ 16
  . rw [Nat.min_eq_left hle]
    rw [List.take_length, List.take_of_length_le hle]
  . rw [Nat.min_eq_right (by omega)]

theorem ivCut_inj {iv iv' : List Byte} {ivlen ivlen' : UInt32} (h : ivlen.toNat ≤ iv.length)
    (h' : ivlen'.toNat ≤ iv'.length)
    : (ivBytes (some iv) ivlen = ivBytes (some iv') ivlen'
          ∧ ivLen (some iv) ivlen = ivLen (some iv') ivlen')
        ↔ iv.take (min ivlen 16).toNat = iv'.take (min ivlen' 16).toNat := by
  have hn := toNat_min_block ivlen
  have hn' := toNat_min_block ivlen'
  unfold ivBytes ivLen
  constructor
  . rintro ⟨hbytes, hlen⟩
    dsimp only at hbytes hlen
    exact (copyInto_inj _ (by omega) (by omega) (congrArg UInt32.toNat hlen)).mp hbytes
  . intro heq
    have hlen := congrArg List.length heq
    rw [List.length_take, List.length_take] at hlen
    have hmin : min ivlen 16 = min ivlen' 16 := by
      apply UInt32.toNat_inj.mp
      omega
    exact ⟨(copyInto_inj _ (by omega) (by omega) (congrArg UInt32.toNat hmin)).mpr heq, hmin⟩

theorem iv_inj {iv iv' : List Byte} {ivlen ivlen' : UInt32} (h : iv.length = ivlen.toNat)
    (h' : iv'.length = ivlen'.toNat)
    : (ivBytes (some iv) ivlen = ivBytes (some iv') ivlen'
          ∧ ivLen (some iv) ivlen = ivLen (some iv') ivlen')
        ↔ ivFront iv = ivFront iv' := by
  rw [← take_ivlen h, ← take_ivlen h']
  apply ivCut_inj
  . omega
  . omega

/--
A software key with its length in bits, and an iv or nonce with its length in bytes.
-/
structure KeyMaterial where
  key : List Byte
  keybits : UInt32
  key_length : key.length = (keybits.toNat + 7) / 8
  iv : List Byte
  ivlen : UInt32
  iv_length : iv.length = ivlen.toNat

def KeyMaterial.params (m : KeyMaterial) (cipher : SkCipher) (encrypt : Bool) : CipherParams :=
  ⟨cipher, encrypt, .swkey, some m.key, m.keybits, some m.iv, m.ivlen⟩

structure KeyMaterial.SameFront (m m' : KeyMaterial) : Prop where
  keybits : m.keybits = m'.keybits
  key : keyFront pufsSwKeyMaxlen m.key m.keybits = keyFront pufsSwKeyMaxlen m'.key m'.keybits
  iv : ivFront m.iv = ivFront m'.iv

/-
The four fields of an operation structure that a key and an iv go into.
-/
theorem KeyMaterial.fields_eq_iff (m m' : KeyMaterial)
    : (m.keybits = m'.keybits
          ∧ swKey pufsSwKeyMaxlen .swkey (some m.key) m.keybits
              = swKey pufsSwKeyMaxlen .swkey (some m'.key) m'.keybits
          ∧ ivBytes (some m.iv) m.ivlen = ivBytes (some m'.iv) m'.ivlen
          ∧ ivLen (some m.iv) m.ivlen = ivLen (some m'.iv) m'.ivlen)
        ↔ m.SameFront m' := by
  constructor
  . rintro ⟨hbits, hkey, hiv⟩
    refine ⟨hbits, ?_, (iv_inj m.iv_length m'.iv_length).mp hiv⟩
    rw [← hbits] at hkey ⊢
    exact (swKey_inj m.key_length (by rw [hbits]; exact m'.key_length)).mp hkey
  . rintro ⟨hbits, hkey, hiv⟩
    refine ⟨hbits, ?_, (iv_inj m.iv_length m'.iv_length).mpr hiv⟩
    rw [← hbits] at hkey ⊢
    exact (swKey_inj m.key_length (by rw [hbits]; exact m'.key_length)).mpr hkey

section

variable (cipher : SkCipher) (encrypt : Bool) (m m' : KeyMaterial)

theorem sp38aInitOp_eq_iff (mode : SkcipherMode)
    : sp38aInitOp mode (m.params cipher encrypt) = sp38aInitOp mode (m'.params cipher encrypt)
        ↔ m.SameFront m' := by
  rw [← KeyMaterial.fields_eq_iff]
  simp [sp38aInitOp, KeyMaterial.params]

theorem sp38dInitOp_eq_iff
    : sp38dInitOp (m.params cipher encrypt) = sp38dInitOp (m'.params cipher encrypt)
        ↔ m.SameFront m' := by
  rw [← KeyMaterial.fields_eq_iff]
  simp [sp38dInitOp, KeyMaterial.params]

theorem sp38cInitOp_eq_iff (aadlen inlen : UInt64) (taglen : UInt32)
    : sp38cInitOp (m.params cipher encrypt) aadlen inlen taglen
          = sp38cInitOp (m'.params cipher encrypt) aadlen inlen taglen
        ↔ m.SameFront m' := by
  rw [← KeyMaterial.fields_eq_iff]
  simp [sp38cInitOp, KeyMaterial.params]

end

/-
The two keys of XTS have the same number of bits.
-/
structure XtsMaterial extends KeyMaterial where
  key2 : List Byte
  key2_length : key2.length = (keybits.toNat + 7) / 8

structure XtsMaterial.SameFront (m m' : XtsMaterial) : Prop where
  front : m.toKeyMaterial.SameFront m'.toKeyMaterial
  key2 : keyFront pufsSwKeyMaxlen m.key2 m.keybits = keyFront pufsSwKeyMaxlen m'.key2 m'.keybits

theorem sp38eInitOp_eq_iff (cipher : SkCipher) (encrypt : Bool) (m m' : XtsMaterial)
    : sp38eInitOp (m.params cipher encrypt) .swkey (some m.key2)
          = sp38eInitOp (m'.params cipher encrypt) .swkey (some m'.key2)
        ↔ m.SameFront m' := by
  constructor
  . intro h
    have hbits := congrArg Sp38eOp.keybits h
    have hkey2 := congrArg Sp38eOp.key2 h
    dsimp only [sp38eInitOp, KeyMaterial.params] at hbits hkey2
    refine ⟨?_, ?_⟩
    . rw [← KeyMaterial.fields_eq_iff]
      simpa [sp38eInitOp, KeyMaterial.params] using ⟨hbits, congrArg Sp38eOp.key1 h,
        congrArg Sp38eOp.iv h, congrArg Sp38eOp.ivlen h⟩
    . rw [← hbits] at hkey2 ⊢
      exact (swKey_inj m.key2_length (by rw [hbits]; exact m'.key2_length)).mp hkey2
  . rintro ⟨hfront, hkey2⟩
    obtain ⟨hbits, hkey1, hiv, hivlen⟩ := (KeyMaterial.fields_eq_iff _ _).mpr hfront
    rw [← hbits] at hkey2
    have hkey2 := (swKey_inj m.key2_length (by rw [hbits]; exact m'.key2_length)).mpr hkey2
    rw [← hbits] at hkey1
    simp [sp38eInitOp, KeyMaterial.params, hkey2, hkey1, hiv, hivlen, ← hbits]

structure HmacMaterial where
  key : List Byte
  keybits : UInt32
  key_length : key.length = (keybits.toNat + 7) / 8

structure HmacMaterial.SameFront (m m' : HmacMaterial) : Prop where
  keybits : m.keybits = m'.keybits
  key : keyFront pufsHmacBlockMaxlen m.key m.keybits
    = keyFront pufsHmacBlockMaxlen m'.key m'.keybits

theorem drvPufsHmacInit_eq_iff {σ W : Type} (kernel : HashKernel σ W) (hash : HashType)
    (address address' : UInt32) (m m' : HmacMaterial)
    : drvPufsHmacInit kernel hash .swkey (.bytes address m.key) m.keybits
          = drvPufsHmacInit kernel hash .swkey (.bytes address' m'.key) m'.keybits
        ↔ m.SameFront m' := by
  constructor
  . intro h
    have hbits := congrArg HashCtx.keybits h
    have hkey := congrArg HashCtx.key h
    dsimp only [drvPufsHmacInit] at hbits hkey
    refine ⟨hbits, ?_⟩
    rw [← hbits] at hkey ⊢
    exact (swKey_inj m.key_length (by rw [hbits]; exact m'.key_length)).mp hkey
  . rintro ⟨hbits, hkey⟩
    rw [← hbits] at hkey
    have hkey := (swKey_inj m.key_length (by rw [hbits]; exact m'.key_length)).mpr hkey
    dsimp only [swKey] at hkey
    simp only [drvPufsHmacInit, ← hbits, hkey]

/-
A kernel that accepts everything and keeps the operation structures it is handed.
-/
def recorder : CompoundKernel Unit (List CipherOp) :=
  {
    zero := ()
    init := fun op ops => (.ok (), ops ++ [op])
    update := fun _ _ _ ops => (.ok ((), []), ops)
    final := fun _ _ ops => (.ok ⟨[], []⟩, ops)
    initUpdate := fun op _ _ ops => (.ok ((), []), ops ++ [.sp38d op])
    updateFinal := fun _ _ _ ops => (.ok ⟨[], []⟩, ops)
  }

def retOf {α : Type} (answer : Except Errno α) : Int :=
  match answer with
  | .ok _ => 0
  | .error e => e.1

/-
The init functions for one key, with the arguments that are neither key nor iv.
-/
inductive InitCall where
  | init (mode : SkcipherMode)
  | ccm (aadlen inlen : UInt64) (taglen : UInt32)
  | initUpdate (mode : SkcipherMode) (hasOut : Bool) (input : List Byte)

def InitCall.run (call : InitCall) (p : CipherParams) : Int × List CipherOp :=
  match call with
  | .init mode =>
    let res := drvPufsCipherInit recorder.toCipherKernel mode p []
    (retOf res.1, res.2)
  | .ccm aadlen inlen taglen =>
    let res := drvPufsCipherCcmInit recorder.toCipherKernel p aadlen inlen taglen []
    (retOf res.1, res.2)
  | .initUpdate mode hasOut input =>
    let res := drvPufsCipherInitUpdate recorder mode p hasOut input []
    (retOf res.1, res.2)

def InitCall.accepts (call : InitCall) : Bool :=
  match call with
  | .init mode => mode.isSp38a ∨ mode = .gcm
  | .ccm _ _ _ => true
  | .initUpdate mode _ _ => mode = .gcm

def InitCall.op (call : InitCall) (p : CipherParams) : CipherOp :=
  match call with
  | .init mode => if mode.isSp38a then .sp38a (sp38aInitOp mode p) else .sp38d (sp38dInitOp p)
  | .ccm aadlen inlen taglen => .sp38c (sp38cInitOp p aadlen inlen taglen)
  | .initUpdate _ _ _ => .sp38d (sp38dInitOp p)

theorem InitCall.run_eq (call : InitCall) (p : CipherParams)
    : call.run p = if call.accepts then (0, [call.op p]) else (-1, []) := by
  cases call with
  | init mode =>
    by_cases hsp38a : mode.isSp38a
    . simp [run, accepts, op, drvPufsCipherInit, recorder, retOf, hsp38a]
    . by_cases hgcm : mode = .gcm
      . subst hgcm
        rfl
      . simp [run, accepts, drvPufsCipherInit, retOf, hsp38a, hgcm, eperm]
  | ccm aadlen inlen taglen => rfl
  | initUpdate mode hasOut input =>
    by_cases hgcm : mode = .gcm
    . subst hgcm
      rfl
    . simp [run, accepts, drvPufsCipherInitUpdate, retOf, hgcm, eperm]

theorem InitCall.op_eq_iff (call : InitCall) (cipher : SkCipher) (encrypt : Bool)
    (m m' : KeyMaterial)
    : call.op (m.params cipher encrypt) = call.op (m'.params cipher encrypt) ↔ m.SameFront m' := by
  cases call with
  | init mode =>
    unfold op
    dsimp only
    by_cases hsp38a : mode.isSp38a
    . rw [if_pos hsp38a, if_pos hsp38a]
      rw [CipherOp.sp38a.injEq]
      exact sp38aInitOp_eq_iff cipher encrypt m m' mode
    . rw [if_neg hsp38a, if_neg hsp38a]
      rw [CipherOp.sp38d.injEq]
      exact sp38dInitOp_eq_iff cipher encrypt m m'
  | ccm aadlen inlen taglen =>
    unfold op
    rw [CipherOp.sp38c.injEq]
    exact sp38cInitOp_eq_iff cipher encrypt m m' aadlen inlen taglen
  | initUpdate mode hasOut input =>
    unfold op
    rw [CipherOp.sp38d.injEq]
    exact sp38dInitOp_eq_iff cipher encrypt m m'

/--
Two different arguments that are both accepted are handed to the kernel as different operations.
-/
def Distinguishes {T : Type} (run : T → Int × List CipherOp) (m m' : T) : Prop :=
  m ≠ m' → (run m).1 = 0 → (run m').1 = 0 → (run m).2 ≠ (run m').2

theorem InitCall.distinguishes_iff (call : InitCall) (cipher : SkCipher) (encrypt : Bool)
    (m m' : KeyMaterial)
    : Distinguishes (fun m => call.run (KeyMaterial.params m cipher encrypt)) m m'
        ↔ (m ≠ m' → call.accepts → ¬m.SameFront m') := by
  unfold Distinguishes
  dsimp only
  rw [run_eq, run_eq]
  by_cases haccepts : call.accepts
  . rw [if_pos haccepts, if_pos haccepts]
    rw [← call.op_eq_iff cipher encrypt]
    simp [haccepts]
  . rw [if_neg haccepts, if_neg haccepts]
    simp [haccepts]

def xtsRun (cipher : SkCipher) (encrypt : Bool) (m : XtsMaterial) : Int × List CipherOp :=
  let res := drvPufsCipherXtsInit recorder.toCipherKernel (m.params cipher encrypt) .swkey
    (some m.key2) []
  (retOf res.1, res.2)

theorem xtsRun_distinguishes_iff (cipher : SkCipher) (encrypt : Bool) (m m' : XtsMaterial)
    : Distinguishes (xtsRun cipher encrypt) m m' ↔ (m ≠ m' → ¬m.SameFront m') := by
  rw [← sp38eInitOp_eq_iff cipher encrypt]
  simp [Distinguishes, xtsRun, drvPufsCipherXtsInit, recorder, retOf]

/-
An HMAC hands its key to the kernel in the context of its updates.
-/
def hmacRecorder : HashKernel Unit (List (HashCtx Unit)) :=
  {
    zero := ()
    update := fun ctx _ ctxs => (.ok ctx, ctxs ++ [ctx])
    final := fun ctx ctxs => (.ok [], ctxs ++ [ctx])
    hmacUpdate := fun ctx _ ctxs => (.ok ctx, ctxs ++ [ctx])
    hmacFinal := fun ctx ctxs => (.ok [], ctxs ++ [ctx])
  }

def hmacHanded (hash : HashType) (address : UInt32) (m : HmacMaterial) : List (HashCtx Unit) :=
  (drvPufsHmacFinal hmacRecorder
    (drvPufsHmacInit hmacRecorder hash .swkey (.bytes address m.key) m.keybits) []).2

end Pufs

import RtsmartLib.Mbedtls.GcmAlt
import RtsmartLib.Pufs.KeyMaterial

/-!
This module contains what `mbedtls_gcm_starts` lets through of an iv of any length, and with it the
exact condition under which no init function confuses two keys or two ivs.
-/

namespace Mbedtls

open Lib Pufs

/-
The key is in the context before the message starts, so that a call is a context and an iv.
-/
structure GcmKeyed (ctx : MbedtlsGcmContext Unit) (key : List Byte) (keybits : UInt32) : Prop where
  setkey : ∃ ctx₀ : MbedtlsGcmContext Unit, mbedtlsGcmSetkey ctx₀ .aes key keybits = .ok ctx
  length : key.length = (keybits / 8).toNat

theorem GcmKeyed.holdsKey {ctx : MbedtlsGcmContext Unit} {key : List Byte} {keybits : UInt32}
    (h : GcmKeyed ctx key keybits)
    : ctx.hasKey = true ∧ HoldsKey ctx.key ctx.keybits key keybits := by
  obtain ⟨⟨ctx₀, hset⟩, hlen⟩ := h
  unfold mbedtlsGcmSetkey at hset
  rw [if_neg (by simp)] at hset
  by_cases hbits : keybits ≠ 128 ∧ keybits ≠ 192 ∧ keybits ≠ 256
  . rw [if_pos hbits] at hset
    cases hset
  . rw [if_neg hbits] at hset
    injection hset with hset
    subst hset
    exact ⟨rfl, holdsKey_of_setkey hlen hbits⟩

/-
The length of the iv is cut to 32 bits before the driver cuts off its bytes.
-/
def gcmIvFront (iv : List Byte) : List Byte :=
  iv.take (min (UInt32.ofNat iv.length) 16).toNat

theorem toNat_ofNat_length_le (iv : List Byte) : (UInt32.ofNat iv.length).toNat ≤ iv.length := by
  rw [UInt32.toNat_ofNat']
  exact Nat.mod_le _ _

def gcmStartsHanded (dev : DrvPufsInst) (ctx : MbedtlsGcmContext Unit) (mode : Int)
    (iv : List Byte) : Int × List CipherOp :=
  let res := mbedtlsGcmStarts ⟨some dev, recorder⟩ ctx mode (some iv) []
  (res.ret, res.world)

theorem gcmStartsHanded_eq (dev : DrvPufsInst) {ctx : MbedtlsGcmContext Unit} {key : List Byte}
    {keybits : UInt32} (hkeyed : GcmKeyed ctx key keybits) {mode : Int}
    (hmode : mode = mbedtlsGcmEncrypt ∨ mode = mbedtlsGcmDecrypt) (iv : List Byte)
    : gcmStartsHanded dev ctx mode iv
        = (0, [.sp38d (sp38dInitOp (gcmParams ctx mode (some iv)))]) := by
  unfold gcmStartsHanded mbedtlsGcmStarts
  rw [if_neg (by simp [hkeyed.holdsKey.1])]
  rw [if_neg (by
    obtain h | h := hmode
    . simp [h]
    . simp [h])]
  dsimp only
  rw [drvPufsCipherInit_gcm]
  rfl

theorem gcmInitOp_eq_iff {ctx ctx' : MbedtlsGcmContext Unit} {key key' : List Byte}
    {keybits keybits' : UInt32} (hkeyed : GcmKeyed ctx key keybits)
    (hkeyed' : GcmKeyed ctx' key' keybits') (mode : Int) (iv iv' : List Byte)
    : sp38dInitOp (gcmParams ctx mode (some iv)) = sp38dInitOp (gcmParams ctx' mode (some iv'))
        ↔ keybits = keybits' ∧ key = key' ∧ gcmIvFront iv = gcmIvFront iv' := by
  have hiv := ivCut_inj (toNat_ofNat_length_le iv) (toNat_ofNat_length_le iv')
  have hbits := hkeyed.holdsKey.2.keybits_eq
  have hbits' := hkeyed'.holdsKey.2.keybits_eq
  have hkey := hkeyed.holdsKey.2.swKey_eq
  have hkey' := hkeyed'.holdsKey.2.swKey_eq
  unfold gcmIvFront
  rw [← hiv]
  constructor
  . intro h
    have hbitsEq := congrArg Sp38dOp.keybits h
    dsimp only [sp38dInitOp, gcmParams] at hbitsEq
    rw [hbits, hbits'] at hbitsEq
    have hkeyEq := congrArg Sp38dOp.key h
    dsimp only [sp38dInitOp, gcmParams] at hkeyEq
    rw [hkey, hkey'] at hkeyEq
    have hlen : key.length = key'.length := by
      rw [hkeyed.length, hkeyed'.length, hbitsEq]
    rw [copyInto_inj _ (Nat.le_refl _) (Nat.le_refl _) hlen] at hkeyEq
    rw [List.take_length, List.take_length] at hkeyEq
    exact ⟨hbitsEq, hkeyEq, congrArg Sp38dOp.iv h, congrArg Sp38dOp.ivlen h⟩
  . rintro ⟨hbitsEq, hkeyEq, hbytes, hlen⟩
    unfold sp38dInitOp gcmParams
    dsimp only
    rw [hkey, hkey', hbits, hbits', hbitsEq, hkeyEq]
    dsimp only [Option.getD]
    rw [hbytes, hlen]

/--
Whether an operation structure has all bytes of the key and of the iv.
-/
def KeepsAll (op : CipherOp) (key iv : List Byte) : Prop :=
  match op with
  | .sp38d op =>
    op.key.take key.length = key ∧ op.iv.take iv.length = iv ∧ op.ivlen.toNat = iv.length
  | _ => False

theorem gcmInitOp_keepsAll_iff {ctx : MbedtlsGcmContext Unit} {key : List Byte} {keybits : UInt32}
    (hkeyed : GcmKeyed ctx key keybits) (mode : Int) (iv : List Byte)
    : KeepsAll (.sp38d (sp38dInitOp (gcmParams ctx mode (some iv)))) key iv
        ↔ iv.length ≤ pufsBcBlockSize := by
  unfold KeepsAll sp38dInitOp gcmParams
  dsimp only
  rw [hkeyed.holdsKey.2.swKey_eq]
  unfold copyInto
  rw [List.take_length, List.take_left]
  have hlen := toNat_min_block (UInt32.ofNat iv.length)
  rw [UInt32.toNat_ofNat'] at hlen
  constructor
  . rintro ⟨-, -, hkept⟩
    dsimp only [ivLen, Option.getD] at hkept
    unfold pufsBcBlockSize
    omega
  . intro hle
    unfold pufsBcBlockSize at hle
    have hfull : (min (UInt32.ofNat iv.length) 16).toNat = iv.length := by
      omega
    refine ⟨rfl, ?_, ?_⟩
    . unfold ivBytes copyInto
      dsimp only [Option.getD]
      rw [hfull, List.take_length]
      exact List.take_left
    . exact hfull

/--
Which pairs of arguments the init functions tell apart, and which ivs arrive whole.
-/
theorem initCalls_distinguish_iff (cipher : SkCipher) (encrypt : Bool) (hash : HashType)
    (address : UInt32) (dev : DrvPufsInst)
    : (∀ (call : InitCall) (m m' : KeyMaterial),
          Distinguishes (fun m => call.run (KeyMaterial.params m cipher encrypt)) m m'
            ↔ (m ≠ m' → call.accepts → ¬m.SameFront m'))
        ∧ (∀ (m m' : XtsMaterial),
          Distinguishes (xtsRun cipher encrypt) m m' ↔ (m ≠ m' → ¬m.SameFront m'))
        ∧ (∀ (m m' : HmacMaterial),
          (m ≠ m' → hmacHanded hash address m ≠ hmacHanded hash address m')
            ↔ (m ≠ m' → ¬m.SameFront m'))
        ∧ (∀ (ctx ctx' : MbedtlsGcmContext Unit) (key key' : List Byte)
            (keybits keybits' : UInt32) (mode : Int) (iv iv' : List Byte),
          GcmKeyed ctx key keybits → GcmKeyed ctx' key' keybits' →
          mode = mbedtlsGcmEncrypt ∨ mode = mbedtlsGcmDecrypt →
            (((keybits, key, iv) ≠ (keybits', key', iv') →
                  gcmStartsHanded dev ctx mode iv ≠ gcmStartsHanded dev ctx' mode iv')
                ↔ ((keybits, key, iv) ≠ (keybits', key', iv') →
                  (keybits, key, gcmIvFront iv) ≠ (keybits', key', gcmIvFront iv')))
              ∧ ((∀ op ∈ (gcmStartsHanded dev ctx mode iv).2, KeepsAll op key iv)
                ↔ iv.length ≤ pufsBcBlockSize)) := by
  refine ⟨?_, ?_, ?_, ?_⟩
  . intro call m m'
    exact call.distinguishes_iff cipher encrypt m m'
  . intro m m'
    exact xtsRun_distinguishes_iff cipher encrypt m m'
  . intro m m'
    rw [← drvPufsHmacInit_eq_iff hmacRecorder hash address address]
    simp [hmacHanded, drvPufsHmacFinal, hmacRecorder]
  . intro ctx ctx' key key' keybits keybits' mode iv iv' hkeyed hkeyed' hmode
    rw [gcmStartsHanded_eq dev hkeyed hmode, gcmStartsHanded_eq dev hkeyed' hmode]
    refine ⟨?_, ?_⟩
    . have hop := gcmInitOp_eq_iff hkeyed hkeyed' mode iv iv'
      have htuple : (keybits, key, gcmIvFront iv) = (keybits', key', gcmIvFront iv')
          ↔ keybits = keybits' ∧ key = key' ∧ gcmIvFront iv = gcmIvFront iv' := by
        simp
      rw [ne_eq (keybits, key, gcmIvFront iv), htuple, ← hop]
      simp
    . simpa using gcmInitOp_keepsAll_iff hkeyed mode iv

def zeroKeyContext : MbedtlsGcmContext Unit :=
  ⟨List.replicate 32 0, 128, true, none, 0, false⟩

theorem zeroKeyContext_keyed : GcmKeyed zeroKeyContext (List.replicate 16 0) 128 :=
  ⟨⟨mbedtlsGcmInit, rfl⟩, rfl⟩

theorem zeroKeyContext_keepsAll_iff
    : (∀ op ∈ (gcmStartsHanded pufsBufSize zeroKeyContext mbedtlsGcmEncrypt
          (List.replicate 17 0)).2, KeepsAll op (List.replicate 16 0) (List.replicate 17 0))
        ↔ (List.replicate 17 (0 : Byte)).length ≤ pufsBcBlockSize :=
  ((initCalls_distinguish_iff .aes true .sha256 0 pufsBufSize).2.2.2 zeroKeyContext zeroKeyContext
    _ _ 128 128 mbedtlsGcmEncrypt _ (List.replicate 17 0) zeroKeyContext_keyed zeroKeyContext_keyed
    (.inl rfl)).2

def longNonce (last : Byte) : KeyMaterial :=
  {
    key := List.replicate 16 0
    keybits := 128
    key_length := by decide
    iv := List.replicate 16 0 ++ [last]
    ivlen := 17
    iv_length := rfl
  }

/--
Two nonces of 17 bytes that differ in the last one are handed to the kernel as the same operation.
-/
theorem longNonce_not_distinguished
    : let run (m : KeyMaterial) := (InitCall.init .gcm).run (m.params .aes true)
      longNonce 1 ≠ longNonce 2
        ∧ (run (longNonce 1)).1 = 0
        ∧ (run (longNonce 2)).1 = 0
        ∧ (run (longNonce 1)).2 = (run (longNonce 2)).2 := by
  refine ⟨?_, rfl, rfl, ?_⟩
  . intro h
    have hiv := congrArg KeyMaterial.iv h
    exact absurd hiv (by decide)
  . decide

end Mbedtls

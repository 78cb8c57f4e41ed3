import RtsmartLib.Mbedtls.CcmAlt
import RtsmartLib.Pufs.Feed
import RtsmartLib.Pufs.KeyMaterial
import RtsmartLib.Lib.BlockMode

/-!
This module contains CCM* over a device that computes CCM correctly in the direction it is initialised
for, and the exact condition under which the port gets the CCM* ciphertext and tag out of it.
-/

namespace Mbedtls

open Lib Pufs

/--
CCM for arbitrary keystreams and tags. A tag depends on the lengths announced at the start as well as
on the additional data and the plaintext.
-/
structure CcmCipher where
  keystream : List Byte → List Byte → Nat → Byte
  tag : List Byte → List Byte → UInt64 → UInt64 → List Byte → List Byte → Block

structure CcmDeviceCtx where
  op : Sp38cOp
  ad : List Byte
  input : List Byte

namespace CcmDeviceCtx

variable (c : CcmCipher) (ctx : CcmDeviceCtx)

def key : List Byte :=
  ctx.op.key.take (ctx.op.keybits / 8).toNat

def nonce : List Byte :=
  ctx.op.nonce.take ctx.op.noncelen.toNat

def keystream : Nat → Byte :=
  c.keystream ctx.key ctx.nonce

/-
The tag covers the plaintext, which for a decryption is what the input decrypts to.
-/
def tag : List Byte :=
  let text := if ctx.op.encrypt then ctx.input else xorBytes (ctx.keystream c) 0 ctx.input
  (c.tag ctx.key ctx.nonce ctx.op.ccmAadlen ctx.op.ccmInlen ctx.ad text).1.take ctx.op.taglen.toNat

end CcmDeviceCtx

def ccmAccepts (op : Sp38cOp) : Bool :=
  op.cipher = .aes
    ∧ op.keytype = .swkey
    ∧ (op.keybits = 128 ∨ op.keybits = 192 ∨ op.keybits = 256)
    ∧ 7 ≤ op.noncelen
    ∧ op.noncelen ≤ 13
    ∧ 4 ≤ op.taglen
    ∧ op.taglen ≤ 16

/-
An encryption writes the tag into the tag buffer, a decryption compares it with what is there.
-/
def CcmCipher.final (c : CcmCipher) (ctx : CcmDeviceCtx) (tag : List Byte) : Except Errno FinalOut :=
  if ctx.op.encrypt then
    .ok ⟨[], ctx.tag c ++ tag.drop (ctx.tag c).length⟩
  else if tag.take ctx.op.taglen.toNat = ctx.tag c then
    .ok ⟨[], tag⟩
  else
    .error pufsErrVerfail

def CcmCipher.device (c : CcmCipher) : CipherKernel CcmDeviceCtx Unit :=
  {
    zero := ⟨⟨.aes, false, .swkey, 0, [], [], 0, 0, 0, 0⟩, [], []⟩
    init := fun op _ =>
      match op with
      | .sp38c op => if ccmAccepts op then (.ok ⟨op, [], []⟩, ()) else (.error einval, ())
      | _ => (.error einval, ())
    update := fun ctx hasOut bytes _ =>
      if hasOut then
        (.ok ({ ctx with input := ctx.input ++ bytes },
          xorBytes (ctx.keystream c) ctx.input.length bytes), ())
      else
        (.ok ({ ctx with ad := ctx.ad ++ bytes }, []), ())
    final := fun ctx args _ => (c.final ctx (args.tag.getD []), ())
  }

variable (c : CcmCipher)

theorem CcmCipher.device_laws : UpdateLaws c.device := by
  refine ⟨?_, ?_⟩
  . intro ctx hasOut
    cases hasOut with
    | false => simp [CcmCipher.device]
    | true => simp [CcmCipher.device, xorBytes]
  . intro ctx hasOut input input'
    cases hasOut with
    | false => simp [CcmCipher.device, Except.bind, Except.map]
    | true => simp [CcmCipher.device, Except.bind, Except.map, xorBytes_append,
        CcmDeviceCtx.keystream, CcmDeviceCtx.key, CcmDeviceCtx.nonce]

/-
What the driver passes on of an input, its length cut to 32 bits.
-/
def cut32 (input : List Byte) : List Byte :=
  input.take (uint32 input.length)

section

variable {c} {dev : DrvPufsInst} {ctx : MbedtlsCcmContext CcmDeviceCtx} {cipher : CcmDeviceCtx}
    (hstarted : ctx.started = true) (hcipher : ctx.cipher = some cipher)

include hcipher in
theorem ccmFeed_device (hasOut : Bool) (input : List Byte)
    : ccmFeed ⟨some dev, c.device⟩ ctx hasOut input ()
        = if hasOut then
            ⟨0, xorBytes (cipher.keystream c) cipher.input.length (cut32 input),
              { ctx with cipher := some { cipher with input := cipher.input ++ cut32 input } }, ()⟩
          else
            ⟨0, [], { ctx with cipher := some { cipher with ad := cipher.ad ++ cut32 input } }, ()⟩ := by
  unfold ccmFeed
  dsimp only
  rw [hcipher]
  cases hasOut with
  | false => rw [drvPufsInstFeed_ok c.device_laws dev rfl]; rfl
  | true => rw [drvPufsInstFeed_ok c.device_laws dev rfl]; rfl

theorem withCcmCipher_self (h : ctx.cipher = some cipher) : { ctx with cipher := some cipher } = ctx := by
  cases ctx
  cases h
  rfl

include hstarted hcipher in
theorem mbedtlsCcmUpdateAd_device (ad : List Byte)
    : mbedtlsCcmUpdateAd ⟨some dev, c.device⟩ ctx ad ()
        = ⟨0, { ctx with cipher := some { cipher with ad := cipher.ad ++ cut32 ad } }, ()⟩ := by
  unfold mbedtlsCcmUpdateAd
  rw [if_neg (by simp [hstarted])]
  by_cases hzero : ad.length = 0
  . have hcut : cut32 ad = [] := by
      rw [List.eq_nil_of_length_eq_zero hzero]
      rfl
    rw [if_pos hzero]
    rw [hcut, List.append_nil]
    rw [withCcmCipher_self hcipher]
  . rw [if_neg hzero]
    rw [ccmFeed_device hcipher]
    rfl

include hstarted hcipher in
theorem mbedtlsCcmUpdate_device (input : List Byte)
    : mbedtlsCcmUpdate ⟨some dev, c.device⟩ ctx input true input.length ()
        = ⟨⟨0, { ctx with cipher := some { cipher with input := cipher.input ++ cut32 input } }, ()⟩,
            xorBytes (cipher.keystream c) cipher.input.length (cut32 input),
            (cut32 input).length⟩ := by
  unfold mbedtlsCcmUpdate
  rw [if_neg (by simp [hstarted])]
  by_cases hzero : input.length = 0
  . have hcut : cut32 input = [] := by
      rw [List.eq_nil_of_length_eq_zero hzero]
      rfl
    rw [if_pos hzero]
    rw [hcut, List.append_nil]
    rw [withCcmCipher_self hcipher]
    rfl
  . rw [if_neg hzero]
    rw [if_neg (by decide)]
    rw [if_neg (Nat.lt_irrefl _)]
    rw [ccmFeed_device hcipher]
    dsimp only
    rw [if_neg (by simp)]
    simp

include hstarted hcipher in
theorem mbedtlsCcmFinish_device (tag : List Byte) (tagLen : Nat)
    : mbedtlsCcmFinish ⟨some dev, c.device⟩ ctx tag tagLen ()
        = let ctx' := { ctx with started := false }
          match c.final cipher tag with
          | .error e => ⟨⟨ccmMapCipherError ctx e.1, ctx', ()⟩, tag⟩
          | .ok res => ⟨⟨0, ctx', ()⟩, res.tag⟩ := by
  unfold mbedtlsCcmFinish
  rw [if_neg (by simp [hstarted])]
  rw [hcipher]
  dsimp only [drvPufsCipherFinal, CcmCipher.device, Option.getD]
  cases c.final cipher tag with
  | error e => rfl
  | ok res => rfl

end

/-
A message in pieces: additional data and text in any number of calls each, up to the first that fails.
-/
def ccmUpdateAds {κ W : Type} (hw : CcmHw κ W) (ctx : MbedtlsCcmContext κ) (ads : List (List Byte))
    (w : W) : CcmStatus κ W :=
  match ads with
  | [] => ⟨0, ctx, w⟩
  | ad :: ads =>
    let res := mbedtlsCcmUpdateAd hw ctx ad w
    if res.ret ≠ 0 then res else ccmUpdateAds hw res.ctx ads res.world

def ccmUpdates {κ W : Type} (hw : CcmHw κ W) (ctx : MbedtlsCcmContext κ) (inputs : List (List Byte))
    (w : W) : CcmOutput κ W :=
  match inputs with
  | [] => ⟨⟨0, ctx, w⟩, [], 0⟩
  | input :: inputs =>
    let res := mbedtlsCcmUpdate hw ctx input true input.length w
    if res.ret ≠ 0 then
      res
    else
      let rest := ccmUpdates hw res.ctx inputs res.world
      { rest with out := res.out ++ rest.out, outputLen := res.outputLen + rest.outputLen }

def ccmStream {κ W : Type} (hw : CcmHw κ W) (ctx : MbedtlsCcmContext κ) (mode : Int)
    (iv : List Byte) (ads inputs : List (List Byte)) (tag : List Byte) (tagLen : Nat) (w : W)
    : CcmResult κ W :=
  let starts := mbedtlsCcmStarts hw ctx mode (some iv) w
  if starts.ret ≠ 0 then
    ⟨starts.ret, starts.ctx, [], tag, starts.world⟩
  else
    let lengths :=
      mbedtlsCcmSetLengths hw starts.ctx ads.flatten.length inputs.flatten.length tagLen starts.world
    if lengths.ret ≠ 0 then
      ⟨lengths.ret, lengths.ctx, [], tag, lengths.world⟩
    else
      let updateAds := ccmUpdateAds hw lengths.ctx ads lengths.world
      if updateAds.ret ≠ 0 then
        ⟨updateAds.ret, updateAds.ctx, [], tag, updateAds.world⟩
      else
        let updates := ccmUpdates hw updateAds.ctx inputs updateAds.world
        if updates.ret ≠ 0 then
          ⟨updates.ret, updates.ctx, updates.out, tag, updates.world⟩
        else
          let finish := mbedtlsCcmFinish hw updates.ctx tag tagLen updates.world
          ⟨finish.ret, finish.ctx, updates.out, finish.tag, finish.world⟩

section

variable {c} {dev : DrvPufsInst}

theorem ccmUpdateAds_device (ads : List (List Byte)) {ctx : MbedtlsCcmContext CcmDeviceCtx}
    {cipher : CcmDeviceCtx} (hstarted : ctx.started = true) (hcipher : ctx.cipher = some cipher)
    : ccmUpdateAds ⟨some dev, c.device⟩ ctx ads ()
        = ⟨0, { ctx with cipher := some { cipher with ad := cipher.ad ++ (ads.map cut32).flatten } },
            ()⟩ := by
  induction ads generalizing ctx cipher with
  | nil =>
    simp only [ccmUpdateAds, List.map_nil, List.flatten_nil, List.append_nil]
    rw [withCcmCipher_self hcipher]
  | cons ad ads ih =>
    unfold ccmUpdateAds
    rw [mbedtlsCcmUpdateAd_device hstarted hcipher]
    dsimp only
    rw [if_neg (by simp)]
    rw [@ih { ctx with cipher := some { cipher with ad := cipher.ad ++ cut32 ad } } _ hstarted rfl]
    simp

theorem ccmUpdates_device (inputs : List (List Byte)) {ctx : MbedtlsCcmContext CcmDeviceCtx}
    {cipher : CcmDeviceCtx} (hstarted : ctx.started = true) (hcipher : ctx.cipher = some cipher)
    : ccmUpdates ⟨some dev, c.device⟩ ctx inputs ()
        = let input := (inputs.map cut32).flatten
          ⟨⟨0, { ctx with cipher := some { cipher with input := cipher.input ++ input } }, ()⟩,
            xorBytes (cipher.keystream c) cipher.input.length input, input.length⟩ := by
  induction inputs generalizing ctx cipher with
  | nil =>
    simp only [ccmUpdates, List.map_nil, List.flatten_nil, List.append_nil, xorBytes]
    rw [withCcmCipher_self hcipher]
    rfl
  | cons input inputs ih =>
    unfold ccmUpdates
    rw [mbedtlsCcmUpdate_device hstarted hcipher]
    dsimp only
    rw [if_neg (by simp)]
    rw [@ih { ctx with cipher := some { cipher with input := cipher.input ++ cut32 input } } _ hstarted
      rfl]
    simp [xorBytes_append, CcmDeviceCtx.keystream, CcmDeviceCtx.key, CcmDeviceCtx.nonce]

end

structure CcmKeyed (ctx : MbedtlsCcmContext CcmDeviceCtx) (key : List Byte) (keybits : UInt32) : Prop
    where
  setkey : ∃ ctx₀ : MbedtlsCcmContext CcmDeviceCtx, mbedtlsCcmSetkey ctx₀ .aes key keybits = .ok ctx
  length : key.length = (keybits / 8).toNat

theorem CcmKeyed.holdsKey {ctx : MbedtlsCcmContext CcmDeviceCtx} {key : List Byte} {keybits : UInt32}
    (h : CcmKeyed ctx key keybits)
    : ctx.hasKey = true ∧ HoldsKey ctx.key ctx.keybits key keybits := by
  obtain ⟨⟨ctx₀, hset⟩, hlen⟩ := h
  unfold mbedtlsCcmSetkey at hset
  rw [if_neg (by simp)] at hset
  by_cases hbits : keybits ≠ 128 ∧ keybits ≠ 192 ∧ keybits ≠ 256
  . rw [if_pos hbits] at hset
    cases hset
  . rw [if_neg hbits] at hset
    injection hset with hset
    subst hset
    exact ⟨rfl, holdsKey_of_setkey hlen hbits⟩

def tagLenAccepted (tagLen : Nat) : Prop :=
  ¬(tagLen = 2 ∨ tagLen % 2 ≠ 0 ∨ tagLen > 16 ∨ tagLen = 0)

/-
The context once nonce and lengths are known, and the operation its hardware is initialised with.
-/
def ccmReady (ctx : MbedtlsCcmContext CcmDeviceCtx) (mode : Int) (nonce : List Byte)
    (adLen textLen tagLen : Nat) : MbedtlsCcmContext CcmDeviceCtx :=
  { ctx with
    mode
    iv := nonce ++ ctx.iv.drop nonce.length
    ivLen := nonce.length
    haveIv := true
    started := false
    haveLengths := true
    totalAdLen := adLen
    plaintextLen := textLen
    tagLen
  }

def ccmReadyOp (ctx : MbedtlsCcmContext CcmDeviceCtx) (mode : Int) (nonce : List Byte)
    (adLen textLen tagLen : Nat) : Sp38cOp :=
  sp38cInitOp (ccmParams (ccmReady ctx mode nonce adLen textLen tagLen)) (UInt64.ofNat adLen)
    (UInt64.ofNat textLen) (UInt32.ofNat tagLen)

section

variable {ctx : MbedtlsCcmContext CcmDeviceCtx} {key : List Byte} {keybits : UInt32}
    (hkeyed : CcmKeyed ctx key keybits) {mode : Int} {nonce : List Byte} (hnonce : 7 ≤ nonce.length)
    (hnonce' : nonce.length ≤ 13) {tagLen : Nat} (htag : tagLenAccepted tagLen) (adLen textLen : Nat)

include hnonce' in
theorem toNat_noncelen : (min (UInt32.ofNat nonce.length) 16).toNat = nonce.length := by
  rw [toNat_min_block]
  rw [UInt32.toNat_ofNat']
  omega

include htag in
theorem toNat_tagLen : (UInt32.ofNat tagLen).toNat = tagLen := by
  unfold tagLenAccepted at htag
  rw [UInt32.toNat_ofNat']
  omega

include hkeyed in
theorem ccmReady_key (input ad : List Byte)
    : CcmDeviceCtx.key ⟨ccmReadyOp ctx mode nonce adLen textLen tagLen, ad, input⟩ = key := by
  have hholds := hkeyed.holdsKey.2
  have hswKey := hholds.swKey_eq
  unfold CcmDeviceCtx.key ccmReadyOp sp38cInitOp ccmParams ccmReady
  dsimp only
  rw [hswKey]
  rw [hholds.keybits_eq, ← hholds.length]
  unfold copyInto
  rw [List.take_length]
  exact List.take_left

include hnonce' in
theorem ccmReady_nonce (input ad : List Byte)
    : CcmDeviceCtx.nonce ⟨ccmReadyOp ctx mode nonce adLen textLen tagLen, ad, input⟩ = nonce := by
  have hlen := toNat_noncelen hnonce'
  unfold CcmDeviceCtx.nonce ccmReadyOp sp38cInitOp ccmParams ccmReady ivBytes ivLen copyInto
  dsimp only
  rw [hlen]
  rw [List.take_left]
  exact List.take_left

include hkeyed hnonce hnonce' htag in
theorem ccmReady_accepts
    : ccmAccepts (ccmReadyOp ctx mode nonce adLen textLen tagLen) = true := by
  have hholds := hkeyed.holdsKey.2
  have hlen := toNat_noncelen hnonce'
  have htagLen := toNat_tagLen htag
  have hvalid := hholds.valid
  unfold tagLenAccepted at htag
  have h4 : 4 ≤ UInt32.ofNat tagLen := by
    rw [UInt32.le_iff_toNat_le, htagLen]
    change 4 ≤ tagLen
    omega
  have h16 : UInt32.ofNat tagLen ≤ 16 := by
    rw [UInt32.le_iff_toNat_le, htagLen]
    change tagLen ≤ 16
    omega
  have h7 : 7 ≤ min (UInt32.ofNat nonce.length) 16 := by
    rw [UInt32.le_iff_toNat_le, hlen]
    exact hnonce
  have h13 : min (UInt32.ofNat nonce.length) 16 ≤ 13 := by
    rw [UInt32.le_iff_toNat_le, hlen]
    exact hnonce'
  simp only [ccmAccepts, ccmReadyOp, sp38cInitOp, ccmParams, ccmReady, ivLen, hholds.keybits_eq,
    decide_eq_true_eq, true_and]
  exact ⟨hvalid, h7, h13, h4, h16⟩

include hkeyed hnonce hnonce' in
theorem mbedtlsCcmStarts_device {W : Type} (hw : CcmHw CcmDeviceCtx W) (w : W)
    (hmode : ccmModeValid mode)
    : mbedtlsCcmStarts hw ctx mode (some nonce) w
        = ⟨0,
            { ctx with
              mode
              iv := nonce ++ ctx.iv.drop nonce.length
              ivLen := nonce.length
              haveIv := true
              started := false
              haveLengths := false
            }, w⟩ := by
  unfold mbedtlsCcmStarts
  dsimp only
  rw [if_neg (by simp [hkeyed.holdsKey.1])]
  rw [if_neg (by simp [hmode])]
  rw [if_neg (by omega)]
  rfl

include hkeyed hnonce hnonce' htag in
theorem mbedtlsCcmSetLengths_device (c : CcmCipher) (dev : DrvPufsInst)
    : mbedtlsCcmSetLengths ⟨some dev, c.device⟩
          { ctx with
            mode
            iv := nonce ++ ctx.iv.drop nonce.length
            ivLen := nonce.length
            haveIv := true
            started := false
            haveLengths := false
          } adLen textLen tagLen ()
        = ⟨0,
            { ccmReady ctx mode nonce adLen textLen tagLen with
              cipher := some ⟨ccmReadyOp ctx mode nonce adLen textLen tagLen, [], []⟩
              started := true
            }, ()⟩ := by
  have haccepts : ccmAccepts (ccmReadyOp ctx mode nonce adLen textLen tagLen) = true :=
    ccmReady_accepts hkeyed hnonce hnonce' htag adLen textLen
  unfold mbedtlsCcmSetLengths
  rw [if_neg htag]
  unfold ccmHwInit
  rw [if_neg (by simp)]
  dsimp only [drvPufsCipherCcmInit, CcmCipher.device]
  unfold ccmReadyOp ccmReady at haccepts
  rw [if_pos haccepts]
  rfl

end

/-
What a message must come to: its text under the keystream, and the tag of all of its additional data
and of its plaintext.
-/
def CcmCipher.crypt (key nonce text : List Byte) : List Byte :=
  xorBytes (c.keystream key nonce) 0 text

def CcmCipher.mac (key nonce : List Byte) (tagLen adLen textLen : Nat) (ad text : List Byte)
    : List Byte :=
  (c.tag key nonce (UInt64.ofNat adLen) (UInt64.ofNat textLen) ad text).1.take tagLen

section

variable {ctx : MbedtlsCcmContext CcmDeviceCtx} {key : List Byte} {keybits : UInt32}
    (hkeyed : CcmKeyed ctx key keybits) {mode : Int} {nonce : List Byte} (hnonce : 7 ≤ nonce.length)
    (hnonce' : nonce.length ≤ 13) {tagLen : Nat} (htag : tagLenAccepted tagLen) (dev : DrvPufsInst)

def CcmStarMode (mode : Int) : Prop :=
  mode = mbedtlsCcmStarEncrypt ∨ mode = mbedtlsCcmStarDecrypt

theorem starEncrypt_starMode : CcmStarMode mbedtlsCcmStarEncrypt :=
  .inl rfl

theorem starDecrypt_starMode : CcmStarMode mbedtlsCcmStarDecrypt :=
  .inr rfl

theorem CcmStarMode.valid (hstar : CcmStarMode mode) : ccmModeValid mode = true := by
  cases hstar with
  | inl h => rw [h]; rfl
  | inr h => rw [h]; rfl

theorem CcmStarMode.ne_encrypt (hstar : CcmStarMode mode) : mode ≠ mbedtlsCcmEncrypt := by
  cases hstar with
  | inl h => rw [h]; decide
  | inr h => rw [h]; decide

theorem ccmMapCipherError_ne_zero {κ : Type} (ctx : MbedtlsCcmContext κ) {ret : Int} (h : ret ≠ 0)
    : ccmMapCipherError ctx ret ≠ 0 := by
  unfold ccmMapCipherError
  rw [if_neg h]
  split
  . decide
  . decide

/-
In either CCM* mode the device has been initialised for a decryption. It takes the input for
ciphertext and compares the tag of what it decrypts to with the contents of the tag buffer.
-/
include hkeyed hnonce' htag in
theorem starFinish_device (hstar : CcmStarMode mode) (adLen textLen : Nat)
    (ad input tag : List Byte)
    : let res :=
        mbedtlsCcmFinish ⟨some dev, c.device⟩
          { ccmReady ctx mode nonce adLen textLen tagLen with
            cipher := some ⟨ccmReadyOp ctx mode nonce adLen textLen tagLen, ad, input⟩
            started := true
          } tag tagLen ()
      (res.ret = 0
          ↔ tag.take tagLen
              = c.mac key nonce tagLen adLen textLen ad (c.crypt key nonce input))
        ∧ res.tag = tag := by
  have hkey :
      CcmDeviceCtx.key ⟨ccmReadyOp ctx mode nonce adLen textLen tagLen, ad, input⟩ = key :=
    ccmReady_key hkeyed adLen textLen input ad
  have hnonceEq :
      CcmDeviceCtx.nonce ⟨ccmReadyOp ctx mode nonce adLen textLen tagLen, ad, input⟩ = nonce :=
    ccmReady_nonce hnonce' adLen textLen input ad
  have hencrypt : (ccmReadyOp ctx mode nonce adLen textLen tagLen).encrypt = false :=
    decide_eq_false hstar.ne_encrypt
  have htagLen : (ccmReadyOp ctx mode nonce adLen textLen tagLen).taglen.toNat = tagLen :=
    toNat_tagLen htag
  have hmac :
      CcmDeviceCtx.tag c ⟨ccmReadyOp ctx mode nonce adLen textLen tagLen, ad, input⟩
        = c.mac key nonce tagLen adLen textLen ad (c.crypt key nonce input) := by
    unfold CcmDeviceCtx.tag CcmDeviceCtx.keystream
    rw [hkey, hnonceEq]
    dsimp only
    rw [hencrypt, htagLen]
    rfl
  intro res
  unfold res
  rw [mbedtlsCcmFinish_device rfl rfl]
  unfold CcmCipher.final
  dsimp only
  rw [hencrypt, htagLen, hmac]
  rw [if_neg (by decide)]
  by_cases heq : tag.take tagLen = c.mac key nonce tagLen adLen textLen ad (c.crypt key nonce input)
  . rw [if_pos heq]
    exact ⟨iff_of_true rfl heq, rfl⟩
  . rw [if_neg heq]
    dsimp only
    apply And.intro
    . apply iff_of_false
      . apply ccmMapCipherError_ne_zero
        decide
      . exact heq
    . rfl

include hkeyed hnonce hnonce' htag in
theorem ccmRunStream_star (hstar : CcmStarMode mode) (ad input tag : List Byte)
    (hinput : input.length < 2 ^ 32)
    : let res := ccmRunStream ⟨some dev, c.device⟩ ctx mode (some nonce) ad input true tag tagLen ()
      (res.ret = 0
          ↔ tag.take tagLen
              = c.mac key nonce tagLen ad.length input.length (cut32 ad) (c.crypt key nonce input))
        ∧ res.out = c.crypt key nonce input
        ∧ res.tag = tag := by
  have hcut : cut32 input = input := by
    unfold cut32
    rw [take_uint32_length hinput]
  have hfinish :=
    starFinish_device c hkeyed hnonce' htag dev hstar ad.length input.length (cut32 ad) input tag
  unfold ccmRunStream
  rw [mbedtlsCcmStarts_device hkeyed hnonce hnonce' _ _ hstar.valid]
  dsimp only
  rw [if_neg (by simp)]
  rw [mbedtlsCcmSetLengths_device hkeyed hnonce hnonce' htag]
  dsimp only
  rw [if_neg (by simp)]
  rw [mbedtlsCcmUpdateAd_device rfl rfl]
  dsimp only
  rw [if_neg (by simp)]
  rw [mbedtlsCcmUpdate_device rfl rfl]
  dsimp only
  rw [if_neg (by simp)]
  rw [hcut, if_neg (by simp)]
  apply And.intro
  . exact hfinish.1
  . apply And.intro
    . unfold CcmDeviceCtx.keystream
      rw [ccmReady_key hkeyed, ccmReady_nonce hnonce']
      rfl
    . exact hfinish.2

theorem map_cut32 {inputs : List (List Byte)} (h : inputs.flatten.length < 2 ^ 32)
    : inputs.map cut32 = inputs := by
  rw [List.map_congr_left, List.map_id]
  intro input hmem
  have hle : input.length ≤ inputs.flatten.length := (List.sublist_flatten_of_mem hmem).length_le
  apply take_uint32_length
  omega

include hkeyed hnonce hnonce' htag in
theorem ccmStream_star (hstar : CcmStarMode mode) (ads inputs : List (List Byte)) (tag : List Byte)
    (hinputs : inputs.flatten.length < 2 ^ 32)
    : let res := ccmStream ⟨some dev, c.device⟩ ctx mode nonce ads inputs tag tagLen ()
      (res.ret = 0
          ↔ tag.take tagLen
              = c.mac key nonce tagLen ads.flatten.length inputs.flatten.length
                  (ads.map cut32).flatten (c.crypt key nonce inputs.flatten))
        ∧ res.out = c.crypt key nonce inputs.flatten
        ∧ res.tag = tag := by
  have hfinish :=
    starFinish_device c hkeyed hnonce' htag dev hstar ads.flatten.length inputs.flatten.length
      (ads.map cut32).flatten inputs.flatten tag
  unfold ccmStream
  rw [mbedtlsCcmStarts_device hkeyed hnonce hnonce' _ _ hstar.valid]
  dsimp only
  rw [if_neg (by simp)]
  rw [mbedtlsCcmSetLengths_device hkeyed hnonce hnonce' htag]
  dsimp only
  rw [if_neg (by simp)]
  rw [ccmUpdateAds_device ads rfl rfl]
  dsimp only
  rw [if_neg (by simp)]
  rw [ccmUpdates_device inputs rfl rfl]
  dsimp only
  rw [if_neg (by simp)]
  rw [map_cut32 hinputs]
  apply And.intro
  . exact hfinish.1
  . apply And.intro
    . unfold CcmDeviceCtx.keystream
      rw [ccmReady_key hkeyed, ccmReady_nonce hnonce']
      rfl
    . exact hfinish.2

theorem CcmCipher.crypt_crypt (key nonce text : List Byte)
    : c.crypt key nonce (c.crypt key nonce text) = text :=
  xorBytes_xorBytes _ 0 text

theorem CcmCipher.length_crypt (key nonce text : List Byte)
    : (c.crypt key nonce text).length = text.length :=
  length_xorBytes _ 0 text

/-
A message encrypted: its ciphertext, and the tag of its additional data and its plaintext.
-/
def CcmCipher.StarEncrypted (key nonce : List Byte) (tagLen : Nat) (ad text : List Byte)
    (res : CcmResult CcmDeviceCtx Unit) : Prop :=
  res.ret = 0
    ∧ res.out = c.crypt key nonce text
    ∧ res.tag.take tagLen = c.mac key nonce tagLen ad.length text.length ad text

def StarDecrypted (text : List Byte) (res : CcmResult CcmDeviceCtx Unit) : Prop :=
  res.ret = 0 ∧ res.out = text

include hkeyed hnonce hnonce' htag in
theorem mbedtlsCcmStarAuthDecrypt_star (ad input tag : List Byte) (hinput : input.length < 2 ^ 32)
    : let res :=
        mbedtlsCcmStarAuthDecrypt ⟨some dev, c.device⟩ ctx (some nonce) ad input true tag tagLen ()
      (res.ret = 0
          ↔ tag.take tagLen
              = c.mac key nonce tagLen ad.length input.length (cut32 ad) (c.crypt key nonce input))
        ∧ (res.ret = 0 → res.out = c.crypt key nonce input) := by
  obtain ⟨hret, hout, _⟩ :=
    ccmRunStream_star c hkeyed hnonce hnonce' htag dev starDecrypt_starMode ad input
      (tag.take tagLen) hinput
  rw [List.take_take, Nat.min_self] at hret
  have hle : ¬tagLen > 16 := by
    unfold tagLenAccepted at htag
    omega
  unfold mbedtlsCcmStarAuthDecrypt ccmAuthDecrypt
  rw [if_neg hle]
  dsimp only
  split
  next hne =>
    apply And.intro
    . exact hret
    . intro hzero
      exact absurd hzero hne
  next =>
    exact ⟨hret, fun _ => hout⟩

theorem starEncrypted_iff {key nonce : List Byte} {tagLen : Nat} {ad text tag mac : List Byte}
    {res : CcmResult CcmDeviceCtx Unit}
    (hres : (res.ret = 0 ↔ tag.take tagLen = mac) ∧ res.out = c.crypt key nonce text ∧ res.tag = tag)
    : c.StarEncrypted key nonce tagLen ad text res
        ↔ tag.take tagLen = c.mac key nonce tagLen ad.length text.length ad text
          ∧ mac = c.mac key nonce tagLen ad.length text.length ad text := by
  obtain ⟨hret, hout, htag⟩ := hres
  unfold CcmCipher.StarEncrypted
  rw [hret, hout, htag]
  constructor
  . intro ⟨heq, _, hmac⟩
    exact ⟨hmac, heq.symm.trans hmac⟩
  . intro ⟨hmac, heq⟩
    exact ⟨hmac.trans heq.symm, rfl, hmac⟩

theorem starDecrypted_iff {text mac tag : List Byte} {res : CcmResult CcmDeviceCtx Unit}
    (hret : res.ret = 0 ↔ tag = mac) (hout : res.ret = 0 → res.out = text)
    : StarDecrypted text res ↔ mac = tag := by
  unfold StarDecrypted
  constructor
  . intro ⟨hzero, _⟩
    exact (hret.mp hzero).symm
  . intro heq
    have hzero := hret.mpr heq.symm
    exact ⟨hzero, hout hzero⟩

include hkeyed hnonce hnonce' htag in
theorem star_roundTrip_iff (ad text buffer : List Byte) (htext : text.length < 2 ^ 32)
    : let hw : CcmHw CcmDeviceCtx Unit := ⟨some dev, c.device⟩
      let mac := c.mac key nonce tagLen ad.length text.length
      let ciphertext := c.crypt key nonce text
      (c.StarEncrypted key nonce tagLen ad text
            (mbedtlsCcmStarEncryptAndTag hw ctx (some nonce) ad text true buffer tagLen ())
          ↔ buffer.take tagLen = mac ad text ∧ mac (cut32 ad) ciphertext = mac ad text)
        ∧ (∀ tag, tag.take tagLen = mac ad text →
            (StarDecrypted text
                (mbedtlsCcmStarAuthDecrypt hw ctx (some nonce) ad ciphertext true tag tagLen ())
              ↔ mac (cut32 ad) text = mac ad text))
        ∧ (∀ ads texts, ads.flatten = ad → texts.flatten = text →
            (c.StarEncrypted key nonce tagLen ad text
                (ccmStream hw ctx mbedtlsCcmStarEncrypt nonce ads texts buffer tagLen ())
              ↔ buffer.take tagLen = mac ad text
                ∧ mac (ads.map cut32).flatten ciphertext = mac ad text))
        ∧ (∀ ads texts tag, ads.flatten = ad → texts.flatten = ciphertext →
            tag.take tagLen = mac ad text →
              (StarDecrypted text
                  (ccmStream hw ctx mbedtlsCcmStarDecrypt nonce ads texts tag tagLen ())
                ↔ mac (ads.map cut32).flatten text = mac ad text)) := by
  intro hw mac ciphertext
  have hlen : ciphertext.length = text.length := c.length_crypt key nonce text
  have hback : c.crypt key nonce ciphertext = text := c.crypt_crypt key nonce text
  refine ⟨?_, ?_, ?_, ?_⟩
  . -- encryption in one call
    apply starEncrypted_iff
    apply ccmRunStream_star c hkeyed hnonce hnonce' htag dev starEncrypt_starMode ad text buffer
      htext
  . -- decryption in one call
    intro tag hmac
    obtain ⟨hret, hout⟩ :=
      mbedtlsCcmStarAuthDecrypt_star c hkeyed hnonce hnonce' htag dev ad ciphertext tag
        (hlen ▸ htext)
    rw [hback, hlen, hmac] at hret
    rw [hback] at hout
    apply starDecrypted_iff hret hout
  . -- encryption in pieces
    intro ads texts had htexts
    subst had htexts
    apply starEncrypted_iff
    apply ccmStream_star c hkeyed hnonce hnonce' htag dev starEncrypt_starMode ads texts buffer
      htext
  . -- decryption in pieces
    intro ads texts tag had htexts hmac
    subst had
    obtain ⟨hret, hout, _⟩ :=
      ccmStream_star c hkeyed hnonce hnonce' htag dev starDecrypt_starMode ads texts tag
        (by rw [htexts, hlen]; exact htext)
    rw [htexts, hback, hlen, hmac] at hret
    rw [htexts, hback] at hout
    apply starDecrypted_iff hret
    intro _
    exact hout

end

/-
A cipher whose tag shows the first bytes of what it covers.
-/
def showingCipher : CcmCipher :=
  {
    keystream := fun _ _ i => BitVec.ofNat 8 (i + 1)
    tag := fun _ _ _ _ ad text => Block.ofList (ad ++ text)
  }

def sevensContext : MbedtlsCcmContext CcmDeviceCtx :=
  { mbedtlsCcmInit with
    key := List.replicate 16 7 ++ List.replicate 16 0
    keybits := 128
    hasKey := true
  }

theorem sevensContext_keyed : CcmKeyed sevensContext (List.replicate 16 7) 128 :=
  ⟨⟨mbedtlsCcmInit, rfl⟩, rfl⟩

theorem oneByte_roundTrip
    : StarDecrypted [9]
        (mbedtlsCcmStarAuthDecrypt ⟨some pufsBufSize, showingCipher.device⟩ sevensContext
          (some (List.replicate 7 0)) [4] [8] true [4, 9, 0, 0] 4 ()) :=
  ((star_roundTrip_iff showingCipher sevensContext_keyed (by decide) (by decide)
      (by unfold tagLenAccepted; decide) pufsBufSize [4] [9] [] (by decide)).2.1 [4, 9, 0, 0]
    (by decide)).mpr (by decide)

theorem oneByte_not_starEncrypted
    : ¬showingCipher.StarEncrypted (List.replicate 16 7) (List.replicate 7 0) 4 [4] [9]
        (mbedtlsCcmStarEncryptAndTag ⟨some pufsBufSize, showingCipher.device⟩ sevensContext
          (some (List.replicate 7 0)) [4] [9] true [0, 0, 0, 0] 4 ()) := by
  intro ⟨hret, _⟩
  have hnonce : (List.replicate 7 (0 : Byte)).length = 7 := List.length_replicate
  have htag : tagLenAccepted 4 := by
    unfold tagLenAccepted
    decide
  have hrun :=
    (ccmRunStream_star showingCipher sevensContext_keyed hnonce.ge (by omega) htag pufsBufSize
      starEncrypt_starMode [4] [9] [0, 0, 0, 0] (by decide)).1
  exact absurd (hrun.mp hret) (by decide)

end Mbedtls

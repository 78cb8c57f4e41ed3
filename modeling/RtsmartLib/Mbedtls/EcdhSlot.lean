import RtsmartLib.Lib.Interleave
import RtsmartLib.Mbedtls.Secp256r1

/-!
This module contains handshakes that share PRK slot 0. Their calls are interleaved at the calls to the
driver, since the lock of the device covers no more than one of these.
-/

namespace Mbedtls

open Lib Pufs

/-
The private key as the context of a handshake stores it, a number or the sentinel, and its public
point.
-/
structure EcdhHandshake where
  d : Nat
  Q : Option EcpPoint
deriving DecidableEq

inductive EcdhRequest where
  | genPublic
  | computeShared (peer : EcpPoint)
deriving DecidableEq

inductive EcdhResult where
  | genPublic (res : Except Errno (Nat × Option EcpPoint))
  | computeShared (res : Except Errno Nat)
deriving DecidableEq

/-
What a handshake took its last product from: the slot, which held its own key or not, or a number.
-/
inductive SecretSource where
  | none
  | slot (held : Bool)
  | number
deriving DecidableEq

inductive KeyPlace where
  | number
  | slot
deriving DecidableEq

/--
The driver and the library, and beside them what no code keeps track of. A handshake holds the slot from
when it read its public point from the slot, or imported its key, until the next generation, import or
clear of anyone. `place` is where `mbedtls_ecdh_gen_public` found its private key.
-/
structure SlotWorld (ι W : Type) where
  world : W
  holds : ι → Bool
  source : ι → SecretSource
  place : ι → KeyPlace

variable {ι W : Type}

def holdsAfter [DecidableEq ι] (i : ι) (op : EcdhOp) (ans : op.Answer) (holds : ι → Bool) : ι → Bool :=
  match op, ans with
  | .eccPrkGen _ _ _, _ => fun _ => false
  | .keyClear _ _ _, _ => fun _ => false
  | .keyImportPlaintext _ _ _ _, .error _ => fun _ => false
  | .keyImportPlaintext _ _ _ _, .ok _ => fun j => j = i
  | .eccPukGen _ _ _, .ok _ => fun j => j = i || holds j
  | _, _ => holds

def sourceAfter (op : EcdhOp) (ans : op.Answer) (held : Bool) (source : SecretSource)
    : SecretSource :=
  match op, ans with
  | .eccCdh _ _ _ _ _, .ok _ => .slot held
  | .ecpMul _ _ _, _ => .number
  | _, _ => source

def placeAfter (op : EcdhOp) (ans : op.Answer) (place : KeyPlace) : KeyPlace :=
  match op, ans with
  | .eccPukGen _ _ _, .ok _ => .slot
  | .ecpGenPrivkey _, .ok _ => .number
  | _, _ => place

/-
A call of handshake `i`.
-/
def slotCall [DecidableEq ι] (lib : EcdhLib W) (i : ι)
    : Callee EcdhOp EcdhOp.Answer (SlotWorld ι W) := fun op s =>
  let (ans, world) := lib.call op s.world
  (ans,
    { world := world
      holds := holdsAfter i op ans s.holds
      source := fun j => if j = i then sourceAfter op ans (s.holds i) (s.source i) else s.source j
      place := fun j => if j = i then placeAfter op ans (s.place i) else s.place j })

def EcdhHandshake.ofGenPublic (res : Except Errno (Nat × Option EcpPoint)) : Option EcdhHandshake :=
  match res with
  | .error _ => none
  | .ok (d, Q) => some ⟨d, Q⟩

def ecdhGroup (ecp : Ecp) (id : EcpGroupId) : EcpGroup :=
  ⟨id, ecp.G id⟩

/--
The handshakes `ι`, of which `i` is on the curve `id i`. A handshake has no key before
`mbedtls_ecdh_gen_public` succeeds.
-/
def ecdhParties [DecidableEq ι] (lib : EcdhLib W) (ecp : Ecp) (dev : Bool) (id : ι → EcpGroupId)
    : Parties ι EcdhRequest (Option EcdhHandshake) (SlotWorld ι W) EcdhOp EcdhOp.Answer
        EcdhResult where
  callee := slotCall lib
  program i request data :=
    match request, data with
    | .genPublic, _ => some ((mbedtlsEcdhGenPublic dev (ecdhGroup ecp (id i))).map .genPublic)
    | .computeShared peer, some handshake =>
      some ((mbedtlsEcdhComputeShared dev (ecdhGroup ecp (id i)) peer handshake.d).map
        .computeShared)
    | .computeShared _, none => none
  finish _ result data :=
    match result with
    | .genPublic res => EcdhHandshake.ofGenPublic res
    | .computeShared _ => data

abbrev EcdhPool (ι W : Type) :=
  Pool ι EcdhRequest (Option EcdhHandshake) (SlotWorld ι W) EcdhOp EcdhOp.Answer EcdhResult

def EcdhPool.init (w : W) : EcdhPool ι W where
  shared := ⟨w, fun _ => false, fun _ => .none, fun _ => .number⟩
  party _ := .idle none

abbrev EcdhServed (ι : Type) :=
  Served ι EcdhRequest (Option EcdhHandshake) EcdhResult

/--
`z` is the secret with `peer` for a private key of the public point that the handshake has given out.
-/
def OwnProduct (ecp : Ecp) (g : EcpGroupId) (handshake : EcdhHandshake) (peer : EcpPoint) (z : Nat)
    : Prop :=
  ∃ k, ecp.mul g k (ecp.G g) = handshake.Q ∧ IsSecret ecp g k peer z

/-
If a secret is returned, it is the handshake's own.
-/
def OwnSecret (ecp : Ecp) (id : ι → EcpGroupId) (served : EcdhServed ι) : Prop :=
  ∀ handshake peer z, served.data = some handshake → served.request = .computeShared peer →
    served.result = .computeShared (.ok z) →
      OwnProduct ecp (id served.party) handshake peer z

/-
The secret was taken from the slot while it held the key of the handshake, or with the private key as
a number.
-/
def KeyKept (i : ι) (s : SlotWorld ι W) : Prop :=
  s.source i = .slot true ∨ (s.source i = .number ∧ s.place i = .number)

/-
What the steps of others leave a handshake with: if it still holds the slot, then with the same key.
-/
structure Keeps (lib : EcdhLib W) (i : ι) (s s' : SlotWorld ι W) : Prop where
  holds : s'.holds i = true → s.holds i = true ∧ lib.slotKey s'.world = lib.slotKey s.world
  place : s'.place i = s.place i

def Interference (lib : EcdhLib W) (i : ι) (s s' : SlotWorld ι W) : Prop :=
  Keeps lib i s s' ∧ s'.source i = s.source i

/--
The private key `k` of a handshake: in the slot as long as that is held, and the number of the handshake
unless that is the sentinel.
-/
structure KeyOk (lib : EcdhLib W) (ecp : Ecp) (dev : Bool) (id : EcpGroupId) (i : ι)
    (handshake : EcdhHandshake) (k : Nat) (s : SlotWorld ι W) : Prop where
  point : ecp.mul id k (ecp.G id) = handshake.Q
  held : s.holds i = true → lib.slotKey s.world = some k
  number : s.place i = .number → handshake.d = k
  slot : s.place i = .slot → handshake.d = ecdhSentinel ∧ dev = true ∧ ecdhFindCurve id ≠ none

def HandshakeOk (lib : EcdhLib W) (ecp : Ecp) (dev : Bool) (id : ι → EcpGroupId) (i : ι)
    (data : Option EcdhHandshake) (s : SlotWorld ι W) : Prop :=
  ((dev = true → ecdhFindCurve (id i) = none) → s.holds i = false)
    ∧ ∀ handshake, data = some handshake → ∃ k, KeyOk lib ecp dev (id i) i handshake k s

section

variable {lib : EcdhLib W} {ecp : Ecp} {dev : Bool} {id : ι → EcpGroupId} {i : ι}
  {s s' : SlotWorld ι W}

theorem Keeps.refl (i : ι) (s : SlotWorld ι W) : Keeps lib i s s := by
  constructor
  . intro h
    exact ⟨h, rfl⟩
  . rfl

theorem Keeps.trans {s'' : SlotWorld ι W} (h : Keeps lib i s s') (h' : Keeps lib i s' s'')
    : Keeps lib i s s'' := by
  constructor
  . intro hholds
    have ⟨hholds', hkey'⟩ := h'.holds hholds
    have ⟨hholds'', hkey⟩ := h.holds hholds'
    exact ⟨hholds'', hkey'.trans hkey⟩
  . exact h'.place.trans h.place

theorem Keeps.not_holds (h : Keeps lib i s s') (hfalse : s.holds i = false)
    : s'.holds i = false := by
  apply Bool.eq_false_iff.mpr
  intro hholds
  rw [(h.holds hholds).1] at hfalse
  cases hfalse

theorem KeyOk.keeps {g : EcpGroupId} {handshake : EcdhHandshake} {k : Nat}
    (hkey : KeyOk lib ecp dev g i handshake k s) (h : Keeps lib i s s')
    : KeyOk lib ecp dev g i handshake k s' := by
  constructor
  . exact hkey.point
  . intro hholds
    have ⟨hholds', hslot⟩ := h.holds hholds
    rw [hslot]
    apply hkey.held hholds'
  . rw [h.place]
    exact hkey.number
  . rw [h.place]
    exact hkey.slot

theorem HandshakeOk.keeps {data : Option EcdhHandshake}
    (hok : HandshakeOk lib ecp dev id i data s) (h : Keeps lib i s s')
    : HandshakeOk lib ecp dev id i data s' := by
  constructor
  . intro hdev
    apply h.not_holds (hok.1 hdev)
  . intro handshake hdata
    obtain ⟨k, hkey⟩ := hok.2 handshake hdata
    exact ⟨k, hkey.keeps h⟩

/-
A handshake whose key is given up.
-/
theorem HandshakeOk.forget {data : Option EcdhHandshake} (h : HandshakeOk lib ecp dev id i data s)
    : HandshakeOk lib ecp dev id i none s := by
  constructor
  . exact h.1
  . intro handshake hdata
    cases hdata

/-
What the steps of others do not touch.
-/
def Stable (lib : EcdhLib W) (i : ι) (A : SlotWorld ι W → Prop) : Prop :=
  ∀ s s', A s → Interference lib i s s' → A s'

theorem handshakeOk_stable (data : Option EcdhHandshake)
    : Stable lib i (HandshakeOk lib ecp dev id i data) := by
  intro s s' h hother
  apply h.keeps hother.1

theorem handshakeOk_none (h : s.holds i = false) : HandshakeOk lib ecp dev id i none s := by
  constructor
  . intro _
    exact h
  . intro handshake hdata
    cases hdata

/-
What `mbedtls_ecdh_compute_shared` leaves behind.
-/
def SharedOk (lib : EcdhLib W) (ecp : Ecp) (dev : Bool) (id : ι → EcpGroupId) (i : ι)
    (handshake : EcdhHandshake) (peer : EcpPoint) (res : Except Errno Nat) (s : SlotWorld ι W)
    : Prop :=
  HandshakeOk lib ecp dev id i (some handshake) s
    ∧ ∀ z, res = .ok z → KeyKept i s → OwnProduct ecp (id i) handshake peer z

theorem SharedOk.error {handshake : EcdhHandshake} {peer : EcpPoint} {errno : Errno}
    (h : HandshakeOk lib ecp dev id i (some handshake) s)
    : SharedOk lib ecp dev id i handshake peer (.error errno) s := by
  constructor
  . exact h
  . intro z hz
    cases hz

/-
A secret that is at hand: it is the handshake's own if its source kept the key.
-/
def AtHand (lib : EcdhLib W) (ecp : Ecp) (dev : Bool) (id : ι → EcpGroupId) (i : ι)
    (handshake : EcdhHandshake) (peer : EcpPoint) (z : Nat) (s : SlotWorld ι W) : Prop :=
  HandshakeOk lib ecp dev id i (some handshake) s
    ∧ (KeyKept i s → OwnProduct ecp (id i) handshake peer z)

theorem atHand_stable (handshake : EcdhHandshake) (peer : EcpPoint) (z : Nat)
    : Stable lib i (AtHand lib ecp dev id i handshake peer z) := by
  intro s s' h hother
  constructor
  . apply h.1.keeps hother.1
  . intro hkept
    apply h.2
    unfold KeyKept at hkept ⊢
    rw [hother.2, hother.1.place] at hkept
    exact hkept

variable [DecidableEq ι]

theorem slotCall_holds (op : EcdhOp)
    : (slotCall lib i op s).2.holds = holdsAfter i op (lib.call op s.world).1 s.holds :=
  rfl

theorem slotCall_source (op : EcdhOp)
    : (slotCall lib i op s).2.source i
        = sourceAfter op (lib.call op s.world).1 (s.holds i) (s.source i) :=
  if_pos rfl

theorem slotCall_place (op : EcdhOp)
    : (slotCall lib i op s).2.place i = placeAfter op (lib.call op s.world).1 (s.place i) :=
  if_pos rfl

/-
The calls after which the key of the handshake may be another.
-/
def EcdhOp.setsKey (op : EcdhOp) : Bool :=
  match op with
  | .keyImportPlaintext _ _ _ _ | .eccPukGen _ _ _ | .ecpGenPrivkey _ => true
  | _ => false

theorem slotCall_holds_imp (hlib : lib.Lawful ecp) {j : ι} {op : EcdhOp}
    (hop : j = i → op.setsKey = false) (h : (slotCall lib i op s).2.holds j = true)
    : s.holds j = true ∧ lib.slotKey (slotCall lib i op s).2.world = lib.slotKey s.world := by
  have hframe := hlib.slotKey op s.world
  rw [slotCall_holds] at h
  revert h
  change _ → _ ∧ lib.slotKey (lib.call op s.world).2 = _
  generalize lib.call op s.world = res at hframe ⊢
  cases op with
  | eccPrkGen ecctype isEphemeral prkslot =>
    intro h
    cases h
  | keyClear keytype keyslot keybits =>
    intro h
    cases h
  | keyImportPlaintext keytype keyslot key keybits =>
    obtain ⟨ans, w⟩ := res
    intro h
    cases ans with
    | error errno => cases h
    | ok _ => cases hop (of_decide_eq_true h)
  | eccPukGen ecctype prktype prkslot =>
    obtain ⟨ans, w⟩ := res
    intro h
    cases ans with
    | error errno => exact ⟨h, hframe rfl⟩
    | ok puk =>
      rcases Bool.or_eq_true_iff.mp h with h | h
      . cases hop (of_decide_eq_true h)
      . exact ⟨h, hframe rfl⟩
  | eccCdh ecctype isEphemeral prkslot puk outlen =>
    intro h
    exact ⟨h, hframe rfl⟩
  | ecpGenPrivkey g =>
    intro h
    exact ⟨h, hframe rfl⟩
  | ecpMul g m P =>
    intro h
    exact ⟨h, hframe rfl⟩
  | mpiGrow =>
    intro h
    exact ⟨h, hframe rfl⟩

theorem keeps_own (hlib : lib.Lawful ecp) {op : EcdhOp} (hop : op.setsKey = false)
    : Keeps lib i s (slotCall lib i op s).2 := by
  constructor
  . apply slotCall_holds_imp hlib
    intro _
    exact hop
  . rw [slotCall_place]
    cases op with
    | eccPukGen ecctype prktype prkslot => cases hop
    | ecpGenPrivkey g => cases hop
    | _ => rfl

theorem interference_other (hlib : lib.Lawful ecp) {j : ι} (hne : j ≠ i) (op : EcdhOp)
    : Interference lib j s (slotCall lib i op s).2 := by
  constructor
  . constructor
    . apply slotCall_holds_imp hlib
      intro heq
      cases hne heq
    . apply if_neg hne
  . apply if_neg hne

theorem interference_own (hlib : lib.Lawful ecp) {op : EcdhOp} (hop : op.setsKey = false)
    (hsource : ∀ ans held source, sourceAfter op ans held source = source)
    : Interference lib i s (slotCall lib i op s).2 := by
  constructor
  . apply keeps_own hlib hop
  . rw [slotCall_source]
    apply hsource

theorem ret_ensures {α : Type} {A : SlotWorld ι W → Prop} {post : α → SlotWorld ι W → Prop}
    {a : α} (hstable : Stable lib i A) (h : A s) (hpost : ∀ s', A s' → post a s')
    : Calls.Ensures (slotCall lib i) (Interference lib i) post (.ret a) s := by
  intro s' hother
  apply hpost
  apply hstable s s' h hother

theorem mpiChk_slot_ensures (hlib : lib.Lawful ecp) {α : Type} {A : SlotWorld ι W → Prop}
    {post : Except Errno α → SlotWorld ι W → Prop} {next : EcdhCalls α} (hstable : Stable lib i A)
    (h : A s) (herror : ∀ errno s', A s' → post (.error errno) s')
    (hnext : ∀ s', A s' → next.Ensures (slotCall lib i) (Interference lib i) post s')
    : (mpiChk next).Ensures (slotCall lib i) (Interference lib i) post s := by
  have hgrow : ∀ s', Interference lib i s s' → A (slotCall lib i .mpiGrow s').2 := by
    intro s' hother
    apply hstable s'
    . apply hstable s s' h hother
    . apply interference_own hlib rfl
      intro ans held source
      rfl
  apply mpiChk_ensures
  . intro errno s' hother
    exact ret_ensures hstable (hgrow s' hother) (herror errno)
  . intro s' hother
    apply hnext
    apply hgrow s' hother

theorem place_genPrivkey {g : EcpGroupId} {d : Nat}
    (h : (slotCall lib i (.ecpGenPrivkey g) s).1 = .ok d)
    : (slotCall lib i (.ecpGenPrivkey g) s).2.place i = .number := by
  change (lib.call _ s.world).1 = _ at h
  rw [slotCall_place, h]
  rfl

theorem place_pukGen {ecctype : EccType} {prktype : KeyType} {prkslot : KeySlot} {puk : EccPuk}
    (h : (slotCall lib i (.eccPukGen ecctype prktype prkslot) s).1 = .ok puk)
    : (slotCall lib i (.eccPukGen ecctype prktype prkslot) s).2.place i = .slot := by
  change (lib.call _ s.world).1 = _ at h
  rw [slotCall_place, h]
  rfl

theorem source_cdh {ecctype : EccType} {isEphemeral : Bool} {prkslot : KeySlot} {puk : EccPuk}
    {outlen : Nat} {shared : List Byte}
    (h : (slotCall lib i (.eccCdh ecctype isEphemeral prkslot puk outlen) s).1 = .ok shared)
    : (slotCall lib i (.eccCdh ecctype isEphemeral prkslot puk outlen) s).2.source i
        = .slot (s.holds i) := by
  change (lib.call _ s.world).1 = _ at h
  rw [slotCall_source, h]
  rfl

theorem source_ecpMul {g : EcpGroupId} {m : Nat} {P : EcpPoint}
    : (slotCall lib i (.ecpMul g m P) s).2.source i = .number := by
  rw [slotCall_source]
  rfl

/-
A private key from the library, while the handshake does not hold the slot.
-/
theorem genPublicSw_ensures (hlib : lib.Lawful ecp) (h : s.holds i = false)
    : (ecdhGenPublicSw (ecdhGroup ecp (id i))).Ensures (slotCall lib i) (Interference lib i)
        (fun res s' => HandshakeOk lib ecp dev id i (EcdhHandshake.ofGenPublic res) s') s := by
  have hnone : Stable lib i (fun s : SlotWorld ι W => s.holds i = false) := by
    intro s s' h hother
    apply hother.1.not_holds h
  intro s₁ h₁
  have hholds₁ := hnone s s₁ h h₁
  have hholds₂ : (slotCall lib i (.ecpGenPrivkey (id i)) s₁).2.holds i = false := hholds₁
  dsimp only [ecdhGroup]
  split
  . refine ret_ensures hnone hholds₂ ?_
    intro s'
    apply handshakeOk_none
  . next d hd =>
    -- from here on the private key is a number, and no step of others gives the handshake the slot
    have hplace₂ := place_genPrivkey hd
    intro s₃ h₃
    have hkeeps : Keeps lib i (slotCall lib i (.ecpGenPrivkey (id i)) s₁).2
        (slotCall lib i (.ecpMul (id i) d (ecp.G (id i))) s₃).2 := by
      apply h₃.1.trans
      apply keeps_own hlib rfl
    have hholds₄ := hkeeps.not_holds hholds₂
    dsimp only
    split
    . refine ret_ensures hnone hholds₄ ?_
      intro s'
      apply handshakeOk_none
    . next Q hQ =>
      have hok : HandshakeOk lib ecp dev id i (some ⟨d, Q⟩)
          (slotCall lib i (.ecpMul (id i) d (ecp.G (id i))) s₃).2 := by
        constructor
        . intro _
          exact hholds₄
        . intro handshake hdata
          cases hdata
          exists d
          constructor
          . exact (hlib.ecpMul _ _ _ _ _ hQ).symm
          . rw [hholds₄]
            intro hfalse
            cases hfalse
          . intro _
            rfl
          . rw [hkeeps.place, hplace₂]
            intro hplace
            cases hplace
      exact ret_ensures (handshakeOk_stable _) hok fun _ hok => hok

/-
After the public point was read from the slot the handshake holds it.
-/
theorem handshakeOk_pukGen (hlib : lib.Lawful ecp) {cm : EcdhCurveEntry} {puk : EccPuk}
    (hcm : ecdhFindCurve (id i) = some cm)
    (h : (slotCall lib i (.eccPukGen cm.pufsId .prkey .prk0) s).1 = .ok puk)
    : HandshakeOk lib ecp true id i
        (some ⟨ecdhSentinel, some ⟨mpiReadBinary puk.x cm.qlen, mpiReadBinary puk.y cm.qlen⟩⟩)
        (slotCall lib i (.eccPukGen cm.pufsId .prkey .prk0) s).2 := by
  have ⟨hmem, hid⟩ := ecdhFindCurve_some hcm
  obtain ⟨k, hk, hmul⟩ := hlib.eccPukGen cm hmem puk s.world h
  rw [hid] at hmul
  constructor
  . intro hdev
    rw [hdev rfl] at hcm
    cases hcm
  . intro handshake hdata
    cases hdata
    exists k
    constructor
    . exact hmul
    . intro _
      exact (hlib.slotKey _ _ rfl).trans hk
    . rw [place_pukGen h]
      intro hplace
      cases hplace
    . intro _
      rw [hcm]
      exact ⟨rfl, rfl, Option.some_ne_none cm⟩

theorem genPublic_ensures (hlib : lib.Lawful ecp) {data : Option EcdhHandshake}
    (h : HandshakeOk lib ecp dev id i data s)
    : (mbedtlsEcdhGenPublic dev (ecdhGroup ecp (id i))).Ensures (slotCall lib i)
        (Interference lib i)
        (fun res s' => HandshakeOk lib ecp dev id i (EcdhHandshake.ofGenPublic res) s') s := by
  unfold mbedtlsEcdhGenPublic
  split
  . next cm hcm =>
    -- a generation or a clear of its own takes the slot from the handshake before the software path
    intro s₁ _
    dsimp only
    split
    . apply genPublicSw_ensures hlib
      rfl
    . intro s₃ _
      dsimp only
      split
      . intro s₅ _
        apply genPublicSw_ensures hlib
        rfl
      . next puk hpuk =>
        change ecdhFindCurve (id i) = some cm at hcm
        have hok := handshakeOk_pukGen hlib hcm hpuk
        have hstable : Stable lib i (fun s => HandshakeOk lib ecp true id i (some ⟨ecdhSentinel,
            some ⟨mpiReadBinary puk.x cm.qlen, mpiReadBinary puk.y cm.qlen⟩⟩) s) := by
          apply handshakeOk_stable
        have herror : ∀ (errno : Errno) s', HandshakeOk lib ecp true id i (some ⟨ecdhSentinel,
            some ⟨mpiReadBinary puk.x cm.qlen, mpiReadBinary puk.y cm.qlen⟩⟩) s' →
              HandshakeOk lib ecp true id i none s' := by
          intro _ s' h'
          apply h'.forget
        refine mpiChk_slot_ensures hlib hstable hok herror fun s₅ h₅ => ?_
        refine mpiChk_slot_ensures hlib hstable h₅ herror fun s₆ h₆ => ?_
        refine mpiChk_slot_ensures hlib hstable h₆ herror fun s₇ h₇ => ?_
        refine mpiChk_slot_ensures hlib hstable h₇ herror fun s₈ h₈ => ?_
        exact ret_ensures hstable h₈ fun _ h' => h'
  . next hsw =>
    apply genPublicSw_ensures hlib
    apply h.1
    intro hdev
    cases hcm : ecdhFindCurve (id i) with
    | none => rfl
    | some cm =>
      cases hsw cm hcm hdev

theorem atHand_ensures (hlib : lib.Lawful ecp) {handshake : EcdhHandshake} {peer : EcpPoint} {z : Nat}
    (h : AtHand lib ecp dev id i handshake peer z s)
    : (mpiChk (.ret (.ok z))).Ensures (slotCall lib i) (Interference lib i)
        (SharedOk lib ecp dev id i handshake peer) s := by
  have hstable : Stable lib i (AtHand lib ecp dev id i handshake peer z) := by
    apply atHand_stable
  refine mpiChk_slot_ensures hlib hstable h (fun _ _ h' => .error h'.1) fun s' h' => ?_
  refine ret_ensures hstable h' ?_
  intro s'' h''
  constructor
  . exact h''.1
  . intro z' hz
    cases hz
    exact h''.2

/-
The product with the number of the handshake is the secret if that number is its private key.
-/
theorem computeSharedSw_ensures (hlib : lib.Lawful ecp) {handshake : EcdhHandshake} {peer : EcpPoint}
    (h : HandshakeOk lib ecp dev id i (some handshake) s)
    : (ecdhComputeSharedSw (ecdhGroup ecp (id i)) peer handshake.d).Ensures (slotCall lib i)
        (Interference lib i) (SharedOk lib ecp dev id i handshake peer) s := by
  have hstable : Stable lib i (HandshakeOk lib ecp dev id i (some handshake)) := by
    apply handshakeOk_stable
  intro s₁ h₁
  have hok₁ := hstable s s₁ h h₁
  have hkeeps : Keeps lib i s₁ (slotCall lib i (.ecpMul (id i) handshake.d peer) s₁).2 :=
    keeps_own hlib rfl
  have hok₂ := hok₁.keeps hkeeps
  dsimp only [ecdhGroup]
  split
  . exact ret_ensures hstable hok₂ fun _ h' => .error h'
  . exact ret_ensures hstable hok₂ fun _ h' => .error h'
  . next P hP =>
    apply atHand_ensures hlib
    constructor
    . exact hok₂
    . intro hkept
      obtain ⟨k, hkey⟩ := hok₂.2 handshake rfl
      unfold KeyKept at hkept
      rw [source_ecpMul] at hkept
      rcases hkept with hkept | ⟨_, hplace⟩
      . cases hkept
      . rw [hkey.number hplace] at hP
        exact ⟨k, hkey.point, P, (hlib.ecpMul _ _ _ _ _ hP).symm, rfl⟩

theorem computeSharedEnd_ensures (hlib : lib.Lawful ecp) {handshake : EcdhHandshake} {peer : EcpPoint}
    {cm : EcdhCurveEntry} {res : Except Errno (List Byte)}
    (h : HandshakeOk lib ecp dev id i (some handshake) s)
    (hok : ∀ shared, res = .ok shared →
      AtHand lib ecp dev id i handshake peer (mpiReadBinary shared cm.qlen) s)
    : (ecdhComputeSharedEnd (ecdhGroup ecp (id i)) cm peer handshake.d res).Ensures (slotCall lib i)
        (Interference lib i) (SharedOk lib ecp dev id i handshake peer) s := by
  cases res with
  | error errno => apply computeSharedSw_ensures hlib h
  | ok shared => apply atHand_ensures hlib (hok shared rfl)

/-
The secret of a CDH is the handshake's own if the handshake held the slot.
-/
theorem atHand_cdh (hlib : lib.Lawful ecp) {handshake : EcdhHandshake} {peer : EcpPoint}
    {cm : EcdhCurveEntry} {shared : List Byte} (hcm : ecdhFindCurve (id i) = some cm)
    (hfits : Fits cm peer) (h : HandshakeOk lib ecp dev id i (some handshake) s)
    (hshared : (slotCall lib i (.eccCdh cm.pufsId true .prk0 (pukOf cm peer) cm.qlen) s).1 = .ok shared)
    : AtHand lib ecp dev id i handshake peer (mpiReadBinary shared cm.qlen)
        (slotCall lib i (.eccCdh cm.pufsId true .prk0 (pukOf cm peer) cm.qlen) s).2 := by
  constructor
  . apply h.keeps
    apply keeps_own hlib rfl
  . intro hkept
    unfold KeyKept at hkept
    rw [source_cdh hshared] at hkept
    rcases hkept with hkept | ⟨hkept, _⟩
    . obtain ⟨k, hkey⟩ := h.2 handshake rfl
      obtain ⟨k', hk', hsecret⟩ := mpiReadBinary_shared hlib hcm hfits hshared
      have hk := hkey.held (SecretSource.slot.inj hkept)
      rw [hk] at hk'
      cases hk'
      exact ⟨k, hkey.point, hsecret⟩
    . cases hkept

theorem computeSharedSlot_ensures (hlib : lib.Lawful ecp) {handshake : EcdhHandshake}
    {peer : EcpPoint} {cm : EcdhCurveEntry} (hcm : ecdhFindCurve (id i) = some cm)
    (hfits : Fits cm peer) (h : HandshakeOk lib ecp dev id i (some handshake) s) (needClear : Bool)
    : (ecdhComputeSharedSlot (ecdhGroup ecp (id i)) cm (pukOf cm peer) peer handshake.d
        needClear).Ensures (slotCall lib i) (Interference lib i)
          (SharedOk lib ecp dev id i handshake peer) s := by
  have hstable : Stable lib i (HandshakeOk lib ecp dev id i (some handshake)) := by
    apply handshakeOk_stable
  intro s₁ h₁
  have hok₁ := hstable s s₁ h h₁
  have hkeeps : Keeps lib i s₁
      (slotCall lib i (.eccCdh cm.pufsId true .prk0 (pukOf cm peer) cm.qlen) s₁).2 :=
    keeps_own hlib rfl
  have hok₂ := hok₁.keeps hkeeps
  cases needClear with
  | false =>
    apply computeSharedEnd_ensures hlib hok₂
    intro shared hshared
    apply atHand_cdh hlib hcm hfits hok₁ hshared
  | true =>
    intro s₃ h₃
    -- the clear of its own key is one more step that a handshake can bear
    have hclear : Interference lib i s₃
        (slotCall lib i (.keyClear .prkey .prk0 (cm.qlen * 8)) s₃).2 := by
      apply interference_own hlib rfl
      intro ans held source
      rfl
    apply computeSharedEnd_ensures hlib
    . apply (hok₂.keeps h₃.1).keeps hclear.1
    . intro shared hshared
      have hhand := atHand_cdh hlib hcm hfits hok₁ hshared
      exact atHand_stable _ _ _ _ _ (atHand_stable _ _ _ _ _ hhand h₃) hclear

/-
If the handshake holds the slot after its import, its key is in there.
-/
theorem keyOk_import (hlib : lib.Lawful ecp) {g : EcpGroupId} {handshake : EcdhHandshake} {k : Nat}
    {keybuf : List Byte} {keybits : Nat} (hd : ¬ecdhIsSentinel handshake.d = true)
    (hkeybuf : valueBE keybuf = handshake.d) (h : KeyOk lib ecp dev g i handshake k s)
    : KeyOk lib ecp dev g i handshake k
        (slotCall lib i (.keyImportPlaintext .prkey .prk0 keybuf keybits) s).2 := by
  have hplace : (slotCall lib i (.keyImportPlaintext .prkey .prk0 keybuf keybits) s).2.place i
      = s.place i := slotCall_place _
  constructor
  . exact h.point
  . rw [slotCall_holds]
    cases hans : (lib.call (.keyImportPlaintext .prkey .prk0 keybuf keybits) s.world).1 with
    | error errno =>
      intro hholds
      cases hholds
    | ok _ =>
      intro _
      have hslot := hlib.keyImportPlaintext keybuf keybits s.world hans
      -- a key that is imported is a number, and so the private key itself
      cases hkey : s.place i with
      | number =>
        rw [hkeybuf, h.number hkey] at hslot
        exact hslot
      | slot =>
        rw [(h.slot hkey).1] at hd
        cases hd ecdhIsSentinel_sentinel
  . rw [hplace]
    exact h.number
  . rw [hplace]
    exact h.slot

theorem computeSharedImport_ensures (hlib : lib.Lawful ecp) {handshake : EcdhHandshake}
    {peer : EcpPoint} {cm : EcdhCurveEntry} (hcm : ecdhFindCurve (id i) = some cm)
    (hfits : Fits cm peer) (hd : ¬ecdhIsSentinel handshake.d = true)
    (h : HandshakeOk lib ecp true id i (some handshake) s)
    : (ecdhComputeSharedImport (ecdhGroup ecp (id i)) cm (pukOf cm peer) peer handshake.d).Ensures
        (slotCall lib i) (Interference lib i) (SharedOk lib ecp true id i handshake peer) s := by
  have hstable : Stable lib i (HandshakeOk lib ecp true id i (some handshake)) := by
    apply handshakeOk_stable
  unfold ecdhComputeSharedImport
  split
  . apply computeSharedSw_ensures hlib h
  split
  . exact ret_ensures hstable h fun _ h' => .error h'
  . next keybuf hkeybuf =>
    have hvalue := valueBE_of_mpiWriteBinary hkeybuf
    intro s₁ h₁
    have hok₂ : HandshakeOk lib ecp true id i (some handshake)
        (slotCall lib i (.keyImportPlaintext .prkey .prk0 keybuf (cm.qlen * 8)) s₁).2 := by
      constructor
      . intro hdev
        rw [hdev rfl] at hcm
        cases hcm
      . intro handshake' hdata
        cases hdata
        obtain ⟨k, hkey⟩ := (hstable s s₁ h h₁).2 handshake rfl
        exact ⟨k, keyOk_import hlib hd hvalue hkey⟩
    dsimp only
    split
    . apply computeSharedSw_ensures hlib hok₂
    . apply computeSharedSlot_ensures hlib hcm hfits hok₂

theorem computeShared_ensures (hlib : lib.Lawful ecp) {handshake : EcdhHandshake} (peer : EcpPoint)
    (h : HandshakeOk lib ecp dev id i (some handshake) s)
    : (mbedtlsEcdhComputeShared dev (ecdhGroup ecp (id i)) peer handshake.d).Ensures
        (slotCall lib i) (Interference lib i) (SharedOk lib ecp dev id i handshake peer) s := by
  refine computeShared_cases
    (motive := fun prog => prog.Ensures (slotCall lib i) (Interference lib i) _ s) ?_ ?_ ?_ ?_
  . intro _
    apply computeSharedSw_ensures hlib h
  . intro cm _ _ _
    exact ret_ensures (handshakeOk_stable _) h fun _ h' => .error h'
  . intro cm _ hcm hfits _
    change ecdhFindCurve (id i) = some cm at hcm
    apply computeSharedSlot_ensures hlib hcm hfits h
  . intro cm hdev hcm hfits hd
    change ecdhFindCurve (id i) = some cm at hcm
    rw [hdev] at h ⊢
    apply computeSharedImport_ensures hlib hcm hfits hd h

theorem ecdhParties_sound (hlib : lib.Lawful ecp) (dev : Bool) (id : ι → EcpGroupId)
    : (ecdhParties lib ecp dev id).Sound (Interference lib) (HandshakeOk lib ecp dev id)
        (fun served s => KeyKept served.party s → OwnSecret ecp id served) := by
  constructor
  . intro i s
    exact ⟨.refl i s, rfl⟩
  . intro i s s' s'' h h'
    exact ⟨h.1.trans h'.1, h'.2.trans h.2⟩
  . intro i j op s hne
    apply interference_other hlib hne.symm
  . intro i data s s' h hother
    apply h.keeps hother.1
  . intro i request data s prog hprog h
    cases request with
    | genPublic =>
      cases hprog
      apply Calls.Ensures.map
      apply (genPublic_ensures hlib h).mono
      intro res s' hok
      constructor
      . exact hok
      . intro _ handshake peer z _ hrequest
        cases hrequest
    | computeShared peer =>
      cases data with
      | none => cases hprog
      | some handshake =>
        cases hprog
        apply Calls.Ensures.map
        apply (computeShared_ensures hlib peer h).mono
        intro res s' hok
        constructor
        . exact hok.1
        . intro hkept handshake' peer' z hdata hrequest hresult
          cases hdata
          cases hrequest
          cases hresult
          apply hok.2 z rfl hkept

end

variable [DecidableEq ι]

/--
However the calls of any number of handshakes are interleaved, a secret that was taken from the slot
while it held the key of its handshake, or with the private key as a number, is the handshake's own.
-/
theorem keptSecret_own {lib : EcdhLib W} {ecp : Ecp} (hlib : lib.Lawful ecp) (dev : Bool)
    (id : ι → EcpGroupId) (w : W) (turns : List (Turn ι EcdhRequest))
    : ∀ v ∈ (ecdhParties lib ecp dev id).machine.visits (EcdhPool.init w) turns,
        Parties.ServesGood (fun served s => KeyKept served.party s → OwnSecret ecp id served) v := by
  apply (ecdhParties_sound hlib dev id).visits
  intro i
  apply handshakeOk_none
  rfl

def secp256r1Parties : Parties Nat EcdhRequest (Option EcdhHandshake) (SlotWorld Nat Engine) EcdhOp
    EcdhOp.Answer EcdhResult :=
  ecdhParties engineLib secp256r1Ecp true fun _ => .secp256r1

/-
Handshake 0 generates its key, reads its public point and has its CDH with the base point. Handshake 1 generates its
own key into the slot before handshake 0 has returned its secret.
-/
def handedOver : List (Turn Nat EcdhRequest) :=
  [.start 0 .genPublic] ++ List.replicate 7 (.go 0) ++ [.start 0 (.computeShared secp256r1G), .go 0]
    ++ [.start 1 .genPublic, .go 1, .go 0]

/-
Then handshake 1 reads its public point and has its CDH.
-/
def takenOver : List (Turn Nat EcdhRequest) :=
  handedOver ++ [.go 0] ++ List.replicate 6 (.go 1) ++ [.start 1 (.computeShared secp256r1G)]
    ++ List.replicate 2 (.go 1)

def servedKept (i k : Nat) : EcdhServed Nat :=
  ⟨i, some ⟨ecdhSentinel, secp256r1Mul k secp256r1G⟩, .computeShared secp256r1G,
    .computeShared ((secp256r1Mul k secp256r1G).elim (.error errEcpBadInputData) (.ok ·.X))⟩

def servedVisit (turns : List (Turn Nat EcdhRequest)) (i : Nat)
    : Machine.Visit (EcdhPool Nat Engine) (Turn Nat EcdhRequest) (Option (EcdhServed Nat)) :=
  secp256r1Parties.machine.visit
    (secp256r1Parties.machine.final (EcdhPool.init ⟨none, [2, 3], false⟩) turns) (.go i)

theorem handedOver_obs : (servedVisit handedOver 0).obs = some (servedKept 0 2) := by
  decide +kernel

theorem handedOver_kept : KeyKept 0 (servedVisit handedOver 0).post.shared := by
  left
  decide +kernel

theorem takenOver_obs : (servedVisit takenOver 1).obs = some (servedKept 1 3) := by
  decide +kernel

theorem takenOver_kept : KeyKept 1 (servedVisit takenOver 1).post.shared := by
  left
  decide +kernel

theorem servedKept_own
    : OwnSecret secp256r1Ecp (fun _ => .secp256r1) (servedKept 0 2)
      ∧ OwnSecret secp256r1Ecp (fun _ => .secp256r1) (servedKept 1 3) := by
  have hown : ∀ turns, ∀ v ∈ secp256r1Parties.machine.visits (EcdhPool.init ⟨none, [2, 3], false⟩) turns,
      Parties.ServesGood (fun served s => KeyKept served.party s →
        OwnSecret secp256r1Ecp (fun _ => .secp256r1) served) v :=
    keptSecret_own engineLib_lawful true (fun _ => .secp256r1) ⟨none, [2, 3], false⟩
  have hvisit : ∀ turns i, servedVisit turns i ∈ secp256r1Parties.machine.visits
      (EcdhPool.init ⟨none, [2, 3], false⟩) (turns ++ [.go i]) := by
    intro turns i
    apply Machine.visit_final_mem
  constructor
  . exact hown _ _ (hvisit handedOver 0) (servedKept 0 2) handedOver_obs handedOver_kept
  . exact hown _ _ (hvisit takenOver 1) (servedKept 1 3) takenOver_obs takenOver_kept

/-
Handshake 0 generates its key and reads its public point, then handshake 1 does, and then handshake 0
computes its secret with the base point.
-/
def overwritten : List (Turn Nat EcdhRequest) :=
  [.start 0 .genPublic] ++ List.replicate 7 (.go 0) ++ [.start 1 .genPublic]
    ++ List.replicate 7 (.go 1) ++ [.start 0 (.computeShared secp256r1G)]
    ++ List.replicate 2 (.go 0)

/-
The keys are 2 and 3, and the secret of handshake 0 is the one for the key of handshake 1.
-/
theorem overwritten_obs
    : (secp256r1Parties.machine.visit
        (secp256r1Parties.machine.final (EcdhPool.init ⟨none, [2, 3], false⟩) overwritten)
        (.go 0)).obs
        = some ⟨0, some ⟨ecdhSentinel, secp256r1Mul 2 secp256r1G⟩, .computeShared secp256r1G,
            .computeShared ((secp256r1Mul 3 secp256r1G).elim (.error errEcpBadInputData)
              (.ok ·.X))⟩ := by
  decide +kernel

theorem overwritten_not_own
    : ∃ v ∈ secp256r1Parties.machine.visits (EcdhPool.init ⟨none, [2, 3], false⟩)
          (overwritten ++ [.go 0]),
        ¬Parties.ServesGood (fun served _ =>
          OwnSecret secp256r1Ecp (fun _ => .secp256r1) served) v := by
  have hkeys : secp256r1Mul 3 secp256r1G ≠ none
      ∧ (secp256r1Mul 3 secp256r1G).map (·.X) ≠ (secp256r1Mul 2 secp256r1G).map (·.X) := by
    decide +kernel
  obtain ⟨P, hP⟩ := Option.ne_none_iff_exists'.mp hkeys.1
  refine ⟨_, Machine.visit_final_mem secp256r1Parties.machine _ overwritten (.go 0), ?_⟩
  intro h
  have hobs := overwritten_obs
  rw [hP] at hobs
  -- a key of the public point gives the public point itself with the base point
  obtain ⟨k, hpoint, R, hR, hz⟩ := h _ hobs _ _ P.X rfl rfl rfl
  rw [secp256r1Ecp_mul] at hR
  have hpoint := (secp256r1Ecp_mul k secp256r1G).symm.trans hpoint
  dsimp only at hpoint
  rw [hR] at hpoint
  apply hkeys.2
  rw [hP, ← hpoint]
  rw [Option.map_some, Option.map_some, hz]

end Mbedtls

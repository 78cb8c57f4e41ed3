import RtsmartLib.Hal.GzipDecomp
import RtsmartLib.Lib.Checked
import RtsmartLib.Lib.PrefixCode

/-!
This module contains the optional fields of a gzip header as sets of strings, and that stripping a header
takes off exactly such fields, without a read at or past the length.
-/

namespace Gzip

open Lib Posix

/-
`FEXTRA`
-/
def extraField : Set (List Byte) :=
  {l | ∃ lo hi data, data.length = lo.toNat + 256 * hi.toNat ∧ l = lo :: hi :: data}

/-
`FHCRC`
-/
def hcrcField : Set (List Byte) :=
  {l | l.length = 2}

/-
What stands between the header and the deflate stream.
-/
def optionalFields (flg : Byte) : Set (List Byte) :=
  thenAll (onlyIf (flg &&& 0x04 ≠ 0) extraField)
    (thenAll (onlyIf (flg &&& 0x08 ≠ 0) (endedBy 0))
      (thenAll (onlyIf (flg &&& 0x10 ≠ 0) (endedBy 0)) (onlyIf (flg &&& 0x02 ≠ 0) hcrcField)))

theorem prefixFree_extraField : PrefixFree extraField := by
  apply prefixFree_of_length
  intro a ha b hb r s heq
  obtain ⟨lo, hi, data, hdata, rfl⟩ := ha
  obtain ⟨lo', hi', data', hdata', rfl⟩ := hb
  simp only [List.cons_append, List.cons.injEq] at heq
  obtain ⟨rfl, rfl, _⟩ := heq
  simp only [List.length_cons, hdata, hdata']

theorem prefixFree_hcrcField : PrefixFree hcrcField := by
  apply prefixFree_of_length
  intro a ha b hb r s _
  exact ha.trans hb.symm

theorem prefixFree_optionalFields (flg : Byte) : PrefixFree (optionalFields flg) := by
  apply (prefixFree_extraField.onlyIf _).thenAll
  apply ((prefixFree_endedBy 0).onlyIf _).thenAll
  apply ((prefixFree_endedBy 0).onlyIf _).thenAll
  exact prefixFree_hcrcField.onlyIf _

theorem optionalFields_zero : optionalFields 0 = {[]} := by
  have hzero : ∀ F G : Set (List Byte), thenAll (onlyIf ((0 : Byte) ≠ 0) F) G = G := by
    intro F G
    rw [onlyIf_neg (by decide)]
    ext l
    simp [thenAll]
  change thenAll (onlyIf ((0 : Byte) ≠ 0) extraField) (thenAll (onlyIf ((0 : Byte) ≠ 0) (endedBy 0))
    (thenAll (onlyIf ((0 : Byte) ≠ 0) (endedBy 0)) (onlyIf ((0 : Byte) ≠ 0) hcrcField))) = _
  rw [hzero, hzero, hzero, onlyIf_neg (by decide)]

/-
How a parser that is at `off` takes a string of `F` off `l`, the bytes from there to the end. It fails
only if no such string starts them.
-/
inductive Skips (F : Set (List Byte)) (l : List Byte) (off : Nat) : Except StripError Nat → Prop where
  | ok {field tail : List Byte} (heq : l = field ++ tail) (hfield : field ∈ F)
    : Skips F l off (.ok (off + field.length))
  | malformed (h : ¬∃ field ∈ F, ∃ tail, l = field ++ tail) : Skips F l off (.error .malformed)

def bytesFrom (buf : Memory) (len off : Nat) : List Byte :=
  readBytes buf off (len - off)

@[simp]
theorem length_bytesFrom (buf : Memory) (len off : Nat) : (bytesFrom buf len off).length = len - off :=
  length_readBytes _ _ _

theorem bytesFrom_cons (buf : Memory) {len off : Nat} (h : off < len)
    : bytesFrom buf len off = buf off :: bytesFrom buf len (off + 1) := by
  unfold bytesFrom
  have hlen : len - off = len - (off + 1) + 1 := by
    omega
  rw [hlen, readBytes_succ]

theorem bytesFrom_end (buf : Memory) {len off : Nat} (h : len ≤ off) : bytesFrom buf len off = [] := by
  unfold bytesFrom
  rw [Nat.sub_eq_zero_of_le h, readBytes_zero]

/-
What is behind a string that starts the bytes from `off` on are the bytes behind its end.
-/
theorem bytesFrom_tail {buf : Memory} {len off : Nat} {field tail : List Byte}
    (h : bytesFrom buf len off = field ++ tail)
    : tail = bytesFrom buf len (off + field.length) := by
  have hdrop : tail = (bytesFrom buf len off).drop field.length := by
    rw [h, List.drop_left]
  rw [hdrop]
  unfold bytesFrom
  rw [drop_readBytes, Nat.sub_sub]

theorem length_le_of_bytesFrom {buf : Memory} {len off : Nat} {field tail : List Byte}
    (h : bytesFrom buf len off = field ++ tail)
    : field.length ≤ len - off := by
  have hlen := congrArg List.length h
  rw [length_bytesFrom, List.length_append] at hlen
  omega

theorem bytesFrom_split (buf : Memory) {len off n : Nat} (h : off + n ≤ len)
    : bytesFrom buf len off = readBytes buf off n ++ bytesFrom buf len (off + n) := by
  have hsplit : len - off = n + (len - (off + n)) := by
    omega
  unfold bytesFrom
  rw [hsplit, readBytes_add]

theorem Skips.of_read {F : Set (List Byte)} {buf : Memory} {len off n : Nat} (h : off + n ≤ len)
    (hmem : readBytes buf off n ∈ F)
    : Skips F (bytesFrom buf len off) off (.ok (off + n)) := by
  have hskip : Skips F _ off _ := Skips.ok (bytesFrom_split buf h) hmem
  rw [length_readBytes] at hskip
  exact hskip

theorem Skips.of_short {F : Set (List Byte)} {buf : Memory} {len off : Nat}
    (h : ∀ field ∈ F, len - off < field.length)
    : Skips F (bytesFrom buf len off) off (.error .malformed) := by
  apply Skips.malformed
  intro ⟨field, hfield, tail, heq⟩
  have hle := length_le_of_bytesFrom heq
  exact absurd (h field hfield) (Nat.not_lt.mpr hle)

theorem Skips.bind {F G : Set (List Byte)} {buf : Memory} {len off : Nat}
    {res : Except StripError Nat} {next : Nat → Except StripError Nat} (hF : PrefixFree F)
    (hle : off ≤ len) (hres : Skips F (bytesFrom buf len off) off res)
    (hnext : ∀ off', off' ≤ len → Skips G (bytesFrom buf len off') off' (next off'))
    : Skips (thenAll F G) (bytesFrom buf len off) off (res >>= next) := by
  cases hres with
  | malformed hno =>
    apply Skips.malformed
    intro ⟨field, hfield, tail, heq⟩
    obtain ⟨a, ha, b, _, rfl⟩ := hfield
    exact hno ⟨a, ha, b ++ tail, by rw [heq, List.append_assoc]⟩
  | @ok a rest heq ha =>
    have hrest := bytesFrom_tail heq
    have hlen := length_le_of_bytesFrom heq
    have hG := hnext (off + a.length) (by omega)
    rw [← hrest] at hG
    rw [ok_bind, heq]
    generalize next (off + a.length) = res at hG ⊢
    cases hG with
    | malformed hno =>
      apply Skips.malformed
      intro ⟨field, hfield, tail, heq'⟩
      obtain ⟨a', ha', b, hb, rfl⟩ := hfield
      rw [List.append_assoc] at heq'
      obtain ⟨_, hrest'⟩ := hF.rest ha ha' heq'
      exact hno ⟨b, hb, tail, hrest'⟩
    | @ok b tail heq' hb =>
      have happ : a ++ rest = (a ++ b) ++ tail := by
        rw [heq', List.append_assoc]
      have hab : a ++ b ∈ thenAll F G := ⟨a, ha, b, hb, rfl⟩
      have hskip : Skips _ _ off _ := Skips.ok happ hab
      rw [List.length_append, ← Nat.add_assoc] at hskip
      exact hskip

theorem Skips.onlyIf {F : Set (List Byte)} {l : List Byte} {off : Nat} {c : Prop} [Decidable c]
    {res : Except StripError Nat} (h : c → Skips F l off res)
    : Skips (onlyIf c F) l off (if c then res else pure off) := by
  by_cases hc : c
  . rw [if_pos hc, onlyIf_pos hc]
    exact h hc
  . rw [if_neg hc, onlyIf_neg hc]
    exact Skips.ok (List.nil_append l).symm (Set.mem_singleton [])

section Steps

variable {buf : Memory} {len off : Nat} (hoff : off ≤ len) (hlen : len < 2 ^ 32)

theorem uint32_of_lt {n : Nat} (h : n < 2 ^ 32) : uint32 n = n :=
  Nat.mod_eq_of_lt h

include hoff hlen in
theorem sub32_of_le : sub32 len off = len - off := by
  unfold sub32
  have hsum : len + 2 ^ 32 - off = len - off + 2 ^ 32 := by
    omega
  rw [hsum, Nat.add_mod_right]
  exact Nat.mod_eq_of_lt (by omega)

theorem readAt_of_lt {n : Nat} (h : n < len) : readAt buf len n = .ok (buf n) := by
  unfold readAt
  rw [if_pos h]

theorem xlen_eq (lo hi : Byte) : lo.toNat ||| hi.toNat <<< 8 = lo.toNat + 256 * hi.toNat := by
  rw [Nat.or_comm, ← Nat.shiftLeft_add_eq_or_of_lt lo.isLt, Nat.shiftLeft_eq]
  omega

theorem readBytes_mem_extraField (buf : Memory) (off : Nat)
    : readBytes buf off ((buf off).toNat + 256 * (buf (off + 1)).toNat + 1 + 1) ∈ extraField := by
  rw [readBytes_succ, readBytes_succ]
  exact ⟨_, _, _, length_readBytes _ _ _, rfl⟩

/-
A field whose data would end behind the bytes.
-/
theorem not_extraField_of_long {buf : Memory} (h : off + 1 < len)
    (hlong : (buf off).toNat + 256 * (buf (off + 1)).toNat > len - (off + 2))
    : ¬∃ field ∈ extraField, ∃ tail, bytesFrom buf len off = field ++ tail := by
  intro ⟨field, hfield, tail, heq⟩
  obtain ⟨lo, hi, data, hdata, rfl⟩ := hfield
  rw [bytesFrom_cons buf (by omega), bytesFrom_cons buf h] at heq
  simp only [List.cons_append, List.cons.injEq] at heq
  obtain ⟨rfl, rfl, heq⟩ := heq
  have hle := length_le_of_bytesFrom heq
  omega

include hoff hlen in
theorem skipExtra_skips : Skips extraField (bytesFrom buf len off) off (skipExtra buf len off) := by
  unfold skipExtra
  rw [sub32_of_le hoff hlen]
  split
  . next hshort =>
    apply Skips.of_short
    intro field hfield
    obtain ⟨lo, hi, data, _, rfl⟩ := hfield
    simp only [List.length_cons]
    omega
  . next hshort =>
    have hone : uint32 (off + 1) = off + 1 := uint32_of_lt (by omega)
    have htwo : uint32 (off + 2) = off + 2 := uint32_of_lt (by omega)
    have hrest : sub32 len (off + 2) = len - (off + 2) := sub32_of_le (by omega) hlen
    rw [hone, readAt_of_lt (by omega), readAt_of_lt (by omega), ok_bind, ok_bind]
    rw [htwo]
    dsimp only
    rw [hrest, xlen_eq]
    split
    . next hlong => exact Skips.malformed (not_extraField_of_long (by omega) hlong)
    . next hfits =>
      have hsum : off + 2 + ((buf off).toNat + 256 * (buf (off + 1)).toNat)
          = off + ((buf off).toNat + 256 * (buf (off + 1)).toNat + 1 + 1) := by
        omega
      rw [uint32_of_lt (by omega), hsum]
      exact Skips.of_read (by omega) (readBytes_mem_extraField buf off)

/-
The loop stops at the first zero, or at the length.
-/
theorem scanString_eq (buf : Memory) {len : Nat} (off steps : Nat) (hsteps : len - off ≤ steps)
    (hoff : off ≤ len) (hlen : len < 2 ^ 32)
    : ∃ s tail,
        scanString buf len steps off = .ok (off + s.length)
          ∧
        bytesFrom buf len off = s ++ tail
          ∧
        0 ∉ s
          ∧
        (tail = [] ∨ ∃ tail', tail = 0 :: tail') := by
  induction steps generalizing off with
  | zero =>
    refine ⟨[], [], rfl, ?_, List.not_mem_nil, .inl rfl⟩
    exact bytesFrom_end buf (by omega)
  | succ steps ih =>
    unfold scanString
    split
    . next hlt =>
      rw [readAt_of_lt hlt, ok_bind]
      rw [uint32_of_lt (by omega), bytesFrom_cons buf hlt]
      split
      . next hne =>
        obtain ⟨s, tail, hscan, heq, hs, htail⟩ := ih (off + 1) (by omega) (by omega)
        refine ⟨buf off :: s, tail, ?_, ?_, ?_, htail⟩
        . rw [hscan, List.length_cons, Nat.add_assoc, Nat.add_comm 1]
        . rw [heq, List.cons_append]
        . rw [List.mem_cons, not_or]
          exact ⟨Ne.symm hne, hs⟩
      . next heq =>
        rw [not_not] at heq
        exact ⟨[], _, rfl, rfl, List.not_mem_nil, .inr ⟨_, by rw [heq]⟩⟩
    . next hge =>
      refine ⟨[], [], rfl, ?_, List.not_mem_nil, .inl rfl⟩
      exact bytesFrom_end buf (by omega)

include hoff hlen in
theorem skipString_skips : Skips (endedBy 0) (bytesFrom buf len off) off (skipString buf len off) := by
  obtain ⟨s, tail, hscan, heq, hs, htail⟩ := scanString_eq buf off (len - off) (Nat.le_refl _) hoff hlen
  unfold skipString
  rw [hscan, ok_bind]
  have hsum := congrArg List.length heq
  rw [length_bytesFrom, List.length_append] at hsum
  obtain rfl | ⟨tail', rfl⟩ := htail
  . rw [List.length_nil] at hsum
    rw [if_pos (by omega)]
    apply Skips.malformed
    intro ⟨field, hfield, tail, hprefix⟩
    rw [List.append_nil] at heq
    rw [heq] at hprefix
    exact not_prefix_endedBy hs ⟨field, hfield, tail, hprefix⟩
  . rw [List.length_cons] at hsum
    rw [if_neg (by omega), uint32_of_lt (by omega)]
    have happ : bytesFrom buf len off = (s ++ [0]) ++ tail' := by
      rw [heq, List.append_assoc]
      rfl
    have hfield : s ++ [0] ∈ endedBy 0 := ⟨s, hs, rfl⟩
    have hskip : Skips _ _ off _ := Skips.ok happ hfield
    rw [List.length_append, List.length_singleton, ← Nat.add_assoc] at hskip
    exact hskip

include hoff hlen in
theorem skipHcrc_skips : Skips hcrcField (bytesFrom buf len off) off (skipHcrc len off) := by
  unfold skipHcrc
  rw [sub32_of_le hoff hlen]
  split
  . next hshort =>
    apply Skips.of_short
    intro field hfield
    have htwo : field.length = 2 := hfield
    omega
  . next hshort =>
    rw [uint32_of_lt (by omega)]
    exact Skips.of_read (by omega) (length_readBytes _ _ _)

end Steps

theorem skipExtras_skips (buf : Memory) {len : Nat} (h10 : 10 ≤ len) (hlen : len < 2 ^ 32) (flg : Byte)
    : Skips (optionalFields flg) (bytesFrom buf len 10) 10 (skipExtras buf len flg) := by
  unfold skipExtras optionalFields
  apply Skips.bind (prefixFree_extraField.onlyIf _) h10
  . apply Skips.onlyIf
    intro _
    exact skipExtra_skips h10 hlen
  . intro off hoff
    apply Skips.bind ((prefixFree_endedBy 0).onlyIf _) hoff
    . apply Skips.onlyIf
      intro _
      exact skipString_skips hoff hlen
    . intro off hoff
      apply Skips.bind ((prefixFree_endedBy 0).onlyIf _) hoff
      . apply Skips.onlyIf
        intro _
        exact skipString_skips hoff hlen
      . intro off hoff
        apply Skips.onlyIf
        intro _
        exact skipHcrc_skips hoff hlen

/-
The stream falls into the optional fields and at least the trailer.
-/
def FieldsFit (flg : Byte) (l fields rest : List Byte) : Prop :=
  l = fields ++ rest ∧ fields ∈ optionalFields flg ∧ 8 ≤ rest.length

theorem FieldsFit.unique {flg : Byte} {l fields rest fields' rest' : List Byte}
    (h : FieldsFit flg l fields rest) (h' : FieldsFit flg l fields' rest')
    : fields = fields' ∧ rest = rest' :=
  (prefixFree_optionalFields flg).rest h.2.1 h'.2.1 (h.1.symm.trans h'.1)

theorem readBytes_stripped (buf : Memory) (rest : List Byte)
    : readBytes (writeBytes 10 rest (writeBytes 3 [0] buf)) 0 (10 + rest.length)
        = (readBytes buf 0 10).set 3 0 ++ rest := by
  rw [readBytes_add, Nat.zero_add, readBytes_writeBytes_self]
  have hapart : Apart 0 10 10 rest.length := .inl (Nat.le_refl _)
  rw [readBytes_writeBytes_apart hapart]
  rfl

theorem set_readBytes_of_zero {buf : Memory} (h : buf 3 = 0)
    : (readBytes buf 0 10).set 3 0 = readBytes buf 0 10 := by
  apply List.ext_getElem (by simp)
  intro i hi hi'
  rw [List.getElem_set]
  split
  . next h3 =>
    subst h3
    simp [readBytes, h]
  . rfl

theorem stripHeaderExtras_of_zero {buf : Memory} {len : Nat} (h3 : 3 < len) (h : buf 3 = 0)
    : drvGzipDecompStripHeaderExtras buf len = .ok (len, buf) := by
  unfold drvGzipDecompStripHeaderExtras
  rw [readAt_of_lt h3]
  dsimp only
  rw [if_pos h]

/-
The stream that is left when the fields have been found, with the rest moved down to the header.
-/
theorem readBytes_moved {buf : Memory} {len : Nat} {fields rest : List Byte}
    (heq : bytesFrom buf len 10 = fields ++ rest)
    : readBytes
          (writeBytes 10 (readBytes (writeBytes 3 [0] buf) (10 + fields.length) rest.length)
            (writeBytes 3 [0] buf))
          0 (10 + rest.length)
        = (readBytes buf 0 10).set 3 0 ++ rest := by
  have hrest := bytesFrom_tail heq
  have hlen : rest.length = len - (10 + fields.length) := by
    rw [hrest, length_bytesFrom]
  have hmoved : readBytes (writeBytes 3 [0] buf) (10 + fields.length) rest.length = rest := by
    rw [readBytes_writeBytes_apart (.inr (by rw [List.length_singleton]; omega)), hlen]
    exact hrest.symm
  rw [hmoved]
  exact readBytes_stripped buf rest

/-
What the function can do with a stream that is long enough for a header and a trailer.
-/
theorem stripHeaderExtras_cases (buf : Memory) {len : Nat} (h18 : 18 ≤ len) (hlen : len < 2 ^ 32)
    : (∃ fields rest buf',
        FieldsFit (buf 3) (bytesFrom buf len 10) fields rest
          ∧
        drvGzipDecompStripHeaderExtras buf len = .ok (10 + rest.length, buf')
          ∧
        readBytes buf' 0 (10 + rest.length) = (readBytes buf 0 10).set 3 0 ++ rest)
        ∨
      ((¬∃ fields rest, FieldsFit (buf 3) (bytesFrom buf len 10) fields rest)
        ∧ drvGzipDecompStripHeaderExtras buf len = .ok (0, buf)) := by
  by_cases hflg : buf 3 = 0
  . left
    have hsum : len = 10 + (bytesFrom buf len 10).length := by
      rw [length_bytesFrom]
      omega
    refine ⟨[], bytesFrom buf len 10, buf, ⟨rfl, ?_, ?_⟩, ?_, ?_⟩
    . rw [hflg, optionalFields_zero]
      rfl
    . rw [length_bytesFrom]
      omega
    . rw [← hsum]
      exact stripHeaderExtras_of_zero (by omega) hflg
    . rw [readBytes_add, set_readBytes_of_zero hflg, length_bytesFrom]
      rfl
  . have hskips := skipExtras_skips buf (by omega) hlen (buf 3)
    unfold drvGzipDecompStripHeaderExtras
    rw [readAt_of_lt (by omega)]
    dsimp only
    rw [if_neg hflg]
    generalize skipExtras buf len (buf 3) = res at hskips
    cases hskips with
    | malformed hno =>
      right
      refine ⟨?_, rfl⟩
      intro ⟨fields, rest, heq, hfields, _⟩
      exact hno ⟨fields, hfields, rest, heq⟩
    | @ok fields rest heq hfields =>
      have hle := length_le_of_bytesFrom heq
      have hsub : sub32 len (10 + fields.length) = rest.length := by
        rw [sub32_of_le (by omega) hlen, bytesFrom_tail heq, length_bytesFrom]
      dsimp only
      rw [hsub]
      split
      . next hshort =>
        right
        refine ⟨?_, rfl⟩
        intro ⟨fields', rest', hfit⟩
        obtain ⟨_, rfl⟩ := (prefixFree_optionalFields _).rest hfields hfit.2.1 (heq.symm.trans hfit.1)
        have h8 := hfit.2.2
        omega
      . next hlong =>
        left
        have hsum := congrArg List.length heq
        rw [length_bytesFrom, List.length_append] at hsum
        rw [if_neg (by omega), uint32_of_lt (by omega)]
        exact ⟨fields, rest, _, ⟨heq, hfields, by omega⟩, rfl, readBytes_moved heq⟩

theorem length_of_validateHeader {src : Input} (h : drvGzipDecompValidateHeader (some src) = 0)
    : 18 ≤ src.bytes.length := by
  unfold drvGzipDecompValidateHeader at h
  dsimp only at h
  split at h
  . exact absurd h (by decide)
  . next hlen =>
    have hlt := src.length_lt
    simp only [Input.len, BitVec.lt_def, BitVec.toNat_ofNat] at hlen
    rw [Nat.mod_eq_of_lt hlt] at hlen
    simpa using hlen

theorem drvGzipDecompStripHeaderExtras_spec (src : Input) (buf : Memory)
    (hbuf : readBytes buf 0 src.bytes.length = src.bytes)
    (hvalid : drvGzipDecompValidateHeader (some src) = 0)
    : ∃ ret buf',
        drvGzipDecompStripHeaderExtras buf src.bytes.length = .ok (ret, buf')
          ∧
        (ret = 0 ↔ ¬∃ fields rest, FieldsFit (src.bytes.getD 3 0) (src.bytes.drop 10) fields rest)
          ∧
        (∀ fields rest, FieldsFit (src.bytes.getD 3 0) (src.bytes.drop 10) fields rest →
          readBytes buf' 0 ret = (src.bytes.take 10).set 3 0 ++ rest)
          ∧
        (ret ≠ 0 → drvGzipDecompStripHeaderExtras buf' ret = .ok (ret, buf')) := by
  have h18 := length_of_validateHeader hvalid
  have hflg : src.bytes.getD 3 0 = buf 3 := by
    rw [← hbuf, getD_readBytes _ _ (by omega)]
  have hdrop : src.bytes.drop 10 = bytesFrom buf src.bytes.length 10 := by
    conv =>
      lhs
      rw [← hbuf]
    rw [drop_readBytes]
    rfl
  have htake : src.bytes.take 10 = readBytes buf 0 10 := by
    conv =>
      lhs
      rw [← hbuf]
    exact take_readBytes _ _ (by omega)
  rw [hflg, hdrop, htake]
  obtain ⟨fields, rest, buf', hfit, hstrip, hread⟩ | ⟨hno, hstrip⟩ :=
    stripHeaderExtras_cases buf h18 src.length_lt
  . refine ⟨_, _, hstrip, ?_, ?_, ?_⟩
    . constructor
      . intro hzero
        omega
      . intro hno
        exact absurd ⟨fields, rest, hfit⟩ hno
    . intro fields' rest' hfit'
      rw [← (hfit.unique hfit').2]
      exact hread
    . intro _
      apply stripHeaderExtras_of_zero (by omega)
      have hget := getD_readBytes buf' 0 (show 3 < 10 + rest.length by omega)
      rw [hread, List.getD_append _ _ _ _ (by simp)] at hget
      simpa using hget.symm
  . refine ⟨_, _, hstrip, ?_, ?_, ?_⟩
    . exact ⟨fun _ => hno, fun _ => rfl⟩
    . intro fields rest hfit
      exact absurd ⟨fields, rest, hfit⟩ hno
    . intro hne
      exact absurd rfl hne

/-
Every optional field is there.
-/
def streamWithFields : Input where
  bytes := [0x1f, 0x8b, 0x09, 0x1e, 0, 0, 0, 0, 0, 3, 2, 0, 7, 7, 97, 0, 98, 99, 0, 1, 2, 5, 193, 0, 0, 0, 0, 5,
    0, 0, 0]
  length_lt := by decide

theorem drvGzipDecompStripHeaderExtras_spec_fields
    : ∃ ret buf',
        drvGzipDecompStripHeaderExtras (writeBytes 0 streamWithFields.bytes (fun _ => 0xff))
            streamWithFields.bytes.length
          = .ok (ret, buf')
          ∧
        (ret ≠ 0 → drvGzipDecompStripHeaderExtras buf' ret = .ok (ret, buf')) := by
  obtain ⟨ret, buf', hstrip, _, _, hagain⟩ := drvGzipDecompStripHeaderExtras_spec streamWithFields
    (writeBytes 0 streamWithFields.bytes (fun _ => 0xff)) (readBytes_writeBytes_self _ _ _) (by decide)
  exact ⟨ret, buf', hstrip, hagain⟩

end Gzip

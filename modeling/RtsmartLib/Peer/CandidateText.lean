import RtsmartLib.Peer.RemoteCandidates

/-!
This module contains the text of a candidate: how an agent writes its own, and that the other side reads from it what
has been written.
-/

namespace Peer

open Lib

section Write

/--
`inet_ntop` for both families.
-/
structure InetNtop where
  inet : List Byte → List Byte
  inet6 : List Byte → List Byte

def addrToString (ntop : InetNtop) (addr : Address) : List Byte :=
  match addr.family with
  | .inet6 => ntop.inet6 addr.sin6Addr
  | .inet => ntop.inet addr.sinAddr
  | .unspec => ntop.inet addr.sinAddr

def iceCandidateTypePreference (type : IceCandidateType) : BitVec 32 :=
  match type with
  | .host => 126
  | .srflx => 100
  | .relay => 40
  | .prflx => 0

/-
A candidate of this side. `raddr` is what is set for one that is not a host's.
-/
def iceCandidateCreate (foundation : Nat) (type : IceCandidateType) (addr raddr : Address) : RemoteCandidate where
  candidate :=
    ⟨type, iceCandidateTypePreference type <<< 24 + addr.port.setWidth 32 <<< 8 + (256 - 1), addr⟩
  foundation := decimalText foundation
  component := 1
  transport := ascii "UDP"
  raddr := raddr

def relatedText (ntop : InetNtop) (raddr : Address) : List Byte :=
  ascii " raddr " ++ (addrToString ntop raddr ++ (ascii " rport " ++ decimalText raddr.port.toNat))

def typRaddr (ntop : InetNtop) (type : IceCandidateType) (raddr : Address) : List Byte :=
  match type with
  | .host => ascii "host"
  | .srflx => ascii "srflx" ++ relatedText ntop raddr
  | .relay => ascii "relay" ++ relatedText ntop raddr
  | .prflx => []

/-
The text of a candidate whose component is not negative.
-/
def candidateLine (ntop : InetNtop) (written : RemoteCandidate) : List Byte :=
  ascii "a=candidate:" ++ (written.foundation
    ++ 0x20 :: (decimalText written.component.toNat
    ++ 0x20 :: (written.transport
    ++ 0x20 :: (decimalText written.candidate.priority.toNat
    ++ 0x20 :: (addrToString ntop written.candidate.addr
    ++ 0x20 :: (decimalText written.candidate.addr.port.toNat
    ++ 0x20 :: (ascii "typ"
    ++ 0x20 :: typRaddr ntop written.candidate.type written.raddr)))))))

/-
`snprintf` of the line with its end.
-/
def iceCandidateToDescription (ntop : InetNtop) (written : RemoteCandidate) (length : Nat) : List Byte :=
  (candidateLine ntop written ++ lineEnd.word).take (length - 1)

/-
Every line is written into what the lines before it have left of the buffer.
-/
def agentGetLocalDescription (ntop : InetNtop) (localCandidates : List RemoteCandidate) (length : Nat) : List Byte :=
  localCandidates.foldl
    (fun description written =>
      description ++ iceCandidateToDescription ntop written (length - description.length))
    []

end Write

section Search

/-
The names of the types have an `r`, but none at which the search stops.
-/
theorem strstr?_raddr {name : List Byte} (hname : name = ascii "srflx" ∨ name = ascii "relay") (text : List Byte)
    : strstr? (name ++ (ascii " raddr " ++ text)) (ascii "raddr") = some (ascii "raddr " ++ text) := by
  cases hname with
  | inl hsrflx =>
    rw [hsrflx]
    rfl
  | inr hrelay =>
    rw [hrelay]
    rfl

theorem strstr?_rport {name : List Byte} (hname : name = ascii "srflx" ∨ name = ascii "relay") (text : List Byte)
    : strstr? (name ++ (ascii " raddr " ++ text)) (ascii "rport") = strstr? text (ascii "rport") := by
  cases hname with
  | inl hsrflx =>
    rw [hsrflx]
    rfl
  | inr hrelay =>
    rw [hrelay]
    rfl

end Search

section Read

def isAddrChar (c : Byte) : Bool :=
  isDigit c || 0x61 ≤ c && c ≤ 0x66 || c = 0x2e || c = 0x3a

/-
What is read of an address: the bytes of its family.
-/
def Address.onto (addr base : Address) : Address :=
  match addr.family with
  | .inet6 =>
    { base with family := .inet6, sin6Addr := addr.sin6Addr, length_sin6Addr := addr.length_sin6Addr }
  | .inet => { base with family := .inet, sinAddr := addr.sinAddr, length_sinAddr := addr.length_sinAddr }
  | .unspec => { base with family := .inet, sinAddr := addr.sinAddr, length_sinAddr := addr.length_sinAddr }

/--
`inet_pton` reads what `inet_ntop` has written of an address, which is hexadecimal digits, dots and colons that fit
into `ADDRSTRLEN`.
-/
structure Legible (pton : InetPton) (ntop : InetNtop) (addr : Address) : Prop where
  inet : addr.family ≠ .inet6 → (pton.inet (ntop.inet addr.sinAddr)).map Vector.toList = some addr.sinAddr
  inet6 : addr.family = .inet6 → pton.inet (ntop.inet6 addr.sin6Addr) = none
    ∧ (pton.inet6 (ntop.inet6 addr.sin6Addr)).map Vector.toList = some addr.sin6Addr
  nonempty : addrToString ntop addr ≠ []
  length : (addrToString ntop addr).length < addrStrLen
  chars : ∀ c ∈ addrToString ntop addr, isAddrChar c = true

variable {pton : InetPton} {ntop : InetNtop} {addr raddr : Address}

theorem addrFromString_inet {text : List Byte} (h : (pton.inet text).map Vector.toList = some addr.sinAddr)
    (base : Address)
    : addrFromString pton text base
      = some { base with family := .inet, sinAddr := addr.sinAddr, length_sinAddr := addr.length_sinAddr } := by
  rw [Option.map_eq_some_iff] at h
  obtain ⟨bytes, hread, hbytes⟩ := h
  simp only [addrFromString, hread, hbytes]

theorem addrFromString_legible (h : Legible pton ntop addr) (base : Address)
    : addrFromString pton (addrToString ntop addr) base = some (addr.onto base) := by
  have hinet := h.inet
  have hinet6 := h.inet6
  unfold addrToString Address.onto
  cases hfamily : addr.family with
  | unspec => exact addrFromString_inet (hinet (by simp [hfamily])) base
  | inet => exact addrFromString_inet (hinet (by simp [hfamily])) base
  | inet6 =>
    obtain ⟨hnot, hread⟩ := hinet6 hfamily
    rw [Option.map_eq_some_iff] at hread
    obtain ⟨bytes, hread, hbytes⟩ := hread
    simp only [addrFromString, hnot, hread, Option.map_some, hbytes]

/-
An address has no space, no `r` or `l`, and nothing that ends the line or the string.
-/
theorem solid_of_isAddrChar {c : Byte} (h : isAddrChar c = true)
    : isSpace c = false ∧ c ≠ 0x72 ∧ c ≠ 0x6c ∧ c ≠ 0 ∧ c ≠ 0x0d := by
  have hall : ∀ c : Byte, isAddrChar c = true → isSpace c = false ∧ c ≠ 0x72 ∧ c ≠ 0x6c ∧ c ≠ 0 ∧ c ≠ 0x0d := by
    decide
  exact hall c h

theorem isAddrChar_of_isDigit {c : Byte} (h : isDigit c = true) : isAddrChar c = true := by
  simp [isAddrChar, h]

theorem Legible.word (h : Legible pton ntop addr) : WordText (addrToString ntop addr) where
  nonempty := h.nonempty
  solid c hc := (solid_of_isAddrChar (h.chars c hc)).1

theorem setWidth_port (port : BitVec 16)
    : (BitVec.ofNat 32 port.toNat).toNat ≤ 0xffff ∧ (BitVec.ofNat 32 port.toNat).setWidth 16 = port := by
  have hport := port.isLt
  constructor
  . rw [BitVec.toNat_ofNat]
    omega
  . apply BitVec.eq_of_toNat_eq
    rw [BitVec.toNat_setWidth, BitVec.toNat_ofNat]
    omega

theorem cString_append_zero {text : List Byte} (h : ∀ c ∈ text, c ≠ 0) (rest : List Byte)
    : cString (text ++ 0 :: rest) = text := by
  apply takeWhile_word
  . intro c hc
    exact decide_eq_true (h c hc)
  . intro c hc
    rw [← Option.some.inj hc]
    rfl

theorem behindWord_append {word text : List Byte} (hword : word.length = 6) (htext : ∀ c ∈ text, c ≠ 0)
    (behind : List Byte)
    : behindWord (word ++ text) behind = text := by
  rw [behindWord, List.append_assoc, ← hword, List.drop_left, cString_append_zero htext]

/-
The related address is found behind the name of the type, whatever stands in front of it without an `r`.
-/
theorem relatedAddress_written (h : Legible pton ntop raddr) {before name : List Byte} (hbefore : 0x72 ∉ before)
    (hname : name = ascii "srflx" ∨ name = ascii "relay") (behind : List Byte) (family : AddrFamily)
    : relatedAddress pton (before ++ (name ++ relatedText ntop raddr)) behind family
      = some { raddr.onto default with family := family, port := raddr.port } := by
  have hraddr : 0x72 ∉ addrToString ntop raddr := by
    intro hmem
    exact (solid_of_isAddrChar (h.chars _ hmem)).2.1 rfl
  have hrport : strstr? (ascii " rport " ++ decimalText raddr.port.toNat) (ascii "rport")
      = some (ascii "rport " ++ decimalText raddr.port.toNat) := rfl
  have hscan : scanWord (addrStrLen - 1) (addrToString ntop raddr ++ (ascii " rport " ++ decimalText raddr.port.toNat))
      = some (addrToString ntop raddr, ascii " rport " ++ decimalText raddr.port.toNat) := by
    apply scanWord_word h.word
    . exact Nat.le_sub_one_of_lt h.length
    . intro c hc
      have hspace : c = 0x20 := (Option.some.inj hc).symm
      rw [hspace]
      decide
  have hnumber := @scanNumber_decimalText raddr.port.toNat [] (by simp)
  rw [List.append_nil] at hnumber
  have hport : ∀ c ∈ decimalText raddr.port.toNat, c ≠ 0 := by
    intro c hc
    exact (solid_of_isAddrChar (isAddrChar_of_isDigit (isDigit_decimalText hc))).2.2.2.1
  have htext : ∀ c ∈ addrToString ntop raddr ++ (ascii " rport " ++ decimalText raddr.port.toNat), c ≠ 0 := by
    have hword : ∀ c ∈ ascii " rport ", c ≠ 0 := by decide
    simp only [List.forall_mem_append]
    exact ⟨fun c hc => (solid_of_isAddrChar (h.chars c hc)).2.2.2.1, hword, hport⟩
  unfold relatedAddress relatedText
  -- Both searches begin at the start of the line, the second one passes the first word.
  rw [strstr?_skip rfl hbefore, strstr?_skip rfl hbefore]
  rw [strstr?_raddr hname, strstr?_rport hname, strstr?_skip rfl hraddr, hrport]
  dsimp only
  -- There is text behind both words, so that nothing is read from behind the line.
  rw [behindWord_append rfl hport, behindWord_append rfl htext, hscan]
  dsimp only
  rw [addrFromString_legible h, Option.map_some, hnumber]
  dsimp only
  rw [if_neg (Nat.not_lt.mpr (setWidth_port raddr.port).1), (setWidth_port raddr.port).2]

end Read

section Candidate

/-
What stands in front of the type.
-/
def candidateHead (ntop : InetNtop) (written : RemoteCandidate) : List Byte :=
  written.foundation
    ++ 0x20 :: (decimalText written.component.toNat
    ++ 0x20 :: (written.transport
    ++ 0x20 :: (decimalText written.candidate.priority.toNat
    ++ 0x20 :: (addrToString ntop written.candidate.addr
    ++ 0x20 :: (decimalText written.candidate.addr.port.toNat
    ++ 0x20 :: (ascii "typ" ++ [0x20]))))))

theorem candidateLine_eq (ntop : InetNtop) (written : RemoteCandidate)
    : candidateLine ntop written
      = ascii "a=candidate:" ++ (candidateHead ntop written ++ typRaddr ntop written.candidate.type written.raddr) := by
  simp [candidateLine, candidateHead]

theorem ends_space (text : List Byte) : Ends (0x20 :: text) := by
  intro c hc
  rw [← Option.some.inj hc]
  decide

theorem scanNumber_space_decimalText {n : Nat} (text : List Byte)
    : scanNumber (0x20 :: (decimalText n ++ 0x20 :: text)) = some (BitVec.ofNat 32 n, 0x20 :: text) := by
  rw [scanNumber_space]
  apply scanNumber_decimalText
  intro c hc
  rw [← Option.some.inj hc]
  decide

/-
The name of a type, with what `%15s` leaves of the text behind it.
-/
structure TypeName (type : IceCandidateType) (name : List Byte) : Prop where
  word : WordText name
  length : name.length ≤ 15
  read : candidateType name = some type

theorem exists_typeName {type : IceCandidateType} (htype : type ≠ .prflx) (ntop : InetNtop) (raddr : Address)
    : ∃ name rest, TypeName type name ∧ typRaddr ntop type raddr = name ++ rest ∧ Ends rest := by
  cases type with
  | host =>
    refine ⟨ascii "host", [], ⟨⟨by decide, by decide⟩, by decide, by decide⟩, ?_, ?_⟩
    . rw [typRaddr, List.append_nil]
    . intro c hc
      contradiction
  | srflx =>
    refine ⟨ascii "srflx", relatedText ntop raddr, ⟨⟨by decide, by decide⟩, by decide, by decide⟩, rfl, ?_⟩
    exact ends_space _
  | relay =>
    refine ⟨ascii "relay", relatedText ntop raddr, ⟨⟨by decide, by decide⟩, by decide, by decide⟩, rfl, ?_⟩
    exact ends_space _
  | prflx => contradiction

variable {pton : InetPton} {ntop : InetNtop} {written : RemoteCandidate}

/--
What is needed of a candidate to be read back.
-/
structure Writable (pton : InetPton) (ntop : InetNtop) (written : RemoteCandidate) : Prop where
  foundation : ∃ n < 10 ^ 10, written.foundation = decimalText n
  component : 0 < written.component.toNat ∧ written.component.toNat ≤ 256
  transport : written.transport = ascii "UDP"
  type : written.candidate.type ≠ .prflx
  addr : Legible pton ntop written.candidate.addr
  raddr : written.candidate.type ≠ .host → Legible pton ntop written.raddr

theorem Writable.word_foundation (h : Writable pton ntop written)
    : WordText written.foundation ∧ written.foundation.length ≤ 10 ∧ ∀ c ∈ written.foundation, isDigit c = true := by
  obtain ⟨n, hn, hfoundation⟩ := h.foundation
  rw [hfoundation]
  exact ⟨word_decimalText n, length_decimalText (by decide) hn, fun c hc => isDigit_decimalText hc⟩

theorem scanCandidate_written (h : Writable pton ntop written) {name : List Byte}
    (hname : TypeName written.candidate.type name) {rest : List Byte} (hrest : Ends rest)
    : scanCandidate (candidateHead ntop written ++ (name ++ rest))
      = some ⟨written.foundation, written.component, written.transport, written.candidate.priority,
        addrToString ntop written.candidate.addr, BitVec.ofNat 32 written.candidate.addr.port.toNat, name⟩ := by
  obtain ⟨hword, hlength, _⟩ := h.word_foundation
  have htransport : WordText written.transport ∧ written.transport.length ≤ 32 := by
    rw [h.transport]
    exact ⟨⟨by decide, by decide⟩, by decide⟩
  have htyp : ∀ text, skipSpaces (0x20 :: (ascii "typ" ++ text)) = ascii "typ" ++ text := fun _ => rfl
  simp only [scanCandidate, candidateHead, List.append_assoc, List.cons_append, List.nil_append]
  rw [scanWord_word hword (by omega) (ends_space _)]
  simp only [Option.bind_eq_bind, Option.bind_some]
  rw [scanNumber_space_decimalText]
  simp only [Option.bind_some]
  rw [scanWord_space, scanWord_word htransport.1 htransport.2 (ends_space _)]
  simp only [Option.bind_some]
  rw [scanNumber_space_decimalText]
  simp only [Option.bind_some]
  rw [scanWord_space, scanWord_word h.addr.word (Nat.le_sub_one_of_lt h.addr.length) (ends_space _)]
  simp only [Option.bind_some]
  rw [scanNumber_space_decimalText]
  simp only [Option.bind_some]
  rw [htyp, scanLiteral_append]
  simp only [Option.bind_some]
  rw [scanWord_space, scanWord_word hname.word hname.length hrest]
  simp only [Option.bind_some, BitVec.ofNat_toNat, BitVec.setWidth_eq]
  rfl

theorem not_mem_candidateHead (h : Writable pton ntop written) : 0x72 ∉ candidateHead ntop written := by
  have hdigits : ∀ text : List Byte, (∀ c ∈ text, isDigit c = true) → 0x72 ∉ text := by
    intro text htext hmem
    exact absurd (htext 0x72 hmem) (by decide)
  have hdecimal : ∀ n, 0x72 ∉ decimalText n := fun n => hdigits _ fun c hc => isDigit_decimalText hc
  have haddr : 0x72 ∉ addrToString ntop written.candidate.addr := by
    intro hmem
    exact (solid_of_isAddrChar (h.addr.chars _ hmem)).2.1 rfl
  have htransport : 0x72 ∉ written.transport := by
    rw [h.transport]
    decide
  have htyp : 0x72 ∉ ascii "typ" ++ [0x20] := by decide
  simp only [candidateHead, List.mem_append, List.mem_cons, hdigits _ h.word_foundation.2.2, hdecimal, haddr,
    htransport, false_or, not_or] at htyp ⊢
  exact ⟨by decide, by decide, by decide, by decide, by decide, by decide, htyp⟩

theorem length_typRaddr (h : Writable pton ntop written)
    : (typRaddr ntop written.candidate.type written.raddr).length ≤ 100 := by
  have hrelated : written.candidate.type ≠ .host → (relatedText ntop written.raddr).length ≤ 90 := by
    intro hhost
    have haddr := (h.raddr hhost).length
    have hport := @length_decimalText written.raddr.port.toNat 5 (by decide) (by omega)
    have hlength : (relatedText ntop written.raddr).length
        = 7 + ((addrToString ntop written.raddr).length + (7 + (decimalText written.raddr.port.toNat).length)) := by
      simp only [relatedText, List.length_append]
      rfl
    unfold addrStrLen at haddr
    omega
  cases htype : written.candidate.type with
  | host => exact Nat.le_of_ble_eq_true rfl
  | srflx =>
    have hlength := hrelated (by simp [htype])
    rw [typRaddr, List.length_append]
    have hname : (ascii "srflx").length = 5 := rfl
    omega
  | relay =>
    have hlength := hrelated (by simp [htype])
    rw [typRaddr, List.length_append]
    have hname : (ascii "relay").length = 5 := rfl
    omega
  | prflx => exact Nat.zero_le _

theorem length_candidateHead (h : Writable pton ntop written) : (candidateHead ntop written).length ≤ 100 := by
  have hcomponent := @length_decimalText written.component.toNat 10 (by decide) (by omega)
  have hpriority := @length_decimalText written.candidate.priority.toNat 10 (by decide) (by omega)
  have hport := @length_decimalText written.candidate.addr.port.toNat 5 (by decide) (by omega)
  have haddr := h.addr.length
  have hfoundation := h.word_foundation.2.1
  have htransport : written.transport.length = 3 := by
    rw [h.transport]
    rfl
  have htyp : (ascii "typ").length = 3 := rfl
  unfold addrStrLen at haddr
  simp only [candidateHead, List.length_append, List.length_cons, List.length_nil]
  omega

/-
What the other side has of a candidate: the bytes of the other family are not there, and the related address has the
family of the candidate, whatever its own is.
-/
def RemoteCandidate.readBack (written : RemoteCandidate) : RemoteCandidate :=
  let addr := written.candidate.addr.onto { (default : Address) with port := written.candidate.addr.port }
  { written with
      candidate := { written.candidate with addr := addr }
      raddr :=
        if written.candidate.type = .host then default
        else { written.raddr.onto default with family := addr.family, port := written.raddr.port } }

theorem relatedAddress_typRaddr (h : Writable pton ntop written) (behind : List Byte) (family : AddrFamily)
    : (if written.candidate.type = .srflx ∨ written.candidate.type = .relay then
          relatedAddress pton
            (candidateHead ntop written ++ typRaddr ntop written.candidate.type written.raddr) behind family
        else some default)
      = some (if written.candidate.type = .host then default
        else { written.raddr.onto default with family := family, port := written.raddr.port }) := by
  have hhead := not_mem_candidateHead h
  have hraddr := h.raddr
  have htype := h.type
  cases hcase : written.candidate.type with
  | host => rfl
  | srflx => exact relatedAddress_written (hraddr (by simp [hcase])) hhead (.inl rfl) behind family
  | relay => exact relatedAddress_written (hraddr (by simp [hcase])) hhead (.inr rfl) behind family
  | prflx => contradiction

theorem iceCandidateFromDescription_written (h : Writable pton ntop written) (behind : List Byte)
    : iceCandidateFromDescription pton (candidateLine ntop written) behind = some written.readBack := by
  obtain ⟨name, rest, hname, htypRaddr, hrest⟩ := exists_typeName h.type ntop written.raddr
  let text := candidateHead ntop written ++ typRaddr ntop written.candidate.type written.raddr
  have hdescription : candidateLine ntop written = ascii "a=" ++ (ascii "candidate:" ++ text) :=
    candidateLine_eq ntop written
  have hlength : (ascii "a=" ++ (ascii "candidate:" ++ text)).length = 12 + text.length := by
    rw [List.length_append, List.length_append, ← Nat.add_assoc]
    rfl
  have htext : text.length ≤ 200 := by
    have hhead := length_candidateHead h
    have htail := length_typRaddr h
    simp only [text, List.length_append]
    omega
  have hscan := scanCandidate_written h hname hrest
  rw [← htypRaddr] at hscan
  change scanCandidate text = _ at hscan
  -- An address has no `l`, so that it is not taken for a name of the local network.
  have hlocal : ¬ascii "local" <:+: addrToString ntop written.candidate.addr := by
    intro hwithin
    have hmem : 0x6c ∈ addrToString ntop written.candidate.addr := hwithin.subset (by decide)
    exact (solid_of_isAddrChar (h.addr.chars _ hmem)).2.2.1 rfl
  have hcomponent : written.component.toInt = written.component.toNat :=
    BitVec.toInt_eq_toNat_of_lt (by have := h.component.2; omega)
  have hchecks : ¬(written.component.toInt ≤ 0 ∨ written.component.toInt > 256
      ∨ (BitVec.ofNat 32 written.candidate.addr.port.toNat).toNat > 0xffff) := by
    have hport := (setWidth_port written.candidate.addr.port).1
    have hbounds := h.component
    omega
  have hudp : ascii "UDP" <+: written.transport := by
    rw [h.transport]
  have hdrop : ∀ text, (ascii "a=" ++ text).drop 2 = text := fun _ => rfl
  rw [hdescription, iceCandidateFromDescription]
  rw [if_neg (by unfold candidateLineSize; omega), if_pos (List.prefix_append _ _), hdrop]
  dsimp only
  rw [scanLiteral_append]
  dsimp only
  rw [hscan]
  dsimp only
  rw [if_neg hchecks, if_neg (fun hnot => hnot.1 hudp), hname.read]
  dsimp only
  rw [if_neg hlocal, (setWidth_port written.candidate.addr.port).2, addrFromString_legible h.addr]
  dsimp only
  rw [relatedAddress_typRaddr h, Option.map_some]
  rfl

end Candidate

section Description

/-
Text that is in one line and one string.
-/
def LineText (text : List Byte) : Prop :=
  ∀ c ∈ text, c ≠ 0 ∧ c ≠ 0x0d

instance (text : List Byte) : Decidable (LineText text) :=
  inferInstanceAs (Decidable (∀ c ∈ text, _))

def unlines (lines : List (List Byte)) : List Byte :=
  lines.flatMap fun line => line ++ lineEnd.word

theorem unlines_append (lines lines' : List (List Byte))
    : unlines (lines ++ lines') = unlines lines ++ unlines lines' :=
  List.flatMap_append

theorem sdpLines_unlines {lines : List (List Byte)} (h : ∀ line ∈ lines, LineText line)
    : sdpLines (unlines lines) = lines := by
  induction lines with
  | nil =>
    unfold sdpLines unlines
    rw [List.flatMap_nil, Delimiter.pieces_nil]
    rfl
  | cons line lines ih =>
    rw [List.forall_mem_cons] at h
    have habsent : ¬lineEnd.word <:+: line := by
      intro hwithin
      exact (h.1 0x0d (hwithin.subset List.mem_cons_self)).2 rfl
    have hcons : unlines (line :: lines) = line ++ (lineEnd.word ++ unlines lines) := by
      rw [unlines, List.flatMap_cons, List.append_assoc]
      rfl
    have hrest := ih h.2
    rw [sdpLines] at hrest ⊢
    rw [hcons, lineEnd.pieces_append habsent, List.map_cons, hrest]
    rw [if_pos (List.suffix_append line lineEnd.word), List.length_append, Nat.add_sub_cancel, List.take_left]

theorem cString_unlines {lines : List (List Byte)} (h : ∀ line ∈ lines, LineText line)
    : cString (unlines lines) = unlines lines := by
  rw [cString, List.takeWhile_eq_self_iff]
  intro c hc
  obtain ⟨line, hline, hmem⟩ := List.mem_flatMap.mp hc
  cases List.mem_append.mp hmem with
  | inl hline' => simpa using (h line hline c hline').1
  | inr hend =>
    have hword : ∀ c ∈ lineEnd.word, decide (c ≠ 0) = true := by decide
    exact hword c hend

theorem lineText_append {text text' : List Byte} (h : LineText text) (h' : LineText text')
    : LineText (text ++ text') := by
  intro c hc
  cases List.mem_append.mp hc with
  | inl hmem => exact h c hmem
  | inr hmem => exact h' c hmem

theorem lineText_space {text : List Byte} (h : LineText text) : LineText (0x20 :: text) := by
  intro c hc
  cases List.mem_cons.mp hc with
  | inl heq =>
    rw [heq]
    decide
  | inr hmem => exact h c hmem

theorem lineText_decimalText (n : Nat) : LineText (decimalText n) := by
  intro c hc
  exact (solid_of_isAddrChar (isAddrChar_of_isDigit (isDigit_decimalText hc))).2.2.2

variable {pton : InetPton} {ntop : InetNtop} {written : RemoteCandidate}

theorem Legible.lineText {addr : Address} (h : Legible pton ntop addr) : LineText (addrToString ntop addr) := by
  intro c hc
  exact (solid_of_isAddrChar (h.chars c hc)).2.2.2

theorem lineText_relatedText {raddr : Address} (h : Legible pton ntop raddr) : LineText (relatedText ntop raddr) := by
  apply lineText_append (by decide)
  apply lineText_append h.lineText
  apply lineText_append (by decide)
  apply lineText_decimalText

theorem lineText_typRaddr (h : Writable pton ntop written)
    : LineText (typRaddr ntop written.candidate.type written.raddr) := by
  have hrelated : written.candidate.type ≠ .host → LineText (relatedText ntop written.raddr) :=
    fun hhost => lineText_relatedText (h.raddr hhost)
  cases htype : written.candidate.type with
  | host => exact (by decide : LineText (ascii "host"))
  | srflx => exact lineText_append (by decide) (hrelated (by simp [htype]))
  | relay => exact lineText_append (by decide) (hrelated (by simp [htype]))
  | prflx => exact fun c hc => by contradiction

theorem lineText_written (h : Writable pton ntop written) : LineText (candidateLine ntop written) := by
  obtain ⟨n, _, hfoundation⟩ := h.foundation
  rw [candidateLine, hfoundation, h.transport]
  apply lineText_append (by decide)
  apply lineText_append (lineText_decimalText n)
  apply lineText_space
  apply lineText_append (lineText_decimalText _)
  apply lineText_space
  apply lineText_append (by decide)
  apply lineText_space
  apply lineText_append (lineText_decimalText _)
  apply lineText_space
  apply lineText_append h.addr.lineText
  apply lineText_space
  apply lineText_append (lineText_decimalText _)
  apply lineText_space
  apply lineText_append (by decide)
  exact lineText_space (lineText_typRaddr h)

def candidateLines (ntop : InetNtop) (localCandidates : List RemoteCandidate) : List (List Byte) :=
  localCandidates.map (candidateLine ntop)

theorem foldl_toDescription (ntop : InetNtop) (localCandidates : List RemoteCandidate) (length : Nat)
    (description : List Byte)
    : localCandidates.foldl
        (fun description written =>
          description ++ iceCandidateToDescription ntop written (length - description.length)) description
      = description ++ (unlines (candidateLines ntop localCandidates)).take (length - description.length - 1) := by
  induction localCandidates generalizing description with
  | nil =>
    simp only [List.foldl_nil, candidateLines, unlines, List.map_nil, List.flatMap_nil, List.take_nil, List.append_nil]
  | cons written localCandidates ih =>
    have hcons : unlines (candidateLines ntop (written :: localCandidates))
        = (candidateLine ntop written ++ lineEnd.word) ++ unlines (candidateLines ntop localCandidates) := rfl
    rw [List.foldl_cons, ih, hcons, iceCandidateToDescription]
    generalize candidateLine ntop written ++ lineEnd.word = line
    rw [List.append_assoc, List.take_append, List.length_append, List.length_take]
    -- What a line leaves of the buffer: nothing if it is cut, and else the rest.
    have hleft : ∀ n, length - (description.length + min (length - description.length - 1) n) - 1
        = length - description.length - 1 - n := by
      intro n
      omega
    rw [hleft]

/-
What the buffer of an agent's own description holds is all of it, cut where the buffer ends.
-/
theorem agentGetLocalDescription_eq (ntop : InetNtop) (localCandidates : List RemoteCandidate) (length : Nat)
    : agentGetLocalDescription ntop localCandidates length
      = (unlines (candidateLines ntop localCandidates)).take (length - 1) := by
  rw [agentGetLocalDescription, foldl_toDescription, List.nil_append, List.length_nil, Nat.sub_zero]

/-
A line that an agent takes nothing from.
-/
structure OtherLine (pton : InetPton) (line : List Byte) : Prop where
  text : LineText line
  other : ∀ behind, descriptionLine pton line behind = .other

/-
The description that an agent's side gives of itself: the credentials and the candidates, from a buffer of some length,
with lines of the session and of the media around them.
-/
def localSdp (session media more : List (List Byte)) (ufrag upwd : List Byte) (ntop : InetNtop)
    (localCandidates : List RemoteCandidate) (length : Nat) : List Byte :=
  unlines (session ++ [iceUfragPrefix ++ ufrag, icePwdPrefix ++ upwd] ++ media)
    ++ (agentGetLocalDescription ntop localCandidates length ++ unlines more)

/--
What the lines of a description bring.
-/
structure Brings (lines : List DescriptionLine) (ufrags upwds : List (List Byte)) (candidates : List RemoteCandidate)
    : Prop where
  ufrags : ufragsOf lines = ufrags
  upwds : upwdsOf lines = upwds
  candidates : candidatesOf lines = candidates

theorem Brings.append {lines lines' : List DescriptionLine} {ufrags ufrags' upwds upwds' : List (List Byte)}
    {candidates candidates' : List RemoteCandidate} (h : Brings lines ufrags upwds candidates)
    (h' : Brings lines' ufrags' upwds' candidates')
    : Brings (lines ++ lines') (ufrags ++ ufrags') (upwds ++ upwds') (candidates ++ candidates') where
  ufrags := by rw [ufragsOf, List.filterMap_append, ← h.ufrags, ← h'.ufrags]; rfl
  upwds := by rw [upwdsOf, List.filterMap_append, ← h.upwds, ← h'.upwds]; rfl
  candidates := by rw [candidatesOf, List.filterMap_append, ← h.candidates, ← h'.candidates]; rfl

/-
The lines as the agent takes them, whatever stands behind each.
-/
def takenLines (pton : InetPton) (behind : Nat → List Byte) (lines : List (List Byte)) : List DescriptionLine :=
  (linesBehind behind lines).map fun (line, rest) => descriptionLine pton line rest

theorem takenLines_cons (pton : InetPton) (behind : Nat → List Byte) (line : List Byte) (lines : List (List Byte))
    : takenLines pton behind (line :: lines)
      = descriptionLine pton line (behind 0) :: takenLines pton (fun i => behind (i + 1)) lines := by
  rw [takenLines, linesBehind, List.mapIdx_cons, List.map_cons]
  rfl

theorem takenLines_append (pton : InetPton) (behind : Nat → List Byte) (lines lines' : List (List Byte))
    : takenLines pton behind (lines ++ lines')
      = takenLines pton behind lines ++ takenLines pton (fun i => behind (i + lines.length)) lines' := by
  rw [takenLines, linesBehind, List.mapIdx_append, List.map_append]
  rfl

theorem brings_append {lines lines' : List (List Byte)} {ufrags ufrags' upwds upwds' : List (List Byte)}
    {candidates candidates' : List RemoteCandidate}
    (h : ∀ behind, Brings (takenLines pton behind lines) ufrags upwds candidates)
    (h' : ∀ behind, Brings (takenLines pton behind lines') ufrags' upwds' candidates') (behind : Nat → List Byte)
    : Brings (takenLines pton behind (lines ++ lines')) (ufrags ++ ufrags') (upwds ++ upwds')
      (candidates ++ candidates') := by
  rw [takenLines_append]
  exact (h _).append (h' _)

theorem brings_others {lines : List (List Byte)} (h : ∀ line ∈ lines, OtherLine pton line) (behind : Nat → List Byte)
    : Brings (takenLines pton behind lines) [] [] [] := by
  induction lines generalizing behind with
  | nil => exact ⟨rfl, rfl, rfl⟩
  | cons line lines ih =>
    rw [List.forall_mem_cons] at h
    obtain ⟨hufrags, hupwds, hcandidates⟩ := ih h.2 (fun i => behind (i + 1))
    rw [takenLines_cons, h.1.other]
    exact ⟨hufrags, hupwds, hcandidates⟩

theorem brings_credentials (pton : InetPton) (behind : Nat → List Byte) (ufrag upwd : List Byte)
    : Brings (takenLines pton behind [iceUfragPrefix ++ ufrag, icePwdPrefix ++ upwd]) [ufrag] [upwd] [] := by
  have hufrag : ∀ rest, descriptionLine pton (iceUfragPrefix ++ ufrag) rest = .ufrag ufrag := by
    intro rest
    rw [descriptionLine, if_pos (List.prefix_append _ _), List.drop_left]
  have hupwd : ∀ rest, descriptionLine pton (icePwdPrefix ++ upwd) rest = .upwd upwd := by
    intro rest
    have hnot : ¬iceUfragPrefix <+: icePwdPrefix ++ upwd := by
      intro hprefix
      have hshort := List.prefix_of_prefix_length_le (List.prefix_append icePwdPrefix upwd) hprefix (by decide)
      exact absurd hshort (by decide)
    rw [descriptionLine, if_neg hnot, if_pos (List.prefix_append _ _), List.drop_left]
  rw [takenLines_cons, takenLines_cons, hufrag, hupwd]
  exact ⟨rfl, rfl, rfl⟩

theorem brings_candidates {localCandidates : List RemoteCandidate}
    (h : ∀ written ∈ localCandidates, Writable pton ntop written) (behind : Nat → List Byte)
    : Brings (takenLines pton behind (candidateLines ntop localCandidates)) [] []
      (localCandidates.map RemoteCandidate.readBack) := by
  induction localCandidates generalizing behind with
  | nil => exact ⟨rfl, rfl, rfl⟩
  | cons written localCandidates ih =>
    rw [List.forall_mem_cons] at h
    obtain ⟨hufrags, hupwds, hcandidates⟩ := ih h.2 (fun i => behind (i + 1))
    have hline : ∀ rest, descriptionLine pton (candidateLine ntop written) rest
        = .candidate (some written.readBack) := by
      intro rest
      have hprefix : candidatePrefix <+: candidateLine ntop written := List.prefix_append _ _
      rw [descriptionLine_of_candidate pton hprefix, iceCandidateFromDescription_written h.1]
    rw [candidateLines, List.map_cons, takenLines_cons, hline]
    exact ⟨hufrags, hupwds, congrArg _ hcandidates⟩

/--
What one side describes is what the other side takes, where the buffer has room for the text of the candidates: its
credentials and, each of them once, its candidates.
-/
theorem agentSetRemoteDescription_localSdp {session media more : List (List Byte)} {ufrag upwd : List Byte}
    {localCandidates : List RemoteCandidate} (hothers : ∀ line ∈ session ++ media ++ more, OtherLine pton line)
    (hufrag : LineText ufrag ∧ credentialFits iceUfragLength ufrag = true)
    (hupwd : LineText upwd ∧ credentialFits iceUpwdLength upwd = true)
    (hwritable : ∀ written ∈ localCandidates, Writable pton ntop written)
    (hcount : localCandidates.length ≤ agentMaxCandidates) {length : Nat}
    (hroom : (unlines (candidateLines ntop localCandidates)).length < length)
    (hlength : (localSdp session media more ufrag upwd ntop localCandidates length).length ≤ agentMaxDescription)
    (behind : Nat → List Byte) (remote : RemoteDescription)
    : agentSetRemoteDescription pton behind remote
        (localSdp session media more ufrag upwd ntop localCandidates length)
      = (⟨ufrag, upwd, distinctFrom iceCandidateEqual [] (localCandidates.map RemoteCandidate.readBack)⟩, true) := by
  let lines := session ++ [iceUfragPrefix ++ ufrag, icePwdPrefix ++ upwd] ++ media
    ++ (candidateLines ntop localCandidates ++ more)
  -- The buffer has room for all of the text.
  have hwhole : agentGetLocalDescription ntop localCandidates length
      = unlines (candidateLines ntop localCandidates) := by
    rw [agentGetLocalDescription_eq, List.take_of_length_le (Nat.le_sub_one_of_lt hroom)]
  have hsdp : localSdp session media more ufrag upwd ntop localCandidates length = unlines lines := by
    simp only [localSdp, hwhole, lines, unlines_append]
  simp only [List.forall_mem_append] at hothers
  obtain ⟨⟨hsession, hmedia⟩, hmore⟩ := hothers
  have htext : ∀ line ∈ lines, LineText line := by
    simp only [lines, candidateLines, List.forall_mem_append, List.forall_mem_cons, List.forall_mem_map]
    refine ⟨⟨⟨fun line hline => (hsession line hline).text, ?_, ?_, List.forall_mem_nil _⟩, ?_⟩, ?_, ?_⟩
    . exact lineText_append (by decide) hufrag.1
    . exact lineText_append (by decide) hupwd.1
    . exact fun line hline => (hmedia line hline).text
    . exact fun written hmem => lineText_written (hwritable written hmem)
    . exact fun line hline => (hmore line hline).text
  have hlines : descriptionLines pton behind (unlines lines) = takenLines pton behind lines := by
    rw [descriptionLines, cString_unlines htext, sdpLines_unlines htext, takenLines]
  have hbrings : Brings (takenLines pton behind lines) [ufrag] [upwd]
      (localCandidates.map RemoteCandidate.readBack) := by
    have hcredentials := brings_append (brings_others hsession) fun behind => brings_credentials pton behind ufrag upwd
    have hdescribed := brings_append (brings_candidates hwritable) (brings_others hmore)
    have hall := brings_append (brings_append hcredentials (brings_others hmedia)) hdescribed behind
    simpa only [lines, List.append_nil, List.nil_append] using hall
  -- The description is not refused: its credentials fit, and there is room for all of its candidates.
  have hcomplete : Complete pton behind (unlines lines) := by
    rw [hsdp] at hlength
    constructor
    . rw [cString_unlines htext]
      exact hlength
    . rw [hlines]
      constructor
      . rw [hbrings.ufrags, List.forall_mem_singleton]
        exact hufrag.2
      . rw [hbrings.upwds, List.forall_mem_singleton]
        exact hupwd.2
      . rw [hbrings.candidates]
        have hfewer := @length_distinctFrom_le _ iceCandidateEqual [] (localCandidates.map RemoteCandidate.readBack)
        rw [List.length_nil, List.length_map, Nat.zero_add] at hfewer
        exact hfewer.trans hcount
    . rw [hlines, hbrings.ufrags]
      exact List.cons_ne_nil _ _
    . rw [hlines, hbrings.upwds]
      exact List.cons_ne_nil _ _
  rw [hsdp, agentSetRemoteDescription_of_complete hcomplete, hlines]
  rw [RemoteDescription.afterLines, hbrings.ufrags, hbrings.upwds, hbrings.candidates]
  rfl

/-
The candidates that an agent makes can be written where its addresses can.
-/
theorem writable_create {foundation : Nat} {type : IceCandidateType} {addr raddr : Address}
    (hfoundation : foundation < 10 ^ 10) (htype : type ≠ .prflx) (haddr : Legible pton ntop addr)
    (hraddr : type ≠ .host → Legible pton ntop raddr)
    : Writable pton ntop (iceCandidateCreate foundation type addr raddr) where
  foundation := ⟨foundation, hfoundation, rfl⟩
  component := (by decide : 0 < (1 : BitVec 32).toNat ∧ (1 : BitVec 32).toNat ≤ 256)
  transport := rfl
  type := htype
  addr := haddr
  raddr := hraddr

def homeAddr : Address :=
  { (default : Address) with family := .inet, sinAddr := [10, 0, 0, 7], length_sinAddr := rfl, port := 49250 }

def mappedAddr : Address :=
  { (default : Address) with family := .inet, sinAddr := [203, 0, 113, 5], length_sinAddr := rfl, port := 6002 }

def tableNtop : InetNtop where
  inet bytes := if bytes = [10, 0, 0, 7] then ascii "10.0.0.7" else ascii "203.0.113.5"
  inet6 _ := ascii "::"

def tablePton : InetPton where
  inet text :=
    if text = ascii "10.0.0.7" then some #v[10, 0, 0, 7]
    else if text = ascii "203.0.113.5" then some #v[203, 0, 113, 5]
    else none
  inet6 _ := none

theorem legible_homeAddr : Legible tablePton tableNtop homeAddr where
  inet _ := by decide
  inet6 h := by contradiction
  nonempty := by decide
  length := by decide
  chars := by decide

theorem legible_mappedAddr : Legible tablePton tableNtop mappedAddr where
  inet _ := by decide
  inet6 h := by contradiction
  nonempty := by decide
  length := by decide
  chars := by decide

/-
The candidates of an agent behind a NAT.
-/
def natCandidates : List RemoteCandidate :=
  [iceCandidateCreate 0 .host homeAddr default, iceCandidateCreate 2 .srflx mappedAddr homeAddr]

theorem agentSetRemoteDescription_localSdp_nat
    : (agentSetRemoteDescription tablePton (fun _ => []) .empty (localSdp [ascii "v=0"] [ascii "a=setup:passive"]
        [ascii "a=mid:video"] (ascii "ufrag") (ascii "password") tableNtop natCandidates configMtu)).1.candidates.length
      = 2 := by
  have hothers : ∀ line ∈ [ascii "v=0"] ++ [ascii "a=setup:passive"] ++ [ascii "a=mid:video"],
      OtherLine tablePton line := by
    simp only [List.forall_mem_append, List.forall_mem_singleton]
    exact ⟨⟨⟨by decide, fun _ => rfl⟩, ⟨by decide, fun _ => rfl⟩⟩, ⟨by decide, fun _ => rfl⟩⟩
  have hwritable : ∀ written ∈ natCandidates, Writable tablePton tableNtop written := by
    simp only [natCandidates, List.forall_mem_cons]
    refine ⟨?_, ?_, List.forall_mem_nil _⟩
    . exact writable_create (by decide) (by decide) legible_homeAddr (fun h => absurd rfl h)
    . exact writable_create (by decide) (by decide) legible_mappedAddr (fun _ => legible_homeAddr)
  rw [agentSetRemoteDescription_localSdp hothers (by decide) (by decide) hwritable (by decide) (by decide +kernel)
    (by decide +kernel)]
  decide +kernel

end Description

end Peer

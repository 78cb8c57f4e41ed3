import RtsmartLib.Peer.RemoteDescription

/-!
This module contains what a description leaves in an agent, that candidates that come one at a time leave the same, and
what holds in every run of both.
-/

namespace Peer

open Lib

section Lines

def DescriptionLine.ufrag? (line : DescriptionLine) : Option (List Byte) :=
  match line with
  | .ufrag value => some value
  | _ => none

def DescriptionLine.upwd? (line : DescriptionLine) : Option (List Byte) :=
  match line with
  | .upwd value => some value
  | _ => none

def DescriptionLine.candidate? (line : DescriptionLine) : Option RemoteCandidate :=
  match line with
  | .candidate parsed => parsed
  | _ => none

def ufragsOf (lines : List DescriptionLine) : List (List Byte) :=
  lines.filterMap DescriptionLine.ufrag?

def upwdsOf (lines : List DescriptionLine) : List (List Byte) :=
  lines.filterMap DescriptionLine.upwd?

def candidatesOf (lines : List DescriptionLine) : List RemoteCandidate :=
  lines.filterMap DescriptionLine.candidate?

/--
No line of the description is one for which the agent refuses it, with the candidates that are there.
-/
structure Takable (candidates : List RemoteCandidate) (lines : List DescriptionLine) : Prop where
  ufrags : ∀ ufrag ∈ ufragsOf lines, credentialFits iceUfragLength ufrag = true
  upwds : ∀ upwd ∈ upwdsOf lines, credentialFits iceUpwdLength upwd = true
  room : (distinctFrom iceCandidateEqual candidates (candidatesOf lines)).length ≤ agentMaxCandidates

def RemoteDescription.afterLines (remote : RemoteDescription) (lines : List DescriptionLine) : RemoteDescription where
  ufrag := (ufragsOf lines).getLast?.getD remote.ufrag
  upwd := (upwdsOf lines).getLast?.getD remote.upwd
  candidates := distinctFrom iceCandidateEqual remote.candidates (candidatesOf lines)

variable {remote found : RemoteDescription} {candidates : List RemoteCandidate} {lines : List DescriptionLine}

theorem takable_ufrag {ufrag : List Byte}
    : Takable candidates (.ufrag ufrag :: lines)
      ↔ credentialFits iceUfragLength ufrag = true ∧ Takable candidates lines := by
  constructor
  . intro h
    obtain ⟨hufrag, hufrags⟩ := List.forall_mem_cons.mp h.ufrags
    exact ⟨hufrag, hufrags, h.upwds, h.room⟩
  . intro ⟨hufrag, h⟩
    exact ⟨List.forall_mem_cons.mpr ⟨hufrag, h.ufrags⟩, h.upwds, h.room⟩

theorem takable_upwd {upwd : List Byte}
    : Takable candidates (.upwd upwd :: lines)
      ↔ credentialFits iceUpwdLength upwd = true ∧ Takable candidates lines := by
  constructor
  . intro h
    obtain ⟨hupwd, hupwds⟩ := List.forall_mem_cons.mp h.upwds
    exact ⟨hupwd, h.ufrags, hupwds, h.room⟩
  . intro ⟨hupwd, h⟩
    exact ⟨h.ufrags, List.forall_mem_cons.mpr ⟨hupwd, h.upwds⟩, h.room⟩

theorem takable_candidate {candidate : RemoteCandidate}
    : Takable candidates (.candidate (some candidate) :: lines)
      ↔ Takable (addDistinct iceCandidateEqual candidates candidate) lines := by
  constructor
  . intro h
    exact ⟨h.ufrags, h.upwds, h.room⟩
  . intro h
    exact ⟨h.ufrags, h.upwds, h.room⟩

/-
A line that brings nothing.
-/
theorem takable_skip {line : DescriptionLine} (hline : line = .candidate none ∨ line = .other)
    : Takable candidates (line :: lines) ↔ Takable candidates lines := by
  cases hline with
  | inl hnone =>
    rw [hnone]
    exact ⟨fun h => ⟨h.ufrags, h.upwds, h.room⟩, fun h => ⟨h.ufrags, h.upwds, h.room⟩⟩
  | inr hother =>
    rw [hother]
    exact ⟨fun h => ⟨h.ufrags, h.upwds, h.room⟩, fun h => ⟨h.ufrags, h.upwds, h.room⟩⟩

theorem takable_room (h : Takable candidates lines) : candidates.length ≤ agentMaxCandidates :=
  (prefix_distinctFrom candidates (candidatesOf lines)).length_le.trans h.room

theorem afterLines_ufrag (remote : RemoteDescription) (ufrag : List Byte) (lines : List DescriptionLine)
    : remote.afterLines (.ufrag ufrag :: lines) = { remote with ufrag := ufrag }.afterLines lines := by
  have hufrags : ufragsOf (.ufrag ufrag :: lines) = ufrag :: ufragsOf lines := rfl
  simp only [RemoteDescription.afterLines, hufrags, List.getLast?_cons, Option.getD_some]
  rfl

theorem afterLines_upwd (remote : RemoteDescription) (upwd : List Byte) (lines : List DescriptionLine)
    : remote.afterLines (.upwd upwd :: lines) = { remote with upwd := upwd }.afterLines lines := by
  have hupwds : upwdsOf (.upwd upwd :: lines) = upwd :: upwdsOf lines := rfl
  simp only [RemoteDescription.afterLines, hupwds, List.getLast?_cons, Option.getD_some]
  rfl

/-
The agent goes through the lines one after the other, and what it has at the end is said by all of them at once.
-/
theorem foldlM_takeLine (hroom : remote.candidates.length ≤ agentMaxCandidates)
    : lines.foldlM takeLine remote = some found
      ↔ Takable remote.candidates lines ∧ found = remote.afterLines lines := by
  induction lines generalizing remote with
  | nil =>
    rw [List.foldlM_nil]
    constructor
    . intro h
      exact ⟨⟨List.forall_mem_nil _, List.forall_mem_nil _, hroom⟩, (Option.some.inj h).symm⟩
    . intro h
      rw [h.2]
      rfl
  | cons line lines ih =>
    rw [List.foldlM_cons]
    cases line with
    | ufrag value =>
      rw [takable_ufrag, afterLines_ufrag, takeLine]
      split
      . next hfits =>
        rw [hfits, eq_self, true_and]
        exact @ih { remote with ufrag := value } hroom
      . next hfits =>
        rw [Bool.not_eq_true] at hfits
        rw [hfits]
        simp
    | upwd value =>
      rw [takable_upwd, afterLines_upwd, takeLine]
      split
      . next hfits =>
        rw [hfits, eq_self, true_and]
        exact @ih { remote with upwd := value } hroom
      . next hfits =>
        rw [Bool.not_eq_true] at hfits
        rw [hfits]
        simp
    | candidate parsed =>
      cases parsed with
      | none =>
        rw [takable_skip (.inl rfl)]
        exact ih hroom
      | some candidate =>
        rw [takable_candidate, takeLine, addRemoteCandidate, addBounded_eq hroom]
        split
        . next hfits => exact @ih { remote with candidates := addDistinct iceCandidateEqual _ candidate } hfits
        . next hfull =>
          constructor
          . intro h
            contradiction
          . intro h
            exact absurd (takable_room h.1) hfull
    | other =>
      rw [takable_skip (.inr rfl)]
      exact ih hroom

end Lines

section Description

/-
A description that is taken has credentials, which are those of the last lines that bring some.
-/
theorem getLast_credential {length : Nat} {values : List (List Byte)}
    (hfits : ∀ value ∈ values, credentialFits length value = true)
    : values.getLast?.getD [] = [] ↔ values = [] := by
  constructor
  . intro hempty
    by_contra hne
    have hlast := hfits _ (List.getLast_mem hne)
    rw [List.getLast?_eq_some_getLast hne, Option.getD_some] at hempty
    rw [hempty] at hlast
    contradiction
  . intro hnil
    rw [hnil]
    rfl

theorem some_getLast_getD {values : List (List Byte)} (hne : values ≠ [])
    : some (values.getLast?.getD []) = values.getLast? := by
  rw [List.getLast?_eq_some_getLast hne, Option.getD_some]

/-
What a description has to be like to be taken.
-/
structure Complete (pton : InetPton) (behind : Nat → List Byte) (description : List Byte) : Prop where
  length : (cString description).length ≤ agentMaxDescription
  takable : Takable [] (descriptionLines pton behind description)
  ufrag : ufragsOf (descriptionLines pton behind description) ≠ []
  upwd : upwdsOf (descriptionLines pton behind description) ≠ []

variable {pton : InetPton} {behind : Nat → List Byte} {description : List Byte}

theorem agentSetRemoteDescription_of_complete (h : Complete pton behind description) (remote : RemoteDescription)
    : agentSetRemoteDescription pton behind remote description
      = (RemoteDescription.empty.afterLines (descriptionLines pton behind description), true) := by
  have hfound := (@foldlM_takeLine RemoteDescription.empty _ _ (Nat.zero_le _)).mpr ⟨h.takable, rfl⟩
  have hufrag := (getLast_credential h.takable.ufrags).not.mpr h.ufrag
  have hupwd := (getLast_credential h.takable.upwds).not.mpr h.upwd
  rw [agentSetRemoteDescription, if_neg (Nat.not_lt.mpr h.length), hfound]
  exact if_neg (not_or.mpr ⟨hufrag, hupwd⟩)

theorem agentSetRemoteDescription_of_not_complete (h : ¬Complete pton behind description) (remote : RemoteDescription)
    : agentSetRemoteDescription pton behind remote description = (remote, false) := by
  unfold agentSetRemoteDescription
  split
  . rfl
  . next hlength =>
    split
    . rfl
    . next found hfound =>
      obtain ⟨htakable, heq⟩ := (foldlM_takeLine (Nat.zero_le _)).mp hfound
      split
      . rfl
      . next hcredentials =>
        rw [not_or, heq] at hcredentials
        have hufrag := (getLast_credential htakable.ufrags).not.mp hcredentials.1
        have hupwd := (getLast_credential htakable.upwds).not.mp hcredentials.2
        exact absurd ⟨Nat.not_lt.mp hlength, htakable, hufrag, hupwd⟩ h

end Description

section Trickle

inductive RemoteEvent where
  | setRemoteDescription (description : List Byte) (behind : Nat → List Byte)
  | addIceCandidate (candidate behind : List Byte)

def remoteMachine (pton : InetPton) : Machine RemoteDescription RemoteEvent Bool where
  step remote event :=
    match event with
    | .setRemoteDescription description behind => agentSetRemoteDescription pton behind remote description
    | .addIceCandidate candidate behind => peerConnectionAddIceCandidate pton remote candidate behind

/-
The lines of a description that have a candidate each, as they come one at a time, each with the same behind it.
-/
def candidateTexts (behind : Nat → List Byte) (description : List Byte) : List (List Byte × List Byte) :=
  (linesBehind behind (sdpLines (cString description))).filter fun (line, _) => candidatePrefix <+: line

theorem mem_of_mem_sdpLines {text line : List Byte} (h : line ∈ sdpLines text) {c : Byte} (hc : c ∈ line)
    : c ∈ text := by
  rw [sdpLines, List.mem_map] at h
  obtain ⟨piece, hpiece, hline⟩ := h
  have hsub : c ∈ piece := by
    rw [← hline] at hc
    split at hc
    . exact List.mem_of_mem_take hc
    . exact hc
  rw [← lineEnd.flatten_pieces text]
  exact List.mem_flatten_of_mem hpiece hsub

theorem cString_line {description line : List Byte} (h : line ∈ sdpLines (cString description))
    : cString line = line := by
  rw [cString, List.takeWhile_eq_self_iff]
  intro c hc
  have hmem := mem_of_mem_sdpLines h hc
  rw [cString] at hmem
  have hne := List.mem_takeWhile_imp hmem
  exact hne

/-
No line is of two kinds.
-/
theorem descriptionLine_of_candidate (pton : InetPton) {line : List Byte} (h : candidatePrefix <+: line)
    (behind : List Byte)
    : descriptionLine pton line behind = .candidate (iceCandidateFromDescription pton line behind) := by
  have hufrag : ¬iceUfragPrefix <+: line := by
    intro hufrag
    exact absurd (List.prefix_of_prefix_length_le h hufrag (by decide)) (by decide)
  have hupwd : ¬icePwdPrefix <+: line := by
    intro hupwd
    exact absurd (List.prefix_of_prefix_length_le hupwd h (by decide)) (by decide)
  rw [descriptionLine, if_neg hufrag, if_neg hupwd, if_pos h]

theorem candidate?_descriptionLine (pton : InetPton) (line behind : List Byte)
    : (descriptionLine pton line behind).candidate?
      = if candidatePrefix <+: line then iceCandidateFromDescription pton line behind else none := by
  by_cases hcandidate : candidatePrefix <+: line
  . rw [descriptionLine_of_candidate pton hcandidate, if_pos hcandidate]
    rfl
  . rw [descriptionLine, if_neg hcandidate, if_neg hcandidate]
    split
    . rfl
    . split <;> rfl

theorem mem_of_mem_linesBehind {behind : Nat → List Byte} {lines : List (List Byte)} {text : List Byte × List Byte}
    (h : text ∈ linesBehind behind lines)
    : text.1 ∈ lines := by
  rw [linesBehind, List.mem_mapIdx] at h
  obtain ⟨i, hi, heq⟩ := h
  rw [← heq]
  exact List.getElem_mem hi

theorem candidatesOf_descriptionLines (pton : InetPton) (behind : Nat → List Byte) (description : List Byte)
    : candidatesOf (descriptionLines pton behind description)
      = (candidateTexts behind description).filterMap fun text =>
        iceCandidateFromDescription pton (cString text.1) text.2 := by
  rw [candidatesOf, descriptionLines, candidateTexts, List.filterMap_map, List.filterMap_filter]
  apply List.filterMap_congr
  intro text htext
  rw [Function.comp_apply, candidate?_descriptionLine, cString_line (mem_of_mem_linesBehind htext)]
  simp only [decide_eq_true_eq]

theorem final_addIceCandidate (pton : InetPton) (remote : RemoteDescription) (texts : List (List Byte × List Byte))
    : ((remoteMachine pton).final remote (texts.map fun text => .addIceCandidate text.1 text.2)).candidates
      = (texts.filterMap fun text => iceCandidateFromDescription pton (cString text.1) text.2).foldl
        (fun kept candidate => (addRemoteCandidate kept candidate).getD kept) remote.candidates := by
  induction texts generalizing remote with
  | nil => rfl
  | cons text texts ih =>
    rw [List.map_cons, Machine.final_cons, ih]
    simp only [remoteMachine, peerConnectionAddIceCandidate]
    cases hparsed : iceCandidateFromDescription pton (cString text.1) text.2 with
    | none => simp only [List.filterMap_cons, hparsed]
    | some candidate =>
      simp only [List.filterMap_cons, hparsed, List.foldl_cons]
      cases hadded : addRemoteCandidate remote.candidates candidate with
      | none => rfl
      | some candidates => rfl

/--
A description is taken exactly if it is complete. Then the agent has the credentials of the last lines that bring some,
and the candidates in the order in which they stand for the first time, which are those it would have if it had none and
they had come one at a time. Otherwise nothing is taken.
-/
theorem agentSetRemoteDescription_trickled (pton : InetPton) (behind : Nat → List Byte) (remote : RemoteDescription)
    (description : List Byte)
    : let lines := descriptionLines pton behind description
      let res := agentSetRemoteDescription pton behind remote description
      (res.2 = true ↔ Complete pton behind description)
        ∧ (res.2 = false → res.1 = remote)
        ∧ (res.2 = true → some res.1.ufrag = (ufragsOf lines).getLast? ∧ some res.1.upwd = (upwdsOf lines).getLast?
          ∧ res.1.candidates = distinctFrom iceCandidateEqual [] (candidatesOf lines)
          ∧ ∀ before : RemoteDescription, before.candidates = [] →
            ((remoteMachine pton).final before
              ((candidateTexts behind description).map fun text => .addIceCandidate text.1 text.2)).candidates
                = res.1.candidates) := by
  intro lines res
  by_cases hcomplete : Complete pton behind description
  . have hres : res = (RemoteDescription.empty.afterLines lines, true) :=
      agentSetRemoteDescription_of_complete hcomplete remote
    rw [hres]
    refine ⟨by simp [hcomplete], by simp, fun _ => ⟨?_, ?_, rfl, ?_⟩⟩
    . exact some_getLast_getD hcomplete.ufrag
    . exact some_getLast_getD hcomplete.upwd
    . intro before hbefore
      rw [final_addIceCandidate, hbefore, ← candidatesOf_descriptionLines]
      simp only [addRemoteCandidate]
      rw [foldl_addBounded (Nat.zero_le _), List.take_of_length_le hcomplete.takable.room]
      rfl
  . have hres : res = (remote, false) := agentSetRemoteDescription_of_not_complete hcomplete remote
    rw [hres]
    exact ⟨by simp [hcomplete], fun _ => rfl, fun h => by contradiction⟩

end Trickle

section Runs

/--
What an agent knows of the other side: no candidate twice, no more than there is room for, and both credentials or
none.
-/
structure RemoteDescription.Sound (remote : RemoteDescription) : Prop where
  room : remote.candidates.length ≤ agentMaxCandidates
  distinct : Distinct iceCandidateEqual remote.candidates
  credentials : remote.ufrag = [] ∧ remote.upwd = []
    ∨ credentialFits iceUfragLength remote.ufrag ∧ credentialFits iceUpwdLength remote.upwd

theorem sound_empty : RemoteDescription.empty.Sound where
  room := Nat.zero_le _
  distinct := List.Pairwise.nil
  credentials := .inl ⟨rfl, rfl⟩

theorem getD_getLast_fits {length : Nat} {values : List (List Byte)} (hne : values ≠ [])
    (hfits : ∀ value ∈ values, credentialFits length value = true) (default : List Byte)
    : credentialFits length (values.getLast?.getD default) = true := by
  rw [List.getLast?_eq_some_getLast hne, Option.getD_some]
  exact hfits _ (List.getLast_mem hne)

theorem sound_of_complete {pton : InetPton} {behind : Nat → List Byte} {description : List Byte}
    (h : Complete pton behind description)
    : (RemoteDescription.empty.afterLines (descriptionLines pton behind description)).Sound where
  room := h.takable.room
  distinct := distinctFrom_distinct List.Pairwise.nil _
  credentials := .inr ⟨getD_getLast_fits h.ufrag h.takable.ufrags _, getD_getLast_fits h.upwd h.takable.upwds _⟩

/-
A candidate that comes alone is added at the end, if at all.
-/
theorem addIceCandidate_sound {remote : RemoteDescription} (hsound : remote.Sound) (pton : InetPton)
    (text behind : List Byte)
    : let res := peerConnectionAddIceCandidate pton remote text behind
      res.1.Sound ∧ (res.2 = false → res.1 = remote) ∧ remote.candidates <+: res.1.candidates := by
  intro res
  simp only [res, peerConnectionAddIceCandidate]
  split
  . exact ⟨hsound, fun _ => rfl, List.prefix_rfl⟩
  . next candidate hparsed =>
    split
    . exact ⟨hsound, fun _ => rfl, List.prefix_rfl⟩
    . next candidates hadded =>
      obtain ⟨heq, hroom⟩ := addBounded_some hsound.room hadded
      refine ⟨⟨hroom, ?_, hsound.credentials⟩, fun h => by contradiction, ?_⟩
      . rw [heq]
        exact addDistinct_distinct hsound.distinct candidate
      . rw [heq]
        exact prefix_addDistinct remote.candidates candidate

theorem setRemoteDescription_sound {remote : RemoteDescription} (hsound : remote.Sound) (pton : InetPton)
    (behind : Nat → List Byte) (description : List Byte)
    : let res := agentSetRemoteDescription pton behind remote description
      res.1.Sound ∧ (res.2 = false → res.1 = remote) := by
  intro res
  by_cases hcomplete : Complete pton behind description
  . have hres : res = _ := agentSetRemoteDescription_of_complete hcomplete remote
    rw [hres]
    exact ⟨sound_of_complete hcomplete, fun h => by contradiction⟩
  . have hres : res = _ := agentSetRemoteDescription_of_not_complete hcomplete remote
    rw [hres]
    exact ⟨hsound, fun _ => rfl⟩

theorem remoteMachine_step {remote : RemoteDescription} (hsound : remote.Sound) (pton : InetPton)
    (event : RemoteEvent)
    : let res := (remoteMachine pton).step remote event
      res.1.Sound ∧ (res.2 = false → res.1 = remote)
        ∧ ∀ text behind, event = .addIceCandidate text behind → remote.candidates <+: res.1.candidates := by
  cases event with
  | setRemoteDescription description behind =>
    obtain ⟨hafter, hfailed⟩ := setRemoteDescription_sound hsound pton behind description
    exact ⟨hafter, hfailed, fun text behind htext => by contradiction⟩
  | addIceCandidate text behind =>
    obtain ⟨hafter, hfailed, hprefix⟩ := addIceCandidate_sound hsound pton text behind
    exact ⟨hafter, hfailed, fun _ _ _ => hprefix⟩

/--
After every run of descriptions and single candidates, whatever their texts, the agent has room for the candidates, none
of them twice, and both credentials or none. A step that fails changes nothing, and a single candidate never moves
another one, so that the places that the pairs refer to stay what they are.
-/
theorem remoteMachine_sound (pton : InetPton) (events : List RemoteEvent)
    : let final := (remoteMachine pton).final .empty events
      final.Sound
        ∧ (∀ agent, (final.toAgent agent).remoteCandidates.length ≤ agentMaxCandidates)
        ∧ ∀ v ∈ (remoteMachine pton).visits .empty events, (v.obs = false → v.post = v.pre)
          ∧ ∀ text behind, v.event = .addIceCandidate text behind → v.pre.candidates <+: v.post.candidates := by
  have hstep : ∀ remote event, remote.Sound → ((remoteMachine pton).step remote event).1.Sound := by
    intro remote event hsound
    exact (remoteMachine_step hsound pton event).1
  intro final
  have hfinal : final.Sound :=
    @Machine.final_inv _ _ _ (remoteMachine pton) RemoteDescription.Sound (fun _ => False)
      (fun remote event hsound _ => hstep remote event hsound) .empty sound_empty events (fun _ _ => id)
  refine ⟨hfinal, ?_, ?_⟩
  . intro agent
    rw [RemoteDescription.toAgent, List.length_map]
    exact hfinal.room
  . intro v hv
    have hsound : v.pre.Sound :=
      @Machine.visits_inv _ _ _ (remoteMachine pton) RemoteDescription.Sound hstep .empty sound_empty events v hv
    rw [Machine.eq_visit_of_mem hv]
    exact (remoteMachine_step hsound pton v.event).2

end Runs

end Peer

import RtsmartLib.Lib.Memory
import Mathlib.Data.List.TakeWhile

/-!
This module contains the list of the network devices, which is copied slot by slot from what the kernel
replies, and for which replies its first entries are the names of the devices.
-/

namespace Netmgmt

open Lib

def netDevMaxCnt : Nat := 8

abbrev Slot := { bytes : List Byte // bytes.length = 32 }

abbrev DevSlots := { slots : List Slot // slots.length = netDevMaxCnt }

/-
The C string at the start of some bytes.
-/
def cString (bytes : List Byte) : List Byte :=
  bytes.takeWhile (· ≠ 0)

def strlen (bytes : List Byte) : Nat :=
  (cString bytes).length

/-
`strncpy` into 32 bytes fills up with zeros, and leaves a source that is too long without one.
-/
def strncpy32 (bytes : List Byte) : Slot :=
  let name := (cString bytes).take 32
  ⟨name ++ List.replicate (32 - name.length) 0, by
    rw [List.length_append, List.length_replicate]
    have hle : name.length ≤ 32 := List.length_take_le ..
    omega⟩

def Slot.terminated (slot : Slot) : Slot :=
  ⟨slot.1.set 31 0, by rw [List.length_set, slot.2]⟩

/-
The loop over the slots, from the one with index `i` on.
-/
def devListLoop (i : Nat) (slots : List Slot) (devNum : Nat) (names : List Slot) : Nat × List Slot :=
  match slots with
  | [] => (devNum, names)
  | slot :: slots =>
    let pname := slot.terminated
    let nameLen := strlen pname.1
    if nameLen ≠ 0 then
      devListLoop (i + 1) slots (devNum + 1) (names.set i (strncpy32 pname.1))
    else
      devListLoop (i + 1) slots devNum names

structure DevListResult where
  ret : Int
  devNum : Option Nat
  names : List Slot

/-
`reply` is what the ioctl leaves in the local buffer, if it succeeds. `devNum` may be a null pointer.
-/
def netmgmtUtilsGetDevList (reply : Option DevSlots) (devNum : Option Nat) (names : DevSlots)
    : DevListResult :=
  match reply with
  | none => ⟨-1, devNum, names.1⟩
  | some reply =>
    let r := devListLoop 0 reply.1 0 names.1
    ⟨0, devNum.map fun _ => r.1, r.2⟩

def Slot.name (slot : Slot) : List Byte :=
  cString slot.terminated.1

def Slot.Named (slot : Slot) : Prop :=
  slot.name ≠ []

instance (slot : Slot) : Decidable slot.Named :=
  inferInstanceAs (Decidable (_ ≠ _))

/--
The names in a reply, in their order.
-/
def namesOf (slots : List Slot) : List (List Byte) :=
  (slots.map Slot.name).filter (· ≠ [])

/--
The entries that are counted are the names of the reply, each with a terminator in its slot.
-/
def DevListRight (reply names : DevSlots) (devNum : Nat) : Prop :=
  let r := netmgmtUtilsGetDevList (some reply) (some devNum) names
  r.ret = 0 ∧ ∃ count, r.devNum = some count
    ∧ (r.names.take count).map (fun entry => cString entry.1) = namesOf reply.1
    ∧ ∀ entry ∈ r.names.take count, 0 ∈ entry.1

/--
No empty slot comes before one with a name.
-/
def Packed (reply : DevSlots) : Prop :=
  reply.1.Pairwise fun slot later => later.Named → slot.Named

theorem strlen_terminated (slot : Slot) : strlen slot.terminated.1 ≠ 0 ↔ slot.Named := by
  unfold strlen Slot.Named Slot.name
  rw [Ne, List.length_eq_zero_iff]

/-
The terminator that is set in the last byte ends each name.
-/
theorem length_name (slot : Slot) : slot.name.length ≤ 31 := by
  unfold Slot.name cString Slot.terminated
  have hsplit : slot.1.set 31 0 = slot.1.take 31 ++ [0] := by
    rw [List.set_eq_take_append_cons_drop, if_pos (by rw [slot.2]; decide), List.drop_eq_nil_of_le]
    rw [slot.2]
  dsimp only
  rw [hsplit, List.takeWhile_append]
  split
  . simp
  . apply Nat.le_trans (List.takeWhile_prefix _).length_le
    apply List.length_take_le

theorem cString_replicate_zero (name : List Byte) (hname : ∀ b ∈ name, b ≠ 0) (n : Nat)
    : cString (name ++ List.replicate n 0) = name := by
  unfold cString
  rw [List.takeWhile_append_of_pos (by simpa using hname)]
  cases n with
  | zero => simp
  | succ n => simp [List.replicate_succ]

/-
What an entry holds to which a slot has been copied.
-/
theorem strncpy32_terminated (slot : Slot)
    : cString (strncpy32 slot.terminated.1).1 = slot.name ∧ 0 ∈ (strncpy32 slot.terminated.1).1 := by
  have hlen := length_name slot
  have htake : (cString slot.terminated.1).take 32 = slot.name :=
    List.take_of_length_le (Nat.le_trans hlen (by decide))
  unfold strncpy32
  dsimp only
  rw [htake]
  constructor
  . apply cString_replicate_zero
    intro b hb
    have hne := List.mem_takeWhile_imp hb
    simpa using hne
  . rw [List.mem_append, List.mem_replicate]
    exact Or.inr ⟨by omega, rfl⟩

/-
What the loop leaves in an entry of the caller's array.
-/
def merge (slot entry : Slot) : Slot :=
  if slot.Named then strncpy32 slot.terminated.1 else entry

theorem devListLoop_eq {i : Nat} {slots names : List Slot} (hlen : i + slots.length = names.length)
    (devNum : Nat)
    : devListLoop i slots devNum names
        = (devNum + slots.countP (·.Named), names.take i ++ List.zipWith merge slots (names.drop i)) := by
  induction slots generalizing i devNum names with
  | nil =>
    rw [List.length_nil, Nat.add_zero] at hlen
    rw [devListLoop, List.take_of_length_le (Nat.le_of_eq hlen.symm)]
    simp
  | cons slot slots ih =>
    rw [List.length_cons] at hlen
    have hlt : i < names.length := by
      omega
    rw [devListLoop]
    rw [List.drop_eq_getElem_cons hlt, List.zipWith_cons_cons, List.countP_cons]
    simp only [strlen_terminated]
    by_cases hnamed : slot.Named
    . rw [if_pos hnamed, ih (by rw [List.length_set]; omega)]
      simp only [merge, hnamed, if_true, decide_true]
      rw [List.drop_set_of_lt (Nat.lt_succ_self i), List.take_succ_eq_append_getElem (by simpa using hlt)]
      rw [List.getElem_set_self, List.take_set_of_le (Nat.le_refl i), List.append_assoc, List.singleton_append,
        Nat.add_assoc, Nat.add_comm 1]
    . rw [if_neg hnamed, ih (by omega)]
      simp only [merge, hnamed, if_false, decide_false]
      rw [List.take_succ_eq_append_getElem hlt, List.append_assoc, List.singleton_append]
      simp

theorem namesOf_eq (slots : List Slot)
    : namesOf slots = (slots.filter (·.Named)).map Slot.name := by
  unfold namesOf Slot.Named
  rw [List.filter_map]
  rfl

theorem namesOf_cons (slot : Slot) (slots : List Slot)
    : namesOf (slot :: slots) = if slot.Named then slot.name :: namesOf slots else namesOf slots := by
  unfold namesOf Slot.Named
  rw [List.map_cons, List.filter_cons]
  simp

theorem countP_eq_zero_of_unnamed {slot : Slot} {slots : List Slot} (hslot : ¬slot.Named)
    (h : ∀ later ∈ slots, later.Named → slot.Named)
    : slots.countP (·.Named) = 0 := by
  rw [List.countP_eq_zero]
  intro later hlater hnamed
  exact hslot (h later hlater (of_decide_eq_true hnamed))

/-
Where no empty slot comes before one with a name, the entries that are counted are copies of the named slots.
-/
theorem take_merge {slots entries : List Slot} (hlen : slots.length = entries.length)
    (h : slots.Pairwise fun slot later => later.Named → slot.Named)
    : (List.zipWith merge slots entries).take (slots.countP (·.Named))
        = (slots.filter (·.Named)).map fun slot => strncpy32 slot.terminated.1 := by
  induction slots generalizing entries with
  | nil => rfl
  | cons slot slots ih =>
    cases entries with
    | nil => cases hlen
    | cons entry entries =>
      rw [List.pairwise_cons] at h
      rw [List.zipWith_cons_cons, List.countP_cons]
      by_cases hslot : slot.Named
      . rw [if_pos (decide_eq_true hslot), List.take_succ_cons, ih (Nat.succ.inj hlen) h.2]
        simp [merge, hslot]
      . have hnone := countP_eq_zero_of_unnamed hslot h.1
        have hfilter : slots.filter (·.Named) = [] := by
          rw [← List.length_eq_zero_iff, ← List.countP_eq_length_filter, hnone]
        rw [hnone]
        simp [hslot, hfilter]

/-
An empty slot before a name leaves an entry among the counted ones as it has been.
-/
theorem pairwise_of_take_merge {slots entries : List Slot} (hlen : slots.length = entries.length)
    (hentries : ∀ entry ∈ entries, cString entry.1 ∉ namesOf slots)
    (h : ((List.zipWith merge slots entries).take (slots.countP (·.Named))).map (fun entry => cString entry.1)
      = namesOf slots)
    : slots.Pairwise fun slot later => later.Named → slot.Named := by
  induction slots generalizing entries with
  | nil => apply List.Pairwise.nil
  | cons slot slots ih =>
    cases entries with
    | nil => cases hlen
    | cons entry entries =>
      rw [List.zipWith_cons_cons, List.countP_cons, namesOf_cons] at h
      rw [namesOf_cons, List.forall_mem_cons] at hentries
      by_cases hslot : slot.Named
      . rw [if_pos (decide_eq_true hslot), if_pos hslot, List.take_succ_cons, List.map_cons] at h
        rw [if_pos hslot] at hentries
        constructor
        . intro later _ _
          exact hslot
        . apply ih (Nat.succ.inj hlen) _ (List.tail_eq_of_cons_eq h)
          intro entry hentry hmem
          exact hentries.2 entry hentry (List.mem_cons_of_mem _ hmem)
      . rw [if_neg (by simp [hslot]), if_neg hslot, Nat.add_zero] at h
        rw [if_neg hslot] at hentries
        have hnone : slots.countP (·.Named) = 0 := by
          by_contra hsome
          obtain ⟨count, hcount⟩ := Nat.exists_eq_succ_of_ne_zero hsome
          rw [hcount, List.take_succ_cons, List.map_cons, merge, if_neg hslot] at h
          apply hentries.1
          rw [← h]
          apply List.mem_cons_self
        rw [List.countP_eq_zero] at hnone
        have hunnamed : ∀ later ∈ slot :: slots, ¬later.Named := by
          rw [List.forall_mem_cons]
          refine ⟨hslot, ?_⟩
          intro later hlater hnamed
          exact hnone later hlater (decide_eq_true hnamed)
        apply List.pairwise_of_forall_mem_list
        intro _ _ later hlater hnamed
        exact absurd hnamed (hunnamed later hlater)

theorem getDevList_eq (reply names : DevSlots) (devNum : Nat)
    : netmgmtUtilsGetDevList (some reply) (some devNum) names
        = ⟨0, some (reply.1.countP (·.Named)), List.zipWith merge reply.1 names.1⟩ := by
  unfold netmgmtUtilsGetDevList
  dsimp only
  rw [devListLoop_eq (by rw [Nat.zero_add, reply.2, names.2])]
  simp

theorem devListRight_of_packed {reply : DevSlots} (h : Packed reply) (names : DevSlots) (devNum : Nat)
    : DevListRight reply names devNum := by
  unfold DevListRight
  rw [getDevList_eq]
  dsimp only
  refine ⟨rfl, _, rfl, ?_⟩
  rw [take_merge (reply.2.trans names.2.symm) h]
  constructor
  . rw [List.map_map, namesOf_eq]
    apply List.map_congr_left
    intro slot _
    apply (strncpy32_terminated slot).1
  . intro entry hentry
    obtain ⟨slot, _, hslot⟩ := List.mem_map.mp hentry
    rw [← hslot]
    apply (strncpy32_terminated slot).2

theorem packed_of_devListRight {reply names : DevSlots} {devNum : Nat}
    (hnames : ∀ entry ∈ names.1, cString entry.1 ∉ namesOf reply.1) (h : DevListRight reply names devNum)
    : Packed reply := by
  unfold DevListRight at h
  rw [getDevList_eq] at h
  obtain ⟨_, count, hcount, hsame, _⟩ := h
  cases hcount
  exact pairwise_of_take_merge (reply.2.trans names.2.symm) hnames hsame

instance (reply : DevSlots) : Decidable (Packed reply) :=
  inferInstanceAs (Decidable (reply.1.Pairwise fun slot later => later.Named → slot.Named))

def blankSlots : DevSlots :=
  ⟨List.replicate 8 ⟨List.replicate 32 0, rfl⟩, rfl⟩

/-
The list is right whatever the caller's array held before, exactly if the reply has no hole before a name. With
one, it is wrong for each array that does not hold a name of the reply already.
-/
theorem getDevList_right_iff (reply : DevSlots) (devNum : Nat)
    : ((∀ names, DevListRight reply names devNum) ↔ Packed reply)
        ∧ (¬Packed reply → ∀ names : DevSlots, (∀ entry ∈ names.1, cString entry.1 ∉ namesOf reply.1) →
          ¬DevListRight reply names devNum) := by
  have hhole : ¬Packed reply → ∀ names : DevSlots, (∀ entry ∈ names.1, cString entry.1 ∉ namesOf reply.1) →
      ¬DevListRight reply names devNum := by
    intro hnot names hnames h
    exact hnot (packed_of_devListRight hnames h)
  constructor
  . constructor
    . intro h
      apply packed_of_devListRight _ (h blankSlots)
      intro entry hentry hmem
      have hblank := List.eq_of_mem_replicate hentry
      rw [hblank] at hmem
      have hne := (List.mem_filter.mp hmem).2
      exact absurd hne (by decide)
    . intro h names
      exact devListRight_of_packed h names devNum
  . exact hhole

/-
A reply with an empty slot and the name `u0` behind it.
-/
def replyWithHole : DevSlots :=
  ⟨⟨List.replicate 32 0, rfl⟩ :: ⟨0x75 :: 0x30 :: List.replicate 30 0, rfl⟩
    :: List.replicate 6 ⟨List.replicate 32 0, rfl⟩, rfl⟩

/-
One device is counted, and the first entry is blank.
-/
theorem getDevList_blank
    : (netmgmtUtilsGetDevList (some replyWithHole) (some 0) blankSlots).devNum = some 1
        ∧ (netmgmtUtilsGetDevList (some replyWithHole) (some 0) blankSlots).names.head?.map (cString ·.1)
          = some []
        ∧ ¬DevListRight replyWithHole blankSlots 0 := by
  have hpacked : ¬Packed replyWithHole := by
    decide
  refine ⟨by decide, by decide, ?_⟩
  intro h
  apply hpacked
  apply packed_of_devListRight _ h
  decide

end Netmgmt

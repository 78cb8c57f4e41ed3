import RtsmartLib.Lib.Machine
import Mathlib.Data.BitVec

/-!
This module contains the check that a range of physical memory lies in the zone of the kernel's media memory,
with the zone kept from the first answer on, and which ranges wrap into the zone.
-/

namespace Misc

open Lib

structure MmzZone where
  start : BitVec 64
  stop : BitVec 64
  deriving DecidableEq

/-
The static variables of the check.
-/
structure MmzInfo where
  valid : Bool
  start : BitVec 64
  stop : BitVec 64

/-
`answer` is what the device reports, if the ioctl succeeds.
-/
def canmvMiscGetMmzZoneInfo (answer : Option MmzZone) (info : MmzInfo) : Int × MmzInfo :=
  match answer with
  | none => (-1, info)
  | some zone => (0, { info with start := zone.start, stop := zone.stop })

def checkRange (info : MmzInfo) (addr size : BitVec 64) : Bool :=
  if addr < info.start then false
  else if addr + size > info.stop then false
  else true

def canmvMiscCheckPhysInMmzZone (answer : Option MmzZone) (info : MmzInfo) (addr size : BitVec 64)
    : Bool × MmzInfo :=
  if info.valid then
    (checkRange info addr size, info)
  else
    let r := canmvMiscGetMmzZoneInfo answer info
    if r.1 ≠ 0 then
      (false, r.2)
    else
      let info := { r.2 with valid := true }
      (checkRange info addr size, info)

structure CheckCall where
  answer : Option MmzZone
  addr : BitVec 64
  size : BitVec 64

/-
`reported` is the first zone that the device has reported.
-/
structure CheckLog where
  info : MmzInfo
  reported : Option MmzZone

def CheckLog.init : CheckLog :=
  ⟨⟨false, 0, 0⟩, none⟩

def checkMachine : Machine CheckLog CheckCall Bool :=
  ⟨fun s call =>
    let r := canmvMiscCheckPhysInMmzZone call.answer s.info call.addr call.size
    (⟨r.2, s.reported.or call.answer⟩, r.1)⟩

def MmzZone.Holds (zone : MmzZone) (addr size : BitVec 64) : Prop :=
  zone.start.toNat ≤ addr.toNat ∧ addr.toNat + size.toNat ≤ zone.stop.toNat

/--
The call accepts exactly the ranges that lie in the zone that has been reported.
-/
def ChecksZone (v : Machine.Visit CheckLog CheckCall Bool) : Prop :=
  v.obs = true ↔ ∃ zone, v.post.reported = some zone ∧ zone.Holds v.event.addr v.event.size

/--
The range starts in or behind the zone, and its end wraps to an address that is not behind the zone.
-/
def WrapsInto (v : Machine.Visit CheckLog CheckCall Bool) : Prop :=
  ∃ zone, v.pre.reported.or v.event.answer = some zone
    ∧ zone.start.toNat ≤ v.event.addr.toNat
    ∧ 2 ^ 64 ≤ v.event.addr.toNat + v.event.size.toNat
    ∧ v.event.addr.toNat + v.event.size.toNat - 2 ^ 64 ≤ zone.stop.toNat

/-
The static variables hold the zone that has been reported.
-/
def CheckInv (s : CheckLog) : Prop :=
  (s.info.valid = false ∧ s.reported = none)
    ∨ s.info.valid = true ∧ s.reported = some ⟨s.info.start, s.info.stop⟩

theorem checkRange_iff (info : MmzInfo) (addr size : BitVec 64)
    : checkRange info addr size = true
        ↔ info.start.toNat ≤ addr.toNat ∧ (addr.toNat + size.toNat) % 2 ^ 64 ≤ info.stop.toNat := by
  unfold checkRange
  simp only [gt_iff_lt, BitVec.lt_def, BitVec.toNat_add]
  by_cases hstart : addr.toNat < info.start.toNat
  . rw [if_pos hstart]
    simp only [Bool.false_eq_true, false_iff]
    omega
  . rw [if_neg hstart]
    by_cases hstop : info.stop.toNat < (addr.toNat + size.toNat) % 2 ^ 64
    . rw [if_pos hstop]
      simp only [Bool.false_eq_true, false_iff]
      omega
    . rw [if_neg hstop]
      simp only [true_iff]
      omega

/-
The sum wraps at most once.
-/
theorem holds_iff (zone : MmzZone) (addr size : BitVec 64)
    : (zone.start.toNat ≤ addr.toNat ∧ (addr.toNat + size.toNat) % 2 ^ 64 ≤ zone.stop.toNat
          ↔ zone.Holds addr size)
        ↔ ¬(zone.start.toNat ≤ addr.toNat ∧ 2 ^ 64 ≤ addr.toNat + size.toNat
          ∧ addr.toNat + size.toNat - 2 ^ 64 ≤ zone.stop.toNat) := by
  have haddr := addr.isLt
  have hsize := size.isLt
  have hstop := zone.stop.isLt
  unfold MmzZone.Holds
  omega

/-
What one call answers: nothing has been reported, or the zone that has been reported is checked.
-/
theorem checkMachine_step {s : CheckLog} (h : CheckInv s) (call : CheckCall)
    : let v := checkMachine.visit s call
      CheckInv v.post ∧ v.post.reported = s.reported.or call.answer
        ∧ ((s.reported.or call.answer = none ∧ v.obs = false)
          ∨ ∃ zone, s.reported.or call.answer = some zone
            ∧ v.obs = checkRange ⟨true, zone.start, zone.stop⟩ call.addr call.size) := by
  obtain ⟨info, reported⟩ := s
  simp only [checkMachine, Machine.visit, canmvMiscCheckPhysInMmzZone]
  cases h with
  | inl hnone =>
    obtain ⟨hvalid, hreported⟩ := hnone
    dsimp only at hvalid hreported
    rw [hreported, hvalid, Option.none_or]
    cases hanswer : call.answer with
    | none => exact ⟨Or.inl ⟨hvalid, rfl⟩, trivial, Or.inl ⟨rfl, rfl⟩⟩
    | some zone => exact ⟨Or.inr ⟨rfl, rfl⟩, trivial, Or.inr ⟨zone, rfl, rfl⟩⟩
  | inr hsome =>
    obtain ⟨hvalid, hreported⟩ := hsome
    dsimp only at hvalid hreported
    rw [hreported, if_pos hvalid]
    exact ⟨Or.inr ⟨hvalid, rfl⟩, trivial, Or.inr ⟨_, rfl, rfl⟩⟩

theorem checksZone_iff {s : CheckLog} (h : CheckInv s) (call : CheckCall)
    : ChecksZone (checkMachine.visit s call) ↔ ¬WrapsInto (checkMachine.visit s call) := by
  obtain ⟨_, hreported, hanswer⟩ := checkMachine_step h call
  unfold ChecksZone WrapsInto
  rw [hreported, Machine.visit_event, Machine.visit_pre]
  cases hanswer with
  | inl hnone =>
    rw [hnone.1, hnone.2]
    simp
  | inr hsome =>
    obtain ⟨zone, hzone, hobs⟩ := hsome
    rw [hzone, hobs, checkRange_iff]
    simp only [Option.some.injEq, exists_eq_left']
    apply holds_iff

/-
In a run all calls check the zone that the device has reported exactly if no range of them wraps into it.
-/
theorem checkMachine_checksZone_iff (calls : List CheckCall)
    : (∀ v ∈ checkMachine.visits .init calls, ChecksZone v)
        ↔ ∀ v ∈ checkMachine.visits .init calls, ¬WrapsInto v := by
  apply Machine.forall_visits_iff CheckInv
  . intro s call h _
    apply (checkMachine_step h call).1
  . intro s call h
    apply checksZone_iff h
  . exact Or.inl ⟨rfl, rfl⟩

/-
The last page of the address space, with a zone that is far from it.
-/
theorem checkMachine_accepts_wrapped
    : let call : CheckCall := ⟨some ⟨0x10000000, 0x20000000⟩, 0xfffffffffffff000, 0x1000⟩
      ∃ v ∈ checkMachine.visits .init [call], v.obs = true ∧ ¬ChecksZone v := by
  refine ⟨_, .head _, ?_, ?_⟩
  . decide
  . rw [checksZone_iff (Or.inl ⟨rfl, rfl⟩)]
    rw [not_not]
    exact ⟨_, rfl, by decide, by decide, by decide⟩

end Misc

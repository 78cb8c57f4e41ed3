import RtsmartLib.Lvgl.Vglite

/-!
This module contains the look-up of the address that the GPU sees memory at. What has been found for memory
outside of the registered buffers is remembered, which is right as long as that memory stays where it is and
needs no clean.
-/

namespace Lvgl

open Lib

/-
What the driver answers about memory of the process: `vg_lite_get_memory_address` with whether the memory is
cacheable, and whether `vg_lite_clean_memory` succeeds.
-/
structure UserMemory where
  getMemoryAddress : Nat → Nat → Option (Nat × Bool)
  cleanMemory : Nat → Nat → Bool

structure VgliteSystem where
  vglite : VgliteState
  memory : UserMemory

/-
The address that is found, and the ranges that are cleaned for it.
-/
structure AddressAnswer where
  addr : Option Nat
  cleaned : List (Nat × Nat)
  deriving DecidableEq, Repr

def addressCacheIndex (ptr size : Nat) : Nat :=
  let key := ptr
  let key := key ^^^ (key >>> 17)
  let key := key ^^^ (key >>> 31)
  let key := key ^^^ (size * 2654435761)
  key % addressCacheCount

def addressCacheLookupLocked (sAddressCache : Nat → LvK230VgliteAddressCache) (ptr size : Nat)
    : Option Nat :=
  let entry := sAddressCache (addressCacheIndex ptr size)
  if entry.virt ≠ ptr ∨ entry.size ≠ size then none else some entry.address

def addressCacheStoreLocked (sAddressCache : Nat → LvK230VgliteAddressCache) (ptr size address : Nat)
    : Nat → LvK230VgliteAddressCache :=
  Function.update sAddressCache (addressCacheIndex ptr size) ⟨ptr, size, address⟩

/-
The address of a range in a registered buffer, if the GPU can address it.
-/
def nodeAddress (sBuffers : List LvK230VgliteBufferNode) (ptr size : Nat) : Option Nat :=
  match findNodeLocked sBuffers ptr size with
  | some (node, offset) =>
    if node.phys ≤ uint32Max ∧ offset ≤ uint32Max - node.phys then some (node.phys + offset) else none
  | none => none

def querySize (size : Nat) : Nat :=
  if size ≠ 0 then size else 1

/-
The part of the look-up that asks the driver.
-/
def queryMemory (memory : UserMemory) (ptr querySize : Nat) : AddressAnswer :=
  match memory.getMemoryAddress ptr querySize with
  | none => ⟨none, []⟩
  | some (address, cacheable) =>
    if cacheable then
      ⟨if memory.cleanMemory ptr querySize then some address else none, [(ptr, querySize)]⟩
    else
      ⟨some address, []⟩

def lvVgLitePortGetBufferAddr (ptr size : Nat) (sys : VgliteSystem) : AddressAnswer × VgliteState :=
  let s := sys.vglite
  if ptr = 0 then
    (⟨none, []⟩, s)
  else
    match nodeAddress s.sBuffers ptr size with
    | some addr => (⟨some addr, []⟩, s)
    | none =>
      match addressCacheLookupLocked s.sAddressCache ptr (querySize size) with
      | some address => (⟨some address, []⟩, s)
      | none =>
        let answer := queryMemory sys.memory ptr (querySize size)
        match answer.addr with
        | none => (answer, s)
        | some address =>
          let sAddressCache := addressCacheStoreLocked s.sAddressCache ptr (querySize size) address
          (answer, { s with sAddressCache := sAddressCache })

/--
What a look-up answers that remembers nothing.
-/
def uncachedBufferAddr (ptr size : Nat) (sys : VgliteSystem) : AddressAnswer :=
  if ptr = 0 then
    ⟨none, []⟩
  else
    match nodeAddress sys.vglite.sBuffers ptr size with
    | some addr => ⟨some addr, []⟩
    | none => queryMemory sys.memory ptr (querySize size)

/-
A change of the registry, a change of the memory of the process, or a look-up.
-/
inductive AddressOp where
  | registry (op : VgliteOp)
  | remap (memory : UserMemory)
  | getBufferAddr (ptr size : Nat)

def addressMachine : Machine VgliteSystem AddressOp (Option AddressAnswer) :=
  ⟨fun sys op =>
    match op with
    | .registry op => ({ sys with vglite := (op.perform sys.vglite).state }, none)
    | .remap memory => ({ sys with memory := memory }, none)
    | .getBufferAddr ptr size =>
      let (answer, vglite) := lvVgLitePortGetBufferAddr ptr size sys
      ({ sys with vglite := vglite }, some answer)⟩

abbrev AddressVisit := Machine.Visit VgliteSystem AddressOp (Option AddressAnswer)

def AnswersAsUncached (v : AddressVisit) : Prop :=
  match v.event with
  | .getBufferAddr ptr size => v.obs = some (uncachedBufferAddr ptr size v.pre)
  | _ => True

/-
Whether a call drops all remembered addresses.
-/
def VgliteOp.drops (op : VgliteOp) : Bool :=
  match op with
  | .register virt _ size _ calloc => virt ≠ 0 && size ≠ 0 && calloc.isSome
  | .unregister virt => virt ≠ 0
  | .malloc .. | .free _ | .map .. => false

def AddressOp.drops (op : AddressOp) : Bool :=
  match op with
  | .registry op => op.drops
  | .remap _ | .getBufferAddr .. => false

/-
The address that the driver gives for memory outside of the registered buffers.
-/
def driverAddress (ptr size : Nat) (sys : VgliteSystem) : Option Nat :=
  if ptr = 0 ∨ (nodeAddress sys.vglite.sBuffers ptr size).isSome then
    none
  else
    (queryMemory sys.memory ptr (querySize size)).addr

/-
What there is to remember of a step in the place `index`: a look-up that the driver gives an address for.
-/
def answeredAt (index : Nat) (v : AddressVisit) : Option LvK230VgliteAddressCache :=
  match v.event with
  | .getBufferAddr ptr size =>
    if addressCacheIndex ptr (querySize size) = index then
      (driverAddress ptr size v.pre).map (fun address => ⟨ptr, querySize size, address⟩)
    else
      none
  | .registry _ | .remap _ => none

/--
Of the look-ups with this index that the driver gave an address for, the last one since the addresses were dropped.
-/
def lastAnswered (index : Nat) (past : List AddressVisit) : Option LvK230VgliteAddressCache :=
  (past.reverse.takeWhile (fun v => !v.event.drops)).findSome? (answeredAt index)

/--
The range lies in no registered buffer that the GPU can address. Of the look-ups with its index the last one that the
driver gave an address for was of the same range, and since then no address has been dropped and the memory has moved,
is gone or is cacheable.
-/
def FindsStale (past : List AddressVisit) (v : AddressVisit) : Prop :=
  match v.event with
  | .getBufferAddr ptr size =>
    ptr ≠ 0 ∧ nodeAddress v.pre.vglite.sBuffers ptr size = none
      ∧ ∃ address,
        lastAnswered (addressCacheIndex ptr (querySize size)) past = some ⟨ptr, querySize size, address⟩
          ∧ v.pre.memory.getMemoryAddress ptr (querySize size) ≠ some (address, false)
  | .registry _ | .remap _ => False

instance (v : AddressVisit) : Decidable (AnswersAsUncached v) :=
  match v with
  | ⟨_, .getBufferAddr .., _, _⟩ => inferInstanceAs (Decidable (_ = _))
  | ⟨_, .registry _, _, _⟩ | ⟨_, .remap _, _, _⟩ => inferInstanceAs (Decidable True)

theorem queryMemory_eq_iff {memory : UserMemory} {ptr size address : Nat}
    : (⟨some address, []⟩ : AddressAnswer) = queryMemory memory ptr size
        ↔ memory.getMemoryAddress ptr size = some (address, false) := by
  unfold queryMemory
  cases memory.getMemoryAddress ptr size with
  | none => simp
  | some found =>
    obtain ⟨address', cacheable⟩ := found
    cases cacheable with
    | true => simp
    | false =>
      simp only [Bool.false_eq_true, if_false, AddressAnswer.mk.injEq, Option.some.injEq, and_true,
        Prod.mk.injEq]
      exact eq_comm

section

variable {past : List AddressVisit} {v : AddressVisit} {index : Nat}

theorem lastAnswered_of_drops (h : v.event.drops = true) : lastAnswered index (past ++ [v]) = none := by
  unfold lastAnswered
  rw [List.reverse_append, List.reverse_singleton, List.singleton_append]
  rw [List.takeWhile_cons_of_neg (by rw [h]; decide)]
  rfl

theorem lastAnswered_of_not_drops (h : v.event.drops = false)
    : lastAnswered index (past ++ [v]) = (answeredAt index v).or (lastAnswered index past) := by
  unfold lastAnswered
  rw [List.reverse_append, List.reverse_singleton, List.singleton_append]
  rw [List.takeWhile_cons_of_pos (by rw [h]; rfl), List.findSome?_cons]
  cases answeredAt index v with
  | none => rfl
  | some entry => rfl

end

theorem lvK230VgliteRegisterBuffer_sAddressCache (virt phys size : Nat) (cached : Bool) (calloc : Option Nat)
    (s : VgliteState)
    : (lvK230VgliteRegisterBuffer virt phys size cached calloc s).state.sAddressCache
        = if (VgliteOp.register virt phys size cached calloc).drops then addressCacheClear else s.sAddressCache := by
  unfold lvK230VgliteRegisterBuffer
  by_cases hnull : virt = 0 ∨ size = 0
  . have hdrops : (VgliteOp.register virt phys size cached calloc).drops = false := by
      simp [VgliteOp.drops]
      omega
    rw [if_pos hnull, hdrops]
    rfl
  . rw [if_neg hnull]
    cases calloc with
    | none =>
      have hdrops : (VgliteOp.register virt phys size cached none).drops = false := by
        simp [VgliteOp.drops]
      rw [hdrops]
      rfl
    | some addr =>
      have hdrops : (VgliteOp.register virt phys size cached (some addr)).drops = true := by
        simp [VgliteOp.drops]
        omega
      rw [hdrops, if_pos rfl]
      dsimp only
      split
      . split
        . rfl
        . rfl
      . rfl

theorem lvK230VgliteUnregisterBuffer_sAddressCache (virt : Nat) (s : VgliteState)
    : (lvK230VgliteUnregisterBuffer virt s).state.sAddressCache
        = if (VgliteOp.unregister virt).drops then addressCacheClear else s.sAddressCache := by
  unfold lvK230VgliteUnregisterBuffer
  by_cases hnull : virt = 0
  . rw [if_pos hnull, hnull]
    rfl
  . have hdrops : (VgliteOp.unregister virt).drops = true := by
      simp [VgliteOp.drops, hnull]
    rw [if_neg hnull, hdrops, if_pos rfl]
    dsimp only
    split
    . rfl
    . rfl

/-
Only registering and unregistering drop the remembered addresses.
-/
theorem perform_sAddressCache (op : VgliteOp) (s : VgliteState)
    : (op.perform s).state.sAddressCache = if op.drops then addressCacheClear else s.sAddressCache := by
  cases op with
  | register virt phys size cached calloc =>
    apply lvK230VgliteRegisterBuffer_sAddressCache
  | unregister virt =>
    apply lvK230VgliteUnregisterBuffer_sAddressCache
  | malloc size mmzAlloc calloc =>
    change (drawBufMalloc size mmzAlloc calloc s).state.sAddressCache = s.sAddressCache
    unfold drawBufMalloc
    repeat' split
    all_goals rfl
  | free buf =>
    change (drawBufFree buf s).state.sAddressCache = s.sAddressCache
    unfold drawBufFree
    repeat' split
    all_goals rfl
  | map memory size vgLiteMap =>
    change (mapBufferPlane memory size vgLiteMap s).state.sAddressCache = s.sAddressCache
    unfold mapBufferPlane
    repeat' split
    all_goals rfl

/--
The address cache holds in each place what the driver answered last for it.
-/
def CacheInv (past : List AddressVisit) (sys : VgliteSystem) : Prop :=
  ∀ index, sys.vglite.sAddressCache index = (lastAnswered index past).getD ⟨0, 0, 0⟩

theorem CacheInv.lookup {past : List AddressVisit} {sys : VgliteSystem} (hinv : CacheInv past sys)
    {ptr : Nat} (hptr : ptr ≠ 0) (size address : Nat)
    : addressCacheLookupLocked sys.vglite.sAddressCache ptr size = some address
        ↔ lastAnswered (addressCacheIndex ptr size) past = some ⟨ptr, size, address⟩ := by
  unfold addressCacheLookupLocked
  dsimp only
  rw [hinv]
  cases lastAnswered (addressCacheIndex ptr size) past with
  | none =>
    -- a zeroed entry is of no pointer
    simp [Ne.symm hptr]
  | some entry =>
    obtain ⟨virt, size', address'⟩ := entry
    simp only [Option.getD_some, Option.some.injEq, LvK230VgliteAddressCache.mk.injEq]
    constructor
    . intro h
      split at h
      . cases h
      next hsame =>
        cases h
        omega
    . intro ⟨hvirt, hsize, haddress⟩
      rw [if_neg (by omega), haddress]

theorem CacheInv.same {past : List AddressVisit} {sys sys' : VgliteSystem} (hinv : CacheInv past sys)
    {v : AddressVisit} (hdrops : v.event.drops = false)
    (hcache : ∀ index, sys'.vglite.sAddressCache index
      = (answeredAt index v).getD (sys.vglite.sAddressCache index))
    : CacheInv (past ++ [v]) sys' := by
  intro index
  rw [hcache, lastAnswered_of_not_drops hdrops, hinv]
  cases answeredAt index v with
  | none => rfl
  | some entry => rfl

theorem registry_cacheInv {past : List AddressVisit} {sys : VgliteSystem} (hinv : CacheInv past sys) (op : VgliteOp)
    : CacheInv (past ++ [addressMachine.visit sys (.registry op)]) (addressMachine.step sys (.registry op)).1 := by
  have hcache : (addressMachine.step sys (.registry op)).1.vglite.sAddressCache
      = if op.drops then addressCacheClear else sys.vglite.sAddressCache :=
    perform_sAddressCache op sys.vglite
  cases hdrops : op.drops with
  | true =>
    intro index
    have hlast : lastAnswered index (past ++ [addressMachine.visit sys (.registry op)]) = none :=
      lastAnswered_of_drops hdrops
    rw [hcache, hdrops, hlast]
    rfl
  | false =>
    apply hinv.same (v := addressMachine.visit sys (.registry op)) hdrops
    intro index
    rw [hcache, hdrops]
    rfl

theorem lvVgLitePortGetBufferAddr_answer (ptr size : Nat) (sys : VgliteSystem)
    : (lvVgLitePortGetBufferAddr ptr size sys).1 = uncachedBufferAddr ptr size sys
        ↔ ¬(ptr ≠ 0 ∧ nodeAddress sys.vglite.sBuffers ptr size = none
          ∧ ∃ address,
            addressCacheLookupLocked sys.vglite.sAddressCache ptr (querySize size) = some address
              ∧ sys.memory.getMemoryAddress ptr (querySize size) ≠ some (address, false)) := by
  unfold lvVgLitePortGetBufferAddr uncachedBufferAddr
  by_cases hptr : ptr = 0
  . simp [hptr]
  . simp only [if_neg hptr]
    cases hnode : nodeAddress sys.vglite.sBuffers ptr size with
    | some addr => simp
    | none =>
      simp only []
      cases hlookup : addressCacheLookupLocked sys.vglite.sAddressCache ptr (querySize size) with
      | some address =>
        simp only [queryMemory_eq_iff]
        simp [hptr]
      | none =>
        cases hanswer : (queryMemory sys.memory ptr (querySize size)).addr with
        | none => simp
        | some address => simp

section

variable {ptr size : Nat} {sys : VgliteSystem}

theorem driverAddress_eq_some {address : Nat} (h : driverAddress ptr size sys = some address)
    : ptr ≠ 0 ∧ nodeAddress sys.vglite.sBuffers ptr size = none
      ∧ (queryMemory sys.memory ptr (querySize size)).addr = some address := by
  unfold driverAddress at h
  split at h
  . cases h
  next hasked =>
    rw [not_or, Option.not_isSome_iff_eq_none] at hasked
    exact ⟨hasked.1, hasked.2, h⟩

theorem driverAddress_of_outside (hptr : ptr ≠ 0) (hnode : nodeAddress sys.vglite.sBuffers ptr size = none)
    : driverAddress ptr size sys = (queryMemory sys.memory ptr (querySize size)).addr := by
  unfold driverAddress
  rw [if_neg (by simp [hptr, hnode])]

/-
Nothing is stored without an answer of the driver.
-/
theorem getBufferAddr_cache_of_none (h : driverAddress ptr size sys = none)
    : (lvVgLitePortGetBufferAddr ptr size sys).2.sAddressCache = sys.vglite.sAddressCache := by
  unfold lvVgLitePortGetBufferAddr
  dsimp only
  split
  . rfl
  next hptr =>
    split
    . rfl
    next hnode =>
      split
      . rfl
      . rw [driverAddress_of_outside hptr hnode] at h
        rw [h]

theorem getBufferAddr_cache_of_some {address : Nat} (h : driverAddress ptr size sys = some address)
    : (lvVgLitePortGetBufferAddr ptr size sys).2.sAddressCache
        = if (addressCacheLookupLocked sys.vglite.sAddressCache ptr (querySize size)).isSome then
            sys.vglite.sAddressCache
          else
            addressCacheStoreLocked sys.vglite.sAddressCache ptr (querySize size) address := by
  obtain ⟨hptr, hnode, haddr⟩ := driverAddress_eq_some h
  unfold lvVgLitePortGetBufferAddr
  simp only [if_neg hptr, hnode, haddr]
  cases addressCacheLookupLocked sys.vglite.sAddressCache ptr (querySize size) with
  | none => rfl
  | some found => rfl

/-
A look-up that finds nothing stale leaves in the cache what the driver answers now: either it has just been stored or
the driver has answered the same before.
-/
theorem getBufferAddr_cacheInv {past : List AddressVisit} (hinv : CacheInv past sys)
    (hclean : ¬FindsStale past (addressMachine.visit sys (.getBufferAddr ptr size)))
    : CacheInv (past ++ [addressMachine.visit sys (.getBufferAddr ptr size)])
        (addressMachine.step sys (.getBufferAddr ptr size)).1 := by
  apply hinv.same rfl
  intro index
  change (lvVgLitePortGetBufferAddr ptr size sys).2.sAddressCache index = _
  simp only [answeredAt, Machine.visit_event, Machine.visit_pre]
  cases hanswer : driverAddress ptr size sys with
  | none =>
    rw [getBufferAddr_cache_of_none hanswer]
    simp
  | some address =>
    rw [getBufferAddr_cache_of_some hanswer]
    obtain ⟨hptr, hnode, haddr⟩ := driverAddress_eq_some hanswer
    cases hlookup : addressCacheLookupLocked sys.vglite.sAddressCache ptr (querySize size) with
    | some found =>
      -- what is remembered is what the driver would answer
      have hlast := (hinv.lookup hptr (querySize size) found).mp hlookup
      have hsame : sys.memory.getMemoryAddress ptr (querySize size) = some (found, false) := by
        apply Classical.byContradiction
        intro hne
        exact hclean ⟨hptr, hnode, found, hlast, hne⟩
      rw [← queryMemory_eq_iff.mpr hsame] at haddr
      cases haddr
      rw [Option.isSome_some, if_pos rfl]
      split
      next hindex =>
        rw [← hindex, hinv, hlast]
        rfl
      . rfl
    | none =>
      rw [if_neg (by simp)]
      unfold addressCacheStoreLocked
      split
      next hindex =>
        rw [hindex, Function.update_self]
        rfl
      next hindex =>
        rw [Function.update_of_ne (Ne.symm hindex)]
        rfl

end

theorem addressMachine_cacheInv {past : List AddressVisit} {sys : VgliteSystem} (hinv : CacheInv past sys)
    {op : AddressOp} (hclean : ¬FindsStale past (addressMachine.visit sys op))
    : CacheInv (past ++ [addressMachine.visit sys op]) (addressMachine.step sys op).1 := by
  cases op with
  | registry op =>
    apply registry_cacheInv hinv
  | remap memory =>
    apply hinv.same rfl
    intro index
    rfl
  | getBufferAddr ptr size =>
    apply getBufferAddr_cacheInv hinv hclean

theorem addressMachine_visit_iff {past : List AddressVisit} {sys : VgliteSystem} (hinv : CacheInv past sys)
    (op : AddressOp)
    : AnswersAsUncached (addressMachine.visit sys op) ↔ ¬FindsStale past (addressMachine.visit sys op) := by
  cases op with
  | registry op => simp [AnswersAsUncached, FindsStale]
  | remap memory => simp [AnswersAsUncached, FindsStale]
  | getBufferAddr ptr size =>
    have hobs : (addressMachine.visit sys (.getBufferAddr ptr size)).obs
        = some (lvVgLitePortGetBufferAddr ptr size sys).1 := rfl
    simp only [AnswersAsUncached, FindsStale, Machine.visit_event, hobs, Machine.visit_pre, Option.some.injEq]
    rw [lvVgLitePortGetBufferAddr_answer]
    by_cases hptr : ptr = 0
    . simp [hptr]
    . simp only [hinv.lookup hptr]

/--
In a run that starts with an empty cache, all look-ups are answered as without the cache exactly if none of them is of a
range that the driver has answered for before, with the last look-up of its index since the addresses were dropped,
and answers otherwise for now.
-/
theorem addressMachine_answers (sBuffers : List LvK230VgliteBufferNode) (sGpuInited : Bool) (memory : UserMemory)
    (ops : List AddressOp)
    : (∀ v ∈ addressMachine.visits ⟨⟨sBuffers, addressCacheClear, sGpuInited⟩, memory⟩ ops, AnswersAsUncached v)
        ↔ ∀ past v later,
          addressMachine.visits ⟨⟨sBuffers, addressCacheClear, sGpuInited⟩, memory⟩ ops = past ++ v :: later →
            ¬FindsStale past v := by
  have hinv : CacheInv [] ⟨⟨sBuffers, addressCacheClear, sGpuInited⟩, memory⟩ := by
    intro index
    rfl
  exact @Machine.forall_visits_iff_past _ _ _ addressMachine CacheInv AnswersAsUncached FindsStale
    (fun _ _ _ hinv hclean => addressMachine_cacheInv hinv hclean)
    (fun _ _ op hinv => addressMachine_visit_iff hinv op) [] _ hinv ops

def memoryAt (address : Nat) (cacheable : Bool) : UserMemory :=
  ⟨fun _ _ => some (address, cacheable), fun _ _ => true⟩

/-
Heap memory is freed and mapped again elsewhere between two look-ups, or is cacheable and looked up twice.
-/
theorem addressMachine_finds_stale
    : (¬∀ v ∈ addressMachine.visits ⟨.init, memoryAt 65536 false⟩
        [.getBufferAddr 4096 64, .remap (memoryAt 131072 false), .getBufferAddr 4096 64],
          AnswersAsUncached v)
        ∧ ¬∀ v ∈ addressMachine.visits ⟨.init, memoryAt 65536 true⟩
          [.getBufferAddr 4096 64, .getBufferAddr 4096 64], AnswersAsUncached v := by
  decide +kernel

end Lvgl

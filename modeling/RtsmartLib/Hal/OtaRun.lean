import RtsmartLib.Hal.Ota

/-!
This module contains that an update ends and hands over the image unchanged, unless the device takes nothing
any more or the image ends too early.
-/

namespace Ota

open Lib Posix

def WriteResult.progress (r : WriteResult) : Progress :=
  match r with
  | .wrote n => .took n
  | .error errno => if errno = eintr then .retry else .stop

theorem idle_iff (r : WriteResult)
    : Idle WriteResult.progress r ↔ r = .wrote 0 ∨ r = .error eintr := by
  unfold Idle WriteResult.progress
  cases r with
  | wrote n => simp
  | error errno =>
    by_cases h : errno = eintr
    . simp [h]
    . simp [h]

/-
How an update ends that has sent as much as the transmission of its buffer.
-/
def updateEnd (ctx : K230OtaCtx) (size : Nat) (target : List Byte) (t : Transmission Byte WriteResult)
    : UpdateRun :=
  if t.left = [] then
    .returned 0 (some { ctx with totalWritten := ctx.totalWritten + size }) (target ++ t.sent) t.rest
  else if t.stopped then
    .returned (-1) (some ctx) (target ++ t.sent) t.rest
  else
    .waiting t.left (target ++ t.sent)

theorem k230OtaUpdateLoop_eq (ctx : K230OtaCtx) (size : Nat) (p target : List Byte)
    (writes : List WriteResult)
    : k230OtaUpdateLoop ctx size p target writes
        = updateEnd ctx size target (transmit WriteResult.progress p writes) := by
  induction writes generalizing p target with
  | nil =>
    cases p with
    | nil => simp [k230OtaUpdateLoop, updateEnd, transmit]
    | cons b p => simp [k230OtaUpdateLoop, updateEnd, transmit]
  | cons r writes ih =>
    cases p with
    | nil => simp [k230OtaUpdateLoop, updateEnd, transmit]
    | cons b p =>
      cases r with
      | wrote n =>
        rw [k230OtaUpdateLoop, ih, transmit_cons WriteResult.progress (List.cons_ne_nil b p)]
        unfold updateEnd
        dsimp only [WriteResult.progress]
        rewrite [List.append_assoc]
        rfl
      | error errno =>
        by_cases hintr : errno = eintr
        . rw [k230OtaUpdateLoop, if_pos hintr, ih]
          simp [transmit, WriteResult.progress, hintr]
        . rw [k230OtaUpdateLoop, if_neg hintr]
          simp [updateEnd, transmit, WriteResult.progress, hintr]

def CtxOpen (ctx : Option K230OtaCtx) : Prop :=
  ∃ c, ctx = some c ∧ 0 ≤ c.fd

section

variable {ctx : Option K230OtaCtx} (hctx : CtxOpen ctx) {buf : List Byte} (hbuf : buf ≠ [])
    (target : List Byte)

include hctx hbuf

theorem k230OtaUpdate_eq (writes : List WriteResult)
    : ∃ c, ctx = some c ∧ 0 ≤ c.fd
        ∧ k230OtaUpdate ctx (some buf) target writes
          = updateEnd c buf.length target (transmit WriteResult.progress buf writes) := by
  obtain ⟨c, hsome, hfd⟩ := hctx
  have hlen : 0 < buf.length := List.length_pos_iff.mpr hbuf
  exists c
  rw [hsome]
  refine ⟨rfl, hfd, ?_⟩
  unfold k230OtaUpdate
  dsimp only
  rw [if_neg (by omega), k230OtaUpdateLoop_eq]

theorem update_returned {writes : List WriteResult} {ret : Int} {ctx' : Option K230OtaCtx}
    {target' : List Byte} {rest : List WriteResult}
    (h : k230OtaUpdate ctx (some buf) target writes = .returned ret ctx' target' rest)
    : CtxOpen ctx' ∧ (0 ≤ ret → target' = target ++ buf)
        ∧ ∀ more, k230OtaUpdate ctx (some buf) target (writes ++ more)
          = .returned ret ctx' target' (rest ++ more) := by
  obtain ⟨c, hsome, hfd, heq⟩ := k230OtaUpdate_eq hctx hbuf target writes
  have hmore := (transmit_append WriteResult.progress buf writes)
  have hsent := transmit_sent WriteResult.progress buf writes
  rw [heq] at h
  unfold updateEnd at h
  split at h
  next hleft =>
    cases h
    refine ⟨⟨_, rfl, hfd⟩, ?_, ?_⟩
    . intro _
      rw [hleft, List.append_nil] at hsent
      rw [hsent]
    . intro more
      obtain ⟨c', hsome', _, heq'⟩ := k230OtaUpdate_eq hctx hbuf target (writes ++ more)
      have hsame : c' = c := Option.some.inj (hsome'.symm.trans hsome)
      rw [heq', (hmore more).2 (fun hwaits => hwaits.1 hleft), hsame]
      simp [updateEnd, hleft]
  next hleft =>
    split at h
    next hstopped =>
      cases h
      refine ⟨⟨_, rfl, hfd⟩, ?_, ?_⟩
      . intro hneg
        cases hneg
      . intro more
        obtain ⟨c', hsome', _, heq'⟩ := k230OtaUpdate_eq hctx hbuf target (writes ++ more)
        have hsame : c' = c := Option.some.inj (hsome'.symm.trans hsome)
        have hended : ¬(transmit WriteResult.progress buf writes).Waits := by
          intro hwaits
          rw [hwaits.2] at hstopped
          cases hstopped
        rw [heq', (hmore more).2 hended, hsame]
        simp [updateEnd, hleft, hstopped]
    next => cases h

theorem update_waiting {writes : List WriteResult} {p target' : List Byte}
    (h : k230OtaUpdate ctx (some buf) target writes = .waiting p target')
    : target' ++ p = target ++ buf
        ∧ ∀ more, (∀ r ∈ more, Idle WriteResult.progress r) →
          k230OtaUpdate ctx (some buf) target (writes ++ more) = .waiting p target' := by
  obtain ⟨c, hsome, hfd, heq⟩ := k230OtaUpdate_eq hctx hbuf target writes
  have hmore := (transmit_append WriteResult.progress buf writes)
  have hsent := transmit_sent WriteResult.progress buf writes
  rw [heq] at h
  unfold updateEnd at h
  split at h
  next => cases h
  next hleft =>
    split at h
    next => cases h
    next hstopped =>
      rw [Bool.not_eq_true] at hstopped
      cases h
      constructor
      . rw [List.append_assoc, hsent]
      . intro more hidle
        obtain ⟨c', hsome', _, heq'⟩ := k230OtaUpdate_eq hctx hbuf target (writes ++ more)
        rw [heq', (hmore more).1 ⟨hleft, hstopped⟩, transmit_idle _ hleft hidle]
        simp [updateEnd, hleft]

/-
On an endless stream the update returns with a result of the stream, or it waits where nothing but idle
results follow.
-/
theorem update_ends_or_idle (writes : Stream' WriteResult)
    : ∃ m, (∃ ret ctx' target', k230OtaUpdate ctx (some buf) target (writes.take m)
            = .returned ret ctx' target' [])
        ∨ ((∃ p target', k230OtaUpdate ctx (some buf) target (writes.take m) = .waiting p target')
          ∧ ∀ k, m ≤ k → Idle WriteResult.progress (writes.get k)) := by
  obtain ⟨m, hm⟩ := transmit_ends_or_idle WriteResult.progress buf writes
  obtain ⟨c, _, _, heq⟩ := k230OtaUpdate_eq hctx hbuf target (writes.take m)
  exists m
  rw [heq]
  cases hm with
  | inl hended =>
    refine Or.inl ?_
    unfold updateEnd
    rw [hended.2]
    split
    . exact ⟨_, _, _, rfl⟩
    next hleft =>
      split
      . exact ⟨_, _, _, rfl⟩
      next hstopped =>
        rw [Bool.not_eq_true] at hstopped
        exact absurd ⟨hleft, hstopped⟩ hended.1
  | inr hwaits =>
    refine Or.inr ⟨?_, hwaits.2⟩
    unfold updateEnd
    rw [if_neg hwaits.1.1, hwaits.1.2]
    exact ⟨_, _, rfl⟩

end

section

variable {chunkSize : Nat}

/-
What the loop does with a read of `count` bytes, whatever the calls return that follow.
-/
inductive AfterRead (chunkSize : Nat) (ctx : Option K230OtaCtx) (rest target : List Byte)
    (writes : List WriteResult) (count : Nat) : Prop where
  | ended (hend : (rest.take (min count chunkSize)).length = 0)
      (hloop : ∀ reads more,
        k230OtaWriteFileLoop chunkSize ctx rest target (writes ++ more) (.got count :: reads)
          = .returned 0 target (writes ++ more))
  | waits (p target' : List Byte)
      (hloop : ∀ reads more, (∀ r ∈ more, Idle WriteResult.progress r) →
        k230OtaWriteFileLoop chunkSize ctx rest target (writes ++ more) (.got count :: reads)
          = .writing p (rest.drop (min count chunkSize)) target')
  | failed (target' : List Byte) (writes' : List WriteResult)
      (hloop : ∀ reads more,
        k230OtaWriteFileLoop chunkSize ctx rest target (writes ++ more) (.got count :: reads)
          = .returned (-1) target' (writes' ++ more))
  | written (ctx' : Option K230OtaCtx) (writes' : List WriteResult) (hctx : CtxOpen ctx')
      (hloop : ∀ reads more,
        k230OtaWriteFileLoop chunkSize ctx rest target (writes ++ more) (.got count :: reads)
          = k230OtaWriteFileLoop chunkSize ctx' (rest.drop (min count chunkSize))
              (target ++ rest.take (min count chunkSize)) (writes' ++ more) reads)

theorem afterRead {ctx : Option K230OtaCtx} (hctx : CtxOpen ctx) (rest target : List Byte)
    (writes : List WriteResult) (count : Nat)
    : AfterRead chunkSize ctx rest target writes count := by
  by_cases hrd : (rest.take (min count chunkSize)).length > 0
  . cases hupdate : k230OtaUpdate ctx (some (rest.take (min count chunkSize))) target writes with
    | waiting p target' =>
      obtain ⟨_, hstays⟩ := update_waiting hctx (List.length_pos_iff.mp hrd) _ hupdate
      apply AfterRead.waits p target'
      intro reads more hidle
      rw [k230OtaWriteFileLoop]
      rw [if_pos hrd, hstays more hidle]
    | returned ret ctx' target' writes' =>
      obtain ⟨hopen, hsent, hmore⟩ := update_returned hctx (List.length_pos_iff.mp hrd) _ hupdate
      by_cases hneg : ret < 0
      . apply AfterRead.failed target' writes'
        intro reads more
        rw [k230OtaWriteFileLoop]
        rw [if_pos hrd, hmore]
        dsimp only
        rw [if_pos hneg]
      . apply AfterRead.written ctx' writes' hopen
        intro reads more
        rw [k230OtaWriteFileLoop]
        rw [if_pos hrd, hmore]
        dsimp only
        rw [if_neg hneg, hsent (Int.not_lt.mp hneg)]
  . apply AfterRead.ended (Nat.eq_zero_of_not_pos hrd)
    intro reads more
    rw [k230OtaWriteFileLoop]
    rw [if_neg hrd]

theorem loop_returned {reads : List ReadResult} {ctx : Option K230OtaCtx} (hctx : CtxOpen ctx)
    {rest target : List Byte} {writes : List WriteResult} {ret : Int} {target' : List Byte}
    {unused : List WriteResult}
    (h : k230OtaWriteFileLoop chunkSize ctx rest target writes reads = .returned ret target' unused)
    (moreReads : List ReadResult) (moreWrites : List WriteResult)
    : k230OtaWriteFileLoop chunkSize ctx rest target (writes ++ moreWrites) (reads ++ moreReads)
        = .returned ret target' (unused ++ moreWrites) := by
  induction reads generalizing ctx rest target writes with
  | nil => cases h
  | cons r reads ih =>
    rw [List.cons_append]
    cases r with
    | error errno =>
      cases h
      rfl
    | got count =>
      rw [← List.append_nil writes] at h
      cases afterRead hctx rest target writes count with
      | ended _ hloop =>
        rw [hloop, List.append_nil] at h
        rw [hloop]
        cases h
        rfl
      | waits p target' hloop =>
        rw [hloop _ _ (by simp)] at h
        cases h
      | failed target' writes' hloop =>
        rw [hloop, List.append_nil] at h
        rw [hloop]
        cases h
        rfl
      | written ctx' writes' hopen hloop =>
        rw [hloop, List.append_nil] at h
        rw [hloop]
        exact ih hopen h

/-
Idle results leave a call that waits for a write where it is.
-/
theorem loop_writing {reads : List ReadResult} {ctx : Option K230OtaCtx} (hctx : CtxOpen ctx)
    {rest target : List Byte} {writes : List WriteResult} {p rest' target' : List Byte}
    (h : k230OtaWriteFileLoop chunkSize ctx rest target writes reads = .writing p rest' target')
    (moreReads : List ReadResult) {moreWrites : List WriteResult}
    (hidle : ∀ r ∈ moreWrites, Idle WriteResult.progress r)
    : k230OtaWriteFileLoop chunkSize ctx rest target (writes ++ moreWrites) (reads ++ moreReads)
        = .writing p rest' target' := by
  induction reads generalizing ctx rest target writes with
  | nil => cases h
  | cons r reads ih =>
    rw [List.cons_append]
    cases r with
    | error errno => cases h
    | got count =>
      rw [← List.append_nil writes] at h
      cases afterRead hctx rest target writes count with
      | ended _ hloop =>
        rw [hloop] at h
        cases h
      | waits p target' hloop =>
        rw [hloop _ _ (by simp)] at h
        rw [hloop _ _ hidle]
        exact h
      | failed target' writes' hloop =>
        rw [hloop] at h
        cases h
      | written ctx' writes' hopen hloop =>
        rw [hloop, List.append_nil] at h
        rw [hloop]
        exact ih hopen h

/-
A call that waits for a read has handed over what it has read, and takes a count of zero for the end of the
image.
-/
theorem loop_reading {reads : List ReadResult} {ctx : Option K230OtaCtx} (hctx : CtxOpen ctx)
    {rest target : List Byte} {writes : List WriteResult} {rest' target' : List Byte}
    (h : k230OtaWriteFileLoop chunkSize ctx rest target writes reads = .reading rest' target')
    : target' ++ rest' = target ++ rest
        ∧ ∃ unused, k230OtaWriteFileLoop chunkSize ctx rest target writes (reads ++ [.got 0])
          = .returned 0 target' unused := by
  induction reads generalizing ctx rest target writes with
  | nil =>
    cases h
    refine ⟨rfl, writes, ?_⟩
    simp [k230OtaWriteFileLoop]
  | cons r reads ih =>
    rw [List.cons_append]
    cases r with
    | error errno => cases h
    | got count =>
      rw [← List.append_nil writes] at h ⊢
      cases afterRead hctx rest target writes count with
      | ended _ hloop =>
        rw [hloop] at h
        cases h
      | waits p target' hloop =>
        rw [hloop _ _ (by simp)] at h
        cases h
      | failed target' writes' hloop =>
        rw [hloop] at h
        cases h
      | written ctx' writes' hopen hloop =>
        rw [hloop, List.append_nil] at h
        rw [hloop, List.append_nil]
        obtain ⟨hkept, hends⟩ := ih hopen h
        refine ⟨?_, hends⟩
        rw [hkept, List.append_assoc, List.take_append_drop]

/-
A call that returns zero has waited for a read before, which has found the end of the image or has returned
zero without it.
-/
theorem loop_returned_zero (hchunk : 0 < chunkSize) {reads : List ReadResult} {ctx : Option K230OtaCtx}
    (hctx : CtxOpen ctx) {rest target : List Byte} {writes : List WriteResult} {target' : List Byte}
    {unused : List WriteResult}
    (h : k230OtaWriteFileLoop chunkSize ctx rest target writes reads = .returned 0 target' unused)
    : ∃ k rest', k230OtaWriteFileLoop chunkSize ctx rest target writes (reads.take k)
          = .reading rest' target'
        ∧ (rest' = [] ∨ reads[k]? = some (.got 0)) := by
  induction reads generalizing ctx rest target writes with
  | nil => cases h
  | cons r reads ih =>
    cases r with
    | error errno => cases h
    | got count =>
      rw [← List.append_nil writes] at h ⊢
      cases afterRead hctx rest target writes count with
      | ended hend hloop =>
        rw [hloop] at h
        cases h
        refine ⟨0, rest, rfl, ?_⟩
        rw [List.length_take] at hend
        by_cases hcount : count = 0
        . rw [hcount]
          exact Or.inr rfl
        . refine Or.inl (List.length_eq_zero_iff.mp ?_)
          omega
      | waits p target' hloop =>
        rw [hloop _ _ (by simp)] at h
        cases h
      | failed target' writes' hloop =>
        rw [hloop] at h
        cases h
      | written ctx' writes' hopen hloop =>
        rw [hloop, List.append_nil] at h
        obtain ⟨k, rest', hreading, hend⟩ := ih hopen h
        refine ⟨k + 1, rest', ?_, hend⟩
        rw [List.take_succ_cons, hloop, List.append_nil, hreading]

/-
A call that returns zero has handed over the image, or a read has returned zero before its end.
-/
theorem loop_returned_image (hchunk : 0 < chunkSize) {reads : List ReadResult} {ctx : Option K230OtaCtx}
    (hctx : CtxOpen ctx) {rest target : List Byte} {writes : List WriteResult} {target' : List Byte}
    {unused : List WriteResult}
    (h : k230OtaWriteFileLoop chunkSize ctx rest target writes reads = .returned 0 target' unused)
    : target' = target ++ rest
        ∨ ∃ k rest', k230OtaWriteFileLoop chunkSize ctx rest target writes (reads.take k)
            = .reading rest' target'
          ∧ rest' ≠ [] ∧ reads[k]? = some (.got 0) := by
  obtain ⟨k, rest', hreading, hend⟩ := loop_returned_zero hchunk hctx h
  by_cases hempty : rest' = []
  . left
    obtain ⟨hkept, _⟩ := loop_reading hctx hreading
    rw [← hkept, hempty, List.append_nil]
  . right
    exact ⟨k, rest', hreading, hempty, hend.resolve_left hempty⟩

theorem loop_ends_or_idle {ctx : Option K230OtaCtx} (hctx : CtxOpen ctx) (rest target : List Byte)
    (reads : Stream' ReadResult) (writes : Stream' WriteResult)
    : ∃ n m,
        (∃ ret target' unused, k230OtaWriteFileLoop chunkSize ctx rest target (writes.take m) (reads.take n)
            = .returned ret target' unused)
        ∨ ((∃ p rest' target', k230OtaWriteFileLoop chunkSize ctx rest target (writes.take m) (reads.take n)
            = .writing p rest' target')
          ∧ ∀ k, m ≤ k → Idle WriteResult.progress (writes.get k)) := by
  cases hread : reads.head with
  | error errno =>
    exists 1, 0
    rw [Stream'.take_succ, hread]
    exact Or.inl ⟨_, _, _, rfl⟩
  | got count =>
    by_cases hrd : (rest.take (min count chunkSize)).length > 0
    . obtain ⟨m, hm⟩ := update_ends_or_idle hctx (List.length_pos_iff.mp hrd) target writes
      cases hm with
      | inl hended =>
        obtain ⟨ret, ctx', target', hupdate⟩ := hended
        obtain ⟨hopen, _, hmore⟩ := update_returned hctx (List.length_pos_iff.mp hrd) _ hupdate
        by_cases hneg : ret < 0
        . exists 1, m
          rw [Stream'.take_succ, hread, k230OtaWriteFileLoop]
          rw [if_pos hrd, hupdate]
          dsimp only
          rw [if_pos hneg]
          exact Or.inl ⟨_, _, _, rfl⟩
        . -- the results behind those that this chunk has used are for the chunks that follow
          have hshorter : (rest.drop (min count chunkSize)).length < rest.length := by
            rw [List.length_take] at hrd
            rw [List.length_drop]
            omega
          obtain ⟨n', m', hrest⟩ :=
            loop_ends_or_idle hopen (rest.drop (min count chunkSize)) target' reads.tail (writes.drop m)
          exists n' + 1, m + m'
          have hloop : k230OtaWriteFileLoop chunkSize ctx rest target (writes.take (m + m'))
              (reads.take (n' + 1))
                = k230OtaWriteFileLoop chunkSize ctx' (rest.drop (min count chunkSize)) target'
                    ((writes.drop m).take m') (reads.tail.take n') := by
            rw [Stream'.take_succ, hread, k230OtaWriteFileLoop, Stream'.take_add]
            rw [if_pos hrd, hmore]
            dsimp only
            rw [if_neg hneg, List.nil_append]
          rw [hloop]
          cases hrest with
          | inl hended => exact Or.inl hended
          | inr hidle =>
            refine Or.inr ⟨hidle.1, ?_⟩
            intro k hk
            have hget := hidle.2 (k - m) (by omega)
            rw [Stream'.get_drop, Nat.add_sub_cancel' (by omega)] at hget
            exact hget
      | inr hwaits =>
        obtain ⟨⟨p, target', hupdate⟩, hidle⟩ := hwaits
        exists 1, m
        rw [Stream'.take_succ, hread, k230OtaWriteFileLoop]
        rw [if_pos hrd, hupdate]
        exact Or.inr ⟨⟨_, _, _, rfl⟩, hidle⟩
    . exists 1, 0
      rw [Stream'.take_succ, hread, k230OtaWriteFileLoop]
      rw [if_neg hrd]
      exact Or.inl ⟨_, _, _, rfl⟩
termination_by rest.length
decreasing_by apply hshorter

end

/-
Nothing is written for a null pointer, an empty buffer or a closed device.
-/
theorem k230OtaUpdate_cases (args : UpdateArgs)
    : (∀ writes m, args.run writes m = .returned (-1) args.ctx args.target (writes.take m))
        ∨ ∃ buf, args.buf = some buf ∧ buf ≠ [] ∧ CtxOpen args.ctx
          ∧ ∀ writes m, args.run writes m
            = k230OtaUpdate args.ctx (some buf) args.target (writes.take m) := by
  unfold UpdateArgs.run
  cases hctx : args.ctx with
  | none => exact Or.inl fun _ _ => rfl
  | some ctx =>
    cases hbuf : args.buf with
    | none => exact Or.inl fun _ _ => rfl
    | some buf =>
      by_cases hinvalid : ctx.fd < 0 ∨ buf.length = 0
      . refine Or.inl ?_
        intro writes m
        unfold k230OtaUpdate
        dsimp only
        rw [if_pos hinvalid]
      . rw [not_or] at hinvalid
        refine Or.inr ⟨buf, rfl, ?_, ⟨ctx, rfl, Int.not_lt.mp hinvalid.1⟩, fun _ _ => rfl⟩
        intro hempty
        rw [hempty] at hinvalid
        exact hinvalid.2 rfl

/-
The call fails before it reads, or it reads and writes with an open device.
-/
theorem k230OtaWriteFile_cases (args : FileArgs)
    : (∀ reads writes n m, args.run reads writes n m = .returned (-1) [] (writes.take m))
        ∨ ∃ image ctx, args.image = some image ∧ 0 < args.chunkSize ∧ CtxOpen ctx
          ∧ ∀ reads writes n m, args.run reads writes n m
            = k230OtaWriteFileLoop args.chunkSize ctx image [] (writes.take m) (reads.take n) := by
  unfold FileArgs.run k230OtaWriteFile
  cases himage : args.image with
  | none => exact Or.inl fun _ _ _ _ => rfl
  | some image =>
    dsimp only
    by_cases hchunk : args.chunkSize = 0
    . simp [hchunk]
    by_cases hbuf : args.setup.bufAllocated = true
    . cases hopen : args.setup.imageOpen with
      | error errno => simp [hbuf]
      | ok fd =>
        cases hcreate : k230OtaCreate args.setup with
        | none => simp [hbuf]
        | some ctx =>
          have hfd : 0 ≤ ctx.fd := by
            unfold k230OtaCreate at hcreate
            split at hcreate
            . split at hcreate
              . cases hcreate
              . split at hcreate
                . cases hcreate
                . cases hcreate
                  apply Int.natCast_nonneg
            . cases hcreate
          refine Or.inr ⟨image, some ctx, rfl, Nat.pos_of_ne_zero hchunk, ⟨ctx, rfl, hfd⟩, ?_⟩
          intro reads writes n m
          simp [hchunk, hbuf]
    . simp [hbuf]

/-
Where interruptions end, what is idle in the long run is a count of zero.
-/
theorem zeroFrom_of_idle {writes : Stream' WriteResult} {last m : Nat}
    (hlast : ∀ k, last ≤ k → writes.get k ≠ .error eintr)
    (hidle : ∀ k, m ≤ k → Idle WriteResult.progress (writes.get k))
    : ZeroFrom writes (m + last) := by
  intro k hk
  cases (idle_iff _).mp (hidle k (by omega)) with
  | inl hzero => exact hzero
  | inr hintr => exact absurd hintr (hlast k (by omega))

theorem idle_take {writes : Stream' WriteResult} {m : Nat}
    (hidle : ∀ k, m ≤ k → Idle WriteResult.progress (writes.get k)) (n : Nat)
    : ∀ r ∈ (writes.drop m).take n, Idle WriteResult.progress r := by
  intro r hr
  obtain ⟨k, _, hget⟩ := mem_take hr
  rw [← hget, Stream'.get_drop]
  apply hidle
  apply Nat.le_add_right

theorem idle_of_zeroFrom {writes : Stream' WriteResult} {m : Nat} (h : ZeroFrom writes m)
    : ∀ k, m ≤ k → Idle WriteResult.progress (writes.get k) := by
  intro k hk
  rw [h k hk]
  exact Or.inr rfl

section

variable {writes : Stream' WriteResult} (hfinite : ∃ last, ∀ k, last ≤ k → writes.get k ≠ .error eintr)

include hfinite

theorem updateWrites_iff (args : UpdateArgs) : UpdateWrites args writes ↔ ¬UpdateStalls args writes := by
  obtain ⟨last, hlast⟩ := hfinite
  cases k230OtaUpdate_cases args with
  | inl hrun =>
    constructor
    . intro _ ⟨m, p, target, hwaiting, _⟩
      rw [hrun] at hwaiting
      cases hwaiting
    . intro _
      constructor
      . exact ⟨0, _, _, _, _, hrun writes 0⟩
      . intro m ctx' target' rest hreturned
        rw [hrun] at hreturned
        cases hreturned
  | inr h =>
    obtain ⟨buf, hbuf, hne, hctx, hrun⟩ := h
    constructor
    . intro ⟨⟨m, ret, ctx', target', rest, hreturned⟩, _⟩ ⟨m', p, target, hwaiting, hzero⟩
      rw [hrun] at hreturned hwaiting
      obtain ⟨_, _, hmore⟩ := update_returned hctx hne _ hreturned
      obtain ⟨_, hstays⟩ := update_waiting hctx hne _ hwaiting
      have hboth := hmore ((writes.drop m).take m')
      rw [← Stream'.take_add, Nat.add_comm, Stream'.take_add,
        hstays _ (idle_take (idle_of_zeroFrom hzero) m)] at hboth
      cases hboth
    . intro hstalls
      constructor
      . obtain ⟨m, hm⟩ := update_ends_or_idle hctx hne args.target writes
        cases hm with
        | inl hended =>
          obtain ⟨ret, ctx', target', hreturned⟩ := hended
          exact ⟨m, ret, ctx', target', [], (hrun _ m).trans hreturned⟩
        | inr hwaits =>
          obtain ⟨⟨p, target', hwaiting⟩, hidle⟩ := hwaits
          obtain ⟨_, hstays⟩ := update_waiting hctx hne _ hwaiting
          have hlater := hstays _ (idle_take hidle last)
          rw [← Stream'.take_add, ← hrun] at hlater
          exact absurd ⟨_, _, _, hlater, zeroFrom_of_idle hlast hidle⟩ hstalls
      . intro m ctx' target' rest hreturned
        rw [hrun] at hreturned
        obtain ⟨_, hsent, _⟩ := update_returned hctx hne _ hreturned
        exact ⟨buf, hbuf, hsent (Int.le_refl 0)⟩

theorem fileWrites_iff (args : FileArgs) (reads : Stream' ReadResult)
    : FileWrites args reads writes ↔ ¬(FileStalls args reads writes ∨ ReadEndsEarly args reads writes) := by
  obtain ⟨last, hlast⟩ := hfinite
  cases k230OtaWriteFile_cases args with
  | inl hrun =>
    constructor
    . rintro _ (⟨n, m, p, rest, target, hwriting, _⟩ | ⟨n, m, rest, target, hreading, _⟩)
      . rw [hrun] at hwriting
        cases hwriting
      . rw [hrun] at hreading
        cases hreading
    . intro _
      constructor
      . exact ⟨0, 0, _, _, _, by rw [hrun]⟩
      . intro n m target rest hreturned
        rw [hrun] at hreturned
        cases hreturned
  | inr h =>
    obtain ⟨image, ctx, himage, hchunk, hctx, hrun⟩ := h
    constructor
    . intro ⟨⟨n, m, ret, target', rest, hreturned⟩, hwritten⟩ hbad
      rcases hbad with ⟨n', m', p, rest', target, hwriting, hzero⟩
        | ⟨n', m', rest', target, hreading, hleft, hread⟩
      . -- both calls are the same one, with longer prefixes of the streams
        rw [hrun] at hreturned hwriting
        have hmore := loop_returned hctx hreturned ((reads.drop n).take n') ((writes.drop m).take m')
        have hstays := loop_writing hctx hwriting ((reads.drop n').take n)
          (idle_take (idle_of_zeroFrom hzero) m)
        rw [← Stream'.take_add, ← Stream'.take_add] at hmore hstays
        rw [Nat.add_comm n', Nat.add_comm m', hmore] at hstays
        cases hstays
      . rw [hrun] at hreading
        obtain ⟨hkept, unused, hends⟩ := loop_reading hctx hreading
        rw [← hread, ← Stream'.take_succ'] at hends
        have hsame := hwritten (n' + 1) m' target unused (by rw [hrun, hends])
        rw [himage, Option.some.injEq] at hsame
        rw [List.nil_append, hsame] at hkept
        exact hleft (List.append_right_eq_self.mp hkept)
    . intro hnot
      rw [not_or] at hnot
      constructor
      . obtain ⟨n, m, hends⟩ := @loop_ends_or_idle args.chunkSize ctx hctx image [] reads writes
        cases hends with
        | inl hreturned =>
          obtain ⟨ret, target', unused, hreturned⟩ := hreturned
          exact ⟨n, m, ret, target', unused, by rw [hrun, hreturned]⟩
        | inr hwaits =>
          obtain ⟨⟨p, rest', target', hwriting⟩, hidle⟩ := hwaits
          -- behind the last interruption, what is idle is a count of zero
          have hlater := loop_writing hctx hwriting [] (idle_take hidle last)
          rw [← Stream'.take_add, List.append_nil] at hlater
          refine absurd ⟨n, m + last, p, rest', target', ?_, zeroFrom_of_idle hlast hidle⟩ hnot.1
          rw [hrun, hlater]
      . intro n m target' unused hreturned
        rw [hrun] at hreturned
        cases loop_returned_image hchunk hctx hreturned with
        | inl hsame => rw [himage, hsame, List.nil_append]
        | inr hearly =>
          obtain ⟨k, rest', hreading, hleft, hzero⟩ := hearly
          have hk : k < n := by
            obtain ⟨hlt, _⟩ := List.getElem?_eq_some_iff.mp hzero
            rw [Stream'.length_take] at hlt
            exact hlt
          rw [Stream'.getElem?_take hk, Option.some.injEq] at hzero
          rw [Stream'.take_take, Nat.min_eq_right (Nat.le_of_lt hk)] at hreading
          refine absurd ⟨k, m, rest', target', ?_, hleft, hzero⟩ hnot.2
          rw [hrun, hreading]

/-
With finitely many interruptions, the calls return and hand over what they are given exactly if the device
does not go on taking nothing for ever and no read ends the image early.
-/
theorem k230Ota_writes_iff
    : (∀ args, UpdateWrites args writes ↔ ¬UpdateStalls args writes)
        ∧ ∀ args reads, FileWrites args reads writes
          ↔ ¬(FileStalls args reads writes ∨ ReadEndsEarly args reads writes) := by
  constructor
  . apply updateWrites_iff hfinite
  . apply fileWrites_iff hfinite

end

def openSetup : OtaSetup := ⟨true, .ok 3, true, .ok 4, .ok ()⟩

theorem k230Ota_writes_steady
    : FileWrites ⟨openSetup, some [1#8, 2#8, 3#8], 2⟩ (.const (.got 2)) (.const (.wrote 1)) := by
  have hnever : ∀ k, 0 ≤ k → (Stream'.const (WriteResult.wrote 1)).get k ≠ .error eintr := by
    intro k _ h
    cases h
  apply ((k230Ota_writes_iff ⟨0, hnever⟩).2 _ _).mpr
  rintro (⟨_, m, _, _, _, _, hzero⟩ | ⟨_, _, _, _, _, _, hread⟩)
  . cases hzero m (Nat.le_refl m)
  . cases hread

/-
The device takes nothing, without an error.
-/
theorem takesNothing_not_fileWrites
    : (∀ n m ret target rest,
          (FileArgs.mk openSetup (some [1#8]) 1).run (.const (.got 1)) (.const (.wrote 0)) n m
            ≠ .returned ret target rest)
        ∧ ¬FileWrites ⟨openSetup, some [1#8], 1⟩ (.const (.got 1)) (.const (.wrote 0)) := by
  have hnever : ∀ n m ret target rest,
      (FileArgs.mk openSetup (some [1#8]) 1).run (.const (.got 1)) (.const (.wrote 0)) n m
        ≠ .returned ret target rest := by
    intro n m ret target rest h
    have hctx : CtxOpen (some ⟨4, 0⟩) := ⟨_, rfl, by decide⟩
    have hidle : ∀ r ∈ (Stream'.const (WriteResult.wrote 0)).take m, Idle WriteResult.progress r := by
      intro r hr
      obtain ⟨k, _, hget⟩ := mem_take hr
      rw [← hget]
      exact Or.inr rfl
    have hwriting : k230OtaWriteFileLoop 1 (some ⟨4, 0⟩) [1#8] [] [] [.got 1] = .writing [1#8] [] [] := rfl
    have hstays := loop_writing hctx hwriting ((Stream'.const (.got 1)).take n) hidle
    have hmore := loop_returned hctx h [.got 1] []
    have hsame : (Stream'.const (ReadResult.got 1)).take n ++ [.got 1]
        = .got 1 :: (Stream'.const (ReadResult.got 1)).take n :=
      (Stream'.take_succ' n).symm.trans (Stream'.take_succ n _)
    rw [List.append_nil, hsame] at hmore
    cases hmore.symm.trans hstays
  constructor
  . exact hnever
  . intro h
    obtain ⟨n, m, ret, target, rest, hreturned⟩ := h.1
    exact hnever n m ret target rest hreturned

end Ota

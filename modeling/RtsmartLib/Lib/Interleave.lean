import RtsmartLib.Lib.Calls
import RtsmartLib.Lib.Machine

/-!
This module contains parties that run computations over one shared state, interleaved call by call in
any order, and the rule by which what each computation ensures holds in every interleaving.
-/

namespace Lib

/--
Parties `ι` with local data `δ` that serve requests `ρ`. What a request runs may depend on the party's
data, and a party without the data for it ignores the request.
-/
structure Parties (ι ρ δ σ Op : Type) (Ans : Op → Type) (α : Type) where
  callee : ι → Callee Op Ans σ
  program : ι → ρ → δ → Option (Calls Op Ans α)
  finish : ρ → α → δ → δ

inductive Party (ρ δ Op : Type) (Ans : Op → Type) (α : Type) where
  | idle (data : δ)
  | busy (data : δ) (request : ρ) (rest : Calls Op Ans α)

structure Pool (ι ρ δ σ Op : Type) (Ans : Op → Type) (α : Type) where
  shared : σ
  party : ι → Party ρ δ Op Ans α

/-
The party whose turn it is starts a request, or makes its next call.
-/
inductive Turn (ι ρ : Type) where
  | start (i : ι) (request : ρ)
  | go (i : ι)

/-
A request that was served, with the party's data when it was started.
-/
structure Served (ι ρ δ α : Type) where
  party : ι
  data : δ
  request : ρ
  result : α
deriving DecidableEq

variable {ι ρ δ σ Op : Type} {Ans : Op → Type} {α : Type} [DecidableEq ι]

def Pool.setParty (pool : Pool ι ρ δ σ Op Ans α) (i : ι) (party : Party ρ δ Op Ans α)
    : Pool ι ρ δ σ Op Ans α :=
  { pool with party := fun j => if j = i then party else pool.party j }

namespace Parties

variable (parties : Parties ι ρ δ σ Op Ans α)

def start (pool : Pool ι ρ δ σ Op Ans α) (i : ι) (request : ρ) : Pool ι ρ δ σ Op Ans α :=
  match pool.party i with
  | .busy _ _ _ => pool
  | .idle data =>
    match parties.program i request data with
    | none => pool
    | some prog => pool.setParty i (.busy data request prog)

def go (pool : Pool ι ρ δ σ Op Ans α) (i : ι)
    : Pool ι ρ δ σ Op Ans α × Option (Served ι ρ δ α) :=
  match pool.party i with
  | .idle _ => (pool, none)
  | .busy data request (.ret a) =>
    (pool.setParty i (.idle (parties.finish request a data)), some ⟨i, data, request, a⟩)
  | .busy data request (.call op next) =>
    let (ans, shared) := parties.callee i op pool.shared
    ({ pool.setParty i (.busy data request (next ans)) with shared := shared }, none)

def step (pool : Pool ι ρ δ σ Op Ans α) (turn : Turn ι ρ)
    : Pool ι ρ δ σ Op Ans α × Option (Served ι ρ δ α) :=
  match turn with
  | .start i request => (parties.start pool i request, none)
  | .go i => parties.go pool i

def machine : Machine (Pool ι ρ δ σ Op Ans α) (Turn ι ρ) (Option (Served ι ρ δ α)) :=
  ⟨parties.step⟩

end Parties

/--
What the parties rely on: `other i` covers every call of a party that is not `i`, `Idle i` is what
holds of the data of `i` between its requests, and each program keeps it and ends in what is `Good`.
-/
structure Parties.Sound (parties : Parties ι ρ δ σ Op Ans α) (other : ι → σ → σ → Prop)
    (Idle : ι → δ → σ → Prop) (Good : Served ι ρ δ α → σ → Prop) : Prop where
  refl : ∀ i s, other i s s
  trans : ∀ i s s' s'', other i s s' → other i s' s'' → other i s s''
  call : ∀ i j op s, j ≠ i → other i s (parties.callee j op s).2
  idle : ∀ i data s s', Idle i data s → other i s s' → Idle i data s'
  program : ∀ i request data s prog, parties.program i request data = some prog →
    Idle i data s →
      prog.Ensures (parties.callee i) (other i)
        (fun a s' => Idle i (parties.finish request a data) s' ∧ Good ⟨i, data, request, a⟩ s') s

namespace Parties

variable {parties : Parties ι ρ δ σ Op Ans α} {other : ι → σ → σ → Prop}
  {Idle : ι → δ → σ → Prop} {Good : Served ι ρ δ α → σ → Prop}

def PartyOk (parties : Parties ι ρ δ σ Op Ans α) (other : ι → σ → σ → Prop)
    (Idle : ι → δ → σ → Prop) (Good : Served ι ρ δ α → σ → Prop) (i : ι)
    (party : Party ρ δ Op Ans α) (s : σ) : Prop :=
  match party with
  | .idle data => Idle i data s
  | .busy data request rest =>
    rest.Ensures (parties.callee i) (other i)
      (fun a s' => Idle i (parties.finish request a data) s' ∧ Good ⟨i, data, request, a⟩ s') s

/-
Every party is between two requests as it should be, or what is left of its program ensures that it
will be.
-/
def PoolOk (parties : Parties ι ρ δ σ Op Ans α) (other : ι → σ → σ → Prop)
    (Idle : ι → δ → σ → Prop) (Good : Served ι ρ δ α → σ → Prop)
    (pool : Pool ι ρ δ σ Op Ans α) : Prop :=
  ∀ i, PartyOk parties other Idle Good i (pool.party i) pool.shared

omit [DecidableEq ι] in
theorem PartyOk.other_step (hsound : parties.Sound other Idle Good) {i : ι}
    {party : Party ρ δ Op Ans α} {s s' : σ} (h : PartyOk parties other Idle Good i party s)
    (hother : other i s s')
    : PartyOk parties other Idle Good i party s' := by
  cases party with
  | idle data => apply hsound.idle i data s s' h hother
  | busy data request rest => apply Calls.Ensures.other_step (hsound.trans i) h hother

theorem PoolOk.setParty {pool : Pool ι ρ δ σ Op Ans α} {i : ι} {party : Party ρ δ Op Ans α}
    (h : PoolOk parties other Idle Good pool)
    (hparty : PartyOk parties other Idle Good i party pool.shared)
    : PoolOk parties other Idle Good (pool.setParty i party) := by
  intro j
  unfold Pool.setParty
  dsimp only
  split
  . next heq =>
    rw [heq]
    exact hparty
  . apply h

theorem PoolOk.start (hsound : parties.Sound other Idle Good) {pool : Pool ι ρ δ σ Op Ans α}
    (h : PoolOk parties other Idle Good pool) (i : ι) (request : ρ)
    : PoolOk parties other Idle Good (parties.start pool i request) := by
  have hi := h i
  unfold Parties.start
  split
  . exact h
  . next data hdata =>
    rw [hdata] at hi
    split
    . exact h
    . next prog hprog =>
      apply h.setParty
      apply hsound.program i request data pool.shared prog hprog hi

theorem PoolOk.go (hsound : parties.Sound other Idle Good) {pool : Pool ι ρ δ σ Op Ans α}
    (h : PoolOk parties other Idle Good pool) (i : ι)
    : PoolOk parties other Idle Good (parties.go pool i).1 := by
  have hi := h i
  unfold Parties.go
  split
  . exact h
  . next data request a hparty =>
    rw [hparty] at hi
    apply h.setParty
    apply (hi pool.shared (hsound.refl i _)).1
  . next data request op next hparty =>
    rw [hparty] at hi
    intro j
    unfold Pool.setParty
    dsimp only
    split
    . next heq =>
      rw [heq]
      apply hi pool.shared (hsound.refl i _)
    . next hne =>
      -- the call of `i` is one of the others' calls to `j`
      apply (h j).other_step hsound
      apply hsound.call
      intro heq
      apply hne heq.symm

theorem PoolOk.step (hsound : parties.Sound other Idle Good) {pool : Pool ι ρ δ σ Op Ans α}
    (h : PoolOk parties other Idle Good pool) (turn : Turn ι ρ)
    : PoolOk parties other Idle Good (parties.step pool turn).1 := by
  cases turn with
  | start i request => apply h.start hsound
  | go i => apply h.go hsound

theorem PoolOk.served (hsound : parties.Sound other Idle Good) {pool : Pool ι ρ δ σ Op Ans α}
    (h : PoolOk parties other Idle Good pool) {turn : Turn ι ρ} {served : Served ι ρ δ α}
    (hserved : (parties.step pool turn).2 = some served)
    : Good served (parties.step pool turn).1.shared := by
  cases turn with
  | start i request => cases hserved
  | go i =>
    have hi := h i
    change (parties.go pool i).2 = some served at hserved
    change Good served (parties.go pool i).1.shared
    unfold Parties.go at hserved ⊢
    split at hserved
    . cases hserved
    . next data request a hparty =>
      rw [hparty] at hi
      simp only [Option.some.injEq] at hserved
      rw [← hserved]
      apply (hi pool.shared (hsound.refl i _)).2
    . cases hserved

/-
If a request is served in this step, it is served as it should be.
-/
def ServesGood (Good : Served ι ρ δ α → σ → Prop)
    (v : Machine.Visit (Pool ι ρ δ σ Op Ans α) (Turn ι ρ) (Option (Served ι ρ δ α))) : Prop :=
  ∀ served, v.obs = some served → Good served v.post.shared

/--
In every interleaving whatever a party returns is good.
-/
theorem Sound.visits (hsound : parties.Sound other Idle Good) {pool : Pool ι ρ δ σ Op Ans α}
    (h : PoolOk parties other Idle Good pool) (turns : List (Turn ι ρ))
    : ∀ v ∈ parties.machine.visits pool turns, ServesGood Good v := by
  have hstep : ∀ pool turn, PoolOk parties other Idle Good pool →
      PoolOk parties other Idle Good (parties.machine.step pool turn).1 := by
    intro pool turn hpool
    apply hpool.step hsound
  intro v hv served
  have hpre := Machine.visits_inv hstep h turns v hv
  rw [Machine.eq_visit_of_mem hv]
  apply hpre.served hsound

end Parties
end Lib

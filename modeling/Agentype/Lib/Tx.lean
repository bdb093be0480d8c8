import Mathlib.Order.Defs.Unbundled
import Agentype.Lib.Table

/-!
# `Agentype.Lib.Tx` — serialized transactions and what they leave behind

A transaction reads an environment `ε`, works on a store `σ`, may mint identifiers and either
commits with a result or fails with an error of type `e`; a failed transaction leaves the store
as it was (`commit`). The monad is the standard stack of readers, states and exceptions; the
second state component counts the identifiers minted so far.

## Contents
- **Primitives.** `load`, `save`, `ask`, `mint`, `fail`, `require`, `orFail`, the reads `query`,
  `fetch`, `examine`, and `whenever`.
- **Tables of a store.** `Handle` names one table of a store; `insertInto`, `updateIn`,
  `eraseFrom` are the writing statements of a transaction.
- **Inversion.** `Runs env x s a s'`: the transaction `x` commits from `s` with result `a` and
  store `s'`. One inversion lemma for each primitive and for the monad operations peels a
  committed transaction into its statements.
- **Respecting a relation.** `Respects R x`: every committed run of `x` relates the stores before
  and after by `R`. For a preorder `R` the property is closed under sequencing, branching and
  loops, so that it is checked at the writing statements only.
- **Histories.** `run exec s calls`: the store after a list of calls, each with its environment;
  `EveryCall exec P s calls`: each call meets `P` where it was made; `run_induction` lifts what
  every committed call keeps to whole histories.
-/

namespace Relational

/-- Serialized transactions. The natural number counts the identifiers minted so far. -/
abbrev Tx (ε σ e : Type) := ReaderT ε (StateT (σ × Nat) (Except e))

namespace Tx

variable {ε σ e α β γ : Type}

/-! ## Primitives -/

/-- The current store. -/
def load : Tx ε σ e σ := fun _ s => .ok (s.1, s)

/-- Replace the store. -/
def save (s : σ) : Tx ε σ e Unit := fun _ s₀ => .ok ((), (s, s₀.2))

/-- The environment of the transaction. -/
def ask : Tx ε σ e ε := fun env s => .ok (env, s)

/-- The index of the next identifier to mint. -/
def mint : Tx ε σ e Nat := fun _ s => .ok (s.2, (s.1, s.2 + 1))

/-- Abort the transaction. -/
def fail (err : e) : Tx ε σ e α := fun _ _ => .error err

/-- Abort unless the condition holds. -/
def require (b : Bool) (err : e) : Tx ε σ e Unit := if b then pure () else fail err

/-- The value of an optional, or abort. -/
def orFail (err : e) : Option α → Tx ε σ e α
  | some a => pure a
  | none => fail err

/-- A read of the store that always has an answer. -/
def query (q : σ → α) : Tx ε σ e α := fun _ s => .ok (q s.1, s)

/-- A read of the store that aborts when there is no answer. -/
def fetch (err : e) (q : σ → Option α) : Tx ε σ e α := fun env s => orFail err (q s.1) env s

/-- A read of the store that may abort with an error of its own. -/
def examine (q : σ → Except e α) : Tx ε σ e α := fun _ s =>
  match q s.1 with
  | .ok a => .ok (a, s)
  | .error err => .error err

/-- Run a statement only under a condition. -/
def whenever (b : Bool) (x : Tx ε σ e Unit) : Tx ε σ e Unit := if b then x else pure ()

/-- One table of a store: how to read it and how to replace it. -/
structure Handle (σ : Type) {κ ρ : Type} (S : Schema κ ρ) where
  get : σ → Table S
  set : σ → Table S → σ

section Statements

variable {κ ρ : Type} {S : Schema κ ρ} [DecidableEq κ]

/-- `INSERT INTO` a table of the store; a constraint violation aborts with `err`. -/
def insertInto (t : Handle σ S) (err : e) (k : κ) (r : ρ) : Tx ε σ e Unit := do
  let s ← load
  let t' ← orFail err ((t.get s).insert k r)
  save (t.set s t')

/-- `UPDATE` a table of the store; a constraint violation aborts with `err`. -/
def updateIn (t : Handle σ S) (err : e) (p : κ → ρ → Bool) (f : ρ → ρ) : Tx ε σ e Unit := do
  let s ← load
  let t' ← orFail err ((t.get s).update p f)
  save (t.set s t')

/-- `DELETE` the row under a key. -/
def eraseFrom (t : Handle σ S) (k : κ) : Tx ε σ e Unit := do
  let s ← load
  save (t.set s ((t.get s).erase k))

end Statements

/-- Run a transaction: commit its store, or keep the store it started from. -/
def commit (x : Tx ε σ e α) (env : ε) (s : σ) : Except e α × σ :=
  match x env (s, 0) with
  | .ok (a, s') => (.ok a, s'.1)
  | .error err => (.error err, s)

/-! ## Inversion of committed runs -/

/-- The transaction `x` commits from `s` with result `a` and leaves `s'`. -/
def Runs (env : ε) (x : Tx ε σ e α) (s : σ) (a : α) (s' : σ) : Prop :=
  ∃ n n', x env (s, n) = .ok (a, (s', n'))

theorem runs_of_commit {env : ε} {x : Tx ε σ e α} {s s' : σ} {a : α}
    (h : commit x env s = (.ok a, s')) : Runs env x s a s' := by
  unfold commit at h
  split at h
  · rename_i a' s₁ hx
    cases h
    exact ⟨0, s₁.2, hx⟩
  · cases h

/-- **Rollback.** A transaction either commits a run or changes nothing. -/
theorem commit_cases (x : Tx ε σ e α) (env : ε) (s : σ) :
    (∃ a, Runs env x s a (commit x env s).2 ∧ (commit x env s).1 = .ok a) ∨
    (∃ err, (commit x env s).1 = .error err ∧ (commit x env s).2 = s) := by
  unfold commit
  split
  · rename_i a s₁ hx
    exact .inl ⟨a, ⟨0, s₁.2, hx⟩, rfl⟩
  · rename_i err hx
    exact .inr ⟨err, rfl, rfl⟩

namespace Runs

variable {env : ε} {s s' : σ} {a : α} {b : β}

theorem bind {x : Tx ε σ e α} {f : α → Tx ε σ e β} (h : Runs env (x >>= f) s b s') :
    ∃ a s₁, Runs env x s a s₁ ∧ Runs env (f a) s₁ b s' := by
  obtain ⟨n, n', h⟩ := h
  change (x env (s, n) >>= fun r => f r.1 env r.2) = _ at h
  cases hx : x env (s, n) with
  | error err =>
    rw [hx] at h
    cases h
  | ok r =>
    rw [hx] at h
    exact ⟨r.1, r.2.1, ⟨n, r.2.2, hx⟩, ⟨r.2.2, n', h⟩⟩

theorem pure {r : α} (h : Runs env (Pure.pure a : Tx ε σ e α) s r s') : r = a ∧ s' = s := by
  obtain ⟨n, n', h⟩ := h
  cases h
  exact ⟨rfl, rfl⟩

theorem load {r : σ} (h : Runs env (Tx.load : Tx ε σ e σ) s r s') : r = s ∧ s' = s := by
  obtain ⟨n, n', h⟩ := h
  cases h
  exact ⟨rfl, rfl⟩

theorem save {s₁ : σ} {u : Unit} (h : Runs env (Tx.save s₁ : Tx ε σ e Unit) s u s') :
    s' = s₁ := by
  obtain ⟨n, n', h⟩ := h
  cases h
  rfl

theorem ask {r : ε} (h : Runs env (Tx.ask : Tx ε σ e ε) s r s') : r = env ∧ s' = s := by
  obtain ⟨n, n', h⟩ := h
  cases h
  exact ⟨rfl, rfl⟩

theorem mint {k : Nat} (h : Runs env (Tx.mint : Tx ε σ e Nat) s k s') : s' = s := by
  obtain ⟨n, n', h⟩ := h
  cases h
  rfl

theorem fail {err : e} (h : Runs env (Tx.fail err : Tx ε σ e α) s a s') : False := by
  obtain ⟨n, n', h⟩ := h
  cases h

theorem require {c : Bool} {err : e} {u : Unit}
    (h : Runs env (Tx.require c err : Tx ε σ e Unit) s u s') : c = true ∧ s' = s := by
  unfold Tx.require at h
  split at h
  · rename_i hc
    exact ⟨hc, h.pure.2⟩
  · exact h.fail.elim

theorem orFail {o : Option α} {err : e} (h : Runs env (Tx.orFail err o : Tx ε σ e α) s a s') :
    o = some a ∧ s' = s := by
  cases o with
  | none => exact h.fail.elim
  | some r =>
    obtain ⟨rfl, rfl⟩ := h.pure
    exact ⟨rfl, rfl⟩

theorem query {q : σ → α} {r : α} (h : Runs env (Tx.query q : Tx ε σ e α) s r s') :
    r = q s ∧ s' = s := by
  obtain ⟨n, n', h⟩ := h
  cases h
  exact ⟨rfl, rfl⟩

theorem fetch {err : e} {q : σ → Option α} (h : Runs env (Tx.fetch err q : Tx ε σ e α) s a s') :
    q s = some a ∧ s' = s := by
  obtain ⟨n, n', h⟩ := h
  exact orFail ⟨n, n', h⟩

theorem examine {q : σ → Except e α} (h : Runs env (Tx.examine q : Tx ε σ e α) s a s') :
    q s = .ok a ∧ s' = s := by
  obtain ⟨n, n', h⟩ := h
  unfold Tx.examine at h
  cases hq : q s with
  | ok r =>
    rw [hq] at h
    cases h
    exact ⟨rfl, rfl⟩
  | error err =>
    rw [hq] at h
    cases h

theorem whenever {c : Bool} {x : Tx ε σ e Unit} {u : Unit}
    (h : Runs env (Tx.whenever c x) s u s') :
    (c = true ∧ Runs env x s u s') ∨ (c = false ∧ s' = s) := by
  unfold Tx.whenever at h
  split at h
  · rename_i hc
    exact .inl ⟨hc, h⟩
  · rename_i hc
    exact .inr ⟨by simpa using hc, h.pure.2⟩

/-! Peeling the first statement off a sequence, without renaming the store it runs in. -/

section Sequences

variable {f : α → Tx ε σ e β}

theorem load_bind {f : σ → Tx ε σ e β} (h : Runs env (Tx.load >>= f) s b s') :
    Runs env (f s) s b s' := by
  obtain ⟨_, _, h₁, h₂⟩ := h.bind
  obtain ⟨rfl, rfl⟩ := h₁.load
  exact h₂

theorem ask_bind {f : ε → Tx ε σ e β} (h : Runs env (Tx.ask >>= f) s b s') :
    Runs env (f env) s b s' := by
  obtain ⟨_, _, h₁, h₂⟩ := h.bind
  obtain ⟨rfl, rfl⟩ := h₁.ask
  exact h₂

theorem mint_bind {f : Nat → Tx ε σ e β} (h : Runs env (Tx.mint >>= f) s b s') :
    ∃ k, Runs env (f k) s b s' := by
  obtain ⟨k, _, h₁, h₂⟩ := h.bind
  obtain rfl := h₁.mint
  exact ⟨k, h₂⟩

theorem require_bind {c : Bool} {err : e} {f : Unit → Tx ε σ e β}
    (h : Runs env (Tx.require c err >>= f) s b s') : c = true ∧ Runs env (f ()) s b s' := by
  obtain ⟨_, _, h₁, h₂⟩ := h.bind
  obtain ⟨hc, rfl⟩ := h₁.require
  exact ⟨hc, h₂⟩

theorem orFail_bind {o : Option α} {err : e} (h : Runs env (Tx.orFail err o >>= f) s b s') :
    ∃ a, o = some a ∧ Runs env (f a) s b s' := by
  obtain ⟨a, _, h₁, h₂⟩ := h.bind
  obtain ⟨ha, rfl⟩ := h₁.orFail
  exact ⟨a, ha, h₂⟩

theorem query_bind {q : σ → α} (h : Runs env (Tx.query q >>= f) s b s') :
    Runs env (f (q s)) s b s' := by
  obtain ⟨_, _, h₁, h₂⟩ := h.bind
  obtain ⟨rfl, rfl⟩ := h₁.query
  exact h₂

theorem fetch_bind {err : e} {q : σ → Option α} (h : Runs env (Tx.fetch err q >>= f) s b s') :
    ∃ a, q s = some a ∧ Runs env (f a) s b s' := by
  obtain ⟨a, _, h₁, h₂⟩ := h.bind
  obtain ⟨ha, rfl⟩ := h₁.fetch
  exact ⟨a, ha, h₂⟩

theorem examine_bind {q : σ → Except e α} (h : Runs env (Tx.examine q >>= f) s b s') :
    ∃ a, q s = .ok a ∧ Runs env (f a) s b s' := by
  obtain ⟨a, _, h₁, h₂⟩ := h.bind
  obtain ⟨ha, rfl⟩ := h₁.examine
  exact ⟨a, ha, h₂⟩

end Sequences

section Statements

variable {κ ρ : Type} {S : Schema κ ρ} [DecidableEq κ] {t : Handle σ S} {err : e} {u : Unit}

theorem insertInto {k : κ} {r : ρ} (h : Runs env (Tx.insertInto t err k r : Tx ε σ e Unit) s u s') :
    ∃ t', (t.get s).insert k r = some t' ∧ s' = t.set s t' := by
  unfold Tx.insertInto at h
  obtain ⟨t', ht, h'⟩ := h.load_bind.orFail_bind
  exact ⟨t', ht, h'.save⟩

omit [DecidableEq κ] in
theorem updateIn {p : κ → ρ → Bool} {f : ρ → ρ}
    (h : Runs env (Tx.updateIn t err p f : Tx ε σ e Unit) s u s') :
    ∃ t', (t.get s).update p f = some t' ∧ s' = t.set s t' := by
  unfold Tx.updateIn at h
  obtain ⟨t', ht, h'⟩ := h.load_bind.orFail_bind
  exact ⟨t', ht, h'.save⟩

theorem eraseFrom {k : κ} (h : Runs env (Tx.eraseFrom t k : Tx ε σ e Unit) s u s') :
    s' = t.set s ((t.get s).erase k) := by
  unfold Tx.eraseFrom at h
  exact h.load_bind.save

theorem insertInto_bind {k : κ} {r : ρ} {f : Unit → Tx ε σ e β}
    (h : Runs env (Tx.insertInto t err k r >>= f) s b s') :
    ∃ t', (t.get s).insert k r = some t' ∧ Runs env (f ()) (t.set s t') b s' := by
  obtain ⟨_, _, h₁, h₂⟩ := h.bind
  obtain ⟨t', ht, rfl⟩ := h₁.insertInto
  exact ⟨t', ht, h₂⟩

omit [DecidableEq κ] in
theorem updateIn_bind {p : κ → ρ → Bool} {g : ρ → ρ} {f : Unit → Tx ε σ e β}
    (h : Runs env (Tx.updateIn t err p g >>= f) s b s') :
    ∃ t', (t.get s).update p g = some t' ∧ Runs env (f ()) (t.set s t') b s' := by
  obtain ⟨_, _, h₁, h₂⟩ := h.bind
  obtain ⟨t', ht, rfl⟩ := h₁.updateIn
  exact ⟨t', ht, h₂⟩

end Statements

/-- **Loops.** A property of the store that every iteration keeps is kept by the loop. -/
theorem forM {f : γ → Tx ε σ e PUnit} {P : σ → Prop} :
    ∀ {xs : List γ} {s s' : σ} {u : PUnit}, Runs env (xs.forM f) s u s' → P s →
      (∀ x ∈ xs, ∀ s₁ s₂ u, P s₁ → Runs env (f x) s₁ u s₂ → P s₂) → P s' := by
  intro xs
  induction xs with
  | nil =>
    intro s s' u h hs _
    obtain ⟨-, rfl⟩ := h.pure
    exact hs
  | cons x xs ih =>
    intro s s' u h hs hstep
    obtain ⟨_, s₁, hx, hrest⟩ := h.bind
    exact ih hrest (hstep x List.mem_cons_self s s₁ _ hs hx)
      fun y hy => hstep y (List.mem_cons_of_mem x hy)

/-- A loop that collects results: the same rule as for `forM`. -/
theorem mapM {f : γ → Tx ε σ e α} {P : σ → Prop} :
    ∀ {xs : List γ} {s s' : σ} {as : List α}, Runs env (xs.mapM f) s as s' → P s →
      (∀ x ∈ xs, ∀ s₁ s₂ a, P s₁ → Runs env (f x) s₁ a s₂ → P s₂) → P s' := by
  intro xs
  induction xs with
  | nil =>
    intro s s' as h hs _
    rw [List.mapM_nil] at h
    obtain ⟨-, rfl⟩ := h.pure
    exact hs
  | cons x xs ih =>
    intro s s' as h hs hstep
    rw [List.mapM_cons] at h
    obtain ⟨a, s₁, hx, hrest⟩ := h.bind
    obtain ⟨bs, s₂, hxs, hp⟩ := hrest.bind
    obtain ⟨-, rfl⟩ := hp.pure
    exact ih hxs (hstep x List.mem_cons_self s s₁ _ hs hx)
      fun y hy => hstep y (List.mem_cons_of_mem x hy)

/-- **Loops over a worklist.** The invariant may speak about the items still to be done. -/
theorem forM_rest {f : γ → Tx ε σ e PUnit} {P : List γ → σ → Prop} :
    ∀ {xs : List γ} {s s' : σ} {u : PUnit}, Runs env (xs.forM f) s u s' → P xs s →
      (∀ x rest s₁ s₂ u, P (x :: rest) s₁ → Runs env (f x) s₁ u s₂ → P rest s₂) → P [] s' := by
  intro xs
  induction xs with
  | nil =>
    intro s s' u h hs _
    obtain ⟨-, rfl⟩ := h.pure
    exact hs
  | cons x xs ih =>
    intro s s' u h hs hstep
    obtain ⟨_, s₁, hx, hrest⟩ := h.bind
    exact ih hrest (hstep x xs s s₁ _ hs hx) hstep

theorem mapM_rest {f : γ → Tx ε σ e α} {P : List γ → σ → Prop} :
    ∀ {xs : List γ} {s s' : σ} {as : List α}, Runs env (xs.mapM f) s as s' → P xs s →
      (∀ x rest s₁ s₂ a, P (x :: rest) s₁ → Runs env (f x) s₁ a s₂ → P rest s₂) → P [] s' := by
  intro xs
  induction xs with
  | nil =>
    intro s s' as h hs _
    rw [List.mapM_nil] at h
    obtain ⟨-, rfl⟩ := h.pure
    exact hs
  | cons x xs ih =>
    intro s s' as h hs hstep
    rw [List.mapM_cons] at h
    obtain ⟨a, s₁, hx, hrest⟩ := h.bind
    obtain ⟨bs, s₂, hxs, hp⟩ := hrest.bind
    obtain ⟨-, rfl⟩ := hp.pure
    exact ih hxs (hstep x xs s s₁ _ hs hx) hstep

end Runs

/-! ## Respecting a relation -/

/-- Every committed run of `x` relates the stores before and after. -/
def Respects (R : ε → σ → σ → Prop) (x : Tx ε σ e α) : Prop :=
  ∀ (env : ε) (s : σ) (a : α) (s' : σ), Runs env x s a s' → R env s s'

/-- The rest of a run, read through a relation its program respects. -/
theorem Runs.respects {R : ε → σ → σ → Prop} {env : ε} {x : Tx ε σ e α} {s s' : σ} {a : α}
    (h : Runs env x s a s') (hx : Respects R x) : R env s s' :=
  hx env s a s' h

variable {R : ε → σ → σ → Prop} [hR : ∀ env, IsPreorder σ (R env)]

/-- A statement that leaves the store alone respects every preorder. -/
theorem Respects.of_eq {x : Tx ε σ e α}
    (h : ∀ env s a s', Runs env x s a s' → s' = s) : Respects R x := by
  intro env s a s' hr
  rw [h env s a s' hr]
  exact refl s

theorem Respects.pure (a : α) : Respects R (Pure.pure a : Tx ε σ e α) := .of_eq fun _ _ _ _ h => h.pure.2

theorem Respects.ask : Respects R (Tx.ask : Tx ε σ e ε) := .of_eq fun _ _ _ _ h => h.ask.2

theorem Respects.mint : Respects R (Tx.mint : Tx ε σ e Nat) := .of_eq fun _ _ _ _ h => h.mint

theorem Respects.fail (err : e) : Respects R (Tx.fail err : Tx ε σ e α) :=
  .of_eq fun _ _ _ _ h => h.fail.elim

theorem Respects.query (q : σ → α) : Respects R (Tx.query q : Tx ε σ e α) :=
  .of_eq fun _ _ _ _ h => h.query.2

theorem Respects.fetch (err : e) (q : σ → Option α) :
    Respects R (Tx.fetch err q : Tx ε σ e α) :=
  .of_eq fun _ _ _ _ h => h.fetch.2

theorem Respects.examine (q : σ → Except e α) : Respects R (Tx.examine q : Tx ε σ e α) :=
  .of_eq fun _ _ _ _ h => h.examine.2

theorem Respects.require (c : Bool) (err : e) : Respects R (Tx.require c err : Tx ε σ e Unit) :=
  .of_eq fun _ _ _ _ h => h.require.2

theorem Respects.orFail (o : Option α) (err : e) : Respects R (Tx.orFail err o : Tx ε σ e α) :=
  .of_eq fun _ _ _ _ h => h.orFail.2

theorem Respects.bind {x : Tx ε σ e α} {f : α → Tx ε σ e β} (hx : Respects R x)
    (hf : ∀ a, Respects R (f a)) : Respects R (x >>= f) := by
  intro env s b s' h
  obtain ⟨a, s₁, h₁, h₂⟩ := h.bind
  exact (hR env).trans _ _ _ (hx _ _ _ _ h₁) (hf a _ _ _ _ h₂)

theorem Respects.whenever {c : Bool} {x : Tx ε σ e Unit} (hx : Respects R x) :
    Respects R (Tx.whenever c x) := by
  intro env s a s' h
  rcases h.whenever with ⟨-, h⟩ | ⟨-, rfl⟩
  · exact hx _ _ _ _ h
  · exact refl s'

omit hR in
theorem Respects.ite {c : Prop} [Decidable c] {x y : Tx ε σ e α} (hx : Respects R x)
    (hy : Respects R y) : Respects R (if c then x else y) := by
  split
  · exact hx
  · exact hy

theorem Respects.forM {f : γ → Tx ε σ e PUnit} {xs : List γ} (hf : ∀ x ∈ xs, Respects R (f x)) :
    Respects R (xs.forM f) := by
  intro env s a s' h
  exact h.forM (P := R env s) (refl s) fun x hx s₁ s₂ u h₁ h₂ =>
    (hR env).trans _ _ _ h₁ (hf x hx _ _ _ _ h₂)

theorem Respects.mapM {f : γ → Tx ε σ e α} {xs : List γ} (hf : ∀ x ∈ xs, Respects R (f x)) :
    Respects R (xs.mapM f) := by
  intro env s a s' h
  exact h.mapM (P := R env s) (refl s) fun x hx s₁ s₂ u h₁ h₂ =>
    (hR env).trans _ _ _ h₁ (hf x hx _ _ _ _ h₂)

/-! ## Histories of serialized transactions -/

section History

variable {ο : Type} {exec : ο → Tx ε σ e Unit}

/-- The store after one call: a committed transaction's store, or the old one. -/
def step (exec : ο → Tx ε σ e Unit) (s : σ) (c : ε × ο) : σ := (commit (exec c.2) c.1 s).2

/-- The store after a whole history of calls. -/
def run (exec : ο → Tx ε σ e Unit) (s : σ) (calls : List (ε × ο)) : σ := calls.foldl (step exec) s

/-- The call commits from the store `s`. -/
def Commits (exec : ο → Tx ε σ e Unit) (s : σ) (c : ε × ο) : Prop :=
  (commit (exec c.2) c.1 s).1.isOk = true

instance (exec : ο → Tx ε σ e Unit) (s : σ) (c : ε × ο) : Decidable (Commits exec s c) :=
  inferInstanceAs (Decidable (_ = true))

/-- A call either commits a run of its transaction or leaves the store alone. -/
theorem step_cases (exec : ο → Tx ε σ e Unit) (s : σ) (c : ε × ο) :
    (Commits exec s c ∧ Runs c.1 (exec c.2) s () (step exec s c)) ∨
      (¬ Commits exec s c ∧ step exec s c = s) := by
  unfold Commits
  rcases commit_cases (exec c.2) c.1 s with ⟨a, h, hok⟩ | ⟨err, herr, h⟩
  · exact .inl ⟨by rw [hok]; rfl, h⟩
  · refine .inr ⟨?_, h⟩
    rw [herr]
    exact Bool.false_ne_true

/-- Every call of a history satisfies `P` in the store it was made in. -/
def EveryCall (exec : ο → Tx ε σ e Unit) (P : σ → ε × ο → Prop) : σ → List (ε × ο) → Prop
  | _, [] => True
  | s, c :: cs => P s c ∧ EveryCall exec P (step exec s c) cs

theorem EveryCall.congr {P Q : σ → ε × ο → Prop} (h : ∀ s c, P s c ↔ Q s c)
    (calls : List (ε × ο)) (s : σ) : EveryCall exec P s calls ↔ EveryCall exec Q s calls := by
  induction calls generalizing s with
  | nil => exact Iff.rfl
  | cons c cs ih => exact and_congr (h s c) (ih (step exec s c))

/-- **Invariants of histories.** A property that every committed call keeps holds in every store
    a history reaches. -/
theorem run_induction {P : σ → Prop} {calls : List (ε × ο)}
    (hstep : ∀ c ∈ calls, ∀ s s', P s → Runs c.1 (exec c.2) s () s' → P s') :
    ∀ {s : σ}, P s → P (run exec s calls) := by
  induction calls with
  | nil => exact fun hs => hs
  | cons c cs ih =>
    intro s hs
    refine ih (fun d hd => hstep d (List.mem_cons_of_mem c hd)) ?_
    rcases step_cases exec s c with ⟨-, h⟩ | ⟨-, h⟩
    · exact hstep c List.mem_cons_self s _ hs h
    · rw [h]
      exact hs

theorem run_append (s : σ) (cs ds : List (ε × ο)) :
    run exec s (cs ++ ds) = run exec (run exec s cs) ds := List.foldl_append

end History

end Tx

end Relational

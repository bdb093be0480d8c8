import Agentype.Lib.Tx

/-!
# `Agentype.Lib.Total` — transactions that commit

`Runs` says what a committed transaction did. `Ensures` says that a transaction does commit: from
the given store and counter it returns, and its result, its store and its counter satisfy a
postcondition. The rules follow the statements of a transaction, so that a proof reads from its
first statement to its last.

## Contents
- `Ensures env x s n Q` and one rule per primitive.
- `bind`, `mono`, `with_runs` (what is known of every committed run may be used).
- Loops: `forM_rest`, whose invariant may speak about the items still to be done.
- `Ensures.unbind`, `Ensures.meet`: transactions are deterministic, so a commit can be taken apart.
- `Ensures.commits`: a call whose transaction is ensured commits.
-/

namespace Relational

namespace Tx

variable {ε σ e α β γ : Type}

/-- From the store `s` with `n` identifiers minted, `x` commits with a result, a store and a
    counter that satisfy `Q`. -/
def Ensures (env : ε) (x : Tx ε σ e α) (s : σ) (n : Nat) (Q : α → σ → Nat → Prop) : Prop :=
  ∃ a s' n', x env (s, n) = .ok (a, (s', n')) ∧ Q a s' n'

namespace Ensures

variable {env : ε} {s : σ} {n : Nat} {a : α} {Q : α → σ → Nat → Prop}

theorem mono {Q' : α → σ → Nat → Prop} {x : Tx ε σ e α} (h : Ensures env x s n Q)
    (hQ : ∀ a s' n', Q a s' n' → Q' a s' n') : Ensures env x s n Q' := by
  obtain ⟨a, s', n', hx, hq⟩ := h
  exact ⟨a, s', n', hx, hQ a s' n' hq⟩

/-- Whatever every committed run satisfies is known of an ensured one. -/
theorem with_runs {x : Tx ε σ e α} (h : Ensures env x s n Q) :
    Ensures env x s n fun a s' n' => Q a s' n' ∧ Runs env x s a s' := by
  obtain ⟨a, s', n', hx, hq⟩ := h
  exact ⟨a, s', n', hx, hq, n, n', hx⟩

theorem bind {x : Tx ε σ e β} {f : β → Tx ε σ e α}
    (h : Ensures env x s n fun b s' n' => Ensures env (f b) s' n' Q) :
    Ensures env (x >>= f) s n Q := by
  obtain ⟨b, s₁, n₁, hx, a, s₂, n₂, hf, hq⟩ := h
  refine ⟨a, s₂, n₂, ?_, hq⟩
  change (x env (s, n) >>= fun r => f r.1 env r.2) = _
  rw [hx]
  exact hf

theorem pure (h : Q a s n) : Ensures env (Pure.pure a : Tx ε σ e α) s n Q := ⟨a, s, n, rfl, h⟩

theorem load {Q : σ → σ → Nat → Prop} (h : Q s s n) :
    Ensures env (Tx.load : Tx ε σ e σ) s n Q :=
  ⟨s, s, n, rfl, h⟩

theorem save {Q : Unit → σ → Nat → Prop} {s₁ : σ} (h : Q () s₁ n) :
    Ensures env (Tx.save s₁ : Tx ε σ e Unit) s n Q :=
  ⟨(), s₁, n, rfl, h⟩

theorem ask {Q : ε → σ → Nat → Prop} (h : Q env s n) :
    Ensures env (Tx.ask : Tx ε σ e ε) s n Q :=
  ⟨env, s, n, rfl, h⟩

theorem mint {Q : Nat → σ → Nat → Prop} (h : Q n s (n + 1)) :
    Ensures env (Tx.mint : Tx ε σ e Nat) s n Q :=
  ⟨n, s, n + 1, rfl, h⟩

theorem query {q : σ → α} (h : Q (q s) s n) : Ensures env (Tx.query q : Tx ε σ e α) s n Q :=
  ⟨q s, s, n, rfl, h⟩

theorem require {Q : Unit → σ → Nat → Prop} {c : Bool} {err : e} (hc : c = true) (h : Q () s n) :
    Ensures env (Tx.require c err : Tx ε σ e Unit) s n Q := by
  unfold Tx.require
  rw [if_pos hc]
  exact .pure h

theorem orFail {o : Option α} {err : e} (ho : o = some a) (h : Q a s n) :
    Ensures env (Tx.orFail err o : Tx ε σ e α) s n Q := by
  subst ho
  exact .pure h

theorem fetch {q : σ → Option α} {err : e} (hq : q s = some a) (h : Q a s n) :
    Ensures env (Tx.fetch err q : Tx ε σ e α) s n Q := by
  unfold Tx.fetch Ensures
  exact orFail hq h

theorem examine {q : σ → Except e α} (hq : q s = .ok a) (h : Q a s n) :
    Ensures env (Tx.examine q : Tx ε σ e α) s n Q := by
  refine ⟨a, s, n, ?_, h⟩
  unfold Tx.examine
  rw [hq]

theorem whenever {Q : Unit → σ → Nat → Prop} {c : Bool} {x : Tx ε σ e Unit}
    (ht : c = true → Ensures env x s n Q) (hf : c = false → Q () s n) :
    Ensures env (Tx.whenever c x) s n Q := by
  unfold Tx.whenever
  cases c with
  | true => exact ht rfl
  | false => exact .pure (hf rfl)

section Statements

variable {κ ρ : Type} {S : Schema κ ρ} [DecidableEq κ] {t : Handle σ S} {t' : Table S} {err : e}
  {Q : Unit → σ → Nat → Prop}

theorem insertInto {k : κ} {r : ρ} (ht : (t.get s).insert k r = some t')
    (h : Q () (t.set s t') n) : Ensures env (Tx.insertInto t err k r : Tx ε σ e Unit) s n Q := by
  unfold Tx.insertInto
  exact .bind (.load (.bind (.orFail ht (.save h))))

omit [DecidableEq κ] in
theorem updateIn {p : κ → ρ → Bool} {f : ρ → ρ} (ht : (t.get s).update p f = some t')
    (h : Q () (t.set s t') n) : Ensures env (Tx.updateIn t err p f : Tx ε σ e Unit) s n Q := by
  unfold Tx.updateIn
  exact .bind (.load (.bind (.orFail ht (.save h))))

end Statements

/-- **Loops.** The invariant speaks about the items still to be done. -/
theorem forM_rest {f : γ → Tx ε σ e PUnit} {I : List γ → σ → Nat → Prop} {xs : List γ}
    (h : I xs s n)
    (hstep : ∀ x rest s n, I (x :: rest) s n → Ensures env (f x) s n fun _ => I rest) :
    Ensures env (xs.forM f) s n fun _ => I [] := by
  induction xs generalizing s n with
  | nil => exact .pure h
  | cons x xs ih => exact .bind ((hstep x xs s n h).mono fun _ s' n' h' => ih h')

end Ensures

/-- A sequence that commits is a beginning that commits and a rest that commits from there. -/
theorem Ensures.unbind {env : ε} {s : σ} {n : Nat} {x : Tx ε σ e β} {f : β → Tx ε σ e α}
    {Q : α → σ → Nat → Prop} (h : Ensures env (x >>= f) s n Q) :
    Ensures env x s n fun b s' n' => Ensures env (f b) s' n' Q := by
  obtain ⟨a, s₂, n₂, hseq, hq⟩ := h
  change (x env (s, n) >>= fun r => f r.1 env r.2) = _ at hseq
  cases hx : x env (s, n) with
  | error err =>
    rw [hx] at hseq
    cases hseq
  | ok r =>
    rw [hx] at hseq
    exact ⟨r.1, r.2.1, r.2.2, hx, a, s₂, n₂, hseq, hq⟩

/-- Transactions are deterministic: two postconditions are met by one and the same run. -/
theorem Ensures.meet {env : ε} {s : σ} {n : Nat} {x : Tx ε σ e α} {P Q : α → σ → Nat → Prop}
    (h : Ensures env x s n P) (h' : Ensures env x s n Q) :
    ∃ a s' n', P a s' n' ∧ Q a s' n' := by
  obtain ⟨a, s₁, n₁, hx, hp⟩ := h
  obtain ⟨a', s₂, n₂, hx', hq⟩ := h'
  rw [hx] at hx'
  cases hx'
  exact ⟨a, s₁, n₁, hp, hq⟩

section Inversion

variable {env : ε} {s : σ} {n : Nat} {Q : α → σ → Nat → Prop}

theorem Ensures.ask_bind {f : ε → Tx ε σ e α} (h : Ensures env (Tx.ask >>= f) s n Q) :
    Ensures env (f env) s n Q := h

theorem Ensures.require_bind {c : Bool} {err : e} {f : Unit → Tx ε σ e α}
    (h : Ensures env (Tx.require c err >>= f) s n Q) : c = true ∧ Ensures env (f ()) s n Q := by
  cases c with
  | true => exact ⟨rfl, h⟩
  | false =>
    obtain ⟨_, _, _, hx, -⟩ := h
    cases hx

theorem Ensures.examine_bind {q : σ → Except e β} {f : β → Tx ε σ e α}
    (h : Ensures env (Tx.examine q >>= f) s n Q) :
    ∃ b, q s = .ok b ∧ Ensures env (f b) s n Q := by
  obtain ⟨b, s', n', hx, hf⟩ := h.unbind
  unfold Tx.examine at hx
  cases hq : q s with
  | error err =>
    rw [hq] at hx
    cases hx
  | ok a =>
    rw [hq] at hx
    cases hx
    exact ⟨b, rfl, hf⟩

theorem Ensures.insertInto_bind {κ ρ : Type} {S : Schema κ ρ} [DecidableEq κ] {t : Handle σ S}
    {err : e} {k : κ} {r : ρ} {f : Unit → Tx ε σ e α}
    (h : Ensures env (Tx.insertInto t err k r >>= f) s n Q) :
    ∃ t', (t.get s).insert k r = some t' ∧ Ensures env (f ()) (t.set s t') n Q := by
  cases ht : (t.get s).insert k r with
  | none =>
    obtain ⟨_, _, _, hx, -⟩ := h.unbind
    have herr : (Tx.insertInto t err k r : Tx ε σ e Unit) env (s, n) = .error err := by
      change (Tx.orFail err ((t.get s).insert k r) >>= fun t' => Tx.save (t.set s t')) env (s, n) = _
      rw [ht]
      rfl
    rw [herr] at hx
    cases hx
  | some t' =>
    have hens : Ensures env (Tx.insertInto t err k r : Tx ε σ e Unit) s n
        fun _ s' n' => t.set s t' = s' ∧ n = n' := .insertInto ht ⟨rfl, rfl⟩
    obtain ⟨_, _, _, ⟨rfl, rfl⟩, hf⟩ := hens.meet h.unbind
    exact ⟨t', rfl, hf⟩

end Inversion

/-- A call whose transaction is ensured to commit. -/
theorem Ensures.commits {ο : Type} {exec : ο → Tx ε σ e Unit} {s : σ} {c : ε × ο}
    {Q : Unit → σ → Nat → Prop} (h : Ensures c.1 (exec c.2) s 0 Q) : Commits exec s c := by
  obtain ⟨a, s', n', hx, -⟩ := h
  unfold Commits commit
  rw [hx]
  rfl

/-- The store after an ensured call satisfies the postcondition. -/
theorem Ensures.step {ο : Type} (exec : ο → Tx ε σ e Unit) {s : σ} (c : ε × ο)
    {Q : Unit → σ → Nat → Prop} (h : Ensures c.1 (exec c.2) s 0 Q) :
    ∃ n, Q () (step exec s c) n := by
  obtain ⟨a, s', n', hx, hq⟩ := h
  refine ⟨n', ?_⟩
  unfold Tx.step commit
  rw [hx]
  exact hq

theorem Commits.ensures {ο : Type} {exec : ο → Tx ε σ e Unit} {s : σ} {c : ε × ο}
    (h : Commits exec s c) : Ensures c.1 (exec c.2) s 0 fun _ _ _ => True := by
  unfold Commits commit at h
  split at h
  · rename_i a st hx
    exact ⟨a, st.1, st.2, hx, trivial⟩
  · cases h

end Tx

end Relational

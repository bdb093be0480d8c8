import Agentype.Lib.Tx

/-!
# `Agentype.Lib.Abort` — the errors a transaction can end with

`Runs` and `Ensures` speak about commits. `Spares env E x s` speaks about the other end: run from
the store `s`, the transaction `x` does not abort with an error of the class `E`. The rules follow
the statements of a transaction; what is known of the statements before may be used through their
committed runs.

## Contents
- `Spares env E x s` and one rule per primitive.
- `Spares.bind`: the rule for sequences.
- `Declines E x`: the same of a check outside of the store.
- `Spared E x`: the same from every store. The class is inferred from the text of a transaction.
-/

namespace Relational

namespace Tx

variable {ε σ e α β : Type}

/-- Run from `s`, the transaction does not abort with an error of the class `E`. -/
def Spares (env : ε) (E : e → Prop) (x : Tx ε σ e α) (s : σ) : Prop :=
  ∀ n err, x env (s, n) = .error err → ¬ E err

namespace Spares

variable {env : ε} {E : e → Prop} {s : σ}

/-- **Sequences.** The second part starts where a committed run of the first one ended. -/
theorem bind {x : Tx ε σ e α} {f : α → Tx ε σ e β} (hx : Spares env E x s)
    (hf : ∀ a s', Runs env x s a s' → Spares env E (f a) s') : Spares env E (x >>= f) s := by
  intro n err h
  change (x env (s, n) >>= fun r => f r.1 env r.2) = _ at h
  cases hrun : x env (s, n) with
  | error err' =>
    rw [hrun] at h
    cases h
    exact hx n err hrun
  | ok r =>
    rw [hrun] at h
    exact hf r.1 r.2.1 ⟨n, r.2.2, hrun⟩ r.2.2 err h

/-- A statement that always commits. -/
theorem of_ok {x : Tx ε σ e α} (h : ∀ n, ∃ r, x env (s, n) = .ok r) : Spares env E x s := by
  intro n err herr
  obtain ⟨r, hr⟩ := h n
  rw [hr] at herr
  cases herr

theorem pure (a : α) : Spares env E (Pure.pure a : Tx ε σ e α) s := of_ok fun _ => ⟨_, rfl⟩

theorem ask : Spares env E (Tx.ask : Tx ε σ e ε) s := of_ok fun _ => ⟨_, rfl⟩

theorem mint : Spares env E (Tx.mint : Tx ε σ e Nat) s := of_ok fun _ => ⟨_, rfl⟩

theorem query (q : σ → α) : Spares env E (Tx.query q : Tx ε σ e α) s := of_ok fun _ => ⟨_, rfl⟩

theorem fail {err : e} (h : ¬ E err) : Spares env E (Tx.fail err : Tx ε σ e α) s := by
  intro n err' herr
  cases herr
  exact h

theorem require {c : Bool} {err : e} (h : c = false → ¬ E err) :
    Spares env E (Tx.require c err : Tx ε σ e Unit) s := by
  unfold Tx.require
  split
  · exact .pure _
  · rename_i hc
    exact .fail (h (Bool.eq_false_iff.mpr hc))

theorem orFail {err : e} {o : Option α} (h : ¬ E err) :
    Spares env E (Tx.orFail err o : Tx ε σ e α) s := by
  cases o with
  | none => exact .fail h
  | some a => exact .pure a

theorem fetch {err : e} {q : σ → Option α} (h : ¬ E err) :
    Spares env E (Tx.fetch err q : Tx ε σ e α) s := by
  intro n err' herr
  exact orFail (o := q s) h n err' herr

theorem examine {q : σ → Except e α} (h : ∀ err, q s = .error err → ¬ E err) :
    Spares env E (Tx.examine q : Tx ε σ e α) s := by
  intro n err' herr
  unfold Tx.examine at herr
  cases hq : q s with
  | ok a =>
    rw [hq] at herr
    cases herr
  | error err =>
    rw [hq] at herr
    cases herr
    exact h err' hq

section Statements

variable {κ ρ : Type} {S : Schema κ ρ} [DecidableEq κ] {t : Handle σ S} {err : e}

theorem insertInto {k : κ} {r : ρ} (h : ¬ E err) :
    Spares env E (Tx.insertInto t err k r : Tx ε σ e Unit) s := by
  unfold Tx.insertInto
  refine .bind (of_ok fun _ => ⟨_, rfl⟩) fun s₁ s₂ _ => .bind (.orFail h) fun t' s₃ _ => ?_
  exact of_ok fun _ => ⟨_, rfl⟩

omit [DecidableEq κ] in
theorem updateIn {p : κ → ρ → Bool} {f : ρ → ρ} (h : ¬ E err) :
    Spares env E (Tx.updateIn t err p f : Tx ε σ e Unit) s := by
  unfold Tx.updateIn
  refine .bind (of_ok fun _ => ⟨_, rfl⟩) fun s₁ s₂ _ => .bind (.orFail h) fun t' s₃ _ => ?_
  exact of_ok fun _ => ⟨_, rfl⟩

end Statements

/-- What a spared error means for the committed transaction. -/
theorem commit {x : Tx ε σ e α} (h : Spares env E x s) {err : e} (hE : E err) :
    (Tx.commit x env s).1 ≠ .error err := by
  unfold Tx.commit
  split
  · nofun
  · rename_i err' herr
    intro heq
    obtain rfl := Except.error.inj heq
    exact h 0 _ herr hE

end Spares

/-! ## Checks -/

/-- The check does not fail with an error of the class `E`. -/
def Declines (E : e → Bool) (x : Except e α) : Prop := ∀ err, x = .error err → E err = false

namespace Declines

variable {E : e → Bool} {err : e}

theorem ok (a : α) : Declines E (.ok a) := nofun

theorem error (h : E err = false) : Declines E (.error err : Except e α) := by
  rintro err' ⟨⟩
  exact h

theorem bind {x : Except e α} {f : α → Except e β} (hx : Declines E x)
    (hf : ∀ a, Declines E (f a)) : Declines E (x >>= f) := by
  intro err h
  cases x with
  | error err' =>
    cases h
    exact hx err rfl
  | ok a => exact hf a err h

theorem ite {c : Prop} [Decidable c] {x y : Except e α} (hx : Declines E x)
    (hy : Declines E y) : Declines E (if c then x else y) := by
  split
  · exact hx
  · exact hy

theorem mapM {f : α → Except e β} (h : ∀ a, Declines E (f a)) (l : List α) :
    Declines E (l.mapM f) := by
  induction l with
  | nil => exact .ok []
  | cons a l ih =>
    rw [List.mapM_cons]
    exact .bind (h a) fun _ => .bind ih fun _ => .ok _

end Declines

/-! ## Inference -/

/-- The error is outside of the class. -/
class Outside (E : e → Bool) (err : e) : Prop where
  eq_false : E err = false

/-- From no store does the transaction abort with an error of the class `E`. -/
class Spared (E : e → Bool) (x : Tx ε σ e α) : Prop where
  spares : ∀ env s, Spares env (fun err => E err = true) x s

theorem Outside.not_mem {E : e → Bool} {err : e} [h : Outside E err] : ¬ E err = true := by
  rw [h.eq_false]
  exact Bool.false_ne_true

namespace Spared

variable {γ κ ρ : Type} {S : Schema κ ρ} {E : e → Bool} {err : e} {x : Tx ε σ e α}

theorem examine {q : σ → Except e α} (h : ∀ s, Declines E (q s)) :
    Spared E (Tx.examine q : Tx ε σ e α) := by
  refine ⟨fun env s => .examine fun err herr => ?_⟩
  rw [h s err herr]
  exact Bool.false_ne_true

instance {a : α} : Spared E (Pure.pure a : Tx ε σ e α) := ⟨fun _ _ => .pure a⟩

instance : Spared E (ask : Tx ε σ e ε) := ⟨fun _ _ => .ask⟩

instance : Spared E (mint : Tx ε σ e Nat) := ⟨fun _ _ => .mint⟩

instance {q : σ → α} : Spared E (query q : Tx ε σ e α) := ⟨fun _ _ => .query q⟩

instance [Outside E err] : Spared E (fail err : Tx ε σ e α) :=
  ⟨fun _ _ => .fail Outside.not_mem⟩

instance {c : Bool} [Outside E err] : Spared E (require c err : Tx ε σ e Unit) :=
  ⟨fun _ _ => .require fun _ => Outside.not_mem⟩

instance {q : σ → Option α} [Outside E err] : Spared E (fetch err q : Tx ε σ e α) :=
  ⟨fun _ _ => .fetch Outside.not_mem⟩

instance {t : Handle σ S} {p : κ → ρ → Bool} {f : ρ → ρ} [Outside E err] :
    Spared E (updateIn t err p f : Tx ε σ e Unit) :=
  ⟨fun _ _ => .updateIn Outside.not_mem⟩

instance [DecidableEq κ] {t : Handle σ S} {k : κ} {r : ρ} [Outside E err] :
    Spared E (insertInto t err k r : Tx ε σ e Unit) :=
  ⟨fun _ _ => .insertInto Outside.not_mem⟩

theorem bind {f : α → Tx ε σ e β} (hx : Spared E x) (hf : ∀ a, Spared E (f a)) :
    Spared E (x >>= f) :=
  ⟨fun env s => (hx.spares env s).bind fun a s' _ => (hf a).spares env s'⟩

instance {f : α → Tx ε σ e β} [hx : Spared E x] [hf : ∀ a, Spared E (f a)] : Spared E (x >>= f) :=
  hx.bind hf

instance {c : Prop} [Decidable c] {y : Tx ε σ e α} [Spared E x] [Spared E y] :
    Spared E (if c then x else y) := by
  split <;> assumption

instance {c : Bool} {x : Tx ε σ e Unit} [Spared E x] : Spared E (whenever c x) := by
  unfold whenever
  infer_instance

instance {f : γ → Tx ε σ e PUnit} {xs : List γ} [∀ x, Spared E (f x)] : Spared E (xs.forM f) := by
  induction xs with
  | nil => exact inferInstanceAs (Spared E (Pure.pure PUnit.unit))
  | cons x xs ih => exact inferInstanceAs (Spared E (f x >>= fun _ => xs.forM f))

end Spared

end Tx

end Relational

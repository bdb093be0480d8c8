import Agentype.Lib.Tx

/-!
# `Agentype.Lib.Frame` — what a transaction leaves alone

Two ways to bound the effect of a transaction on a store made of tables.

## Contents
- **Modifies clauses.** `Modifies table W s s'`: the stores agree on every table outside `W`.
  `Tx.Footprint table x W`: every committed run of `x` modifies `W` only. The class is inferred from
  the text of a transaction: `Handle.Owns` says which table a handle writes, and the clauses of the
  statements are joined over sequences, branches and loops.
- **Evolution of rows.** `Table.Evolves R t t'`: every row persists and changes only as `R` allows.
  `Handle.Allows T R Q`: evolving the rows of a table along `Q` is a step of `R`.
-/

namespace Relational

/-! ## Modifies clauses -/

section Modifies

variable {σ ι : Type} {T : ι → Type} {table : (i : ι) → σ → T i} {W W' : List ι}

/-- The stores agree on every table outside `W`. -/
def Modifies (table : (i : ι) → σ → T i) (W : List ι) (s s' : σ) : Prop :=
  ∀ i, i ∉ W → table i s' = table i s

instance : IsPreorder σ (Modifies table W) where
  refl _ _ _ := rfl
  trans _ _ _ h₁ h₂ i hi := (h₂ i hi).trans (h₁ i hi)

theorem Modifies.mono {s s' : σ} (h : Modifies table W s s') (hW : W ⊆ W') :
    Modifies table W' s s' :=
  fun i hi => h i fun hmem => hi (hW hmem)

namespace Tx

variable {ε e α β γ κ ρ : Type} {S : Schema κ ρ} {x : Tx ε σ e α} {f : α → Tx ε σ e β}
  {U V : List ι}

/-- Writing through the handle leaves every table outside `W` alone. -/
class Handle.Owns (t : Handle σ S) (table : (i : ι) → σ → T i) (W : outParam (List ι)) : Prop where
  modifies : ∀ s x, Modifies table W s (t.set s x)

/-- The transaction writes no table outside `W`. The clause is inferred: each statement has its own,
    and the rules below join them. -/
class Footprint (table : (i : ι) → σ → T i) (x : Tx ε σ e α) (W : outParam (List ι)) : Prop where
  modifies : Respects (fun _ => Modifies table W) x

/-- The clause of two clauses together. A class, so that it is computed once both are known. -/
class Joined (V W : List ι) (U : outParam (List ι)) : Prop where
  eq : U = V ++ W

instance : Joined V W (V ++ W) := ⟨rfl⟩

namespace Footprint

/-- A transaction may be given a larger clause. -/
theorem weaken (h : Footprint table x W) (hW : W ⊆ W') : Footprint table x W' :=
  ⟨fun env s a s' hr => (h.modifies env s a s' hr).mono hW⟩

/-- The clause of the statements, weakened. -/
theorem infer [DecidableEq ι] [h : Footprint table x V] (hW : decide (V ⊆ W) = true) :
    Footprint table x W :=
  h.weaken (of_decide_eq_true hW)

theorem bind (hx : Footprint table x W) (hf : ∀ a, Footprint table (f a) W) :
    Footprint table (x >>= f) W :=
  ⟨.bind hx.modifies fun a => (hf a).modifies⟩

instance {a : α} : Footprint table (Pure.pure a : Tx ε σ e α) [] := ⟨.pure a⟩

instance : Footprint table (ask : Tx ε σ e ε) [] := ⟨.ask⟩

instance : Footprint table (mint : Tx ε σ e Nat) [] := ⟨.mint⟩

instance {err : e} : Footprint table (fail err : Tx ε σ e α) [] := ⟨.fail err⟩

instance {q : σ → α} : Footprint table (query q : Tx ε σ e α) [] := ⟨.query q⟩

instance {err : e} {q : σ → Option α} : Footprint table (fetch err q : Tx ε σ e α) [] :=
  ⟨.fetch err q⟩

instance {q : σ → Except e α} : Footprint table (examine q : Tx ε σ e α) [] := ⟨.examine q⟩

instance {c : Bool} {err : e} : Footprint table (require c err : Tx ε σ e Unit) [] :=
  ⟨.require c err⟩

instance {err : e} {o : Option α} : Footprint table (orFail err o : Tx ε σ e α) [] :=
  ⟨.orFail o err⟩

instance [hx : Footprint table x V] [hf : ∀ a, Footprint table (f a) W] [hU : Joined V W U] :
    Footprint table (x >>= f) U := by
  obtain rfl := hU.eq
  exact .bind (hx.weaken (List.subset_append_left V W)) fun a =>
    (hf a).weaken (List.subset_append_right V W)

instance {c : Bool} {x : Tx ε σ e Unit} [hx : Footprint table x W] :
    Footprint table (whenever c x) W :=
  ⟨.whenever hx.modifies⟩

instance {c : Prop} [Decidable c] {y : Tx ε σ e α} [hx : Footprint table x V]
    [hy : Footprint table y W] [hU : Joined V W U] : Footprint table (if c then x else y) U := by
  obtain rfl := hU.eq
  exact ⟨.ite (hx.weaken (List.subset_append_left V W)).modifies
    (hy.weaken (List.subset_append_right V W)).modifies⟩

instance {f : γ → Tx ε σ e PUnit} {xs : List γ} [hf : ∀ x, Footprint table (f x) W] :
    Footprint table (xs.forM f) W :=
  ⟨.forM fun x _ => (hf x).modifies⟩

instance {f : γ → Tx ε σ e α} {xs : List γ} [hf : ∀ x, Footprint table (f x) W] :
    Footprint table (xs.mapM f) W :=
  ⟨.mapM fun x _ => (hf x).modifies⟩

section Handles

variable {t : Handle σ S} [ho : t.Owns table W]

include ho in
theorem of_set (h : ∀ env s a s', Runs env x s a s' → ∃ t', s' = t.set s t') :
    Footprint table x W := by
  refine ⟨fun env s a s' hr => ?_⟩
  obtain ⟨t', rfl⟩ := h env s a s' hr
  exact ho.modifies s t'

instance {err : e} {p : κ → ρ → Bool} {g : ρ → ρ} :
    Footprint table (updateIn t err p g : Tx ε σ e Unit) W := by
  refine of_set (t := t) fun env s a s' h => ?_
  obtain ⟨t', -, hs⟩ := h.updateIn
  exact ⟨t', hs⟩

variable [DecidableEq κ]

instance {err : e} {k : κ} {r : ρ} : Footprint table (insertInto t err k r : Tx ε σ e Unit) W := by
  refine of_set (t := t) fun env s a s' h => ?_
  obtain ⟨t', -, hs⟩ := h.insertInto
  exact ⟨t', hs⟩

instance {k : κ} : Footprint table (eraseFrom t k : Tx ε σ e Unit) W :=
  of_set (t := t) fun _ _ _ _ h => ⟨_, h.eraseFrom⟩

end Handles

end Footprint

end Tx

end Modifies

/-! ## Evolution of rows -/

namespace Table

variable {κ ρ : Type} {S : Schema κ ρ} [DecidableEq κ] {R : κ → ρ → ρ → Prop}
  {N : κ → ρ → Prop} {t t' t'' : Table S}

/-- Every row persists and changes only as `R` allows. -/
def Evolves (R : κ → ρ → ρ → Prop) (t t' : Table S) : Prop :=
  ∀ k r, t.lookup k = some r → ∃ r', t'.lookup k = some r' ∧ R k r r'

theorem Evolves.of_refl (hR : ∀ k r, R k r r) (t : Table S) : Evolves R t t :=
  fun k r h => ⟨r, h, hR k r⟩

theorem Evolves.comp (hR : ∀ k r r' r'', R k r r' → R k r' r'' → R k r r'')
    (h₁ : Evolves R t t') (h₂ : Evolves R t' t'') : Evolves R t t'' := by
  intro k r h
  obtain ⟨r', h', hr⟩ := h₁ k r h
  obtain ⟨r'', h'', hr'⟩ := h₂ k r' h'
  exact ⟨r'', h'', hR k r r' r'' hr hr'⟩

/-- An `UPDATE` evolves the rows it selects by its assignment. -/
theorem Evolves.of_update {p : κ → ρ → Bool} {f : ρ → ρ} (h : t.update p f = some t')
    (hR : ∀ k r, R k r r)
    (hf : ∀ k r, t.lookup k = some r → p k r = true → R k r (f r)) : Evolves R t t' := by
  intro k r hr
  rw [lookup_of_update h, hr]
  refine ⟨updateRow p f k r, rfl, ?_⟩
  unfold updateRow
  split
  · rename_i hp
    exact hf k r hr hp
  · exact hR k r

theorem Evolves.of_insert {k : κ} {r : ρ} (h : t.insert k r = some t') (hR : ∀ k r, R k r r) :
    Evolves R t t' := by
  intro k' r' hr
  obtain ⟨hnone, hl⟩ := lookup_of_insert h
  have hne : k' ≠ k := by
    rintro rfl
    rw [hnone] at hr
    cases hr
  exact ⟨r', by rw [hl, if_neg hne, hr], hR k' r'⟩

/-- An `UPDATE` adds no row. -/
theorem lookup_isSome_of_update {p : κ → ρ → Bool} {f : ρ → ρ} (h : t.update p f = some t')
    (k : κ) : (t'.lookup k).isSome = (t.lookup k).isSome := by
  rw [lookup_of_update h, Option.isSome_map]

end Table

namespace Tx.Handle

variable {ε σ e κ ρ : Type} {S : Schema κ ρ} [DecidableEq κ] {T : Handle σ S}
  {R : ε → σ → σ → Prop} {Q : ε → κ → ρ → ρ → Prop} {err : e} {k : κ} {r : ρ}
  {p : κ → ρ → Bool} {f : ρ → ρ}

/-- A relation between stores allows a table to evolve along `Q`. -/
structure Allows (T : Handle σ S) (R : ε → σ → σ → Prop) (Q : ε → κ → ρ → ρ → Prop) : Prop where
  refl : ∀ env k r, Q env k r r
  step : ∀ {env s t'}, (T.get s).Evolves (Q env) t' → R env s (T.set s t')

theorem Allows.insert (h : T.Allows R Q) : Respects R (insertInto T err k r : Tx ε σ e Unit) := by
  intro env s u s' hrun
  obtain ⟨t', ht', rfl⟩ := hrun.insertInto
  exact h.step (.of_insert ht' (h.refl env))

theorem Allows.update_runs (h : T.Allows R Q) {env : ε} {s s' : σ} {u : Unit}
    (hrun : Runs env (updateIn T err p f : Tx ε σ e Unit) s u s')
    (hf : ∀ k r, (T.get s).lookup k = some r → p k r = true → Q env k r (f r)) : R env s s' := by
  obtain ⟨t', ht', rfl⟩ := hrun.updateIn
  exact h.step (.of_update ht' (h.refl env) hf)

theorem Allows.update (h : T.Allows R Q) (hf : ∀ env k r, p k r = true → Q env k r (f r)) :
    Respects R (updateIn T err p f : Tx ε σ e Unit) :=
  fun env _ _ _ hrun => h.update_runs hrun fun k r _ hp => hf env k r hp

end Tx.Handle

end Relational

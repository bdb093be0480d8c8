import Mathlib.Logic.Function.Basic
import Agentype.Lib.Frame

/-!
# `Agentype.Lib.View` — tables seen as functions

An abstract model reads a table as a function from keys to the columns it cares about. The view of
a table after a statement is the old view, or the old view updated at one key.

## Contents
- `Table.view f t`: the columns `f` of the row under each key.
- `view_of_update_eq`: an `UPDATE` of other columns is invisible.
- `view_of_update_at`, `view_of_update_view`, `view_of_insert`: a statement about one row is an
  update at one key.
- `view_of_update_map`: a statement about many rows that the view can tell apart.
-/

namespace Relational

namespace Table

variable {κ ρ β : Type} {S : Schema κ ρ} [DecidableEq κ] {f : ρ → β} {t t' : Table S}

/-- The table as a function of its keys, restricted to some columns. -/
def view (f : ρ → β) (t : Table S) (k : κ) : Option β := (t.lookup k).map f

theorem view_eq_some {k : κ} {y : β} : t.view f k = some y ↔ ∃ r, t.lookup k = some r ∧ f r = y :=
  Option.map_eq_some_iff

theorem view_eq_none {k : κ} : t.view f k = none ↔ t.lookup k = none := Option.map_eq_none_iff

theorem view_of_lookup {k : κ} {r : ρ} (h : t.lookup k = some r) : t.view f k = some (f r) := by
  rw [view, h, Option.map_some]

/-- An `UPDATE` that keeps the columns of the view on the rows it selects. -/
theorem view_of_update_eq {p : κ → ρ → Bool} {g : ρ → ρ} (h : t.update p g = some t')
    (hg : ∀ k r, t.lookup k = some r → p k r = true → f (g r) = f r) : t'.view f = t.view f := by
  funext k
  rw [view, view, lookup_of_update h, Option.map_map]
  cases hk : t.lookup k with
  | none => rfl
  | some r =>
    simp only [Option.map_some, Function.comp_apply, updateRow]
    by_cases hp : p k r = true
    · rw [if_pos hp, hg k r hk hp]
    · rw [if_neg hp]

/-- An `UPDATE` that selects exactly the row under `k`. -/
theorem view_of_update_at {p : κ → ρ → Bool} {g : ρ → ρ} {k : κ} {r : ρ}
    (h : t.update p g = some t') (hk : t.lookup k = some r) (hp : p k r = true)
    (honly : ∀ k' r', t.lookup k' = some r' → p k' r' = true → k' = k) :
    t'.view f = Function.update (t.view f) k (some (f (g r))) := by
  funext k'
  rw [Function.update_apply, view, lookup_of_update h]
  by_cases hkk : k' = k
  · subst hkk
    rw [if_pos rfl, hk]
    simp only [Option.map_some, updateRow, if_pos hp]
  · rw [if_neg hkk, view]
    cases hk' : t.lookup k' with
    | none => rfl
    | some r' =>
      have hno : ¬ p k' r' = true := fun hp' => hkk (honly k' r' hk' hp')
      simp only [Option.map_some, updateRow, if_neg hno]

/-- The same when the view already tells that the row is selected and what becomes of it. -/
theorem view_of_update_view {p : κ → ρ → Bool} {g : ρ → ρ} {k : κ} {y y' : β}
    (h : t.update p g = some t') (hk : t.view f k = some y)
    (hg : ∀ r, f r = y → p k r = true ∧ f (g r) = y')
    (honly : ∀ k' r', p k' r' = true → k' = k) :
    t'.view f = Function.update (t.view f) k (some y') := by
  obtain ⟨r, hr, hy⟩ := view_eq_some.mp hk
  obtain ⟨hp, hy'⟩ := hg r hy
  rw [view_of_update_at h hr hp fun k' r' _ => honly k' r', hy']

/-- Any `UPDATE` whose condition and assignment are about the columns of the view. -/
theorem view_of_update_map {p : κ → ρ → Bool} {g : ρ → ρ} (F : κ → β → β)
    (h : t.update p g = some t') (hF : ∀ k r, f (updateRow p g k r) = F k (f r)) :
    t'.view f = fun k => (t.view f k).map (F k) := by
  funext k
  rw [view, view, lookup_of_update h, Option.map_map, Option.map_map]
  congr 1
  funext r
  exact hF k r

theorem view_of_insert {k : κ} {r : ρ} (h : t.insert k r = some t') :
    t.view f k = none ∧ t'.view f = Function.update (t.view f) k (some (f r)) := by
  obtain ⟨hnone, hl⟩ := lookup_of_insert h
  refine ⟨view_eq_none.mpr hnone, ?_⟩
  funext k'
  rw [Function.update_apply, view, hl]
  by_cases hk : k' = k
  · rw [if_pos hk, if_pos hk, Option.map_some]
  · rw [if_neg hk, if_neg hk, view]

end Table

end Relational

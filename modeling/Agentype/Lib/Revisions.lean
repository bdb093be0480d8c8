import Agentype.Lib.SortedMap

/-!
# `Agentype.Lib.Revisions` — write-once rows with an overlay that only advances

A shelf holds rows that are written once and never replaced, and beside them an overlay with one
disposition for each row, which may move along a preorder `le`. `Grows le v v'` says that `v'` comes
after `v`: every row of `v` is still there, and every disposition has moved along `le` or stayed.

## Contents
- `Revisions`, `find`, `add`, `advance`, `lookup_of_add`, `row_of_add`, `rows_of_add`.
- `Grows`, with `refl`, `trans`, `grows_add`, `grows_advance`.
-/

structure Revisions (K R S : Type) [LinearOrder K] where
  rows : SortedMap K R
  overlay : SortedMap K S

namespace Revisions

variable {K R S : Type} [LinearOrder K]

def empty : Revisions K R S := ⟨.empty, .empty⟩

/-- A row, with its disposition if it has one. -/
def find (v : Revisions K R S) (k : K) : Option (R × Option S) :=
  (v.rows.lookup k).map fun r => (r, v.overlay.lookup k)

/-- Add a row and its disposition; `none` if the key is taken. -/
def add (v : Revisions K R S) (k : K) (r : R) (s : S) : Option (Revisions K R S) :=
  if (v.rows.lookup k).isNone && (v.overlay.lookup k).isNone then
    some ⟨v.rows.insert k r, v.overlay.insert k s⟩
  else none

/-- Replace the disposition of a key. -/
def advance (v : Revisions K R S) (k : K) (s : S) : Revisions K R S :=
  { v with overlay := v.overlay.insert k s }

theorem add_eq_some {v v' : Revisions K R S} {k : K} {r : R} {s : S} :
    v.add k r s = some v' ↔
      (v.rows.lookup k = none ∧ v.overlay.lookup k = none) ∧
        v' = ⟨v.rows.insert k r, v.overlay.insert k s⟩ := by
  rw [add, Option.ite_none_right_eq_some, Option.some.injEq]
  simp only [Bool.and_eq_true, Option.isNone_iff_eq_none]
  exact and_congr_right fun _ => eq_comm

/-- What an added row leaves under its own key. -/
theorem lookup_of_add {v v' : Revisions K R S} {k : K} {r : R} {s : S}
    (h : v.add k r s = some v') : v'.rows.lookup k = some r ∧ v'.overlay.lookup k = some s := by
  obtain ⟨-, rfl⟩ := add_eq_some.mp h
  simp [SortedMap.lookup_insert]

/-- A row after an addition is the added one or was there before. -/
theorem row_of_add {v v' : Revisions K R S} {k j : K} {r r' : R} {s : S}
    (h : v.add k r s = some v') (hj : v'.rows.lookup j = some r') :
    (j = k ∧ r' = r) ∨ v.rows.lookup j = some r' := by
  obtain ⟨-, rfl⟩ := add_eq_some.mp h
  rw [SortedMap.lookup_insert] at hj
  by_cases hjk : j = k
  · rw [if_pos hjk] at hj
    exact .inl ⟨hjk, (Option.some.inj hj).symm⟩
  · rw [if_neg hjk] at hj
    exact .inr hj

/-- What holds of the key of an added row: every row was there before or has that key. -/
theorem rows_of_add {v v' : Revisions K R S} {k : K} {r : R} {s : S} {P : K → Prop}
    (h : v.add k r s = some v')
    (hnew : v'.rows.lookup k = some r → v'.overlay.lookup k = some s → P k) (j : K) (r' : R)
    (hj : v'.rows.lookup j = some r') : v.rows.lookup j = some r' ∨ P j := by
  rcases row_of_add h hj with ⟨rfl, -⟩ | hold
  · exact .inr (hnew (lookup_of_add h).1 (lookup_of_add h).2)
  · exact .inl hold

section Growth

variable {le : S → S → Prop} {v v' v'' : Revisions K R S}

/-- Every row is kept, and every disposition has stayed or moved along `le`. -/
structure Grows (le : S → S → Prop) (v v' : Revisions K R S) : Prop where
  rows : ∀ k r, v.rows.lookup k = some r → v'.rows.lookup k = some r
  overlay : ∀ k s, v.overlay.lookup k = some s → ∃ s', v'.overlay.lookup k = some s' ∧ le s s'

theorem Grows.refl (hle : ∀ s, le s s) (v : Revisions K R S) : Grows le v v :=
  ⟨fun _ _ h => h, fun _ s h => ⟨s, h, hle s⟩⟩

theorem Grows.trans (hle : ∀ {a b c}, le a b → le b c → le a c) (h : Grows le v v')
    (h' : Grows le v' v'') : Grows le v v'' := by
  refine ⟨fun k r hr => h'.rows k r (h.rows k r hr), fun k s hs => ?_⟩
  obtain ⟨s', hs', hle'⟩ := h.overlay k s hs
  obtain ⟨s'', hs'', hle''⟩ := h'.overlay k s' hs'
  exact ⟨s'', hs'', hle hle' hle''⟩

theorem grows_add {k : K} {r : R} {s : S} (hle : ∀ s, le s s) (h : v.add k r s = some v') :
    Grows le v v' := by
  obtain ⟨⟨hrow, hoverlay⟩, rfl⟩ := add_eq_some.mp h
  constructor
  · intro j r' hj
    have hne : j ≠ k := by
      rintro rfl
      rw [hrow] at hj
      cases hj
    rw [SortedMap.lookup_insert, if_neg hne, hj]
  · intro j s' hj
    have hne : j ≠ k := by
      rintro rfl
      rw [hoverlay] at hj
      cases hj
    exact ⟨s', by rw [SortedMap.lookup_insert, if_neg hne, hj], hle s'⟩

theorem grows_advance {k : K} {s s' : S} (hle : ∀ s, le s s) (hs : v.overlay.lookup k = some s)
    (hadv : le s s') : Grows le v (v.advance k s') := by
  refine ⟨fun _ _ h => h, fun j t hj => ?_⟩
  show ∃ t', (v.overlay.insert k s').lookup j = some t' ∧ le t t'
  rw [SortedMap.lookup_insert]
  by_cases hjk : j = k
  · subst hjk
    rw [hs] at hj
    cases hj
    exact ⟨s', if_pos rfl, hadv⟩
  · exact ⟨t, by rw [if_neg hjk, hj], hle t⟩

end Growth

end Revisions

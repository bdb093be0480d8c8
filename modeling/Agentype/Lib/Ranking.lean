import Mathlib.Data.List.Sort

/-!
# `Agentype.Lib.Ranking` — sorting by a key and counting dominators

Sorting a list by a key gives a list that depends only on the elements when the key tells them apart,
and puts an element before another whenever its key is smaller. Counting how many elements dominate
an element turns a strict order on the elements into such a key.

## Contents
- `sortBy`, `mem_sortBy`, `sortBy_eq_of_perm`, `sortBy_filter`.
- **`sortBy_precedes`**: a smaller key comes first.
- `dominators`, **`dominators_lt`**: what dominates has fewer dominators.
-/

section Sorting

variable {α β : Type} [LinearOrder β] {key : α → β} {l l' : List α}

/-- The list in the order of a key; elements with the same key keep their order. -/
def sortBy (key : α → β) (l : List α) : List α := l.insertionSort fun a b => key a ≤ key b

theorem sortBy_perm (key : α → β) (l : List α) : (sortBy key l).Perm l :=
  List.perm_insertionSort _ l

@[simp] theorem mem_sortBy {a : α} : a ∈ sortBy key l ↔ a ∈ l := (sortBy_perm key l).mem_iff

theorem sortBy_pairwise (key : α → β) (l : List α) :
    (sortBy key l).Pairwise fun a b => key a ≤ key b := by
  have : IsTrans α fun a b => key a ≤ key b := ⟨fun _ _ _ => le_trans⟩
  have : Std.Total fun a b : α => key a ≤ key b := ⟨fun _ _ => le_total _ _⟩
  exact List.pairwise_insertionSort (fun a b => key a ≤ key b) l

/-- Two members of a list occur in it in one order or the other. -/
theorem pair_sublist_of_mem {x y : α} (hx : x ∈ l) (hy : y ∈ l) (hne : x ≠ y) :
    [x, y].Sublist l ∨ [y, x].Sublist l := by
  induction l with
  | nil => cases hx
  | cons a l ih =>
    rcases List.mem_cons.mp hx with rfl | hxl
    · have hyl := (List.mem_cons.mp hy).resolve_left hne.symm
      exact .inl ((List.singleton_sublist.mpr hyl).cons_cons x)
    · rcases List.mem_cons.mp hy with rfl | hyl
      · exact .inr ((List.singleton_sublist.mpr hxl).cons_cons y)
      · exact (ih hxl hyl).imp (·.cons a) (·.cons a)

/-- **A smaller key comes first.** -/
theorem sortBy_precedes {x y : α} (hx : x ∈ l) (hy : y ∈ l) (h : key x < key y) :
    [x, y].Sublist (sortBy key l) := by
  have hne : x ≠ y := fun he => absurd (congrArg key he) (ne_of_lt h)
  refine (pair_sublist_of_mem (mem_sortBy.mpr hx) (mem_sortBy.mpr hy) hne).resolve_right ?_
  intro hyx
  have hle : [y, x].Pairwise fun a b => key a ≤ key b := (sortBy_pairwise key l).sublist hyx
  exact absurd (List.rel_of_pairwise_cons hle (List.mem_singleton.mpr rfl)) (not_le_of_gt h)

/-- A key that tells the elements apart leaves one order. -/
theorem sortBy_eq_of_perm (h : l.Perm l') (hkey : ∀ a ∈ l, ∀ b ∈ l, key a = key b → a = b) :
    sortBy key l = sortBy key l' := by
  have hperm : (sortBy key l).Perm (sortBy key l') :=
    (sortBy_perm key l).trans (h.trans (sortBy_perm key l').symm)
  refine hperm.eq_of_pairwise ?_ (sortBy_pairwise key l) (sortBy_pairwise key l')
  intro a b ha hb hab hba
  exact hkey a (mem_sortBy.mp ha) b (h.mem_iff.mpr (mem_sortBy.mp hb)) (le_antisymm hab hba)

/-- Sorting commutes with filtering. -/
theorem sortBy_filter (hkey : ∀ a ∈ l, ∀ b ∈ l, key a = key b → a = b) (q : α → Bool) :
    sortBy key (l.filter q) = (sortBy key l).filter q := by
  have hperm : (sortBy key (l.filter q)).Perm ((sortBy key l).filter q) :=
    (sortBy_perm key _).trans ((sortBy_perm key l).filter q).symm
  refine hperm.eq_of_pairwise ?_ (sortBy_pairwise key _) ((sortBy_pairwise key l).filter q)
  intro a b ha hb hab hba
  exact hkey a (List.mem_of_mem_filter (mem_sortBy.mp ha)) b
    (mem_sortBy.mp (List.mem_of_mem_filter hb)) (le_antisymm hab hba)

/-- A sorted list stays as it is. -/
theorem sortBy_eq_self (h : l.Pairwise fun a b => key a ≤ key b) : sortBy key l = l :=
  h.insertionSort_eq

end Sorting

section Dominators

variable {α : Type} {R : α → α → Bool} {l l' : List α}

/-- How many elements of a list dominate an element. -/
def dominators (R : α → α → Bool) (l : List α) (x : α) : Nat := l.countP fun z => R z x

theorem dominators_perm (h : l.Perm l') (x : α) : dominators R l x = dominators R l' x :=
  h.countP_eq _

/-- **What dominates has fewer dominators.** -/
theorem dominators_lt {x y : α} (hx : x ∈ l) (hirrefl : R x x = false) (hxy : R x y = true)
    (htrans : ∀ z ∈ l, R z x = true → R z y = true) : dominators R l x < dominators R l y := by
  induction l with
  | nil => cases hx
  | cons a l ih =>
    have hmono : dominators R l x ≤ dominators R l y :=
      List.countP_mono_left fun z hz => htrans z (List.mem_cons_of_mem a hz)
    simp only [dominators, List.countP_cons]
    rcases List.mem_cons.mp hx with rfl | hx
    · -- The element itself is counted above, not below.
      simp only [hirrefl, hxy]
      exact Nat.lt_succ_of_le hmono
    · have hlt := ih hx fun z hz => htrans z (List.mem_cons_of_mem a hz)
      have ha := htrans a List.mem_cons_self
      simp only [dominators] at hlt
      split_ifs with h₁ h₂ h₂
      · omega
      · exact absurd (ha h₁) h₂
      · omega
      · omega

end Dominators

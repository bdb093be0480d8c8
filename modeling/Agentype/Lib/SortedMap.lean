import Mathlib.Data.List.Basic
import Mathlib.Data.Prod.Lex
import Mathlib.Order.Basic

/-!
# `Agentype.Lib.SortedMap` — finite maps in key order

A finite map held as the list of its entries in strictly increasing key order. The order is a field
of the structure, so two maps with the same bindings are equal, and iterating over the entries is
iterating in key order.

## Contents
- `SortedMap`, `lookup`, `insert`, `filter`, `ofList`.
- `mem_entries`: an entry is in the list exactly when it is what `lookup` finds.
- **`ext_lookup`**: maps that agree on every key are equal.
- `lookup_insert`, `lookup_filter`, `ofList_entries`.
-/

/-- A finite map with its entries in increasing key order. -/
structure SortedMap (K V : Type) [LinearOrder K] where
  entries : List (K × V)
  sorted : entries.Pairwise fun x y => x.1 < y.1

namespace SortedMap

variable {K V : Type} [LinearOrder K]

instance [DecidableEq V] : DecidableEq (SortedMap K V) := fun a b =>
  decidable_of_iff (a.entries = b.entries) (by cases a; cases b; simp)

def empty : SortedMap K V := ⟨[], .nil⟩

/-- The value at a key. -/
def lookup (m : SortedMap K V) (k : K) : Option V := m.entries.lookup k

def keys (m : SortedMap K V) : List K := m.entries.map Prod.fst

/-! ## Lookups -/

theorem lookup_cons (x : K × V) (l : List (K × V)) (k : K) :
    (x :: l).lookup k = if k = x.1 then some x.2 else l.lookup k := by
  obtain ⟨k', v⟩ := x
  by_cases hk : k = k'
  · simp [hk]
  · simp [List.lookup_cons, beq_false_of_ne hk, hk]

theorem lookup_of_mem {l : List (K × V)} (h : l.Pairwise fun x y => x.1 < y.1) {k : K} {v : V}
    (hm : (k, v) ∈ l) : l.lookup k = some v := by
  induction l with
  | nil => cases hm
  | cons x l ih =>
    obtain ⟨hlt, hl⟩ := List.pairwise_cons.mp h
    rw [lookup_cons]
    rcases List.mem_cons.mp hm with rfl | hm
    · simp
    · rw [if_neg (ne_of_gt (hlt _ hm))]
      exact ih hl hm

theorem mem_of_lookup {l : List (K × V)} {k : K} {v : V} (h : l.lookup k = some v) :
    (k, v) ∈ l := by
  induction l with
  | nil => cases h
  | cons x l ih =>
    rw [lookup_cons] at h
    split_ifs at h with hk
    · obtain rfl := Option.some.inj h
      subst hk
      exact List.mem_cons_self
    · exact List.mem_cons_of_mem _ (ih h)

/-- The entries are what `lookup` finds. -/
theorem mem_entries {m : SortedMap K V} {k : K} {v : V} :
    (k, v) ∈ m.entries ↔ m.lookup k = some v :=
  ⟨lookup_of_mem m.sorted, mem_of_lookup⟩

theorem forall_entries {m : SortedMap K V} {P : K × V → Prop} :
    (∀ x ∈ m.entries, P x) ↔ ∀ k v, m.lookup k = some v → P (k, v) := by
  constructor
  · intro h k v hk
    exact h _ (mem_entries.mpr hk)
  · rintro h ⟨k, v⟩ hm
    exact h k v (mem_entries.mp hm)

/-- **Maps that agree on every key are equal.** -/
theorem ext_lookup {m n : SortedMap K V} (h : ∀ k, m.lookup k = n.lookup k) : m = n := by
  obtain ⟨l, hl⟩ := m
  obtain ⟨l', hl'⟩ := n
  suffices l = l' by subst this; rfl
  -- Both lists are strictly sorted and have the same members.
  have hnodup : ∀ {xs : List (K × V)}, xs.Pairwise (fun x y => x.1 < y.1) → xs.Nodup :=
    fun hxs => hxs.imp fun hlt he => absurd (congrArg Prod.fst he) (ne_of_lt hlt)
  have hmem : ∀ x, x ∈ l ↔ x ∈ l' := by
    rintro ⟨k, v⟩
    have hk := h k
    constructor
    · intro hx
      exact mem_of_lookup (hk.symm.trans (lookup_of_mem hl hx))
    · intro hx
      exact mem_of_lookup (hk.trans (lookup_of_mem hl' hx))
  have hperm : l.Perm l' := (List.perm_ext_iff_of_nodup (hnodup hl) (hnodup hl')).mpr hmem
  exact hperm.eq_of_pairwise
    (fun a b _ _ hab hba => absurd hab (not_lt_of_gt hba)) hl hl'

@[simp] theorem lookup_empty (k : K) : (empty : SortedMap K V).lookup k = none := rfl

/-! ## Filtering -/

/-- The entries a predicate keeps. -/
def filter (m : SortedMap K V) (p : K → V → Bool) : SortedMap K V :=
  ⟨m.entries.filter fun x => p x.1 x.2, m.sorted.filter _⟩

theorem lookup_filter (m : SortedMap K V) (p : K → V → Bool) (k : K) :
    (m.filter p).lookup k = (m.lookup k).filter (p k) := by
  apply Option.ext
  intro v
  rw [← mem_entries, Option.filter_eq_some_iff, ← mem_entries]
  simp [filter]

theorem filter_eq_self {m : SortedMap K V} {p : K → V → Bool}
    (h : ∀ k v, m.lookup k = some v → p k v = true) : m.filter p = m := by
  apply ext_lookup
  intro k
  rw [lookup_filter]
  cases hk : m.lookup k with
  | none => rfl
  | some v => simp [Option.filter, h k v hk]

theorem filter_filter (m : SortedMap K V) (p : K → V → Bool) :
    (m.filter p).filter p = m.filter p := by
  apply filter_eq_self
  intro k v hk
  rw [lookup_filter, Option.filter_eq_some_iff] at hk
  exact hk.2

/-- Replace every value. -/
def mapValues {W : Type} (m : SortedMap K V) (f : V → W) : SortedMap K W :=
  ⟨m.entries.map fun x => (x.1, f x.2), List.pairwise_map.mpr m.sorted⟩

theorem lookup_mapValues {W : Type} (m : SortedMap K V) (f : V → W) (k : K) :
    (m.mapValues f).lookup k = (m.lookup k).map f := by
  apply Option.ext
  intro w
  rw [← mem_entries, Option.map_eq_some_iff]
  constructor
  · intro h
    obtain ⟨⟨k', v⟩, hv, hkw⟩ := List.mem_map.mp h
    cases hkw
    exact ⟨v, mem_entries.mp hv, rfl⟩
  · rintro ⟨v, hv, rfl⟩
    exact List.mem_map.mpr ⟨(k, v), mem_entries.mpr hv, rfl⟩

/-! ## Insertion -/

/-- Put an entry in its place, replacing the entry of the same key. -/
def insertEntry (k : K) (v : V) : List (K × V) → List (K × V)
  | [] => [(k, v)]
  | x :: l =>
    if k < x.1 then (k, v) :: x :: l
    else if x.1 < k then x :: insertEntry k v l
    else (k, v) :: l

theorem mem_insertEntry {k : K} {v : V} {l : List (K × V)} {y : K × V}
    (h : y ∈ insertEntry k v l) : y = (k, v) ∨ y ∈ l := by
  induction l with
  | nil => simpa [insertEntry] using h
  | cons x l ih =>
    simp only [insertEntry] at h
    split_ifs at h with h₁ h₂
    · exact List.mem_cons.mp h
    · rcases List.mem_cons.mp h with rfl | h
      · exact .inr List.mem_cons_self
      · exact (ih h).imp_right (List.mem_cons_of_mem _)
    · exact (List.mem_cons.mp h).imp_right (List.mem_cons_of_mem _)

theorem insertEntry_sorted {k : K} {v : V} {l : List (K × V)}
    (h : l.Pairwise fun x y => x.1 < y.1) :
    (insertEntry k v l).Pairwise fun x y => x.1 < y.1 := by
  induction l with
  | nil => simp [insertEntry]
  | cons x l ih =>
    obtain ⟨hlt, hl⟩ := List.pairwise_cons.mp h
    simp only [insertEntry]
    split_ifs with h₁ h₂
    · refine List.pairwise_cons.mpr ⟨?_, h⟩
      intro y hy
      rcases List.mem_cons.mp hy with rfl | hy
      · exact h₁
      · exact h₁.trans (hlt _ hy)
    · refine List.pairwise_cons.mpr ⟨?_, ih hl⟩
      intro y hy
      rcases mem_insertEntry hy with rfl | hy
      · exact h₂
      · exact hlt _ hy
    · obtain rfl := le_antisymm (not_lt.mp h₂) (not_lt.mp h₁)
      exact List.pairwise_cons.mpr ⟨hlt, hl⟩

def insert (m : SortedMap K V) (k : K) (v : V) : SortedMap K V :=
  ⟨insertEntry k v m.entries, insertEntry_sorted m.sorted⟩

theorem lookup_insertEntry {k : K} {v : V} {l : List (K × V)} (j : K)
    (h : l.Pairwise fun x y => x.1 < y.1) :
    (insertEntry k v l).lookup j = if j = k then some v else l.lookup j := by
  induction l with
  | nil => rw [insertEntry, lookup_cons]
  | cons x l ih =>
    obtain ⟨hlt, hl⟩ := List.pairwise_cons.mp h
    simp only [insertEntry]
    split_ifs
    all_goals simp only [lookup_cons, ih hl]
    all_goals grind

@[simp] theorem lookup_insert (m : SortedMap K V) (k j : K) (v : V) :
    (m.insert k v).lookup j = if j = k then some v else m.lookup j :=
  lookup_insertEntry j m.sorted

/-- An entry after an insertion. -/
theorem lookup_insert_cases {m : SortedMap K V} {k j : K} {v w : V}
    (h : (m.insert k v).lookup j = some w) : (j = k ∧ w = v) ∨ (j ≠ k ∧ m.lookup j = some w) := by
  rw [lookup_insert] at h
  split_ifs at h with hk
  · exact .inl ⟨hk, (Option.some.inj h).symm⟩
  · exact .inr ⟨hk, h⟩

/-- A new key replaces no entry. -/
theorem lookup_insert_fresh {m : SortedMap K V} {k j : K} {v w : V} (hk : m.lookup k = none)
    (h : m.lookup j = some w) : (m.insert k v).lookup j = some w := by
  rw [lookup_insert, if_neg, h]
  rintro rfl
  cases hk.symm.trans h

theorem insertEntry_perm {k : K} {v : V} {l : List (K × V)} (h : l.lookup k = none) :
    (insertEntry k v l).Perm ((k, v) :: l) := by
  induction l with
  | nil => exact .refl _
  | cons x l ih =>
    rw [lookup_cons] at h
    simp only [insertEntry]
    split_ifs with h₁ h₂
    · exact .refl _
    · refine ((ih ?_).cons x).trans (.swap (k, v) x l)
      simpa [h₂.ne'] using h
    · simp [le_antisymm (not_lt.mp h₂) (not_lt.mp h₁)] at h

/-- A new key adds one entry. -/
theorem entries_insert_perm {m : SortedMap K V} {k : K} (v : V) (h : m.lookup k = none) :
    (m.insert k v).entries.Perm ((k, v) :: m.entries) :=
  insertEntry_perm h

/-! ## Collecting a list -/

/-- Insert the entries of a list in turn; a later entry replaces an earlier one. -/
def ofList (l : List (K × V)) : SortedMap K V :=
  l.foldl (fun m x => m.insert x.1 x.2) empty

theorem lookup_foldl_insert (l : List (K × V)) (m : SortedMap K V) (k : K) :
    (l.foldl (fun m x => m.insert x.1 x.2) m).lookup k =
      (l.reverse.lookup k).or (m.lookup k) := by
  induction l generalizing m with
  | nil => simp
  | cons x l ih =>
    rw [List.foldl_cons, ih, lookup_insert, List.reverse_cons, List.lookup_append, lookup_cons]
    by_cases hk : k = x.1
    · cases l.reverse.lookup k <;> simp [hk]
    · simp [hk]

theorem lookup_ofList (l : List (K × V)) (k : K) : (ofList l).lookup k = l.reverse.lookup k := by
  simp [ofList, lookup_foldl_insert]

/-- Collecting the entries of a map gives the map back. -/
@[simp] theorem ofList_entries (m : SortedMap K V) : ofList m.entries = m := by
  apply ext_lookup
  intro k
  rw [lookup_ofList]
  -- A key occurs once, so the direction of the search does not matter.
  have hfound : ∀ v, m.entries.reverse.lookup k = some v → m.lookup k = some v := fun v h =>
    mem_entries.mp (List.mem_reverse.mp (mem_of_lookup h))
  cases hr : m.entries.reverse.lookup k with
  | some w => exact (hfound w hr).symm
  | none =>
    cases hl : m.lookup k with
    | none => rfl
    | some v =>
      have hm := List.mem_reverse.mpr (mem_entries.mpr hl)
      have hne := List.lookup_eq_none_iff.mp hr _ hm
      simp at hne

end SortedMap

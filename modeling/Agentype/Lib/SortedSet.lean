import Agentype.Lib.SortedMap
import Mathlib.Data.List.Destutter
import Mathlib.Data.List.Sort

/-!
# `Agentype.Lib.SortedSet` — finite sets in order

A finite set held as the list of its elements in strictly increasing order: the keys of a sorted map
without values. Sets with the same elements are equal, and listing a set is listing it in order.

## Contents
- `SortedSet`, `elems`, `ofList`, `union`, `subset`.
- **`ext_mem`**: sets with the same elements are equal.
- `mem_ofList`, `mem_union`, `subset_iff`, `ofList_elems`.
- `sortDedup`: a list sorted by a key, without repetitions.
- `mem_sortDedup`, `sortDedup_of_lt`, `sortDedup_idem`.
-/

/-- A finite set with its elements in increasing order. -/
structure SortedSet (K : Type) [LinearOrder K] where
  toMap : SortedMap K Unit
  deriving DecidableEq

namespace SortedSet

variable {K : Type} [LinearOrder K]

instance : Membership K (SortedSet K) := ⟨fun s k => s.toMap.lookup k = some ()⟩

instance (k : K) (s : SortedSet K) : Decidable (k ∈ s) :=
  inferInstanceAs (Decidable (s.toMap.lookup k = some ()))

/-- The elements in increasing order. -/
def elems (s : SortedSet K) : List K := s.toMap.keys

def empty : SortedSet K := ⟨.empty⟩

/-- The elements of a list. -/
def ofList (l : List K) : SortedSet K := ⟨.ofList (l.map fun k => (k, ()))⟩

def union (s t : SortedSet K) : SortedSet K := ofList (s.elems ++ t.elems)

def subset (s t : SortedSet K) : Bool := s.elems.all fun k => decide (k ∈ t)

theorem mem_def {k : K} {s : SortedSet K} : k ∈ s ↔ s.toMap.lookup k = some () := Iff.rfl

@[simp] theorem mem_elems {k : K} {s : SortedSet K} : k ∈ s.elems ↔ k ∈ s := by
  rw [mem_def, ← SortedMap.mem_entries, elems, SortedMap.keys, List.mem_map]
  constructor
  · rintro ⟨⟨k, u⟩, hm, rfl⟩
    exact hm
  · intro hm
    exact ⟨_, hm, rfl⟩

/-- **Sets with the same elements are equal.** -/
theorem ext_mem {s t : SortedSet K} (h : ∀ k, k ∈ s ↔ k ∈ t) : s = t := by
  have hmap : s.toMap = t.toMap := by
    apply SortedMap.ext_lookup
    intro k
    apply Option.ext
    intro u
    exact h k
  cases s
  cases t
  exact congrArg SortedSet.mk hmap

@[simp] theorem mem_ofList {k : K} {l : List K} : k ∈ ofList l ↔ k ∈ l := by
  rw [mem_def, ofList, SortedMap.lookup_ofList]
  constructor
  · intro h
    have hm := List.mem_reverse.mp (SortedMap.mem_of_lookup h)
    simpa using hm
  · intro h
    cases hr : (l.map fun k => (k, ())).reverse.lookup k with
    | some u => rfl
    | none =>
      have hm : (k, ()) ∈ (l.map fun k => (k, ())).reverse := by simpa using h
      have hne := List.lookup_eq_none_iff.mp hr _ hm
      simp at hne

@[simp] theorem mem_union {k : K} {s t : SortedSet K} : k ∈ s.union t ↔ k ∈ s ∨ k ∈ t := by
  simp [union]

@[simp] theorem subset_iff {s t : SortedSet K} : s.subset t = true ↔ ∀ k ∈ s, k ∈ t := by
  simp [subset]

@[simp] theorem ofList_elems (s : SortedSet K) : ofList s.elems = s := by
  apply ext_mem
  simp

end SortedSet

/-! ## Sorting by a key -/

section SortDedup

variable {α β : Type} [LinearOrder β] [DecidableEq α] {key : α → β}

/-- Sort by a key and drop elements equal to the one before. -/
def sortDedup (key : α → β) (l : List α) : List α :=
  (l.insertionSort fun a b => key a ≤ key b).destutter (· ≠ ·)

theorem mem_destutter' {a b : α} {l : List α} :
    a ∈ l.destutter' (· ≠ ·) b ↔ a = b ∨ a ∈ l := by
  induction l generalizing b with
  | nil => simp
  | cons c l ih =>
    rw [List.destutter'_cons]
    split_ifs with h
    · simp [ih]
    · obtain rfl := not_not.mp h
      simp [ih]

theorem mem_sortDedup {l : List α} {a : α} : a ∈ sortDedup key l ↔ a ∈ l := by
  have hperm : a ∈ l.insertionSort (fun a b => key a ≤ key b) ↔ a ∈ l :=
    (List.perm_insertionSort _ l).mem_iff
  rw [sortDedup, ← hperm]
  cases l.insertionSort (fun a b => key a ≤ key b) with
  | nil => simp
  | cons b l' => rw [List.destutter_cons', mem_destutter', List.mem_cons]

theorem sortDedup_le (l : List α) : (sortDedup key l).Pairwise fun a b => key a ≤ key b := by
  have : IsTrans α fun a b => key a ≤ key b := ⟨fun _ _ _ => le_trans⟩
  have : Std.Total fun a b : α => key a ≤ key b := ⟨fun _ _ => le_total _ _⟩
  exact (List.pairwise_insertionSort (fun a b => key a ≤ key b) l).sublist
    (List.destutter_sublist _ _)

omit [DecidableEq α] in
/-- In key order, what differs from its neighbour differs from everything before. -/
theorem pairwise_lt_of_isChain (hkey : Function.Injective key) {l : List α}
    (hle : l.Pairwise fun a b => key a ≤ key b) (hne : l.IsChain (· ≠ ·)) :
    l.Pairwise fun a b => key a < key b := by
  induction l with
  | nil => exact .nil
  | cons a l ih =>
    obtain ⟨ha, hl⟩ := List.pairwise_cons.mp hle
    refine List.pairwise_cons.mpr ⟨?_, ih hl hne.tail⟩
    intro b hb
    cases l with
    | nil => cases hb
    | cons c l =>
      have hac : key a < key c :=
        lt_of_le_of_ne (ha c List.mem_cons_self) fun he => (List.isChain_cons_cons.mp hne).1 (hkey he)
      rcases List.mem_cons.mp hb with rfl | hb
      · exact hac
      · exact hac.trans_le ((List.pairwise_cons.mp hl).1 b hb)

theorem sortDedup_lt (hkey : Function.Injective key) (l : List α) :
    (sortDedup key l).Pairwise fun a b => key a < key b :=
  pairwise_lt_of_isChain hkey (sortDedup_le l) (List.isChain_destutter _ _)

/-- A strictly sorted list is left as it is. -/
theorem sortDedup_of_lt {l : List α} (h : l.Pairwise fun a b => key a < key b) :
    sortDedup key l = l := by
  have hsort : l.insertionSort (fun a b => key a ≤ key b) = l :=
    (h.imp le_of_lt).insertionSort_eq
  rw [sortDedup, hsort]
  apply List.destutter_of_isChain
  exact (h.imp fun hlt he => absurd (congrArg key he) (ne_of_lt hlt)).isChain

theorem sortDedup_idem (hkey : Function.Injective key) (l : List α) :
    sortDedup key (sortDedup key l) = sortDedup key l :=
  sortDedup_of_lt (sortDedup_lt hkey l)

omit [DecidableEq α] in
/-- A key that is strictly increasing along a list picks out one element. -/
theorem filter_key_of_lt {l : List α} (h : l.Pairwise fun a b => key a < key b) {a : α}
    (ha : a ∈ l) {p : α → Bool} (hp : ∀ b ∈ l, p b = true ↔ key b = key a) : l.filter p = [a] := by
  induction l with
  | nil => cases ha
  | cons x l ih =>
    rw [List.pairwise_cons] at h
    rw [List.forall_mem_cons] at hp
    rcases List.mem_cons.mp ha with rfl | hal
    · rw [List.filter_cons_of_pos (hp.1.mpr rfl), List.filter_eq_nil_iff.mpr]
      intro b hb hpb
      exact (h.1 b hb).ne' ((hp.2 b hb).mp hpb)
    · rw [List.filter_cons_of_neg fun hpx => (h.1 a hal).ne (hp.1.mp hpx), ih h.2 hal hp.2]

end SortDedup

import Mathlib.Data.List.AList

/-!
# `Agentype.Lib.Table` — relational tables with CHECKs and unique indexes

A table is a finite map from a primary key to a row (Mathlib's `AList`) together with the proof
that it satisfies its *schema*: every row passes the row-level CHECK and no two rows are related
by the `clash` relation that states the (possibly partial) UNIQUE indexes. Writers return `none`
when the resulting contents would break the schema, which is the constraint violation of a
relational store; a table that breaks its schema cannot be built.

## Contents
- **Schemas.** `Schema`, `Schema.Admits`, the unconstrained `Schema.free`.
- **Readers.** `lookup`, `rows`, and `mem_rows` which ties them.
- **Writers.** `insert`, `update` (an `UPDATE … SET … WHERE …`), `erase`, with one equation each
  for `lookup` afterwards and the conditions under which they succeed (`exists_update`,
  `exists_insert`). `count` after an `INSERT` and after an `UPDATE`.
-/

namespace Relational

/-- The constraints a table puts on its contents. -/
structure Schema (κ ρ : Type) where
  /-- The row-level `CHECK`. -/
  check : κ → ρ → Bool
  /-- Two rows under different keys that some unique index forbids to coexist. -/
  clash : κ × ρ → κ × ρ → Bool
  clash_symm : ∀ x y, clash x y = clash y x

namespace Schema

variable {κ ρ : Type}

/-- A table with a primary key and no other constraint. -/
def free (κ ρ : Type) : Schema κ ρ where
  check _ _ := true
  clash _ _ := false
  clash_symm _ _ := rfl

/-- A table whose only constraint beyond the primary key is a row check. -/
def checked (p : κ → ρ → Bool) : Schema κ ρ where
  check := p
  clash _ _ := false
  clash_symm _ _ := rfl

/-- The contents satisfy every check and every unique index. -/
def Admits (S : Schema κ ρ) (rows : List (κ × ρ)) : Prop :=
  (∀ x ∈ rows, S.check x.1 x.2 = true) ∧ rows.Pairwise fun x y => S.clash x y = false

instance (S : Schema κ ρ) (rows : List (κ × ρ)) : Decidable (S.Admits rows) :=
  inferInstanceAs (Decidable (_ ∧ _))

end Schema

/-- The rows of an association list in the order of their insertion. -/
def AList.toRows {κ ρ : Type} (l : AList fun _ : κ => ρ) : List (κ × ρ) :=
  l.entries.reverse.map fun x => (x.1, x.2)

/-- A table: a finite map from keys to rows whose contents its schema admits. -/
structure Table {κ ρ : Type} (S : Schema κ ρ) where
  entries : AList fun _ : κ => ρ
  admits : S.Admits (AList.toRows entries)

variable {κ ρ : Type} {S : Schema κ ρ}

namespace Table

/-- The rows of a table in the order of their insertion. -/
def rows (t : Table S) : List (κ × ρ) := AList.toRows t.entries

/-- The empty table. -/
def empty (S : Schema κ ρ) : Table S where
  entries := ∅
  admits := ⟨by simp [AList.toRows], by simp [AList.toRows]⟩

/-- Keep the given contents if the schema admits them. -/
def ofEntries (S : Schema κ ρ) (l : AList fun _ : κ => ρ) : Option (Table S) :=
  if h : S.Admits (AList.toRows l) then some ⟨l, h⟩ else none

theorem entries_of_ofEntries {l : AList fun _ : κ => ρ} {t : Table S} (h : ofEntries S l = some t) :
    t.entries = l := by
  unfold ofEntries at h
  split at h
  · cases h
    rfl
  · cases h

/-- The value an `UPDATE` leaves in a row. -/
def updateRow (p : κ → ρ → Bool) (f : ρ → ρ) (k : κ) (r : ρ) : ρ := if p k r then f r else r

/-- Every key keeps its place; the rows the predicate selects are replaced. -/
def updateEntries (p : κ → ρ → Bool) (f : ρ → ρ) (l : AList fun _ : κ => ρ) :
    AList fun _ : κ => ρ where
  entries := l.entries.map fun x => ⟨x.1, updateRow p f x.1 x.2⟩
  nodupKeys := by
    have hk : (l.entries.map fun x => (⟨x.1, updateRow p f x.1 x.2⟩ : Σ _ : κ, ρ)).keys = l.keys := by
      simp [List.keys, AList.keys, List.map_map, Function.comp_def]
    rw [List.NodupKeys, hk]
    exact l.keys_nodup

variable [DecidableEq κ]

/-- The row under a key. -/
def lookup (t : Table S) (k : κ) : Option ρ := t.entries.lookup k

/-- `INSERT`: fails on an existing key, a failing check or a unique index. -/
def insert (t : Table S) (k : κ) (r : ρ) : Option (Table S) :=
  if t.lookup k = none then ofEntries S (t.entries.insert k r) else none

/-- `UPDATE … SET … WHERE …`: fails when a changed row breaks a check or a unique index. -/
def update (t : Table S) (p : κ → ρ → Bool) (f : ρ → ρ) : Option (Table S) :=
  ofEntries S (updateEntries p f t.entries)

/-- `DELETE` the row under a key; removing rows never breaks a schema. -/
def erase (t : Table S) (k : κ) : Table S where
  entries := t.entries.erase k
  admits := by
    have hsub : (AList.toRows (t.entries.erase k)).Sublist (AList.toRows t.entries) :=
      ((List.kerase_sublist k t.entries.entries).reverse).map _
    exact ⟨fun x hx => t.admits.1 x (hsub.subset hx), t.admits.2.sublist hsub⟩

/-- How many rows an `UPDATE` with this predicate touches. -/
def count (t : Table S) (p : κ → ρ → Bool) : Nat := (t.rows.filter fun x => p x.1 x.2).length

@[simp] theorem lookup_empty (k : κ) : (empty S).lookup k = none := rfl

/-! ## `lookup` against `rows` -/

theorem mem_rows {t : Table S} {k : κ} {r : ρ} : (k, r) ∈ t.rows ↔ t.lookup k = some r := by
  rw [← Option.mem_def, lookup, AList.mem_lookup_iff]
  simp only [rows, AList.toRows, List.mem_map, List.mem_reverse, Prod.mk.injEq]
  constructor
  · rintro ⟨⟨k', r'⟩, hmem, rfl, rfl⟩
    exact hmem
  · intro hmem
    exact ⟨⟨k, r⟩, hmem, rfl, rfl⟩

omit [DecidableEq κ] in
/-- Each key has one row. -/
theorem rows_pairwise (t : Table S) : t.rows.Pairwise fun x y => x.1 ≠ y.1 := by
  unfold rows AList.toRows
  rw [List.pairwise_map, List.pairwise_reverse]
  exact (List.nodupKeys_iff_pairwise.mp t.entries.nodupKeys).imp Ne.symm

theorem check_of_lookup {t : Table S} {k : κ} {r : ρ} (h : t.lookup k = some r) :
    S.check k r = true :=
  t.admits.1 (k, r) (mem_rows.mpr h)

/-- **Unique indexes.** Rows under different keys never clash. -/
theorem clash_of_lookup {t : Table S} {k k' : κ} {r r' : ρ} (h : t.lookup k = some r)
    (h' : t.lookup k' = some r') (hne : k ≠ k') : S.clash (k, r) (k', r') = false := by
  have hsymm : ∀ x ∈ t.rows, ∀ y ∈ t.rows, x ≠ y → S.clash x y = false := by
    have hsym : Std.Symm fun x y : κ × ρ => S.clash x y = false :=
      ⟨fun x y hxy => by rw [S.clash_symm]; exact hxy⟩
    intro x hx y hy hxy
    exact t.admits.2.forall hx hy hxy
  exact hsymm _ (mem_rows.mpr h) _ (mem_rows.mpr h') (by simp [hne])

/-- A search by a unique column finds exactly the row that carries the value. -/
theorem find?_rows_eq_some {t : Table S} {p : κ × ρ → Bool}
    (huniq : ∀ k r k' r', t.lookup k = some r → t.lookup k' = some r' → p (k, r) = true →
      p (k', r') = true → k = k') {k : κ} {r : ρ} :
    t.rows.find? p = some (k, r) ↔ t.lookup k = some r ∧ p (k, r) = true := by
  constructor
  · intro h
    exact ⟨mem_rows.mp (List.mem_of_find?_eq_some h), List.find?_some h⟩
  · rintro ⟨hl, hp⟩
    cases hf : t.rows.find? p with
    | none => exact absurd hp (List.find?_eq_none.mp hf _ (mem_rows.mpr hl))
    | some x =>
      obtain ⟨k', r'⟩ := x
      have hl' := mem_rows.mp (List.mem_of_find?_eq_some hf)
      have hk : k' = k := huniq k' r' k r hl' hl (List.find?_some hf) hp
      subst hk
      rw [hl] at hl'
      rw [Option.some.inj hl']

/-! ## `lookup` after a write -/

theorem lookup_updateEntries (p : κ → ρ → Bool) (f : ρ → ρ) (l : AList fun _ : κ => ρ) (k : κ) :
    (updateEntries p f l).lookup k = (l.lookup k).map (updateRow p f k) :=
  List.dlookup_map₂ (γ := fun _ => ρ) (δ := fun _ => ρ) (f := updateRow p f) k

theorem lookup_of_update {t t' : Table S} {p : κ → ρ → Bool} {f : ρ → ρ}
    (h : t.update p f = some t') (k : κ) :
    t'.lookup k = (t.lookup k).map (updateRow p f k) := by
  rw [lookup, entries_of_ofEntries h, lookup_updateEntries, lookup]

/-- An `UPDATE … WHERE key = x`. -/
theorem lookup_of_update_key {t t' : Table S} {x : κ} {f : ρ → ρ}
    (h : t.update (fun k _ => decide (k = x)) f = some t') (k : κ) :
    t'.lookup k = if k = x then (t.lookup k).map f else t.lookup k := by
  rw [lookup_of_update h]
  split
  · rename_i hk
    exact Option.map_congr fun r _ => if_pos (decide_eq_true hk)
  · rename_i hk
    cases t.lookup k with
    | none => rfl
    | some r => exact congrArg some (if_neg (by simpa using hk))

theorem lookup_of_insert {t t' : Table S} {k : κ} {r : ρ} (h : t.insert k r = some t') :
    t.lookup k = none ∧ ∀ k', t'.lookup k' = if k' = k then some r else t.lookup k' := by
  unfold insert at h
  split at h
  · rename_i hk
    refine ⟨hk, fun k' => ?_⟩
    rw [lookup, entries_of_ofEntries h]
    split
    · rename_i heq
      subst heq
      exact AList.lookup_insert _
    · rename_i hne
      exact AList.lookup_insert_ne hne
  · cases h

/-- A key whose row an `UPDATE` does not select. -/
theorem lookup_of_update_other {t t' : Table S} {p : κ → ρ → Bool} {f : ρ → ρ} {k : κ}
    (h : t.update p f = some t') (hp : ∀ r, t.lookup k = some r → p k r = false) :
    t'.lookup k = t.lookup k := by
  rw [lookup_of_update h]
  cases hr : t.lookup k with
  | none => rfl
  | some r => rw [Option.map_some, updateRow, if_neg (Bool.eq_false_iff.mp (hp r hr))]

/-- A row that was there before an `INSERT`. -/
theorem lookup_of_insert_some {t t' : Table S} {k k' : κ} {r r' : ρ} (h : t.insert k r = some t')
    (hr : t.lookup k' = some r') : t'.lookup k' = some r' := by
  obtain ⟨hnone, hl⟩ := lookup_of_insert h
  have hne : k' ≠ k := by
    rintro rfl
    rw [hnone] at hr
    cases hr
  rw [hl, if_neg hne, hr]

theorem lookup_erase (t : Table S) (k k' : κ) :
    (t.erase k).lookup k' = if k' = k then none else t.lookup k' := by
  split
  · rename_i heq
    subst heq
    exact AList.lookup_erase _ _
  · rename_i hne
    exact AList.lookup_erase_ne hne

/-! ## When a write succeeds -/

omit [DecidableEq κ] in
theorem exists_ofEntries {l : AList fun _ : κ => ρ} (h : S.Admits (AList.toRows l)) :
    ∃ t : Table S, ofEntries S l = some t :=
  ⟨⟨l, h⟩, dif_pos h⟩

omit [DecidableEq κ] in
theorem toRows_updateEntries (p : κ → ρ → Bool) (f : ρ → ρ) (l : AList fun _ : κ => ρ) :
    AList.toRows (updateEntries p f l) =
      (AList.toRows l).map fun x => (x.1, updateRow p f x.1 x.2) := by
  simp [AList.toRows, updateEntries, List.map_map, Function.comp_def]

/-- An `UPDATE` succeeds when the rows it leaves pass their checks and clash with no other. -/
theorem exists_update {t : Table S} {p : κ → ρ → Bool} {f : ρ → ρ}
    (hcheck : ∀ k r, t.lookup k = some r → S.check k (updateRow p f k r) = true)
    (hclash : ∀ k r k' r', t.lookup k = some r → t.lookup k' = some r' → k ≠ k' →
      S.clash (k, updateRow p f k r) (k', updateRow p f k' r') = false) :
    ∃ t', t.update p f = some t' := by
  refine exists_ofEntries ?_
  rw [toRows_updateEntries]
  refine ⟨fun x hx => ?_, ?_⟩
  · obtain ⟨y, hy, rfl⟩ := List.mem_map.mp hx
    exact hcheck y.1 y.2 (mem_rows.mp hy)
  · rw [List.pairwise_map]
    refine t.rows_pairwise.imp_of_mem fun {x y} hx hy hne => ?_
    exact hclash x.1 x.2 y.1 y.2 (mem_rows.mp hx) (mem_rows.mp hy) hne

/-- The same when the assignment creates no clash that was not there. -/
theorem exists_update_of_imp {t : Table S} {p : κ → ρ → Bool} {f : ρ → ρ}
    (hcheck : ∀ k r, t.lookup k = some r → p k r = true → S.check k (f r) = true)
    (hclash : ∀ k r k' r', t.lookup k = some r → t.lookup k' = some r' →
      S.clash (k, updateRow p f k r) (k', updateRow p f k' r') = true →
      S.clash (k, r) (k', r') = true) : ∃ t', t.update p f = some t' := by
  refine exists_update (fun k r hr => ?_) fun k r k' r' hr hr' hne => ?_
  · unfold updateRow
    split
    · rename_i hp
      exact hcheck k r hr hp
    · exact check_of_lookup hr
  · by_contra hc
    rw [Bool.not_eq_false] at hc
    have := hclash k r k' r' hr hr' hc
    rw [clash_of_lookup hr hr' hne] at this
    cases this

theorem toRows_insert_perm {l : AList fun _ : κ => ρ} {k : κ} {r : ρ} (h : l.lookup k = none) :
    (AList.toRows (l.insert k r)).Perm ((k, r) :: AList.toRows l) := by
  have hentries : (l.insert k r).entries = ⟨k, r⟩ :: l.entries :=
    AList.entries_insert_of_notMem (AList.lookup_eq_none.mp h)
  unfold AList.toRows
  rw [hentries, List.reverse_cons, List.map_append]
  exact List.perm_append_comm

/-- An `INSERT` succeeds on a new key whose row passes its check and clashes with no other. -/
theorem exists_insert {t : Table S} {k : κ} {r : ρ} (hk : t.lookup k = none)
    (hcheck : S.check k r = true)
    (hclash : ∀ k' r', t.lookup k' = some r' → S.clash (k, r) (k', r') = false) :
    ∃ t', t.insert k r = some t' := by
  unfold insert
  rw [if_pos hk]
  refine exists_ofEntries ?_
  have hperm := toRows_insert_perm (r := r) hk
  refine ⟨fun x hx => ?_, ?_⟩
  · rcases List.mem_cons.mp (hperm.mem_iff.mp hx) with rfl | hx
    · exact hcheck
    · exact t.admits.1 x hx
  · refine (hperm.pairwise_iff fun {x y} h => ?_).mpr ?_
    · rwa [S.clash_symm]
    · exact List.pairwise_cons.mpr ⟨fun x hx => hclash x.1 x.2 (mem_rows.mp hx), t.admits.2⟩

/-! ## `count` after a write -/

/-- A row counted by its key is counted once. -/
theorem count_key {t : Table S} {k : κ} {r : ρ} (hr : t.lookup k = some r) {p : ρ → Bool}
    (hp : p r = true) : (t.count fun k' r' => decide (k' = k) && p r') = 1 := by
  have hnodup : t.rows.Nodup := t.rows_pairwise.imp fun hne heq => hne (congrArg Prod.fst heq)
  have hfilter : (t.rows.filter fun x => decide (x.1 = k) && p x.2).Perm [(k, r)] := by
    refine (List.perm_ext_iff_of_nodup (hnodup.filter _) (List.nodup_singleton _)).mpr ?_
    rintro ⟨k', r'⟩
    rw [List.mem_filter, mem_rows, List.mem_singleton]
    constructor
    · rintro ⟨hr', hkey⟩
      simp only [Bool.and_eq_true, decide_eq_true_eq] at hkey
      obtain rfl := hkey.1
      rw [Option.some.inj (hr'.symm.trans hr)]
    · rintro heq
      obtain ⟨rfl, rfl⟩ := Prod.mk.inj heq
      exact ⟨hr, by simp [hp]⟩
  exact hfilter.length_eq

theorem count_of_insert {t t' : Table S} {k : κ} {r : ρ} (h : t.insert k r = some t')
    (p : κ → ρ → Bool) : t'.count p = t.count p + if p k r then 1 else 0 := by
  have hk := (lookup_of_insert h).1
  unfold insert at h
  rw [if_pos hk] at h
  have hperm : t'.rows.Perm ((k, r) :: t.rows) := by
    unfold rows
    rw [entries_of_ofEntries h]
    exact toRows_insert_perm hk
  unfold count
  rw [(hperm.filter _).length_eq, List.filter_cons]
  split
  · exact List.length_cons
  · exact (Nat.add_zero _).symm

/-- An `UPDATE` that changes no counted row changes no count. -/
theorem count_of_update {t t' : Table S} {p q : κ → ρ → Bool} {f : ρ → ρ}
    (h : t.update q f = some t')
    (hp : ∀ k r, t.lookup k = some r → q k r = true → p k (f r) = p k r) :
    t'.count p = t.count p := by
  have hrows : t'.rows = t.rows.map fun x => (x.1, updateRow q f x.1 x.2) := by
    unfold rows
    rw [entries_of_ofEntries h, toRows_updateEntries]
  unfold count
  rw [hrows, List.filter_map, List.length_map]
  congr 1
  refine List.filter_congr fun x hx => ?_
  simp only [Function.comp_apply, updateRow]
  split
  · rename_i hq
    exact hp x.1 x.2 (mem_rows.mp hx) hq
  · rfl

end Table

end Relational

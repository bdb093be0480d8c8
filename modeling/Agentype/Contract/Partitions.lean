import Agentype.Scheduler.Agents

/-!
# `Agentype.Contract.Partitions` — merges form a forest

A merged partition names the one it was merged into, and whatever is headed for it is redirected
along these names (`canonical_partition`). An operation that writes partitions takes a new topology
revision, stamps the rows it writes with it, and writes active partitions only. So along a path of
merges the revisions grow, and the path ends.

## Contents
- `Revised s s'`: what an operation does to the partitions; `exec_revised`.
- `Store.Forest`: the revisions grow along `merged_into`; `Revised.forest`.
- `canonicalPartitionFrom_leads`: the walk; `canonical_partition_exact`.
-/

namespace Agentype

open Relational Tx Store

variable {env : Env} {s s' : Store} {p q : PartitionId} {r : PartitionRow} {n : Nat} {u : Unit}

/-! ## Operations on partitions -/

/-- Written under the present revision, and merged, if at all, into an active partition. -/
@[grind] def Store.Stamped (s : Store) (r : PartitionRow) : Prop :=
  r.topologyRevision = s.topologyRevision ∧ ∀ q, r.mergedInto = some q → r.active = false ∧
    ∃ r', s.poolPartitions.lookup q = some r' ∧ r'.active = true

/-- Rows are written under a new revision only. -/
@[grind] def Revised (s s' : Store) : Prop :=
  s.topologyRevision ≤ s'.topologyRevision ∧ ∀ p,
    s'.poolPartitions.lookup p = s.poolPartitions.lookup p ∨
    s.topologyRevision < s'.topologyRevision ∧
      ∃ r, s'.poolPartitions.lookup p = some r ∧ s'.Stamped r

/-- Only inactive partitions are merged, and along a merge the revision grows unless the other
    partition is active. -/
def Store.Forest (s : Store) : Prop :=
  ∀ p r, s.poolPartitions.lookup p = some r → r.topologyRevision ≤ s.topologyRevision ∧
    ∀ q, r.mergedInto = some q → r.active = false ∧ ∃ r', s.poolPartitions.lookup q = some r' ∧
      (r'.active = false → r.topologyRevision < r'.topologyRevision)

@[grind →] theorem insertRevision_runs (h : Runs env insertRevision s n s') :
    n = s.topologyRevision + 1 ∧ s'.topologyRevision = s.topologyRevision + 1 ∧
      s'.poolPartitions = s.poolPartitions := by
  unfold insertRevision at h
  obtain ⟨_, _, hsave, hpure⟩ := h.load_bind.bind
  obtain rfl := hsave.save
  obtain ⟨rfl, rfl⟩ := hpure.pure
  exact ⟨rfl, rfl, rfl⟩

@[grind →] theorem updatePartition_runs {f : PartitionRow → PartitionRow}
    (h : Runs env (updatePartition p f) s u s') : s'.topologyRevision = s.topologyRevision ∧
      ∀ k, s'.poolPartitions.lookup k =
        if k = p then (s.poolPartitions.lookup k).map f else s.poolPartitions.lookup k := by
  obtain ⟨t', ht', rfl⟩ := h.updateIn
  exact ⟨rfl, Table.lookup_of_update_key ht'⟩

theorem partitions_frame {α : Type} {x : KernelTx α} {a : α} {W : List TableName} [Touches W x]
    (h : Runs env x s a s')
    (hW : decide (TableName.topologyRevision ∉ W ∧ TableName.poolPartitions ∉ W) = true) :
    s'.topologyRevision = s.topologyRevision ∧ s'.poolPartitions = s.poolPartitions :=
  have hW := of_decide_eq_true hW
  ⟨frame_of_not_mem h .topologyRevision hW.1, frame_of_not_mem h .poolPartitions hW.2⟩

@[grind →] theorem partitionRow_active (h : s.partitionRow p true = some r) :
    s.poolPartitions.lookup p = some r ∧ r.active = true := by
  simpa [partitionRow, Option.filter_eq_some_iff] using h

theorem upsertPartition_revised {spec : PartitionSpec}
    (h : Runs env (upsertPartition spec) s n s') : Revised s s' := by
  unfold upsertPartition at h
  obtain ⟨-, h⟩ := h.require_bind
  have h := h.query_bind
  split at h
  · unfold confirmPartition at h
    grind [partitions_frame h rfl]
  · unfold declarePartition at h
    obtain ⟨_, s₁, h₁, h⟩ := h.bind
    obtain ⟨rfl, hrev, hrows⟩ := insertRevision_runs h₁
    obtain ⟨t', ht', h⟩ := h.insertInto_bind
    obtain ⟨-, rfl⟩ := h.pure
    obtain ⟨-, hl⟩ := Table.lookup_of_insert ht'
    rw [show poolPartitionsT.get s₁ = s.poolPartitions from hrows] at hl
    unfold Revised Store.Stamped
    dsimp only [poolPartitionsT]
    grind

theorem resizePartition_revised {c : Int} (hs : s.Forest)
    (h : Runs env (resizePartition p c) s n s') : Revised s s' := by
  unfold resizePartition at h
  obtain ⟨-, h⟩ := h.require_bind
  obtain ⟨row, hrow, h⟩ := h.fetch_bind
  obtain ⟨_, s₁, h₁, h⟩ := h.bind
  obtain ⟨_, s₂, h₂, h⟩ := h.bind
  obtain ⟨-, rfl⟩ := h.pure
  have hp := hs p
  grind

theorem moveCapacity_revised {c : Int} (hs : s.Forest)
    (h : Runs env (moveCapacity p q c) s n s') : Revised s s' := by
  unfold moveCapacity at h
  obtain ⟨hne, h⟩ := h.require_bind
  obtain ⟨-, h⟩ := h.require_bind
  obtain ⟨rp, hp, h⟩ := h.fetch_bind
  obtain ⟨rq, hq, h⟩ := h.fetch_bind
  obtain ⟨-, h⟩ := h.require_bind
  obtain ⟨_, s₁, h₁, h⟩ := h.bind
  obtain ⟨_, s₂, h₂, h⟩ := h.bind
  obtain ⟨_, s₃, h₃, h⟩ := h.bind
  have hp' := hs p
  have hq' := hs q
  grind [partitions_frame h rfl]

theorem mergePartitions_revised (hs : s.Forest) (h : Runs env (mergePartitions p q) s n s') :
    Revised s s' := by
  unfold mergePartitions at h
  obtain ⟨hne, h⟩ := h.require_bind
  obtain ⟨rp, hp, h⟩ := h.fetch_bind
  obtain ⟨rq, hq, h⟩ := h.fetch_bind
  obtain ⟨-, -, h⟩ := h.examine_bind
  obtain ⟨_, s₁, h₁, h⟩ := h.bind
  obtain ⟨_, s₂, h₂, h⟩ := h.bind
  obtain ⟨_, s₃, h₃, h⟩ := h.bind
  obtain ⟨_, s₄, h₄, h⟩ := h.query_bind.bind
  obtain ⟨_, s₅, h₅, h⟩ := h.bind
  obtain ⟨_, s₆, h₆, h⟩ := h.bind
  obtain ⟨_, s₇, h₇, h⟩ := h.bind
  obtain ⟨-, rfl⟩ := h.pure
  have hq' := hs q
  -- what is written between the revision and the two partitions are tasks and agents
  grind [partitions_frame h₂ rfl, partitions_frame h₃ rfl, partitions_frame h₄ rfl,
    partitions_frame h₅ rfl]

theorem retirePartition_revised (hs : s.Forest) (h : Runs env (retirePartition p) s n s') :
    Revised s s' := by
  unfold retirePartition at h
  obtain ⟨row, hrow, h⟩ := h.fetch_bind
  have h := rejectFound_bind (rejectFound_bind (rejectFound_bind h.query_bind).query_bind).query_bind
  obtain ⟨_, s₁, h₁, h⟩ := h.query_bind.bind
  obtain ⟨_, s₂, h₂, h⟩ := h.bind
  obtain ⟨_, s₃, h₃, h⟩ := h.query_bind.bind
  obtain ⟨_, s₄, h₄, h⟩ := h.bind
  obtain ⟨_, s₅, h₅, h⟩ := h.bind
  obtain ⟨-, rfl⟩ := h.pure
  have hp := hs p
  grind [partitions_frame h₁ rfl, partitions_frame h₃ rfl, partitions_frame h₄ rfl]

/-- **One call** writes partitions under a new revision, or not at all. -/
theorem exec_revised (op : Op) (hs : s.Forest) (h : Runs env op.exec s u s') : Revised s s' := by
  cases op with
  | upsertPartition => exact upsertPartition_revised (runs_of_effect h).choose_spec
  | resizePartition => exact resizePartition_revised hs (runs_of_effect h).choose_spec
  | moveCapacity => exact moveCapacity_revised hs (runs_of_effect h).choose_spec
  | mergePartitions => exact mergePartitions_revised hs (runs_of_effect h).choose_spec
  | retirePartition => exact retirePartition_revised hs (runs_of_effect h).choose_spec
  | _ => grind [partitions_frame h (by simp [Op.footprint])]

/-! ## Histories -/

theorem Revised.forest (hs : s.Forest) (h : Revised s s') : s'.Forest := by
  intro p r hr
  rcases h.2 p with hsame | ⟨-, r', hr', hstamp⟩
  · obtain ⟨hle, hmerged⟩ := hs p r (hsame ▸ hr)
    refine ⟨hle.trans h.1, fun q hq => ?_⟩
    obtain ⟨hinactive, x, hx, hlt⟩ := hmerged q hq
    grind [h.2 q]
  · grind

theorem Store.after_forest (calls : List Call) : (Store.empty.after calls).Forest := by
  refine run_induction (P := Store.Forest) (fun c _ _ _ hs h => (exec_revised c.2 hs h).forest hs) ?_
  intro p r hr
  cases hr

/-- The name leads, from merge to merge, to the partition `q`, which is not merged. -/
structure Store.Leads (s : Store) (p q : PartitionId) (r : PartitionRow) : Prop where
  path : Relation.ReflTransGen
    (fun a b => ∃ x, s.poolPartitions.lookup a = some x ∧ x.mergedInto = some b) p q
  row : s.poolPartitions.lookup q = some r
  unmerged : r.mergedInto = none

/-- The walk meets no partition twice: those it has left are inactive, and older than an inactive
    one that it reaches. -/
theorem canonicalPartitionFrom_leads (hs : s.Forest) {start : PartitionId} {fuel : Nat} :
    ∀ {visited : List PartitionId} {p : PartitionId} {row : PartitionRow},
      s.poolPartitions.lookup p = some row → visited.Nodup →
      s.poolPartitions.rows.length < visited.length + fuel →
      (∀ v ∈ visited, ∃ x, s.poolPartitions.lookup v = some x ∧ x.active = false ∧
        (row.active = false → x.topologyRevision < row.topologyRevision)) →
      ∃ q r, s.Leads p q r ∧ canonicalPartitionFrom s start fuel visited p =
        if r.active then .ok (q, r) else
          .error (.invalidTransition ("desired partition " ++ start.quote ++ " is retired")) := by
  induction fuel with
  | zero =>
    intro visited p row _ hnodup hlen hvisited
    have hsub : visited ⊆ s.poolPartitions.rows.map Prod.fst := by
      intro v hv
      obtain ⟨x, hx, -⟩ := hvisited v hv
      exact List.mem_map_of_mem (f := Prod.fst) (Table.mem_rows.mpr hx)
    have hle := (hnodup.subperm hsub).length_le
    rw [List.length_map] at hle
    omega
  | succ fuel ih =>
    intro visited p row hp hnodup hlen hvisited
    have hnew : p ∉ visited := by
      intro hmem
      obtain ⟨x, hx, hinactive, hlt⟩ := hvisited p hmem
      cases hp.symm.trans hx
      exact lt_irrefl _ (hlt hinactive)
    cases hm : row.mergedInto with
    | none => exact ⟨p, row, ⟨.refl, hp, hm⟩, by simp [canonicalPartitionFrom, hnew, hp, hm]⟩
    | some q =>
      obtain ⟨hinactive, x, hx, hlt⟩ := (hs p row hp).2 q hm
      obtain ⟨c, r, hleads, heq⟩ := ih hx (List.nodup_cons.mpr ⟨hnew, hnodup⟩)
        (by rw [List.length_cons]; omega) (by grind)
      exact ⟨c, r, { hleads with path := .head ⟨row, hp, hm⟩ hleads.path },
        by simp [canonicalPartitionFrom, hnew, hp, hinactive, hm, heq]⟩

/-- **Resolution is exact.** In every store a history reaches, a declared name leads to a partition
    that is not merged, and `canonical_partition` answers with it while it is active and reports it
    retired otherwise. It never reports a merge cycle. -/
theorem canonical_partition_exact (calls : List Call) (p : PartitionId) :
    let s := Store.empty.after calls
    (s.poolPartitions.lookup p = none ∧ s.canonicalPartition p =
      .error (.notFound ("pool_partitions " ++ p.quote ++ " not found"))) ∨
    ∃ q r, s.Leads p q r ∧ s.canonicalPartition p = if r.active then .ok (q, r) else
      .error (.invalidTransition ("desired partition " ++ p.quote ++ " is retired")) := by
  intro s
  cases hp : s.poolPartitions.lookup p with
  | none => exact .inl ⟨rfl, by simp [canonicalPartition, canonicalPartitionFrom, hp]⟩
  | some row =>
    exact .inr (canonicalPartitionFrom_leads (after_forest calls) hp List.nodup_nil (by simp [s])
      (by simp))

end Agentype

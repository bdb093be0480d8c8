import Mathlib.Data.Prod.Lex
import Agentype.Lib.Ranking
import Agentype.Kernel.Work

/-!
# `Agentype.Scheduler.Selection` — what claim selection selects

Claim selection filters snapshots of the rows, sorts the tasks with a comparator, walks through them and
takes the minimal agent of the first task that has one. Here the same choice is described over the rows:
the task is the first one in the dispatch order among those that can be claimed and have a consumer,
and its agent comes first among its consumers.

## Contents
- `dispatchRank`, `consumerRank`: the two orders as keys.
- `Store.Claimable`, `Store.Consumer`: which tasks and which agents take part.
- **`selectClaim_best`**, `selectClaim_eq_none`, `selectClaim_perm`.
-/

namespace Agentype

open Relational

variable {s : Store} {t : TaskId} {task : TaskRow} {g : LogicalAgentId} {now : UnixTime}

/-! ## The two orders -/

/-- Highest priority, oldest submission, lowest id. -/
def dispatchRank (priority : Int) (createdAt : UnixTime) (id : TaskId) : ℤᵒᵈ ×ₗ UnixTime ×ₗ TaskId :=
  toLex (OrderDual.toDual priority, toLex (createdAt, id))

def ClaimTaskSnapshot.rank (x : ClaimTaskSnapshot) : ℤᵒᵈ ×ₗ UnixTime ×ₗ TaskId :=
  dispatchRank x.priority x.createdAt x.id

def TaskRow.rank (task : TaskRow) (t : TaskId) : ℤᵒᵈ ×ₗ UnixTime ×ₗ TaskId :=
  dispatchRank task.priority task.createdAt t

theorem claimTaskLe_iff {x y : ClaimTaskSnapshot} : claimTaskLe x y = true ↔ x.rank ≤ y.rank := by
  simp only [claimTaskLe, lexLe, Bool.or_eq_true, Bool.and_eq_true, decide_eq_true_eq,
    ClaimTaskSnapshot.rank, dispatchRank, Prod.Lex.toLex_le_toLex, OrderDual.toDual_lt_toDual,
    OrderDual.toDual_inj, eq_comm (a := y.priority)]

theorem orderTasksByFrozenRank_eq (l : List ClaimTaskSnapshot) :
    orderTasksByFrozenRank l = (sortBy ClaimTaskSnapshot.rank l).map ClaimTaskSnapshot.id := by
  unfold orderTasksByFrozenRank sortBy
  simp only [claimTaskLe_iff]

/-- Workstream preference, oldest availability, lowest id. -/
def consumerRank (intent : ClaimIntent) (workstream : Option WorkstreamId) (since : UnixTime)
    (g : LogicalAgentId) : ℕ ×ₗ UnixTime ×ₗ LogicalAgentId :=
  toLex (claimSelectionRank intent.continuity
    (intent.workstreamId.isSome && intent.workstreamId = workstream), toLex (since, g))

def ClaimAgentSnapshot.rank (x : ClaimAgentSnapshot) (intent : ClaimIntent) :
    ℕ ×ₗ UnixTime ×ₗ LogicalAgentId :=
  consumerRank intent x.workstreamId (x.availableSince.getD x.createdAt) x.id

theorem claimAgentBefore_iff (intent : ClaimIntent) (x y : ClaimAgentSnapshot) :
    claimAgentBefore intent x y = true ↔ x.rank intent < y.rank intent := by
  show lexLe (ofLex (x.rank intent)).1 (ofLex (y.rank intent)).1
    (lexLe (x.availableSince.getD x.createdAt) (y.availableSince.getD y.createdAt)
      (decide (x.id < y.id))) = true ↔ _
  simp only [lexLe, Bool.or_eq_true, Bool.and_eq_true, decide_eq_true_eq, Prod.Lex.lt_iff]
  rfl

/-! ## Minima -/

/-- What `minBy` finds comes before everything else, if the preference follows a key. -/
theorem minBy_le {α β : Type} [LinearOrder β] {before : α → α → Bool} {key : α → β}
    (hkey : ∀ x y, before x y = true ↔ key x < key y) {xs : List α} {a : α}
    (h : minBy before xs = some a) : ∀ y ∈ xs, key a ≤ key y := by
  cases xs with
  | nil => cases h
  | cons x xs =>
    simp only [minBy, Option.some.injEq] at h
    subst h
    -- the running best is below everything seen so far
    have hfold : ∀ (ys : List α) (b : α),
        key (ys.foldl (fun best y => if before y best then y else best) b) ≤ key b ∧
        ∀ y ∈ ys, key (ys.foldl (fun best y => if before y best then y else best) b) ≤ key y := by
      intro ys
      induction ys with
      | nil => exact fun b => ⟨le_refl _, fun _ hy => absurd hy List.not_mem_nil⟩
      | cons y ys ih =>
        intro b
        rw [List.foldl_cons]
        obtain ⟨hb, hys⟩ := ih (if before y b then y else b)
        have hboth : key (if before y b then y else b) ≤ key b ∧
            key (if before y b then y else b) ≤ key y := by
          split
          · rename_i hlt
            exact ⟨le_of_lt ((hkey y b).mp hlt), le_refl _⟩
          · rename_i hlt
            exact ⟨le_refl _, not_lt.mp fun h => hlt ((hkey y b).mpr h)⟩
        exact ⟨hb.trans hboth.1, List.forall_mem_cons.mpr ⟨hb.trans hboth.2, hys⟩⟩
    obtain ⟨hx, hxs⟩ := hfold xs x
    exact List.forall_mem_cons.mpr ⟨hx, hxs⟩

/-- **The best consumer**: it passes the gate and comes first among those that do. -/
theorem selectClaimAgent_best {agents : List ClaimAgentSnapshot} {intent : ClaimIntent}
    {a : ClaimAgentSnapshot} (h : selectClaimAgent agents intent = some a) :
    (a ∈ agents ∧ claimAgentEligible intent a = true) ∧
      ∀ y ∈ agents, claimAgentEligible intent y = true → a.rank intent ≤ y.rank intent := by
  refine ⟨selectClaimAgent_eligible h, fun y hy helig => ?_⟩
  exact minBy_le (claimAgentBefore_iff intent) h y (List.mem_filter.mpr ⟨hy, helig⟩)

/-- Selection succeeds exactly when one of the agents passes the gate. -/
theorem selectClaimAgent_isSome {agents : List ClaimAgentSnapshot} {intent : ClaimIntent} :
    (selectClaimAgent agents intent).isSome = true ↔
      ∃ a ∈ agents, claimAgentEligible intent a = true := by
  unfold selectClaimAgent
  simp only [← List.mem_filter]
  cases agents.filter (claimAgentEligible intent) <;> simp [minBy]

/-- Distinct agents are selected from in any order alike. -/
theorem selectClaimAgent_perm {agents agents' : List ClaimAgentSnapshot} (intent : ClaimIntent)
    (hperm : agents'.Perm agents)
    (hid : ∀ x ∈ agents, ∀ y ∈ agents, x.id = y.id → x = y) :
    selectClaimAgent agents' intent = selectClaimAgent agents intent := by
  have hsome : (selectClaimAgent agents' intent).isSome = (selectClaimAgent agents intent).isSome := by
    rw [Bool.eq_iff_iff, selectClaimAgent_isSome, selectClaimAgent_isSome]
    simp only [hperm.mem_iff]
  cases h : selectClaimAgent agents intent with
  | none => simpa [h] using hsome
  | some a =>
    obtain ⟨b, hb⟩ := Option.isSome_iff_exists.mp (hsome.trans (by rw [h]; rfl))
    obtain ⟨⟨ha, helig⟩, hbest⟩ := selectClaimAgent_best h
    obtain ⟨⟨hb', helig'⟩, hbest'⟩ := selectClaimAgent_best hb
    rw [hperm.mem_iff] at hb'
    have hrank : a.rank intent = b.rank intent :=
      le_antisymm (hbest b hb' helig') (hbest' a (hperm.mem_iff.mpr ha) helig)
    have hids : a.id = b.id := congrArg (fun k => (ofLex (ofLex k).2).2) hrank
    rw [hb, hid a ha b hb' hids]
/-! ## Tasks and agents -/

/-- The task demands a consumer of the legacy path. -/
def Store.awaits (s : Store) (id : TaskId) (t : TaskRow) : Bool :=
  !s.isTyped id t && decide (t.state = .queued) &&
    (s.batches.lookup t.batchId).any (fun b => decide (b.state = .active)) &&
    (s.poolPartitions.lookup t.partition).any fun p => p.active

/-- An untyped queued task of an active batch in an active partition. -/
def Store.Awaits (s : Store) (id : TaskId) (t : TaskRow) : Prop :=
  s.tasks.lookup id = some t ∧ s.awaits id t = true

theorem Store.Awaits.queued (h : s.Awaits t task) : task.state = .queued := by
  have h := h.2
  simp only [awaits, Bool.and_eq_true, decide_eq_true_eq] at h
  exact h.1.1.2

theorem Store.Awaits.partition (h : s.Awaits t task) :
    (s.partitionRow task.partition true).isSome = true := by
  have h := h.2
  simp only [awaits, Bool.and_eq_true, Option.any_eq_true] at h
  obtain ⟨-, p, hp, hactive⟩ := h
  simp [partitionRow, hp, hactive]

/-- The task can be claimed on the legacy path: it awaits a consumer and its backoff is over. -/
def Store.Claimable (s : Store) (now : UnixTime) (t : TaskId) (task : TaskRow) : Prop :=
  s.Awaits t task ∧ ∀ due ∈ task.nextEligibleAt, due ≤ now

/-- The agent may take the task: it is ready, without a task and without a type, in the task's
    partition, carries the tags and meets the continuity that is required. -/
structure Store.Consumer (s : Store) (task : TaskRow) (g : LogicalAgentId) (a : AgentRow) : Prop where
  row : s.logicalAgents.lookup g = some a
  ready : a.state = .ready
  idle : a.currentTaskId = none
  untyped : s.isTypeBound g a = false
  partition : a.partition = task.partition
  tags : ∀ tag ∈ task.affinityTags, tag ∈ a.tags
  continuity : task.continuity = .required →
    task.workstreamId.isSome = true ∧ task.workstreamId = a.workstreamId

def AgentRow.rank (a : AgentRow) (task : TaskRow) (g : LogicalAgentId) :
    ℕ ×ₗ UnixTime ×ₗ LogicalAgentId :=
  consumerRank task.intent a.workstreamId (a.availableSince.getD a.createdAt) g

/-- The consumers are the agents whose snapshots pass the gate. -/
theorem consumer_iff {a : AgentRow} : s.Consumer task g a ↔ s.logicalAgents.lookup g = some a ∧
    claimAgentEligible task.intent (s.claimAgentSnapshot g a) = true := by
  simp only [claimAgentEligible, claimPlacementEligible, tagsMatch, Bool.and_eq_true,
    Bool.or_eq_true, Bool.not_eq_true', List.all_eq_true, List.any_eq_true, decide_eq_true_eq,
    exists_eq_right]
  simp only [Store.claimAgentSnapshot, TaskRow.intent]
  constructor
  · intro h
    refine ⟨h.row, ⟨⟨h.untyped, h.ready⟩, by simp [h.idle]⟩, ⟨h.partition, h.tags⟩, ?_⟩
    by_cases hc : task.continuity = .required
    · exact .inr (h.continuity hc)
    · exact .inl hc
  · rintro ⟨hrow, ⟨⟨huntyped, hready⟩, hidle⟩, ⟨hpart, htags⟩, hcont⟩
    exact ⟨hrow, hready, by simpa using hidle, huntyped, hpart, htags,
      fun hc => hcont.resolve_left fun h => h hc⟩

/-- The snapshot of a task, its batch and its partition. -/
def Store.claimTaskSnapshot (s : Store) (t : TaskId) (task : TaskRow) (b : BatchRow)
    (p : PartitionRow) : ClaimTaskSnapshot where
  id := t
  state := task.state
  batchState := b.state
  partitionActive := p.active
  nextEligibleAt := task.nextEligibleAt
  priority := task.priority
  createdAt := task.createdAt
  typed := s.isTyped t task

theorem mem_claimTaskSnapshots {x : ClaimTaskSnapshot} :
    x ∈ s.claimTaskSnapshots ↔ ∃ task b p, s.tasks.lookup x.id = some task ∧ task.state = .queued ∧
      s.batches.lookup task.batchId = some b ∧ s.poolPartitions.lookup task.partition = some p ∧
      x = s.claimTaskSnapshot x.id task b p := by
  unfold Store.claimTaskSnapshots
  rw [List.mem_filterMap]
  constructor
  · rintro ⟨⟨t, task⟩, hmem, h⟩
    obtain ⟨b, hb, h⟩ := Option.bind_eq_some_iff.mp h
    obtain ⟨p, hp, h⟩ := Option.bind_eq_some_iff.mp h
    split at h
    · rename_i hq
      obtain rfl := Option.some.inj h
      exact ⟨task, b, p, Table.mem_rows.mp hmem, hq, hb, hp, rfl⟩
    · cases h
  · rintro ⟨task, b, p, ht, hq, hb, hp, hx⟩
    refine ⟨(x.id, task), Table.mem_rows.mpr ht, ?_⟩
    simp only [hb, hp, hq, Option.bind_eq_bind, Option.bind_some, if_true]
    rw [hx, Store.claimTaskSnapshot, hq]

/-- Two snapshots of one task are the same. -/
theorem claimTaskSnapshots_id {x y : ClaimTaskSnapshot} (hx : x ∈ s.claimTaskSnapshots)
    (hy : y ∈ s.claimTaskSnapshots) (h : x.id = y.id) : x = y := by
  obtain ⟨task, b, p, ht, -, hb, hp, hx⟩ := mem_claimTaskSnapshots.mp hx
  obtain ⟨task', b', p', ht', -, hb', hp', hy⟩ := mem_claimTaskSnapshots.mp hy
  rw [← h, ht, Option.some.injEq] at ht'
  subst ht'
  rw [hb, Option.some.injEq] at hb'
  rw [hp, Option.some.injEq] at hp'
  rw [hx, hy, h, hb', hp']

/-- A snapshot carries the rank of its row. -/
theorem rank_of_mem {x : ClaimTaskSnapshot} (hx : x ∈ s.claimTaskSnapshots)
    (ht : s.tasks.lookup x.id = some task) : x.rank = task.rank x.id := by
  obtain ⟨task', b, p, ht', -, -, -, hx⟩ := mem_claimTaskSnapshots.mp hx
  cases ht.symm.trans ht'
  rw [hx]
  rfl

/-- The tasks in the visiting order are the claimable ones. -/
theorem mem_orderClaimTasks :
    t ∈ orderClaimTasks s.claimTaskSnapshots now ↔ ∃ task, s.Claimable now t task := by
  unfold orderClaimTasks
  rw [orderTasksByFrozenRank_eq, List.mem_map]
  simp only [mem_sortBy, List.mem_filter, mem_claimTaskSnapshots, Store.Claimable, Store.Awaits,
    Store.awaits, claimTaskEligible, claimTaskReady, Bool.and_eq_true, Bool.not_eq_true',
    decide_eq_true_eq, Option.any_eq_true, Option.all_eq_true]
  constructor
  · rintro ⟨x, ⟨⟨task, b, p, ht, hq, hb, hp, hx⟩, huntyped, ⟨⟨-, hactive⟩, hpa⟩, hdue⟩, rfl⟩
    rw [hx] at huntyped hactive hpa hdue
    exact ⟨task, ⟨ht, ⟨⟨huntyped, hq⟩, b, hb, hactive⟩, p, hp, hpa⟩, hdue⟩
  · rintro ⟨task, ⟨ht, ⟨⟨huntyped, hq⟩, b, hb, hactive⟩, p, hp, hpa⟩, hdue⟩
    exact ⟨s.claimTaskSnapshot t task b p, ⟨⟨task, b, p, ht, hq, hb, hp, rfl⟩, huntyped,
      ⟨⟨hq, hactive⟩, hpa⟩, hdue⟩, rfl⟩

/-- The gate repeats what the query has filtered by. -/
theorem mem_readyAgents {x : ClaimAgentSnapshot} :
    (x ∈ s.readyAgents task.partition ∧ claimAgentEligible task.intent x = true) ↔
      ∃ a, s.Consumer task x.id a ∧ x = s.claimAgentSnapshot x.id a := by
  unfold Store.readyAgents
  simp only [List.mem_map, List.mem_filter]
  constructor
  · rintro ⟨⟨⟨g, a⟩, hmem, rfl⟩, helig⟩
    exact ⟨a, consumer_iff.mpr ⟨Table.mem_rows.mp hmem.1, helig⟩, rfl⟩
  · rintro ⟨a, hc, hx⟩
    refine ⟨⟨(x.id, a), ⟨Table.mem_rows.mpr hc.row, ?_⟩, hx.symm⟩, ?_⟩
    · simp [hc.partition, hc.ready]
    · rw [hx]
      exact (consumer_iff.mp hc).2

/-- The agents that selection looks at. -/
def Store.idleAgents (s : Store) (p : PartitionId) : List ClaimAgentSnapshot :=
  (s.readyAgents p).filter fun a => !a.assignedToTask

theorem mem_idleAgents {x : ClaimAgentSnapshot} :
    (x ∈ s.idleAgents task.partition ∧ claimAgentEligible task.intent x = true) ↔
      ∃ a, s.Consumer task x.id a ∧ x = s.claimAgentSnapshot x.id a := by
  rw [← mem_readyAgents, Store.idleAgents, List.mem_filter]
  constructor
  · rintro ⟨⟨hx, -⟩, helig⟩
    exact ⟨hx, helig⟩
  · rintro ⟨hx, helig⟩
    have hidle := helig
    simp only [claimAgentEligible, Bool.and_eq_true] at hidle
    exact ⟨⟨hx, hidle.1.2⟩, helig⟩

/-! ## The choice -/

/-- The visiting order is the dispatch order. -/
theorem orderClaimTasks_ranked :
    (orderClaimTasks s.claimTaskSnapshots now).Pairwise fun t t' => ∀ task task',
      s.tasks.lookup t = some task → s.tasks.lookup t' = some task' → task.rank t ≤ task'.rank t' := by
  unfold orderClaimTasks
  rw [orderTasksByFrozenRank_eq, List.pairwise_map]
  refine (sortBy_pairwise _ _).imp_of_mem fun hx hy hle task task' ht ht' => ?_
  rw [mem_sortBy, List.mem_filter] at hx hy
  rw [← rank_of_mem hx.1 ht, ← rank_of_mem hy.1 ht']
  exact hle

/-- A visited task is passed over exactly when it has no consumer. -/
theorem selectClaimAgent_idle_isSome :
    (selectClaimAgent (s.idleAgents task.partition) task.intent).isSome = true ↔
      ∃ g a, s.Consumer task g a := by
  rw [selectClaimAgent_isSome]
  constructor
  · rintro ⟨x, hx⟩
    obtain ⟨a, ha, -⟩ := mem_idleAgents.mp hx
    exact ⟨x.id, a, ha⟩
  · rintro ⟨g, a, ha⟩
    exact ⟨s.claimAgentSnapshot g a, mem_idleAgents.mpr ⟨a, ha, rfl⟩⟩

theorem selectClaim_eq_none :
    s.selectClaim now = none ↔ ¬ ∃ t task g a, s.Claimable now t task ∧ s.Consumer task g a := by
  unfold Store.selectClaim
  rw [List.findSome?_eq_none_iff]
  constructor
  · rintro h ⟨t, task, g, a, ht, ha⟩
    have hnone := h t (mem_orderClaimTasks.mpr ⟨task, ht⟩)
    obtain ⟨x, hx⟩ := Option.isSome_iff_exists.mp (selectClaimAgent_idle_isSome.mpr ⟨g, a, ha⟩)
    unfold Store.idleAgents at hx
    simp [ht.1.1, hx] at hnone
  · intro h t ht
    obtain ⟨task, ht⟩ := mem_orderClaimTasks.mp ht
    have hnone : selectClaimAgent (s.idleAgents task.partition) task.intent = none := by
      rw [← Option.not_isSome_iff_eq_none, selectClaimAgent_idle_isSome]
      rintro ⟨g, a, ha⟩
      exact h ⟨t, task, g, a, ht, ha⟩
    unfold Store.idleAgents at hnone
    simp [ht.1.1, hnone]

/-- **The choice.** The task is the first claimable one with a consumer, and the agent the first of its
    consumers. -/
theorem selectClaim_best (h : s.selectClaim now = some (t, task, g)) :
    s.Claimable now t task ∧
      (∃ a, s.Consumer task g a ∧
        ∀ g' a', s.Consumer task g' a' → a.rank task g ≤ a'.rank task g') ∧
      ∀ t' task', s.Claimable now t' task' → (∃ g' a', s.Consumer task' g' a') →
        task.rank t ≤ task'.rank t' := by
  unfold Store.selectClaim at h
  obtain ⟨before, id, after, horder, hid, hbefore⟩ := List.findSome?_eq_some_iff.mp h
  obtain ⟨row, hrow, hid⟩ := Option.bind_eq_some_iff.mp hid
  obtain ⟨agent, hagent, hid⟩ := Option.bind_eq_some_iff.mp hid
  obtain ⟨rfl, rfl, rfl⟩ : id = t ∧ row = task ∧ agent.id = g := by simpa using hid
  have hclaimable : s.Claimable now id row := by
    have hmem : id ∈ orderClaimTasks s.claimTaskSnapshots now := by
      rw [horder]
      exact List.mem_append_right _ List.mem_cons_self
    obtain ⟨task, ht⟩ := mem_orderClaimTasks.mp hmem
    cases hrow.symm.trans ht.1.1
    exact ht
  refine ⟨hclaimable, ?_, ?_⟩
  · obtain ⟨hgate, hbest⟩ := selectClaimAgent_best hagent
    obtain ⟨a, ha, hsnap⟩ := mem_idleAgents.mp hgate
    refine ⟨a, ha, fun g' a' ha' => ?_⟩
    obtain ⟨hmem, helig⟩ : _ ∧ claimAgentEligible row.intent (s.claimAgentSnapshot g' a') = true :=
      mem_idleAgents.mpr ⟨a', ha', rfl⟩
    have hle := hbest _ hmem helig
    rw [hsnap] at hle
    exact hle
  · intro t' task' ht' hconsumer
    have hmem := mem_orderClaimTasks.mpr ⟨task', ht'⟩
    rw [horder, List.mem_append, List.mem_cons] at hmem
    rcases hmem with hmem | rfl | hmem
    · -- a task before the chosen one has no consumer
      obtain ⟨x, hx⟩ := Option.isSome_iff_exists.mp (selectClaimAgent_idle_isSome.mpr hconsumer)
      have hnone := hbefore t' hmem
      unfold Store.idleAgents at hx
      simp [ht'.1.1, hx] at hnone
    · cases hrow.symm.trans ht'.1.1
      exact le_refl _
    · have hpair : (orderClaimTasks s.claimTaskSnapshots now).Pairwise _ := orderClaimTasks_ranked
      rw [horder] at hpair
      exact List.rel_of_pairwise_cons (List.pairwise_append.mp hpair).2.1 hmem _ _ hrow ht'.1.1

/-- **The order of the rows does not matter.** -/
theorem selectClaim_perm {tasks : List ClaimTaskSnapshot}
    {agents : PartitionId → List ClaimAgentSnapshot} (htasks : tasks.Perm s.claimTaskSnapshots)
    (hagents : ∀ p, (agents p).Perm (s.idleAgents p)) :
    ((orderClaimTasks tasks now).findSome? fun id => do
      let t ← s.tasks.lookup id
      let agent ← selectClaimAgent (agents t.partition) t.intent
      some (id, t, agent.id)) = s.selectClaim now := by
  have horder : orderClaimTasks tasks now = orderClaimTasks s.claimTaskSnapshots now := by
    unfold orderClaimTasks
    rw [orderTasksByFrozenRank_eq, orderTasksByFrozenRank_eq,
      sortBy_eq_of_perm (htasks.filter _) fun x hx y hy hrank => ?_]
    rw [List.mem_filter, htasks.mem_iff] at hx hy
    exact claimTaskSnapshots_id hx.1 hy.1 (congrArg (fun k => (ofLex (ofLex k).2).2) hrank)
  have hselect : ∀ t : TaskRow, selectClaimAgent (agents t.partition) t.intent =
      selectClaimAgent (s.idleAgents t.partition) t.intent := by
    intro t
    refine selectClaimAgent_perm t.intent (hagents _) fun x hx y hy h => ?_
    simp only [Store.idleAgents, Store.readyAgents, List.mem_filter, List.mem_map] at hx hy
    obtain ⟨⟨⟨g, a⟩, hmem, rfl⟩, -⟩ := hx
    obtain ⟨⟨⟨g', a'⟩, hmem', rfl⟩, -⟩ := hy
    obtain rfl : g = g' := h
    have hrows := (Table.mem_rows.mp hmem.1).symm.trans (Table.mem_rows.mp hmem'.1)
    rw [Option.some.inj hrows]
  rw [horder]
  simp only [hselect]
  rfl


end Agentype

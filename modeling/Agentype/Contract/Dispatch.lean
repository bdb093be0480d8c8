import Agentype.Contract.Consumers

/-!
# `Agentype.Contract.Dispatch` — the order of dispatch

Two reads decide what is worked on next. The legacy claim takes the best pair of a task and an agent.
The typed control loop asks for a page of typed tasks, without those it is cooling down; the page is
filtered, ordered and cut in SQL and then filtered, ordered and cut again by the core. Both follow one
order of the tasks.

## Contents
- `ClaimLeaves`: the store after a claim; **`claim_takes_best_pair`**,
  `unreadable_task_blocks_claims`.
- `Store.enumerate`: page after page.
- **`typed_dispatch_pages`**.
-/

namespace Agentype

open Relational Tx

variable {env : Env} {s s' : Store} {now : UnixTime} {X : List TaskId}

/-! ## The legacy claim -/

/-- **What a claim leaves**: a fresh active attempt, numbered after the earlier ones, its fresh lease,
    the task leased to it under the next epoch, and the agent assigned to the task. -/
structure ClaimLeaves (env : Env) (s : Store) (t : TaskId) (task : TaskRow) (g : LogicalAgentId)
    (a : AgentRow) (c : Claim) (s' : Store) : Prop where
  names : c.taskId = t ∧ c.logicalAgentId = g ∧ c.leaseEpoch = task.fencingEpoch + 1
  attempt : s.attempts.lookup c.attemptId = none ∧ ∃ prow, s'.attempts.lookup c.attemptId =
    some (claimedAttempt g task.partition prow t task (s.attemptCount t + 1))
  lease : s.leases.lookup c.leaseId = none ∧
    s'.leases.lookup c.leaseId = some (claimedLease env t c.attemptId task)
  leased : s'.tasks.lookup t = some (leasedTask task c.attemptId task)
  assigned : s'.logicalAgents.lookup g = some (assignedAgent t task a)

theorem ClaimEffect.leaves {t : TaskId} {task : TaskRow} {g : LogicalAgentId} {a : AgentRow}
    {prow : PartitionRow} {c : Claim} (h : ClaimEffect env g task.partition prow t task s c s')
    (ht : s.tasks.lookup t = some task) (hq : task.state = .queued)
    (hg : s.logicalAgents.lookup g = some a) (hr : a.state = .ready) :
    ClaimLeaves env s t task g a c s' := by
  obtain ⟨hattempt, hattempts⟩ := Table.lookup_of_insert h.attempts
  obtain ⟨hlease, hleases⟩ := Table.lookup_of_insert h.leases
  refine ⟨h.names, ⟨hattempt, prow, (hattempts _).trans (if_pos rfl)⟩,
    ⟨hlease, (hleases _).trans (if_pos rfl)⟩, ?_, ?_⟩
  · simp [Table.lookup_of_update h.tasks, ht, Table.updateRow, hq]
  · simp [Table.lookup_of_update h.agents, hg, Table.updateRow, hr]

/-- **The legacy claim takes the best pair.** In every reachable store, if the identifiers it mints are
    not taken, `claim_next_available` finds nothing exactly when no claimable task has a consumer; else
    it claims the first claimable task that has one, for the first of its consumers, if the parser reads
    the task, and fails without effect if it does not. The order in which the rows are read does not
    matter. -/
theorem claim_takes_best_pair (calls : List Call) (env : Env)
    (hfresh : (Store.empty.after calls).Fresh env 0) :
    let s := Store.empty.after calls
    ((commit claimNextAvailable env s).1 = .ok none ↔
      ¬ ∃ t task g a, s.Claimable env.now t task ∧ s.Consumer task g a) ∧
    ((∃ t task g a, s.Claimable env.now t task ∧ s.Consumer task g a) →
      ∃ t task g a, s.Claimable env.now t task ∧ s.Consumer task g a ∧
        (∀ t' task', s.Claimable env.now t' task' → (∃ g' a', s.Consumer task' g' a') →
          task.rank t ≤ task'.rank t') ∧
        (∀ g' a', s.Consumer task g' a' → a.rank task g ≤ a'.rank task g') ∧
        (task.Loads env → ∃ claim, (commit claimNextAvailable env s).1 = .ok (some claim) ∧
          ClaimLeaves env s t task g a claim (commit claimNextAvailable env s).2) ∧
        (¬ task.Loads env → ∃ e, commit claimNextAvailable env s = (.error e, s))) ∧
    ∀ (tasks : List ClaimTaskSnapshot) (agents : PartitionId → List ClaimAgentSnapshot),
      tasks.Perm s.claimTaskSnapshots → (∀ p, (agents p).Perm (s.idleAgents p)) →
      ((orderClaimTasks tasks env.now).findSome? fun id => do
        let t ← s.tasks.lookup id
        let agent ← selectClaimAgent (agents t.partition) t.intent
        some (id, t, agent.id)) = s.selectClaim env.now := by
  intro s
  have hs : s.Regular := Store.after_regular calls
  refine ⟨⟨?_, ?_⟩, ?_, fun tasks agents htasks hagents => selectClaim_perm htasks hagents⟩
  · intro hnone hpair
    rcases commit_cases claimNextAvailable env s with ⟨c, hrun, hok⟩ | ⟨err, herr, -⟩
    · cases hnone.symm.trans hok
      rcases claimNextAvailable_runs hrun with ⟨-, -, hsel⟩ | ⟨_, _, _, _, _, hc, -⟩
      · exact selectClaim_eq_none.mp hsel hpair
      · cases hc
    · cases hnone.symm.trans herr
  · intro hno
    have hens : Ensures env claimNextAvailable s 0 fun c _ _ => c = none := by
      unfold claimNextAvailable
      refine .bind (.ask (.bind (.query ?_)))
      rw [selectClaim_eq_none.mpr hno]
      exact .pure rfl
    obtain ⟨c, s', n, hrun, rfl⟩ := hens
    simp [commit, hrun]
  · intro hpair
    obtain ⟨⟨t, task, g⟩, hsel⟩ := Option.ne_none_iff_exists'.mp fun hnone =>
      selectClaim_eq_none.mp hnone hpair
    obtain ⟨ht, ⟨a, ha, hbest⟩, hfirst⟩ := selectClaim_best hsel
    -- what commits is the claim of the selected pair
    have hclaim : ∀ {c s'}, Runs env claimNextAvailable s c s' → ∃ claim, c = some claim ∧
        task.Loads env ∧ ClaimLeaves env s t task g a claim s' := by
      intro c s' hrun
      rcases claimNextAvailable_runs hrun with ⟨-, -, hnone⟩ | ⟨_, _, _, _, claim, rfl, hsel', h⟩
      · cases hsel.symm.trans hnone
      · cases hsel.symm.trans hsel'
        have heffect := claimSelected_runs h
        exact ⟨claim, rfl, ⟨_, _, heffect.payload, heffect.acceptance⟩,
          heffect.leaves ht.1.1 ht.1.queued ha.row ha.ready⟩
    refine ⟨t, task, g, a, ht, ha, hfirst, hbest, fun hloads => ?_, fun hloads => ?_⟩
    · obtain ⟨c, s', n, hrun, -⟩ := claimNextAvailable_claims hs hfresh hsel hloads
      obtain ⟨claim, rfl, -, hleaves⟩ := hclaim ⟨0, n, hrun⟩
      exact ⟨claim, by simp [commit, hrun], by simpa [commit, hrun] using hleaves⟩
    · rcases commit_cases claimNextAvailable env s with ⟨c, hrun, -⟩ | ⟨err, herr, hsame⟩
      · obtain ⟨-, -, hread, -⟩ := hclaim hrun
        exact absurd hread hloads
      · exact ⟨err, Prod.ext herr hsame⟩

namespace Deployment

/-- A name with the mark `c` is not taken if no key has the mark in its place. -/
theorem lookup_unmarked {ρ : Type} {S : Schema String ρ} {t : Table S} {kind : String}
    (h : ∀ k ∈ t.rows.map Prod.fst, k.toList[kind.length + 1]? ≠ some 'c') (m : Nat) :
    t.lookup (kind ++ "_" ++ (moment 4 "c").uuid m) = none := by
  rw [Option.eq_none_iff_forall_ne_some]
  intro r hr
  refine h _ (List.mem_map_of_mem (Table.mem_rows.mpr hr)) ?_
  have htext : (kind ++ "_" ++ (moment 4 "c").uuid m).toList =
      kind.toList ++ '_' :: 'c' :: List.replicate m '+' := by simp [moment]
  rw [htext, ← String.length_toList, List.getElem?_append_right (Nat.le_add_right _ 1),
    Nat.add_sub_cancel_left]
  rfl

/-- The names that a claim mints are not taken when the task is queued and its worker is born. -/
theorem reconciled_fresh : (Store.empty.after (claimed.take 3)).Fresh (moment 4 "c") 0 where
  distinct := uuid_injective 4 "c"
  agents m _ := lookup_unmarked (by decide +kernel) m
  attempts m _ := lookup_unmarked (by decide +kernel) m
  batches m _ := lookup_unmarked (by decide +kernel) m
  checkpoints m _ := lookup_unmarked (by decide +kernel) m
  escalations m _ := lookup_unmarked (by decide +kernel) m
  events m _ := lookup_unmarked (by decide +kernel) m
  executions m _ := lookup_unmarked (by decide +kernel) m
  failures m _ := lookup_unmarked (by decide +kernel) m
  incarnations m _ := lookup_unmarked (by decide +kernel) m
  leases m _ := lookup_unmarked (by decide +kernel) m
  results m _ := lookup_unmarked (by decide +kernel) m
  tasks m _ := lookup_unmarked (by decide +kernel) m
  workstreams m _ := lookup_unmarked (by decide +kernel) m

end Deployment

open Deployment in
/-- The worker claims the queued task. -/
theorem claim_takes_best_pair_writer :
    ∃ t task g a claim, (Store.empty.after (claimed.take 3)).Claimable 4 t task ∧
      (Store.empty.after (claimed.take 3)).Consumer task g a ∧
      (commit claimNextAvailable (moment 4 "c") (Store.empty.after (claimed.take 3))).1 =
        .ok (some claim) ∧
      ClaimLeaves (moment 4 "c") (Store.empty.after (claimed.take 3)) t task g a claim
        (commit claimNextAvailable (moment 4 "c") (Store.empty.after (claimed.take 3))).2 := by
  obtain ⟨hnone, hbest, -⟩ :=
    claim_takes_best_pair (claimed.take 3) (moment 4 "c") reconciled_fresh
  have hclaims : ((commit claimNextAvailable (moment 4 "c")
      (Store.empty.after (claimed.take 3))).1.toOption.bind id).isSome = true := by decide +kernel
  have hpair := not_not.mp fun hno => by
    rw [hnone.mpr hno] at hclaims
    cases hclaims
  obtain ⟨t, task, g, a, ht, ha, -, -, hclaim, -⟩ := hbest hpair
  obtain ⟨claim, hok, hleaves⟩ := hclaim ⟨_, _, rfl, rfl⟩
  exact ⟨t, task, g, a, claim, ht, ha, hok, hleaves⟩

namespace Deployment

/-- A task whose payload is an array in an array, 128 deep. -/
def nested : TaskSpec :=
  let arrays := String.ofList (List.replicate 128 '[' ++ List.replicate 128 ']')
  { writer with name := "deep", taskId := some "deep", payload := ⟨arrays, none⟩, priority := 1 }

/-- The parser enters 127 arrays and gives up on the next. -/
def limited (env : Env) : Env :=
  { env with parseJson := fun v =>
      if (v.text.toList.takeWhile (· = '[')).length < 128 then .ok v
      else .error "recursion limit exceeded at line 1 column 128" }

/-- Both tasks are queued, and a worker is ready. -/
def blocked : List Call :=
  [(moment 1 "p", .upsertPartition general), (moment 2 "b", .submitBatch [nested, writer]),
   (moment 3 "r", .reconcilePool)]

end Deployment

open Deployment in
/-- **A task that cannot be read blocks the queue.** The kernel stores it, selects it first and fails on
    it, although the next task could be claimed. -/
theorem unreadable_task_blocks_claims :
    ((Store.empty.after blocked).selectClaim 4).map (·.1) = some "deep" ∧
    "edit" ∈ orderClaimTasks (Store.empty.after blocked).claimTaskSnapshots 4 ∧
    (commit claimNextAvailable (limited (moment 4 "c")) (Store.empty.after blocked)).1 =
      .error (.invariantViolation
        "corrupted durable JSON: recursion limit exceeded at line 1 column 128") := by
  decide +kernel

/-! ## Typed dispatch -/

namespace Store

/-- A typed task that can be dispatched. -/
structure Dispatchable (s : Store) (now : UnixTime) (t : TaskId) (task : TaskRow) : Prop where
  row : s.tasks.lookup t = some task
  typed : s.isTyped t task = true
  ready : ∃ b p, s.batches.lookup task.batchId = some b ∧
    s.poolPartitions.lookup task.partition = some p ∧
    claimTaskReady task.state b.state p.active task.nextEligibleAt now = true

/-- Page after page, each without what was returned before. -/
def enumerate (s : Store) (now : UnixTime) (limit : Nat) : Nat → List TaskId → List TaskId
  | 0, _ => []
  | rounds + 1, excluded =>
    let page := s.listTypedDispatchCandidatesExcluding now limit excluded
    page ++ s.enumerate now limit rounds (excluded ++ page)

/-- The snapshots a page is cut from, in order. -/
def dispatchOrder (s : Store) (now : UnixTime) (excluded : List TaskId) : List ClaimTaskSnapshot :=
  sortBy ClaimTaskSnapshot.rank (s.claimTaskSnapshots.filter fun t =>
    (t.typed && claimTaskReady t.state t.batchState t.partitionActive t.nextEligibleAt now) &&
      !excluded.contains t.id)

theorem mem_dispatchOrder {x : ClaimTaskSnapshot} (hx : x ∈ s.dispatchOrder now X) :
    x ∈ s.claimTaskSnapshots ∧
      claimTaskReady x.state x.batchState x.partitionActive x.nextEligibleAt now = true := by
  simp only [dispatchOrder, mem_sortBy, List.mem_filter, Bool.and_eq_true] at hx
  exact ⟨hx.1, hx.2.1.2⟩

/-- The page is a prefix of the order: SQL filters as the core does. -/
theorem typedDispatchPage_eq (s : Store) (now : UnixTime) (n : Nat) (X : List TaskId) :
    s.typedDispatchPage now n X = (s.dispatchOrder now X).take n := by
  unfold typedDispatchPage dispatchOrder sortBy
  simp only [claimTaskLe_iff]
  congr 2
  refine List.filter_congr fun x hx => ?_
  obtain ⟨task, b, p, -, hq, -, -, hx⟩ := mem_claimTaskSnapshots.mp hx
  rw [hx, Bool.eq_iff_iff]
  simp only [claimTaskReady, claimTaskSnapshot, hq, Bool.and_eq_true, decide_true, true_and]
  tauto

/-- The order tells the tasks apart. -/
theorem dispatchOrder_pairwise (s : Store) (now : UnixTime) (X : List TaskId) :
    (s.dispatchOrder now X).Pairwise fun x y => x.rank < y.rank ∧ x.id ≠ y.id := by
  have hids : s.claimTaskSnapshots.Pairwise fun x y => x.id ≠ y.id := by
    refine (Table.rows_pairwise s.tasks).filterMap _ fun r r' hne x hx y hy heq => hne ?_
    simp only [Option.bind_eq_bind, Option.bind_eq_some_iff] at hx hy
    obtain ⟨_, -, _, -, hx⟩ := hx
    obtain ⟨_, -, _, -, hy⟩ := hy
    split at hx <;> split at hy <;> cases hx <;> cases hy
    exact heq
  have hdistinct : (s.dispatchOrder now X).Pairwise fun x y => x.id ≠ y.id :=
    ((sortBy_perm _ _).pairwise_iff fun h => h.symm).mpr (hids.filter _)
  refine ((sortBy_pairwise _ _).and hdistinct).imp fun ⟨hle, hne⟩ => ⟨lt_of_le_of_ne hle ?_, hne⟩
  exact fun h => hne (congrArg (fun k => (ofLex (ofLex k).2).2) h)

/-- The core changes nothing about the page. -/
theorem listTypedDispatchCandidatesExcluding_eq (hrows : s.tasks.rows.length < 2 ^ 63) (n : Nat) :
    s.listTypedDispatchCandidatesExcluding now n X =
      ((s.dispatchOrder now X).take n).map ClaimTaskSnapshot.id := by
  have hlength : (s.dispatchOrder now X).length < 2 ^ 63 := by
    refine lt_of_le_of_lt ?_ hrows
    unfold dispatchOrder
    rw [(sortBy_perm _ _).length_eq]
    exact (List.length_filter_le _ _).trans (List.length_filterMap_le _ _)
  have hclamp : (s.dispatchOrder now X).take (min n (2 ^ 63 - 1)) = (s.dispatchOrder now X).take n := by
    rcases le_total n (2 ^ 63 - 1) with hn | hn
    · rw [min_eq_left hn]
    · rw [min_eq_right hn, List.take_of_length_le (by omega), List.take_of_length_le (by omega)]
  unfold listTypedDispatchCandidatesExcluding orderReadyTasks
  split
  · rename_i hn
    rw [hn]
    rfl
  · -- the page is sorted and ready already
    dsimp only
    rw [typedDispatchPage_eq, orderTasksByFrozenRank_eq, List.filter_eq_self.mpr, sortBy_eq_self,
      ← List.map_take, List.take_take, min_self, hclamp]
    · exact ((sortBy_pairwise _ _).sublist (List.take_sublist _ _))
    · exact fun x hx => (mem_dispatchOrder (List.mem_of_mem_take hx)).2

/-- What is excluded drops out of the order. -/
theorem dispatchOrder_append (Y : List TaskId) : s.dispatchOrder now (X ++ Y) =
    (s.dispatchOrder now X).filter fun x => !Y.contains x.id := by
  unfold dispatchOrder
  rw [← sortBy_filter, List.filter_filter]
  · congr 1
    refine List.filter_congr fun x _ => ?_
    simp only [List.contains_eq_mem, List.mem_append, Bool.decide_or, Bool.not_or]
    exact (Bool.and_assoc _ _ _).symm.trans (Bool.and_comm _ _)
  · intro x hx y hy hrank
    exact claimTaskSnapshots_id (List.mem_filter.mp hx).1 (List.mem_filter.mp hy).1
      (congrArg (fun k => (ofLex (ofLex k).2).2) hrank)

/-- **Pages.** Round after round, the next tasks of the order are returned. -/
theorem enumerate_eq (hrows : s.tasks.rows.length < 2 ^ 63) (n k : Nat) : ∀ X,
    s.enumerate now n k X = ((s.dispatchOrder now X).take (k * n)).map ClaimTaskSnapshot.id := by
  induction k with
  | zero => simp [enumerate]
  | succ k ih =>
    intro X
    -- excluding the first page leaves the rest of the order
    have hrest : s.dispatchOrder now (X ++ ((s.dispatchOrder now X).take n).map ClaimTaskSnapshot.id) =
        (s.dispatchOrder now X).drop n := by
      have hpair := s.dispatchOrder_pairwise now X
      rw [dispatchOrder_append]
      rw [← List.take_append_drop n (s.dispatchOrder now X)] at hpair
      nth_rewrite 2 [← List.take_append_drop n (s.dispatchOrder now X)]
      rw [List.filter_append, List.filter_eq_nil_iff.mpr, List.nil_append, List.filter_eq_self.mpr]
      · intro y hy
        simp only [List.contains_eq_mem, List.mem_map, Bool.not_eq_true', decide_eq_false_iff_not]
        rintro ⟨x, hx, hid⟩
        exact ((List.pairwise_append.mp hpair).2.2 x hx y hy).2 hid
      · intro x hx
        have hmem := List.mem_map_of_mem (f := ClaimTaskSnapshot.id) hx
        simp only [List.contains_eq_mem, hmem, decide_true, Bool.not_true, Bool.false_eq_true,
          not_false_eq_true]
    rw [enumerate, listTypedDispatchCandidatesExcluding_eq hrows, ih, hrest, ← List.map_append,
      Nat.succ_mul, Nat.add_comm, List.take_add]

end Store

/-- **Typed dispatch returns the first ready tasks.** For every store and exclusion list there is the
    list of the typed ready tasks that are not excluded, in the dispatch order, and every limit cuts a
    prefix of it. Page after page, it is enumerated from the front, and each task once. The number of
    rows is bounded as SQLite bounds it. -/
theorem typed_dispatch_pages (s : Store) (now : UnixTime) (X : List TaskId)
    (hrows : s.tasks.rows.length < 2 ^ 63) :
    ∃ L : List TaskId, (∀ t, t ∈ L ↔ (∃ task, s.Dispatchable now t task) ∧ t ∉ X) ∧
      L.Nodup ∧
      L.Pairwise (fun t t' => ∀ task task', s.tasks.lookup t = some task →
        s.tasks.lookup t' = some task' → task.rank t < task'.rank t') ∧
      (∀ n, s.listTypedDispatchCandidatesExcluding now n X = L.take n) ∧
      ∀ n k, s.enumerate now n k X = L.take (k * n) ∧
        (0 < n → L.length ≤ k → s.enumerate now n k X = L) := by
  refine ⟨(s.dispatchOrder now X).map ClaimTaskSnapshot.id, ?_, ?_, ?_, ?_, ?_⟩
  · intro t
    simp only [Store.dispatchOrder, List.mem_map, mem_sortBy, List.mem_filter, mem_claimTaskSnapshots,
      Bool.and_eq_true, Bool.not_eq_true', List.contains_eq_mem, decide_eq_false_iff_not]
    constructor
    · rintro ⟨x, ⟨⟨task, b, p, ht, hq, hb, hp, hx⟩, ⟨htyped, hready⟩, hnot⟩, rfl⟩
      rw [hx] at htyped hready
      exact ⟨⟨task, ht, htyped, b, p, hb, hp, hready⟩, hnot⟩
    · rintro ⟨⟨task, ht, htyped, b, p, hb, hp, hready⟩, hnot⟩
      have hq : task.state = .queued := by
        simp only [claimTaskReady, Bool.and_eq_true, decide_eq_true_eq] at hready
        exact hready.1.1.1
      exact ⟨s.claimTaskSnapshot t task b p, ⟨⟨task, b, p, ht, hq, hb, hp, rfl⟩, ⟨htyped, hready⟩,
        hnot⟩, rfl⟩
  · exact List.pairwise_map.mpr ((s.dispatchOrder_pairwise now X).imp And.right)
  · refine List.pairwise_map.mpr ((s.dispatchOrder_pairwise now X).imp_of_mem ?_)
    intro x y hx hy hlt task task' ht ht'
    rw [← rank_of_mem (Store.mem_dispatchOrder hx).1 ht,
      ← rank_of_mem (Store.mem_dispatchOrder hy).1 ht']
    exact hlt.1
  · intro n
    rw [Store.listTypedDispatchCandidatesExcluding_eq hrows, List.map_take]
  · intro n k
    have hall : s.enumerate now n k X = _ := Store.enumerate_eq hrows n k X
    rw [List.map_take] at hall
    refine ⟨hall, fun hn hk => hall.trans (List.take_of_length_le ?_)⟩
    exact hk.trans (Nat.le_mul_of_pos_right k hn)

namespace Deployment

/-- A typed admission of the writer task under a name and a priority. -/
def typedAdmission (name : String) (priority : Int) : Op :=
  .admitProposal (.ok none) { writer with taskId := some name, priority := priority }
    (some (.ok ⟨"writer", 1⟩))

/-- Three typed tasks are queued, and one that is not typed. -/
def typedQueue : List Call :=
  queued ++ [(moment 3 "u", typedAdmission "low" 0), (moment 4 "v", typedAdmission "high" 2),
    (moment 5 "w", typedAdmission "middle" 1)]

end Deployment

open Deployment in
/-- The page of one task, without the first of three, is the second; the pages enumerate both that are
    left. -/
theorem typed_dispatch_pages_queued :
    (Store.empty.after typedQueue).listTypedDispatchCandidatesExcluding 6 1 ["high"] = ["middle"] ∧
    ∃ L : List TaskId, (∀ t, t ∈ L ↔
        (∃ task, (Store.empty.after typedQueue).Dispatchable 6 t task) ∧ t ∉ ["high"]) ∧
      (∀ n, (Store.empty.after typedQueue).listTypedDispatchCandidatesExcluding 6 n ["high"] =
        L.take n) ∧
      L = ["middle", "low"] ∧ (Store.empty.after typedQueue).enumerate 6 1 2 ["high"] = L := by
  obtain ⟨L, hmem, -, -, hpages, hrounds⟩ :=
    typed_dispatch_pages (Store.empty.after typedQueue) 6 ["high"] (by decide +kernel)
  have hthree : (Store.empty.after typedQueue).listTypedDispatchCandidatesExcluding 6 3 ["high"] =
      ["middle", "low"] := by decide +kernel
  have hL : L = ["middle", "low"] := by
    have htake := (hpages 3).symm.trans hthree
    have hlength := congrArg List.length htake
    rw [List.length_take] at hlength
    rwa [List.take_of_length_le (by simp only [List.length] at hlength; omega)] at htake
  exact ⟨by decide +kernel, L, hmem, hpages, hL, ((hrounds 1 2).2 one_pos (by simp [hL]))⟩

end Agentype

import Agentype.Scheduler.Refine

/-!
# `Agentype.Contract.Dependencies` — dependency scheduling

In every reachable store the state of a task respects its dependencies, no batch deadlocks on them,
and a submission is accepted exactly when its dependencies have no cycle.

## Contents
- `DependsIn ids tasks t p`: the dependency relation a submission describes, by name or identity.
- `assignIds`: the identities a submission gives its tasks.
- `Submittable env s tasks`: everything a submission needs of the store but acyclicity.
- `submitBatch_commits_iff`: a submittable batch is accepted exactly when it is acyclic.
- `dependency_scheduling_exact`: whole histories.
-/

namespace Agentype

open Relational Tx Store Board

variable {env : Env} {s s' : Store}
variable {ids : List (String × TaskId)} {spec : TaskSpec} {tasks : List TaskSpec} {t : TaskId}
  {graph : AList fun _ : TaskId => List TaskId} {batch : BatchId} {n : Nat}

/-! ## The dependencies of a submission -/

/-- Task `t` of the batch names task `p` of the batch as a dependency. -/
def DependsIn (ids : List (String × TaskId)) (tasks : List TaskSpec) (t p : TaskId) : Prop :=
  ∃ spec ∈ tasks, ids.lookup spec.name = some t ∧
    ∃ dep ∈ spec.dependencies, resolveDependency ids dep = some p

/-- The identities of the tasks of a batch; a task without one gets the next fresh identifier. -/
def assignIds (uuid : Nat → String) : Nat → List TaskSpec → List (String × TaskId)
  | _, [] => []
  | n, spec :: tasks =>
    match spec.taskId with
    | some id => (spec.name, id) :: assignIds uuid n tasks
    | none => (spec.name, "task" ++ "_" ++ uuid n) :: assignIds uuid (n + 1) tasks

theorem assignIds_assigned (uuid : Nat → String) (n : Nat) (tasks : List TaskSpec) :
    Assigned (assignIds uuid n tasks) tasks := by
  unfold Assigned
  induction tasks generalizing n with
  | nil => rfl
  | cons spec tasks ih =>
    unfold assignIds
    split <;> rw [List.map_cons, List.map_cons, ih]

theorem assignIds_ensures (tasks : List TaskSpec) (n : Nat) :
    Ensures env (tasks.mapM TaskSpec.assignId) s n fun ids s' _ =>
      ids = assignIds env.uuid n tasks ∧ s' = s := by
  induction tasks generalizing n with
  | nil =>
    rw [List.mapM_nil]
    exact .pure ⟨rfl, rfl⟩
  | cons spec tasks ih =>
    rw [List.mapM_cons]
    unfold TaskSpec.assignId assignIds
    refine .bind ?_
    cases spec.taskId with
    | some id =>
      refine .pure (.bind ((ih n).mono fun ids s' _ h => ?_))
      exact .pure ⟨by rw [h.1], h.2⟩
    | none =>
      refine .bind (newId_ensures (.pure (.bind ((ih (n + 1)).mono fun ids s' _ h => ?_))))
      exact .pure ⟨by rw [h.1], h.2⟩

/-! ## The dependency map -/

theorem resolveDependencies_ok
    (h : ∀ dep ∈ spec.dependencies, (resolveDependency ids dep).isSome = true) :
    resolveDependencies ids spec = .ok (spec.dependencies.filterMap (resolveDependency ids)) := by
  unfold resolveDependencies
  revert h
  generalize spec.dependencies = deps
  intro h
  induction deps with
  | nil => rfl
  | cons dep deps ih =>
    obtain ⟨p, hp⟩ := Option.isSome_iff_exists.mp (h dep List.mem_cons_self)
    have hrest := ih fun d hd => h d (List.mem_cons_of_mem dep hd)
    rw [List.mapM_cons, hrest, hp, List.filterMap_cons_some hp]
    rfl

theorem Assigned.lookup_isSome (h : Assigned ids tasks) (hspec : spec ∈ tasks) :
    ∃ t, ids.lookup spec.name = some t := by
  have hname : spec.name ∈ ids.map Prod.fst := by
    rw [h]
    exact List.mem_map.mpr ⟨spec, hspec, rfl⟩
  cases hl : ids.lookup spec.name with
  | some t => exact ⟨t, rfl⟩
  | none =>
    obtain ⟨x, hx, hxn⟩ := List.mem_map.mp hname
    exact absurd hxn.symm (bne_iff_ne.mp (List.lookup_eq_none_iff.mp hl x hx))

/-- Distinct identities belong to distinct names. -/
theorem lookup_inj (hnodup : (ids.map Prod.snd).Nodup) {name name' : String}
    (h : ids.lookup name = some t) (h' : ids.lookup name' = some t) : name = name' := by
  have mem : ∀ {name}, ids.lookup name = some t → (name, t) ∈ ids := by
    intro name h
    obtain ⟨l₁, l₂, hsplit, -⟩ := List.lookup_eq_some_iff.mp h
    rw [hsplit]
    simp
  exact congrArg Prod.fst (List.inj_on_of_nodup_map hnodup (mem h) (mem h') rfl)

/-- The dependency map can be built when every dependency is known. -/
theorem exists_dependencyGraph (hids : ∀ spec ∈ tasks, ∃ t, ids.lookup spec.name = some t)
    (hknown : ∀ spec ∈ tasks, ∀ dep ∈ spec.dependencies, (resolveDependency ids dep).isSome = true) :
    ∃ graph, dependencyGraph ids tasks = .ok graph := by
  unfold dependencyGraph
  generalize (∅ : AList fun _ : TaskId => List TaskId) = graph₀
  induction tasks generalizing graph₀ with
  | nil => exact ⟨graph₀, rfl⟩
  | cons spec tasks ih =>
    obtain ⟨t, ht⟩ := hids spec List.mem_cons_self
    have hres := resolveDependencies_ok (hknown spec List.mem_cons_self)
    obtain ⟨graph, hgraph⟩ := ih (fun spec' h => hids spec' (List.mem_cons_of_mem spec h))
      (fun spec' h => hknown spec' (List.mem_cons_of_mem spec h))
      (graph₀.insert t (spec.dependencies.filterMap (resolveDependency ids)))
    refine ⟨graph, ?_⟩
    rw [List.foldlM_cons, addDependencies_ok.mpr ⟨t, _, ht, hres, rfl⟩]
    exact hgraph

/-- With distinct names and identities the dependency map holds the dependencies of each task. -/
theorem mem_successors_iff (hnames : (tasks.map TaskSpec.name).Nodup)
    (hnodup : (ids.map Prod.snd).Nodup) (h : dependencyGraph ids tasks = .ok graph) {p : TaskId} :
    p ∈ successors graph t ↔ DependsIn ids tasks t p := by
  rw [mem_successors]
  have hext := dependencyGraph_extends h
  constructor
  · rintro ⟨deps, hdeps, hp⟩
    rcases hext.entry t deps hdeps with hold | ⟨spec, hspec, hid, hres⟩
    · cases hold
    · obtain ⟨dep, hdep, hok⟩ := Check.mem_of_mapM_ok hres hp
      exact ⟨spec, hspec, hid, dep, hdep, orError_ok.mp hok⟩
  · rintro ⟨spec, hspec, hid, dep, hdep, hp⟩
    have hmem := (mem_dependencyGraph h).mpr (mem_batchIds.mpr ⟨spec, hspec, hid⟩)
    obtain ⟨deps, hdeps⟩ := Option.isSome_iff_exists.mp (AList.lookup_isSome.mpr hmem)
    refine ⟨deps, hdeps, ?_⟩
    rcases hext.entry t deps hdeps with hold | ⟨spec', hspec', hid', hres⟩
    · cases hold
    · obtain rfl : spec' = spec :=
        List.inj_on_of_nodup_map hnames hspec' hspec (lookup_inj hnodup hid' hid)
      obtain ⟨q, hq, hdepq⟩ := Check.exists_of_mapM_ok hres hdep
      cases hp.symm.trans (orError_ok.mp hdepq)
      exact hq

/-! ## Acceptance -/

/-- Everything a submission needs but acyclic dependencies. The identifiers that are minted are
    unused; the rest is about the batch and the rows it refers to. -/
structure Submittable (env : Env) (s : Store) (tasks : List TaskSpec) : Prop where
  nonempty : tasks ≠ []
  names : (tasks.map TaskSpec.name).Nodup
  ids : ((assignIds env.uuid 1 tasks).map Prod.snd).Nodup
  unusedBatch : s.batches.lookup ("batch" ++ "_" ++ env.uuid 0) = none
  unusedIds : ∀ x ∈ assignIds env.uuid 1 tasks, s.tasks.lookup x.2 = none
  known : ∀ spec ∈ tasks, ∀ dep ∈ spec.dependencies,
    (resolveDependency (assignIds env.uuid 1 tasks) dep).isSome = true
  unrepeated : ∀ spec ∈ tasks,
    (spec.dependencies.filterMap (resolveDependency (assignIds env.uuid 1 tasks))).Nodup
  partitions : ∀ spec ∈ tasks, (s.partitionRow spec.partition true).isSome = true
  workstreams : ∀ spec ∈ tasks, ∀ w ∈ spec.workstreamId, (s.workstreams.lookup w).isSome = true
  superseded : ∀ spec ∈ tasks, ∀ t ∈ spec.supersedesTaskId, (s.tasks.lookup t).isSome = true
  policies : ∀ spec ∈ tasks, 1 ≤ spec.retryPolicy.maxAttempts ∧
    0 ≤ spec.retryPolicy.baseBackoffSeconds ∧
    spec.retryPolicy.baseBackoffSeconds ≤ spec.retryPolicy.maxBackoffSeconds

/-- The row of a task can be inserted. -/
theorem submitTask_ensures {id : TaskId} (hid : ids.lookup spec.name = some id)
    (hnone : s.tasks.lookup id = none) (hpart : (s.partitionRow spec.partition true).isSome = true)
    (hwork : ∀ w ∈ spec.workstreamId, (s.workstreams.lookup w).isSome = true)
    (hsup : ∀ t ∈ spec.supersedesTaskId, (s.tasks.lookup t).isSome = true)
    (hpol : 1 ≤ spec.retryPolicy.maxAttempts ∧ 0 ≤ spec.retryPolicy.baseBackoffSeconds ∧
      spec.retryPolicy.baseBackoffSeconds ≤ spec.retryPolicy.maxBackoffSeconds) :
    Ensures env (submitTask batch ids graph spec) s n fun _ s' _ =>
      ∃ row t, s.tasks.insert id row = some t ∧ s' = tasksT.set s t := by
  obtain ⟨p, hp⟩ := Option.isSome_iff_exists.mp hpart
  have hrefs : s.taskReferencesExist id spec = true := by
    unfold Store.taskReferencesExist
    rw [Bool.and_eq_true, Option.all_eq_true, Option.all_eq_true]
    exact ⟨fun w hw => hwork w hw, fun t ht => by rw [hsup t ht, Bool.or_true]⟩
  have hcheck : ∀ st, taskSchema.check id (spec.row batch st .legacy env.now) = true := by
    intro st
    simp [taskSchema, Schema.checked, TaskSpec.row, hpol]
  obtain ⟨t, ht⟩ := Table.exists_insert hnone
    (hcheck (if (successors graph id).isEmpty then .queued else .blocked)) fun _ _ _ => rfl
  unfold submitTask insertTask
  exact .bind (.fetch hp (.bind (.orFail hid (.bind (.ask (.bind (.query (.bind (.require hrefs
    (.insertInto ht ⟨_, t, ht, rfl⟩))))))))))

/-- **The loop over the tasks commits.** No two tasks share an identity, so each one is still
    unused when its turn comes. -/
theorem submitTasks_ensures {s₀ : Store} (h : Submittable env s tasks) (htasks : s₀.tasks = s.tasks)
    (hparts : s₀.poolPartitions = s.poolPartitions) (hwork : s₀.workstreams = s.workstreams) :
    Ensures env (tasks.forM (submitTask batch (assignIds env.uuid 1 tasks) graph)) s₀ n
      fun _ s' _ => s'.taskDependencies = s₀.taskDependencies := by
  -- what the tasks still to be inserted need of the store
  let ids := assignIds env.uuid 1 tasks
  refine (Ensures.forM_rest (I := fun rest s' _ => ∃ t, s' = tasksT.set s₀ t ∧
      (∀ k, (s.tasks.lookup k).isSome = true → (t.lookup k).isSome = true) ∧
      (∀ spec ∈ rest, spec ∈ tasks) ∧ (rest.map TaskSpec.name).Nodup ∧
      ∀ spec ∈ rest, ∀ id, ids.lookup spec.name = some id → t.lookup id = none)
    ⟨s₀.tasks, rfl, fun k hk => by rwa [htasks], fun _ hspec => hspec, h.names, ?_⟩ ?_).mono ?_
  · intro spec _ id hid
    obtain ⟨l₁, l₂, hsplit, -⟩ := List.lookup_eq_some_iff.mp hid
    rw [htasks]
    exact h.unusedIds (spec.name, id) (by show _ ∈ ids; rw [hsplit]; simp)
  · rintro spec rest _ n ⟨t, rfl, hkeep, hsub, hnames, hunused⟩
    have hspec := hsub spec List.mem_cons_self
    obtain ⟨id, hid⟩ := (assignIds_assigned env.uuid 1 tasks).lookup_isSome hspec
    refine (submitTask_ensures hid (hunused spec List.mem_cons_self id hid) ?_ ?_ ?_
      (h.policies spec hspec)).mono ?_
    · have hactive := h.partitions spec hspec
      unfold Store.partitionRow at hactive ⊢
      rwa [← hparts] at hactive
    · intro w hw
      show (s₀.workstreams.lookup w).isSome = true
      rw [hwork]
      exact h.workstreams spec hspec w hw
    · intro t' ht'
      exact hkeep t' (h.superseded spec hspec t' ht')
    · rintro _ _ _ ⟨row, t', ht', rfl⟩
      rw [List.map_cons, List.nodup_cons] at hnames
      refine ⟨t', rfl, fun k hk => ?_, fun spec' h' => hsub spec' (List.mem_cons_of_mem _ h'),
        hnames.2, fun spec' h' id' hid' => ?_⟩
      · obtain ⟨r, hr⟩ := Option.isSome_iff_exists.mp (hkeep k hk)
        rw [Table.lookup_of_insert_some ht' hr]
        rfl
      · have hne : id' ≠ id := by
          rintro rfl
          exact hnames.1 (List.mem_map.mpr ⟨spec', h', lookup_inj h.ids hid' hid⟩)
        rw [(Table.lookup_of_insert ht').2, if_neg hne]
        exact hunused spec' (List.mem_cons_of_mem _ h') id' hid'
  · rintro _ _ _ ⟨t, rfl, -⟩
    rfl

/-- **The loop over the dependencies commits.** None of the edges is there yet, and none is a
    loop. -/
theorem insertDependencies_ensures {keys : List TaskId} (hkeys : keys.Nodup)
    (hnew : ∀ t ∈ keys, ∀ p, s.taskDependencies.lookup (t, p) = none)
    (hnodup : ∀ t ∈ keys, (successors graph t).Nodup) (hloop : ∀ t ∈ keys, t ∉ successors graph t) :
    Ensures env (keys.forM fun t => (successors graph t).forM (insertDependency t)) s n
      fun _ _ _ => True := by
  refine (Ensures.forM_rest (I := fun rest s' _ => rest.Nodup ∧ (∀ t ∈ rest, t ∈ keys) ∧
      ∀ t ∈ rest, ∀ p, s'.taskDependencies.lookup (t, p) = none)
    ⟨hkeys, fun _ ht => ht, hnew⟩ ?_).mono fun _ _ _ _ => trivial
  rintro t rest s₁ n ⟨hrest, hsub, hfree⟩
  have ht := hsub t List.mem_cons_self
  have hout := (List.nodup_cons.mp hrest).1
  refine (Ensures.forM_rest (I := fun ps s' _ => ps.Nodup ∧ t ∉ ps ∧
      (∀ p ∈ ps, s'.taskDependencies.lookup (t, p) = none) ∧
      ∀ t' ∈ rest, ∀ p, s'.taskDependencies.lookup (t', p) = none)
    ⟨hnodup t ht, hloop t ht, fun p _ => hfree t List.mem_cons_self p,
      fun t' ht' => hfree t' (List.mem_cons_of_mem t ht')⟩ ?_).mono ?_
  · rintro p ps s₂ n ⟨hps, htp, hone, hothers⟩
    have hne : t ≠ p := fun heq => htp (heq ▸ List.mem_cons_self)
    obtain ⟨d, hd⟩ := Table.exists_insert (S := dependencySchema) (r := ())
      (hone p List.mem_cons_self) (decide_eq_true hne) fun _ _ _ => rfl
    refine .insertInto hd ⟨(List.nodup_cons.mp hps).2, fun hmem => htp (List.mem_cons_of_mem p hmem),
      fun p' hp' => ?_, fun t' ht' p' => ?_⟩
    · have hpp : (t, p') ≠ (t, p) := by
        rintro heq
        obtain rfl := (Prod.mk.inj heq).2
        exact (List.nodup_cons.mp hps).1 hp'
      exact ((Table.lookup_of_insert hd).2 _).trans
        ((if_neg hpp).trans (hone p' (List.mem_cons_of_mem p hp')))
    · have htt : (t', p') ≠ (t, p) := by
        rintro heq
        obtain rfl := (Prod.mk.inj heq).1
        exact hout ht'
      exact ((Table.lookup_of_insert hd).2 _).trans ((if_neg htt).trans (hothers t' ht' p'))
  · rintro _ s₂ _ ⟨-, -, -, hothers⟩
    exact ⟨(List.nodup_cons.mp hrest).2, fun t' ht' => hsub t' (List.mem_cons_of_mem t ht'), hothers⟩

/-- The successors of a node are the resolved dependencies of its task. -/
theorem successors_nodup (h : Submittable env s tasks)
    (hgraph : dependencyGraph (assignIds env.uuid 1 tasks) tasks = .ok graph) (t : TaskId) :
    (successors graph t).Nodup := by
  unfold successors
  cases hl : graph.lookup t with
  | none => exact List.nodup_nil
  | some deps =>
    rcases (dependencyGraph_extends hgraph).entry t deps hl with hold | ⟨spec, hspec, -, hres⟩
    · cases hold
    · rw [resolveDependencies_ok (h.known spec hspec)] at hres
      obtain rfl := Except.ok.inj hres
      exact h.unrepeated spec hspec

/-- Task `t` depends on task `p`. -/
def Store.DependsOn (s : Store) (t p : TaskId) : Prop :=
  (s.taskDependencies.lookup (t, p)).isSome = true

section Graph

variable (hgraph : dependencyGraph (assignIds env.uuid 1 tasks) tasks = .ok graph)
include hgraph

theorem mem_hashOrder_keys :
    t ∈ env.hashOrder graph.keys ↔ t ∈ batchIds (assignIds env.uuid 1 tasks) tasks := by
  rw [(env.hashOrder_perm _).mem_iff, ← AList.mem_keys, mem_dependencyGraph hgraph]

variable (h : Submittable env s tasks)
include h

/-- The edges of the graph lie within the batch. -/
theorem successors_keys {p : TaskId} (hp : p ∈ successors graph t) :
    t ∈ env.hashOrder graph.keys ∧ p ∈ env.hashOrder graph.keys := by
  rw [mem_hashOrder_keys hgraph, mem_hashOrder_keys hgraph]
  exact successors_batchIds (assignIds_assigned env.uuid 1 tasks) h.names hgraph hp

theorem assertAcyclic_dependsIn : assertAcyclic graph (env.hashOrder graph.keys) = .ok () ↔
    ∀ t, ¬ Relation.TransGen (DependsIn (assignIds env.uuid 1 tasks) tasks) t t := by
  have hedges : (fun t p => p ∈ successors graph t) =
      DependsIn (assignIds env.uuid 1 tasks) tasks :=
    funext fun t => funext fun p => propext (mem_successors_iff h.names h.ids hgraph)
  rw [assertAcyclic_ok_iff fun t p hp => successors_keys hgraph h hp, hedges]

end Graph

/-- **Submission.** A submittable batch whose dependencies are acyclic is accepted, and they are
    stored. -/
theorem submitBatch_ensures (hs : s.board.Sound) (h : Submittable env s tasks)
    (hacyclic : ∀ t, ¬ Relation.TransGen (DependsIn (assignIds env.uuid 1 tasks) tasks) t t) :
    Ensures env (submitBatch tasks) s 0 fun _ s' _ => ∀ t p, s'.DependsOn t p ↔
      s.DependsOn t p ∨ DependsIn (assignIds env.uuid 1 tasks) tasks t p := by
  obtain ⟨graph, hgraph⟩ := exists_dependencyGraph
    (fun spec hspec => (assignIds_assigned env.uuid 1 tasks).lookup_isSome hspec) h.known
  have hedge := fun {t p} => mem_successors_iff (t := t) (p := p) h.names h.ids hgraph
  have hnonempty : (!tasks.isEmpty) = true := by simp [h.nonempty]
  obtain ⟨bt, hbt⟩ := Table.exists_insert (S := .free BatchId BatchRow) (r := ⟨.active⟩)
    h.unusedBatch rfl fun _ _ _ => rfl
  unfold submitBatch
  refine .bind (.require hnonempty (.bind (.require (decide_eq_true h.names) (.bind (.ask
    (.bind (newId_ensures (.bind (.insertInto hbt (.bind ?_))))))))))
  refine (assignIds_ensures tasks 1).mono fun ids s₁ n₁ hids => ?_
  obtain ⟨rfl, rfl⟩ := hids
  refine .bind (.examine hgraph (.bind (.examine
    ((assertAcyclic_dependsIn hgraph h).mpr hacyclic) (.bind ?_))))
  refine Ensures.mono (submitTasks_ensures (s := s) h ?_ ?_ ?_) fun _ s₂ n₂ hdeps => .bind ?_
  · rfl
  · rfl
  · rfl
  refine (insertDependencies_ensures ?_ ?_ ?_ ?_).with_runs.mono fun _ s₃ _ h₃ => .pure ?_
  · exact (env.hashOrder_perm _).nodup_iff.mpr graph.keys_nodup
  · -- an unused identity has no dependencies yet
    intro t ht p
    rw [hdeps]
    by_contra hsome
    obtain ⟨v, -, hv, -⟩ := hs.ordered.dep_local t p (Option.ne_none_iff_isSome.mp hsome)
    obtain ⟨spec, -, hid⟩ := mem_batchIds.mp ((mem_hashOrder_keys hgraph).mp ht)
    obtain ⟨l₁, l₂, hsplit, -⟩ := List.lookup_eq_some_iff.mp hid
    have hnone : s.tasks.lookup t = none := h.unusedIds (spec.name, t) (by rw [hsplit]; simp)
    obtain ⟨row, hrow, -⟩ := Table.view_eq_some.mp hv
    rw [hnone] at hrow
    cases hrow
  · exact fun t _ => successors_nodup h hgraph t
  · exact fun t _ hmem => hacyclic t (.single (hedge.mp hmem))
  · intro t p
    have hboard := congrFun (congrFun (congrArg Board.depends (insertDependencies_board h₃.2)) t) p
    have hkept : s₂.DependsOn t p ↔ s.DependsOn t p := by
      unfold Store.DependsOn
      rw [hdeps]
      rfl
    change s₃.DependsOn t p = (s₂.DependsOn t p ∨ _) at hboard
    rw [hboard, hkept, ← hedge]
    exact or_congr_right (and_iff_right_of_imp fun hp => (successors_keys hgraph h hp).1)

/-- **Acceptance.** A submittable batch is accepted exactly when its dependencies are acyclic. -/
theorem submitBatch_commits_iff (hs : s.board.Sound) (h : Submittable env s tasks) :
    Commits Op.exec s (env, .submitBatch tasks) ↔
      ∀ t, ¬ Relation.TransGen (DependsIn (assignIds env.uuid 1 tasks) tasks) t t := by
  constructor
  · intro hcommits
    have hens : Ensures env (submitBatch tasks) s 0 _ := (Commits.ensures hcommits).unbind
    -- the identities are assigned from the second fresh identifier on
    unfold submitBatch at hens
    obtain ⟨-, hens⟩ := hens.require_bind
    obtain ⟨-, hens⟩ := hens.require_bind
    obtain ⟨_, -, hens⟩ := (newId_ensures_bind hens.ask_bind).insertInto_bind
    obtain ⟨_, _, _, ⟨rfl, -⟩, hens⟩ := (assignIds_ensures tasks 1).meet hens.unbind
    obtain ⟨graph, hgraph, hens⟩ := hens.examine_bind
    obtain ⟨_, hacyclic, -⟩ := hens.examine_bind
    exact (assertAcyclic_dependsIn hgraph h).mp hacyclic
  · intro hacyclic
    exact Ensures.commits (Q := fun _ _ _ => True)
      (.bind ((submitBatch_ensures hs h hacyclic).mono fun _ _ _ _ => .pure trivial))

/-- **An accepted batch is stored** with the dependencies it describes and no others. -/
theorem submitBatch_dependsOn (hs : s.board.Sound) (h : Submittable env s tasks)
    (hcommits : Commits Op.exec s (env, .submitBatch tasks)) {p : TaskId} :
    (s.call (env, .submitBatch tasks)).DependsOn t p ↔
      s.DependsOn t p ∨ DependsIn (assignIds env.uuid 1 tasks) tasks t p := by
  have hens : Ensures env (Op.submitBatch tasks).exec s 0 fun _ s' _ => ∀ t p,
      s'.DependsOn t p ↔ s.DependsOn t p ∨ DependsIn (assignIds env.uuid 1 tasks) tasks t p :=
    .bind ((submitBatch_ensures hs h ((submitBatch_commits_iff hs h).mp hcommits)).mono
      fun _ _ _ hedges => .pure hedges)
  obtain ⟨-, hedges⟩ := Ensures.step Op.exec (env, .submitBatch tasks) hens
  exact hedges t p

/-! ## Histories -/

/-- The task is there and completed. -/
def Store.Completed (s : Store) (t : TaskId) : Prop :=
  ∃ task, s.tasks.lookup t = some task ∧ task.state = .completed

theorem completed_of_board (h : s.board.Completed t) : s.Completed t := by
  obtain ⟨_, hv, hc⟩ := h
  obtain ⟨task, ht, rfl⟩ := Table.view_eq_some.mp hv
  exact ⟨task, ht, hc⟩

theorem completed_board (h : s.Completed t) : s.board.Completed t := by
  obtain ⟨task, ht, hc⟩ := h
  exact ⟨task.view, Table.view_of_lookup ht, hc⟩

theorem finite_tasks (s : Store) : {t | (s.board.task t).isSome = true}.Finite := by
  refine (List.finite_toSet (s.tasks.rows.map Prod.fst)).subset fun t ht => ?_
  obtain ⟨v, hv⟩ := Option.isSome_iff_exists.mp ht
  obtain ⟨task, htask, -⟩ := Table.view_eq_some.mp hv
  exact List.mem_map.mpr ⟨(t, task), Table.mem_rows.mpr htask, rfl⟩

theorem mem_members {task : TaskRow} :
    (t, task) ∈ s.members batch ↔ s.tasks.lookup t = some task ∧ task.batchId = batch := by
  unfold Store.members
  rw [List.mem_filter, Table.mem_rows, decide_eq_true_eq]

/-- **No deadlock.** -/
theorem members_progress (hs : s.board.Sound)
    (hgood : ∀ x ∈ s.members batch, x.2.state ≠ .suspended ∧ x.2.state ≠ .cancelled)
    (hopen : ∃ x ∈ s.members batch, x.2.state ≠ .completed) :
    ∃ x ∈ s.members batch, x.2.state.live = true := by
  obtain ⟨⟨t, task⟩, hmem, hnot⟩ := hopen
  obtain ⟨ht, hbatch⟩ := mem_members.mp hmem
  have hstates : ∀ t' v', s.board.task t' = some v' → v'.batch = batch →
      v'.state ≠ .suspended ∧ v'.state ≠ .cancelled := by
    intro t' v' hv' hb'
    obtain ⟨task', ht', rfl⟩ := Table.view_eq_some.mp hv'
    exact hgood (t', task') (mem_members.mpr ⟨ht', hb'⟩)
  obtain ⟨t', _, hv', hbatch', hlive⟩ := hs.ordered.progress (finite_tasks s) hstates
    (Table.view_of_lookup ht) hbatch hnot
  obtain ⟨task', ht', rfl⟩ := Table.view_eq_some.mp hv'
  exact ⟨(t', task'), mem_members.mpr ⟨ht', hbatch'⟩, hlive⟩

/-- **Dependency scheduling is exact.** In every reachable store a task is released exactly when
    its parents are completed, a batch with no decision pending and nothing cancelled is done or has
    work to hand out, and a submission is accepted exactly when its dependencies are acyclic; they are
    then the ones that are added to the store. -/
theorem dependency_scheduling_exact (calls : List Call) :
    (∀ t task, (Store.empty.after calls).tasks.lookup t = some task →
      (task.state ≠ .blocked → task.state ≠ .cancelled →
        ∀ p, (Store.empty.after calls).DependsOn t p → (Store.empty.after calls).Completed p) ∧
      (task.state = .blocked →
        ∃ p, (Store.empty.after calls).DependsOn t p ∧ ¬ (Store.empty.after calls).Completed p)) ∧
    (∀ batch, (∀ x ∈ (Store.empty.after calls).members batch,
        x.2.state ≠ .suspended ∧ x.2.state ≠ .cancelled) →
      (∃ x ∈ (Store.empty.after calls).members batch, x.2.state ≠ .completed) →
      ∃ x ∈ (Store.empty.after calls).members batch, x.2.state.live = true) ∧
    (∀ (env : Env) (tasks : List TaskSpec), Submittable env (Store.empty.after calls) tasks →
      (Commits Op.exec (Store.empty.after calls) (env, .submitBatch tasks) ↔
        ∀ t, ¬ Relation.TransGen (DependsIn (assignIds env.uuid 1 tasks) tasks) t t) ∧
      (Commits Op.exec (Store.empty.after calls) (env, .submitBatch tasks) → ∀ t p,
        (((Store.empty.after calls).call (env, .submitBatch tasks)).DependsOn t p ↔
          (Store.empty.after calls).DependsOn t p ∨
            DependsIn (assignIds env.uuid 1 tasks) tasks t p))) := by
  have hs := Store.after_sound calls
  refine ⟨fun t task ht => ⟨fun hb hc p hdep => ?_, fun hb => ?_⟩, fun batch => members_progress hs,
    fun env tasks h => ⟨submitBatch_commits_iff hs h, fun hc t p => submitBatch_dependsOn hs h hc⟩⟩
  · exact completed_of_board (hs.ordered.released t _ p (Table.view_of_lookup ht) hb hc hdep)
  · obtain ⟨p, hdep, hnot⟩ := hs.ordered.blocked t _ (Table.view_of_lookup ht) hb
    exact ⟨p, hdep, fun hdone => hnot (completed_board hdone)⟩

namespace Deployment

/-- A partition is declared. -/
def declared : List Call := [(moment 1 "p", .upsertPartition general)]

/-- Two tasks, the second of which waits for the first. -/
def chain : List TaskSpec :=
  [writer, { writer with name := "next", taskId := some "next", dependencies := ["edit"] }]

end Deployment

open Deployment in
/-- The two tasks can be submitted, and since their dependencies are acyclic they are. The second
    then depends on the first. -/
theorem dependency_scheduling_exact_chain :
    Submittable (moment 2 "b") (Store.empty.after declared) chain ∧
      Commits Op.exec (Store.empty.after declared) (moment 2 "b", .submitBatch chain) ∧
      (∀ t, ¬ Relation.TransGen (DependsIn (assignIds (moment 2 "b").uuid 1 chain) chain) t t) ∧
      ((Store.empty.after declared).call (moment 2 "b", .submitBatch chain)).DependsOn
        "next" "edit" := by
  have hsub : Submittable (moment 2 "b") (Store.empty.after declared) chain := by
    constructor <;> decide +kernel
  have hcommits : Commits Op.exec (Store.empty.after declared) (moment 2 "b", .submitBatch chain) := by
    decide +kernel
  obtain ⟨haccept, hstored⟩ := (dependency_scheduling_exact declared).2.2 _ _ hsub
  refine ⟨hsub, hcommits, haccept.mp hcommits, (hstored hcommits _ _).mpr (.inr ?_)⟩
  exact ⟨_, List.mem_cons_of_mem _ List.mem_cons_self, rfl, "edit", List.mem_cons_self, rfl⟩

open Deployment in
/-- A task that may never be attempted is rejected although its batch has no dependency at all. -/
theorem attemptless_task_rejected :
    let tasks := [{ writer with retryPolicy := { RetryPolicy.default with maxAttempts := 0 } }]
    (∀ t, ¬ Relation.TransGen (DependsIn (assignIds (moment 2 "b").uuid 1 tasks) tasks) t t) ∧
      ¬ Commits Op.exec (Store.empty.after declared) (moment 2 "b", .submitBatch tasks) := by
  intro tasks
  refine ⟨fun t hcycle => ?_, by decide +kernel⟩
  obtain ⟨p, ⟨spec, hspec, -, dep, hdep, -⟩, -⟩ := Relation.TransGen.head'_iff.mp hcycle
  obtain rfl := List.mem_singleton.mp hspec
  cases hdep

end Agentype

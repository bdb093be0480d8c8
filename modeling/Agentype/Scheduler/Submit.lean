import Agentype.Scheduler.Grant

/-!
# `Agentype.Scheduler.Submit` — new batches

A committed submission adds its tasks and their dependencies to the board, all in one batch of
their own, and what it adds has no cycle.

## Contents
- `Assigned ids tasks`: each task of the batch has one identity.
- `dependencyGraph_lookup`, `dependencyGraph_keys`: the dependency map, entry by entry.
- `assertAcyclic_ok_iff`: the cycle check accepts exactly the acyclic maps.
- `submitTasks_board`, `insertDependencies_board`: the two loops.
- `submitBatch_step`, `admitProposal_steps`.
-/

namespace Agentype

open Relational Tx Store Board

variable {env : Env} {s s' s₁ s₂ : Store}
variable {spec : TaskSpec} {tasks : List TaskSpec} {ids : List (String × TaskId)} {t p id : TaskId}
  {graph : AList fun _ : TaskId => List TaskId} {u : PUnit}

/-! ## Identities -/

/-- Each task of the batch has an identity, in the order of the tasks. -/
def Assigned (ids : List (String × TaskId)) (tasks : List TaskSpec) : Prop :=
  ids.map Prod.fst = tasks.map TaskSpec.name

theorem assignId_runs {r : String × TaskId} (h : Runs env spec.assignId s r s') :
    r.1 = spec.name ∧ s'.board = s.board := by
  unfold TaskSpec.assignId at h
  split at h
  · obtain ⟨rfl, rfl⟩ := h.pure
    exact ⟨rfl, rfl⟩
  · obtain ⟨id, s₁, h₁, h⟩ := h.bind
    obtain ⟨rfl, rfl⟩ := h.pure
    exact ⟨rfl, board_frame h₁ rfl⟩

theorem assignIds_runs (h : Runs env (tasks.mapM TaskSpec.assignId) s ids s') :
    Assigned ids tasks ∧ s'.board = s.board := by
  induction tasks generalizing s ids with
  | nil =>
    rw [List.mapM_nil] at h
    obtain ⟨rfl, rfl⟩ := h.pure
    exact ⟨rfl, rfl⟩
  | cons spec tasks ih =>
    rw [List.mapM_cons] at h
    obtain ⟨id, s₁, h₁, h⟩ := h.bind
    obtain ⟨rest, s₂, h₂, h⟩ := h.bind
    obtain ⟨rfl, rfl⟩ := h.pure
    obtain ⟨hname, hb₁⟩ := assignId_runs h₁
    obtain ⟨hrest, hb₂⟩ := ih h₂
    refine ⟨?_, hb₂.trans hb₁⟩
    unfold Assigned at hrest ⊢
    rw [List.map_cons, List.map_cons, hname, hrest]

/-- With distinct names, the identities of the batch are those the names look up. -/
theorem Assigned.lookup_iff (h : Assigned ids tasks) (hnodup : (tasks.map TaskSpec.name).Nodup) :
    (∃ spec ∈ tasks, ids.lookup spec.name = some t) ↔ t ∈ ids.map Prod.snd := by
  have hkeys : (ids.map Prod.fst).Nodup := by rwa [h]
  constructor
  · rintro ⟨spec, -, hlookup⟩
    obtain ⟨l₁, l₂, hsplit, -⟩ := List.lookup_eq_some_iff.mp hlookup
    exact List.mem_map.mpr ⟨(spec.name, t), by rw [hsplit]; simp, rfl⟩
  · intro ht
    obtain ⟨⟨name, t'⟩, hmem, rfl⟩ := List.mem_map.mp ht
    have hname : name ∈ tasks.map TaskSpec.name := by
      rw [← h]
      exact List.mem_map.mpr ⟨_, hmem, rfl⟩
    obtain ⟨spec, hspec, rfl⟩ := List.mem_map.mp hname
    refine ⟨spec, hspec, ?_⟩
    obtain ⟨l₁, l₂, hsplit⟩ := List.append_of_mem hmem
    refine List.lookup_eq_some_iff.mpr ⟨l₁, l₂, hsplit, fun p hp => ?_⟩
    rw [hsplit, List.map_append, List.map_cons] at hkeys
    have hdisj := List.disjoint_of_nodup_append hkeys (List.mem_map.mpr ⟨p, hp, rfl⟩)
    refine bne_iff_ne.mpr fun heq => hdisj ?_
    rw [← heq]
    exact List.mem_cons_self

/-! ## The dependency map -/

theorem resolveDependency_mem {dep : String} (h : resolveDependency ids dep = some p) :
    p ∈ ids.map Prod.snd := by
  unfold resolveDependency at h
  split at h
  · rename_i id hlookup
    obtain rfl := Option.some.inj h
    obtain ⟨l₁, l₂, hsplit, -⟩ := List.lookup_eq_some_iff.mp hlookup
    exact List.mem_map.mpr ⟨(dep, id), by rw [hsplit]; simp, rfl⟩
  · split at h
    · rename_i hany
      obtain rfl := Option.some.inj h
      obtain ⟨x, hx, hxd⟩ := List.any_eq_true.mp hany
      exact List.mem_map.mpr ⟨x, hx, of_decide_eq_true hxd⟩
    · cases h

theorem resolveDependencies_mem {deps : List TaskId} (h : resolveDependencies ids spec = .ok deps)
    (hp : p ∈ deps) : p ∈ ids.map Prod.snd := by
  obtain ⟨dep, -, hdep⟩ := Check.mem_of_mapM_ok h hp
  exact resolveDependency_mem (orError_ok.mp hdep)

theorem addDependencies_ok {graph₀ : AList fun _ : TaskId => List TaskId} :
    addDependencies ids graph₀ spec = .ok graph ↔ ∃ t deps, ids.lookup spec.name = some t ∧
      resolveDependencies ids spec = .ok deps ∧ graph = graph₀.insert t deps := by
  unfold addDependencies
  simp only [Check.bind_ok, orError_ok]
  constructor
  · rintro ⟨t, ht, deps, hdeps, heq⟩
    exact ⟨t, deps, ht, hdeps, (Except.ok.inj heq).symm⟩
  · rintro ⟨t, deps, ht, hdeps, rfl⟩
    exact ⟨t, ht, deps, hdeps, rfl⟩

/-- The dependency map `graph` extends `graph₀` by an entry for each task of `tasks`, and by no
    other. -/
structure Extends (ids : List (String × TaskId)) (tasks : List TaskSpec)
    (graph₀ graph : AList fun _ : TaskId => List TaskId) : Prop where
  entry : ∀ t deps, graph.lookup t = some deps → graph₀.lookup t = some deps ∨
    ∃ spec ∈ tasks, ids.lookup spec.name = some t ∧ resolveDependencies ids spec = .ok deps
  keep : ∀ t ∈ graph₀, t ∈ graph
  all : ∀ spec ∈ tasks, ∃ t ∈ graph, ids.lookup spec.name = some t

theorem foldlM_extends {graph₀ : AList fun _ : TaskId => List TaskId}
    (h : tasks.foldlM (addDependencies ids) graph₀ = .ok graph) :
    Extends ids tasks graph₀ graph := by
  induction tasks generalizing graph₀ with
  | nil =>
    obtain rfl := Except.ok.inj h
    exact ⟨fun _ _ hl => .inl hl, fun _ ht => ht, fun _ hspec => by cases hspec⟩
  | cons spec tasks ih =>
    rw [List.foldlM_cons] at h
    obtain ⟨graph₁, h₁, h⟩ := Check.bind_ok.mp h
    obtain ⟨id, resolved, hid, hres, rfl⟩ := addDependencies_ok.mp h₁
    obtain ⟨hentry, hkeep, hall⟩ := ih h
    refine ⟨fun t deps hl => ?_, fun t ht => ?_, fun spec' hspec' => ?_⟩
    · rcases hentry t deps hl with hold | ⟨spec', hspec', hrest⟩
      · by_cases hte : t = id
        · subst hte
          rw [AList.lookup_insert] at hold
          obtain rfl := Option.some.inj hold
          exact .inr ⟨spec, List.mem_cons_self, hid, hres⟩
        · rw [AList.lookup_insert_ne hte] at hold
          exact .inl hold
      · exact .inr ⟨spec', List.mem_cons_of_mem _ hspec', hrest⟩
    · exact hkeep t ((AList.mem_insert _).mpr (.inr ht))
    · rcases List.mem_cons.mp hspec' with rfl | hspec'
      · exact ⟨id, hkeep id ((AList.mem_insert _).mpr (.inl rfl)), hid⟩
      · exact hall spec' hspec'

theorem dependencyGraph_extends (h : dependencyGraph ids tasks = .ok graph) :
    Extends ids tasks ∅ graph :=
  foldlM_extends h

theorem mem_successors :
    p ∈ successors graph t ↔ ∃ deps, graph.lookup t = some deps ∧ p ∈ deps := by
  unfold successors
  cases graph.lookup t <;> simp

@[simp] theorem successors_empty (t : TaskId) : successors ∅ t = [] := rfl

/-- The identities of the tasks of a batch. -/
def batchIds (ids : List (String × TaskId)) (tasks : List TaskSpec) : List TaskId :=
  tasks.filterMap fun spec => ids.lookup spec.name

theorem mem_batchIds : t ∈ batchIds ids tasks ↔ ∃ spec ∈ tasks, ids.lookup spec.name = some t :=
  List.mem_filterMap

/-- The nodes of the dependency map are the tasks of the batch. -/
theorem mem_dependencyGraph (h : dependencyGraph ids tasks = .ok graph) :
    t ∈ graph ↔ t ∈ batchIds ids tasks := by
  have hext := dependencyGraph_extends h
  rw [mem_batchIds]
  constructor
  · intro ht
    obtain ⟨deps, hdeps⟩ := Option.isSome_iff_exists.mp (AList.lookup_isSome.mpr ht)
    rcases hext.entry t deps hdeps with hold | ⟨spec, hspec, hid, -⟩
    · cases hold
    · exact ⟨spec, hspec, hid⟩
  · rintro ⟨spec, hspec, hid⟩
    obtain ⟨t', ht', hid'⟩ := hext.all spec hspec
    rw [hid] at hid'
    rwa [Option.some.inj hid']

/-- Dependencies stay within the batch. -/
theorem successors_batchIds (hids : Assigned ids tasks) (hnodup : (tasks.map TaskSpec.name).Nodup)
    (h : dependencyGraph ids tasks = .ok graph) (hp : p ∈ successors graph t) :
    t ∈ batchIds ids tasks ∧ p ∈ batchIds ids tasks := by
  obtain ⟨deps, hdeps, hmem⟩ := mem_successors.mp hp
  rcases (dependencyGraph_extends h).entry t deps hdeps with hold | ⟨spec, hspec, hid, hres⟩
  · cases hold
  · refine ⟨mem_batchIds.mpr ⟨spec, hspec, hid⟩, mem_batchIds.mpr ?_⟩
    exact (hids.lookup_iff hnodup).mpr (resolveDependencies_mem hres hmem)

/-- **The cycle check accepts exactly the acyclic maps**, in whichever order the keys come. -/
theorem assertAcyclic_ok_iff {keys : List TaskId}
    (hclosed : ∀ t, ∀ p ∈ successors graph t, t ∈ keys ∧ p ∈ keys) :
    assertAcyclic graph keys = .ok () ↔
      ∀ t, ¬ Relation.TransGen (fun t p => p ∈ successors graph t) t t := by
  rw [← Dfs.search_isSome_iff hclosed]
  unfold assertAcyclic
  cases Dfs.search (successors graph) keys <;> simp

/-! ## The rows of a batch -/

/-- The new tasks of a batch: queued without dependencies, blocked otherwise. -/
def newTasks (batch : BatchId) (graph : AList fun _ : TaskId => List TaskId) (keys : List TaskId)
    (t : TaskId) : Option TaskView :=
  if t ∈ keys then
    some ⟨batch, if (successors graph t).isEmpty then .queued else .blocked, none, 0⟩
  else none

theorem insertTask_board {batch : BatchId} {st : TaskState} {mode : AgentRequirementMode} {u : Unit}
    (h : Runs env (insertTask id spec batch st mode) s u s') :
    s.board.task id = none ∧ s'.board = s.board.withTasks
      (Function.update s.board.task id (some ⟨batch, st, none, 0⟩)) := by
  unfold insertTask at h
  obtain ⟨-, h⟩ := h.ask_bind.query_bind.require_bind
  obtain ⟨t', ht', rfl⟩ := h.insertInto
  obtain ⟨hnone, hview⟩ := Table.view_of_insert (f := TaskRow.view) ht'
  refine ⟨hnone, ?_⟩
  show s.board.withTasks (t'.view TaskRow.view) = _
  rw [hview]
  rfl

/-- **The loop over the tasks.** Each task is new, so no identity comes twice. -/
theorem submitTasks_board {batch : BatchId}
    (h : Runs env (tasks.forM (submitTask batch ids graph)) s u s') :
    (∀ t ∈ batchIds ids tasks, s.board.task t = none) ∧
      s'.board = s.board.withTasks fun t =>
        (newTasks batch graph (batchIds ids tasks) t).or (s.board.task t) := by
  induction tasks generalizing s with
  | nil =>
    obtain ⟨-, rfl⟩ := h.pure
    exact ⟨fun _ ht => (List.not_mem_nil ht).elim, rfl⟩
  | cons spec tasks ih =>
    obtain ⟨_, s₁, h₁, h₂⟩ := h.bind
    unfold submitTask at h₁
    obtain ⟨prow, -, h₁⟩ := h₁.fetch_bind
    obtain ⟨id, hid, h₁⟩ := h₁.orFail_bind
    obtain ⟨hnone, hb₁⟩ := insertTask_board h₁
    obtain ⟨hfresh, hb₂⟩ := ih h₂
    have hids : batchIds ids (spec :: tasks) = id :: batchIds ids tasks :=
      List.filterMap_cons_some hid
    -- the identity just inserted is taken, so the rest of the batch cannot use it again
    have hnew : id ∉ batchIds ids tasks := by
      intro hmem
      have hlater := hfresh id hmem
      rw [hb₁] at hlater
      simp [withTasks] at hlater
    rw [hids]
    refine ⟨fun t ht => ?_, ?_⟩
    · rcases List.mem_cons.mp ht with rfl | ht
      · exact hnone
      · have hlater := hfresh t ht
        rw [hb₁] at hlater
        simpa [withTasks, Function.update_of_ne (ne_of_mem_of_not_mem ht hnew)] using hlater
    · rw [hb₂, hb₁]
      refine congrArg s.board.withTasks (funext fun t => ?_)
      by_cases hte : t = id
      · subst hte
        simp [newTasks, hnew, withTasks]
      · simp [newTasks, hte, withTasks]

theorem insertDependency_board {u : Unit} (h : Runs env (insertDependency t p) s u s') :
    s'.board = s.board.withDepends fun t' p' => s.board.depends t' p' ∨ t' = t ∧ p' = p := by
  obtain ⟨t', ht', rfl⟩ := h.insertInto
  obtain ⟨-, hl⟩ := Table.lookup_of_insert ht'
  show s.board.withDepends (fun t₁ p₁ => (t'.lookup (t₁, p₁)).isSome = true) = _
  refine congrArg s.board.withDepends (funext fun t₁ => funext fun p₁ => propext ?_)
  rw [hl (t₁, p₁)]
  split
  · rename_i heq
    cases heq
    simp
  · rename_i hne
    have hpair : ¬ (t₁ = t ∧ p₁ = p) := fun hboth => hne (by rw [hboth.1, hboth.2])
    exact ⟨.inl, fun hor => hor.resolve_right hpair⟩

/-- A loop of statements that each add edges adds all of them. -/
theorem forM_depends {γ : Type} {f : γ → KernelTx PUnit} {D : γ → TaskId → TaskId → Prop}
    (hf : ∀ (x : γ) (s s' : Store) (u : PUnit), Runs env (f x) s u s' →
      s'.board = s.board.withDepends fun t p => s.board.depends t p ∨ D x t p) {xs : List γ}
    (h : Runs env (xs.forM f) s u s') :
    s'.board = s.board.withDepends fun t p => s.board.depends t p ∨ ∃ x ∈ xs, D x t p := by
  induction xs generalizing s with
  | nil =>
    obtain ⟨-, rfl⟩ := h.pure
    simp [withDepends]
  | cons x xs ih =>
    obtain ⟨_, s₁, h₁, h₂⟩ := h.bind
    rw [ih h₂, hf x s s₁ _ h₁]
    simp [withDepends, or_assoc]

/-- **The loop over the dependencies.** -/
theorem insertDependencies_board {keys : List TaskId}
    (h : Runs env (keys.forM fun t => (successors graph t).forM (insertDependency t)) s u s') :
    s'.board = s.board.withDepends fun t p =>
      s.board.depends t p ∨ t ∈ keys ∧ p ∈ successors graph t := by
  have hall := forM_depends (D := fun t t' p' => ∃ p ∈ successors graph t, t' = t ∧ p' = p)
    (fun t s s' u h => forM_depends (fun p s s' u h => insertDependency_board h) h) h
  rw [hall]
  refine congrArg s.board.withDepends (funext fun t => funext fun p => propext ?_)
  grind

/-! ## Submission -/

/-- New tasks with acyclic dependencies among themselves are a submission of the machine. -/
theorem submission_of_graph (b : Board) (batch : BatchId) (keys : List TaskId)
    (graph : AList fun _ : TaskId => List TaskId) (hfresh : ∀ t ∈ keys, b.task t = none)
    (hlocal : ∀ t, ∀ p ∈ successors graph t, t ∈ keys ∧ p ∈ keys)
    (hacyclic : ∀ t, ¬ Relation.TransGen (fun t p => p ∈ successors graph t) t t) :
    Submission b (newTasks batch graph keys) fun t p => p ∈ successors graph t := by
  have hnew : ∀ t v, newTasks batch graph keys t = some v → t ∈ keys ∧
      ⟨batch, if (successors graph t).isEmpty then .queued else .blocked, none, 0⟩ = v := by
    intro t v hv
    unfold newTasks at hv
    split at hv
    · rename_i hmem
      exact ⟨hmem, Option.some.inj hv⟩
    · cases hv
  refine ⟨fun t v hv => hfresh t (hnew t v hv).1, fun t v hv => ?_, fun t v hv => ?_,
    fun t p hp => ?_, hacyclic⟩
  · rw [← (hnew t v hv).2]
  · rw [← (hnew t v hv).2]
    cases hdeps : successors graph t with
    | nil => exact .inl ⟨rfl, fun p hp => by cases hp⟩
    | cons p rest => exact .inr ⟨rfl, p, List.mem_cons_self⟩
  · obtain ⟨ht, hp⟩ := hlocal t p hp
    exact ⟨_, _, if_pos ht, if_pos hp, rfl⟩

/-- **Submission.** A committed batch is one step of the machine. -/
theorem submitBatch_step {r : BatchId × List (String × TaskId)}
    (h : Runs env (submitBatch tasks) s r s') : Step s.board s'.board := by
  unfold submitBatch at h
  obtain ⟨_, h⟩ := h.require_bind
  obtain ⟨hnodup, h⟩ := h.require_bind
  obtain ⟨batch, s₁, h₁, h⟩ := h.ask_bind.bind
  obtain ⟨bt, -, h⟩ := h.insertInto_bind
  obtain ⟨ids, s₂, h₂, h⟩ := h.bind
  obtain ⟨graph, hgraph, h⟩ := h.examine_bind
  obtain ⟨_, hacyclic, h⟩ := h.examine_bind
  obtain ⟨_, s₃, h₃, h⟩ := h.bind
  obtain ⟨_, s₄, h₄, h⟩ := h.bind
  obtain ⟨-, rfl⟩ := h.pure
  obtain ⟨hids, hb₂⟩ := assignIds_runs h₂
  have hb₁ : s₁.board = s.board := board_frame h₁ rfl
  have hb : s₂.board = s.board := hb₂.trans hb₁
  obtain ⟨hfresh, hb₃⟩ := submitTasks_board h₃
  have hb₄ := insertDependencies_board h₄
  have hlocal := fun t p (hp : p ∈ successors graph t) =>
    successors_batchIds hids (of_decide_eq_true hnodup) hgraph hp
  have hkeys : ∀ t, t ∈ env.hashOrder graph.keys ↔ t ∈ batchIds ids tasks := fun t => by
    rw [(env.hashOrder_perm _).mem_iff, ← AList.mem_keys, mem_dependencyGraph hgraph]
  have hac := (assertAcyclic_ok_iff fun t p hp =>
    ⟨(hkeys t).mpr (hlocal t p hp).1, (hkeys p).mpr (hlocal t p hp).2⟩).mp hacyclic
  rw [hb] at hfresh hb₃
  have hstep := Step.submit (submission_of_graph s.board batch _ graph hfresh hlocal hac)
  convert hstep using 1
  rw [hb₄, hb₃]
  refine congrArg (Board.withDepends _) (funext fun t => funext fun p => propext ?_)
  rw [hkeys]
  exact or_congr_right (and_iff_right_of_imp fun hp => (hlocal t p hp).1)

/-- An admitted task is a submission of one task without dependencies. -/
theorem admitTask_step {draft : Option (Except Error AgentTypeRef)}
    (h : Runs env (admitTask spec draft) s id s') : Step s.board s'.board := by
  unfold admitTask at h
  obtain ⟨_, h⟩ := h.require_bind
  obtain ⟨prow, -, h⟩ := h.fetch_bind
  obtain ⟨named, s₁, h₁, h⟩ := h.bind
  obtain ⟨batch, s₂, h₂, h⟩ := h.bind
  obtain ⟨bt, -, h⟩ := h.insertInto_bind
  obtain ⟨_, s₃, h₃, h⟩ := h.bind
  obtain ⟨_, s₄, h₄, h⟩ := h.bind
  obtain ⟨-, rfl⟩ := h.pure
  have hb : (batchesT.set s₂ bt).board = s.board := (board_frame h₂ rfl).trans (assignId_runs h₁).2
  obtain ⟨hnone, hb₃⟩ := insertTask_board h₃
  have hb₄ := board_frame h₄ rfl
  rw [hb] at hnone hb₃
  have hstep := Step.submit (submission_of_graph s.board batch [named.2] ∅
    (fun t ht => by rwa [List.mem_singleton.mp ht]) (fun t p hp => by cases hp) fun t hc => ?_)
  · convert hstep using 1
    rw [hb₄, hb₃]
    refine Board.ext (funext fun t => ?_) rfl rfl rfl rfl rfl (by simp [withTasks])
    show Function.update s.board.task named.2 _ t = _
    rw [Function.update_apply]
    split <;> simp [newTasks, *]
  · cases hc <;> contradiction

theorem admitProposal_steps {verdict : Except Error (Option TaskId)}
    {draft : Option (Except Error AgentTypeRef)}
    (h : Runs env (admitProposal verdict spec draft) s id s') : Steps s.board s'.board := by
  unfold admitProposal at h
  obtain ⟨replayed, -, h⟩ := h.examine_bind
  cases replayed with
  | some id =>
    obtain ⟨-, rfl⟩ := h.pure
    exact .refl
  | none => exact .single (admitTask_step h)

end Agentype

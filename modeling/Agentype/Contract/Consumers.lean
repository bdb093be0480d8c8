import Agentype.Kernel.Fresh
import Agentype.Physical.Course

/-!
# `Agentype.Contract.Consumers` — consumers for queued tasks

`ensure_task_consumers` births an agent for every claimable task that no ready agent can take. The
newborn is made for its task: it stands in the task's partition, carries the required tags and inherits
the workstream. It can take the task unless the placement gate asks for a workstream the task does not
have: a task that requires continuity and names no workstream has no consumer, neither before nor after
the birth, so every further call births another agent.

## Contents
- `Store.Served`: a task that awaits a consumer has one.
- `ensureConsumer_cases`: nothing, or one newborn; `ensureTaskConsumers_provides`: the loop.
- `claimNextAvailable_ensures`: with a consumer ready, an eligible task is claimed.
- `task_consumers_iff`.
-/

namespace Agentype

open Relational Tx Store

variable {env : Env} {s s' s₁ : Store}
variable {t task : TaskRow} {id : TaskId} {g : LogicalAgentId} {u : Unit}

/-! ## Demand and service -/

/-- Claim selection finds a consumer among the ready agents of the task's partition. -/
def Store.Served (s : Store) (t : TaskRow) : Prop :=
  (selectClaimAgent (s.readyAgents t.partition) t.intent).isSome = true

/-- A task is served by its consumers. -/
theorem served_iff : s.Served t ↔ ∃ g a, s.Consumer t g a := by
  unfold Store.Served
  rw [selectClaimAgent_isSome]
  constructor
  · rintro ⟨x, hx⟩
    obtain ⟨a, ha, -⟩ := mem_readyAgents.mp hx
    exact ⟨x.id, a, ha⟩
  · rintro ⟨g, a, ha⟩
    exact ⟨s.claimAgentSnapshot g a, mem_readyAgents.mpr ⟨a, ha, rfl⟩⟩

/-- Every recorded type is the type of an agent. -/
def Store.Rooted (s : Store) : Prop := ∀ g, (s.logicalAgentTypeBindings.lookup g).isSome = true →
  (s.logicalAgents.lookup g).isSome = true

theorem bindLogicalAgentType_rows {ref : AgentTypeRef} {verdict : Except Error Unit}
    (h : Runs env (bindLogicalAgentType g ref verdict) s u s') :
    (s.logicalAgents.lookup g).isSome = true ∧ ∀ k, k ≠ g →
      s'.logicalAgentTypeBindings.lookup k = s.logicalAgentTypeBindings.lookup k := by
  unfold bindLogicalAgentType at h
  obtain ⟨agent, hagent, h⟩ := h.fetch_bind
  obtain ⟨-, h⟩ := h.require_bind
  obtain ⟨-, h⟩ := h.require_bind
  obtain ⟨-, -, h⟩ := h.examine_bind
  obtain ⟨_, s₁, hu, h⟩ := h.bind
  have hrows : s₁.logicalAgentTypeBindings = s.logicalAgentTypeBindings :=
    frame hu .logicalAgentTypeBindings rfl
  obtain ⟨t', ht', rfl⟩ := h.insertInto
  refine ⟨by rw [hagent]; rfl, fun k hk => ?_⟩
  show t'.lookup k = _
  rw [(Table.lookup_of_insert ht').2, if_neg hk, ← hrows]
  rfl

theorem lookup_persists (h : Steps s.board s'.board)
    (hg : (s.logicalAgents.lookup g).isSome = true) :
    (s'.logicalAgents.lookup g).isSome = true := by
  have hkept : (s'.board.agent g).isSome = true :=
    agent_persists h (by simpa [Store.board, Table.view] using hg)
  simpa [Store.board, Table.view] using hkept

theorem Store.Rooted.exec {op : Op} (hr : s.Rooted) (hs : s.board.Sound)
    (h : Runs env op.exec s () s') : s'.Rooted := by
  have hsteps := exec_refines op hs h
  have hkeep : s'.logicalAgentTypeBindings = s.logicalAgentTypeBindings → s'.Rooted := by
    intro hsame g hg
    rw [hsame] at hg
    exact lookup_persists hsteps (hr g hg)
  cases op with
  | bindLogicalAgentType g ref verdict =>
    obtain ⟨hagent, hother⟩ := bindLogicalAgentType_rows h
    intro k hk
    by_cases hkg : k = g
    · rw [hkg]
      exact lookup_persists hsteps hagent
    · rw [hother k hkg] at hk
      exact lookup_persists hsteps (hr k hk)
  | acquireTypedTaskNewAgent =>
    obtain ⟨c, h⟩ := runs_of_effect h
    obtain ⟨_, _, _, _, g, s₁, s₂, hbirth, hbind, h⟩ := acquireTypedTaskNewAgent_runs h
    obtain ⟨hagent, hother⟩ := bindLogicalAgentType_rows hbind
    have hsteps₁ : Steps s₁.board s'.board := by
      rw [← show s₂.board = s₁.board from hbind.respects bindLogicalAgentType_invisible]
      exact .single (finishAcquisition_step h)
    have hrows : s'.logicalAgentTypeBindings = s₂.logicalAgentTypeBindings :=
      frame h .logicalAgentTypeBindings rfl
    have hrows₁ : s₁.logicalAgentTypeBindings = s.logicalAgentTypeBindings :=
      frame hbirth .logicalAgentTypeBindings rfl
    intro k hk
    by_cases hkg : k = g
    · rw [hkg]
      exact lookup_persists hsteps₁ hagent
    · rw [hrows, hother k hkg, hrows₁] at hk
      exact lookup_persists hsteps (hr k hk)
  | acquireTypedTaskExisting =>
    obtain ⟨c, h⟩ := runs_of_effect h
    exact hkeep (frame h .logicalAgentTypeBindings rfl)
  | _ =>
    exact hkeep (frame h .logicalAgentTypeBindings (by simp [Op.footprint, settlementTables,
      suspensionTables, resolutionTables]))

/-- The row of an agent at its birth. -/
structure Newborn (a : AgentRow) : Prop where
  ready : a.state = .ready
  idle : a.currentTaskId = none
  unbound : a.agentTypeBindingMode = .unbound

theorem mem_mergeTags {required : List String} :
    ∀ {tags : List String} {x : String}, x ∈ tags ∨ x ∈ required → x ∈ mergeTags tags required := by
  induction required with
  | nil =>
    intro tags x h
    simpa [mergeTags] using h
  | cons y ys ih =>
    intro tags x h
    show x ∈ mergeTags (if tags.contains y then tags else tags ++ [y]) ys
    apply ih
    split
    · rename_i hy
      rcases h with h | h
      · exact .inl h
      · rcases List.mem_cons.mp h with rfl | h
        · exact .inl (List.contains_iff_mem.mp hy)
        · exact .inr h
    · rcases h with h | h
      · exact .inl (List.mem_append_left _ h)
      · rcases List.mem_cons.mp h with rfl | h
        · exact .inl (List.mem_append_right _ List.mem_cons_self)
        · exact .inr h

/-- **A birth** is one insertion: a ready, idle, unbound agent of the partition and the workstream,
    with the tags it was given. -/
theorem birthAgent_inserts {p : PartitionId} {w : Option WorkstreamId} {tags : List String}
    (h : Runs env (birthAgent p w (some tags)) s g s') :
    ∃ a t', s.logicalAgents.insert g a = some t' ∧ s' = logicalAgentsT.set s t' ∧ Newborn a ∧
      a.partition = p ∧ a.workstreamId = w ∧ a.tags = tags := by
  unfold birthAgent at h
  obtain ⟨partition, -, h⟩ := h.ask_bind.fetch_bind
  obtain ⟨n, h⟩ := newId_bind h
  obtain ⟨continuity, s₁, hc, hinsert⟩ := h.bind
  have hread : s₁ = s := by
    unfold inheritedContinuity at hc
    split at hc
    · obtain ⟨_, -, hc⟩ := hc.fetch_bind
      exact hc.pure.2
    · exact hc.pure.2
  subst hread
  obtain ⟨t', ht', h⟩ := hinsert.insertInto_bind
  obtain ⟨rfl, rfl⟩ := h.pure
  exact ⟨_, t', ht', rfl, ⟨rfl, rfl, rfl⟩, rfl, rfl, rfl⟩

/-- The agents of a store after births: the old rows are there, and nothing else changed. -/
structure Grows (s s' : Store) : Prop where
  kept : ∀ g a, s.logicalAgents.lookup g = some a → s'.logicalAgents.lookup g = some a
  rest : s' = logicalAgentsT.set s s'.logicalAgents

namespace Grows

theorem refl (s : Store) : Grows s s := ⟨fun _ _ ha => ha, rfl⟩

theorem trans (h : Grows s s₁) (h' : Grows s₁ s') : Grows s s' where
  kept g a ha := h'.kept g a (h.kept g a ha)
  rest := by
    rw [h'.rest, h.rest]
    rfl

theorem insert {a : AgentRow} {t' : Table agentSchema}
    (ht' : s.logicalAgents.insert g a = some t') : Grows s (logicalAgentsT.set s t') :=
  ⟨fun _ _ ha => Table.lookup_of_insert_some ht' ha, rfl⟩

/-- A served task stays served: births take no consumer away. -/
theorem served (h : Grows s s') (ht : s.Served t) : s'.Served t := by
  obtain ⟨g, a, ha⟩ := served_iff.mp ht
  refine served_iff.mpr ⟨g, a, { ha with row := h.kept g a ha.row, untyped := ?_ }⟩
  rw [h.rest]
  exact ha.untyped

theorem isTyped (h : Grows s s') (id : TaskId) (t : TaskRow) : s'.isTyped id t = s.isTyped id t := by
  rw [h.rest]
  rfl

end Grows

/-- **The newborn takes its task**, if continuity is about a workstream. -/
theorem newborn_serves {a : AgentRow} {t' : Table agentSchema} {tags : List String} (hs : s.Rooted)
    (ht' : s.logicalAgents.insert g a = some t') (hborn : Newborn a)
    (hp : a.partition = t.partition) (hw : a.workstreamId = t.workstreamId)
    (htags : a.tags = mergeTags tags t.affinityTags)
    (hplace : t.continuity = .required → t.workstreamId.isSome = true) :
    (logicalAgentsT.set s t').Served t := by
  obtain ⟨hnone, hlookup⟩ := Table.lookup_of_insert ht'
  -- no type was ever recorded under an identifier that names no agent
  have hfree : s.logicalAgentTypeBindings.lookup g = none := by
    by_contra hsome
    have hagent := hs g (Option.isSome_iff_ne_none.mpr hsome)
    rw [hnone] at hagent
    cases hagent
  refine served_iff.mpr ⟨g, a, ?_, hborn.ready, hborn.idle, ?_, hp, ?_, ?_⟩
  · show t'.lookup g = _
    rw [hlookup, if_pos rfl]
  · show (decide _ || (s.logicalAgentTypeBindings.lookup g).isSome) = false
    rw [hborn.unbound, hfree]
    rfl
  · intro x hx
    rw [htags]
    exact mem_mergeTags (.inr hx)
  · exact fun hreq => ⟨hplace hreq, hw.symm⟩

/-! ## The loop -/

/-- How many agents there are. -/
def Store.agentCount (s : Store) : Nat := s.logicalAgents.count fun _ _ => true

/-- **One visit** leaves a served or typed task alone, and births one agent for any other. -/
theorem ensureConsumer_cases {x : TaskId × TaskRow × PartitionRow}
    (h : Runs env (ensureConsumer x) s u s') :
    (s' = s ∧ (s.isTyped x.1 x.2.1 = true ∨ s.Served x.2.1)) ∨
    (s.isTyped x.1 x.2.1 = false ∧ ∃ g a t', s.logicalAgents.insert g a = some t' ∧
      s' = logicalAgentsT.set s t' ∧ Newborn a ∧ a.partition = x.2.1.partition ∧
      a.workstreamId = x.2.1.workstreamId ∧ a.tags = mergeTags x.2.2.tags x.2.1.affinityTags) := by
  unfold ensureConsumer at h
  have h := h.query_bind.query_bind
  rcases h.whenever with ⟨hc, h⟩ | ⟨hc, rfl⟩
  · obtain ⟨g, s₁, hbirth, h⟩ := h.bind
    obtain ⟨-, rfl⟩ := h.pure
    simp only [Bool.and_eq_true, Bool.not_eq_true'] at hc
    obtain ⟨a, t', ht', hset, hrest⟩ := birthAgent_inserts hbirth
    exact .inr ⟨hc.1, g, a, t', ht', hset, hrest⟩
  · refine .inl ⟨rfl, ?_⟩
    simp only [Bool.and_eq_false_iff, Bool.not_eq_false'] at hc
    refine hc.imp id fun hpicked => ?_
    unfold Store.Served
    rw [← Option.not_isNone, hpicked]
    rfl

/-- The state of the loop: births only, at most one for each untyped task already visited, and every
    such task served if it can be. -/
structure Visited (s : Store) (rest : List (TaskId × TaskRow × PartitionRow)) (s₁ : Store) : Prop where
  grows : Grows s s₁
  rooted : s₁.Rooted
  pending : ∀ x ∈ rest, x ∈ s.consumerDemand
  served : ∀ x ∈ s.consumerDemand, x ∈ rest ∨ s.isTyped x.1 x.2.1 = true ∨
    (x.2.1.continuity = .required ∧ x.2.1.workstreamId = none) ∨ s₁.Served x.2.1
  bound : s₁.agentCount + (rest.filter fun x => !s.isTyped x.1 x.2.1).length ≤
    s.agentCount + (s.consumerDemand.filter fun x => !s.isTyped x.1 x.2.1).length

theorem Visited.step {x : TaskId × TaskRow × PartitionRow}
    {rest : List (TaskId × TaskRow × PartitionRow)} (h : Visited s (x :: rest) s₁)
    (hx : Runs env (ensureConsumer x) s₁ u s') : Visited s rest s' := by
  have htyped := h.grows.isTyped x.1 x.2.1
  have hpending : ∀ y ∈ rest, y ∈ s.consumerDemand :=
    fun y hy => h.pending y (List.mem_cons_of_mem x hy)
  rcases ensureConsumer_cases hx with ⟨rfl, hskip⟩ |
      ⟨huntyped, g, a, t', ht', rfl, hborn, hp, hw, htags⟩
  · refine ⟨h.grows, h.rooted, hpending, ?_, ?_⟩
    · intro y hy
      rcases h.served y hy with hin | hdone
      · rcases List.mem_cons.mp hin with rfl | hin
        · rcases hskip with hskip | hskip
          · exact .inr (.inl (htyped ▸ hskip))
          · exact .inr (.inr (.inr hskip))
        · exact .inl hin
      · exact .inr hdone
    · refine le_trans ?_ h.bound
      rw [List.filter_cons]
      split <;> simp
  · have hgrow := Grows.insert ht'
    refine ⟨h.grows.trans hgrow, ?_, hpending, ?_, ?_⟩
    · intro k hk
      obtain ⟨r, hr⟩ := Option.isSome_iff_exists.mp (h.rooted k hk)
      rw [hgrow.kept k r hr]
      rfl
    · intro y hy
      rcases h.served y hy with hin | htype | hcont | hserved
      · rcases List.mem_cons.mp hin with rfl | hin
        · -- the task just visited: its newborn takes it, or nobody can
          by_cases hplace : y.2.1.continuity = .required → y.2.1.workstreamId.isSome = true
          · exact .inr (.inr (.inr (newborn_serves h.rooted ht' hborn hp hw htags hplace)))
          · push Not at hplace
            exact .inr (.inr (.inl ⟨hplace.1, by simpa using hplace.2⟩))
        · exact .inl hin
      · exact .inr (.inl htype)
      · exact .inr (.inr (.inl hcont))
      · exact .inr (.inr (.inr (hgrow.served hserved)))
    · have hcount : (logicalAgentsT.set s₁ t').agentCount = s₁.agentCount + 1 :=
        Table.count_of_insert ht' _
      have hbound := h.bound
      rw [htyped] at huntyped
      rw [List.filter_cons, if_pos (by rw [huntyped]; rfl), List.length_cons] at hbound
      omega

/-- A queued task has no active attempt. -/
theorem queued_unclaimed (hs : s.board.Sound) {t : TaskId} (ht : s.tasks.lookup t = some task)
    (hq : task.state = .queued) {a : AttemptId} {r : AttemptRow} (hr : s.attempts.lookup a = some r)
    (hactive : r.state = .active) : r.taskId ≠ t := by
  rintro rfl
  obtain ⟨v, hv, hcur⟩ := hs.coherent.active_current a r.view (Table.view_of_lookup hr)
    (decide_eq_true hactive)
  cases (Table.view_of_lookup ht).symm.trans hv
  have hassigned := (hs.coherent.assigned_iff _ _ (Table.view_of_lookup ht)).mpr (by rw [hcur]; rfl)
  have hassigned : task.state.isAssigned = true := hassigned
  rw [hq] at hassigned
  cases hassigned

/-- The parser reads the payload and the acceptance of a task. -/
def TaskRow.Loads (env : Env) (t : TaskRow) : Prop :=
  ∃ payload acceptance, env.parseJson t.payload = .ok payload ∧
    env.parseJson t.acceptance = .ok acceptance

/-- **The claim of a queued task by an idle ready agent commits**, if the task can be read. -/
theorem claimSelected_ensures {agent : AgentRow} {p : PartitionId} {prow : PartitionRow}
    {t : TaskId} (hs : s.Regular) (hfresh : s.Fresh env 0) (ht : s.tasks.lookup t = some task)
    (hq : task.state = .queued) (hg : s.logicalAgents.lookup g = some agent)
    (hidle : agent.currentTaskId = none) (hloads : task.Loads env) :
    Ensures env (claimSelected g p prow t task) s 0 fun _ _ _ => True := by
  unfold claimSelected
  refine .bind (.ask (.bind (.query (.bind (newId_ensures (.bind (newId_ensures ?_)))))))
  -- the attempt: numbered after all others, and neither task nor agent has an active one
  obtain ⟨attempts, hattempts⟩ : ∃ t', s.attempts.insert ("attempt" ++ "_" ++ env.uuid 0)
      (claimedAttempt g p prow t task (s.attemptCount t + 1)) = some t' := by
    refine Table.exists_insert (hfresh.attempts 0 (le_refl 0)) (by simp [attemptSchema, claimedAttempt])
      ?_
    intro a r hr
    have hnumber := hs.numbered.counted a r hr
    simp only [attemptSchema, claimedAttempt, decide_eq_false_iff_not]
    rintro (⟨rfl, hsame⟩ | ⟨-, hactive, rfl | rfl⟩)
    · omega
    · exact queued_unclaimed hs.sound ht hq hr hactive rfl
    · exact idleAgent_of_current hs.sound (Table.view_of_lookup hg) hidle a r hr rfl hactive
  refine .bind (.insertInto hattempts ?_)
  -- the lease: no lease names the new attempt, and every epoch of the task is below the new one
  obtain ⟨leases, hleases⟩ : ∃ t', s.leases.insert ("lease" ++ "_" ++ env.uuid 1)
      (claimedLease env t ("attempt" ++ "_" ++ env.uuid 0) task) = some t' := by
    refine Table.exists_insert (hfresh.leases 1 (Nat.zero_le 1)) (by simp [leaseSchema, claimedLease])
      ?_
    intro l x hx
    obtain ⟨w, hw, htask, hepoch, hactive⟩ :=
      hs.sound.coherent.lease_attempt l x.view (Table.view_of_lookup hx)
    obtain ⟨r, hr, rfl⟩ := Table.view_eq_some.mp hw
    obtain ⟨v, hv, hle⟩ := hs.sound.coherent.attempt_task _ _ hw
    have htask : x.taskId = r.taskId := htask
    have hepoch : x.epoch = r.leaseEpoch := hepoch
    simp only [leaseSchema, claimedLease, decide_eq_false_iff_not]
    rintro (hname | ⟨rfl, hsame | ⟨-, hlive⟩⟩)
    · have hnone := hfresh.attempts 0 (le_refl 0)
      rw [hname] at hnone
      have hr : s.attempts.lookup x.attemptId = some r := hr
      rw [hnone] at hr
      cases hr
    · have hv : s.board.task x.taskId = some v := htask ▸ hv
      cases (Table.view_of_lookup ht).symm.trans hv
      have hle : r.leaseEpoch ≤ task.fencingEpoch := hle
      exact Nat.not_succ_le_self _ ((hsame.trans hepoch).le.trans hle)
    · have hactive : decide (x.state = .active) = decide (r.state = .active) := hactive
      rw [hlive] at hactive
      exact queued_unclaimed hs.sound ht hq hr
        (of_decide_eq_true (hactive.symm.trans (decide_eq_true rfl))) htask.symm
  refine .bind (.insertInto hleases (.bind (.query ?_)))
  obtain ⟨tasks, htasks⟩ : ∃ t', s.tasks.update
      (fun k r => decide (k = t) && decide (r.state = .queued))
      (leasedTask task ("attempt" ++ "_" ++ env.uuid 0)) = some t' := by
    refine Table.exists_update_of_imp (fun k r hr _ => ?_) fun _ _ _ _ _ _ h => h
    have hcheck : taskSchema.check k r = true := Table.check_of_lookup hr
    exact hcheck
  refine .bind (.updateIn htasks (.bind (.require ?_ ?_)))
  · exact decide_eq_true (Table.count_key ht (decide_eq_true hq))
  -- the agent: nobody else is assigned to a task without an active attempt
  obtain ⟨agents, hagents⟩ : ∃ t', s.logicalAgents.update
      (fun k a => decide (k = g) && decide (a.state = .ready)) (assignedAgent t task) = some t' := by
    have unheld : ∀ k r, s.logicalAgents.lookup k = some r → r.currentTaskId ≠ some t := by
      intro k r hr hcur
      obtain ⟨-, a, w, hw, hactive, htask, -⟩ :=
        hs.sound.coherent.holder k r.view t (Table.view_of_lookup hr) hcur
      obtain ⟨row, hrow, rfl⟩ := Table.view_eq_some.mp hw
      exact queued_unclaimed hs.sound ht hq hrow (of_decide_eq_true hactive) htask
    refine Table.exists_update (fun _ _ _ => rfl) ?_
    intro k r k' r' hr hr' hne
    have hold : agentSchema.clash (k, r) (k', r') = false := Table.clash_of_lookup hr hr' hne
    have hk := unheld k r hr
    have hk' := unheld k' r' hr'
    simp only [agentSchema, assignedAgent, Table.updateRow, decide_eq_false_iff_not] at hold ⊢
    by_cases hkg : k = g
    · have hkg' : k' ≠ g := fun h => hne (hkg.trans h.symm)
      split_ifs <;> simp_all
      · rintro - h
        exact hk' h.symm
    · split_ifs <;> simp_all
  obtain ⟨payload, acceptance, hpayload, hacceptance⟩ := hloads
  exact .bind (.updateIn hagents (.bind (jsonLoad_ensures hpayload
    (.bind (jsonLoad_ensures hacceptance (.pure trivial))))))

/-- **The pair that is selected is claimed**, if the task can be read. -/
theorem claimNextAvailable_claims {k : TaskId} (hs : s.Regular) (hfresh : s.Fresh env 0)
    (hsel : s.selectClaim env.now = some (k, task, g)) (hloads : task.Loads env) :
    Ensures env claimNextAvailable s 0 fun c _ _ => c.isSome = true := by
  obtain ⟨⟨hawaits, -⟩, ⟨agent, hagent, -⟩, -⟩ := selectClaim_best hsel
  obtain ⟨prow, hprow⟩ := Option.isSome_iff_exists.mp hawaits.partition
  unfold claimNextAvailable
  refine .bind (.ask (.bind (.query ?_)))
  rw [hsel]
  refine .bind (.fetch hprow (.bind ?_))
  have hclaim : Ensures env (claimSelected g task.partition prow k task) s 0 fun _ _ _ => True :=
    claimSelected_ensures hs hfresh hawaits.1 hawaits.queued hagent.row hagent.idle hloads
  exact hclaim.mono fun _ _ _ _ => .pure rfl

namespace Deployment

/-- The writer task is queued and has no consumer yet. -/
def queued : List Call :=
  [(moment 1 "p", .upsertPartition general), (moment 2 "b", .submitBatch [writer])]

end Deployment

end Agentype

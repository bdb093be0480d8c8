import Agentype.Contract.Suspension
import Agentype.Contract.Assignment
import Agentype.Physical.Fencing
import Agentype.Kernel.Release

/-!
# `Agentype.Contract.Faults` — the fence behind a recorded preparation fault

A preparation fault says that the control plane could not prepare the physical start of a claim. From
then on the claim is inert: the fence of authority refuses it, so it gets no execution, no
incarnation, no renewal and no settlement of its own, and it ends by expiry or cancellation only.
Expiry does not consult the retry policy: the task is suspended and the root decides.

## Contents
- `LeaseKept a`: the lease of attempt `a` is not renewed.
- `Store.Regular.faulted_kept`: what may write a faulted attempt.
- `Apart t g`: a step that is not about task `t` and agent `g`; the expiry of other claims is one.
- `FaultExpired`: what an expiry leaves behind for a faulted claim.
- `preparation_fault_fence`: the fence over whole histories.
-/

namespace Agentype

open Relational Tx Store Board

variable {env : Env} {s s₁ s' : Store} {a : AttemptId}
variable {u : Unit} {op : Op} {e : EscalationId}

/-! ## Renewals -/

/-- The lease of the attempt keeps its deadline and its last heartbeat. -/
def LeaseKept (a : AttemptId) (_ : Env) (s s' : Store) : Prop :=
  ∀ l row, s.leases.lookup l = some row → row.attemptId = a → ∃ row', s'.leases.lookup l = some row' ∧
    row'.attemptId = a ∧ row'.expiresAt = row.expiresAt ∧ row'.heartbeatAt = row.heartbeatAt

instance (a : AttemptId) (env : Env) : IsPreorder Store (LeaseKept a env) where
  refl _ _ row h ha := ⟨row, h, ha, rfl, rfl⟩
  trans s s₁ s' h h' l row hrow ha := by
    obtain ⟨row₁, hrow₁, ha₁, hexp₁, hbeat₁⟩ := h l row hrow ha
    obtain ⟨row', hrow', ha', hexp', hbeat'⟩ := h' l row₁ hrow₁ ha₁
    exact ⟨row', hrow', ha', hexp'.trans hexp₁, hbeat'.trans hbeat₁⟩

instance {a : AttemptId} : Sees [.leases] (LeaseKept a) := by
  constructor
  intro env s s' h l row hrow ha
  have hsame : s'.leases = s.leases := h .leases (by decide)
  exact ⟨row, hsame ▸ hrow, ha, rfl, rfl⟩

theorem leaseKept_leases : leasesT.Allows (LeaseKept a) fun _ _ r r' => r.attemptId = a →
    r'.attemptId = a ∧ r'.expiresAt = r.expiresAt ∧ r'.heartbeatAt = r.heartbeatAt := by
  refine ⟨fun _ _ r ha => ⟨ha, rfl, rfl⟩, fun h l row hrow ha => ?_⟩
  obtain ⟨row', hrow', hkept⟩ := h l row hrow
  exact ⟨row', hrow', hkept ha⟩

theorem settling_leaseKept (a : AttemptId) (k : Option (TaskId × AttemptId)) :
    Settling (LeaseKept a) k := by
  intro α x hx
  cases hx with
  | lease => exact leaseKept_leases.update fun _ _ _ _ ha => ⟨ha, rfl, rfl⟩
  | authority =>
    exact .bind (.aside rfl) fun _ => leaseKept_leases.update fun _ _ _ _ ha => ⟨ha, rfl, rfl⟩
  | _ => exact .aside rfl

/-- The renewal of another claim's lease. -/
theorem renewLease_kept {a' : AttemptId} {e : LeaseEpoch} {r : ClaimRecords} {p : LeaseRow → Bool}
    {at_ : UnixTime} {s₀ : Store} (hauth : Authorized s₀ a' e env.now r) (hne : a' ≠ a)
    (hsame : s.leases = s₀.leases) (h : Runs env (renewLease r.leaseId p) s at_ s') :
    LeaseKept a env s s' := by
  unfold renewLease at h
  obtain ⟨_, s₁, h₁, h⟩ := h.ask_bind.bind
  obtain ⟨-, rfl⟩ := h.pure
  refine leaseKept_leases.update_runs h₁ fun l row hrow hp ha => ?_
  -- the lease that is written belongs to the other attempt
  have hl : l = r.leaseId := of_decide_eq_true (Bool.and_eq_true_iff.mp hp).1
  obtain ⟨hlease, howner⟩ := leaseOfAttempt_eq_some.mp hauth.lease
  rw [show leasesT.get s = s₀.leases from hsame, hl, hlease] at hrow
  obtain rfl := Option.some.inj hrow
  exact absurd (howner.symm.trans ha) hne

theorem claimSelected_leaseKept (g : LogicalAgentId) (p : PartitionId) (row : PartitionRow)
    (t : TaskId) (task : TaskRow) : Respects (LeaseKept a) (claimSelected g p row t task) :=
  claimSelected_respects (fun _ _ => .aside rfl) (fun _ _ => leaseKept_leases.insert)
    (fun _ _ => .aside rfl) fun _ _ => .aside rfl

/-- **No renewal.** While the claim cannot pass the fence, nothing renews its lease. -/
theorem exec_leaseKept (hfault : (s.preparationFaults.lookup a).isSome = true)
    (h : Runs env op.exec s u s') : LeaseKept a env s s' := by
  have hne : ∀ {a' : AttemptId} {e : LeaseEpoch} {r : ClaimRecords},
      Authorized s a' e env.now r → a' ≠ a := by
    rintro a' e r hauth rfl
    rw [hauth.unfaulted] at hfault
    cases hfault
  cases op with
  | claimNextAvailable | acquireTypedTaskExisting | acquireTypedTaskNewAgent =>
    exact h.respects (Sees.claims (by decide) claimSelected_leaseKept rfl)
  | confirmRunningAndRenew =>
    obtain ⟨g, h⟩ := runs_of_effect h
    obtain ⟨r, _, _, _, s₃, _, c, -⟩ := confirmRunningAndRenew_runs h
    have hkept := renewLease_kept c.authorized (hne c.authorized) c.leases c.renewed
    unfold LeaseKept at hkept ⊢
    rwa [c.leases] at hkept
  | heartbeat =>
    obtain ⟨t, h⟩ := runs_of_effect h
    obtain ⟨r, hauth, h⟩ := heartbeat_runs h
    exact renewLease_kept hauth (hne hauth) rfl h
  | renewSupervisedExecutionGuarded =>
    obtain ⟨out, h⟩ := runs_of_effect h
    rcases renewSupervisedExecutionGuarded_runs h with ⟨rfl, -⟩ | ⟨r, t, -, hauth, h⟩
    · exact refl_of (LeaseKept a env) s'
    · exact renewLease_kept hauth (hne hauth) rfl h
  | ackSuccess | nack | reportConfigurationUnavailable | nackPreservingPhysicalHistory
  | abortBeforePhysicalStart | cancelTask | cancelBatch | expireLeases =>
    exact h.respects (Settling.exec (settling_leaseKept a) rfl)
  | _ => exact h.respects (.aside (by simp [Op.footprint, resolutionTables]))

/-! ## The attempt -/

/-- Operations that close claims they are not presented with. -/
def Op.sweeps : Op → Bool
  | .expireLeases .. | .cancelTask .. | .cancelBatch .. => true
  | _ => false

theorem Op.settlesClaim_of_not_sweeps (h : op.settles = true) (hop : op.sweeps = false) :
    ∃ a, op.settlesClaim = some a := by
  cases op <;> simp_all [Op.settles, Op.sweeps, Op.settlesClaim]

/-- **Only sweeps close a faulted claim.** -/
theorem Store.Regular.faulted_kept (hs : s.Regular)
    (hfault : (s.preparationFaults.lookup a).isSome = true) (hop : op.sweeps = false)
    (h : Runs env op.exec s u s') (hold : (s.attempts.lookup a).isSome = true) :
    s'.attempts.lookup a = s.attempts.lookup a := by
  have hne : ∀ {a' : AttemptId} {e : LeaseEpoch} {r : ClaimRecords},
      Authorized s a' e env.now r → a ≠ a' := by
    rintro a' e r hauth rfl
    rw [hauth.unfaulted] at hfault
    cases hfault
  cases hs.physical h with
  | rehosted h => rw [h.attempts]
  | claimed h =>
    obtain ⟨s₁, hhosts, hgrant, -⟩ := h
    rw [hgrant.lookup, hhosts.attempts, if_neg]
    rintro rfl
    -- the attempt of a grant is new
    rw [← hhosts.attempts, hgrant.fresh] at hold
    cases hold
  | launched _ h _ => rw [h.attempts, if_neg (hne h.authorized)]
  | observed h => rw [h.attempts]
  | faulted _ h =>
    have hsame : s'.attempts = s.attempts := h.frame .attempts nofun
    rw [hsame]
  | settled hsettles _ =>
    obtain ⟨a', ha'⟩ := Op.settlesClaim_of_not_sweeps hsettles hop
    obtain ⟨r, e, hauth, hset⟩ := exec_settlement hs.sound hs.tied ha' h
    exact hset.works.attempts a (hne hauth)
  | released _ h =>
    obtain ⟨s₁, -, hattempts, -, -, hquiet⟩ := h.finalized
    rw [hquiet.attempts, hattempts]

/-! ## The expiry of other claims -/

section Elsewhere

variable {t : TaskId} {g : LogicalAgentId}

/-- A step that writes nothing about the task and the agent, and closes no decision. -/
structure Elsewhere (t : TaskId) (g : LogicalAgentId) (_ : Env) (s s' : Store) : Prop where
  task : s'.tasks.lookup t = s.tasks.lookup t
  failures : ∀ id f, s'.failures.lookup id = some f → f.taskId = t → s.failures.lookup id = some f
  agent : s'.logicalAgents.lookup g = s.logicalAgents.lookup g
  partitions : s'.poolPartitions = s.poolPartitions
  decisions : ∀ e x, s.escalations.lookup e = some x → s'.escalations.lookup e = some x
  causes : ∀ e a, s.preparationEscalations.lookup e = some a →
    s'.preparationEscalations.lookup e = some a

instance (t : TaskId) (g : LogicalAgentId) (env : Env) : IsPreorder Store (Elsewhere t g env) where
  refl _ := ⟨rfl, fun _ _ h _ => h, rfl, rfl, fun _ _ h => h, fun _ _ h => h⟩
  trans _ _ _ h h' := ⟨h'.task.trans h.task,
    fun id f hf ht => h.failures id f (h'.failures id f hf ht) ht, h'.agent.trans h.agent,
    h'.partitions.trans h.partitions, fun e x hx => h'.decisions e x (h.decisions e x hx),
    fun e a ha => h'.causes e a (h.causes e a ha)⟩

/-- The stores agree on all but the agents. -/
theorem Elsewhere.of_agree (h : ∀ n ∈ [TableName.tasks, .failures, .poolPartitions, .escalations,
      .preparationEscalations], s'.table n = s.table n)
    (hagent : s'.logicalAgents.lookup g = s.logicalAgents.lookup g) : Elsewhere t g env s s' := by
  have htasks : s'.tasks = s.tasks := h .tasks (by decide)
  have hfailures : s'.failures = s.failures := h .failures (by decide)
  have hescalations : s'.escalations = s.escalations := h .escalations (by decide)
  have hcauses : s'.preparationEscalations = s.preparationEscalations :=
    h .preparationEscalations (by decide)
  exact ⟨by rw [htasks], fun id f hf _ => hfailures ▸ hf, hagent, h .poolPartitions (by decide),
    fun e x hx => hescalations ▸ hx, fun e a ha => hcauses ▸ ha⟩

instance : Sees [.logicalAgents, .tasks, .failures, .poolPartitions, .escalations,
    .preparationEscalations] (Elsewhere t g) := by
  constructor
  intro env s s' h
  have hagents : s'.logicalAgents = s.logicalAgents := h .logicalAgents (by decide)
  exact .of_agree (fun n hn => h n (List.mem_cons_of_mem _ hn)) (by rw [hagents])

theorem updateTask_elsewhere {t' : TaskId} (hne : t ≠ t') (f : TaskRow → TaskRow) :
    Respects (Elsewhere t g) (updateTask t' f) := by
  intro env s u s' h
  obtain ⟨tab, htab, rfl⟩ := Tx.Runs.updateIn h
  refine ⟨?_, fun _ _ hf _ => hf, rfl, rfl, fun _ _ hx => hx, fun _ _ ha => ha⟩
  exact Table.lookup_of_update_other htab fun _ _ => by simp [hne]

theorem recordFailure_elsewhere {t' : TaskId} (hne : t ≠ t') (a' : Option AttemptId)
    (x : Option ExecutionId) (c : FailureClass) (code sig detail : Option String) :
    Respects (Elsewhere t g) (recordFailure t' a' x c code sig detail) := by
  unfold recordFailure
  refine .bind (newId_respects _) fun id => .bind ?_ fun _ => .pure _
  intro env s u s' h
  obtain ⟨tab, htab, rfl⟩ := h.insertInto
  refine ⟨rfl, fun id' f hf ht => ?_, rfl, rfl, fun _ _ hx => hx, fun _ _ ha => ha⟩
  have hlookup : tab.lookup id' = some f := hf
  rw [(Table.lookup_of_insert htab).2] at hlookup
  split at hlookup
  · obtain rfl := Option.some.inj hlookup
    exact absurd ht.symm hne
  · exact hlookup

/-- A statement about the hosts and the row of another agent. -/
theorem elsewhere_of_agentKept {α : Type} {W : List TableName} {x : KernelTx α} [Touches W x]
    (hkept : Respects (AgentKept g) x)
    (hW : decide (W ⊆ [TableName.logicalAgents, .incarnations]) = true) :
    Respects (Elsewhere t g) x := by
  intro env s u s' h
  refine .of_agree (fun n hn => frame_of_not_mem h n fun hm => ?_) (h.respects hkept)
  have hhost := of_decide_eq_true hW hm
  clear hm
  revert n
  decide

theorem createEscalationWithCause_elsewhere {t' : TaskId} {b : BatchId} {g' : Option LogicalAgentId}
    {w : Option WorkstreamId} {cause : EscalationCause} {sig detail : Option String} :
    Respects (Elsewhere t g) (createEscalationWithCause t' b g' w cause sig detail) := by
  refine createEscalationWithCause_respects ?_ ?_ fun id => .aside rfl
  · intro id row env s u s' h
    obtain ⟨tab, htab, rfl⟩ := h.insertInto
    exact ⟨rfl, fun _ _ hf _ => hf, rfl, rfl, fun e x hx => Table.lookup_of_insert_some htab hx,
      fun _ _ ha => ha⟩
  · intro id a env s u s' h
    obtain ⟨tab, htab, rfl⟩ := h.insertInto
    exact ⟨rfl, fun _ _ hf _ => hf, rfl, rfl, fun _ _ hx => hx,
      fun e a ha => Table.lookup_of_insert_some htab ha⟩

/-- **The expiry of another claim.** -/
theorem expireClaim_elsewhere {row : ExpireRow} (htask : t ≠ row.taskId)
    (hagent : g ≠ row.attempt.logicalAgentId) : Respects (Elsewhere t g) (expireClaim row) := by
  have hrelease : Respects (Elsewhere t g) (releaseAgent row.attempt.logicalAgentId) :=
    elsewhere_of_agentKept (releaseAgent_kept hagent) rfl
  have hsuspend : Respects (Elsewhere t g) (suspendAgent row.attempt.logicalAgentId) :=
    elsewhere_of_agentKept (suspendAgent_kept hagent) rfl
  unfold expireClaim
  refine .bind (.query _) fun fault => .bind (.require _ _) fun _ => .bind (.aside rfl) fun _ =>
    .bind (.aside rfl) fun _ => ?_
  split
  · unfold expireFaulted
    exact .bind (.bind (updateTask_elsewhere htask _) fun _ => .bind hrelease fun _ =>
      .bind createEscalationWithCause_elsewhere fun _ => .aside rfl) fun _ => .pure _
  · unfold expireLost expireRetry expireSuspend createEscalation suspendOrRelease
    exact .bind (.aside rfl) fun _ => .bind (recordFailure_elsewhere htask _ _ _ _ _ _) fun _ => .ite
        (.bind (.bind .ask fun _ => .bind hrelease fun _ => updateTask_elsewhere htask _) fun _ =>
          .pure _)
        (.bind (.bind (updateTask_elsewhere htask _) fun _ => .bind (.ite hsuspend hrelease) fun _ =>
          .bind createEscalationWithCause_elsewhere fun _ => .aside rfl) fun _ => .pure _)

theorem restoreMissingEscalations_elsewhere :
    Respects (Elsewhere t g) restoreMissingEscalations := by
  unfold restoreMissingEscalations restoreEscalation
  exact .bind (.query _) fun _ => .forM fun _ _ => .bind (.examine _) fun _ =>
    .bind createEscalationWithCause_elsewhere fun _ => .aside rfl

end Elsewhere

/-! ## The expiry of the claim -/

/-- The step leaves the claim of attempt `a` and its hosts alone. -/
structure Spared (a : AttemptId) (r : AttemptRow) (env : Env) (s s' : Store) : Prop where
  elsewhere : Elsewhere r.taskId r.logicalAgentId env s s'
  attempt : s'.attempts.lookup a = s.attempts.lookup a
  execution : s'.executionOfAttempt a = s.executionOfAttempt a
  fault : s'.preparationFaults.lookup a = s.preparationFaults.lookup a
  hosts : ∀ i inc, s.incarnations.lookup i = some inc → inc.logicalAgentId = r.logicalAgentId →
    inc.state.isLivePresence = true → s'.LiveFor i inc

/-- What the expiry of a faulted claim leaves behind. -/
structure FaultExpired (a : AttemptId) (r : AttemptRow) (kind : PreparationFaultKind)
    (s s' : Store) : Prop where
  closed : ¬ s'.ActiveClaim a
  task : ∃ v, s'.tasks.lookup r.taskId = some v ∧ v.state = .suspended
  decision : ∃ e x, s'.escalations.lookup e = some x ∧ x.taskId = r.taskId ∧ x.state = .opened ∧
    s'.escalationCause e r.taskId x.tag = .ok (.preparationFault a kind)
  failures : ∀ id f, s'.failures.lookup id = some f → f.taskId = r.taskId →
    s.failures.lookup id = some f
  hosts : ∀ i inc, s.incarnations.lookup i = some inc → inc.logicalAgentId = r.logicalAgentId →
    inc.state.isLivePresence = true →
      s'.LiveFor i inc ∨ s'.Departed r.logicalAgentId inc.executionTarget

section Expiry

variable {r : AttemptRow} {kind : PreparationFaultKind}

theorem LiveFor.spared {i : IncarnationId} {inc : IncarnationRow} (h : Spared a r env s s')
    (hagent : inc.logicalAgentId = r.logicalAgentId) (hlive : s.LiveFor i inc) :
    s'.LiveFor i inc := by
  obtain ⟨inc₁, hinc₁, hagent₁, htarget₁, hlive₁⟩ := hlive
  obtain ⟨inc', hinc', hagent', htarget', hlive'⟩ :=
    h.hosts i inc₁ hinc₁ (hagent₁.trans hagent) hlive₁
  exact ⟨inc', hinc', hagent'.trans hagent₁, htarget'.trans htarget₁, hlive'⟩

theorem Spared.refl (s : Store) : Spared a r env s s :=
  ⟨refl_of (Elsewhere _ _ env) s, rfl, rfl, rfl, fun _ inc hinc _ hlive =>
    ⟨inc, hinc, rfl, rfl, hlive⟩⟩

theorem Spared.trans (h : Spared a r env s s₁) (h' : Spared a r env s₁ s') :
    Spared a r env s s' where
  elsewhere := trans_of (Elsewhere _ _ env) h.elsewhere h'.elsewhere
  attempt := h'.attempt.trans h.attempt
  execution := h'.execution.trans h.execution
  fault := h'.fault.trans h.fault
  hosts i inc hinc hagent hlive := LiveFor.spared h' hagent (h.hosts i inc hinc hagent hlive)

theorem validatedFault_congr {t : TaskId} (hattempt : s'.attempts.lookup a = s.attempts.lookup a)
    (hexec : s'.executionOfAttempt a = s.executionOfAttempt a)
    (hfault : s'.preparationFaults.lookup a = s.preparationFaults.lookup a) :
    s'.validatedFault a t = s.validatedFault a t := by
  rw [Store.validatedFault, Store.validatedFault, hattempt, hexec, hfault]

/-- The cause of a preparation escalation is its child row and the fault behind it. -/
theorem escalationCause_preparation {t : TaskId} {tag : EscalationTag} :
    s.escalationCause e t tag = .ok (.preparationFault a kind) ↔
      tag = .preparationControlPlane ∧ s.preparationEscalations.lookup e = some a ∧
        s.validatedFault a t = .ok kind := by
  unfold Store.escalationCause
  cases tag with
  | taskFailure c =>
    cases s.preparationEscalations.lookup e <;> simp
  | preparationControlPlane =>
    cases hchild : s.preparationEscalations.lookup e with
    | none => simp
    | some a' =>
      simp only [true_and, Option.some.injEq]
      constructor
      · intro h
        obtain ⟨k, hk, h⟩ := Check.bind_ok.mp h
        cases h
        exact ⟨rfl, hk⟩
      · rintro ⟨rfl, hk⟩
        rw [hk]
        rfl

theorem escalationCause_congr {t : TaskId} {tag : EscalationTag}
    (hchildren : s'.preparationEscalations = s.preparationEscalations)
    (hattempts : s'.attempts = s.attempts) (hexecutions : s'.executions = s.executions)
    (hfaults : s'.preparationFaults = s.preparationFaults) :
    s'.escalationCause e t tag = s.escalationCause e t tag := by
  have hvalid (a : AttemptId) : s'.validatedFault a t = s.validatedFault a t :=
    validatedFault_congr (by rw [hattempts]) (executionOfAttempt_congr hexecutions a)
      (by rw [hfaults])
  simp only [Store.escalationCause, hchildren, hvalid]

/-- What an expiry left behind survives steps that spare the claim. -/
theorem FaultExpired.spared (h : FaultExpired a r kind s s₁) (h' : Spared a r env s₁ s') :
    FaultExpired a r kind s s' where
  closed := by
    rintro ⟨row, hrow, hactive⟩
    rw [h'.attempt] at hrow
    exact h.closed ⟨row, hrow, hactive⟩
  task := by
    rw [h'.elsewhere.task]
    exact h.task
  decision := by
    obtain ⟨e, x, hx, htask, hopen, hcause⟩ := h.decision
    obtain ⟨htag, hchild, hvalid⟩ := escalationCause_preparation.mp hcause
    refine ⟨e, x, h'.elsewhere.decisions e x hx, htask, hopen, escalationCause_preparation.mpr ?_⟩
    refine ⟨htag, h'.elsewhere.causes e a hchild, ?_⟩
    rw [validatedFault_congr h'.attempt h'.execution h'.fault]
    exact hvalid
  failures id f hf ht := h.failures id f (h'.elsewhere.failures id f hf ht) ht
  hosts i inc hinc hagent hlive := by
    refine (h.hosts i inc hinc hagent hlive).imp (LiveFor.spared h' hagent) ?_
    rintro ⟨agent, hrow, hgone⟩
    refine ⟨agent, h'.elsewhere.agent.trans hrow, hgone.imp_right ?_⟩
    rw [h'.elsewhere.partitions]
    exact id

theorem openEscalation_some {t : TaskId} {x : EscalationRow}
    (h : s.openEscalation t = some (e, x)) :
    s.escalations.lookup e = some x ∧ x.taskId = t ∧ x.state = .opened := by
  have hp := List.find?_some h
  simp only [Bool.and_eq_true, decide_eq_true_eq] at hp
  exact ⟨Table.mem_rows.mp (List.mem_of_find?_eq_some h), hp⟩

/-- A decision about a fault is open under exactly that cause. -/
theorem createEscalationWithCause_preparation {t : TaskId} {b : BatchId} {g : Option LogicalAgentId}
    {w : Option WorkstreamId} {sig detail : Option String}
    (h : Runs env (createEscalationWithCause t b g w (.preparationFault a kind) sig detail) s e s') :
    ∃ x, s'.escalations.lookup e = some x ∧ x.taskId = t ∧ x.state = .opened ∧
      s'.escalationCause e t x.tag = .ok (.preparationFault a kind) := by
  unfold createEscalationWithCause at h
  have h := h.query_bind
  split at h
  · -- the open decision of the task has the same cause
    rename_i id row hopen
    obtain ⟨actual, hactual, h⟩ := h.examine_bind
    obtain ⟨hsame, h⟩ := h.require_bind
    obtain ⟨rfl, rfl⟩ := h.pure
    obtain ⟨hrow, hp⟩ := openEscalation_some hopen
    have hcause : actual = .preparationFault a kind := by
      simpa [EscalationCause.isPreparation] using hsame
    exact ⟨row, hrow, hp.1, hp.2, hcause ▸ hactual⟩
  · obtain ⟨n, h⟩ := newId_bind h
    obtain ⟨tab, htab, h⟩ := h.insertInto_bind
    obtain ⟨_, s₁, h₁, h⟩ := h.bind
    obtain ⟨_, s₂, h₂, h⟩ := h.bind
    obtain ⟨rfl, rfl⟩ := h.pure
    unfold attachEscalation at h₁
    obtain ⟨k, hk, h₁⟩ := h₁.examine_bind
    obtain ⟨hkind, h₁⟩ := h₁.require_bind
    obtain ⟨tab', htab', rfl⟩ := h₁.insertInto
    have hescalations : s'.escalations = tab := frame h₂ .escalations rfl
    refine ⟨⟨t, b, g, w, .preparationControlPlane, sig, detail, .opened⟩, ?_, rfl, rfl, ?_⟩
    · rw [hescalations, (Table.lookup_of_insert htab).2, if_pos rfl]
      rfl
    rw [escalationCause_congr (frame h₂ .preparationEscalations rfl) (frame h₂ .attempts rfl)
      (frame h₂ .executions rfl) (frame h₂ .preparationFaults rfl), escalationCause_preparation]
    refine ⟨rfl, ?_, ?_⟩
    · show tab'.lookup _ = _
      rw [(Table.lookup_of_insert htab').2, if_pos rfl]
    · rw [← of_decide_eq_true hkind, ← hk]
      exact validatedFault_congr rfl rfl rfl

/-- **One faulted claim.** Its expiry suspends the task under a decision about the fault. -/
theorem expireClaim_faulted {row : ExpireRow} {retried : Bool} {v : TaskRow}
    (hfault : s.preparationFaults.lookup row.attemptId = some kind)
    (htask : row.taskId = row.attempt.taskId) (hv : s.tasks.lookup row.attempt.taskId = some v)
    (h : Runs env (expireClaim row) s retried s') (hclosed : ¬ s'.ActiveClaim row.attemptId) :
    FaultExpired row.attemptId row.attempt kind s s' := by
  unfold expireClaim at h
  obtain ⟨_, h⟩ := h.query_bind.require_bind
  obtain ⟨_, s₁, h₁, h⟩ := h.bind
  obtain ⟨_, s₂, h₂, h⟩ := h.bind
  split at h
  swap
  · rename_i hnone
    rw [hfault] at hnone
    cases hnone
  rename_i k hk
  cases hfault.symm.trans hk
  obtain ⟨_, s₃, h₃, h⟩ := h.bind
  obtain ⟨-, rfl⟩ := h.pure
  have hbefore : ∀ n, n ≠ .attempts → n ≠ .leases → s₂.table n = s.table n := fun n ha hl =>
    (frame_of_not_mem h₂ n (by simpa using ha)).trans (frame_of_not_mem h₁ n (by simpa using hl))
  have hfailures : s'.failures = s.failures :=
    (frame h₃ .failures rfl).trans (hbefore .failures (by decide) (by decide))
  unfold expireFaulted at h₃
  obtain ⟨_, s₄, h₄, h₃⟩ := h₃.bind
  have htasks : s'.tasks = s₄.tasks := frame h₃ .tasks rfl
  obtain ⟨_, s₅, h₅, h₃⟩ := h₃.bind
  have hhosts : s'.incarnations = s₅.incarnations := frame h₃ .incarnations rfl
  have hagents : s'.logicalAgents = s₅.logicalAgents := frame h₃ .logicalAgents rfl
  have hparts : s'.poolPartitions = s₅.poolPartitions := frame h₃ .poolPartitions rfl
  obtain ⟨e, s₆, h₆, h₇⟩ := h₃.bind
  refine ⟨hclosed, ?_, ?_, fun id f hf _ => hfailures ▸ hf, ?_⟩
  · -- the task, as the first statement of the branch wrote it
    obtain ⟨tab, htab, rfl⟩ := Tx.Runs.updateIn h₄
    refine ⟨{ v with state := .suspended, currentAttemptId := none, nextEligibleAt := none }, ?_, rfl⟩
    rw [htasks]
    show tab.lookup row.attempt.taskId = _
    rw [Table.lookup_of_update htab, show (tasksT.get s₂).lookup row.attempt.taskId = some v by
      rw [← hv, ← show s₂.tasks = s.tasks from hbefore .tasks (by decide) (by decide)]; rfl]
    simp [Table.updateRow, htask]
  · obtain ⟨x, hx, hin, hopen, hcause⟩ := createEscalationWithCause_preparation h₆
    have hescalations : s'.escalations = s₆.escalations := frame h₇ .escalations rfl
    rw [htask] at hin hcause
    refine ⟨e, x, hescalations ▸ hx, hin, hopen, ?_⟩
    rw [← hcause]
    exact escalationCause_congr (frame h₇ .preparationEscalations rfl) (frame h₇ .attempts rfl)
      (frame h₇ .executions rfl) (frame h₇ .preparationFaults rfl)
  · intro i inc hinc _ hlive
    have hsame : s₄.incarnations = s.incarnations :=
      (frame h₄ .incarnations rfl).trans (hbefore .incarnations (by decide) (by decide))
    rw [← hsame] at hinc
    rw [liveFor_congr hhosts, Store.Departed, hagents, hparts]
    exact releaseAgent_hosts hinc hlive h₅

/-- **The expiry of other claims spares this one.** -/
theorem Settlement.spared {a' : AttemptId} {r' : AttemptRow} {task : TaskRow}
    (h : Settlement env s s' a' r' task) (hne : a ≠ a') (hagent : r.logicalAgentId ≠ r'.logicalAgentId)
    (hrun : Elsewhere r.taskId r.logicalAgentId env s s') : Spared a r env s s' where
  elsewhere := hrun
  attempt := h.works.attempts a hne
  execution := h.works.executionOfAttempt hne
  fault := by rw [h.works.faults]
  hosts i inc hinc hg hlive := by
    obtain ⟨inc', hinc', hfences, hlost⟩ := h.works.confines.keep i inc hinc
    refine ⟨inc', hinc', hfences.agent, hfences.target, ?_⟩
    by_contra hdead
    exact hagent (hg.symm.trans (hlost hlive (Bool.eq_false_iff.mpr hdead)))

/-- The claim was spared up to its own turn. -/
theorem FaultExpired.after (h : FaultExpired a r kind s₁ s') (h' : Spared a r env s s₁) :
    FaultExpired a r kind s s' where
  closed := h.closed
  task := h.task
  decision := h.decision
  failures id f hf ht := h'.elsewhere.failures id f (h.failures id f hf ht) ht
  hosts i inc hinc hagent hlive := by
    obtain ⟨inc₁, hinc₁, hagent₁, htarget₁, hlive₁⟩ := h'.hosts i inc hinc hagent hlive
    rcases h.hosts i inc₁ hinc₁ (hagent₁.trans hagent) hlive₁ with hkept | hgone
    · obtain ⟨inc', hinc', hagent', htarget', hlive'⟩ := hkept
      exact .inl ⟨inc', hinc', hagent'.trans hagent₁, htarget'.trans htarget₁, hlive'⟩
    · exact .inr (htarget₁ ▸ hgone)

/-- **Expiry of a faulted claim**, whatever other claims expire with it. -/
theorem expireLeases_faulted {recover : Bool} {report : ExpireReport} (hs : s.Regular)
    (hfault : s.preparationFaults.lookup a = some kind) (hr : s.attempts.lookup a = some r)
    (hactive : r.state = .active) (h : Runs env (expireLeases recover) s report s') :
    Spared a r env s s' ∨ FaultExpired a r kind s s' := by
  refine (expireLeases_induction (P := fun s₁ => Settled env s s₁ ∧
    (Spared a r env s s₁ ∨ FaultExpired a r kind s s₁)) hs.sound h ⟨.refl, .inl (.refl s)⟩ ?_ ?_).2
  · rintro row lease retried s₁ s₂ hmem hs₁ ⟨hchain, hstate⟩ htask hheld hrun
    obtain ⟨_, -, -, -, -, -, hrow, -⟩ := mem_expiring.mp hmem
    obtain ⟨hr', hset⟩ := expiring_settlement hs.tied hchain hmem hs₁ htask hheld hrun
    refine ⟨.settle hchain hset (hrun.respects ((settling_keepsObligations none).expireClaim .any))
      (htask ▸ hrow), ?_⟩
    by_cases hne : a = row.attemptId
    · -- the turn of the claim itself
      subst hne
      cases hr.symm.trans hr'
      rcases hstate with hspared | hexpired
      · obtain ⟨v, hv, -, -⟩ := hheld.taskRow hs₁
        have hfault₁ := hspared.fault.trans hfault
        exact .inr ((expireClaim_faulted hfault₁ htask hv hrun hset.closed).after hspared)
      · exact absurd ⟨_, hset.attempt, hset.active⟩ hexpired.closed
    · -- two active attempts have different tasks and different agents
      have hclash := Table.clash_of_lookup hr hr' hne
      have hdiff : r.taskId ≠ row.attempt.taskId ∧
          r.logicalAgentId ≠ row.attempt.logicalAgentId := by
        constructor <;> intro heq <;>
          simp [attemptSchema, hactive, hset.active, heq] at hclash
      have hspared : Spared a r env s₁ s₂ := hset.spared hne hdiff.2
        (hrun.respects (expireClaim_elsewhere (htask ▸ hdiff.1) hdiff.2))
      exact hstate.imp (·.trans hspared) (·.spared hspared)
  · rintro s₁ u hs₁ ⟨hchain, hstate⟩ hrun
    have hquiet : Quiet env s₁ s' := hrun.respects (.aside rfl)
    have hkeep : KeepsObligations env s₁ s' :=
      hrun.respects (settling_keepsObligations none).restoreMissingEscalations
    have hspared : Spared a r env s₁ s' := by
      refine ⟨hrun.respects restoreMissingEscalations_elsewhere, by rw [hquiet.attempts],
        executionOfAttempt_congr hquiet.executions a, by rw [hquiet.faults], ?_⟩
      intro i inc hinc _ hlive
      rw [liveFor_congr (frame hrun .incarnations rfl)]
      exact ⟨inc, hinc, rfl, rfl, hlive⟩
    exact ⟨.quiet hchain hquiet hkeep, hstate.imp (·.trans hspared) (·.spared hspared)⟩

end Expiry

/-! ## Whole histories -/

/-- What one more call can do about a faulted claim. -/
structure FaultFenced (a : AttemptId) (r : AttemptRow) (kind : PreparationFaultKind) (s : Store)
    (c : Call) : Prop where
  /-- A call that presents the claim (execution, renewal, ack, nack, abort) changes nothing. -/
  refused : ∀ e, c.2.Presents a e → s.call c = s
  lease : LeaseKept a c.1 s (s.call c)
  closing : s.ActiveClaim a → ¬ (s.call c).ActiveClaim a → c.2.sweeps = true
  expiry : ∀ recover, c.2 = .expireLeases recover → s.ActiveClaim a →
    ¬ (s.call c).ActiveClaim a → FaultExpired a r kind s (s.call c)
  /-- Only a decision or a cancellation ends the suspension of its task. -/
  suspension : ∀ v, s.tasks.lookup r.taskId = some v → v.state = .suspended →
    c.2.decides = false → ∃ v', (s.call c).tasks.lookup r.taskId = some v' ∧ v'.state = .suspended

theorem Store.Regular.faultFenced {r : AttemptRow} {kind : PreparationFaultKind} (hs : s.Regular)
    (hfault : s.preparationFaults.lookup a = some kind) (hr : s.attempts.lookup a = some r)
    (c : Call) : FaultFenced a r kind s c := by
  have hsome := Option.isSome_of_eq_some hfault
  have hrefused : ∀ e, c.2.Presents a e → s.call c = s := by
    intro e hp
    refine call_eq_of_fenced hp fun hvalid => ?_
    obtain ⟨records, hauth⟩ := validates_iff.mp hvalid
    rw [hauth.unfaulted] at hfault
    cases hfault
  rcases step_cases Op.exec s c with ⟨-, hrun⟩ | ⟨-, hsame⟩
  · refine ⟨hrefused, exec_leaseKept hsome hrun, ?_, ?_, ?_⟩
    · rintro ⟨row, hrow, hst⟩ hclosed
      by_contra hop
      have hkept := hs.faulted_kept hsome (Bool.eq_false_iff.mpr hop) hrun
        (Option.isSome_of_eq_some hr)
      exact hclosed ⟨row, hkept.trans hrow, hst⟩
    · rintro recover hop ⟨row, hrow, hst⟩ hclosed
      rw [hop] at hrun
      obtain ⟨report, hrun⟩ := runs_of_effect hrun
      cases hr.symm.trans hrow
      rcases expireLeases_faulted hs hfault hr hst hrun with hspared | hexpired
      · exact absurd ⟨r, hspared.attempt.trans hr, hst⟩ hclosed
      · exact hexpired
    · intro v hv hst hop
      obtain ⟨v', hv', hkeep⟩ := exec_suspended hs.sound hop hrun r.taskId v hv
      exact ⟨v', hv', hkeep nofun hst⟩
  · -- a call that is rolled back
    have hcall : s.call c = s := hsame
    refine ⟨hrefused, ?_, ?_, ?_, ?_⟩ <;> rw [hcall]
    · exact refl_of (LeaseKept a c.1) s
    · exact fun hactive hclosed => absurd hactive hclosed
    · exact fun _ _ hactive hclosed => absurd hactive hclosed
    · exact fun v hv hst _ => ⟨v, hv, hst⟩

/-- **Preparation-fault fence.** In every history, once a fault is recorded its kind stays, the
    attempt has neither an incarnation nor an execution, and every further call respects the
    fence: nothing renews or settles the claim on its own, it is closed by expiry or cancellation
    only, and expiry leaves the task suspended under a decision about exactly that fault, with no
    failure recorded and no host fenced that the release of its agent does not give up. -/
theorem preparation_fault_fence (calls : List Call) (a : AttemptId) (kind : PreparationFaultKind)
    (h : (Store.empty.after calls).preparationFaults.lookup a = some kind) (more : List Call) :
    let s := Store.empty.after (calls ++ more)
    s.preparationFaults.lookup a = some kind ∧
      (∀ x e, s.executions.lookup x = some e → e.attemptId ≠ a) ∧
      ∃ r, s.attempts.lookup a = some r ∧ r.incarnationId = none ∧
        ∀ c, FaultFenced a r kind s c := by
  intro s
  have hs : s.Regular := Store.after_regular _
  have hkind : s.preparationFaults.lookup a = some kind := by
    have happend : s = (Store.empty.after calls).after more := run_append _ _ _
    rw [happend]
    refine run_induction (P := fun s : Store => s.preparationFaults.lookup a = some kind) ?_ h
    intro c _ s₁ s₂ hP hrun
    obtain ⟨k', hk', rfl⟩ := (hrun.respects (exec_ages c.2)).preparationFaults a kind hP
    exact hk'
  obtain ⟨r, hr, hunlinked⟩ := hs.tied.faulted a kind hkind
  refine ⟨hkind, ?_, r, hr, hunlinked, hs.faultFenced hkind hr⟩
  rintro x e he rfl
  obtain ⟨r', hr', -, -, hlink⟩ := hs.tied.execution x e he
  cases hr'.symm.trans hr
  rw [hunlinked] at hlink
  cases hlink

section Example

open Deployment

def local_ : ProvisioningSelection :=
  ⟨"spawn", "config", "policy", "process", "key", "v1", "digest", "sandboxed"⟩

/-- A task that asks for an exact type is admitted, and a new agent acquires it. -/
def acquired : List Call :=
  [(moment 1 "p", .upsertPartition general),
   (moment 2 "b", .admitProposal (.ok none) writer (some (.ok ⟨"coder", 1⟩))),
   (moment 3 "c", .acquireTypedTaskNewAgent "edit" local_ (.ok ()) (.ok ()))]

def acquiredClaim : Claim :=
  ⟨"edit", "batch_b", "attempt_c+++", 1, "lease_c++++", 1, 13, "agent_c", none, "local", "default",
   .write, .emptyObject, .emptyObject, none⟩

/-- Its preparation fails for good before the physical start. -/
def unprepared : List Call :=
  acquired ++ [(moment 4 "f", .recordPreparationFault acquiredClaim .storageFailure)]

theorem preparation_fault_fence_unprepared :
    (Store.empty.after unprepared).preparationFaults.lookup "attempt_c+++" = some .storageFailure ∧
      ∃ r, (Store.empty.after (unprepared ++ [])).attempts.lookup "attempt_c+++" = some r ∧
        r.incarnationId = none ∧
        ∀ c, FaultFenced "attempt_c+++" r .storageFailure (Store.empty.after (unprepared ++ [])) c := by
  have h : (Store.empty.after unprepared).preparationFaults.lookup "attempt_c+++" =
    some .storageFailure := by decide +kernel
  exact ⟨h, (preparation_fault_fence unprepared "attempt_c+++" .storageFailure h []).2.2⟩

/-- The expiry retires an agent of an ephemeral partition, and with it the host it was given. -/
theorem faulted_expiry_fences_retired_host :
    (Store.empty.after unprepared).preparationFaults.lookup "attempt_c+++" = some .storageFailure ∧
      incarnationStateAfter unprepared "inc_c+" = some .starting ∧
      incarnationStateAfter (unprepared ++ [(moment 20 "e", .expireLeases false)]) "inc_c+" =
        some .lost := by
  refine ⟨?_, ?_, ?_⟩ <;> decide +kernel

end Example

end Agentype

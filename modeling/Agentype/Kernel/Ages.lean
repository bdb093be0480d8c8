import Agentype.Kernel.Settling

/-!
# `Agentype.Kernel.Ages` — what a store never forgets

Rows of the scheduling tables are never deleted, and most of their columns are written once: which
task an attempt belongs to, which attempt a lease fences, who an escalation is about. A lease is
extended only while it has not expired.

## Contents
- `fixed`: the columns of a row that never change; the others are blanked.
- `Ages env s s'`: every row persists with its fixed columns. It is a preorder.
- `exec_ages`: every committed operation ages the store.
-/

namespace Agentype

open Relational Tx Store

variable {env : Env} {s s' : Store}
variable {err : Error} {a : AttemptId}

/-! ## Fixed columns -/

def TaskRow.fixed (r : TaskRow) : TaskRow :=
  { r with partition := "", state := .queued, nextEligibleAt := none, currentAttemptId := none,
           fencingEpoch := 0 }

def AttemptRow.fixed (r : AttemptRow) : AttemptRow :=
  { r with incarnationId := none, state := .active }

def LeaseRow.fixed (r : LeaseRow) : LeaseRow :=
  { r with state := .active, expiresAt := 0, heartbeatAt := 0 }

def EscalationRow.fixed (r : EscalationRow) : EscalationRow := { r with state := .opened }

def ResultRow.fixed (r : ResultRow) : ResultRow := { r with state := .available, consumerRef := none }

/-- A lease keeps its fixed columns, and its expiry moves only while it is in the future, to the end
    of a whole lease from now. -/
def LeaseRow.Renews (env : Env) (r r' : LeaseRow) : Prop :=
  r'.fixed = r.fixed ∧ (r'.expiresAt = r.expiresAt ∨
    env.now < r.expiresAt ∧ r'.expiresAt = Binary64.add env.now env.leaseSeconds)

/-! ## The relation -/

/-- Every row persists with its fixed columns. -/
structure Ages (env : Env) (s s' : Store) : Prop where
  tasks : Table.Evolves (fun _ r r' => r'.fixed = r.fixed) s.tasks s'.tasks
  attempts : Table.Evolves (fun _ r r' => r'.fixed = r.fixed) s.attempts s'.attempts
  leases : Table.Evolves (fun _ => LeaseRow.Renews env) s.leases s'.leases
  escalations : Table.Evolves (fun _ r r' => r'.fixed = r.fixed) s.escalations s'.escalations
  results : Table.Evolves (fun _ r r' => r'.fixed = r.fixed) s.results s'.results
  batches : Table.Evolves (fun _ _ _ => True) s.batches s'.batches
  preparationFaults : Table.Evolves (fun _ r r' => r' = r) s.preparationFaults s'.preparationFaults
  preparationEscalations : Table.Evolves (fun _ r r' => r' = r) s.preparationEscalations
    s'.preparationEscalations

theorem LeaseRow.Renews.refl (env : Env) (r : LeaseRow) : LeaseRow.Renews env r r :=
  ⟨rfl, .inl rfl⟩

theorem LeaseRow.Renews.trans {r r' r'' : LeaseRow} (h : LeaseRow.Renews env r r')
    (h' : LeaseRow.Renews env r' r'') : LeaseRow.Renews env r r'' := by
  refine ⟨h'.1.trans h.1, ?_⟩
  rcases h.2 with heq | ⟨hlt, heq⟩
  · rw [← heq]
    exact h'.2
  · exact .inr ⟨hlt, h'.2.elim (·.trans heq) (·.2)⟩

theorem Ages.refl (env : Env) (s : Store) : Ages env s s where
  tasks _ r h := ⟨r, h, rfl⟩
  attempts _ r h := ⟨r, h, rfl⟩
  leases _ r h := ⟨r, h, .refl _ r⟩
  escalations _ r h := ⟨r, h, rfl⟩
  results _ r h := ⟨r, h, rfl⟩
  batches _ r h := ⟨r, h, trivial⟩
  preparationFaults _ r h := ⟨r, h, rfl⟩
  preparationEscalations _ r h := ⟨r, h, rfl⟩

theorem Ages.trans {s₁ s₂ : Store} (h : Ages env s s₁) (h' : Ages env s₁ s₂) : Ages env s s₂ where
  tasks := h.tasks.comp (fun _ _ _ _ h h' => h'.trans h) h'.tasks
  attempts := h.attempts.comp (fun _ _ _ _ h h' => h'.trans h) h'.attempts
  leases := h.leases.comp (fun _ _ _ _ => LeaseRow.Renews.trans) h'.leases
  escalations := h.escalations.comp (fun _ _ _ _ h h' => h'.trans h) h'.escalations
  results := h.results.comp (fun _ _ _ _ h h' => h'.trans h) h'.results
  batches := h.batches.comp (fun _ _ _ _ _ _ => trivial) h'.batches
  preparationFaults := h.preparationFaults.comp (fun _ _ _ _ h h' => h'.trans h)
    h'.preparationFaults
  preparationEscalations := h.preparationEscalations.comp (fun _ _ _ _ h h' => h'.trans h)
    h'.preparationEscalations

instance (env : Env) : IsPreorder Store (Ages env) where
  refl := Ages.refl env
  trans _ _ _ := Ages.trans

/-- The tables that age. -/
abbrev agingTables : List TableName :=
  [.tasks, .attempts, .leases, .escalations, .results, .batches, .preparationFaults,
   .preparationEscalations]

instance : Sees agingTables Ages := by
  constructor
  intro env s s' hmod
  have ht : s'.tasks = s.tasks := hmod .tasks (by decide)
  have ha : s'.attempts = s.attempts := hmod .attempts (by decide)
  have hl : s'.leases = s.leases := hmod .leases (by decide)
  have he : s'.escalations = s.escalations := hmod .escalations (by decide)
  have hr : s'.results = s.results := hmod .results (by decide)
  have hb : s'.batches = s.batches := hmod .batches (by decide)
  have hf : s'.preparationFaults = s.preparationFaults := hmod .preparationFaults (by decide)
  have hp : s'.preparationEscalations = s.preparationEscalations :=
    hmod .preparationEscalations (by decide)
  obtain ⟨h₁, h₂, h₃, h₄, h₅, h₆, h₇, h₈⟩ := Ages.refl env s
  refine ⟨?_, ?_, ?_, ?_, ?_, ?_, ?_, ?_⟩
  all_goals simp only [ht, ha, hl, he, hr, hb, hf, hp]
  exacts [h₁, h₂, h₃, h₄, h₅, h₆, h₇, h₈]

/-! ## Writing statements -/

theorem ages_tasks : tasksT.Allows Ages fun _ _ r r' => r'.fixed = r.fixed :=
  ⟨fun _ _ _ => rfl, fun h => { Ages.refl _ _ with tasks := h }⟩

theorem ages_attempts : attemptsT.Allows Ages fun _ _ r r' => r'.fixed = r.fixed :=
  ⟨fun _ _ _ => rfl, fun h => { Ages.refl _ _ with attempts := h }⟩

theorem ages_leases : leasesT.Allows Ages fun env _ => LeaseRow.Renews env :=
  ⟨fun _ _ => .refl _, fun {env s _} h => { Ages.refl env s with leases := h }⟩

theorem ages_escalations : escalationsT.Allows Ages fun _ _ r r' => r'.fixed = r.fixed :=
  ⟨fun _ _ _ => rfl, fun h => { Ages.refl _ _ with escalations := h }⟩

theorem ages_results : resultsT.Allows Ages fun _ _ r r' => r'.fixed = r.fixed :=
  ⟨fun _ _ _ => rfl, fun h => { Ages.refl _ _ with results := h }⟩

theorem ages_batches : batchesT.Allows Ages fun _ _ _ _ => True :=
  ⟨fun _ _ _ => trivial, fun h => { Ages.refl _ _ with batches := h }⟩

theorem ages_preparationFaults : preparationFaultsT.Allows Ages fun _ _ r r' => r' = r :=
  ⟨fun _ _ _ => rfl, fun h => { Ages.refl _ _ with preparationFaults := h }⟩

theorem ages_preparationEscalations : preparationEscalationsT.Allows Ages fun _ _ r r' => r' = r :=
  ⟨fun _ _ _ => rfl, fun h => { Ages.refl _ _ with preparationEscalations := h }⟩

/-! ## Shared statements -/

theorem recomputeBatch_ages {b : BatchId} : Respects Ages (recomputeBatch b) := by
  unfold recomputeBatch
  exact .bind (.fetch _ _) fun _ => .ite (.pure _) (.bind (.examine _) fun _ =>
    .whenever (.bind (ages_batches.update fun _ _ _ _ => trivial) fun _ =>
      .whenever (.bind (.aside rfl) fun _ => .pure _)))

theorem releaseDependencies_ages {b : BatchId} : Respects Ages (releaseDependencies b) := by
  unfold releaseDependencies
  exact .bind (.query _) fun _ => .forM fun _ _ => ages_tasks.update fun _ _ _ _ => rfl

theorem createEscalationWithCause_ages {t : TaskId} {b : BatchId} {g : Option LogicalAgentId}
    {w : Option WorkstreamId} {cause : EscalationCause} {sig detail : Option String} :
    Respects Ages (createEscalationWithCause t b g w cause sig detail) :=
  createEscalationWithCause_respects (fun _ _ => ages_escalations.insert)
    (fun _ _ => ages_preparationEscalations.insert) fun _ => .aside rfl

/-! ## Submission and claims -/

theorem insertTask_ages (id : TaskId) (spec : TaskSpec) (b : BatchId) (st : TaskState)
    (mode : AgentRequirementMode) : Respects Ages (insertTask id spec b st mode) :=
  insertTask_respects fun _ => ages_tasks.insert

theorem submitBatch_ages (specs : List TaskSpec) : Respects Ages (submitBatch specs) :=
  submitBatch_respects (fun _ _ => ages_batches.insert) insertTask_ages fun _ _ => .aside rfl

theorem admitProposal_ages (verdict : Except Error (Option TaskId)) (spec : TaskSpec)
    (draft : Option (Except Error AgentTypeRef)) :
    Respects Ages (admitProposal verdict spec draft) :=
  admitProposal_respects (fun _ _ => ages_batches.insert) (fun _ _ _ _ => insertTask_ages _ _ _ _ _)
    fun _ _ => .aside rfl

theorem mergePartitions_ages (p q : PartitionId) : Respects Ages (mergePartitions p q) :=
  mergePartitions_respects (.aside rfl) (ages_tasks.update fun _ _ _ _ => rfl) (fun _ _ => .aside rfl)
    (fun _ _ => .aside rfl) fun _ _ => .aside rfl

theorem claimSelected_ages (g : LogicalAgentId) (p : PartitionId) (row : PartitionRow)
    (t : TaskId) (task : TaskRow) : Respects Ages (claimSelected g p row t task) :=
  claimSelected_respects (fun _ _ => ages_attempts.insert) (fun _ _ => ages_leases.insert)
    (fun _ _ => ages_tasks.update fun _ _ _ _ => rfl) fun _ _ => .aside rfl

theorem claimNextAvailable_ages : Respects Ages claimNextAvailable :=
  claimNextAvailable_respects claimSelected_ages

theorem finishAcquisition_ages (t : TaskId) (g : LogicalAgentId) (sel : ProvisioningSelection)
    (contract : Except Error Unit) : Respects Ages (finishAcquisition t g sel contract) :=
  finishAcquisition_respects
    (fun _ _ => .aside rfl)
    (fun _ _ _ => .aside rfl)
    fun _ _ _ => claimSelected_ages _ _ _ _ _

theorem acquireTypedTaskNewAgent_ages (t : TaskId) (sel : ProvisioningSelection)
    (typeVerdict contract : Except Error Unit) :
    Respects Ages (acquireTypedTaskNewAgent t sel typeVerdict contract) :=
  acquireTypedTaskNewAgent_respects
    (fun _ _ _ => .aside rfl)
    (fun _ _ => .aside rfl)
    fun _ => finishAcquisition_ages _ _ _ _

/-! ## Executions -/

theorem createExecutionInTx_ages (claim : Claim) (b : FrozenPhysicalExecutionBinding)
    (x : ExecutionId) (desc : Option String) :
    Respects Ages (createExecutionInTx claim b x desc) :=
  createExecutionInTx_respects
    (fun _ => .aside rfl)
    (fun _ _ => ages_attempts.update fun _ _ _ _ => rfl)
    fun _ => .aside rfl

theorem createExecutionWithSnapshot_ages (claim : Claim) (b : FrozenPhysicalExecutionBinding)
    (x : ExecutionId) (desc : String) (snap : BindingSnapshot) (catalog : Except Error Unit) :
    Respects Ages (createExecutionWithSnapshot claim b x desc snap catalog) :=
  createExecutionWithSnapshot_respects (createExecutionInTx_ages _ _ _ _) (.aside rfl) (.aside rfl)

/-- A renewal whose lease has not expired. -/
theorem renewLease_ages {l : LeaseId} {p : LeaseRow → Bool} {at_ : UnixTime}
    (h : Runs env (renewLease l p) s at_ s')
    (hlive : ∀ r, s.leases.lookup l = some r → p r = true → env.now < r.expiresAt) :
    Ages env s s' := by
  unfold renewLease at h
  obtain ⟨_, s₁, h₁, h⟩ := h.ask_bind.bind
  obtain ⟨-, rfl⟩ := h.pure
  refine ages_leases.update_runs h₁ fun k r hr hp => ⟨rfl, .inr ⟨?_, rfl⟩⟩
  obtain ⟨hk, hlive'⟩ := (Bool.and_eq_true _ _).mp hp
  rw [of_decide_eq_true hk] at hr
  exact hlive r hr hlive'

/-- The lease of a claim that passed the fence has not expired. -/
theorem Authorized.live {e : LeaseEpoch} {now : UnixTime} {r : ClaimRecords}
    (h : Authorized s a e now r) {row : LeaseRow} (hrow : s.leases.lookup r.leaseId = some row) :
    now < row.expiresAt := by
  have hlease := (leaseOfAttempt_eq_some.mp h.lease).1
  rw [hlease] at hrow
  rw [← Option.some.inj hrow]
  exact h.unexpired

theorem Confirmation.leases {e : LeaseEpoch} {x : ExecutionId} {handle : JsonValue}
    {r : ClaimRecords} {row : ExecutionRow} {s₁ s₂ s₃ : Store} {t : UnixTime}
    (c : Confirmation env s s' a e x handle r row s₁ s₂ s₃ t) : s₃.leases = s.leases :=
  (frame c.warmed .leases rfl).trans
    ((frame c.started .leases rfl).trans (frame c.confirmed .leases rfl))

theorem confirmRunningAndRenew_ages (a : AttemptId) (e : LeaseEpoch) (x : ExecutionId)
    (handle : JsonValue) : Respects Ages (confirmRunningAndRenew a e x handle) := by
  intro env s g s' h
  obtain ⟨r, row, s₁, s₂, s₃, t, c, -⟩ := confirmRunningAndRenew_runs h
  have hb₁ : Ages env s s₁ := c.confirmed.respects (.aside rfl)
  have hb₂ : Ages env s₁ s₂ := c.started.respects (ages_tasks.update fun _ _ _ _ => rfl)
  have hb₃ : Ages env s₂ s₃ := c.warmed.respects (.aside rfl)
  refine ((hb₁.trans hb₂).trans hb₃).trans (renewLease_ages c.renewed fun row _ hp => ?_)
  exact of_decide_eq_true ((Bool.and_eq_true _ _).mp hp).2

theorem heartbeat_ages (a : AttemptId) (e : LeaseEpoch) : Respects Ages (heartbeat a e) := by
  intro env s t s' h
  obtain ⟨r, hauth, h⟩ := heartbeat_runs h
  exact renewLease_ages h fun row hrow _ => hauth.live hrow

theorem renewSupervisedExecutionGuarded_ages (a : AttemptId) (e : LeaseEpoch) (x : ExecutionId)
    (fresh : UnixTime) : Respects Ages (renewSupervisedExecutionGuarded a e x fresh) := by
  intro env s out s' h
  rcases renewSupervisedExecutionGuarded_runs h with ⟨rfl, -⟩ | ⟨r, t, -, hauth, h⟩
  · exact .refl env s'
  · exact renewLease_ages h fun row hrow _ => hauth.live hrow

/-! ## Settlement -/

theorem cancelAuthority_ages : Respects Ages (cancelAuthority a) :=
  .bind (ages_attempts.update fun _ _ _ _ => rfl) fun _ =>
    ages_leases.update fun _ _ _ _ => ⟨rfl, .inl rfl⟩

/-- The statements of a settlement age the store. -/
theorem settling_ages (k : Option (TaskId × AttemptId)) : Settling Ages k := by
  intro α x hx
  cases hx with
  | task _ hf =>
    refine ages_tasks.update fun _ _ r _ => ?_
    obtain ⟨st, c, n, h⟩ := hf r
    rw [h]
    rfl
  | wake => exact releaseDependencies_ages
  | attempt => exact ages_attempts.update fun _ _ _ _ => rfl
  | lease => exact ages_leases.update fun _ _ _ _ => ⟨rfl, .inl rfl⟩
  | authority => exact cancelAuthority_ages
  | result => exact ages_results.insert
  | escalate => exact createEscalationWithCause_ages
  | batch => exact recomputeBatch_ages
  | decisions => exact ages_escalations.update fun _ _ _ _ => rfl
  | drop => exact ages_tasks.update fun _ _ _ _ => rfl
  | close => exact ages_batches.update fun _ _ _ _ => trivial
  | _ => exact .aside rfl

/-! ## Upkeep -/

theorem promoteRetryWait_ages : Respects Ages promoteRetryWait := by
  unfold promoteRetryWait
  exact .bind .ask fun _ => .bind (.query _) fun _ => .bind (ages_tasks.update fun _ _ _ _ => rfl)
    fun _ => .pure _

theorem closeEscalation_ages {e : EscalationId} {resolve : Bool} :
    Respects Ages (closeEscalation e resolve) :=
  .whenever (ages_escalations.update fun _ _ _ _ => rfl)

theorem resolveEscalation_ages (e : EscalationId) (op : String) (q : Bool) :
    Respects Ages (resolveEscalation e op q) :=
  resolveEscalation_respects (fun t _ h => settling_ages none (.task (a := t) .any h))
    (fun _ => ages_batches.update fun _ _ _ _ => trivial) (fun _ _ => .aside rfl) (fun _ _ => .aside rfl) (fun _ => closeEscalation_ages)
    fun _ => recomputeBatch_ages

theorem recordPreparationFault_ages (claim : Claim) (kind : PreparationFaultKind) :
    Respects Ages (recordPreparationFault claim kind) := by
  unfold recordPreparationFault
  exact .bind (.examine _) fun _ => .bind (.require _ _) fun _ => .bind (.require _ _) fun _ =>
    .bind (.require _ _) fun _ => .bind (.query _) fun _ =>
    .whenever ages_preparationFaults.insert

theorem ackResult_ages (id : ResultId) (consumer : String) :
    Respects Ages (ackResult id consumer) := by
  unfold ackResult
  exact .bind (.fetch _ _) fun _ => .whenever (ages_results.update fun _ _ _ _ => rfl)

/-! ## Operations -/

theorem effect_ages {α : Type} {x : KernelTx α} (h : Respects Ages x) : Respects Ages (effect x) :=
  .bind h fun _ => .pure _

/-- **Every committed operation ages the store.** -/
theorem exec_ages (op : Op) : Respects Ages op.exec := by
  cases op with
  | mergePartitions => exact effect_ages (mergePartitions_ages _ _)
  | submitBatch => exact effect_ages (submitBatch_ages _)
  | admitProposal => exact effect_ages (admitProposal_ages _ _ _)
  | claimNextAvailable => exact effect_ages claimNextAvailable_ages
  | acquireTypedTaskExisting => exact effect_ages (finishAcquisition_ages _ _ _ _)
  | acquireTypedTaskNewAgent => exact effect_ages (acquireTypedTaskNewAgent_ages _ _ _ _)
  | createExecution =>
    exact effect_ages (.bind (.aside rfl) fun _ => createExecutionInTx_ages _ _ _ _)
  | createExecutionWithSnapshot =>
    exact effect_ages (createExecutionWithSnapshot_ages _ _ _ _ _ _)
  | confirmRunningAndRenew => exact effect_ages (confirmRunningAndRenew_ages _ _ _ _)
  | heartbeat => exact effect_ages (heartbeat_ages _ _)
  | renewSupervisedExecutionGuarded =>
    exact effect_ages (renewSupervisedExecutionGuarded_ages _ _ _ _)
  | ackSuccess | nack | reportConfigurationUnavailable | nackPreservingPhysicalHistory
  | abortBeforePhysicalStart | cancelTask | cancelBatch | expireLeases =>
    exact Settling.exec settling_ages rfl
  | promoteRetryWait => exact effect_ages promoteRetryWait_ages
  | resolveEscalation => exact resolveEscalation_ages _ _ _
  | recordPreparationFault => exact recordPreparationFault_ages _ _
  | ackResult => exact ackResult_ages _ _
  | _ =>
    -- no other operation writes a table that ages
    exact .aside (by simp [Op.footprint])

/-- **Nothing is forgotten.** No call removes a row of these tables or changes its fixed columns, and
    a lease is extended only before it expires. -/
theorem every_call_ages (s : Store) (c : Call) : Ages c.1 s (s.call c) := by
  rcases step_cases Op.exec s c with ⟨-, h⟩ | ⟨-, h⟩
  · exact h.respects (exec_ages c.2)
  · rw [show s.call c = s from h]
    exact .refl c.1 s

end Agentype

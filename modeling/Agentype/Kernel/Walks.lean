import Agentype.Kernel.Run

/-!
# `Agentype.Kernel.Walks` — what the shared transactions are made of

A relation between stores that allows each statement of a transaction is respected by the
transaction. The kernel's larger transactions are taken apart once, here, for an arbitrary
relation: a modifies clause, a monotonicity fact and a frame condition are then checked at the
statements only.

## Contents
- Reads: `newId_respects`, `validateAuthorityTx_respects`, `executionForAttempt_respects`.
- `createEscalationWithCause_respects`, `resolveEscalation_respects`: decisions.
- `releaseAgent_respects`: agents.
- `mergePartitions_respects`, `submitBatch_respects`, `admitProposal_respects`.
- `claimSelected_respects`, `finishAcquisition_respects`, `claimNextAvailable_respects`: grants.
- `createExecutionInTx_respects`, `createExecutionWithSnapshot_respects`: executions.
-/

namespace Agentype

open Relational Tx Store

variable {R : Env → Store → Store → Prop} [∀ env, IsPreorder Store (R env)]
variable {t : TaskId}

/-! ## Reads -/

theorem newId_respects (kind : String) : Respects R (newId kind) := by
  unfold newId
  exact .bind .ask fun _ => .bind .mint fun _ => .pure _

theorem validateAuthorityTx_respects (a : AttemptId) (e : LeaseEpoch) :
    Respects R (validateAuthorityTx a e) := by
  unfold validateAuthorityTx
  exact .bind .ask fun _ => .examine _

theorem executionForAttempt_respects (a : AttemptId) (x : Option ExecutionId) :
    Respects R (executionForAttempt a x) := by
  unfold executionForAttempt requiredExecution
  split
  · exact .query _
  · exact .bind (.fetch _ _) fun _ => .bind (.require _ _) fun _ => .pure _

theorem assignId_respects (spec : TaskSpec) : Respects R spec.assignId := by
  unfold TaskSpec.assignId
  split
  · exact .pure _
  · exact .bind (newId_respects _) fun _ => .pure _

/-! ## Decisions -/

/-- A change of a task that ends or hands back a claim. -/
def Parks (f : TaskRow → TaskRow) : Prop :=
  ∀ r, ∃ st c n, f r = { r with state := st, currentAttemptId := c, nextEligibleAt := n }

/-- An escalation is one row, the link of a control-plane cause, and one event. -/
theorem createEscalationWithCause_respects {b : BatchId} {g : Option LogicalAgentId}
    {w : Option WorkstreamId} {cause : EscalationCause} {sig detail : Option String}
    (hinsert : ∀ id row,
      Respects R (insertInto escalationsT constraintViolation id row : KernelTx Unit))
    (hlink : ∀ id a,
      Respects R (insertInto preparationEscalationsT constraintViolation id a : KernelTx Unit))
    (hevent : ∀ id, Respects R (enqueueEvent .decisionRequired id)) :
    Respects R (createEscalationWithCause t b g w cause sig detail) := by
  unfold createEscalationWithCause
  refine .bind (.query _) fun existing => ?_
  split
  · exact .bind (.examine _) fun _ => .bind (.require _ _) fun _ => .pure _
  · refine .bind (newId_respects _) fun _ => .bind (hinsert _ _) fun _ => ?_
    split
    · unfold attachEscalation
      exact .bind (.bind (.examine _) fun _ => .bind (.require _ _) fun _ => hlink _ _) fun _ =>
        .bind (hevent _) fun _ => .pure _
    · exact .bind (hevent _) fun _ => .pure _

/-- A decision moves its task, may reactivate the batch, settles what is left of the writer, closes
    its escalation and recomputes the batch. -/
theorem resolveEscalation_respects {id : EscalationId} {operation : String} {q : Bool}
    (htask : ∀ t f, Parks f → Respects R (updateTask t f))
    (hbatch : ∀ p, Respects R (updateIn batchesT constraintViolation p fun b =>
      { b with state := .active } : KernelTx Unit))
    (hpresence : ∀ action p, Respects R (settlePresence action p q))
    (hrevive : ∀ revive g, Respects R (reviveEscalated revive g))
    (hclose : ∀ resolve, Respects R (closeEscalation id resolve))
    (hrecompute : ∀ b, Respects R (recomputeBatch b)) :
    Respects R (resolveEscalation id operation q) := by
  unfold resolveEscalation
  refine .bind (.examine _) fun _ => .bind (.fetch _ _) fun row => .bind (.fetch _ _) fun _ =>
    .bind (.examine _) fun _ => .bind (.query _) fun p => .bind (.examine _) fun plan => ?_
  unfold applyResolution
  split
  · exact .bind (hpresence _ _) fun _ => .bind (hrevive _ _) fun _ => .bind (hclose _) fun _ =>
      hrecompute _
  · exact .bind (htask _ _ fun _ => ⟨_, _, _, rfl⟩) fun _ => .bind (.whenever (hbatch _)) fun _ =>
      .bind (hpresence _ _) fun _ => .bind (hrevive _ _) fun _ => .bind (hclose _) fun _ =>
      hrecompute _
  · exact .bind (htask _ _ fun _ => ⟨_, _, _, rfl⟩) fun _ => .bind (hclose _) fun _ =>
      .whenever (hrecompute _)

/-! ## Agents -/

/-- The release of an agent writes the row of the agent and fences hosts of it. -/
theorem releaseAgent_respects {g : LogicalAgentId}
    (hagent : ∀ f, Respects R (updateAgent g f))
    (hlose : ∀ p, Respects R (loseIncarnations g p)) : Respects R (releaseAgent g) := by
  have hretire : Respects R (retireLogicalAgent g) := .bind (hlose _) fun _ => hagent _
  unfold releaseAgent
  refine .bind .ask fun _ => .bind (.fetch _ _) fun agent => .ite hretire ?_
  refine .bind (.examine _) fun _ => .bind (.examine _) fun _ => .ite (hagent _) (.bind ?_ ?_)
  · unfold commitPartitionCutover planCutover
    refine .bind (.bind .ask fun _ => .bind (.examine _) fun _ => .bind (.query _) fun _ =>
      .bind (.examine _) fun _ => .pure _) fun plan => ?_
    split
    · exact .fail _
    · exact .fail _
    · exact .fail _
    · exact .bind (hlose _) fun _ => .bind (hagent _) fun _ => .pure _
  · intro target
    split
    · exact hretire
    · exact hagent _

/-! ## Topology and submission -/

/-- A merge redirects tasks and agents, and writes both partitions. -/
theorem mergePartitions_respects {source target : PartitionId} (hrevision : Respects R insertRevision)
    (htask : Respects R (updateIn tasksT constraintViolation
      (fun _ t => decide (t.partition = source) && !t.state.isTerminal)
      fun t => { t with partition := target } : KernelTx Unit))
    (hagents : ∀ p f, Respects R (updateIn logicalAgentsT constraintViolation p f : KernelTx Unit))
    (hmember : ∀ g a, Respects R (mergeMember source target g a))
    (hpartition : ∀ p f, Respects R (updatePartition p f)) :
    Respects R (mergePartitions source target) := by
  unfold mergePartitions
  exact .bind (.require _ _) fun _ => .bind (.fetch _ _) fun _ => .bind (.fetch _ _) fun _ =>
    .bind (.examine _) fun _ => .bind hrevision fun _ => .bind htask fun _ =>
    .bind (hagents _ _) fun _ => .bind (.query _) fun _ =>
    .bind (.forM fun x _ => hmember x.1 x.2) fun _ => .bind (hagents _ _) fun _ =>
    .bind (hpartition _ _) fun _ => .bind (hpartition _ _) fun _ => .pure _

theorem submitBatch_respects {specs : List TaskSpec}
    (hbatch : ∀ id row, Respects R (insertInto batchesT constraintViolation id row : KernelTx Unit))
    (htask : ∀ id spec b st mode, Respects R (insertTask id spec b st mode))
    (hdependency : ∀ id d, Respects R (insertDependency id d)) :
    Respects R (submitBatch specs) := by
  unfold submitBatch
  refine .bind (.require _ _) fun _ => .bind (.require _ _) fun _ => .bind .ask fun _ =>
    .bind (newId_respects _) fun _ => .bind (hbatch _ _) fun _ =>
    .bind (.mapM fun spec _ => assignId_respects spec) fun _ => .bind (.examine _) fun _ =>
    .bind (.examine _) fun _ => .bind (.forM fun spec _ => ?_) fun _ =>
    .bind (.forM fun id _ => .forM fun d _ => hdependency id d) fun _ => .pure _
  unfold submitTask
  exact .bind (.fetch _ _) fun _ => .bind (.orFail _ _) fun _ => htask _ _ _ _ _

theorem admitProposal_respects {verdict : Except Error (Option TaskId)} {spec : TaskSpec}
    {draft : Option (Except Error AgentTypeRef)}
    (hbatch : ∀ id row, Respects R (insertInto batchesT constraintViolation id row : KernelTx Unit))
    (htask : ∀ id b st mode, Respects R (insertTask id spec b st mode))
    (hrequirement : ∀ id d, Respects R (insertTaskAgentRequirement id d)) :
    Respects R (admitProposal verdict spec draft) := by
  unfold admitProposal
  refine .bind (.examine _) fun replayed => ?_
  split
  · exact .pure _
  · unfold admitTask
    exact .bind (.require _ _) fun _ => .bind (.fetch _ _) fun _ =>
      .bind (assignId_respects spec) fun _ => .bind (newId_respects _) fun _ =>
      .bind (hbatch _ _) fun _ => .bind (htask _ _ _ _) fun _ =>
      .bind (.forM fun d _ => hrequirement _ d) fun _ => .pure _

theorem insertTask_respects {id : TaskId} {spec : TaskSpec} {b : BatchId} {st : TaskState}
    {mode : AgentRequirementMode}
    (hinsert : ∀ row, Respects R (insertInto tasksT constraintViolation id row : KernelTx Unit)) :
    Respects R (insertTask id spec b st mode) := by
  unfold insertTask
  exact .bind .ask fun _ => .bind (.query _) fun _ => .bind (.require _ _) fun _ => hinsert _

/-! ## Grants -/

/-- A claim proper writes a new attempt, its lease, the queued task and the agent. -/
theorem jsonLoad_respects (v : JsonValue) : Respects R (jsonLoad v) :=
  .bind .ask fun _ => .examine _

theorem claimSelected_respects {g : LogicalAgentId} {p : PartitionId} {row : PartitionRow}
    {task : TaskRow}
    (hattempt : ∀ id r, Respects R (insertInto attemptsT constraintViolation id r : KernelTx Unit))
    (hlease : ∀ id r, Respects R (insertInto leasesT constraintViolation id r : KernelTx Unit))
    (htask : ∀ a e, Respects R (updateIn tasksT constraintViolation
      (fun k r => decide (k = t) && decide (r.state = .queued)) fun r =>
      { r with state := .leased, currentAttemptId := a, fencingEpoch := e } : KernelTx Unit))
    (hagent : ∀ p f, Respects R (updateIn logicalAgentsT constraintViolation p f : KernelTx Unit)) :
    Respects R (claimSelected g p row t task) := by
  unfold claimSelected
  exact .bind .ask fun _ => .bind (.query _) fun _ => .bind (newId_respects _) fun _ =>
    .bind (newId_respects _) fun _ => .bind (hattempt _ _) fun _ => .bind (hlease _ _) fun _ =>
    .bind (.query _) fun _ => .bind (htask _ _) fun _ => .bind (.require _ _) fun _ =>
    .bind (hagent _ _) fun _ => .bind (jsonLoad_respects _) fun _ =>
    .bind (jsonLoad_respects _) fun _ => .pure _

/-- An acquisition hosts the agent, then claims. -/
theorem finishAcquisition_respects {g : LogicalAgentId} {sel : ProvisioningSelection}
    {contract : Except Error Unit}
    (hresolve : ∀ target ref, Respects R (resolveIncarnation g target ref sel))
    (hprovision : ∀ i ref b, Respects R (provisionIncarnation g i ref sel b))
    (hclaim : ∀ p row task, Respects R (claimSelected g p row t task)) :
    Respects R (finishAcquisition t g sel contract) := by
  unfold finishAcquisition
  exact .bind .ask fun _ => .bind (.fetch _ _) fun _ => .bind (.fetch _ _) fun _ =>
    .bind (.fetch _ _) fun _ => .bind (.require _ _) fun _ => .bind (.require _ _) fun _ =>
    .bind (.examine _) fun _ => .bind (.orFail _ _) fun _ => .bind (.fetch _ _) fun _ =>
    .bind (.require _ _) fun _ => .bind (.examine _) fun _ => .bind (.orFail _ _) fun _ =>
    .bind (.require _ _) fun _ => .bind (.require _ _) fun _ => .bind (.examine _) fun _ =>
    .bind (.fetch _ _) fun _ => .bind (hresolve _ _) fun _ => .bind (hprovision _ _ _) fun _ =>
    .bind (hclaim _ _ _) fun _ => .pure _

theorem claimNextAvailable_respects
    (hclaim : ∀ g p row t task, Respects R (claimSelected g p row t task)) :
    Respects R claimNextAvailable := by
  unfold claimNextAvailable
  refine .bind .ask fun _ => .bind (.query _) fun selected => ?_
  split
  · exact .pure _
  · exact .bind (.fetch _ _) fun _ => .bind (hclaim _ _ _ _ _) fun _ => .pure _

theorem acquireTypedTaskNewAgent_respects {sel : ProvisioningSelection}
    {typeVerdict contract : Except Error Unit}
    (hbirth : ∀ p w tags, Respects R (birthAgent p w tags))
    (hbind : ∀ g ref, Respects R (bindLogicalAgentType g ref typeVerdict))
    (hfinish : ∀ g, Respects R (finishAcquisition t g sel contract)) :
    Respects R (acquireTypedTaskNewAgent t sel typeVerdict contract) := by
  unfold acquireTypedTaskNewAgent
  exact .bind (.fetch _ _) fun _ => .bind (.examine _) fun _ => .bind (.orFail _ _) fun _ =>
    .bind (hbirth _ _ _) fun _ => .bind (hbind _ _) fun _ => hfinish _

/-! ## Executions -/

theorem createExecutionInTx_respects {claim : Claim} {b : FrozenPhysicalExecutionBinding}
    {x : ExecutionId} {desc : Option String}
    (hhost : ∀ attempt, Respects R (incarnationForAttempt attempt))
    (hattempt : ∀ p i, Respects R (updateIn attemptsT constraintViolation p fun a =>
      { a with incarnationId := some i } : KernelTx Unit))
    (hinsert : ∀ row, Respects R (insertInto executionsT constraintViolation x row : KernelTx Unit)) :
    Respects R (createExecutionInTx claim b x desc) := by
  unfold createExecutionInTx
  exact .bind (.require _ _) fun _ => .bind (.require _ _) fun _ =>
    .bind (validateAuthorityTx_respects _ _) fun _ => .bind (.examine _) fun _ =>
    .bind (.require _ _) fun _ => .bind (.examine _) fun _ => .bind (hhost _) fun _ =>
    .bind (.fetch _ _) fun _ => .bind (.query _) fun _ => .bind (.require _ _) fun _ =>
    .bind (hattempt _ _) fun _ => .bind (newId_respects _) fun _ => .bind (hinsert _) fun _ =>
    .bind (jsonLoad_respects _) fun _ => .bind (jsonLoad_respects _) fun _ =>
    .bind (.fetch _ _) fun _ => .bind (jsonLoad_respects _) fun _ =>
    .bind (jsonLoad_respects _) fun _ => .bind (.examine _) fun _ => .pure _

theorem createExecutionWithSnapshot_respects {claim : Claim} {b : FrozenPhysicalExecutionBinding}
    {x : ExecutionId} {desc : String} {snap : BindingSnapshot} {catalog : Except Error Unit}
    (hcreate : Respects R (createExecutionInTx claim b x (some desc)))
    (hmark : Respects R (updateExecution x fun e => { e with bindingSnapshotMode := .snapshot }))
    (hsnap : Respects R (insertInto bindingSnapshotsT constraintViolation x snap : KernelTx Unit)) :
    Respects R (createExecutionWithSnapshot claim b x desc snap catalog) := by
  unfold createExecutionWithSnapshot
  exact .bind hcreate fun _ => .bind (.examine _) fun _ => .bind (.examine _) fun _ =>
    .bind hmark fun _ => .bind hsnap fun _ => .pure _

end Agentype

import Agentype.Kernel.Footprint

/-!
# `Agentype.Kernel.OpFootprint` — which tables each operation writes

The modifies clauses of the kernel's operations, assembled from those of their statements. A clause
is stated where a function branches on what it read, or where its footprint has a name; the rest is
inferred.
-/

namespace Agentype

open Relational Tx Store

-- a clause is inferred in as many steps as the operation has statements
set_option synthInstance.maxSize 100000

variable {α : Type} {W : List TableName} {b : BatchId} {t : TaskId} {a : AttemptId}
  {e : LeaseEpoch} {x : ExecutionId} {g : LogicalAgentId} {p q : PartitionId} {n : Int}
  {i : IncarnationId} {w : Option WorkstreamId} {r : ClaimRecords} {c : FailureClass}
  {tc qc : Bool} {sig detail : Option String} {h : JsonValue} {target : String}
  {row : AgentRow} {task : TaskRow} {claim : Claim} {ref : AgentTypeRef}
  {sel : ProvisioningSelection} {verdict contract : Except Error Unit} {spec : TaskSpec}
  {frozen : FrozenPhysicalExecutionBinding} {y : Option ExecutionId}
  {run : Option (ExecutionId × ExecutionRow)} {expired : ExpireRow}

instance {y : KernelTx α} [Touches W y] : Touches W (effect y) := by
  unfold effect
  exact .infer (by simp)

/-! ## Topology -/

instance : Touches [.topologyRevision] insertRevision := by
  refine ⟨fun env s a s' h => ?_⟩
  unfold insertRevision at h
  obtain ⟨_, s₁, hsave, hpure⟩ := h.load_bind.bind
  obtain rfl := hsave.save
  obtain ⟨-, rfl⟩ := hpure.pure
  intro i hi
  cases i <;> first | rfl | exact absurd (by decide) hi

instance {f : PartitionRow → PartitionRow} : Touches [.poolPartitions] (updatePartition p f) := by
  unfold updatePartition
  exact .infer rfl

instance : Touches [.poolPartitions, .topologyRevision] (resizePartition p n) := by
  unfold resizePartition
  exact .infer rfl

instance {spec : PartitionSpec} :
    Touches [.poolPartitions, .topologyRevision] (upsertPartition spec) := by
  unfold upsertPartition
  refine .bind (.infer rfl) fun _ => .bind (.infer rfl) fun existing => ?_
  split
  · unfold confirmPartition
    exact .infer rfl
  · unfold declarePartition
    exact .infer rfl

instance {name : String} {ref : Option String} {id : Option WorkstreamId} :
    Touches [.workstreams] (createWorkstream name ref id) := by
  unfold createWorkstream
  exact .infer rfl

instance {m : PoolMemberSnapshot} : Touches [.logicalAgents, .incarnations] (shrinkMember m) := by
  unfold shrinkMember
  split <;> exact .infer rfl

instance {x : PartitionId × PartitionRow} :
    Touches [.logicalAgents, .incarnations] (reconcilePartition x) := by
  unfold reconcilePartition
  exact .infer rfl

instance : Touches [.logicalAgents, .incarnations] reconcilePool := by
  unfold reconcilePool
  exact .infer rfl

instance : Touches [.logicalAgents, .incarnations] (moveMember p g row) := by
  unfold moveMember
  refine .bind (.infer rfl) fun _ => ?_
  split <;> exact .infer rfl

instance : Touches [.poolPartitions, .topologyRevision, .logicalAgents, .incarnations]
    (moveCapacity p q n) := by
  unfold moveCapacity
  exact .infer rfl

instance : Touches [.logicalAgents, .incarnations] (mergeMember p q g row) := by
  unfold mergeMember
  exact .infer rfl

instance : Touches [.poolPartitions, .topologyRevision, .tasks, .logicalAgents, .incarnations]
    (mergePartitions p q) := by
  unfold mergePartitions
  exact .infer rfl

instance {o : Option α} {f : α → String} : Touches [] (rejectFound o f) := by
  unfold rejectFound
  split <;> exact .infer rfl

instance : Touches [.logicalAgents, .incarnations] (departMember g row) := by
  unfold departMember
  split
  · exact .infer rfl
  · split <;> exact .infer rfl

instance : Touches [.poolPartitions, .topologyRevision, .logicalAgents, .incarnations]
    (retirePartition p) := by
  unfold retirePartition
  exact .infer rfl

/-! ## Submission and claims -/

instance : Touches [] spec.assignId := by
  unfold TaskSpec.assignId
  split <;> exact .infer rfl

instance {st : TaskState} {mode : AgentRequirementMode} :
    Touches [.tasks] (insertTask t spec b st mode) := by
  unfold insertTask
  exact .infer rfl

instance {d : TaskId} : Touches [.taskDependencies] (insertDependency t d) := by
  unfold insertDependency
  exact .infer rfl

instance {specs : List TaskSpec} :
    Touches [.batches, .tasks, .taskDependencies] (submitBatch specs) := by
  unfold submitBatch submitTask
  exact .infer rfl

instance {resolved : Except Error AgentTypeRef} :
    Touches [.taskAgentRequirements] (insertTaskAgentRequirement t resolved) := by
  unfold insertTaskAgentRequirement
  exact .infer rfl

instance {verdict : Except Error (Option TaskId)} {draft : Option (Except Error AgentTypeRef)} :
    Touches [.batches, .tasks, .taskAgentRequirements] (admitProposal verdict spec draft) := by
  unfold admitProposal
  refine .bind (.infer rfl) fun replayed => ?_
  split
  · exact .infer rfl
  · unfold admitTask
    exact .infer rfl

instance : Touches [.logicalAgents] ensureTaskConsumers := by
  unfold ensureTaskConsumers ensureConsumer
  exact .infer rfl

instance {prow : PartitionRow} :
    Touches [.attempts, .leases, .tasks, .logicalAgents] (claimSelected g p prow t task) := by
  unfold claimSelected
  exact .infer rfl

instance : Touches [.attempts, .leases, .tasks, .logicalAgents] claimNextAvailable := by
  unfold claimNextAvailable
  refine .bind (.infer rfl) fun _ => .bind (.infer rfl) fun selected => ?_
  split <;> exact .infer rfl

instance : Touches [.logicalAgents, .logicalAgentTypeBindings]
    (bindLogicalAgentType g ref verdict) := by
  unfold bindLogicalAgentType
  exact .infer rfl

instance : Touches [.incarnations] (rollover g i target) := by
  unfold rollover fenceIdleIncarnation
  exact .infer rfl

instance : Touches [.incarnations] (resolveIncarnation g target ref sel) := by
  unfold resolveIncarnation
  refine .bind (.infer rfl) fun active => ?_
  split
  · exact .infer rfl
  · refine .bind (.infer rfl) fun _ => .bind (.infer rfl) fun existing => .bind (.infer rfl) fun _ => ?_
    split <;> exact .infer rfl

instance {reused : Option ProvisioningBinding} :
    Touches [.incarnations, .provisioningBindings] (provisionIncarnation g i ref sel reused) := by
  unfold provisionIncarnation
  split
  · exact .infer rfl
  · unfold markIncarnationProvisioned
    exact .infer rfl

instance : Touches [.incarnations, .provisioningBindings, .attempts, .leases, .tasks,
    .logicalAgents] (finishAcquisition t g sel contract) := by
  unfold finishAcquisition
  exact .infer rfl

instance : Touches [.incarnations, .provisioningBindings, .attempts, .leases, .tasks,
    .logicalAgents] (acquireTypedTaskExisting t g sel contract) := by
  unfold acquireTypedTaskExisting
  exact .infer rfl

instance : Touches [.incarnations, .provisioningBindings, .attempts, .leases, .tasks,
    .logicalAgents, .logicalAgentTypeBindings]
    (acquireTypedTaskNewAgent t sel verdict contract) := by
  unfold acquireTypedTaskNewAgent
  exact .infer rfl

/-! ## Executions -/

instance : Touches [] (validateAuthorityTx a e) := by
  unfold validateAuthorityTx
  exact .infer rfl

instance : Touches [] (executionOfClaim a x) := by
  unfold executionOfClaim
  exact .infer rfl

instance : Touches [] (executionForAttempt a y) := by
  unfold executionForAttempt
  split <;> exact .infer rfl

instance : Touches [] (resolveExecutionBinding claim) := by
  unfold resolveExecutionBinding
  exact .infer rfl

instance {attempt : AttemptRow} : Touches [.incarnations] (incarnationForAttempt attempt) := by
  unfold incarnationForAttempt
  split <;> exact .infer rfl

instance {desc : Option String} :
    Touches [.incarnations, .attempts, .executions] (createExecutionInTx claim frozen x desc) := by
  unfold createExecutionInTx
  exact .infer rfl

instance : Touches [.incarnations, .attempts, .executions] (createExecution claim frozen) := by
  unfold createExecution
  exact .infer rfl

instance {desc : String} {snap : BindingSnapshot} :
    Touches [.incarnations, .attempts, .executions, .bindingSnapshots]
      (createExecutionWithSnapshot claim frozen x desc snap verdict) := by
  unfold createExecutionWithSnapshot
  exact .infer rfl

instance {l : LeaseId} {c : LeaseRow → Bool} : Touches [.leases] (renewLease l c) := by
  unfold renewLease
  exact .infer rfl

instance {i : Option IncarnationId} : Touches [.incarnations] (warmIncarnation i h) := by
  unfold warmIncarnation
  split <;> exact .infer rfl

instance : Touches [.executions, .tasks, .incarnations, .leases]
    (confirmRunningAndRenew a e x h) := by
  unfold confirmRunningAndRenew
  exact .infer rfl

instance {h : Option JsonValue} : Touches [.incarnations] (updateIncarnationHandle i h) := by
  unfold updateIncarnationHandle
  split <;> exact .infer rfl

instance {st : ExecutionState} {h d : Option JsonValue} {c : Option FailureClass} :
    Touches [.executions, .incarnations] (recordPhysicalOutcome x st h d c tc qc) := by
  unfold recordPhysicalOutcome
  exact .infer rfl

instance : Touches [.executions, .incarnations] (recordRuntimeHandleHint x h) := by
  unfold recordRuntimeHandleHint
  exact .infer rfl

instance {st : ExecutionState} {h d : Option JsonValue} {c : Option FailureClass} :
    Touches [.executions, .incarnations]
      (recordPendingPhysicalTerminal x st h d detail c tc qc) := by
  unfold recordPendingPhysicalTerminal
  exact .infer rfl

instance : Touches [.leases] (heartbeat a e) := by
  unfold heartbeat
  exact .infer rfl

instance {fresh : UnixTime} :
    Touches [.leases] (renewSupervisedExecutionGuarded a e x fresh) := by
  unfold renewSupervisedExecutionGuarded renewFresh renewRunning
  exact .infer rfl

instance : Touches [.checkpoints, .logicalAgents] (promoteCheckpoint a e h) := by
  unfold promoteCheckpoint promoteCheckpointTx
  refine .bind (.infer rfl) fun _ => .bind (.infer rfl) fun _ => .bind (.infer rfl) fun keys => ?_
  split <;> exact .infer rfl

/-! ## Settlement -/

/-- The tables a suspension writes. -/
abbrev suspensionTables : List TableName :=
  [.attempts, .leases, .tasks, .logicalAgents, .incarnations, .escalations,
   .preparationEscalations, .notificationOutbox, .batches]

instance {g : Option LogicalAgentId} :
    Touches [.escalations, .preparationEscalations, .notificationOutbox]
      (createEscalation t b g w c sig detail) := by
  unfold createEscalation
  exact .infer rfl

instance : Touches suspensionTables (suspendCurrent a r c sig detail) := by
  unfold suspendCurrent
  exact .infer rfl

instance {d : JsonValue} : Touches [.executions] (succeedExecution d qc run) := by
  unfold succeedExecution
  split <;> exact .infer rfl

instance : Touches suspensionTables (retryLater a r) := by
  unfold retryLater
  exact .infer rfl

instance : Touches suspensionTables (retryOrSuspend a r c qc) := by
  unfold retryOrSuspend
  exact .infer rfl

instance : Touches (.failures :: suspensionTables) (nackPreservingPhysicalHistory a e c y) := by
  unfold nackPreservingPhysicalHistory
  exact .infer rfl

instance : Touches [.executions] (nackExecution c tc qc run) := by
  unfold nackExecution
  split <;> exact .infer rfl

/-- The tables a settlement of a claim writes. -/
abbrev settlementTables : List TableName :=
  .executions :: .failures :: .results :: suspensionTables

/-- Without a success there is no result. -/
abbrev failureTables : List TableName := .executions :: .failures :: suspensionTables

instance {d : JsonValue} : Touches failureTables (ackNotQuiescent a r run d) := by
  unfold ackNotQuiescent
  exact .infer rfl

instance {d : JsonValue} :
    Touches settlementTables (ackComplete a r run d detail tc qc) := by
  unfold ackComplete
  exact .infer rfl

instance {d : JsonValue} : Touches settlementTables (ackSuccess a e y d detail tc qc) := by
  unfold ackSuccess
  exact .infer rfl

instance {reusable : Bool} : Touches failureTables (nack a e c y tc qc reusable) := by
  unfold nack
  exact .infer rfl

instance : Touches failureTables (reportConfigurationUnavailable a e) := by
  unfold reportConfigurationUnavailable
  exact .infer rfl

instance : Touches [.executions, .attempts, .leases, .tasks, .logicalAgents, .incarnations]
    (abortBeforePhysicalStart a e x) := by
  unfold abortBeforePhysicalStart
  exact .infer rfl

instance : Touches [.attempts, .leases] (cancelAuthority a) := by
  unfold cancelAuthority
  exact .infer rfl

instance {detail : String} : Touches [.logicalAgents, .incarnations, .escalations,
    .preparationEscalations, .notificationOutbox] (cancelAgent t b w g qc detail) := by
  unfold cancelAgent
  exact .infer rfl

instance : Touches [.executions] (cancelExecution qc run) := by
  unfold cancelExecution
  split <;> exact .infer rfl

instance {a : Option AttemptId} : Touches [.executions, .attempts, .leases, .logicalAgents,
    .incarnations, .escalations, .preparationEscalations, .notificationOutbox]
    (cancelCurrentAttempt t task qc a) := by
  unfold cancelCurrentAttempt
  split <;> exact .infer rfl

instance : Touches (.executions :: suspensionTables) (cancelTask t qc) := by
  unfold cancelTask
  exact .infer rfl

instance {x : AttemptId × AttemptRow × TaskRow} : Touches [.attempts, .leases, .logicalAgents,
    .incarnations, .escalations, .preparationEscalations, .notificationOutbox]
    (cancelBatchAttempt b x) := by
  unfold cancelBatchAttempt
  exact .infer rfl

instance : Touches suspensionTables (cancelBatch b) := by
  unfold cancelBatch cancelOpenBatch
  exact .infer rfl

/-! ## Upkeep -/

instance {kind : PreparationFaultKind} :
    Touches suspensionTables (expireFaulted expired kind) := by
  unfold expireFaulted
  exact .infer rfl

instance {i : Option IncarnationId} : Touches [.incarnations] (loseIncarnation i) := by
  unfold loseIncarnation
  split <;> exact .infer rfl

instance : Touches (.failures :: suspensionTables) (expireLost expired) := by
  unfold expireLost expireRetry expireSuspend
  exact .infer rfl

instance : Touches (.failures :: suspensionTables) (expireClaim expired) := by
  unfold expireClaim
  refine .bind (.infer rfl) fun fault => .bind (.infer rfl) fun _ => .bind (.infer rfl) fun _ => .bind (.infer rfl) fun _ => ?_
  split <;> exact .infer rfl

instance : Touches [.escalations, .preparationEscalations, .notificationOutbox, .batches]
    restoreMissingEscalations := by
  unfold restoreMissingEscalations restoreEscalation
  exact .infer rfl

instance : Touches (.failures :: suspensionTables) (expireLeases qc) := by
  unfold expireLeases
  exact .infer rfl

instance : Touches [.tasks] promoteRetryWait := by
  unfold promoteRetryWait
  exact .infer rfl

instance {iso : Bool} : Touches [.executions] (finalizeEscalatedExecution y iso qc) := by
  unfold finalizeEscalatedExecution
  split <;> exact .infer rfl

instance {i : Option IncarnationId} :
    Touches [.incarnations] (finalizeEscalatedIncarnation i qc) := by
  unfold finalizeEscalatedIncarnation
  split <;> exact .infer rfl

instance {action : EscalatedWriterPresenceAction} {presence : EscalatedPresence} :
    Touches [.executions, .incarnations] (settlePresence action presence qc) := by
  unfold settlePresence finalizeEscalatedWriterPresence
  exact .infer rfl

instance {g : Option LogicalAgentId} :
    Touches [.logicalAgents, .incarnations] (reviveEscalated qc g) := by
  unfold reviveEscalated
  split <;> exact .infer rfl

instance {id : EscalationId} : Touches [.escalations] (closeEscalation id qc) := by
  unfold closeEscalation
  exact .infer rfl

/-- The tables a decision on an escalation writes. -/
abbrev resolutionTables : List TableName :=
  [.tasks, .batches, .executions, .incarnations, .logicalAgents, .escalations, .notificationOutbox]

instance {id : EscalationId} {operation : String} :
    Touches resolutionTables (resolveEscalation id operation qc) := by
  unfold resolveEscalation applyResolution
  refine .bind (.infer rfl) fun _ => .bind (.infer rfl) fun _ => .bind (.infer rfl) fun _ => .bind (.infer rfl) fun _ =>
    .bind (.infer rfl) fun _ => .bind (.infer rfl) fun plan => ?_
  split <;> exact .infer rfl

instance : Touches [.logicalAgents] (reviveAgent g target) := by
  unfold reviveAgent
  exact .infer rfl

instance {kind : PreparationFaultKind} :
    Touches [.preparationFaults] (recordPreparationFault claim kind) := by
  unfold recordPreparationFault
  exact .infer rfl

instance {id : ResultId} {consumer : String} : Touches [.results] (ackResult id consumer) := by
  unfold ackResult
  exact .infer rfl

section Outbox

variable {id : OutboxEventId}

instance {f : OutboxRow → OutboxRow} : Touches [.notificationOutbox] (updateEvent id f) := by
  unfold updateEvent
  exact .infer rfl

instance : Touches [.notificationOutbox] (ackOutbox id) := by
  unfold ackOutbox
  exact .infer rfl

instance : Touches [.notificationOutbox] (markOutboxDelivered id) := by
  unfold markOutboxDelivered
  exact .infer rfl

instance {d : DeliveryCommit} : Touches [.notificationOutbox] (commitOutboxDelivery id d) := by
  unfold commitOutboxDelivery commitDelivery
  refine .bind (.infer rfl) fun _ => ?_
  split
  · split <;> exact .infer rfl
  · exact .infer rfl

instance : Touches [.notificationOutbox] (commitOutboxDeliverySuccess id) := by
  unfold commitOutboxDeliverySuccess
  exact .infer rfl

instance {delay : ℚ} {diagnostic : String} :
    Touches [.notificationOutbox] (commitOutboxDeliveryFailure id delay diagnostic) := by
  unfold commitOutboxDeliveryFailure
  exact .infer rfl

end Outbox

/-! ## Operations -/

/-- The tables an operation may write. -/
def Op.footprint : Op → List TableName
  | .upsertPartition .. | .resizePartition .. => [.poolPartitions, .topologyRevision]
  | .createWorkstream .. => [.workstreams]
  | .reconcilePool => [.logicalAgents, .incarnations]
  | .moveCapacity .. | .retirePartition .. =>
    [.poolPartitions, .topologyRevision, .logicalAgents, .incarnations]
  | .mergePartitions .. =>
    [.poolPartitions, .topologyRevision, .tasks, .logicalAgents, .incarnations]
  | .submitBatch .. => [.batches, .tasks, .taskDependencies]
  | .admitProposal .. => [.batches, .tasks, .taskAgentRequirements]
  | .ensureTaskConsumers | .reviveAgent .. => [.logicalAgents]
  | .claimNextAvailable => [.attempts, .leases, .tasks, .logicalAgents]
  | .bindLogicalAgentType .. => [.logicalAgents, .logicalAgentTypeBindings]
  | .acquireTypedTaskExisting .. | .acquireTypedTaskNewAgent .. =>
    [.incarnations, .provisioningBindings, .attempts, .leases, .tasks, .logicalAgents,
     .logicalAgentTypeBindings]
  | .resolveExecutionBinding .. => []
  | .createExecution .. => [.incarnations, .attempts, .executions]
  | .createExecutionWithSnapshot .. => [.incarnations, .attempts, .executions, .bindingSnapshots]
  | .confirmRunningAndRenew .. => [.executions, .tasks, .incarnations, .leases]
  | .recordPhysicalOutcome .. | .recordRuntimeHandleHint ..
  | .recordPendingPhysicalTerminal .. => [.executions, .incarnations]
  | .heartbeat .. | .renewSupervisedExecutionGuarded .. => [.leases]
  | .promoteCheckpoint .. => [.checkpoints, .logicalAgents]
  | .ackSuccess .. | .nack .. | .reportConfigurationUnavailable .. => settlementTables
  | .nackPreservingPhysicalHistory .. | .expireLeases .. => .failures :: suspensionTables
  | .abortBeforePhysicalStart .. =>
    [.executions, .attempts, .leases, .tasks, .logicalAgents, .incarnations]
  | .cancelTask .. => .executions :: suspensionTables
  | .cancelBatch .. => suspensionTables
  | .promoteRetryWait => [.tasks]
  | .resolveEscalation .. => resolutionTables
  | .recordPreparationFault .. => [.preparationFaults]
  | .ackResult .. => [.results]
  | .ackOutbox .. | .markOutboxDelivered .. | .commitOutboxDeliverySuccess ..
  | .commitOutboxDeliveryFailure .. => [.notificationOutbox]

/-- **Footprints.** Every operation writes within its footprint. -/
instance exec_touches (op : Op) : Touches op.footprint op.exec := by
  cases op <;> simp only [Op.exec, Op.footprint] <;> exact .infer rfl

end Agentype

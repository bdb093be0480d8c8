import Agentype.Kernel.Upkeep

/-!
# `Agentype.Kernel.Run` — the kernel as a state machine

Every mutating method of the kernel is one operation; a call is an operation with the environment
its transaction saw. A method that opens several transactions in turn (`revive_eligible_agents`,
`recover_authority`) is the sequence of the calls it makes.
-/

namespace Agentype

open Relational Tx

/-- A kernel method with its arguments. -/
inductive Op where
  | upsertPartition (spec : PartitionSpec)
  | createWorkstream (name : String) (projectStateRef : Option String)
      (workstreamId : Option WorkstreamId)
  | resizePartition (name : PartitionId) (desiredCapacity : Int)
  | reconcilePool
  | moveCapacity (source target : PartitionId) (count : Int)
  | mergePartitions (source target : PartitionId)
  | retirePartition (name : PartitionId)
  | submitBatch (tasks : List TaskSpec)
  | admitProposal (verdict : Except Error (Option TaskId)) (spec : TaskSpec)
      (draft : Option (Except Error AgentTypeRef))
  | ensureTaskConsumers
  | claimNextAvailable
  | bindLogicalAgentType (agentId : LogicalAgentId) (ref : AgentTypeRef)
      (verdict : Except Error Unit)
  | acquireTypedTaskExisting (taskId : TaskId) (agentId : LogicalAgentId)
      (sel : ProvisioningSelection) (contract : Except Error Unit)
  | acquireTypedTaskNewAgent (taskId : TaskId) (sel : ProvisioningSelection)
      (typeVerdict contract : Except Error Unit)
  | resolveExecutionBinding (claim : Claim)
  | createExecution (claim : Claim) (binding : FrozenPhysicalExecutionBinding)
  | createExecutionWithSnapshot (claim : Claim) (binding : FrozenPhysicalExecutionBinding)
      (executionId : ExecutionId) (launchDescriptor : String) (snapshot : BindingSnapshot)
      (catalog : Except Error Unit)
  | confirmRunningAndRenew (attemptId : AttemptId) (leaseEpoch : LeaseEpoch)
      (executionId : ExecutionId) (handle : JsonValue)
  | recordPhysicalOutcome (executionId : ExecutionId) (state : ExecutionState)
      (handle payload : Option JsonValue) (failureClass : Option FailureClass)
      (terminalConfirmed quiescentConfirmed : Bool)
  | recordRuntimeHandleHint (executionId : ExecutionId) (handle : JsonValue)
  | recordPendingPhysicalTerminal (executionId : ExecutionId) (state : ExecutionState)
      (handle payload : Option JsonValue) (summary : Option String)
      (failureClass : Option FailureClass) (quiescentConfirmed incarnationReusable : Bool)
  | heartbeat (attemptId : AttemptId) (leaseEpoch : LeaseEpoch)
  | renewSupervisedExecutionGuarded (attemptId : AttemptId) (leaseEpoch : LeaseEpoch)
      (executionId : ExecutionId) (freshUntil : UnixTime)
  | promoteCheckpoint (attemptId : AttemptId) (leaseEpoch : LeaseEpoch) (capsule : JsonValue)
  | ackSuccess (attemptId : AttemptId) (leaseEpoch : LeaseEpoch)
      (executionId : Option ExecutionId) (payload : JsonValue) (summary : Option String)
      (quiescentConfirmed incarnationReusable : Bool)
  | nack (attemptId : AttemptId) (leaseEpoch : LeaseEpoch) (failureClass : FailureClass)
      (executionId : Option ExecutionId)
      (terminalConfirmed quiescentConfirmed incarnationReusable : Bool)
  | nackPreservingPhysicalHistory (attemptId : AttemptId) (leaseEpoch : LeaseEpoch)
      (failureClass : FailureClass) (executionId : Option ExecutionId)
  | reportConfigurationUnavailable (attemptId : AttemptId) (leaseEpoch : LeaseEpoch)
  | abortBeforePhysicalStart (attemptId : AttemptId) (leaseEpoch : LeaseEpoch)
      (executionId : ExecutionId)
  | cancelTask (taskId : TaskId) (quiescenceConfirmed : Bool)
  | cancelBatch (batchId : BatchId)
  | expireLeases (recoverUnstarted : Bool)
  | promoteRetryWait
  | resolveEscalation (id : EscalationId) (operation : String) (quiescenceConfirmed : Bool)
  | reviveAgent (agentId : LogicalAgentId) (executionTarget : String)
  | recordPreparationFault (claim : Claim) (kind : PreparationFaultKind)
  | ackResult (id : ResultId) (consumerRef : String)
  | ackOutbox (id : OutboxEventId)
  | markOutboxDelivered (id : OutboxEventId)
  | commitOutboxDeliverySuccess (id : OutboxEventId)
  | commitOutboxDeliveryFailure (id : OutboxEventId) (delay : ℚ) (diagnostic : String)

/-- Run a transaction for its effect. -/
def effect {α : Type} (x : KernelTx α) : KernelTx Unit := do
  let _ ← x
  pure ()

/-- The transaction of an operation. -/
def Op.exec : Op → KernelTx Unit
  | .upsertPartition spec => effect (Agentype.upsertPartition spec)
  | .createWorkstream name ref id => effect (Agentype.createWorkstream name ref id)
  | .resizePartition name n => effect (Agentype.resizePartition name n)
  | .reconcilePool => effect Agentype.reconcilePool
  | .moveCapacity source target n => effect (Agentype.moveCapacity source target n)
  | .mergePartitions source target => effect (Agentype.mergePartitions source target)
  | .retirePartition name => effect (Agentype.retirePartition name)
  | .submitBatch tasks => effect (Agentype.submitBatch tasks)
  | .admitProposal verdict spec draft => effect (Agentype.admitProposal verdict spec draft)
  | .ensureTaskConsumers => Agentype.ensureTaskConsumers
  | .claimNextAvailable => effect Agentype.claimNextAvailable
  | .bindLogicalAgentType id ref verdict => Agentype.bindLogicalAgentType id ref verdict
  | .acquireTypedTaskExisting t g sel contract =>
    effect (Agentype.acquireTypedTaskExisting t g sel contract)
  | .acquireTypedTaskNewAgent t sel typeVerdict contract =>
    effect (Agentype.acquireTypedTaskNewAgent t sel typeVerdict contract)
  | .resolveExecutionBinding claim => effect (Agentype.resolveExecutionBinding claim)
  | .createExecution claim binding => effect (Agentype.createExecution claim binding)
  | .createExecutionWithSnapshot claim binding id desc snap catalog =>
    effect (Agentype.createExecutionWithSnapshot claim binding id desc snap catalog)
  | .confirmRunningAndRenew a e x h => effect (Agentype.confirmRunningAndRenew a e x h)
  | .recordPhysicalOutcome x st h p c tc qc => Agentype.recordPhysicalOutcome x st h p c tc qc
  | .recordRuntimeHandleHint x h => Agentype.recordRuntimeHandleHint x h
  | .recordPendingPhysicalTerminal x st h p sm c qc r =>
    Agentype.recordPendingPhysicalTerminal x st h p sm c qc r
  | .heartbeat a e => effect (Agentype.heartbeat a e)
  | .renewSupervisedExecutionGuarded a e x fresh =>
    effect (Agentype.renewSupervisedExecutionGuarded a e x fresh)
  | .promoteCheckpoint a e capsule => effect (Agentype.promoteCheckpoint a e capsule)
  | .ackSuccess a e x p sm qc r => effect (Agentype.ackSuccess a e x p sm qc r)
  | .nack a e c x tc qc r => effect (Agentype.nack a e c x tc qc r)
  | .nackPreservingPhysicalHistory a e c x =>
    effect (Agentype.nackPreservingPhysicalHistory a e c x)
  | .reportConfigurationUnavailable a e => effect (Agentype.reportConfigurationUnavailable a e)
  | .abortBeforePhysicalStart a e x => effect (Agentype.abortBeforePhysicalStart a e x)
  | .cancelTask t q => Agentype.cancelTask t q
  | .cancelBatch b => Agentype.cancelBatch b
  | .expireLeases recover => effect (Agentype.expireLeases recover)
  | .promoteRetryWait => effect Agentype.promoteRetryWait
  | .resolveEscalation id operation q => Agentype.resolveEscalation id operation q
  | .reviveAgent g target => Agentype.reviveAgent g target
  | .recordPreparationFault claim kind => Agentype.recordPreparationFault claim kind
  | .ackResult id consumer => Agentype.ackResult id consumer
  | .ackOutbox id => effect (Agentype.ackOutbox id)
  | .markOutboxDelivered id => effect (Agentype.markOutboxDelivered id)
  | .commitOutboxDeliverySuccess id => effect (Agentype.commitOutboxDeliverySuccess id)
  | .commitOutboxDeliveryFailure id delay diagnostic =>
    effect (Agentype.commitOutboxDeliveryFailure id delay diagnostic)

/-- A call: an operation and the environment its transaction saw. -/
abbrev Call := Env × Op

/-- The store after one call. -/
abbrev Store.call (s : Store) (c : Call) : Store := step Op.exec s c

/-- The store after a history of calls. -/
abbrev Store.after (s : Store) (calls : List Call) : Store := run Op.exec s calls

/-! ## A small deployment

One partition with one ephemeral worker and one task that writes its workspace. Concrete runs of
the kernel start from these calls. -/

namespace Deployment

/-- A transaction at `now` whose fresh identifiers are marked with `tag`. -/
def moment (now : ℚ) (tag : String) : Env where
  now := now
  leaseSeconds := 10
  continuityMaxBytes := 1000
  uuid k := tag ++ String.ofList (List.replicate k '+')
  hashOrder := id
  hashOrder_perm _ := .refl _
  parseJson := .ok

def general : PartitionSpec :=
  { name := "general", retention := .ephemeral, executionTarget := "local",
    executionProfile := "default", desiredCapacity := 1, tags := [] }

/-- A task with workspace mode `write` that retries timeouts. -/
def writer : TaskSpec :=
  { TaskSpec.new "edit" .emptyObject with
    workspaceMode := .write, taskId := some "edit",
    retryPolicy := { RetryPolicy.default with maxAttempts := 3, retryClasses := [.timeout] } }

/-- The claim of the task by the worker. -/
def claim : Claim :=
  ⟨"edit", "batch_b", "attempt_c", 1, "lease_c+", 1, 20, "agent_r", none, "local", "default",
   .write, .emptyObject, .emptyObject, none⟩

def binding : FrozenPhysicalExecutionBinding :=
  ⟨⟨"attempt_c", 1, "local", "default", false⟩, "process", "key"⟩

/-- The task is submitted and claimed. -/
def claimed : List Call :=
  [(moment 1 "p", .upsertPartition general), (moment 2 "b", .submitBatch [writer]),
   (moment 3 "r", .reconcilePool), (moment 4 "c", .claimNextAvailable)]

/-- Its execution is created. -/
def started : List Call := claimed ++ [(moment 5 "x", .createExecution claim binding)]

/-- Its execution is confirmed `RUNNING`. -/
def running : List Call :=
  started ++ [(moment 6 "y", .confirmRunningAndRenew "attempt_c" 1 "exec_x" .emptyObject)]

end Deployment

end Agentype

import Agentype.Lib.Tx
import Agentype.Core.Decisions

/-!
# `Agentype.Kernel.Store` — the durable tables of the scheduler

The rows of the kernel's database, the CHECKs and unique indexes of its schema, and the store that
holds one table of each kind. A table carries the proof that it satisfies its schema, so a store
that breaks a unique index or a CHECK cannot be built; a statement that would break one aborts its
transaction with a conflict.

Columns that no modelled operation reads (`updated_at`, `ended_at`, audit text) are left out, and
JSON list columns are the lists they decode to.
-/

namespace Agentype

open Relational

/-! ## Rows -/

/-- An exact revision of an agent type. -/
structure AgentTypeRef where
  id : String
  revision : Nat
  deriving DecidableEq, Repr

structure BatchRow where
  state : BatchState
  deriving DecidableEq, Repr

structure WorkstreamRow where
  name : String
  projectStateRef : Option String
  deriving DecidableEq, Repr

structure PartitionRow where
  desiredCapacity : Int
  retention : Retention
  executionTarget : String
  executionProfile : String
  tags : List String
  active : Bool
  mergedInto : Option PartitionId
  topologyRevision : Nat
  deriving DecidableEq, Repr

structure TaskRow where
  batchId : BatchId
  name : String
  payload : JsonValue
  acceptance : JsonValue
  partition : PartitionId
  workstreamId : Option WorkstreamId
  continuity : ContinuityPreference
  affinityTags : List String
  workspaceMode : WorkspaceMode
  priority : Int
  state : TaskState
  agentRequirementMode : AgentRequirementMode
  retryPolicy : RetryPolicy
  nextEligibleAt : Option UnixTime
  currentAttemptId : Option AttemptId
  fencingEpoch : LeaseEpoch
  supersedesTaskId : Option TaskId
  createdAt : UnixTime
  deriving DecidableEq, Repr

structure AgentRow where
  partition : PartitionId
  retention : Retention
  state : LogicalAgentState
  agentTypeBindingMode : AgentTypeBindingMode
  workstreamId : Option WorkstreamId
  tags : List String
  currentTaskId : Option TaskId
  pendingPartition : Option PartitionId
  retirementRequested : Bool
  continuity : JsonValue
  continuityVersion : Nat
  currentCheckpointId : Option CheckpointId
  availableSince : Option UnixTime
  createdAt : UnixTime
  deriving DecidableEq, Repr

structure IncarnationRow where
  logicalAgentId : LogicalAgentId
  generation : Nat
  executionTarget : String
  state : IncarnationState
  provisioningMode : ProvisioningMode
  runtimeHandle : JsonValue
  deriving DecidableEq, Repr

structure AttemptRow where
  taskId : TaskId
  logicalAgentId : LogicalAgentId
  incarnationId : Option IncarnationId
  attemptNumber : Nat
  leaseEpoch : LeaseEpoch
  state : AttemptState
  executionTarget : String
  executionProfile : String
  partitionName : PartitionId
  deriving DecidableEq, Repr

structure LeaseRow where
  taskId : TaskId
  attemptId : AttemptId
  epoch : LeaseEpoch
  state : LeaseState
  expiresAt : UnixTime
  heartbeatAt : UnixTime
  deriving DecidableEq, Repr

structure ExecutionRow where
  requestId : String
  taskId : TaskId
  attemptId : AttemptId
  incarnationId : IncarnationId
  executionTarget : String
  executionProfile : String
  adapterKind : String
  adapterBindingKey : String
  attemptIsolation : Bool
  bindingSnapshotMode : BindingSnapshotMode
  state : ExecutionState
  runtimeHandle : JsonValue
  outcome : Option JsonValue
  summary : Option String
  incarnationReusable : Bool
  failureClass : Option FailureClass
  terminalConfirmed : Bool
  quiescentConfirmed : Bool
  deriving DecidableEq, Repr

structure ResultRow where
  taskId : TaskId
  batchId : BatchId
  attemptId : AttemptId
  logicalAgentId : LogicalAgentId
  executionId : Option ExecutionId
  payload : JsonValue
  summary : Option String
  state : ResultState
  consumerRef : Option String
  deriving DecidableEq, Repr

structure FailureRow where
  taskId : TaskId
  attemptId : Option AttemptId
  executionId : Option ExecutionId
  failureClass : FailureClass
  failureCode : Option String
  signature : Option String
  detail : Option String
  deriving DecidableEq, Repr

/-- The cause tag of an escalation row: a failure class, or the preparation control plane. -/
inductive EscalationTag where
  | taskFailure (class_ : FailureClass)
  | preparationControlPlane
  deriving DecidableEq, Repr

structure EscalationRow where
  taskId : TaskId
  batchId : BatchId
  logicalAgentId : Option LogicalAgentId
  workstreamId : Option WorkstreamId
  tag : EscalationTag
  signature : Option String
  detail : Option String
  state : EscalationState
  deriving DecidableEq, Repr

structure CheckpointRow where
  logicalAgentId : LogicalAgentId
  taskId : TaskId
  attemptId : AttemptId
  leaseEpoch : LeaseEpoch
  continuityVersion : Nat
  capsule : JsonValue
  projectStateRef : Option String
  deriving DecidableEq, Repr

/-- The event types: the first two are enqueued by the kernel, the others by the frontier. -/
inductive OutboxEventType where
  | batchResultsReady | decisionRequired
  | proposalAvailable | generationFrozen | generationClosed
  deriving DecidableEq, Repr

structure OutboxRow where
  eventType : OutboxEventType
  aggregateId : String
  state : OutboxState
  deliveryAttempts : Nat
  nextDeliveryAt : UnixTime
  createdAt : UnixTime
  deliveredAt : Option UnixTime
  acknowledgedAt : Option UnixTime
  lastError : Option String
  deriving DecidableEq, Repr

/-- The frozen provenance of a provisioned incarnation. -/
structure ProvisioningBinding where
  provisioningBindingId : String
  logicalAgentId : LogicalAgentId
  agentType : AgentTypeRef
  spawnSource : String
  sourceConfig : String
  adapterPolicy : String
  adapterKind : String
  adapterBindingKey : String
  provisioningProtocol : String
  attestedMaterializationDigest : String
  effectiveSecurity : String
  deriving DecidableEq, Repr

/-- The frozen physical choice of a typed execution. -/
structure BindingSnapshot where
  snapshotId : String
  provisioningBindingId : String
  spawnSource : String
  sourceConfig : String
  attestedMaterializationDigest : String
  enforceableSecurity : String
  adapterKind : String
  adapterBindingKey : String
  executionTarget : String
  executionProfile : String
  effectiveIsolation : Bool
  deriving DecidableEq, Repr

/-! ## Schemas -/

def partitionSchema : Schema PartitionId PartitionRow :=
  .checked fun _ r => decide (0 ≤ r.desiredCapacity)

def taskSchema : Schema TaskId TaskRow :=
  .checked fun _ r => decide (1 ≤ r.retryPolicy.maxAttempts) &&
    decide (0 ≤ r.retryPolicy.baseBackoffSeconds) &&
    decide (r.retryPolicy.baseBackoffSeconds ≤ r.retryPolicy.maxBackoffSeconds)

def dependencySchema : Schema (TaskId × TaskId) Unit :=
  .checked fun k _ => decide (k.1 ≠ k.2)

/-- `one_assigned_agent_per_task`. -/
def agentSchema : Schema LogicalAgentId AgentRow where
  check _ _ := true
  clash x y := decide (x.2.state = .assigned ∧ y.2.state = .assigned ∧
    x.2.currentTaskId.isSome ∧ x.2.currentTaskId = y.2.currentTaskId)
  clash_symm x y := by
    simp only [decide_eq_decide]
    grind

/-- `UNIQUE (logical_agent_id, generation)` and `one_active_incarnation_per_agent`. -/
def incarnationSchema : Schema IncarnationId IncarnationRow where
  check _ _ := true
  clash x y := decide (x.2.logicalAgentId = y.2.logicalAgentId ∧
    (x.2.generation = y.2.generation ∨ (x.2.state.isLivePresence ∧ y.2.state.isLivePresence)))
  clash_symm x y := by
    simp only [decide_eq_decide]
    grind

/-- `UNIQUE (task_id, attempt_number)` and one active attempt per task and per agent. -/
def attemptSchema : Schema AttemptId AttemptRow where
  check _ r := decide (1 ≤ r.attemptNumber ∧ 1 ≤ r.leaseEpoch)
  clash x y := decide ((x.2.taskId = y.2.taskId ∧ x.2.attemptNumber = y.2.attemptNumber) ∨
    (x.2.state = .active ∧ y.2.state = .active ∧
      (x.2.taskId = y.2.taskId ∨ x.2.logicalAgentId = y.2.logicalAgentId)))
  clash_symm x y := by
    simp only [decide_eq_decide]
    grind

/-- One lease per attempt, one per task epoch, one active lease per task. -/
def leaseSchema : Schema LeaseId LeaseRow where
  check _ r := decide (1 ≤ r.epoch)
  clash x y := decide (x.2.attemptId = y.2.attemptId ∨
    (x.2.taskId = y.2.taskId ∧
      (x.2.epoch = y.2.epoch ∨ (x.2.state = .active ∧ y.2.state = .active))))
  clash_symm x y := by
    simp only [decide_eq_decide]
    grind

/-- Quiescence needs a terminal row; one execution per request and attempt, and one physically
    active execution per incarnation. -/
def executionSchema : Schema ExecutionId ExecutionRow where
  check _ r := !r.quiescentConfirmed || (r.terminalConfirmed && r.state.isEnded)
  clash x y := decide (x.2.requestId = y.2.requestId ∨ x.2.attemptId = y.2.attemptId ∨
    (x.2.incarnationId = y.2.incarnationId ∧
      x.2.state.isActivePhysical ∧ y.2.state.isActivePhysical))
  clash_symm x y := by
    simp only [decide_eq_decide]
    grind

def resultSchema : Schema ResultId ResultRow where
  check _ _ := true
  clash x y := decide (x.2.taskId = y.2.taskId)
  clash_symm x y := by
    simp only [decide_eq_decide]
    grind

/-- `one_open_escalation_per_task`. -/
def escalationSchema : Schema EscalationId EscalationRow where
  check _ _ := true
  clash x y := decide (x.2.taskId = y.2.taskId ∧ x.2.state = .opened ∧ y.2.state = .opened)
  clash_symm x y := by
    simp only [decide_eq_decide]
    grind

/-- One escalation per faulted attempt. -/
def preparationEscalationSchema : Schema EscalationId AttemptId where
  check _ _ := true
  clash x y := decide (x.2 = y.2)
  clash_symm x y := by
    simp only [decide_eq_decide]
    grind

def bindingSnapshotSchema : Schema ExecutionId BindingSnapshot where
  check _ _ := true
  clash x y := decide (x.2.snapshotId = y.2.snapshotId)
  clash_symm x y := by
    simp only [decide_eq_decide]
    grind

def provisioningBindingSchema : Schema IncarnationId ProvisioningBinding where
  check _ _ := true
  clash x y := decide (x.2.provisioningBindingId = y.2.provisioningBindingId)
  clash_symm x y := by
    simp only [decide_eq_decide]
    grind

/-! ## The store -/

structure Store where
  batches : Table (.free BatchId BatchRow)
  workstreams : Table (.free WorkstreamId WorkstreamRow)
  poolPartitions : Table partitionSchema
  /-- The last topology revision; revisions are numbered from one. -/
  topologyRevision : Nat
  tasks : Table taskSchema
  taskDependencies : Table dependencySchema
  logicalAgents : Table agentSchema
  incarnations : Table incarnationSchema
  attempts : Table attemptSchema
  leases : Table leaseSchema
  executions : Table executionSchema
  results : Table resultSchema
  failures : Table (.free FailureId FailureRow)
  preparationFaults : Table (.free AttemptId PreparationFaultKind)
  escalations : Table escalationSchema
  preparationEscalations : Table preparationEscalationSchema
  checkpoints : Table (.free CheckpointId CheckpointRow)
  notificationOutbox : Table (.free OutboxEventId OutboxRow)
  taskAgentRequirements : Table (.free TaskId AgentTypeRef)
  logicalAgentTypeBindings : Table (.free LogicalAgentId AgentTypeRef)
  provisioningBindings : Table provisioningBindingSchema
  bindingSnapshots : Table bindingSnapshotSchema

namespace Store

/-- A freshly created database. -/
def empty : Store where
  batches := .empty _
  workstreams := .empty _
  poolPartitions := .empty _
  topologyRevision := 0
  tasks := .empty _
  taskDependencies := .empty _
  logicalAgents := .empty _
  incarnations := .empty _
  attempts := .empty _
  leases := .empty _
  executions := .empty _
  results := .empty _
  failures := .empty _
  preparationFaults := .empty _
  escalations := .empty _
  preparationEscalations := .empty _
  checkpoints := .empty _
  notificationOutbox := .empty _
  taskAgentRequirements := .empty _
  logicalAgentTypeBindings := .empty _
  provisioningBindings := .empty _
  bindingSnapshots := .empty _

/-! ### Table handles -/

def batchesT : Tx.Handle Store (.free BatchId BatchRow) := ⟨batches, fun s t => { s with batches := t }⟩
def workstreamsT : Tx.Handle Store (.free WorkstreamId WorkstreamRow) :=
  ⟨workstreams, fun s t => { s with workstreams := t }⟩
def poolPartitionsT : Tx.Handle Store partitionSchema :=
  ⟨poolPartitions, fun s t => { s with poolPartitions := t }⟩
def tasksT : Tx.Handle Store taskSchema := ⟨tasks, fun s t => { s with tasks := t }⟩
def taskDependenciesT : Tx.Handle Store dependencySchema :=
  ⟨taskDependencies, fun s t => { s with taskDependencies := t }⟩
def logicalAgentsT : Tx.Handle Store agentSchema :=
  ⟨logicalAgents, fun s t => { s with logicalAgents := t }⟩
def incarnationsT : Tx.Handle Store incarnationSchema :=
  ⟨incarnations, fun s t => { s with incarnations := t }⟩
def attemptsT : Tx.Handle Store attemptSchema := ⟨attempts, fun s t => { s with attempts := t }⟩
def leasesT : Tx.Handle Store leaseSchema := ⟨leases, fun s t => { s with leases := t }⟩
def executionsT : Tx.Handle Store executionSchema :=
  ⟨executions, fun s t => { s with executions := t }⟩
def resultsT : Tx.Handle Store resultSchema := ⟨results, fun s t => { s with results := t }⟩
def failuresT : Tx.Handle Store (.free FailureId FailureRow) :=
  ⟨failures, fun s t => { s with failures := t }⟩
def preparationFaultsT : Tx.Handle Store (.free AttemptId PreparationFaultKind) :=
  ⟨preparationFaults, fun s t => { s with preparationFaults := t }⟩
def escalationsT : Tx.Handle Store escalationSchema :=
  ⟨escalations, fun s t => { s with escalations := t }⟩
def preparationEscalationsT : Tx.Handle Store preparationEscalationSchema :=
  ⟨preparationEscalations, fun s t => { s with preparationEscalations := t }⟩
def checkpointsT : Tx.Handle Store (.free CheckpointId CheckpointRow) :=
  ⟨checkpoints, fun s t => { s with checkpoints := t }⟩
def notificationOutboxT : Tx.Handle Store (.free OutboxEventId OutboxRow) :=
  ⟨notificationOutbox, fun s t => { s with notificationOutbox := t }⟩
def taskAgentRequirementsT : Tx.Handle Store (.free TaskId AgentTypeRef) :=
  ⟨taskAgentRequirements, fun s t => { s with taskAgentRequirements := t }⟩
def logicalAgentTypeBindingsT : Tx.Handle Store (.free LogicalAgentId AgentTypeRef) :=
  ⟨logicalAgentTypeBindings, fun s t => { s with logicalAgentTypeBindings := t }⟩
def provisioningBindingsT : Tx.Handle Store provisioningBindingSchema :=
  ⟨provisioningBindings, fun s t => { s with provisioningBindings := t }⟩
def bindingSnapshotsT : Tx.Handle Store bindingSnapshotSchema :=
  ⟨bindingSnapshots, fun s t => { s with bindingSnapshots := t }⟩

end Store

end Agentype

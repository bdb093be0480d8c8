import Agentype.Kernel.Store

/-!
# `Agentype.Kernel.TxUtil` — statements shared by the kernel's transactions

Row loads, the authority fence, agent release and retirement, partition resolution and cutover,
dependency release, batch aggregation, escalations and incarnation presence. Each definition is
the body of one function of the storage crate, in the order of its statements.
-/

namespace Agentype

open Relational Tx Store

/-- What a transaction is given: its timestamp, sampled after it has begun, the kernel's lease
    duration and capsule limit, the random part of the identifiers it mints, the order in which its
    hash maps enumerate their keys, and the JSON parser, which refuses some of the texts it is shown. -/
structure Env where
  now : UnixTime
  leaseSeconds : ℚ
  continuityMaxBytes : Nat
  uuid : Nat → String
  hashOrder : List String → List String
  hashOrder_perm : ∀ keys, (hashOrder keys).Perm keys
  parseJson : JsonValue → Except String JsonValue

abbrev KernelTx := Tx Env Store Error

/-- A violated CHECK, key or unique index. -/
def constraintViolation : Error := .conflict "constraint failed"

/-- The `CHECK` on the proof bits of an execution. -/
def proofCheck : String :=
  "CHECK constraint failed: quiescent_confirmed = 0 OR (terminal_confirmed = 1 AND state IN " ++
    "('SUCCEEDED','FAILED','TERMINATED'))"

/-- The row of an execution is refused. Once it is there, no other constraint can be violated by what
    is written to it. -/
def executionRefused : Error := .conflict proofCheck

/-- A single-row query that found no row. -/
def noRow : Error := .notFound "row"

/-- Mint an identifier of the given kind. -/
def newId (kind : String) : KernelTx String := do
  let env ← ask
  let n ← mint
  pure (kind ++ "_" ++ env.uuid n)

/-- The value of an optional, or an error. -/
def orError {α : Type} (err : Error) : Option α → Except Error α
  | some a => .ok a
  | none => .error err

/-- The value of a JSON column. -/
def jsonLoad (value : JsonValue) : KernelTx JsonValue := do
  let env ← ask
  examine fun _ => (env.parseJson value).mapError fun e =>
    .invariantViolation ("corrupted durable JSON: " ++ e)

/-! ## Row loads -/

def requiredTask (id : TaskId) : KernelTx TaskRow :=
  fetch (.notFound ("tasks " ++ id.quote ++ " not found")) fun s => s.tasks.lookup id

def requiredAgent (id : LogicalAgentId) : KernelTx AgentRow :=
  fetch (.notFound ("logical_agents " ++ id.quote ++ " not found")) fun s =>
    s.logicalAgents.lookup id

/-- The row of a partition, optionally only while it is active. -/
def Store.partitionRow (s : Store) (name : PartitionId) (active : Bool) : Option PartitionRow :=
  (s.poolPartitions.lookup name).filter fun p => !active || p.active

def requiredPartition (name : PartitionId) (active : Bool) : KernelTx PartitionRow :=
  fetch (.notFound ("pool_partitions " ++ name.quote ++ " not found")) fun s =>
    s.partitionRow name active

def requiredAttempt (id : AttemptId) : KernelTx AttemptRow :=
  fetch (.notFound ("attempts " ++ id.quote ++ " not found")) fun s => s.attempts.lookup id

def requiredExecution (id : ExecutionId) : KernelTx ExecutionRow :=
  fetch (.notFound ("executions " ++ id.quote ++ " not found")) fun s => s.executions.lookup id

namespace Store

def leaseOfAttempt (s : Store) (attemptId : AttemptId) : Option (LeaseId × LeaseRow) :=
  s.leases.rows.find? fun x => x.2.attemptId = attemptId

def executionOfAttempt (s : Store) (attemptId : AttemptId) : Option (ExecutionId × ExecutionRow) :=
  s.executions.rows.find? fun x => x.2.attemptId = attemptId

def hasActiveAttempt (s : Store) (agentId : LogicalAgentId) : Bool :=
  s.attempts.rows.any fun x => x.2.logicalAgentId = agentId && x.2.state = .active

/-! ## The authority fence -/

/-- The rows behind a claim: the attempt, its lease and its task. -/
structure ClaimRecords where
  attempt : AttemptRow
  leaseId : LeaseId
  lease : LeaseRow
  task : TaskRow

/-- Ownership, and with a time also the expiry test. -/
def validateAt (snap : AuthoritySnapshot) (leaseEpoch : LeaseEpoch) :
    Option UnixTime → Except Error Unit
  | some now => validateAuthority snap leaseEpoch now
  | none => validateClaimOwnership snap leaseEpoch

/-- The claim `(attemptId, leaseEpoch)` owns its task; with a time, its lease is also unexpired. -/
def validateClaimTx (s : Store) (attemptId : AttemptId) (leaseEpoch : LeaseEpoch)
    (now : Option UnixTime) : Except Error ClaimRecords := do
  let attempt ← orError (.notFound ("attempts " ++ attemptId.quote ++ " not found"))
    (s.attempts.lookup attemptId)
  let task ← orError (.notFound ("tasks " ++ attempt.taskId.quote ++ " not found"))
    (s.tasks.lookup attempt.taskId)
  let lease ← orError (.staleAuthority "attempt has no lease") (s.leaseOfAttempt attemptId)
  let snap : AuthoritySnapshot :=
    { attemptId := attemptId
      attemptState := attempt.state
      leaseState := lease.2.state
      leaseEpoch := attempt.leaseEpoch
      leaseExpiresAt := lease.2.expiresAt
      taskCurrentAttemptId := task.currentAttemptId
      taskFencingEpoch := task.fencingEpoch }
  validateAt snap leaseEpoch now
  if lease.2.epoch ≠ leaseEpoch then .error (.staleAuthority staleAuthorityMessage)
  else .ok ⟨attempt, lease.1, lease.2, task⟩

/-- The fence of every authority-bearing operation. -/
def validateAuthorityTx (s : Store) (attemptId : AttemptId) (leaseEpoch : LeaseEpoch)
    (now : UnixTime) : Except Error ClaimRecords := do
  let records ← s.validateClaimTx attemptId leaseEpoch (some now)
  if (s.preparationFaults.lookup attemptId).isSome then
    .error (.recoveryRequired "confirmed preparation fault fences claim operations")
  else .ok records

end Store

def validateAuthorityTx (attemptId : AttemptId) (leaseEpoch : LeaseEpoch) :
    KernelTx ClaimRecords := do
  let env ← ask
  examine fun s => s.validateAuthorityTx attemptId leaseEpoch env.now

/-- The execution of an attempt; a supplied identity must belong to it. -/
def executionForAttempt (attemptId : AttemptId) (executionId : Option ExecutionId) :
    KernelTx (Option (ExecutionId × ExecutionRow)) :=
  match executionId with
  | none => query fun s => s.executionOfAttempt attemptId
  | some suppliedId => do
    let supplied ← requiredExecution suppliedId
    require (supplied.attemptId = attemptId)
      (.staleAuthority "execution does not belong to current attempt")
    pure (some (suppliedId, supplied))

/-! ## Agents and partitions -/

/-- Set the columns of one agent row. -/
def updateAgent (id : LogicalAgentId) (f : AgentRow → AgentRow) : KernelTx Unit :=
  updateIn logicalAgentsT constraintViolation (fun k _ => decide (k = id)) f

/-- Fence the live incarnations of an agent that satisfy a condition. -/
def loseIncarnations (agentId : LogicalAgentId) (p : IncarnationRow → Bool) : KernelTx Unit :=
  updateIn incarnationsT constraintViolation
    (fun _ i => decide (i.logicalAgentId = agentId) && p i && i.state.isLivePresence)
    fun i => { i with state := .lost }

def retireLogicalAgent (agentId : LogicalAgentId) : KernelTx Unit := do
  loseIncarnations agentId fun _ => true
  updateAgent agentId fun a =>
    { a with state := .retired, currentTaskId := none, pendingPartition := none,
             retirementRequested := false, availableSince := none }

/-- Follow `merged_into` from a partition to an active one. -/
def canonicalPartitionFrom (s : Store) (start : PartitionId) :
    Nat → List PartitionId → PartitionId → Except Error (PartitionId × PartitionRow)
  | 0, _, _ =>
    .error (.invalidTransition ("partition merge cycle while resolving " ++ start.quote))
  | fuel + 1, visited, current =>
    if visited.contains current then
      .error (.invalidTransition ("partition merge cycle while resolving " ++ start.quote))
    else
      match s.poolPartitions.lookup current with
      | none => .error (.notFound ("pool_partitions " ++ current.quote ++ " not found"))
      | some p =>
        if p.active then .ok (current, p)
        else
          match p.mergedInto with
          | some next => canonicalPartitionFrom s start fuel (current :: visited) next
          | none =>
            .error (.invalidTransition ("desired partition " ++ start.quote ++ " is retired"))

/-- The active partition a name resolves to. Each round visits a new existing partition, so the
    walk is over after at most one round more than there are partitions. -/
def Store.canonicalPartition (s : Store) (name : PartitionId) :
    Except Error (PartitionId × PartitionRow) :=
  canonicalPartitionFrom s name (s.poolPartitions.rows.length + 1) [] name

namespace Store

/-- The exact type an agent is bound to; marker and child row are one invariant. -/
def getLogicalAgentTypeBinding (s : Store) (id : LogicalAgentId) :
    Except Error (Option AgentTypeRef) := do
  let agent ← orError (.notFound ("logical agent " ++ id)) (s.logicalAgents.lookup id)
  match agent.agentTypeBindingMode, s.logicalAgentTypeBindings.lookup id with
  | .unbound, none => .ok none
  | .bound, none =>
    .error (.invariantViolation ("bound LogicalAgent " ++ id ++ " is missing its type binding row"))
  | .unbound, some _ =>
    .error (.invariantViolation
      ("unbound LogicalAgent " ++ id ++ " unexpectedly has a type binding row"))
  | .bound, some ref => .ok (some ref)

/-- A provisioning binding agrees with its incarnation and with the type of its agent. -/
def validateProvisioningBindingAuthority (s : Store) (inc : IncarnationRow)
    (binding : ProvisioningBinding) : Except Error Unit := do
  if inc.logicalAgentId ≠ binding.logicalAgentId then
    .error (.invariantViolation
      "provisioning binding logical agent disagrees with its incarnation")
  else
    match ← s.getLogicalAgentTypeBinding binding.logicalAgentId with
    | none => .error (.invariantViolation "provisioning binding agent has no type binding")
    | some ref =>
      if ref ≠ binding.agentType then
        .error (.invariantViolation
          "provisioning binding agent type disagrees with the LogicalAgent type binding")
      else .ok ()

/-- The provisioning binding of an incarnation; marker and child row are one invariant. -/
def getProvisioningBinding (s : Store) (id : IncarnationId) :
    Except Error (Option ProvisioningBinding) := do
  let inc ← orError (.notFound ("incarnation " ++ id ++ " not found")) (s.incarnations.lookup id)
  match inc.provisioningMode, s.provisioningBindings.lookup id with
  | .legacy, none => .ok none
  | .legacy, some _ =>
    .error (.invariantViolation "provisioning binding exists under a non-PROVISIONED incarnation")
  | .provisioned, none =>
    .error (.invariantViolation "a PROVISIONED incarnation is missing its provisioning binding")
  | .provisioned, some b => do
    s.validateProvisioningBindingAuthority inc b
    pure (some b)

/-- No execution was ever created on the incarnation. -/
def incarnationIsFresh (s : Store) (id : IncarnationId) : Bool :=
  !s.executions.rows.any fun x => x.2.incarnationId = id

def incarnationRequiresPhysicalClosure (s : Store) (id : IncarnationId)
    (state : IncarnationState) : Bool :=
  (state matches .warm | .starting) && !s.incarnationIsFresh id

/-- A provisioned host of the agent on another target still needs its physical lifecycle closed. -/
def crossTargetProvisionedHostRequiresClosure (s : Store) (agentId : LogicalAgentId)
    (executionTarget : String) : Except Error Bool := do
  let live := s.incarnations.rows.filter fun x => decide (x.2.logicalAgentId = agentId) &&
    decide (x.2.executionTarget ≠ executionTarget) && x.2.state.isLivePresence
  let needs ← live.mapM fun x => do
    let b ← s.getProvisioningBinding x.1
    pure (b.isSome && s.incarnationRequiresPhysicalClosure x.1 x.2.state)
  pure (needs.any id)

/-- What the cross-target gate reads of the agent's active executions on other targets. -/
def crossTargetSnapshots (s : Store) (agentId : LogicalAgentId) (target : String) :
    List CrossTargetExecutionSnapshot :=
  s.executions.rows.filterMap fun x => do
    let i ← s.incarnations.lookup x.2.incarnationId
    let a ← s.attempts.lookup x.2.attemptId
    let t ← s.tasks.lookup x.2.taskId
    if i.logicalAgentId = agentId ∧ x.2.state.isActivePhysical ∧ x.2.executionTarget ≠ target then
      some { attemptState := a.state
             leaseState := (s.leaseOfAttempt x.2.attemptId).map fun l => l.2.state
             leaseExpiresAt := (s.leaseOfAttempt x.2.attemptId).map fun l => l.2.expiresAt
             workspaceMode := t.workspaceMode
             attemptIsolation := x.2.attemptIsolation
             quiescentConfirmed := durableQuiescence x.2.terminalConfirmed x.2.quiescentConfirmed }
    else none

def unsafeCrossTargetExecution (s : Store) (agentId : LogicalAgentId) (target : String)
    (now : UnixTime) : Except Error Bool := do
  let closure ← s.crossTargetProvisionedHostRequiresClosure agentId target
  if closure then pure true
  else pure (!crossTargetCutoverSafety (s.crossTargetSnapshots agentId target) now)

end Store

/-- The target of a cutover and the disposition planned for the agent. -/
def planCutover (agentId : LogicalAgentId) (agent : AgentRow) (targetPartition : PartitionId) :
    KernelTx ((PartitionId × PartitionRow) × PartitionCutoverDisposition) := do
  let env ← ask
  let target ← examine fun s => s.canonicalPartition targetPartition
  let active ← query fun s => s.hasActiveAttempt agentId
  let unsafeExec ← examine fun s =>
    s.unsafeCrossTargetExecution agentId target.2.executionTarget env.now
  pure (target, partitionCutoverPlan agent.state active agent.currentTaskId.isSome (!unsafeExec))

def drainBoundaryError : Error :=
  .invalidTransition "an assigned LogicalAgent must use a drain boundary"

def unsafeCutoverError : Error :=
  .invalidTransition "a topology cutover cannot abandon an unsafe physical Execution"

def commitPartitionCutover (agentId : LogicalAgentId) (agent : AgentRow)
    (targetPartition : PartitionId) : KernelTx (PartitionId × PartitionRow) := do
  let plan ← planCutover agentId agent targetPartition
  match plan.2 with
  | .rejectAssignedDrainRequired => fail drainBoundaryError
  | .rejectUnsafeExecution | .stagePendingDestination => fail unsafeCutoverError
  | .commit => do
    loseIncarnations agentId fun i => i.executionTarget ≠ plan.1.2.executionTarget
    updateAgent agentId fun a =>
      { a with partition := plan.1.1, retention := plan.1.2.retention,
               pendingPartition := none, retirementRequested := false }
    pure plan.1

def requestPartitionCutover (agentId : LogicalAgentId) (agent : AgentRow)
    (targetPartition : PartitionId) : KernelTx (PartitionId × PartitionRow) := do
  let plan ← planCutover agentId agent targetPartition
  match plan.2 with
  | .stagePendingDestination => do
    updateAgent agentId fun a => { a with pendingPartition := some plan.1.1 }
    pure plan.1
  | .rejectAssignedDrainRequired => fail drainBoundaryError
  | .rejectUnsafeExecution => fail unsafeCutoverError
  | .commit => commitPartitionCutover agentId agent plan.1.1

/-- The partition an agent is headed for. -/
def AgentRow.destination (a : AgentRow) : PartitionId := a.pendingPartition.getD a.partition

/-- Close an agent's claim: retire it, park it behind a provisioned host, or make it ready in its
    destination. -/
def releaseAgent (agentId : LogicalAgentId) : KernelTx Unit := do
  let env ← ask
  let agent ← requiredAgent agentId
  if agent.retirementRequested then retireLogicalAgent agentId
  else do
    let destination ← examine fun s => s.canonicalPartition agent.destination
    let closure ← examine fun s =>
      s.crossTargetProvisionedHostRequiresClosure agentId destination.2.executionTarget
    if closure then
      -- keep the partition and the pending intent; no claim can use the agent meanwhile
      updateAgent agentId fun a =>
        { a with state := .suspended, currentTaskId := none,
                 pendingPartition := some destination.1, availableSince := none }
    else do
      let target ← commitPartitionCutover agentId agent agent.destination
      match agentReleaseDisposition false target.2.retention with
      | .retire => retireLogicalAgent agentId
      | .becomeReady =>
        updateAgent agentId fun a =>
          { a with state := .ready, currentTaskId := none, pendingPartition := none,
                   availableSince := some env.now }

def prepareAgentRevivalAfterSafety (agentId : LogicalAgentId) : KernelTx Unit := do
  let agent ← requiredAgent agentId
  let target ← examine fun s => s.canonicalPartition agent.destination
  match postSafetyAgentDisposition agent.state agent.retirementRequested target.2.retention with
  | .noAction => pure ()
  | .retire => releaseAgent agentId
  | .revive => do
    releaseAgent agentId
    let released ← requiredAgent agentId
    whenever (released.state = .ready)
      (updateIn logicalAgentsT constraintViolation
        (fun k a => decide (k = agentId) && decide (a.state = .ready))
        fun a => { a with state := .reviving, availableSince := none })

/-! ## Dependencies, batches and the outbox -/

/-- The blocked tasks of a batch with the states of their parents. -/
def Store.blockedSnapshots (s : Store) (batchId : BatchId) : List BlockedTaskSnapshot :=
  (s.tasks.rows.filter fun x => decide (x.2.batchId = batchId) && decide (x.2.state = .blocked)).map
    fun x =>
      { taskId := x.1
        parentStates := (s.taskDependencies.rows.filter fun d => d.1.1 = x.1).filterMap fun d =>
          (s.tasks.lookup d.1.2).map TaskRow.state }

def releaseDependencies (batchId : BatchId) : KernelTx Unit := do
  let toRelease ← query fun s => planDependencyReleases (s.blockedSnapshots batchId)
  toRelease.forM fun taskId =>
    updateIn tasksT constraintViolation
      (fun k t => decide (k = taskId) && decide (t.state = .blocked))
      fun t => { t with state := .queued }

def enqueueEvent (eventType : OutboxEventType) (aggregateId : String) : KernelTx OutboxEventId := do
  let env ← ask
  let id ← newId "event"
  insertInto notificationOutboxT constraintViolation id
    { eventType := eventType, aggregateId := aggregateId, state := .pending, deliveryAttempts := 0,
      nextDeliveryAt := env.now, createdAt := env.now, deliveredAt := none, acknowledgedAt := none,
      lastError := none }
  pure id

namespace Store

/-- The member tasks of a batch. -/
def members (s : Store) (batchId : BatchId) : List (TaskId × TaskRow) :=
  s.tasks.rows.filter fun x => x.2.batchId = batchId

/-- The aggregate state of a batch as its members have it; an empty sum has no value. -/
def aggregateState (s : Store) (batchId : BatchId) : Except Error BatchState :=
  let ms := s.members batchId
  if ms.isEmpty then .error (.storageFailure "sqlite: Invalid column type Null")
  else .ok (batchNextState (ms.any fun x => x.2.state = .suspended)
    (ms.any fun x => x.2.state = .cancelled) (ms.all fun x => x.2.state = .completed))

end Store

def recomputeBatch (batchId : BatchId) : KernelTx Unit := do
  let batch ← fetch noRow fun s => s.batches.lookup batchId
  if batch.state = .cancelled then pure ()
  else do
    let next ← examine fun s => s.aggregateState batchId
    whenever (batch.state ≠ next) do
      updateIn batchesT constraintViolation (fun k _ => decide (k = batchId))
        fun b => { b with state := next }
      whenever (next = .completed) do
        let _ ← enqueueEvent .batchResultsReady batchId
        pure ()

def recordFailure (taskId : TaskId) (attemptId : Option AttemptId)
    (executionId : Option ExecutionId) (class_ : FailureClass)
    (code signature detail : Option String) : KernelTx FailureId := do
  let id ← newId "failure"
  insertInto failuresT constraintViolation id
    { taskId := taskId, attemptId := attemptId, executionId := executionId, failureClass := class_,
      failureCode := code, signature := signature, detail := detail }
  pure id

/-! ## Preparation faults and escalations -/

namespace Store

/-- The fault behind a preparation decision; it never describes physical authority. -/
def validatedFault (s : Store) (attemptId : AttemptId) (taskId : TaskId) :
    Except Error PreparationFaultKind := do
  let attempt ← orError noRow (s.attempts.lookup attemptId)
  if attempt.taskId ≠ taskId ∨ attempt.incarnationId.isSome ∨
      (s.executionOfAttempt attemptId).isSome then
    .error (.invariantViolation "preparation decision has incompatible claim/physical authority")
  else
    orError (.invariantViolation "preparation decision lacks its immutable fault")
      (s.preparationFaults.lookup attemptId)

/-- The cause of an escalation row, read from its tag and its preparation child. -/
def escalationCause (s : Store) (escalationId : EscalationId) (taskId : TaskId)
    (tag : EscalationTag) : Except Error EscalationCause :=
  match tag, s.preparationEscalations.lookup escalationId with
  | .preparationControlPlane, none =>
    .error (.invariantViolation "preparation escalation child missing")
  | .preparationControlPlane, some attemptId => do
    let kind ← s.validatedFault attemptId taskId
    pure (.preparationFault attemptId kind)
  | .taskFailure _, some _ =>
    .error (.invariantViolation "Task failure escalation has a preparation child")
  | .taskFailure class_, none => .ok (.taskFailure class_)

/-- The open escalation of a task. -/
def openEscalation (s : Store) (taskId : TaskId) : Option (EscalationId × EscalationRow) :=
  s.escalations.rows.find? fun x => decide (x.2.taskId = taskId) && decide (x.2.state = .opened)

end Store

def attachEscalation (escalationId : EscalationId) (taskId : TaskId) (attemptId : AttemptId)
    (kind : PreparationFaultKind) : KernelTx Unit := do
  let actual ← examine fun s => s.validatedFault attemptId taskId
  require (actual = kind)
    (.invariantViolation "preparation escalation category differs from immutable fact")
  insertInto preparationEscalationsT constraintViolation escalationId attemptId

/-- The tag a cause is stored under. -/
def EscalationCause.tag : EscalationCause → EscalationTag
  | .taskFailure class_ => .taskFailure class_
  | .preparationFault _ _ => .preparationControlPlane

/-- The cause is a control-plane fact. -/
def EscalationCause.isPreparation : EscalationCause → Bool
  | .preparationFault _ _ => true
  | .taskFailure _ => false

/-- Open an escalation for a task, or reuse the one that is already open. -/
def createEscalationWithCause (taskId : TaskId) (batchId : BatchId)
    (logicalAgentId : Option LogicalAgentId) (workstreamId : Option WorkstreamId)
    (cause : EscalationCause) (signature detail : Option String) : KernelTx EscalationId := do
  let existing ← query fun s => s.openEscalation taskId
  match existing with
  | some (id, row) => do
    let actual ← examine fun s => s.escalationCause id taskId row.tag
    require (!((cause.isPreparation || actual.isPreparation) && decide (actual ≠ cause)))
      (.invariantViolation "open escalation has a different control-plane cause")
    pure id
  | none => do
    let id ← newId "escalation"
    insertInto escalationsT constraintViolation id
      { taskId := taskId, batchId := batchId, logicalAgentId := logicalAgentId,
        workstreamId := workstreamId, tag := cause.tag, signature := signature, detail := detail,
        state := .opened }
    match cause with
    | .preparationFault attemptId kind => do
      attachEscalation id taskId attemptId kind
      let _ ← enqueueEvent .decisionRequired id
      pure id
    | .taskFailure _ => do
      let _ ← enqueueEvent .decisionRequired id
      pure id

def createEscalation (taskId : TaskId) (batchId : BatchId)
    (logicalAgentId : Option LogicalAgentId) (workstreamId : Option WorkstreamId)
    (failureClass : FailureClass) (signature detail : Option String) : KernelTx EscalationId :=
  createEscalationWithCause taskId batchId logicalAgentId workstreamId (.taskFailure failureClass)
    signature detail

/-! ## Closing authority -/

/-- Close an attempt; with `onlyActive` the statement is `… AND state='ACTIVE'`. -/
def closeAttempt (id : AttemptId) (state : AttemptState) (onlyActive : Bool) : KernelTx Unit :=
  updateIn attemptsT constraintViolation
    (fun k a => decide (k = id) && (!onlyActive || decide (a.state = .active)))
    fun a => { a with state := state }

/-- Close a lease; with `onlyActive` the statement is `… AND state='ACTIVE'`. -/
def closeLease (id : LeaseId) (state : LeaseState) (onlyActive : Bool) : KernelTx Unit :=
  updateIn leasesT constraintViolation
    (fun k l => decide (k = id) && (!onlyActive || decide (l.state = .active)))
    fun l => { l with state := state }

/-- Set the columns of one task row. -/
def updateTask (id : TaskId) (f : TaskRow → TaskRow) : KernelTx Unit :=
  updateIn tasksT constraintViolation (fun k _ => decide (k = id)) f

/-- Set the columns of one execution row. -/
def updateExecution (id : ExecutionId) (f : ExecutionRow → ExecutionRow) : KernelTx Unit :=
  updateIn executionsT executionRefused (fun k _ => decide (k = id)) f

/-- Suspend an agent behind a writer-safety obligation. -/
def suspendAgent (agentId : LogicalAgentId) : KernelTx Unit :=
  updateIn logicalAgentsT constraintViolation
    (fun k a => decide (k = agentId) && decide (a.state ≠ .retired))
    fun a => { a with state := .suspended, currentTaskId := none, availableSince := none }

/-- The agent of a closed attempt: suspended under a writer-safety obligation, else released. -/
def suspendOrRelease (agentId : LogicalAgentId) (writerUnknown : Bool) : KernelTx Unit :=
  if writerUnknown then suspendAgent agentId else releaseAgent agentId

def suspendCurrent (attemptId : AttemptId) (records : ClaimRecords) (failureClass : FailureClass)
    (signature detail : Option String) : KernelTx Unit := do
  closeAttempt attemptId .failed true
  closeLease records.leaseId .revoked true
  updateTask records.attempt.taskId fun t =>
    { t with state := .suspended, currentAttemptId := none }
  suspendOrRelease records.attempt.logicalAgentId (failureClass = .writerQuiescenceUnknown)
  let _ ← createEscalation records.attempt.taskId records.task.batchId
    (some records.attempt.logicalAgentId) records.task.workstreamId failureClass signature detail
  recomputeBatch records.task.batchId

/-! ## Incarnations -/

/-- Set the state of an incarnation that is in one of the given states. -/
def setIncarnationState (id : IncarnationId) (source : IncarnationState → Bool)
    (state : IncarnationState) : KernelTx Unit :=
  updateIn incarnationsT constraintViolation (fun k i => decide (k = id) && source i.state)
    fun i => { i with state := state }

/-- Live or lost: the states a confirmed end closes. -/
def IncarnationState.isUnterminated : IncarnationState → Bool
  | .terminated => false
  | _ => true

def recordIncarnationPresence (incarnationId : Option IncarnationId)
    (executionState : ExecutionState) (terminalConfirmed quiescentConfirmed
    incarnationReusable : Bool) : KernelTx Unit :=
  match incarnationId with
  | none => pure ()
  | some id =>
    match incarnationPresence executionState terminalConfirmed quiescentConfirmed
        incarnationReusable with
    | .ignore => pure ()
    | .promoteWarm => setIncarnationState id IncarnationState.isLivePresence .warm
    | .fenceTerminated => setIncarnationState id IncarnationState.isUnterminated .terminated
    | .fenceLost => setIncarnationState id IncarnationState.isLivePresence .lost

namespace Store

/-- The live incarnation of an agent, latest generation first. -/
def activeIncarnation (s : Store) (agentId : LogicalAgentId) :
    Option (IncarnationId × IncarnationRow) :=
  minBy (fun x y => decide (y.2.generation < x.2.generation))
    (s.incarnations.rows.filter fun x =>
      decide (x.2.logicalAgentId = agentId) && x.2.state.isLivePresence)

/-- `COALESCE(MAX(generation),0)+1`. -/
def nextGeneration (s : Store) (agentId : LogicalAgentId) : Nat :=
  ((s.incarnations.rows.filter fun x => x.2.logicalAgentId = agentId).map
    fun x => x.2.generation).foldr max 0 + 1

end Store

def activeIncarnationMismatch (agentId : LogicalAgentId) (id : IncarnationId) (target : String) :
    Error :=
  .invalidTransition ("logical agent " ++ agentId ++ " already has active incarnation " ++ id ++
    " on target " ++ target)

def createNewIncarnation (agentId : LogicalAgentId) (target : String) :
    KernelTx IncarnationId := do
  let generation ← query fun s => s.nextGeneration agentId
  let id ← newId "inc"
  insertInto incarnationsT constraintViolation id
    { logicalAgentId := agentId, generation := generation, executionTarget := target,
      state := .starting, provisioningMode := .legacy, runtimeHandle := .emptyObject }
  pure id

def ensureIncarnation (agentId : LogicalAgentId) (target : String) : KernelTx IncarnationId := do
  let agent ← requiredAgent agentId
  require (agent.state ≠ .retired) (.invalidTransition
    "a semantically retired LogicalAgent cannot obtain a live Incarnation")
  let active ← query fun s => s.activeIncarnation agentId
  match active with
  | some (id, inc) => do
    require (inc.executionTarget = target)
      (activeIncarnationMismatch agentId id inc.executionTarget)
    pure id
  | none => createNewIncarnation agentId target

/-- The initial continuity of a newborn bound to a workstream. -/
def initialContinuity (projectStateRef : Option String) : JsonValue :=
  match projectStateRef with
  | some reference =>
    if reference.isEmpty then .emptyObject
    else ⟨"\x7b\"CURRENT CHECKPOINT\":\x7b\"project_state_ref\":" ++ reference.quote ++ "\x7d\x7d",
      some ["CURRENT CHECKPOINT"]⟩
  | none => .emptyObject

/-- The workstream of a newborn must exist. -/
def inheritedContinuity : Option WorkstreamId → KernelTx JsonValue
  | some ws => do
    let w ← fetch (.notFound ("workstreams " ++ ws.quote ++ " not found")) fun s =>
      s.workstreams.lookup ws
    pure (initialContinuity w.projectStateRef)
  | none => pure .emptyObject

/-- Birth a READY agent in an active partition. -/
def birthAgent (partitionName : PartitionId) (workstreamId : Option WorkstreamId)
    (tags : Option (List String)) : KernelTx LogicalAgentId := do
  let env ← ask
  let partition ← requiredPartition partitionName true
  let id ← newId "agent"
  let continuity ← inheritedContinuity workstreamId
  insertInto logicalAgentsT constraintViolation id
    { partition := partitionName, retention := partition.retention, state := .ready,
      agentTypeBindingMode := .unbound, workstreamId := workstreamId,
      tags := tags.getD partition.tags, currentTaskId := none, pendingPartition := none,
      retirementRequested := false, continuity := continuity, continuityVersion := 0,
      currentCheckpointId := none, availableSince := some env.now, createdAt := env.now }
  pure id

/-- The keys a continuity capsule may carry. -/
def continuityKeys : List String :=
  ["INVARIANTS", "DECISIONS", "CURRENT DESIGN", "REJECTED ALTERNATIVES", "OPEN QUESTIONS",
   "KNOWN FAILURES", "CURRENT CHECKPOINT", "NEXT LIKELY STEPS"]

def promoteCheckpointTx (attemptId : AttemptId) (records : ClaimRecords) (leaseEpoch : LeaseEpoch)
    (capsule : JsonValue) (projectStateRef : Option String) : KernelTx CheckpointId := do
  let env ← ask
  let keys ← orFail (.invalidTransition "continuity capsule must be a JSON object") capsule.keys
  match keys.find? fun k => !continuityKeys.contains k with
  | some k => fail (.invalidTransition ("unknown continuity keys: " ++ k))
  | none => do
    require (capsule.text.utf8ByteSize ≤ env.continuityMaxBytes)
      (.invalidTransition "continuity capsule exceeds configured byte limit")
    let agent ← requiredAgent records.attempt.logicalAgentId
    let id ← newId "checkpoint"
    insertInto checkpointsT constraintViolation id
      { logicalAgentId := records.attempt.logicalAgentId, taskId := records.attempt.taskId,
        attemptId := attemptId, leaseEpoch := leaseEpoch,
        continuityVersion := agent.continuityVersion + 1, capsule := capsule,
        projectStateRef := projectStateRef }
    updateAgent records.attempt.logicalAgentId fun a =>
      { a with continuity := capsule, continuityVersion := agent.continuityVersion + 1,
               currentCheckpointId := some id }
    pure id

/-- The execution behind a writer-safety obligation that is being resolved. -/
def finalizeEscalatedExecution (executionId : Option ExecutionId)
    (attemptIsolation quiescenceConfirmed : Bool) : KernelTx Unit :=
  match executionId with
  | none => pure ()
  | some eid =>
    if quiescenceConfirmed then
      updateExecution eid fun e =>
        { e with state := if e.state.isActivePhysical || decide (e.state = .lost) then .terminated
                          else e.state,
                 terminalConfirmed := true, quiescentConfirmed := true }
    else whenever attemptIsolation <|
      updateExecution eid fun e =>
        { e with state := if e.state.isActivePhysical then .lost else e.state }

/-- The incarnation behind a writer-safety obligation that is being resolved. -/
def finalizeEscalatedIncarnation (incarnationId : Option IncarnationId)
    (quiescenceConfirmed : Bool) : KernelTx Unit :=
  match incarnationId with
  | none => pure ()
  | some iid =>
    setIncarnationState iid IncarnationState.isUnterminated
      (if quiescenceConfirmed then .terminated else .lost)

def finalizeEscalatedWriterPresence (executionId : Option ExecutionId)
    (incarnationId : Option IncarnationId) (attemptIsolation quiescenceConfirmed : Bool) :
    KernelTx Unit := do
  finalizeEscalatedExecution executionId attemptIsolation quiescenceConfirmed
  finalizeEscalatedIncarnation incarnationId quiescenceConfirmed

/-- Record a topology change and return its revision. -/
def insertRevision : KernelTx Nat := do
  let s ← load
  save { s with topologyRevision := s.topologyRevision + 1 }
  pure (s.topologyRevision + 1)

end Agentype

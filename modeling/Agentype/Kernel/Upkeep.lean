import Agentype.Kernel.Settlement

/-!
# `Agentype.Kernel.Upkeep` — expiry, decisions and delivery

The transactions the control loop and the root run over existing work: expiring leases, promoting
retries, deciding open escalations, reviving agents, recording preparation faults, and
acknowledging results and events.
-/

namespace Agentype

open Relational Tx Store

/-! ## Expiry -/

/-- What the expiry query reads of one active lease. -/
structure ExpireRow where
  leaseId : LeaseId
  attemptId : AttemptId
  taskId : TaskId
  attempt : AttemptRow
  task : TaskRow
  execution : Option (ExecutionId × ExecutionRow)

/-- The first row of each attempt. -/
def firstOfEach : List ExpireRow → List ExpireRow
  | [] => []
  | x :: xs => x :: (firstOfEach xs).filter fun y => y.attemptId ≠ x.attemptId

/-- The leases to expire: those past their time, and on recovery those without an execution. -/
def Store.expiring (s : Store) (now : UnixTime) (recoverUnstarted : Bool) : List ExpireRow :=
  ((s.leases.rows.insertionSort fun x y => x.2.expiresAt ≤ y.2.expiresAt).filterMap fun x => do
    let a ← s.attempts.lookup x.2.attemptId
    let t ← s.tasks.lookup x.2.taskId
    let e := s.executionOfAttempt x.2.attemptId
    if x.2.state = .active ∧ (x.2.expiresAt ≤ now ∨ (recoverUnstarted ∧ e.isNone)) then
      some ⟨x.1, x.2.attemptId, x.2.taskId, a, t, e⟩
    else none)

structure ExpireReport where
  suspended : Nat
  retried : Nat
  deriving DecidableEq

/-- A confirmed control-plane fact suspends the claim without consulting the retry policy. -/
def expireFaulted (row : ExpireRow) (kind : PreparationFaultKind) : KernelTx Unit := do
  updateTask row.taskId fun t =>
    { t with state := .suspended, currentAttemptId := none, nextEligibleAt := none }
  releaseAgent row.attempt.logicalAgentId
  let _ ← createEscalationWithCause row.taskId row.task.batchId (some row.attempt.logicalAgentId)
    row.task.workstreamId (.preparationFault row.attemptId kind) none
    (some ("confirmed fatal preparation fault; Root must repair and explicitly choose retry or " ++
      "cancellation"))
  recomputeBatch row.task.batchId

/-- Fence the incarnation of an expired claim. -/
def loseIncarnation : Option IncarnationId → KernelTx Unit
  | none => pure ()
  | some id => setIncarnationState id IncarnationState.isLivePresence .lost

def expiryCode (row : ExpireRow) : String :=
  if row.execution.isNone then "CLAIM_ORPHANED" else "LEASE_EXPIRED"

def expiryDetail (row : ExpireRow) : String :=
  if row.execution.isNone then "scheduler recovery found an active claim without an Execution"
  else "lease expired before authoritative completion"

def expireRetry (row : ExpireRow) : KernelTx Unit := do
  let env ← ask
  releaseAgent row.attempt.logicalAgentId
  let delay := row.task.retryPolicy.delayForAttempt row.attempt.attemptNumber
  updateTask row.taskId fun t =>
    { t with state := .retryWait, currentAttemptId := none,
             nextEligibleAt := some (Binary64.add env.now delay) }

def expireSuspend (row : ExpireRow) (safe : Bool) : KernelTx Unit := do
  updateTask row.taskId fun t => { t with state := .suspended, currentAttemptId := none }
  suspendOrRelease row.attempt.logicalAgentId (!safe)
  let _ ← createEscalation row.taskId row.task.batchId (some row.attempt.logicalAgentId)
    row.task.workstreamId (suspensionFailureClass safe .executionLost) (some (expiryCode row))
    (some (if safe then "retry unavailable" else "writer quiescence unknown"))
  recomputeBatch row.task.batchId

/-- A claim that expired without a preparation fault; tells whether it will be retried. -/
def expireLost (row : ExpireRow) : KernelTx Bool := do
  loseIncarnation row.attempt.incarnationId
  let _ ← recordFailure row.taskId (some row.attemptId) (row.execution.map Prod.fst) .executionLost
    (some (expiryCode row)) none (some (expiryDetail row))
  let safe := writerSafe row.task.workspaceMode row.execution (rowQuiescent row.execution)
  if row.task.retryPolicy.allows .executionLost row.attempt.attemptNumber && safe then do
    expireRetry row
    pure true
  else do
    expireSuspend row safe
    pure false

/-- Close one expired claim; tells whether it will be retried. -/
def expireClaim (row : ExpireRow) : KernelTx Bool := do
  let fault ← query fun s => s.preparationFaults.lookup row.attemptId
  require (!(fault.isSome && (row.execution.isSome || row.attempt.incarnationId.isSome)))
    (.invariantViolation "preparation fault has physical execution authority")
  closeLease row.leaseId .expired true
  closeAttempt row.attemptId .expired true
  match fault with
  | some kind => do
    expireFaulted row kind
    pure false
  | none => expireLost row

/-- The latest attempt of a task. -/
def Store.latestAttempt (s : Store) (taskId : TaskId) : Option (AttemptId × AttemptRow) :=
  minBy (fun x y => decide (y.2.attemptNumber < x.2.attemptNumber))
    (s.attempts.rows.filter fun x => decide (x.2.taskId = taskId))

/-- Suspended tasks whose latest attempt is faulted and has no decision. -/
def Store.undecidedFaults (s : Store) : List (AttemptId × AttemptRow × TaskRow) :=
  s.preparationFaults.rows.filterMap fun f => do
    let a ← s.attempts.lookup f.1
    let t ← s.tasks.lookup a.taskId
    if t.state = .suspended ∧ t.currentAttemptId = none ∧ a.state ≠ .active ∧
        (s.latestAttempt a.taskId).map Prod.fst = some f.1 ∧
        ¬ s.preparationEscalations.rows.any fun p => decide (p.2 = f.1) then
      some (f.1, a, t)
    else none

def restoreEscalation (x : AttemptId × AttemptRow × TaskRow) : KernelTx Unit := do
  let kind ← examine fun s => s.validatedFault x.1 x.2.1.taskId
  let _ ← createEscalationWithCause x.2.1.taskId x.2.2.batchId (some x.2.1.logicalAgentId)
    x.2.2.workstreamId (.preparationFault x.1 kind) none none
  recomputeBatch x.2.2.batchId

def restoreMissingEscalations : KernelTx Unit := do
  let rows ← query fun s => s.undecidedFaults
  rows.forM restoreEscalation

def expireLeases (recoverUnstarted : Bool) : KernelTx ExpireReport := do
  let env ← ask
  let rows ← query fun s => s.expiring env.now recoverUnstarted
  let retried ← (firstOfEach rows).mapM expireClaim
  restoreMissingEscalations
  pure ⟨retried.count false, retried.count true⟩

/-- A waiting task whose delay has passed. -/
def TaskRow.retryDue (t : TaskRow) (now : UnixTime) : Bool :=
  decide (t.state = .retryWait) && t.nextEligibleAt.any fun at_ => decide (at_ ≤ now)

def promoteRetryWait : KernelTx Nat := do
  let env ← ask
  let n ← query fun s => s.tasks.count fun _ t => t.retryDue env.now
  updateIn tasksT constraintViolation (fun _ t => t.retryDue env.now)
    fun t => { t with state := .queued, nextEligibleAt := none }
  pure n

/-! ## Decisions on escalations -/

/-- The physical remains of the latest attempt of an escalated task. -/
structure EscalatedPresence where
  incarnationId : Option IncarnationId
  executionId : Option ExecutionId
  frozenIsolation : Bool

def Store.escalatedPresence (s : Store) (taskId : TaskId) : EscalatedPresence :=
  match s.latestAttempt taskId with
  | none => ⟨none, none, false⟩
  | some (id, a) =>
    let e := s.executionOfAttempt id
    ⟨a.incarnationId, e.map Prod.fst, e.any fun x => x.2.attemptIsolation⟩

/-- The physical side of a resolution. -/
def settlePresence (action : EscalatedWriterPresenceAction) (p : EscalatedPresence)
    (quiescenceConfirmed : Bool) : KernelTx Unit :=
  whenever (action = .finalizePresence) (finalizeEscalatedWriterPresence p.executionId
    p.incarnationId p.frozenIsolation quiescenceConfirmed)

/-- The agent side of a resolution. -/
def reviveEscalated (revive : Bool) : Option LogicalAgentId → KernelTx Unit
  | none => pure ()
  | some id => whenever revive (prepareAgentRevivalAfterSafety id)

def closeEscalation (id : EscalationId) (resolve : Bool) : KernelTx Unit :=
  whenever resolve (updateIn escalationsT constraintViolation (fun k _ => decide (k = id))
    fun e => { e with state := .resolved })

/-- Carry out a planned resolution. -/
def applyResolution (id : EscalationId) (row : EscalationRow) (p : EscalatedPresence)
    (quiescenceConfirmed : Bool) : EscalationResolutionPlan → KernelTx Unit
  | .releaseCancelledWriter presence revive resolve => do
    settlePresence presence p quiescenceConfirmed
    reviveEscalated revive row.logicalAgentId
    closeEscalation id resolve
    recomputeBatch row.batchId
  | .retry next reactivate presence revive resolve => do
    updateTask row.taskId fun t => { t with state := next, nextEligibleAt := none }
    whenever reactivate (updateIn batchesT constraintViolation
      (fun k b => decide (k = row.batchId) && decide (b.state = .suspended))
      fun b => { b with state := .active })
    settlePresence presence p quiescenceConfirmed
    reviveEscalated revive row.logicalAgentId
    closeEscalation id resolve
    recomputeBatch row.batchId
  | .cancelTask next resolve recomputeOnly => do
    updateTask row.taskId fun t => { t with state := next }
    closeEscalation id resolve
    whenever (recomputeOnly || resolve) (recomputeBatch row.batchId)

def resolveEscalation (id : EscalationId) (operation : String) (quiescenceConfirmed : Bool) :
    KernelTx Unit := do
  let op ← examine fun _ => EscalationOperation.parse operation
  let row ← fetch noRow fun s => s.escalations.lookup id
  let task ← requiredTask row.taskId
  let cause ← examine fun s => s.escalationCause id row.taskId row.tag
  let presence ← query fun s => s.escalatedPresence row.taskId
  let plan ← examine fun _ => planEscalationResolution
    { escalationIsOpen := decide (row.state = .opened), cause := cause, taskState := task.state,
      workspaceMode := task.workspaceMode, frozenIsolation := presence.frozenIsolation,
      hasAgent := row.logicalAgentId.isSome } op quiescenceConfirmed
  applyResolution id row presence quiescenceConfirmed plan

/-! ## Revival and preparation faults -/

/-- An open writer-safety obligation names the agent. -/
def Store.revivalBlocked (s : Store) (agentId : LogicalAgentId) : Bool :=
  s.escalations.rows.any fun x => decide (x.2.logicalAgentId = some agentId) &&
    decide (x.2.state = .opened) && decide (x.2.tag = .taskFailure .writerQuiescenceUnknown)

def reviveAgent (agentId : LogicalAgentId) (executionTarget : String) : KernelTx Unit := do
  let env ← ask
  let agent ← requiredAgent agentId
  require (agent.state ≠ .retired)
    (.invalidTransition "a semantically retired LogicalAgent cannot revive")
  let blocked ← query fun s => s.revivalBlocked agentId
  require (!blocked) (.invalidTransition
    "writer physical-safety obligation must be resolved before revival")
  let active ← query fun s => s.hasActiveAttempt agentId
  require (!(agent.currentTaskId.isSome || active)) (.invalidTransition
    "an assigned LogicalAgent must close or fence its active Attempt before revival")
  let partition ← requiredPartition agent.partition true
  require (partition.executionTarget = executionTarget)
    (.invalidTransition "revival target must match the active partition")
  updateAgent agentId fun a => { a with state := .ready, availableSince := some env.now }

/-- The claim is the one the fault is about. -/
def faultClaimMatches (claim : Claim) (records : ClaimRecords) : Bool :=
  decide (records.attempt.taskId = claim.taskId ∧
    records.attempt.logicalAgentId = claim.logicalAgentId ∧
    records.attempt.executionTarget = claim.executionTarget ∧
    records.attempt.executionProfile = claim.executionProfile ∧ records.leaseId = claim.leaseId)

/-- Record a confirmed fatal producer fact; the first one is immutable. -/
def recordPreparationFault (claim : Claim) (kind : PreparationFaultKind) : KernelTx Unit := do
  let records ← examine fun s => s.validateClaimTx claim.attemptId claim.leaseEpoch none
  require (faultClaimMatches claim records)
    (.invalidAuthority "preparation fault claim identity mismatch")
  require (decide (records.task.agentRequirementMode = .typed) &&
    records.attempt.incarnationId.isNone)
    (.invalidTransition "preparation faults require an unstarted typed claim")
  require (records.task.state = .leased)
    (.invalidTransition "preparation fault requires a leased Task")
  let known ← query fun s => (s.preparationFaults.lookup claim.attemptId).isSome
  whenever (!known) (insertInto preparationFaultsT constraintViolation claim.attemptId kind)

/-! ## Results and events -/

def ackResult (id : ResultId) (consumerRef : String) : KernelTx Unit := do
  let row ← fetch (.notFound ("results " ++ id.quote)) fun s => s.results.lookup id
  whenever (row.state ≠ .acked) (updateIn resultsT constraintViolation
    (fun k _ => decide (k = id))
    fun r => { r with state := .acked, consumerRef := some consumerRef })

/-- Set the columns of one event row. -/
def updateEvent (id : OutboxEventId) (f : OutboxRow → OutboxRow) : KernelTx Unit :=
  updateIn notificationOutboxT constraintViolation (fun k _ => decide (k = id)) f

def ackOutbox (id : OutboxEventId) : KernelTx OutboxState := do
  let env ← ask
  let row ← fetch (.notFound ("outbox " ++ id.quote)) fun s => s.notificationOutbox.lookup id
  whenever (row.state ≠ .acked) (updateEvent id fun o =>
    { o with state := .acked, acknowledgedAt := some env.now })
  pure .acked

/-- A pending event has been handed over. -/
def OutboxRow.delivered (now : UnixTime) (o : OutboxRow) : OutboxRow :=
  { o with state := .delivered, deliveryAttempts := o.deliveryAttempts + 1,
           deliveredAt := some now }

/-- An attempt to hand a pending event over has failed. -/
def OutboxRow.postponed (until_ : UnixTime) (diagnostic : String) (o : OutboxRow) : OutboxRow :=
  { o with deliveryAttempts := o.deliveryAttempts + 1, nextDeliveryAt := until_,
           lastError := some diagnostic }

def markOutboxDelivered (id : OutboxEventId) : KernelTx OutboxState := do
  let env ← ask
  let row ← fetch noRow fun s => s.notificationOutbox.lookup id
  if row.state = .pending then do
    updateEvent id (OutboxRow.delivered env.now)
    pure .delivered
  else pure row.state

def lastErrorMaxChars : Nat := 512

def boundLastError (diagnostic : String) : String :=
  String.ofList (diagnostic.toList.take lastErrorMaxChars)

inductive DeliveryCommit where
  | success
  | failure (delay : ℚ) (diagnostic : String)

/-- The bookkeeping of one delivery attempt on a pending event. -/
def commitDelivery (id : OutboxEventId) : DeliveryCommit → KernelTx OutboxState
  | .success => do
    let env ← ask
    updateEvent id fun o => { o.delivered env.now with lastError := none }
    pure .delivered
  | .failure delay diagnostic => do
    let env ← ask
    updateEvent id (OutboxRow.postponed (Binary64.add env.now delay) diagnostic)
    pure .pending

def commitOutboxDelivery (id : OutboxEventId) (commit : DeliveryCommit) :
    KernelTx OutboxState := do
  let row ← fetch (.invariantViolation
    ("outbox event " ++ id ++ " is missing; retained events cannot disappear")) fun s =>
      s.notificationOutbox.lookup id
  if row.state = .pending then commitDelivery id commit else pure row.state

def commitOutboxDeliverySuccess (id : OutboxEventId) : KernelTx OutboxState :=
  commitOutboxDelivery id .success

def commitOutboxDeliveryFailure (id : OutboxEventId) (delay : ℚ) (diagnostic : String) :
    KernelTx OutboxState := do
  require (0 ≤ delay)
    (.invariantViolation "outbox failure delay must be finite and non-negative")
  commitOutboxDelivery id (.failure delay (boundLastError diagnostic))

end Agentype

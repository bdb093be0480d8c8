import Agentype.Kernel.Execution

/-!
# `Agentype.Kernel.Settlement` — closing claims and deciding what follows

Success, failure, cancellation and expiry of a claim, retry promotion, the decisions on open
escalations, revival, preparation faults, and the acknowledgement of results and events. The
operations that settle a claim share one order of statements: the physical row, the attempt and
its lease, the task, the agent, then the escalation and the batch aggregate.
-/

namespace Agentype

open Relational Tx Store

/-! ## Success -/

/-- The writer of a task may be replaced under the given quiescence evidence. -/
def writerSafe (mode : WorkspaceMode) (execution : Option (ExecutionId × ExecutionRow))
    (quiescent : Bool) : Bool :=
  writerIsSafeToReplace (mode = .write) execution.isSome quiescent
    (execution.any fun x => x.2.attemptIsolation)

/-- A success may be recorded on this execution; `SUCCEEDED` is a pending consequence. -/
def canSucceed : Option (ExecutionId × ExecutionRow) → Except Error Unit
  | none => .ok ()
  | some (id, e) =>
    if e.state.isActivePhysical || decide (e.state = .succeeded) then .ok ()
    else .error (.invalidTransition
      ("execution " ++ id ++ " cannot succeed from " ++ e.state.asSql))

/-- Write the success of an execution with the quiescence the caller reports. -/
def succeedExecution (payload : JsonValue) (quiescent : Bool) :
    Option (ExecutionId × ExecutionRow) → KernelTx Unit
  | none => pure ()
  | some (id, _) =>
    updateExecution id fun e =>
      { e with state := .succeeded, outcome := some payload, terminalConfirmed := true,
               quiescentConfirmed := quiescent }

def notQuiescentCode : String := "WRITER_SUCCESS_NOT_QUIESCENT"

def notQuiescentDetail : String := "writer reported success but physical quiescence is unknown"

/-- A writer reported success without quiescence: suspend instead of completing. -/
def ackNotQuiescent (attemptId : AttemptId) (records : ClaimRecords)
    (execution : Option (ExecutionId × ExecutionRow)) (payload : JsonValue) : KernelTx Unit := do
  succeedExecution payload false execution
  recordIncarnationPresence records.attempt.incarnationId .succeeded true false false
  let _ ← recordFailure records.attempt.taskId (some attemptId) (execution.map Prod.fst)
    .writerQuiescenceUnknown (some notQuiescentCode) (some notQuiescentCode)
    (some notQuiescentDetail)
  suspendCurrent attemptId records .writerQuiescenceUnknown (some notQuiescentCode)
    (some notQuiescentDetail)

/-- Complete the task of a claim and store its result. -/
def ackComplete (attemptId : AttemptId) (records : ClaimRecords)
    (execution : Option (ExecutionId × ExecutionRow)) (payload : JsonValue)
    (summary : Option String) (quiescent reusable : Bool) : KernelTx ResultId := do
  examine fun _ => canSucceed execution
  succeedExecution payload quiescent execution
  recordIncarnationPresence records.attempt.incarnationId .succeeded true quiescent reusable
  closeAttempt attemptId .succeeded false
  closeLease records.leaseId .released false
  updateTask records.attempt.taskId fun t =>
    { t with state := .completed, currentAttemptId := none, nextEligibleAt := none }
  let resultId ← newId "result"
  insertInto resultsT constraintViolation resultId
    { taskId := records.attempt.taskId, batchId := records.task.batchId, attemptId := attemptId,
      logicalAgentId := records.attempt.logicalAgentId, executionId := execution.map Prod.fst,
      payload := payload, summary := summary, state := .available, consumerRef := none }
  releaseAgent records.attempt.logicalAgentId
  releaseDependencies records.task.batchId
  recomputeBatch records.task.batchId
  pure resultId

def ackSuccess (attemptId : AttemptId) (leaseEpoch : LeaseEpoch)
    (executionId : Option ExecutionId) (payload : JsonValue) (summary : Option String)
    (quiescentConfirmed incarnationReusable : Bool) : KernelTx (Option ResultId) := do
  let records ← validateAuthorityTx attemptId leaseEpoch
  let execution ← executionForAttempt attemptId executionId
  if writerSafe records.task.workspaceMode execution quiescentConfirmed then do
    let id ← ackComplete attemptId records execution payload summary quiescentConfirmed
      incarnationReusable
    pure (some id)
  else do
    ackNotQuiescent attemptId records execution payload
    pure none

/-! ## Failure -/

/-- The physical row under a failed claim. A row that has already left the active states keeps
    its history. -/
def nackExecution (failureClass : FailureClass) (terminal quiescent : Bool) :
    Option (ExecutionId × ExecutionRow) → KernelTx Unit
  | none => pure ()
  | some (id, row) =>
    if row.state = .lost ∨ row.state = .failed ∨ row.state = .terminated then pure ()
    else do
      require row.state.isActivePhysical (.invalidTransition
        ("execution " ++ id ++ " cannot fail from " ++ row.state.asSql))
      updateExecution id fun e =>
        { e with state := if terminal then .failed else .unknown,
                 failureClass := some failureClass, terminalConfirmed := terminal,
                 quiescentConfirmed := terminal && quiescent }

/-- The physical state a failure class stands for. -/
def failurePresence (failureClass : FailureClass) : ExecutionState :=
  if failureClass = .executionLost then .lost else .failed

/-- Close a claim that will be retried after a delay. -/
def retryLater (attemptId : AttemptId) (records : ClaimRecords) : KernelTx Unit := do
  let env ← ask
  let delay := records.task.retryPolicy.delayForAttempt records.attempt.attemptNumber
  closeAttempt attemptId .failed false
  closeLease records.leaseId .released false
  updateTask records.attempt.taskId fun t =>
    { t with state := .retryWait, currentAttemptId := none,
             nextEligibleAt := some (Binary64.add env.now delay) }
  releaseAgent records.attempt.logicalAgentId

/-- Retry a failed claim when its policy and the writer rule allow it, else suspend its task. -/
def retryOrSuspend (attemptId : AttemptId) (records : ClaimRecords) (failureClass : FailureClass)
    (safe : Bool) : KernelTx TaskState :=
  if records.task.retryPolicy.allows failureClass records.attempt.attemptNumber && safe then do
    retryLater attemptId records
    pure .retryWait
  else do
    suspendCurrent attemptId records (suspensionFailureClass safe failureClass) none none
    pure .suspended

def nack (attemptId : AttemptId) (leaseEpoch : LeaseEpoch) (failureClass : FailureClass)
    (executionId : Option ExecutionId)
    (terminalConfirmed quiescentConfirmed incarnationReusable : Bool) : KernelTx TaskState := do
  let records ← validateAuthorityTx attemptId leaseEpoch
  let execution ← executionForAttempt attemptId executionId
  let _ ← recordFailure records.attempt.taskId (some attemptId) (execution.map Prod.fst)
    failureClass none none none
  nackExecution failureClass terminalConfirmed quiescentConfirmed execution
  -- one normalized truth for persistence and policy, taken from the caller's flags
  let quiescent := durableQuiescence terminalConfirmed quiescentConfirmed
  recordIncarnationPresence records.attempt.incarnationId (failurePresence failureClass)
    terminalConfirmed quiescent incarnationReusable
  retryOrSuspend attemptId records failureClass
    (writerSafe records.task.workspaceMode execution quiescent)

def nackPreservingPhysicalHistory (attemptId : AttemptId) (leaseEpoch : LeaseEpoch)
    (failureClass : FailureClass) (executionId : Option ExecutionId) : KernelTx TaskState := do
  let records ← validateAuthorityTx attemptId leaseEpoch
  let execution ← executionForAttempt attemptId executionId
  let _ ← recordFailure records.attempt.taskId (some attemptId) (execution.map Prod.fst)
    failureClass none none none
  recordIncarnationPresence records.attempt.incarnationId (failurePresence failureClass)
    false false false
  retryOrSuspend attemptId records failureClass
    (writerSafe records.task.workspaceMode execution false)

def reportConfigurationUnavailable (attemptId : AttemptId) (leaseEpoch : LeaseEpoch) :
    KernelTx TaskState :=
  nack attemptId leaseEpoch unavailableConfigurationFailure none false false false

/-- The adapter was never called: remove the row and requeue the task. A frozen snapshot still
    refers to the row, and then the delete is refused. -/
def abortBeforePhysicalStart (attemptId : AttemptId) (leaseEpoch : LeaseEpoch)
    (executionId : ExecutionId) : KernelTx TaskState := do
  let records ← validateAuthorityTx attemptId leaseEpoch
  let execution ← executionOfClaim attemptId executionId
  require (execution.state = .starting) (.invalidTransition
    "only an unstarted STARTING execution can be aborted before the adapter")
  let referenced ← query fun s => (s.bindingSnapshots.lookup executionId).isSome
  require (!referenced) constraintViolation
  eraseFrom executionsT executionId
  closeAttempt attemptId .failed false
  closeLease records.leaseId .released false
  updateTask records.attempt.taskId fun t => { t with state := .queued, currentAttemptId := none }
  releaseAgent records.attempt.logicalAgentId
  pure .queued

/-! ## Cancellation -/

/-- The execution row itself proves quiescence. -/
def rowQuiescent (execution : Option (ExecutionId × ExecutionRow)) : Bool :=
  execution.any fun x => durableQuiescence x.2.terminalConfirmed x.2.quiescentConfirmed

/-- Close the attempt and the lease of a cancelled claim. -/
def cancelAuthority (attemptId : AttemptId) : KernelTx Unit := do
  closeAttempt attemptId .cancelled true
  updateIn leasesT constraintViolation
    (fun _ l => decide (l.attemptId = attemptId) && decide (l.state = .active))
    fun l => { l with state := .revoked }

/-- The agent of a cancelled claim: suspended under an open obligation, else released. -/
def cancelAgent (taskId : TaskId) (batchId : BatchId) (workstreamId : Option WorkstreamId)
    (agentId : LogicalAgentId) (writerUnknown : Bool) (detail : String) : KernelTx Unit :=
  if writerUnknown then do
    suspendAgent agentId
    let _ ← createEscalation taskId batchId (some agentId) workstreamId .writerQuiescenceUnknown
      (some "CANCELLED_WRITER_NOT_QUIESCENT") (some detail)
    pure ()
  else releaseAgent agentId

/-- The physical state a cancellation leaves behind. -/
def cancelledPresence (quiescent : Bool) : ExecutionState :=
  if quiescent then .terminated else .lost

/-- Close the physical row of a cancelled claim while it is active. -/
def cancelExecution (quiescent : Bool) : Option (ExecutionId × ExecutionRow) → KernelTx Unit
  | none => pure ()
  | some (id, _) =>
    updateIn executionsT executionRefused
      (fun k e => decide (k = id) && e.state.isActivePhysical)
      fun e => { e with state := cancelledPresence quiescent }

/-- Close the current claim of a task that is being cancelled. -/
def cancelCurrentAttempt (taskId : TaskId) (task : TaskRow) (quiescenceConfirmed : Bool) :
    Option AttemptId → KernelTx Unit
  | none => pure ()
  | some attemptId => do
    let attempt ← requiredAttempt attemptId
    let execution ← executionForAttempt attemptId none
    let evidence := quiescenceConfirmed || rowQuiescent execution
    let quiescent := execution.isNone || evidence
    recordIncarnationPresence attempt.incarnationId (cancelledPresence quiescent) quiescent
      quiescent false
    cancelAuthority attemptId
    cancelExecution quiescent execution
    cancelAgent taskId task.batchId task.workstreamId attempt.logicalAgentId
      (!writerSafe task.workspaceMode execution evidence)
      "scheduler authority cancelled but physical writer quiescence is unknown"

def cancelTask (taskId : TaskId) (quiescenceConfirmed : Bool) : KernelTx Unit := do
  let task ← requiredTask taskId
  if task.state = .completed ∨ task.state = .cancelled then pure ()
  else do
    cancelCurrentAttempt taskId task quiescenceConfirmed task.currentAttemptId
    updateTask taskId fun t => { t with state := .cancelled, currentAttemptId := none }
    recomputeBatch task.batchId

/-- The active claims of a batch, in the order of their attempts. -/
def Store.activeClaims (s : Store) (batchId : BatchId) :
    List (AttemptId × AttemptRow × TaskRow) :=
  (s.attempts.rows.filterMap fun x => do
    let t ← s.tasks.lookup x.2.taskId
    if t.batchId = batchId ∧ x.2.state = .active then some (x.1, x.2, t) else none)
  |>.insertionSort fun x y => x.1 ≤ y.1

/-- Close one active claim of a batch that is being cancelled. The physical row is left alone. -/
def cancelBatchAttempt (batchId : BatchId) (x : AttemptId × AttemptRow × TaskRow) :
    KernelTx Unit := do
  let execution ← executionForAttempt x.1 none
  let quiescent := execution.isNone || rowQuiescent execution
  recordIncarnationPresence x.2.1.incarnationId (cancelledPresence quiescent) quiescent quiescent
    false
  cancelAuthority x.1
  cancelAgent x.2.1.taskId batchId x.2.2.workstreamId x.2.1.logicalAgentId
    (!writerSafe x.2.2.workspaceMode execution (rowQuiescent execution))
    "batch cancelled but physical writer quiescence is unknown"

/-- Cancel a batch that has not ended. -/
def cancelOpenBatch (batchId : BatchId) : KernelTx Unit := do
  updateIn escalationsT constraintViolation
    (fun _ e => decide (e.batchId = batchId) && decide (e.state = .opened) &&
      decide (e.tag ≠ .taskFailure .writerQuiescenceUnknown))
    fun e => { e with state := .cancelled }
  let active ← query fun s => s.activeClaims batchId
  active.forM (cancelBatchAttempt batchId)
  updateIn tasksT constraintViolation
    (fun _ t => decide (t.batchId = batchId) && !t.state.isTerminal)
    fun t => { t with state := .cancelled, currentAttemptId := none }
  updateIn batchesT constraintViolation (fun k _ => decide (k = batchId))
    fun b => { b with state := .cancelled }

def cancelBatch (batchId : BatchId) : KernelTx Unit := do
  let batch ← fetch (.notFound ("batches " ++ batchId.quote)) fun s => s.batches.lookup batchId
  require (batch.state ≠ .completed)
    (.invalidTransition "a terminal COMPLETED batch cannot be cancelled")
  if batch.state = .cancelled then pure () else cancelOpenBatch batchId

end Agentype

import Agentype.Kernel.Work

/-!
# `Agentype.Kernel.Execution` — physical commitment, observation and renewal

Creating the execution of a claim, confirming that it runs, recording what was observed of it, and
renewing the lease behind it. Observations follow the physical graph and touch no task authority;
everything that renews or commits passes the authority fence first.
-/

namespace Agentype

open Relational Tx Store

/-! ## Commitment -/

/-- The attempt-bound safety fact a physical binding carries. -/
structure FrozenExecutionSafety where
  attemptId : AttemptId
  leaseEpoch : LeaseEpoch
  executionTarget : String
  executionProfile : String
  attemptIsolation : Bool

structure FrozenPhysicalExecutionBinding where
  safety : FrozenExecutionSafety
  adapterKind : String
  adapterBindingKey : String

/-- The claim a caller holds describes the authoritative attempt. -/
def Claim.agreesWith (claim : Claim) (attempt : AttemptRow) : Except Error Unit :=
  if claim.taskId ≠ attempt.taskId then
    .error (.invalidAuthority "claim task_id does not match authoritative attempt")
  else if claim.logicalAgentId ≠ attempt.logicalAgentId then
    .error (.invalidAuthority "claim logical_agent_id does not match authoritative attempt")
  else if claim.executionTarget ≠ attempt.executionTarget then
    .error (.invalidAuthority "claim execution_target does not match authoritative attempt")
  else if claim.executionProfile ≠ attempt.executionProfile then
    .error (.invalidAuthority "claim execution_profile does not match authoritative attempt")
  else .ok ()

/-- The safety fact was minted for this very attempt. -/
def FrozenExecutionSafety.boundTo (safety : FrozenExecutionSafety) (claim : Claim)
    (attemptId : AttemptId) (attempt : AttemptRow) : Except Error Unit :=
  if safety.attemptId ≠ attemptId then
    .error (.invalidAuthority ("safety proof is bound to attempt " ++ safety.attemptId ++
      " but the authoritative attempt is " ++ attemptId))
  else if safety.leaseEpoch ≠ claim.leaseEpoch then
    .error (.invalidAuthority "safety proof is bound to a different lease epoch")
  else if safety.executionTarget ≠ attempt.executionTarget then
    .error (.invalidAuthority ("safety proof target '" ++ safety.executionTarget ++
      "' does not match authoritative attempt target '" ++ attempt.executionTarget ++ "'"))
  else if safety.executionProfile ≠ attempt.executionProfile then
    .error (.invalidAuthority ("safety proof profile '" ++ safety.executionProfile ++
      "' does not match authoritative attempt profile '" ++ attempt.executionProfile ++ "'"))
  else .ok ()

structure AuthoritativeExecutionBinding where
  attemptId : AttemptId
  leaseEpoch : LeaseEpoch
  executionTarget : String
  executionProfile : String

def resolveExecutionBinding (claim : Claim) : KernelTx AuthoritativeExecutionBinding := do
  let records ← validateAuthorityTx claim.attemptId claim.leaseEpoch
  examine fun _ => claim.agreesWith records.attempt
  pure ⟨claim.attemptId, claim.leaseEpoch, records.attempt.executionTarget,
    records.attempt.executionProfile⟩

/-- What the kernel commits for a launch, read back from durable authority. -/
structure ExecutionLaunchSnapshot where
  executionId : ExecutionId
  requestId : String
  taskId : TaskId
  batchId : BatchId
  attemptId : AttemptId
  attemptNumber : Nat
  leaseId : LeaseId
  leaseEpoch : LeaseEpoch
  leaseExpiresAt : UnixTime
  logicalAgentId : LogicalAgentId
  incarnationId : IncarnationId
  incarnationRuntimeHandle : JsonValue
  executionTarget : String
  executionProfile : String
  workspaceMode : WorkspaceMode
  taskName : String
  payload : JsonValue
  acceptance : JsonValue
  workstreamId : Option WorkstreamId
  continuity : ContinuityPreference
  continuityVersion : Nat
  continuityCapsule : JsonValue
  safety : FrozenExecutionSafety
  launchDescriptor : Option String

/-- The incarnation of an attempt, linked already or ensured now. -/
def incarnationForAttempt (attempt : AttemptRow) : KernelTx IncarnationId :=
  match attempt.incarnationId with
  | some id => pure id
  | none => ensureIncarnation attempt.logicalAgentId attempt.executionTarget

/-- An incarnation owns a physically active execution. -/
def Store.incarnationBusy (s : Store) (id : IncarnationId) : Bool :=
  s.executions.rows.any fun x => decide (x.2.incarnationId = id) && x.2.state.isActivePhysical

/-- The row of a newly committed execution. -/
def startingExecution (requestId : String) (attemptId : AttemptId) (attempt : AttemptRow)
    (incarnationId : IncarnationId) (binding : FrozenPhysicalExecutionBinding) : ExecutionRow where
  requestId := requestId
  taskId := attempt.taskId
  attemptId := attemptId
  incarnationId := incarnationId
  executionTarget := attempt.executionTarget
  executionProfile := attempt.executionProfile
  adapterKind := binding.adapterKind
  adapterBindingKey := binding.adapterBindingKey
  attemptIsolation := binding.safety.attemptIsolation
  bindingSnapshotMode := .none
  state := .starting
  runtimeHandle := .emptyObject
  outcome := none
  summary := none
  incarnationReusable := false
  failureClass := none
  terminalConfirmed := false
  quiescentConfirmed := false

def createExecutionInTx (claim : Claim) (binding : FrozenPhysicalExecutionBinding)
    (executionId : ExecutionId) (launchDescriptor : Option String) :
    KernelTx ExecutionLaunchSnapshot := do
  require (!isBlank binding.adapterKind) (.invalidAuthority
    "execution commitment requires a non-blank adapter routing identity")
  require (!isBlank binding.adapterBindingKey) (.invalidAuthority
    "execution commitment requires a non-blank adapter binding key")
  let records ← validateAuthorityTx claim.attemptId claim.leaseEpoch
  examine fun _ => claim.agreesWith records.attempt
  require (!(launchDescriptor.isNone && decide (records.task.agentRequirementMode = .typed)))
    (.invalidAuthority "a typed Task must commit through create_execution_with_snapshot")
  examine fun _ => binding.safety.boundTo claim claim.attemptId records.attempt
  let incarnationId ← incarnationForAttempt records.attempt
  let incarnation ← fetch noRow fun s => s.incarnations.lookup incarnationId
  let busy ← query fun s => s.incarnationBusy incarnationId
  require (!busy) (.invalidTransition
    ("incarnation " ++ incarnationId ++ " already owns an active Execution"))
  updateIn attemptsT constraintViolation
    (fun k a => decide (k = claim.attemptId) && a.incarnationId.isNone)
    fun a => { a with incarnationId := some incarnationId }
  let requestId ← newId "request"
  insertInto executionsT constraintViolation executionId
    (startingExecution requestId claim.attemptId records.attempt incarnationId binding)
  let payload ← jsonLoad records.task.payload
  let acceptance ← jsonLoad records.task.acceptance
  let agent ← requiredAgent records.attempt.logicalAgentId
  let continuity ← jsonLoad agent.continuity
  let runtimeHandle ← jsonLoad incarnation.runtimeHandle
  let _ ← examine fun s => s.getTaskAgentRequirement records.attempt.taskId
  pure { executionId := executionId, requestId := requestId, taskId := records.attempt.taskId,
         batchId := records.task.batchId, attemptId := claim.attemptId,
         attemptNumber := records.attempt.attemptNumber, leaseId := records.leaseId,
         leaseEpoch := records.lease.epoch, leaseExpiresAt := records.lease.expiresAt,
         logicalAgentId := records.attempt.logicalAgentId, incarnationId := incarnationId,
         incarnationRuntimeHandle := runtimeHandle,
         executionTarget := records.attempt.executionTarget,
         executionProfile := records.attempt.executionProfile,
         workspaceMode := records.task.workspaceMode, taskName := records.task.name,
         payload := payload, acceptance := acceptance,
         workstreamId := records.task.workstreamId, continuity := records.task.continuity,
         continuityVersion := agent.continuityVersion, continuityCapsule := continuity,
         safety := binding.safety, launchDescriptor := launchDescriptor }

def createExecution (claim : Claim) (binding : FrozenPhysicalExecutionBinding) :
    KernelTx ExecutionLaunchSnapshot := do
  let executionId ← newId "exec"
  createExecutionInTx claim binding executionId none

/-- The snapshot agrees with the execution and with the provenance of its incarnation. -/
def Store.validateBindingSnapshotAuthority (s : Store) (executionId : ExecutionId)
    (snapshot : BindingSnapshot) : Except Error Unit := do
  let e ← orError (.notFound ("execution " ++ executionId ++ " not found"))
    (s.executions.lookup executionId)
  if e.adapterKind ≠ snapshot.adapterKind ∨ e.adapterBindingKey ≠ snapshot.adapterBindingKey ∨
      e.executionTarget ≠ snapshot.executionTarget ∨
      e.executionProfile ≠ snapshot.executionProfile then
    .error (.invariantViolation
      "binding snapshot disagrees with its execution's frozen physical choice")
  else if snapshot.effectiveIsolation ≠ e.attemptIsolation then
    .error (.invariantViolation "binding snapshot effective isolation disagrees with the execution")
  else do
    let found ← s.getProvisioningBinding e.incarnationId
    let b ← orError (.invariantViolation
      "binding snapshot's incarnation has no provisioning binding") found
    if b.provisioningBindingId ≠ snapshot.provisioningBindingId ∨
        b.spawnSource ≠ snapshot.spawnSource ∨ b.sourceConfig ≠ snapshot.sourceConfig ∨
        b.adapterKind ≠ snapshot.adapterKind ∨
        b.adapterBindingKey ≠ snapshot.adapterBindingKey ∨
        b.attestedMaterializationDigest ≠ snapshot.attestedMaterializationDigest ∨
        b.effectiveSecurity ≠ snapshot.enforceableSecurity then
      .error (.invariantViolation "binding snapshot disagrees with its provisioning binding")
    else .ok ()

/-- The typed commitment. `catalog` is what the catalog said about the requirement, the config
    revision and the isolation the snapshot names. -/
def createExecutionWithSnapshot (claim : Claim) (binding : FrozenPhysicalExecutionBinding)
    (executionId : ExecutionId) (launchDescriptor : String) (snapshot : BindingSnapshot)
    (catalog : Except Error Unit) : KernelTx ExecutionLaunchSnapshot := do
  let launch ← createExecutionInTx claim binding executionId (some launchDescriptor)
  examine fun s => s.validateBindingSnapshotAuthority executionId snapshot
  examine fun _ => catalog
  updateExecution executionId fun e => { e with bindingSnapshotMode := .snapshot }
  insertInto bindingSnapshotsT constraintViolation executionId snapshot
  pure launch

/-! ## Observation -/

structure RunningAuthorityGrant where
  executionId : ExecutionId
  requestId : String
  attemptId : AttemptId
  leaseEpoch : LeaseEpoch
  confirmedAt : UnixTime
  leaseExpiresAt : UnixTime

/-- The runtime handle of the attempt's incarnation, which is warm now. -/
def warmIncarnation (incarnationId : Option IncarnationId) (handle : JsonValue) : KernelTx Unit :=
  match incarnationId with
  | none => pure ()
  | some id =>
    updateIn incarnationsT constraintViolation (fun k _ => decide (k = id))
      fun i => { i with state := .warm, runtimeHandle := handle }

/-- Extend a lease. -/
def renewLease (id : LeaseId) (p : LeaseRow → Bool) : KernelTx UnixTime := do
  let env ← ask
  let expiresAt := Binary64.add env.now env.leaseSeconds
  updateIn leasesT constraintViolation (fun k l => decide (k = id) && p l)
    fun l => { l with heartbeatAt := env.now, expiresAt := expiresAt }
  pure expiresAt

/-- The execution exists and is the attempt's own. -/
def executionOfClaim (attemptId : AttemptId) (executionId : ExecutionId) :
    KernelTx ExecutionRow := do
  let execution ← requiredExecution executionId
  require (execution.attemptId = attemptId)
    (.staleAuthority "execution does not belong to current attempt")
  pure execution

def confirmRunningAndRenew (attemptId : AttemptId) (leaseEpoch : LeaseEpoch)
    (executionId : ExecutionId) (handle : JsonValue) : KernelTx RunningAuthorityGrant := do
  let env ← ask
  let records ← validateAuthorityTx attemptId leaseEpoch
  let execution ← executionOfClaim attemptId executionId
  require execution.state.isActivePhysical (.invalidTransition
    ("execution " ++ executionId ++ " cannot enter RUNNING from " ++ execution.state.asSql))
  updateExecution executionId fun e => { e with state := .running, runtimeHandle := handle }
  updateIn tasksT constraintViolation
    (fun k t => decide (k = records.attempt.taskId) && decide (t.currentAttemptId = some attemptId))
    fun t => { t with state := .running }
  warmIncarnation records.attempt.incarnationId handle
  let live := fun l : LeaseRow => decide (l.state = .active) && decide (env.now < l.expiresAt)
  let n ← query fun s => s.leases.count fun k l => decide (k = records.leaseId) && live l
  let expiresAt ← renewLease records.leaseId live
  require (n = 1) (.staleAuthority "lease expired before RUNNING supervision was established")
  pure ⟨executionId, execution.requestId, attemptId, records.lease.epoch, env.now, expiresAt⟩

/-- The execution is still the live attachment of its incarnation. -/
def Store.executionStillAttached (s : Store) (id : ExecutionId) (incarnationId : IncarnationId) :
    Bool :=
  ((s.executions.lookup id).any fun e => e.state.isActivePhysical) &&
    !s.executions.rows.any fun x => decide (x.2.incarnationId = incarnationId) &&
      decide (x.1 ≠ id) && x.2.state.isActivePhysical

/-- Replace the runtime handle of an incarnation when there is a new one. -/
def updateIncarnationHandle (id : IncarnationId) (handle : Option JsonValue) : KernelTx Unit :=
  match handle with
  | none => pure ()
  | some h =>
    updateIn incarnationsT constraintViolation (fun k _ => decide (k = id))
      fun i => { i with runtimeHandle := h }

/-- `UNKNOWN` or `LOST`: no authoritative physical fact. -/
def ExecutionState.isUnresolved : ExecutionState → Bool
  | .unknown | .lost => true
  | _ => false

/-- Record an observed physical state. Entering an unresolved state clears earlier proof. -/
def recordPhysicalOutcome (executionId : ExecutionId) (state : ExecutionState)
    (handle payload : Option JsonValue) (failureClass : Option FailureClass)
    (terminalConfirmed quiescentConfirmed : Bool) : KernelTx Unit := do
  require (!(state.isUnresolved && (terminalConfirmed || quiescentConfirmed))) (.invalidTransition
    "an unresolved physical outcome cannot carry terminal or quiescence proof")
  let execution ← requiredExecution executionId
  examine fun _ => requirePhysicalTransition execution.state state
  let attached ← query fun s => s.executionStillAttached executionId execution.incarnationId
  updateExecution executionId fun e =>
    { e with state := state, runtimeHandle := handle.getD e.runtimeHandle,
             outcome := payload.or e.outcome, failureClass := failureClass.or e.failureClass,
             terminalConfirmed :=
               !state.isUnresolved && (e.terminalConfirmed || terminalConfirmed),
             quiescentConfirmed :=
               !state.isUnresolved && (e.quiescentConfirmed || quiescentConfirmed) }
  whenever attached do
    updateIncarnationHandle execution.incarnationId handle
    recordIncarnationPresence (some execution.incarnationId) state terminalConfirmed
      quiescentConfirmed false

/-- Record a better locator; no physical state changes. -/
def recordRuntimeHandleHint (executionId : ExecutionId) (handle : JsonValue) : KernelTx Unit := do
  let execution ← requiredExecution executionId
  updateExecution executionId fun e => { e with runtimeHandle := handle }
  let attached ← query fun s => s.executionStillAttached executionId execution.incarnationId
  whenever attached (updateIncarnationHandle execution.incarnationId (some handle))

/-- Record a collected terminal fact ahead of its consequence for the task. The envelope covers
    the earlier one: the quiescence bit is written, not accumulated. -/
def recordPendingPhysicalTerminal (executionId : ExecutionId) (state : ExecutionState)
    (handle payload : Option JsonValue) (summary : Option String)
    (failureClass : Option FailureClass) (quiescentConfirmed incarnationReusable : Bool) :
    KernelTx Unit := do
  require state.isEnded (.invalidTransition
    "pending physical terminal must be SUCCEEDED, FAILED, or TERMINATED")
  let execution ← requiredExecution executionId
  examine fun _ => requirePhysicalTransition execution.state state
  updateExecution executionId fun e =>
    { e with state := state, runtimeHandle := handle.getD e.runtimeHandle,
             outcome := some (payload.getD .null), summary := summary, failureClass := failureClass,
             incarnationReusable := incarnationReusable, terminalConfirmed := true,
             quiescentConfirmed := quiescentConfirmed }
  updateIncarnationHandle execution.incarnationId handle

/-! ## Renewal -/

def heartbeat (attemptId : AttemptId) (leaseEpoch : LeaseEpoch) : KernelTx UnixTime := do
  let records ← validateAuthorityTx attemptId leaseEpoch
  let running ← query fun s => s.executions.rows.any fun x =>
    decide (x.2.attemptId = attemptId) && decide (x.2.state = .running)
  require running (.staleAuthority "attempt has no active Execution eligible for heartbeat")
  renewLease records.leaseId fun _ => true

inductive SupervisedRenewal where
  | renewed (expiresAt : UnixTime)
  | notRunning
  | freshnessExpired
  deriving DecidableEq

def renewRunning (leaseId : LeaseId) : KernelTx SupervisedRenewal := do
  let expiresAt ← renewLease leaseId fun _ => true
  pure (.renewed expiresAt)

/-- The fenced renewal proper, once the observation is known to be fresh. -/
def renewFresh (attemptId : AttemptId) (leaseEpoch : LeaseEpoch) (executionId : ExecutionId) :
    KernelTx SupervisedRenewal := do
  let records ← validateAuthorityTx attemptId leaseEpoch
  let execution ← executionOfClaim attemptId executionId
  if execution.state = .running then renewRunning records.leaseId else pure .notRunning

def renewSupervisedExecutionGuarded (attemptId : AttemptId) (leaseEpoch : LeaseEpoch)
    (executionId : ExecutionId) (freshUntil : UnixTime) : KernelTx SupervisedRenewal := do
  let env ← ask
  if freshUntil ≤ env.now then pure .freshnessExpired
  else renewFresh attemptId leaseEpoch executionId

def promoteCheckpoint (attemptId : AttemptId) (leaseEpoch : LeaseEpoch) (capsule : JsonValue) :
    KernelTx CheckpointId := do
  let records ← validateAuthorityTx attemptId leaseEpoch
  promoteCheckpointTx attemptId records leaseEpoch capsule none

end Agentype

import Agentype.Lib.Dfs
import Agentype.Kernel.Topology

/-!
# `Agentype.Kernel.Work` — submission, consumers and claims

Submitting a batch of dependent tasks, admitting a proposal as a batch of its own, birthing
temporary consumers, and granting a claim on the legacy path and on the typed path.
-/

namespace Agentype

open Relational Tx Store

/-! ## Submission -/

/-- A task as a client submits it. -/
structure TaskSpec where
  name : String
  payload : JsonValue
  acceptance : JsonValue
  partition : PartitionId
  workstreamId : Option WorkstreamId
  continuity : ContinuityPreference
  affinityTags : List String
  workspaceMode : WorkspaceMode
  dependencies : List String
  priority : Int
  retryPolicy : RetryPolicy
  supersedesTaskId : Option TaskId
  taskId : Option TaskId

/-- A read-only specification with the documented defaults. -/
def TaskSpec.new (name : String) (payload : JsonValue) : TaskSpec where
  name := name
  payload := payload
  acceptance := .emptyObject
  partition := "general"
  workstreamId := none
  continuity := .none
  affinityTags := []
  workspaceMode := .readOnly
  dependencies := []
  priority := 0
  retryPolicy := .default
  supersedesTaskId := none
  taskId := none

/-- The explicit identity of a task, or a fresh one. -/
def TaskSpec.assignId (spec : TaskSpec) : KernelTx (String × TaskId) :=
  match spec.taskId with
  | some id => pure (spec.name, id)
  | none => do
    let id ← newId "task"
    pure (spec.name, id)

/-- A dependency names a task of the batch by its name, or else by its identity. -/
def resolveDependency (ids : List (String × TaskId)) (dep : String) : Option TaskId :=
  match ids.lookup dep with
  | some id => some id
  | none => if ids.any fun x => x.2 = dep then some dep else none

/-- The dependencies of one task as identities. -/
def resolveDependencies (ids : List (String × TaskId)) (spec : TaskSpec) :
    Except Error (List TaskId) :=
  spec.dependencies.mapM fun dep =>
    orError (.invalidTransition ("unknown dependency " ++ dep.quote ++ " for " ++ spec.name))
      (resolveDependency ids dep)

/-- Enter the dependencies of one task into the dependency map. -/
def addDependencies (ids : List (String × TaskId)) (graph : AList fun _ : TaskId => List TaskId)
    (spec : TaskSpec) : Except Error (AList fun _ : TaskId => List TaskId) := do
  let id ← orError (.notFound "row") (ids.lookup spec.name)
  let resolved ← resolveDependencies ids spec
  pure (graph.insert id resolved)

/-- The dependency map of a batch: one entry per identity, a later task replacing an earlier. -/
def dependencyGraph (ids : List (String × TaskId)) (specs : List TaskSpec) :
    Except Error (AList fun _ : TaskId => List TaskId) :=
  specs.foldlM (addDependencies ids) ∅

/-- The successors of a node in the dependency map. -/
def successors (graph : AList fun _ : TaskId => List TaskId) (id : TaskId) : List TaskId :=
  (graph.lookup id).getD []

def assertAcyclic (graph : AList fun _ : TaskId => List TaskId) (keys : List TaskId) :
    Except Error Unit :=
  match Dfs.search (successors graph) keys with
  | some _ => .ok ()
  | none => .error (.invalidTransition "task dependency graph contains a cycle")

/-- The row of a newly submitted task. -/
def TaskSpec.row (spec : TaskSpec) (batchId : BatchId) (state : TaskState)
    (mode : AgentRequirementMode) (now : UnixTime) : TaskRow where
  batchId := batchId
  name := spec.name
  payload := spec.payload
  acceptance := spec.acceptance
  partition := spec.partition
  workstreamId := spec.workstreamId
  continuity := spec.continuity
  affinityTags := spec.affinityTags
  workspaceMode := spec.workspaceMode
  priority := spec.priority
  state := state
  agentRequirementMode := mode
  retryPolicy := spec.retryPolicy
  nextEligibleAt := none
  currentAttemptId := none
  fencingEpoch := 0
  supersedesTaskId := spec.supersedesTaskId
  createdAt := now

/-- The foreign keys of a task row hold once it is inserted. -/
def Store.taskReferencesExist (s : Store) (id : TaskId) (spec : TaskSpec) : Bool :=
  (spec.workstreamId.all fun w => (s.workstreams.lookup w).isSome) &&
    spec.supersedesTaskId.all fun t => decide (t = id) || (s.tasks.lookup t).isSome

def insertTask (id : TaskId) (spec : TaskSpec) (batchId : BatchId) (state : TaskState)
    (mode : AgentRequirementMode) : KernelTx Unit := do
  let env ← ask
  let known ← query fun s => s.taskReferencesExist id spec
  require known constraintViolation
  insertInto tasksT constraintViolation id (spec.row batchId state mode env.now)

/-- Insert one task of a batch, blocked while it has dependencies. -/
def submitTask (batchId : BatchId) (ids : List (String × TaskId))
    (graph : AList fun _ : TaskId => List TaskId) (spec : TaskSpec) : KernelTx Unit := do
  let _ ← requiredPartition spec.partition true
  let id ← orFail noRow (ids.lookup spec.name)
  insertTask id spec batchId (if (successors graph id).isEmpty then .queued else .blocked) .legacy

def insertDependency (taskId dependsOn : TaskId) : KernelTx Unit :=
  insertInto taskDependenciesT constraintViolation (taskId, dependsOn) ()

def submitBatch (tasks : List TaskSpec) : KernelTx (BatchId × List (String × TaskId)) := do
  require (!tasks.isEmpty) (.invalidTransition "a batch requires at least one task")
  require (decide (tasks.map TaskSpec.name).Nodup)
    (.invalidTransition "task names must be unique within a batch")
  let env ← ask
  let batchId ← newId "batch"
  insertInto batchesT constraintViolation batchId ⟨.active⟩
  let ids ← tasks.mapM TaskSpec.assignId
  let graph ← examine fun _ => dependencyGraph ids tasks
  examine fun _ => assertAcyclic graph (env.hashOrder graph.keys)
  tasks.forM (submitTask batchId ids graph)
  (env.hashOrder graph.keys).forM fun id =>
    (successors graph id).forM (insertDependency id)
  pure (batchId, ids)

/-- Pin the agent type of a task; `resolved` is what the draft resolved to. -/
def insertTaskAgentRequirement (id : TaskId) (resolved : Except Error AgentTypeRef) :
    KernelTx Unit := do
  let ref ← examine fun _ => resolved
  let pinned ← query fun s => (s.taskAgentRequirements.lookup id).isSome
  require (!pinned) (.conflict ("task " ++ id ++ " already has an agent requirement"))
  insertInto taskAgentRequirementsT constraintViolation id ref

/-- Create the task of an admitted proposal in a batch of its own. -/
def admitTask (spec : TaskSpec) (draft : Option (Except Error AgentTypeRef)) :
    KernelTx TaskId := do
  require spec.dependencies.isEmpty
    (.invalidAuthority "TaskSpec dependencies must be empty in M6-A")
  let _ ← requiredPartition spec.partition true
  let named ← spec.assignId
  let batchId ← newId "batch"
  insertInto batchesT constraintViolation batchId ⟨.active⟩
  insertTask named.2 spec batchId .queued (if draft.isSome then .typed else .legacy)
  draft.toList.forM (insertTaskAgentRequirement named.2)
  pure named.2

/-- Admit a proposal. `verdict` is what the checks on the proposal and its generation said: an
    error, the task of an earlier admission that this call replays, or leave to admit `spec`.
    `draft` is the outcome of resolving the type of a typed admission. -/
def admitProposal (verdict : Except Error (Option TaskId)) (spec : TaskSpec)
    (draft : Option (Except Error AgentTypeRef)) : KernelTx TaskId := do
  let replayed ← examine fun _ => verdict
  match replayed with
  | some id => pure id
  | none => admitTask spec draft

/-! ## Consumers -/

namespace Store

/-- A task demands an exact agent type. -/
def isTyped (s : Store) (id : TaskId) (t : TaskRow) : Bool :=
  decide (t.agentRequirementMode ≠ .legacy) || (s.taskAgentRequirements.lookup id).isSome

/-- An agent is bound to an exact type. -/
def isTypeBound (s : Store) (id : LogicalAgentId) (a : AgentRow) : Bool :=
  decide (a.agentTypeBindingMode ≠ .unbound) || (s.logicalAgentTypeBindings.lookup id).isSome

/-- What claim selection reads of an agent. -/
def claimAgentSnapshot (s : Store) (id : LogicalAgentId) (a : AgentRow) : ClaimAgentSnapshot where
  id := id
  state := a.state
  assignedToTask := a.currentTaskId.isSome
  partition := a.partition
  workstreamId := a.workstreamId
  tags := a.tags
  availableSince := a.availableSince
  createdAt := a.createdAt
  typeBound := s.isTypeBound id a

/-- The ready agents of a partition, as claim selection sees them. -/
def readyAgents (s : Store) (partition : PartitionId) : List ClaimAgentSnapshot :=
  (s.logicalAgents.rows.filter fun x =>
    decide (x.2.partition = partition) && decide (x.2.state = .ready)).map
      fun x => s.claimAgentSnapshot x.1 x.2

/-- The claimable tasks and their partitions, in dispatch order. -/
def consumerDemand (s : Store) : List (TaskId × TaskRow × PartitionRow) :=
  (s.tasks.rows.filterMap fun x => do
    let b ← s.batches.lookup x.2.batchId
    let p ← s.poolPartitions.lookup x.2.partition
    if x.2.state = .queued ∧ b.state = .active ∧ p.active then some (x.1, x.2, p) else none)
  |>.insertionSort fun x y =>
    lexLe y.2.1.priority x.2.1.priority
      (lexLe x.2.1.createdAt y.2.1.createdAt (decide (x.1 ≤ y.1))) = true

end Store

/-- What a task demands of its consumer. -/
def TaskRow.intent (t : TaskRow) : ClaimIntent where
  partition := t.partition
  requiredTags := t.affinityTags
  workstreamId := t.workstreamId
  continuity := t.continuity

/-- Partition tags first, then the required tags that are missing. -/
def mergeTags (tags required : List String) : List String :=
  required.foldl (fun acc t => if acc.contains t then acc else acc ++ [t]) tags

/-- Birth a consumer for an untyped task that no ready agent can take. -/
def ensureConsumer (x : TaskId × TaskRow × PartitionRow) : KernelTx Unit := do
  let typed ← query fun s => s.isTyped x.1 x.2.1
  let picked ← query fun s => selectClaimAgent (s.readyAgents x.2.1.partition) x.2.1.intent
  whenever (!typed && picked.isNone) do
    let _ ← birthAgent x.2.1.partition x.2.1.workstreamId
      (some (mergeTags x.2.2.tags x.2.1.affinityTags))
    pure ()

def ensureTaskConsumers : KernelTx Unit := do
  let demand ← query fun s => s.consumerDemand
  demand.forM ensureConsumer

/-! ## Claims -/

/-- The authority a claim hands to its holder. -/
structure Claim where
  taskId : TaskId
  batchId : BatchId
  attemptId : AttemptId
  attemptNumber : Nat
  leaseId : LeaseId
  leaseEpoch : LeaseEpoch
  leaseExpiresAt : UnixTime
  logicalAgentId : LogicalAgentId
  incarnationId : Option IncarnationId
  executionTarget : String
  executionProfile : String
  workspaceMode : WorkspaceMode
  payload : JsonValue
  acceptance : JsonValue
  workstreamId : Option WorkstreamId
  deriving DecidableEq

/-- How many attempts a task has had. -/
def Store.attemptCount (s : Store) (taskId : TaskId) : Nat :=
  s.attempts.count fun _ a => decide (a.taskId = taskId)

/-- The row of a newly claimed attempt. -/
def claimedAttempt (agentId : LogicalAgentId) (partitionName : PartitionId)
    (partition : PartitionRow) (taskId : TaskId) (task : TaskRow) (number : Nat) : AttemptRow where
  taskId := taskId
  logicalAgentId := agentId
  incarnationId := none
  attemptNumber := number
  leaseEpoch := task.fencingEpoch + 1
  state := .active
  executionTarget := partition.executionTarget
  executionProfile := partition.executionProfile
  partitionName := partitionName

/-- The row of its lease. -/
def claimedLease (env : Env) (taskId : TaskId) (attemptId : AttemptId) (task : TaskRow) :
    LeaseRow where
  taskId := taskId
  attemptId := attemptId
  epoch := task.fencingEpoch + 1
  state := .active
  expiresAt := Binary64.add env.now env.leaseSeconds
  heartbeatAt := env.now

/-- The row of the claimed task. -/
def leasedTask (task : TaskRow) (attemptId : AttemptId) (t : TaskRow) : TaskRow :=
  { t with state := .leased, currentAttemptId := some attemptId,
           fencingEpoch := task.fencingEpoch + 1 }

/-- The row of the claiming agent. -/
def assignedAgent (taskId : TaskId) (task : TaskRow) (a : AgentRow) : AgentRow :=
  { a with state := .assigned, currentTaskId := some taskId,
           workstreamId := task.workstreamId.or a.workstreamId, availableSince := none }

def claimSelected (agentId : LogicalAgentId) (partitionName : PartitionId)
    (partition : PartitionRow) (taskId : TaskId) (task : TaskRow) : KernelTx Claim := do
  let env ← ask
  let count ← query fun s => s.attemptCount taskId
  let attemptId ← newId "attempt"
  let leaseId ← newId "lease"
  let lease := claimedLease env taskId attemptId task
  insertInto attemptsT constraintViolation attemptId
    (claimedAttempt agentId partitionName partition taskId task (count + 1))
  insertInto leasesT constraintViolation leaseId lease
  let changed ← query fun s =>
    s.tasks.count fun k t => decide (k = taskId) && decide (t.state = .queued)
  updateIn tasksT constraintViolation
    (fun k t => decide (k = taskId) && decide (t.state = .queued)) (leasedTask task attemptId)
  require (changed = 1) (.conflict "task was not QUEUED at claim")
  updateIn logicalAgentsT constraintViolation
    (fun k a => decide (k = agentId) && decide (a.state = .ready)) (assignedAgent taskId task)
  let payload ← jsonLoad task.payload
  let acceptance ← jsonLoad task.acceptance
  pure { taskId := taskId, batchId := task.batchId, attemptId := attemptId,
         attemptNumber := count + 1, leaseId := leaseId,
         leaseEpoch := lease.epoch, leaseExpiresAt := lease.expiresAt, logicalAgentId := agentId, incarnationId := none,
         executionTarget := partition.executionTarget,
         executionProfile := partition.executionProfile, workspaceMode := task.workspaceMode,
         payload := payload, acceptance := acceptance,
         workstreamId := task.workstreamId }

namespace Store

/-- What claim selection reads of the queued tasks. -/
def claimTaskSnapshots (s : Store) : List ClaimTaskSnapshot :=
  s.tasks.rows.filterMap fun x => do
    let b ← s.batches.lookup x.2.batchId
    let p ← s.poolPartitions.lookup x.2.partition
    if x.2.state = .queued then
      some { id := x.1, state := x.2.state, batchState := b.state, partitionActive := p.active,
             nextEligibleAt := x.2.nextEligibleAt, priority := x.2.priority,
             createdAt := x.2.createdAt, typed := s.isTyped x.1 x.2 }
    else none

/-- The first claimable task that has a consumer, with its best consumer. -/
def selectClaim (s : Store) (now : UnixTime) : Option (TaskId × TaskRow × LogicalAgentId) :=
  (orderClaimTasks s.claimTaskSnapshots now).findSome? fun id => do
    let t ← s.tasks.lookup id
    let agent ← selectClaimAgent ((s.readyAgents t.partition).filter fun a => !a.assignedToTask)
      t.intent
    some (id, t, agent.id)

end Store

def claimNextAvailable : KernelTx (Option Claim) := do
  let env ← ask
  let selected ← query fun s => s.selectClaim env.now
  match selected with
  | none => pure none
  | some (taskId, task, agentId) => do
    let partition ← requiredPartition task.partition true
    let claim ← claimSelected agentId task.partition partition taskId task
    pure (some claim)

/-! ## Typed acquisition -/

namespace Store

/-- The page query: readiness, exclusion, order and limit in SQL. -/
def typedDispatchPage (s : Store) (now : UnixTime) (limit : Nat) (excluded : List TaskId) :
    List ClaimTaskSnapshot :=
  ((s.claimTaskSnapshots.filter fun t => decide (t.batchState = .active) && t.partitionActive &&
    t.nextEligibleAt.all (fun due => decide (due ≤ now)) && t.typed &&
    !excluded.contains t.id).insertionSort fun a b => claimTaskLe a b = true).take limit

/-- The limit is a 64-bit signed integer for SQL. -/
def listTypedDispatchCandidatesExcluding (s : Store) (now : UnixTime) (limit : Nat)
    (excluded : List TaskId) : List TaskId :=
  if limit = 0 then []
  else
    let limit := min limit (2 ^ 63 - 1)
    (orderReadyTasks (s.typedDispatchPage now limit excluded) now).take limit

end Store

/-- A resolver-produced provisioning selection. -/
structure ProvisioningSelection where
  spawnSource : String
  sourceConfig : String
  adapterPolicy : String
  adapterKind : String
  adapterBindingKey : String
  provisioningProtocol : String
  attestedMaterializationDigest : String
  effectiveSecurity : String

/-- The frozen provenance still is the selected one. -/
def ProvisioningBinding.qualifies (b : ProvisioningBinding) (agentType : AgentTypeRef)
    (sel : ProvisioningSelection) : Bool :=
  decide (b.agentType = agentType ∧ b.spawnSource = sel.spawnSource ∧
    b.sourceConfig = sel.sourceConfig ∧ b.adapterPolicy = sel.adapterPolicy ∧
    b.adapterKind = sel.adapterKind ∧ b.adapterBindingKey = sel.adapterBindingKey ∧
    b.attestedMaterializationDigest = sel.attestedMaterializationDigest ∧
    b.provisioningProtocol = sel.provisioningProtocol ∧
    b.effectiveSecurity = sel.effectiveSecurity)

/-- Bind an agent to an exact type at a safe assignment boundary. `verdict` is what the catalog
    said about the type revision. -/
def bindLogicalAgentType (agentId : LogicalAgentId) (ref : AgentTypeRef)
    (verdict : Except Error Unit) : KernelTx Unit := do
  let agent ← fetch (.notFound ("logical agent " ++ agentId ++ " does not exist")) fun s =>
    s.logicalAgents.lookup agentId
  require (decide (agent.state = .ready) && agent.currentTaskId.isNone) (.invalidAuthority
    ("a LogicalAgent type binding requires a READY, unassigned agent; " ++ agentId ++ " is " ++
      agent.state.asSql))
  require (agent.agentTypeBindingMode = .unbound)
    (.conflict ("logical agent " ++ agentId ++ " is already type-bound"))
  examine fun _ => verdict
  updateAgent agentId fun a => { a with agentTypeBindingMode := .bound }
  insertInto logicalAgentTypeBindingsT constraintViolation agentId ref

/-- The state-dependent part of the rollover check. -/
def Store.rolloverStateCheck (s : Store) (id : IncarnationId) (state : IncarnationState) :
    Except Error Unit :=
  let closure := s.incarnationRequiresPhysicalClosure id state
  let unproven : Except Error Unit := .error (.invalidTransition
    ("cannot roll over a starting incarnation without proof of an unstarted provisioning " ++
      "reservation"))
  match state with
  | .warm =>
    if closure then .error (.configurationUnavailable
      "warm incarnation provenance replacement requires physical lifecycle evidence")
    else .ok ()
  | .starting =>
    -- the binding is read only when no execution history already decides
    if closure then unproven
    else do
      let binding ← s.getProvisioningBinding id
      if binding.isNone then unproven else .ok ()
  | _ => .ok ()

/-- Whether an idle incarnation may be replaced by one of another provenance. -/
def Store.rolloverCheck (s : Store) (id : IncarnationId) : Except Error Unit :=
  if (s.incarnations.lookup id).any fun i => s.hasActiveAttempt i.logicalAgentId then
    .error (.invalidTransition
      "cannot roll over an incarnation while its agent has an active claim")
  else if s.executions.rows.any fun x =>
      decide (x.2.incarnationId = id) && x.2.state.isActivePhysical then
    .error (.invalidTransition "cannot roll over an incarnation with an active execution")
  else do
    let inc ← orError (.notFound ("incarnation " ++ id ++ " not found")) (s.incarnations.lookup id)
    s.rolloverStateCheck id inc.state

def fenceIdleIncarnation (id : IncarnationId) : KernelTx Unit := do
  examine fun s => s.rolloverCheck id
  setIncarnationState id (fun _ => true) .lost

/-- Replace the live incarnation by a fresh one. -/
def rollover (agentId : LogicalAgentId) (id : IncarnationId) (target : String) :
    KernelTx IncarnationId := do
  fenceIdleIncarnation id
  createNewIncarnation agentId target

/-- The incarnation a typed acquisition commits to, with its binding when it is reused. -/
def resolveIncarnation (agentId : LogicalAgentId) (target : String) (agentType : AgentTypeRef)
    (sel : ProvisioningSelection) : KernelTx (IncarnationId × Option ProvisioningBinding) := do
  let active ← query fun s => s.activeIncarnation agentId
  match active with
  | none => do
    let id ← createNewIncarnation agentId target
    pure (id, none)
  | some (id, inc) => do
    require (inc.executionTarget = target)
      (activeIncarnationMismatch agentId id inc.executionTarget)
    let existing ← examine fun s => s.getProvisioningBinding id
    let fresh ← query fun s => s.incarnationIsFresh id
    match existing with
    | some binding =>
      if binding.qualifies agentType sel then pure (id, some binding)
      else do
        let new ← rollover agentId id target
        pure (new, none)
    | none =>
      if fresh then pure (id, none)
      else do
        let new ← rollover agentId id target
        pure (new, none)

def markIncarnationProvisioned (id : IncarnationId) : KernelTx Unit := do
  let known ← query fun s => (s.incarnations.lookup id).isSome
  require known (.notFound ("incarnation " ++ id ++ " not found"))
  updateIn incarnationsT constraintViolation (fun k _ => decide (k = id))
    fun i => { i with provisioningMode := .provisioned }

/-- The binding of the acquired incarnation: the reused one, or a new one frozen now. -/
def provisionIncarnation (agentId : LogicalAgentId) (id : IncarnationId) (agentType : AgentTypeRef)
    (sel : ProvisioningSelection) : Option ProvisioningBinding → KernelTx ProvisioningBinding
  | some existing => pure existing
  | none => do
    markIncarnationProvisioned id
    let bindingId ← newId "pb"
    let binding : ProvisioningBinding :=
      { provisioningBindingId := bindingId, logicalAgentId := agentId, agentType := agentType,
        spawnSource := sel.spawnSource, sourceConfig := sel.sourceConfig,
        adapterPolicy := sel.adapterPolicy, adapterKind := sel.adapterKind,
        adapterBindingKey := sel.adapterBindingKey,
        provisioningProtocol := sel.provisioningProtocol,
        attestedMaterializationDigest := sel.attestedMaterializationDigest,
        effectiveSecurity := sel.effectiveSecurity }
    insertInto provisioningBindingsT constraintViolation id binding
    pure binding

/-- The mechanical claim and the frozen provenance of a typed acquisition. -/
structure TypedAcquisition where
  claim : Claim
  provisioningBinding : ProvisioningBinding

/-- The pinned type of a task; marker and child row are one invariant. -/
def Store.getTaskAgentRequirement (s : Store) (id : TaskId) :
    Except Error (Option AgentTypeRef) := do
  let task ← orError (.notFound ("task " ++ id)) (s.tasks.lookup id)
  match task.agentRequirementMode, s.taskAgentRequirements.lookup id with
  | .legacy, none => .ok none
  | .typed, none =>
    .error (.invariantViolation ("typed task " ++ id ++ " is missing its agent requirement row"))
  | .legacy, some _ =>
    .error (.invariantViolation
      ("legacy task " ++ id ++ " unexpectedly has an agent requirement row"))
  | .typed, some ref => .ok (some ref)

def missingRequirement : Error :=
  .invariantViolation "a TYPED task is missing its agent requirement"

/-- The shared body of the typed acquisitions. `contract` is what the catalog, the contract
    predicates and the execution registry said about the selection. -/
def finishAcquisition (taskId : TaskId) (agentId : LogicalAgentId) (sel : ProvisioningSelection)
    (contract : Except Error Unit) : KernelTx TypedAcquisition := do
  let env ← ask
  let task ← requiredTask taskId
  let batch ← fetch noRow fun s => s.batches.lookup task.batchId
  let home ← requiredPartition task.partition false
  require (claimTaskReady task.state batch.state home.active task.nextEligibleAt env.now)
    (.invalidTransition "typed acquisition requires a ready Task in an ACTIVE Batch and partition")
  require (task.agentRequirementMode = .typed)
    (.invalidTransition "typed acquisition requires a TYPED task")
  let requirement ← examine fun s => s.getTaskAgentRequirement taskId
  let required ← orFail missingRequirement requirement
  let agent ← requiredAgent agentId
  require (decide (agent.state = .ready) && agent.currentTaskId.isNone) (.invalidTransition
    "typed acquisition requires a READY, unassigned agent")
  let binding ← examine fun s => s.getLogicalAgentTypeBinding agentId
  let bound ← orFail (.invalidTransition "typed acquisition requires a type-bound agent") binding
  require (!(decide (bound.id = required.id) && decide (bound.revision ≠ required.revision)))
    (.invalidAuthority "a different revision of the pinned type is not a substitute")
  require (claimPlacementEligible task.intent agent.partition agent.tags agent.workstreamId)
    (.invalidAuthority "agent is not M5-placeable for this task")
  examine fun _ => contract
  let partition ← requiredPartition task.partition true
  let incarnation ← resolveIncarnation agentId partition.executionTarget bound sel
  let provenance ← provisionIncarnation agentId incarnation.1 bound sel incarnation.2
  let claim ← claimSelected agentId task.partition partition taskId task
  pure ⟨claim, provenance⟩

def acquireTypedTaskExisting (taskId : TaskId) (agentId : LogicalAgentId)
    (sel : ProvisioningSelection) (contract : Except Error Unit) : KernelTx TypedAcquisition :=
  finishAcquisition taskId agentId sel contract

/-- `typeVerdict` is what the catalog said about binding a newborn to the pinned type. -/
def acquireTypedTaskNewAgent (taskId : TaskId) (sel : ProvisioningSelection)
    (typeVerdict contract : Except Error Unit) : KernelTx TypedAcquisition := do
  let task ← requiredTask taskId
  let requirement ← examine fun s => s.getTaskAgentRequirement taskId
  let required ← orFail missingRequirement requirement
  let agentId ← birthAgent task.partition task.workstreamId (some task.affinityTags)
  bindLogicalAgentType agentId required typeVerdict
  finishAcquisition taskId agentId sel contract

end Agentype

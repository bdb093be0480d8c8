import Agentype.Kernel.TxUtil
import Mathlib.Algebra.GroupWithZero.Nat

/-!
# `Agentype.Kernel.Topology` — pool partitions and their members

Declaring, resizing, moving, merging and retiring partitions, and the reconciliation of the pool
with the declared capacities. Only `mergePartitions` touches tasks (their partition); none of the
operations touches an attempt, a lease or a result.
-/

namespace Agentype

open Relational Tx Store

/-- A partition as an operator declares it. -/
structure PartitionSpec where
  name : PartitionId
  desiredCapacity : Int
  retention : Retention
  executionTarget : String
  executionProfile : String
  tags : List String

def sortTags (tags : List String) : List String := tags.insertionSort (· ≤ ·)

/-- The structural columns in which a declaration differs from the existing row. -/
def structuralMismatches (p : PartitionRow) (spec : PartitionSpec) : List String :=
  (if p.retention ≠ spec.retention then ["retention"] else []) ++
  (if p.executionTarget ≠ spec.executionTarget then ["execution_target"] else []) ++
  (if p.executionProfile ≠ spec.executionProfile then ["execution_profile"] else []) ++
  (if sortTags p.tags ≠ sortTags spec.tags then ["tags"] else [])

def negativeCapacity : Error := .invalidTransition "desired_capacity must be non-negative"

/-- An existing partition may only be declared again as it is. -/
def confirmPartition (p : PartitionRow) (spec : PartitionSpec) : KernelTx Nat := do
  require p.active (.invalidTransition "pool upsert cannot reactivate an inactive partition")
  require (structuralMismatches p spec).isEmpty (.invalidTransition
    ("pool upsert cannot mutate an existing partition's structural definition: " ++
      ", ".intercalate (structuralMismatches p spec)))
  require (p.desiredCapacity = spec.desiredCapacity) (.invalidTransition
    "pool upsert cannot resize an existing partition; use pool resize")
  pure p.topologyRevision

def declarePartition (spec : PartitionSpec) : KernelTx Nat := do
  let revision ← insertRevision
  insertInto poolPartitionsT constraintViolation spec.name
    { desiredCapacity := spec.desiredCapacity, retention := spec.retention,
      executionTarget := spec.executionTarget, executionProfile := spec.executionProfile,
      tags := spec.tags, active := true, mergedInto := none, topologyRevision := revision }
  pure revision

def upsertPartition (spec : PartitionSpec) : KernelTx Nat := do
  require (0 ≤ spec.desiredCapacity) negativeCapacity
  let existing ← query fun s => s.poolPartitions.lookup spec.name
  match existing with
  | some p => confirmPartition p spec
  | none => declarePartition spec

def createWorkstream (name : String) (projectStateRef : Option String)
    (workstreamId : Option WorkstreamId) : KernelTx WorkstreamId := do
  let fresh ← newId "workstream"
  let id := workstreamId.getD fresh
  insertInto workstreamsT constraintViolation id ⟨name, projectStateRef⟩
  pure id

/-- Set the columns of one partition row. -/
def updatePartition (name : PartitionId) (f : PartitionRow → PartitionRow) : KernelTx Unit :=
  updateIn poolPartitionsT constraintViolation (fun k _ => decide (k = name)) f

def resizePartition (name : PartitionId) (desiredCapacity : Int) : KernelTx Nat := do
  require (0 ≤ desiredCapacity) negativeCapacity
  let _ ← requiredPartition name true
  let revision ← insertRevision
  updatePartition name fun p =>
    { p with desiredCapacity := desiredCapacity, topologyRevision := revision }
  pure revision

/-! ## Reconciliation -/

/-- Rows in the order of their text key. -/
def orderByKey {α : Type} (rows : List (String × α)) : List (String × α) :=
  rows.insertionSort fun x y => x.1 ≤ y.1

/-- What the rankings read of a member. -/
def AgentRow.member (id : LogicalAgentId) (a : AgentRow) (retirementRequested : Bool) :
    PoolMemberSnapshot where
  id := id
  state := a.state
  assignedToTask := a.currentTaskId.isSome
  retirementRequested := retirementRequested
  availableSince := a.availableSince
  createdAt := a.createdAt

namespace Store

/-- Keep the untyped agents of a selection; an incoherent marker aborts the read. -/
def unboundAmong (s : Store) (rows : List (LogicalAgentId × AgentRow)) :
    Except Error (List (LogicalAgentId × AgentRow)) := do
  let marked ← rows.mapM fun x => do
    let ref ← s.getLogicalAgentTypeBinding x.1
    pure (x, ref)
  pure ((marked.filter fun m => m.2.isNone).map fun m => m.1)

/-- Drained idle agents that wait for their pending partition. -/
def idleDrains (s : Store) : List LogicalAgentId :=
  (orderByKey (s.logicalAgents.rows.filter fun x => decide (x.2.state = .draining) &&
    x.2.currentTaskId.isNone && x.2.pendingPartition.isSome && !x.2.retirementRequested)).map
      fun x => x.1

/-- The untyped capacity of a partition, without members already draining for retirement. -/
def capacityMembers (s : Store) (name : PartitionId) :
    Except Error (List (LogicalAgentId × AgentRow)) :=
  s.unboundAmong (s.logicalAgents.rows.filter fun x => decide (x.2.destination = name) &&
    x.2.state.isLiveMember && !(decide (x.2.state = .draining) && x.2.retirementRequested))

end Store

structure ReconcileReport where
  born : Nat
  retired : Nat
  draining : Nat
  deriving DecidableEq, Repr

/-- Shrink by one member. -/
def shrinkMember (candidate : PoolMemberSnapshot) : KernelTx Unit :=
  match excessDisposition candidate.state candidate.assignedToTask with
  | .retireDirectly => retireLogicalAgent candidate.id
  | .drainForRetirement =>
    updateAgent candidate.id fun a => { a with state := .draining, retirementRequested := true }

def reconcilePartition (x : PartitionId × PartitionRow) : KernelTx ReconcileReport := do
  let members ← examine fun s => s.capacityMembers x.1
  let deficit := x.2.desiredCapacity - members.length
  (List.range deficit.toNat).forM fun _ => do
    let _ ← birthAgent x.1 none none
    pure ()
  let excess := (sortExcessCandidates (members.map fun m => m.2.member m.1 false)).take
    (-deficit).toNat
  excess.forM shrinkMember
  let direct := excess.countP fun c => excessDisposition c.state c.assignedToTask = .retireDirectly
  pure ⟨deficit.toNat, direct, excess.length - direct⟩

def reconcilePool : KernelTx ReconcileReport := do
  let drains ← query fun s => s.idleDrains
  drains.forM releaseAgent
  let partitions ← query fun s => orderByKey (s.poolPartitions.rows.filter fun x => x.2.active)
  let reports ← partitions.mapM reconcilePartition
  pure ⟨(reports.map ReconcileReport.born).sum, (reports.map ReconcileReport.retired).sum,
    (reports.map ReconcileReport.draining).sum⟩

/-! ## Moving capacity -/

def samePartition : Error := .invalidTransition "source and target partitions must differ"

/-- The members a capacity move may take from a partition. -/
def Store.movableMembers (s : Store) (source : PartitionId) :
    Except Error (List (LogicalAgentId × AgentRow)) :=
  s.unboundAmong (s.logicalAgents.rows.filter fun x => decide (x.2.destination = source) &&
    decide (x.2.state ≠ .retired) && !x.2.retirementRequested)

def moveMember (target : PartitionId) (id : LogicalAgentId) (agent : AgentRow) :
    KernelTx Unit := do
  let env ← ask
  match planMoveCutover agent.state agent.currentTaskId.isSome with
  | .stageDrain =>
    updateAgent id fun a =>
      { a with state := .draining, pendingPartition := some target, availableSince := none }
  | .reconnectCutover restoreReady => do
    let _ ← requestPartitionCutover id agent target
    whenever restoreReady <|
      updateAgent id fun a => { a with state := .ready, availableSince := some env.now }

def moveCapacity (source target : PartitionId) (count : Int) : KernelTx Nat := do
  require (source ≠ target) samePartition
  require (0 < count) (.invalidTransition "count must be positive")
  let sourceP ← requiredPartition source true
  let targetP ← requiredPartition target true
  require (count ≤ sourceP.desiredCapacity) (.invalidTransition
    "cannot move more capacity than the source desired capacity")
  let revision ← insertRevision
  updatePartition source fun p =>
    { p with desiredCapacity := sourceP.desiredCapacity - count, topologyRevision := revision }
  updatePartition target fun p =>
    { p with desiredCapacity := targetP.desiredCapacity + count, topologyRevision := revision }
  let members ← examine fun s => s.movableMembers source
  let candidates := members.filter fun m =>
    moveCandidateEligible (m.2.member m.1 m.2.retirementRequested)
  let ranked := candidates.insertionSort fun x y =>
    moveRankLe (x.2.member x.1 x.2.retirementRequested)
      (y.2.member y.1 y.2.retirementRequested) = true
  (ranked.take count.toNat).forM fun m => moveMember target m.1 m.2
  pure revision

/-! ## Merging and retiring -/

/-- No affected agent keeps a provisioned host on a target other than its destination's. -/
def Store.mergeHostCheck (s : Store) (source target : PartitionId) : Except Error Unit := do
  let affected := s.logicalAgents.rows.filter fun x => decide (x.2.state ≠ .retired) &&
    (decide (x.2.partition = source) || decide (x.2.pendingPartition = some source))
  affected.forM fun x => do
    let desired := (x.2.pendingPartition.filter fun p => p ≠ source).getD target
    let destination ← s.canonicalPartition desired
    let closure ← s.crossTargetProvisionedHostRequiresClosure x.1 destination.2.executionTarget
    if closure then
      .error (.invalidTransition "typed host cutover requires physical lifecycle closure")
    else .ok ()

/-- The members of a merged partition that can be cut over at once. -/
def Store.mergeImmediate (s : Store) (source : PartitionId) : List (LogicalAgentId × AgentRow) :=
  s.logicalAgents.rows.filter fun x => decide (x.2.partition = source) &&
    ((x.2.state matches .ready | .initializing | .reviving) ||
      (decide (x.2.state = .draining) && x.2.currentTaskId.isNone))

def mergeMember (source target : PartitionId) (id : LogicalAgentId) (agent : AgentRow) :
    KernelTx Unit := do
  let pending := agent.pendingPartition.getD target
  let desired := if pending = source then target else pending
  if agent.state = .draining then do
    updateAgent id fun a => { a with pendingPartition := some desired }
    releaseAgent id
  else do
    let _ ← requestPartitionCutover id agent desired
    pure ()

def mergePartitions (source target : PartitionId) : KernelTx Nat := do
  require (source ≠ target) samePartition
  let sourceP ← requiredPartition source true
  let targetP ← requiredPartition target true
  examine fun s => s.mergeHostCheck source target
  let revision ← insertRevision
  updateIn tasksT constraintViolation
    (fun _ t => decide (t.partition = source) && !t.state.isTerminal)
    fun t => { t with partition := target }
  updateIn logicalAgentsT constraintViolation
    (fun _ a => decide (a.pendingPartition = some source) && decide (a.state ≠ .retired))
    fun a => { a with pendingPartition := some target }
  let immediate ← query fun s => s.mergeImmediate source
  immediate.forM fun x => mergeMember source target x.1 x.2
  updateIn logicalAgentsT constraintViolation
    (fun _ a => decide (a.partition = source) &&
      (a.state matches .assigned | .draining | .suspended) &&
      (a.pendingPartition.isNone || decide (a.pendingPartition = some source)))
    fun a => { a with pendingPartition := some target }
  updatePartition source fun p =>
    { p with active := false, desiredCapacity := 0, mergedInto := some target,
             topologyRevision := revision }
  updatePartition target fun p =>
    { p with desiredCapacity := sourceP.desiredCapacity + targetP.desiredCapacity,
             topologyRevision := revision }
  pure revision

namespace Store

/-- The first task that keeps its partition from being retired. -/
def nonterminalIn (s : Store) (name : PartitionId) : Option (TaskId × TaskRow) :=
  minBy (fun x y => lexLe x.2.createdAt y.2.createdAt (decide (x.1 < y.1)))
    (s.tasks.rows.filter fun x => decide (x.2.partition = name) && !x.2.state.isTerminal)

/-- The first agent headed for the partition. -/
def pendingInto (s : Store) (name : PartitionId) : Option (LogicalAgentId × AgentRow) :=
  (orderByKey (s.logicalAgents.rows.filter fun x =>
    decide (x.2.pendingPartition = some name) && decide (x.2.state ≠ .retired))).head?

/-- An open writer-safety obligation names the agent. -/
def writerObligation (s : Store) (agentId : LogicalAgentId) : Bool :=
  s.escalations.rows.any fun e => decide (e.2.logicalAgentId = some agentId) &&
    decide (e.2.state = .opened) && decide (e.2.tag = .taskFailure .writerQuiescenceUnknown)

/-- The first member of the partition under a writer-safety obligation. -/
def obligatedMember (s : Store) (name : PartitionId) : Option (LogicalAgentId × AgentRow) :=
  (orderByKey (s.logicalAgents.rows.filter fun x => decide (x.2.partition = name) &&
    decide (x.2.state ≠ .retired) && s.writerObligation x.1)).head?

/-- Idle members that are headed elsewhere. -/
def departing (s : Store) (name : PartitionId) : List (LogicalAgentId × AgentRow) :=
  orderByKey (s.logicalAgents.rows.filter fun x => decide (x.2.partition = name) &&
    x.2.pendingPartition.isSome && x.2.currentTaskId.isNone && decide (x.2.state ≠ .retired))

/-- Members that retire with their partition. -/
def retiringIdle (s : Store) (name : PartitionId) : List LogicalAgentId :=
  (s.logicalAgents.rows.filter fun x => decide (x.2.partition = name) &&
    x.2.pendingPartition.isNone &&
    (x.2.state matches .ready | .initializing | .suspended | .reviving)).map fun x => x.1

end Store

def departMember (id : LogicalAgentId) (agent : AgentRow) : KernelTx Unit :=
  if agent.state = .draining then releaseAgent id
  else
    match agent.pendingPartition with
    | some pending => do
      let _ ← requestPartitionCutover id agent pending
      pure ()
    | none => pure ()

/-- Abort when a query found a row that forbids the operation. -/
def rejectFound {α : Type} (found : Option α) (message : α → String) : KernelTx Unit :=
  match found with
  | some a => fail (.invalidTransition (message a))
  | none => pure ()

def retirePartition (name : PartitionId) : KernelTx Nat := do
  let _ ← requiredPartition name true
  let task ← query fun s => s.nonterminalIn name
  rejectFound task fun x => "cannot retire partition with nonterminal Task " ++ x.1 ++
    " in state " ++ x.2.state.asSql
  let pending ← query fun s => s.pendingInto name
  rejectFound pending fun x => "cannot retire partition with desired LogicalAgent " ++ x.1
  let obligated ← query fun s => s.obligatedMember name
  rejectFound obligated fun x =>
    "cannot retire partition with open writer-safety obligation on LogicalAgent " ++ x.1
  let leaving ← query fun s => s.departing name
  leaving.forM fun x => departMember x.1 x.2
  let revision ← insertRevision
  let idle ← query fun s => s.retiringIdle name
  idle.forM retireLogicalAgent
  updateIn logicalAgentsT constraintViolation
    (fun _ a => decide (a.partition = name) && a.pendingPartition.isNone &&
      decide (a.state = .assigned))
    fun a => { a with state := .draining, retirementRequested := true }
  updatePartition name fun p =>
    { p with active := false, desiredCapacity := 0, topologyRevision := revision }
  pure revision

end Agentype

import Mathlib.Data.List.Sort
import Mathlib.Data.String.Basic
import Agentype.Core.Authority

/-!
# `Agentype.Core.Decisions` — pure scheduling and transition decisions

Every scheduling decision of the kernel as a function of the rows it loads: claim eligibility,
order and selection; batch aggregation; presence of an incarnation after an observation; pool
shrinking and moving; cross-target safety and partition cutover; release and revival of agents;
dependency release; and the plan that resolves an escalation.
-/

namespace Agentype

/-! ## Claim selection -/

/-- Workstream-aware placement beats generic readiness. -/
def claimSelectionRank (preference : ContinuityPreference) (sameWorkstream : Bool) : Nat :=
  if preference ≠ .none && sameWorkstream then 0 else 1

/-- Oldest availability first, then lowest agent id. -/
def claimTiebreak (availableSince : Option UnixTime) (createdAt : UnixTime) (id : String) :
    UnixTime × String :=
  (availableSince.getD createdAt, id)

structure ClaimTaskSnapshot where
  id : TaskId
  state : TaskState
  batchState : BatchState
  partitionActive : Bool
  nextEligibleAt : Option UnixTime
  priority : Int
  createdAt : UnixTime
  typed : Bool

/-- The readiness gate shared by typed and legacy authority. -/
def claimTaskReady (state : TaskState) (batchState : BatchState) (partitionActive : Bool)
    (nextEligibleAt : Option UnixTime) (now : UnixTime) : Bool :=
  state = .queued && batchState = .active && partitionActive &&
    nextEligibleAt.all fun t => decide (t ≤ now)

/-- Claimability of a task on the legacy path. -/
def claimTaskEligible (s : ClaimTaskSnapshot) (now : UnixTime) : Bool :=
  !s.typed && claimTaskReady s.state s.batchState s.partitionActive s.nextEligibleAt now

/-- Lexicographic comparison of a first component, then of the rest. -/
def lexLe {α : Type} [LinearOrder α] (a b : α) (rest : Bool) : Bool :=
  decide (a < b) || (decide (a = b) && rest)

/-- The frozen dispatch order: highest priority, oldest submission, lowest id. -/
def claimTaskLe (a b : ClaimTaskSnapshot) : Bool :=
  lexLe b.priority a.priority (lexLe a.createdAt b.createdAt (decide (a.id ≤ b.id)))

def orderTasksByFrozenRank (eligible : List ClaimTaskSnapshot) : List TaskId :=
  (eligible.insertionSort fun a b => claimTaskLe a b = true).map ClaimTaskSnapshot.id

def orderClaimTasks (tasks : List ClaimTaskSnapshot) (now : UnixTime) : List TaskId :=
  orderTasksByFrozenRank (tasks.filter fun t => claimTaskEligible t now)

def orderReadyTasks (tasks : List ClaimTaskSnapshot) (now : UnixTime) : List TaskId :=
  orderTasksByFrozenRank (tasks.filter fun t =>
    claimTaskReady t.state t.batchState t.partitionActive t.nextEligibleAt now)

structure ClaimAgentSnapshot where
  id : LogicalAgentId
  state : LogicalAgentState
  assignedToTask : Bool
  partition : PartitionId
  workstreamId : Option WorkstreamId
  tags : List String
  availableSince : Option UnixTime
  createdAt : UnixTime
  typeBound : Bool

/-- What a claimable task demands of its consumer. -/
structure ClaimIntent where
  partition : PartitionId
  requiredTags : List String
  workstreamId : Option WorkstreamId
  continuity : ContinuityPreference

/-- The placement gate; two absent workstreams never establish continuity. -/
def claimPlacementEligible (intent : ClaimIntent) (agentPartition : PartitionId)
    (agentTags : List String) (agentWorkstream : Option WorkstreamId) : Bool :=
  agentPartition = intent.partition && tagsMatch intent.requiredTags agentTags &&
    (intent.continuity ≠ .required ||
      (intent.workstreamId.isSome && intent.workstreamId = agentWorkstream))

/-- A consumer may be chosen for the intent at all. -/
def claimAgentEligible (intent : ClaimIntent) (a : ClaimAgentSnapshot) : Bool :=
  !a.typeBound && a.state = .ready && !a.assignedToTask &&
    claimPlacementEligible intent a.partition a.tags a.workstreamId

/-- Strict preference between two eligible consumers. -/
def claimAgentBefore (intent : ClaimIntent) (a b : ClaimAgentSnapshot) : Bool :=
  let same := fun c : ClaimAgentSnapshot =>
    intent.workstreamId.isSome && intent.workstreamId = c.workstreamId
  let rank := fun c => claimSelectionRank intent.continuity (same c)
  let key := fun c : ClaimAgentSnapshot => claimTiebreak c.availableSince c.createdAt c.id
  lexLe (rank a) (rank b) (lexLe (key a).1 (key b).1 (decide ((key a).2 < (key b).2)))

/-- The first minimal element of a list under a strict preference. -/
def minBy {α : Type} (before : α → α → Bool) : List α → Option α
  | [] => none
  | x :: xs => some (xs.foldl (fun best y => if before y best then y else best) x)

/-- The single best consumer for a task. -/
def selectClaimAgent (agents : List ClaimAgentSnapshot) (intent : ClaimIntent) :
    Option ClaimAgentSnapshot :=
  minBy (claimAgentBefore intent) (agents.filter (claimAgentEligible intent))

theorem minBy_mem {α : Type} {before : α → α → Bool} {xs : List α} {a : α}
    (h : minBy before xs = some a) : a ∈ xs := by
  cases xs with
  | nil => cases h
  | cons x xs =>
    simp only [minBy, Option.some.injEq] at h
    subst h
    -- the running best is always one of the elements seen so far
    have hfold : ∀ (ys : List α) (b : α), b ∈ x :: xs → (∀ y ∈ ys, y ∈ x :: xs) →
        ys.foldl (fun best y => if before y best then y else best) b ∈ x :: xs := by
      intro ys
      induction ys with
      | nil => intro b hb _; exact hb
      | cons y ys ih =>
        intro b hb hys
        rw [List.foldl_cons]
        refine ih _ ?_ fun z hz => hys z (List.mem_cons_of_mem y hz)
        split
        · exact hys y List.mem_cons_self
        · exact hb
    exact hfold xs x List.mem_cons_self fun y hy => List.mem_cons_of_mem x hy

/-- **Selection is sound.** The chosen consumer is one of the agents and passes the gate. -/
theorem selectClaimAgent_eligible {agents : List ClaimAgentSnapshot} {intent : ClaimIntent}
    {a : ClaimAgentSnapshot} (h : selectClaimAgent agents intent = some a) :
    a ∈ agents ∧ claimAgentEligible intent a = true :=
  List.mem_filter.mp (minBy_mem h)

/-! ## Proof bits, suspension and batch aggregation -/

/-- Only a terminal observation constitutes durable quiescence proof. -/
def durableQuiescence (terminalConfirmed quiescentConfirmed : Bool) : Bool :=
  terminalConfirmed && quiescentConfirmed

/-- The class a suspension carries: the observed one when replacement is safe. -/
def suspensionFailureClass (writerSafe : Bool) (observed : FailureClass) : FailureClass :=
  if writerSafe then observed else .writerQuiescenceUnknown

/-- Aggregate batch state after a member transition. -/
def batchNextState (hasSuspended hasCancelled allCompleted : Bool) : BatchState :=
  if hasSuspended || hasCancelled then .suspended
  else if allCompleted then .completed
  else .active

/-! ## Incarnation presence -/

inductive PresenceAction where
  | promoteWarm | fenceTerminated | fenceLost | ignore
  deriving DecidableEq, Repr

/-- What an incarnation does when an execution reports a physical observation. -/
def incarnationPresence (executionState : ExecutionState) (terminalConfirmed quiescentConfirmed
    incarnationReusable : Bool) : PresenceAction :=
  match executionState with
  | .running => .promoteWarm
  | .starting | .unknown => .ignore
  | _ =>
    if incarnationReusable && terminalConfirmed && quiescentConfirmed then .promoteWarm
    else if executionState ≠ .lost && terminalConfirmed && quiescentConfirmed then .fenceTerminated
    else .fenceLost

/-! ## Pool reconciliation and capacity moves -/

inductive ExcessDisposition where
  | retireDirectly | drainForRetirement
  deriving DecidableEq, Repr

/-- Disposition of one member when capacity shrinks below population. -/
def excessDisposition (state : LogicalAgentState) (assignedToTask : Bool) : ExcessDisposition :=
  if (state matches .ready | .initializing | .reviving) && !assignedToTask then .retireDirectly
  else .drainForRetirement

/-- Only a member without a task is retired on the spot. -/
theorem excessDisposition_retireDirectly {state : LogicalAgentState} {assigned : Bool}
    (h : excessDisposition state assigned = .retireDirectly) : assigned = false := by
  revert h
  cases state <;> cases assigned <;> decide

structure PoolMemberSnapshot where
  id : LogicalAgentId
  state : LogicalAgentState
  assignedToTask : Bool
  retirementRequested : Bool
  availableSince : Option UnixTime
  createdAt : UnixTime

/-- Unassigned before assigned, ready before other live states, then lowest id. -/
def excessRankLe (a b : PoolMemberSnapshot) : Bool :=
  lexLe a.assignedToTask b.assignedToTask
    (lexLe (decide (a.state ≠ .ready)) (decide (b.state ≠ .ready)) (decide (a.id ≤ b.id)))

def sortExcessCandidates (members : List PoolMemberSnapshot) : List PoolMemberSnapshot :=
  members.insertionSort fun a b => excessRankLe a b = true

/-- A member counts for a move while no drain-retirement was requested. -/
def moveCandidateEligible (s : PoolMemberSnapshot) : Bool := !s.retirementRequested

/-- Idle ready members first, then oldest availability, then lowest id. -/
def moveRankLe (a b : PoolMemberSnapshot) : Bool :=
  let idle := fun s : PoolMemberSnapshot =>
    if s.state = .ready && !s.assignedToTask then 0 else 1
  lexLe (idle a) (idle b)
    (lexLe (a.availableSince.getD a.createdAt) (b.availableSince.getD b.createdAt)
      (decide (a.id ≤ b.id)))

inductive MoveCutoverPlan where
  | stageDrain
  | reconnectCutover (restoreReady : Bool)
  deriving DecidableEq, Repr

def planMoveCutover (state : LogicalAgentState) (assignedToTask : Bool) : MoveCutoverPlan :=
  if assignedToTask || state = .assigned then .stageDrain
  else .reconnectCutover (state = .draining)

/-! ## Cross-target safety and partition cutover -/

structure CrossTargetExecutionSnapshot where
  attemptState : AttemptState
  leaseState : Option LeaseState
  leaseExpiresAt : Option UnixTime
  workspaceMode : WorkspaceMode
  attemptIsolation : Bool
  quiescentConfirmed : Bool

/-- An execution on a foreign target is safe to abandon: its authority is closed and it is safe
    for writers. -/
def isCrossTargetExecutionSafe (exec : CrossTargetExecutionSnapshot) (now : UnixTime) : Bool :=
  let authorityClosed := exec.attemptState ≠ .active &&
    (exec.leaseState.isNone || exec.leaseState ≠ some .active ||
      decide (exec.leaseExpiresAt.getD 0 ≤ now))
  let writerOk := exec.workspaceMode = .readOnly || exec.attemptIsolation || exec.quiescentConfirmed
  authorityClosed && writerOk

def crossTargetCutoverSafety (executions : List CrossTargetExecutionSnapshot) (now : UnixTime) :
    Bool :=
  executions.all fun e => isCrossTargetExecutionSafe e now

inductive PartitionCutoverDisposition where
  | commit | stagePendingDestination | rejectAssignedDrainRequired | rejectUnsafeExecution
  deriving DecidableEq, Repr

def partitionCutoverPlan (agentState : LogicalAgentState) (hasActiveAttempt hasCurrentTask
    crossTargetSafe : Bool) : PartitionCutoverDisposition :=
  if hasActiveAttempt then .rejectAssignedDrainRequired
  else if !crossTargetSafe then
    if agentState = .suspended && !hasCurrentTask then .stagePendingDestination
    else .rejectUnsafeExecution
  else .commit

/-! ## Agent release and revival -/

inductive AgentReleaseDisposition where
  | retire | becomeReady
  deriving DecidableEq, Repr

def agentReleaseDisposition (retirementRequested : Bool) (targetRetention : Retention) :
    AgentReleaseDisposition :=
  if retirementRequested || targetRetention = .ephemeral then .retire else .becomeReady

inductive PostSafetyAgentDisposition where
  | noAction | revive | retire
  deriving DecidableEq, Repr

def postSafetyAgentDisposition (currentState : LogicalAgentState) (retirementRequested : Bool)
    (targetRetention : Retention) : PostSafetyAgentDisposition :=
  if currentState = .retired then .noAction
  else
    match agentReleaseDisposition retirementRequested targetRetention with
    | .retire => .retire
    | .becomeReady => .revive

/-! ## Dependency release -/

/-- The dependencies of a blocked task are satisfied: all parents are completed. -/
def dependencyReleaseDecision (parentStates : List TaskState) : Bool :=
  parentStates.all fun s => s = .completed

structure BlockedTaskSnapshot where
  taskId : TaskId
  parentStates : List TaskState

def planDependencyReleases (blocked : List BlockedTaskSnapshot) : List TaskId :=
  (blocked.filter fun t => dependencyReleaseDecision t.parentStates).map BlockedTaskSnapshot.taskId

/-! ## Escalation resolution -/

inductive EscalationOperation where
  | retry | cancelTask | releaseCancelledWriter
  deriving DecidableEq, Repr

/-- The operation named by a command, or the error that lists the supported ones. -/
def EscalationOperation.parse (s : String) : Except Error EscalationOperation :=
  if s = "retry" then .ok .retry
  else if s = "cancel_task" then .ok .cancelTask
  else if s = "release_cancelled_writer" then .ok .releaseCancelledWriter
  else .error (.invalidTransition ("unsupported escalation operation '" ++ s ++
    "'; supported operations are retry, cancel_task, and release_cancelled_writer"))

structure EscalationResolutionSnapshot where
  escalationIsOpen : Bool
  cause : EscalationCause
  taskState : TaskState
  workspaceMode : WorkspaceMode
  frozenIsolation : Bool
  hasAgent : Bool

inductive EscalatedWriterPresenceAction where
  | none | finalizePresence
  deriving DecidableEq, Repr

inductive EscalationResolutionPlan where
  | releaseCancelledWriter (writerPresence : EscalatedWriterPresenceAction)
      (reviveAgent resolveEscalation : Bool)
  | retry (nextTaskState : TaskState) (reactivateBatch : Bool)
      (writerPresence : EscalatedWriterPresenceAction) (reviveAgent resolveEscalation : Bool)
  | cancelTask (nextTaskState : TaskState) (resolveEscalation recomputeBatchOnly : Bool)
  deriving DecidableEq, Repr

/-- The cause is the writer-safety obligation. -/
def EscalationCause.isWriterUnknown : EscalationCause → Bool
  | .taskFailure .writerQuiescenceUnknown => true
  | _ => false

def planEscalationResolution (snap : EscalationResolutionSnapshot) (op : EscalationOperation)
    (quiescenceConfirmed : Bool) : Except Error EscalationResolutionPlan :=
  if !snap.escalationIsOpen then .error (.invalidTransition "escalation is not open")
  else
    let isWriterSafe := quiescenceConfirmed || snap.frozenIsolation
    let writerUnknown := snap.cause.isWriterUnknown
    match op with
    | .releaseCancelledWriter =>
      if snap.taskState ≠ .cancelled || !writerUnknown || !isWriterSafe then
        .error (.invalidTransition
          "cancelled writer release requires confirmed quiescence or attempt isolation")
      else
        .ok (.releaseCancelledWriter .finalizePresence snap.hasAgent true)
    | .retry =>
      if snap.taskState ≠ .suspended then
        .error (.invalidTransition "only a suspended task can be retried")
      else if snap.workspaceMode = .write && writerUnknown && !isWriterSafe then
        .error (.invalidTransition
          "writer retry requires confirmed quiescence or attempt isolation")
      else
        .ok (.retry .queued true (if writerUnknown then .finalizePresence else .none)
          (writerUnknown && snap.hasAgent) true)
    | .cancelTask => .ok (.cancelTask .cancelled (!writerUnknown) writerUnknown)

/-- What an accepted resolution has checked, and what it will do. -/
theorem planEscalationResolution_ok {snap : EscalationResolutionSnapshot}
    {op : EscalationOperation} {q : Bool} {plan : EscalationResolutionPlan}
    (h : planEscalationResolution snap op q = .ok plan) :
    snap.escalationIsOpen = true ∧
      ((snap.taskState = .cancelled ∧ snap.cause.isWriterUnknown = true ∧
          (q || snap.frozenIsolation) = true ∧
          plan = .releaseCancelledWriter .finalizePresence snap.hasAgent true) ∨
        (snap.taskState = .suspended ∧
          (snap.workspaceMode = .write → snap.cause.isWriterUnknown = true →
            (q || snap.frozenIsolation) = true) ∧
          plan = .retry .queued true
            (if snap.cause.isWriterUnknown then .finalizePresence else .none)
            (snap.cause.isWriterUnknown && snap.hasAgent) true) ∨
        plan = .cancelTask .cancelled (!snap.cause.isWriterUnknown) snap.cause.isWriterUnknown) := by
  unfold planEscalationResolution at h
  split at h
  · cases h
  rename_i hopen
  refine ⟨by simpa using hopen, ?_⟩
  cases op with
  | releaseCancelledWriter =>
    dsimp only at h
    split at h
    · cases h
    · rename_i hc
      simp only [Bool.or_eq_true, decide_eq_true_eq, Bool.not_eq_true', not_or, ne_eq, not_not,
        Bool.not_eq_false] at hc
      exact .inl ⟨hc.1.1, hc.1.2, (Bool.or_eq_true _ _).mpr hc.2, (Except.ok.inj h).symm⟩
  | retry =>
    dsimp only at h
    split at h
    · cases h
    rename_i hsuspended
    split at h
    · cases h
    rename_i hsafe
    refine .inr (.inl ⟨not_not.mp hsuspended, fun hw hu => ?_, (Except.ok.inj h).symm⟩)
    cases hsafe' : q || snap.frozenIsolation with
    | true => rfl
    | false => simp [hw, hu, hsafe'] at hsafe
  | cancelTask => exact .inr (.inr (Except.ok.inj h).symm)

end Agentype

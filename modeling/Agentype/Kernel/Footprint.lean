import Agentype.Lib.Frame
import Agentype.Kernel.Walks

/-!
# `Agentype.Kernel.Footprint` — which tables the kernel's statements write

One modifies clause per shared statement. The invariants mention a handful of tables; everything
else a transaction does is dismissed with these clauses, which are inferred from its text.
-/

namespace Agentype

open Relational Tx Store

/-- The tables of a store. -/
inductive TableName where
  | batches | workstreams | poolPartitions | topologyRevision | tasks | taskDependencies
  | logicalAgents | incarnations | attempts | leases | executions | results | failures
  | preparationFaults | escalations | preparationEscalations | checkpoints | notificationOutbox
  | taskAgentRequirements | logicalAgentTypeBindings | provisioningBindings | bindingSnapshots
  deriving DecidableEq

/-- What a store holds under a name. -/
abbrev TableName.Carrier : TableName → Type
  | .batches => Table (.free BatchId BatchRow)
  | .workstreams => Table (.free WorkstreamId WorkstreamRow)
  | .poolPartitions => Table partitionSchema
  | .topologyRevision => Nat
  | .tasks => Table taskSchema
  | .taskDependencies => Table dependencySchema
  | .logicalAgents => Table agentSchema
  | .incarnations => Table incarnationSchema
  | .attempts => Table attemptSchema
  | .leases => Table leaseSchema
  | .executions => Table executionSchema
  | .results => Table resultSchema
  | .failures => Table (.free FailureId FailureRow)
  | .preparationFaults => Table (.free AttemptId PreparationFaultKind)
  | .escalations => Table escalationSchema
  | .preparationEscalations => Table preparationEscalationSchema
  | .checkpoints => Table (.free CheckpointId CheckpointRow)
  | .notificationOutbox => Table (.free OutboxEventId OutboxRow)
  | .taskAgentRequirements => Table (.free TaskId AgentTypeRef)
  | .logicalAgentTypeBindings => Table (.free LogicalAgentId AgentTypeRef)
  | .provisioningBindings => Table provisioningBindingSchema
  | .bindingSnapshots => Table bindingSnapshotSchema

/-- The table under a name. -/
def Store.table : (n : TableName) → Store → n.Carrier
  | .batches => batches
  | .workstreams => workstreams
  | .poolPartitions => poolPartitions
  | .topologyRevision => topologyRevision
  | .tasks => tasks
  | .taskDependencies => taskDependencies
  | .logicalAgents => logicalAgents
  | .incarnations => incarnations
  | .attempts => attempts
  | .leases => leases
  | .executions => executions
  | .results => results
  | .failures => failures
  | .preparationFaults => preparationFaults
  | .escalations => escalations
  | .preparationEscalations => preparationEscalations
  | .checkpoints => checkpoints
  | .notificationOutbox => notificationOutbox
  | .taskAgentRequirements => taskAgentRequirements
  | .logicalAgentTypeBindings => logicalAgentTypeBindings
  | .provisioningBindings => provisioningBindings
  | .bindingSnapshots => bindingSnapshots

/-- The transaction writes no table outside `W`. -/
abbrev Touches (W : List TableName) {α : Type} (x : KernelTx α) : Prop := Footprint Store.table x W

section Frame

variable {α : Type} {env : Env} {s s' : Store} {x : KernelTx α} {a : α} {W : List TableName}

/-- A committed run leaves every table outside the footprint of its transaction alone. -/
theorem frame_of_not_mem [hx : Touches W x] (h : Runs env x s a s') (n : TableName)
    (hn : n ∉ W) : s'.table n = s.table n :=
  hx.modifies env s a s' h n hn

/-- The same for a table that is seen to be outside. -/
theorem frame [Touches W x] (h : Runs env x s a s') (n : TableName)
    (hn : decide (n ∉ W) = true) : s'.table n = s.table n :=
  frame_of_not_mem h _ (of_decide_eq_true hn)

end Frame

/-! ## Handles -/

instance : batchesT.Owns Store.table [.batches] :=
  ⟨fun _ _ j hj => by cases j <;> first | rfl | exact absurd (by decide) hj⟩

instance : poolPartitionsT.Owns Store.table [.poolPartitions] :=
  ⟨fun _ _ j hj => by cases j <;> first | rfl | exact absurd (by decide) hj⟩

instance : tasksT.Owns Store.table [.tasks] :=
  ⟨fun _ _ j hj => by cases j <;> first | rfl | exact absurd (by decide) hj⟩

instance : logicalAgentsT.Owns Store.table [.logicalAgents] :=
  ⟨fun _ _ j hj => by cases j <;> first | rfl | exact absurd (by decide) hj⟩

instance : incarnationsT.Owns Store.table [.incarnations] :=
  ⟨fun _ _ j hj => by cases j <;> first | rfl | exact absurd (by decide) hj⟩

instance : attemptsT.Owns Store.table [.attempts] :=
  ⟨fun _ _ j hj => by cases j <;> first | rfl | exact absurd (by decide) hj⟩

instance : leasesT.Owns Store.table [.leases] :=
  ⟨fun _ _ j hj => by cases j <;> first | rfl | exact absurd (by decide) hj⟩

instance : executionsT.Owns Store.table [.executions] :=
  ⟨fun _ _ j hj => by cases j <;> first | rfl | exact absurd (by decide) hj⟩

instance : failuresT.Owns Store.table [.failures] :=
  ⟨fun _ _ j hj => by cases j <;> first | rfl | exact absurd (by decide) hj⟩

instance : escalationsT.Owns Store.table [.escalations] :=
  ⟨fun _ _ j hj => by cases j <;> first | rfl | exact absurd (by decide) hj⟩

instance : preparationEscalationsT.Owns Store.table [.preparationEscalations] :=
  ⟨fun _ _ j hj => by cases j <;> first | rfl | exact absurd (by decide) hj⟩

instance : notificationOutboxT.Owns Store.table [.notificationOutbox] :=
  ⟨fun _ _ j hj => by cases j <;> first | rfl | exact absurd (by decide) hj⟩

instance : workstreamsT.Owns Store.table [.workstreams] :=
  ⟨fun _ _ j hj => by cases j <;> first | rfl | exact absurd (by decide) hj⟩

instance : taskDependenciesT.Owns Store.table [.taskDependencies] :=
  ⟨fun _ _ j hj => by cases j <;> first | rfl | exact absurd (by decide) hj⟩

instance : resultsT.Owns Store.table [.results] :=
  ⟨fun _ _ j hj => by cases j <;> first | rfl | exact absurd (by decide) hj⟩

instance : preparationFaultsT.Owns Store.table [.preparationFaults] :=
  ⟨fun _ _ j hj => by cases j <;> first | rfl | exact absurd (by decide) hj⟩

instance : checkpointsT.Owns Store.table [.checkpoints] :=
  ⟨fun _ _ j hj => by cases j <;> first | rfl | exact absurd (by decide) hj⟩

instance : taskAgentRequirementsT.Owns Store.table [.taskAgentRequirements] :=
  ⟨fun _ _ j hj => by cases j <;> first | rfl | exact absurd (by decide) hj⟩

instance : logicalAgentTypeBindingsT.Owns Store.table [.logicalAgentTypeBindings] :=
  ⟨fun _ _ j hj => by cases j <;> first | rfl | exact absurd (by decide) hj⟩

instance : provisioningBindingsT.Owns Store.table [.provisioningBindings] :=
  ⟨fun _ _ j hj => by cases j <;> first | rfl | exact absurd (by decide) hj⟩

instance : bindingSnapshotsT.Owns Store.table [.bindingSnapshots] :=
  ⟨fun _ _ j hj => by cases j <;> first | rfl | exact absurd (by decide) hj⟩

/-! ## Statements -/

section Statements

variable {g : LogicalAgentId} {a : AgentRow} {p : PartitionId} {w : Option WorkstreamId}
  {i : IncarnationId} {b : BatchId} {t : TaskId} {target : String}

instance {v : JsonValue} : Touches [] (jsonLoad v) := ⟨jsonLoad_respects v⟩

instance {kind : String} : Touches [] (newId kind) := by
  unfold newId
  exact .infer rfl

instance : Touches [] (requiredTask t) := inferInstanceAs (Touches [] (fetch _ _))

instance : Touches [] (requiredAgent g) := inferInstanceAs (Touches [] (fetch _ _))

instance {active : Bool} : Touches [] (requiredPartition p active) :=
  inferInstanceAs (Touches [] (fetch _ _))

instance {a : AttemptId} : Touches [] (requiredAttempt a) :=
  inferInstanceAs (Touches [] (fetch _ _))

instance {x : ExecutionId} : Touches [] (requiredExecution x) :=
  inferInstanceAs (Touches [] (fetch _ _))

instance {f : AgentRow → AgentRow} : Touches [.logicalAgents] (updateAgent g f) := by
  unfold updateAgent
  exact .infer rfl

instance {c : IncarnationRow → Bool} : Touches [.incarnations] (loseIncarnations g c) := by
  unfold loseIncarnations
  exact .infer rfl

instance {c : IncarnationState → Bool} {st : IncarnationState} :
    Touches [.incarnations] (setIncarnationState i c st) := by
  unfold setIncarnationState
  exact .infer rfl

instance : Touches [.logicalAgents, .incarnations] (retireLogicalAgent g) := by
  unfold retireLogicalAgent
  exact .infer rfl

instance : Touches [] (planCutover g a p) := by
  unfold planCutover
  exact .infer rfl

instance : Touches [.logicalAgents, .incarnations] (commitPartitionCutover g a p) := by
  unfold commitPartitionCutover
  refine .bind (.infer rfl) fun plan => ?_
  split <;> exact .infer rfl

instance : Touches [.logicalAgents, .incarnations] (requestPartitionCutover g a p) := by
  unfold requestPartitionCutover
  refine .bind (.infer rfl) fun plan => ?_
  split <;> exact .infer rfl

instance : Touches [.logicalAgents, .incarnations] (releaseAgent g) := by
  unfold releaseAgent
  refine .bind (.infer rfl) fun _ => .bind (.infer rfl) fun _ => ?_
  split
  · exact .infer rfl
  refine .bind (.infer rfl) fun _ => .bind (.infer rfl) fun _ => ?_
  split
  · exact .infer rfl
  refine .bind (.infer rfl) fun _ => ?_
  split <;> exact .infer rfl

instance : Touches [.logicalAgents] (suspendAgent g) := by
  unfold suspendAgent
  exact .infer rfl

instance {unknown : Bool} :
    Touches [.logicalAgents, .incarnations] (suspendOrRelease g unknown) := by
  unfold suspendOrRelease
  exact .infer rfl

instance : Touches [.logicalAgents, .incarnations] (prepareAgentRevivalAfterSafety g) := by
  unfold prepareAgentRevivalAfterSafety
  refine .bind (.infer rfl) fun _ => .bind (.infer rfl) fun _ => ?_
  split <;> exact .infer rfl

instance {type : OutboxEventType} {id : String} :
    Touches [.notificationOutbox] (enqueueEvent type id) := by
  unfold enqueueEvent
  exact .infer rfl

instance : Touches [.batches, .notificationOutbox] (recomputeBatch b) := by
  unfold recomputeBatch
  exact .infer rfl

instance {a : Option AttemptId} {x : Option ExecutionId} {c : FailureClass}
    {code sig detail : Option String} :
    Touches [.failures] (recordFailure t a x c code sig detail) := by
  unfold recordFailure
  exact .infer rfl

instance : Touches [.tasks] (releaseDependencies b) := by
  unfold releaseDependencies
  exact .infer rfl

instance {id : EscalationId} {a : AttemptId} {kind : PreparationFaultKind} :
    Touches [.preparationEscalations] (attachEscalation id t a kind) := by
  unfold attachEscalation
  exact .infer rfl

instance {g : Option LogicalAgentId} {cause : EscalationCause} {sig detail : Option String} :
    Touches [.escalations, .preparationEscalations, .notificationOutbox]
      (createEscalationWithCause t b g w cause sig detail) := by
  unfold createEscalationWithCause
  refine .bind (.infer rfl) fun existing => ?_
  split
  · exact .infer rfl
  · refine .bind (.infer rfl) fun _ => .bind (.infer rfl) fun _ => ?_
    split <;> exact .infer rfl

instance {a : AttemptId} {st : AttemptState} {only : Bool} :
    Touches [.attempts] (closeAttempt a st only) := by
  unfold closeAttempt
  exact .infer rfl

instance {l : LeaseId} {st : LeaseState} {only : Bool} :
    Touches [.leases] (closeLease l st only) := by
  unfold closeLease
  exact .infer rfl

instance {f : TaskRow → TaskRow} : Touches [.tasks] (updateTask t f) := by
  unfold updateTask
  exact .infer rfl

instance {x : ExecutionId} {f : ExecutionRow → ExecutionRow} :
    Touches [.executions] (updateExecution x f) := by
  unfold updateExecution
  exact .infer rfl

instance {i : Option IncarnationId} {st : ExecutionState} {tc qc reusable : Bool} :
    Touches [.incarnations] (recordIncarnationPresence i st tc qc reusable) := by
  unfold recordIncarnationPresence
  split
  · exact .infer rfl
  · split <;> exact .infer rfl

instance : Touches [.incarnations] (createNewIncarnation g target) := by
  unfold createNewIncarnation
  exact .infer rfl

instance : Touches [.incarnations] (ensureIncarnation g target) := by
  unfold ensureIncarnation
  refine .bind (.infer rfl) fun _ => .bind (.infer rfl) fun _ => .bind (.infer rfl) fun active => ?_
  split <;> exact .infer rfl

instance : Touches [] (inheritedContinuity w) := by
  unfold inheritedContinuity
  split <;> exact .infer rfl

instance {tags : Option (List String)} : Touches [.logicalAgents] (birthAgent p w tags) := by
  unfold birthAgent
  exact .infer rfl

end Statements

end Agentype

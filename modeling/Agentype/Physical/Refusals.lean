import Agentype.Lib.Abort
import Agentype.Lib.Total
import Agentype.Kernel.OpFootprint

/-!
# `Agentype.Physical.Refusals` — what the proof bits refuse

The table of executions refuses a row that claims quiescence without a confirmed end. The operations
that settle a claim or decide an escalation write such a row among many other statements, and each of
those may fail for a reason of its own. None of them fails for this one.

## Contents
- `Error.Sound E`: a class of errors without those that most checks end with.
- `Error.isRefused`: the error of the refusal. `Unrefused x`: the transaction never ends with it.
- `executions_update_isSome`: which updates the table takes, as long as they wake no execution.
- `Op.Settles op`: the operation reports an end while it settles. **`settles_unrefused`**.
-/

namespace Agentype

open Relational Tx Store

-- a clause is inferred in as many steps as the operation has statements
set_option synthInstance.maxSize 100000

variable {s : Store} {E : Error → Bool}

/-! ## Checks -/

/-- The class leaves out stale claims and what a corrupt store is reported with. -/
structure Error.Sound (E : Error → Bool) : Prop where
  notFound : ∀ m, E (.notFound m) = false
  invariant : ∀ m, E (.invariantViolation m) = false
  stale : ∀ m, E (.staleAuthority m) = false
  recovery : ∀ m, E (.recoveryRequired m) = false

theorem orError_declines {α : Type} {err : Error} {o : Option α} (h : E err = false) :
    Declines E (orError err o) := by
  cases o with
  | none => exact .error h
  | some a => exact .ok a

theorem validateAuthorityTx_declines (hE : Error.Sound E) (a : AttemptId) (e : LeaseEpoch)
    (now : UnixTime) : Declines E (s.validateAuthorityTx a e now) := by
  unfold Store.validateAuthorityTx validateClaimTx
  refine .bind (.bind (orError_declines (hE.notFound _)) fun attempt =>
    .bind (orError_declines (hE.notFound _)) fun task =>
    .bind (orError_declines (hE.stale _)) fun lease => .bind ?_ fun _ =>
    .ite (.error (hE.stale _)) (.ok _)) fun r => .ite (.error (hE.recovery _)) (.ok _)
  unfold validateAt validateAuthority validateClaimOwnership
  dsimp only
  split
  · rename_i err herr
    split at herr
    · cases herr
      exact .error (hE.stale _)
    · cases herr
  · exact .ite (.error (hE.stale _)) (.ok _)

theorem getLogicalAgentTypeBinding_declines (hE : Error.Sound E) (g : LogicalAgentId) :
    Declines E (s.getLogicalAgentTypeBinding g) := by
  unfold getLogicalAgentTypeBinding
  refine .bind (orError_declines (hE.notFound _)) fun agent => ?_
  split <;> first | exact .ok _ | exact .error (hE.invariant _)

theorem getProvisioningBinding_declines (hE : Error.Sound E) (i : IncarnationId) :
    Declines E (s.getProvisioningBinding i) := by
  unfold getProvisioningBinding validateProvisioningBindingAuthority
  refine .bind (orError_declines (hE.notFound _)) fun inc => ?_
  split
  · exact .ok _
  · exact .error (hE.invariant _)
  · exact .error (hE.invariant _)
  · refine .bind (.ite (.error (hE.invariant _))
      (.bind (getLogicalAgentTypeBinding_declines hE _) fun found => ?_)) fun _ => .ok _
    split
    · exact .error (hE.invariant _)
    · exact .ite (.error (hE.invariant _)) (.ok _)

theorem validatedFault_declines (hE : Error.Sound E) (a : AttemptId) (t : TaskId) :
    Declines E (s.validatedFault a t) := by
  unfold validatedFault
  exact .bind (orError_declines (hE.notFound _)) fun _ =>
    .ite (.error (hE.invariant _)) (orError_declines (hE.invariant _))

theorem escalationCause_declines (hE : Error.Sound E) (id : EscalationId) (t : TaskId)
    (tag : EscalationTag) : Declines E (s.escalationCause id t tag) := by
  unfold escalationCause
  split
  · exact .error (hE.invariant _)
  · exact .bind (validatedFault_declines hE _ _) fun _ => .ok _
  · exact .error (hE.invariant _)
  · exact .ok _

/-! ## The refusal -/

def Error.isRefused : Error → Bool
  | .conflict message => decide (message = proofCheck)
  | _ => false

theorem Error.isRefused_sound : Error.Sound Error.isRefused :=
  ⟨fun _ => rfl, fun _ => rfl, fun _ => rfl, fun _ => rfl⟩

/-- A transaction that never ends with the refusal of an execution. -/
abbrev Unrefused {α : Type} (x : KernelTx α) : Prop := Spared Error.isRefused x

section Errors

variable {m : String}

instance : Outside Error.isRefused (.invalidTransition m) := ⟨rfl⟩

instance : Outside Error.isRefused (.staleAuthority m) := ⟨rfl⟩

instance : Outside Error.isRefused (.invariantViolation m) := ⟨rfl⟩

instance : Outside Error.isRefused (.notFound m) := ⟨rfl⟩

instance : Outside Error.isRefused noRow := ⟨rfl⟩

instance : Outside Error.isRefused drainBoundaryError := ⟨rfl⟩

instance : Outside Error.isRefused unsafeCutoverError := ⟨rfl⟩

instance : Outside Error.isRefused constraintViolation := ⟨by decide +kernel⟩

end Errors

/-- The table takes an update that wakes no execution exactly when what it writes passes the check. -/
theorem executions_update_isSome {p : ExecutionId → ExecutionRow → Bool}
    {f : ExecutionRow → ExecutionRow}
    (hf : ∀ e, (f e).requestId = e.requestId ∧ (f e).attemptId = e.attemptId ∧
      (f e).incarnationId = e.incarnationId)
    (hwake : ∀ e, (f e).state.isActivePhysical = true → e.state.isActivePhysical = true) :
    (s.executions.update p f).isSome = true ↔ ∀ k e, s.executions.lookup k = some e →
      p k e = true → executionSchema.check k (f e) = true := by
  rw [Option.isSome_iff_exists]
  constructor
  · rintro ⟨t, ht⟩ k e he hp
    have hk := Table.lookup_of_update ht k
    rw [he, Option.map_some, Table.updateRow, if_pos hp] at hk
    exact Table.check_of_lookup hk
  · intro hok
    have hrow : ∀ k r, (Table.updateRow p f k r).requestId = r.requestId ∧
        (Table.updateRow p f k r).attemptId = r.attemptId ∧
        (Table.updateRow p f k r).incarnationId = r.incarnationId ∧
        ((Table.updateRow p f k r).state.isActivePhysical = true →
          r.state.isActivePhysical = true) := by
      intro k r
      unfold Table.updateRow
      split
      · exact ⟨(hf r).1, (hf r).2.1, (hf r).2.2, hwake r⟩
      · exact ⟨rfl, rfl, rfl, id⟩
    refine Table.exists_update_of_imp hok fun k r k' r' hr hr' hclash => ?_
    -- rows that clash now have clashed before
    obtain ⟨h₁, h₂, h₃, h₄⟩ := hrow k r
    obtain ⟨h₁', h₂', h₃', h₄'⟩ := hrow k' r'
    simp only [executionSchema, decide_eq_true_eq, h₁, h₂, h₃, h₁', h₂', h₃'] at hclash ⊢
    exact hclash.imp_right (Or.imp_right (And.imp_right (And.imp h₄ h₄')))

theorem executions_unrefused {p : ExecutionId → ExecutionRow → Bool}
    {f : ExecutionRow → ExecutionRow}
    (hf : ∀ e, (f e).requestId = e.requestId ∧ (f e).attemptId = e.attemptId ∧
      (f e).incarnationId = e.incarnationId)
    (hwake : ∀ e, (f e).state.isActivePhysical = true → e.state.isActivePhysical = true)
    (hcheck : ∀ k e, executionSchema.check k e = true → p k e = true →
      executionSchema.check k (f e) = true) :
    Unrefused (updateIn executionsT executionRefused p f) := by
  -- the check is the only refusal there is, and every row that is written passes it
  refine ⟨fun env s => .of_ok fun n => ?_⟩
  obtain ⟨t, ht⟩ := Option.isSome_iff_exists.mp ((executions_update_isSome hf hwake).mpr
    fun k e he hp => hcheck k e (Table.check_of_lookup he) hp)
  have hens : Ensures env (updateIn executionsT executionRefused p f : KernelTx Unit) s n
      fun _ _ _ => True := .updateIn ht trivial
  obtain ⟨a, s', n', hx, -⟩ := hens
  exact ⟨_, hx⟩

/-! ## Statements -/

section Statements

variable {b : BatchId} {t : TaskId} {a : AttemptId} {e : LeaseEpoch} {g : LogicalAgentId}
  {p : PartitionId} {target : String} {w : Option WorkstreamId} {r : ClaimRecords}
  {c : FailureClass} {qc reusable : Bool} {sig detail : Option String} {y : Option ExecutionId}
  {run : Option (ExecutionId × ExecutionRow)} {d : JsonValue}

instance {kind : String} : Unrefused (newId kind) := by
  unfold newId
  infer_instance

instance : Unrefused (validateAuthorityTx a e) := by
  unfold validateAuthorityTx
  have hexamine : ∀ now, Unrefused (examine fun s => s.validateAuthorityTx a e now) :=
    fun now => .examine fun s => validateAuthorityTx_declines Error.isRefused_sound a e now
  infer_instance

instance : Unrefused (executionForAttempt a y) := by
  unfold executionForAttempt requiredExecution
  split <;> infer_instance

theorem canonicalPartitionFrom_declines (start : PartitionId) (fuel : Nat)
    (visited : List PartitionId) (current : PartitionId) :
    Declines Error.isRefused (canonicalPartitionFrom s start fuel visited current) := by
  induction fuel generalizing visited current with
  | zero => exact .error rfl
  | succ fuel ih =>
    unfold canonicalPartitionFrom
    refine .ite (.error rfl) ?_
    split
    · exact .error rfl
    · refine .ite (.ok _) ?_
      split
      · exact ih _ _
      · exact .error rfl

instance : Unrefused (examine fun s => s.canonicalPartition p) :=
  .examine fun _ => canonicalPartitionFrom_declines _ _ _ _

theorem closure_declines (target : String) :
    Declines Error.isRefused (s.crossTargetProvisionedHostRequiresClosure g target) := by
  unfold crossTargetProvisionedHostRequiresClosure
  refine .bind (.mapM (fun y => ?_) _) fun _ => .ok _
  exact .bind (getProvisioningBinding_declines Error.isRefused_sound y.1) fun _ => .ok _

instance : Unrefused (examine fun s => s.crossTargetProvisionedHostRequiresClosure g target) :=
  .examine fun _ => closure_declines target

instance {row : AgentRow} : Unrefused (commitPartitionCutover g row p) := by
  have hunsafe : ∀ target now, Unrefused (examine fun s =>
      s.unsafeCrossTargetExecution g target now) := by
    refine fun target now => .examine fun s => ?_
    unfold unsafeCrossTargetExecution
    exact .bind (closure_declines target) fun _ => .ite (.ok _) (.ok _)
  unfold commitPartitionCutover planCutover loseIncarnations updateAgent
  refine .bind inferInstance fun plan => ?_
  split <;> infer_instance

instance : Unrefused (releaseAgent g) := by
  unfold releaseAgent retireLogicalAgent loseIncarnations updateAgent requiredAgent
  -- a release branches on what it reads
  repeat' first | infer_instance | split | refine .bind inferInstance fun _ => ?_

instance : Unrefused (prepareAgentRevivalAfterSafety g) := by
  unfold prepareAgentRevivalAfterSafety requiredAgent
  refine .bind inferInstance fun _ => .bind inferInstance fun _ => ?_
  split <;> infer_instance

instance : Unrefused (recomputeBatch b) := by
  have haggregate : Unrefused (examine fun s => s.aggregateState b) := by
    refine .examine fun s => ?_
    unfold aggregateState
    exact .ite (.error rfl) (.ok _)
  unfold recomputeBatch enqueueEvent
  infer_instance

instance {g : Option LogicalAgentId} : Unrefused (createEscalation t b g w c sig detail) := by
  have hcause : ∀ id tag, Unrefused (examine fun s => s.escalationCause id t tag) := fun id tag =>
    .examine fun _ => escalationCause_declines Error.isRefused_sound id t tag
  unfold createEscalation createEscalationWithCause enqueueEvent
  refine .bind inferInstance fun existing => ?_
  split <;> infer_instance

instance : Unrefused (suspendCurrent a r c sig detail) := by
  unfold suspendCurrent closeAttempt closeLease updateTask suspendOrRelease suspendAgent
  infer_instance

instance {i : Option IncarnationId} {st : ExecutionState} {tc : Bool} :
    Unrefused (recordIncarnationPresence i st tc qc reusable) := by
  unfold recordIncarnationPresence setIncarnationState
  repeat' first | infer_instance | split

/-! What is reported is written. -/

instance : Unrefused (succeedExecution d qc run) := by
  unfold succeedExecution
  split
  · infer_instance
  · refine executions_unrefused (fun _ => ⟨rfl, rfl, rfl⟩) (fun e h => nomatch h) fun k e _ _ => ?_
    simp [executionSchema, ExecutionState.isEnded]

instance : Unrefused (nackExecution c true qc run) := by
  unfold nackExecution
  split
  · infer_instance
  · split
    · infer_instance
    · refine .bind inferInstance fun _ => executions_unrefused (fun _ => ⟨rfl, rfl, rfl⟩)
        (fun e h => nomatch h) fun k e _ _ => ?_
      simp [executionSchema, ExecutionState.isEnded]

instance : Unrefused (cancelExecution qc run) := by
  unfold cancelExecution
  split
  · infer_instance
  · refine executions_unrefused (fun _ => ⟨rfl, rfl, rfl⟩) (fun e h => ?_) fun k e hcheck hp => ?_
    · cases qc <;> cases h
    · -- an active row holds no proof, and the update leaves the bits alone
      have hactive := ((Bool.and_eq_true _ _).mp hp).2
      revert hcheck hactive
      simp only [executionSchema]
      cases e.quiescentConfirmed <;> cases e.terminalConfirmed <;> cases qc <;> cases e.state <;>
        decide

instance {iso : Bool} : Unrefused (finalizeEscalatedExecution y iso qc) := by
  have hend : ∀ x, Unrefused (updateExecution x fun e => { e with
      state := if e.state.isActivePhysical || decide (e.state = .lost) then .terminated
        else e.state, terminalConfirmed := true, quiescentConfirmed := true }) := by
    refine fun x => executions_unrefused (fun _ => ⟨rfl, rfl, rfl⟩) (fun e => ?_) fun k e _ _ => ?_
    · dsimp only
      cases e.state <;> decide
    · simp only [executionSchema]
      cases e.state <;> decide
  have hlose : ∀ x, Unrefused (updateExecution x fun e => { e with
      state := if e.state.isActivePhysical then .lost else e.state }) := by
    refine fun x => executions_unrefused (fun _ => ⟨rfl, rfl, rfl⟩) (fun e => ?_) fun k e h _ => ?_
    · dsimp only
      cases e.state <;> decide
    · revert h
      simp only [executionSchema]
      cases e.quiescentConfirmed <;> cases e.terminalConfirmed <;> cases e.state <;> decide
  unfold finalizeEscalatedExecution
  split <;> infer_instance

end Statements

/-! ## Operations -/

section Operations

variable {t : TaskId} {a : AttemptId} {e : LeaseEpoch} {c : FailureClass} {qc reusable : Bool}
  {y : Option ExecutionId} {d : JsonValue} {detail : Option String}

instance : Unrefused (ackSuccess a e y d detail qc reusable) := by
  have hsucceed : ∀ run, Unrefused (examine fun _ => canSucceed run) := by
    refine fun run => .examine fun s => ?_
    unfold canSucceed
    split
    · exact .ok _
    · exact .ite (.ok _) (.error rfl)
  unfold ackSuccess ackComplete ackNotQuiescent closeAttempt closeLease updateTask
    releaseDependencies recordFailure
  infer_instance

instance : Unrefused (nack a e c y true qc reusable) := by
  unfold nack retryOrSuspend retryLater closeAttempt closeLease updateTask recordFailure
  infer_instance

instance : Unrefused (cancelTask t qc) := by
  unfold cancelTask cancelCurrentAttempt cancelAuthority cancelAgent closeAttempt suspendAgent
    updateTask requiredTask requiredAttempt
  -- a task may have no current attempt
  repeat' first | infer_instance | split | refine .bind inferInstance fun _ => ?_

instance {id : EscalationId} {operation : String} :
    Unrefused (resolveEscalation id operation qc) := by
  have hparse : Unrefused (examine fun _ => EscalationOperation.parse operation) :=
    .examine fun _ => .ite (.ok _) (.ite (.ok _) (.ite (.ok _) (.error rfl)))
  have hcause : ∀ t tag, Unrefused (examine fun s => s.escalationCause id t tag) := fun t tag =>
    .examine fun _ => escalationCause_declines Error.isRefused_sound id t tag
  have hplan : ∀ snap op, Unrefused (examine fun _ => planEscalationResolution snap op qc) := by
    refine fun snap op => .examine fun _ => .ite (.error rfl) ?_
    cases op with
    | releaseCancelledWriter => exact .ite (.error rfl) (.ok _)
    | retry => exact .ite (.error rfl) (.ite (.error rfl) (.ok _))
    | cancelTask => exact .ok _
  unfold resolveEscalation applyResolution settlePresence finalizeEscalatedWriterPresence
    finalizeEscalatedIncarnation setIncarnationState reviveEscalated closeEscalation updateTask
    requiredTask
  -- the plan decides what is written
  repeat' first | infer_instance | split | refine .bind inferInstance fun _ => ?_

end Operations

/-- The operation reports the end of an execution while it settles a claim or an escalation. -/
def Op.Settles : Op → Prop
  | .ackSuccess .. | .cancelTask .. | .resolveEscalation .. => True
  | .nack _ _ _ _ terminalConfirmed _ _ => terminalConfirmed = true
  | _ => False

/-- **No operation that settles is refused for the proof it brings.** -/
theorem settles_unrefused {op : Op} (h : op.Settles) : Unrefused op.exec := by
  cases op with
  | ackSuccess a e y d detail qc reusable =>
    exact inferInstanceAs (Unrefused (ackSuccess a e y d detail qc reusable >>= fun _ => pure ()))
  | nack a e c y tc qc reusable =>
    obtain rfl : tc = true := h
    exact inferInstanceAs (Unrefused (nack a e c y true qc reusable >>= fun _ => pure ()))
  | cancelTask t qc => exact inferInstanceAs (Unrefused (cancelTask t qc))
  | resolveEscalation id operation qc =>
    exact inferInstanceAs (Unrefused (resolveEscalation id operation qc))
  | _ => cases h

end Agentype

import Agentype.Physical.Launch
import Agentype.Scheduler.Refine

/-!
# `Agentype.Physical.Writes` — what each operation writes into an execution

No operation writes more than one execution row, and which row it writes and what the row becomes
are functions of the store it finds. This module says so once; the properties of execution rows are
then read off the written values.

## Contents
- The values an operation writes: `located`, `confirmed`, `observed`, `collected`, `succeeded`,
  `failed`, `cancelled`, `finalized`.
- `Op.physicalWrite s`: the row an operation writes when it commits from `s`.
- `ExecutionsAfter s s' op`: the executions after a committed operation, `exec_executions`.
-/

namespace Agentype

open Relational Tx Store

-- a clause is inferred in as many steps as the operation has statements
set_option synthInstance.maxSize 100000

variable {env : Env} {s s' : Store}
variable {x : ExecutionId} {u : Unit} {a : AttemptId} {tc qc q r : Bool} {p : JsonValue}
  {ep : LeaseEpoch} {sm : Option String}

/-! ## Written values -/

namespace ExecutionRow

def located (handle : JsonValue) (e : ExecutionRow) : ExecutionRow :=
  { e with runtimeHandle := handle }

def confirmed (handle : JsonValue) (e : ExecutionRow) : ExecutionRow :=
  { e with state := .running, runtimeHandle := handle }

/-- An observed state; entering an unresolved one clears the proof bits. -/
def observed (state : ExecutionState) (handle payload : Option JsonValue)
    (failureClass : Option FailureClass) (terminal quiescent : Bool) (e : ExecutionRow) :
    ExecutionRow :=
  { e with state := state, runtimeHandle := handle.getD e.runtimeHandle,
           outcome := payload.or e.outcome, failureClass := failureClass.or e.failureClass,
           terminalConfirmed := !state.isUnresolved && (e.terminalConfirmed || terminal),
           quiescentConfirmed := !state.isUnresolved && (e.quiescentConfirmed || quiescent) }

/-- A collected terminal fact; the quiescence bit is the reported one. -/
def collected (state : ExecutionState) (handle payload : Option JsonValue)
    (summary : Option String) (failureClass : Option FailureClass) (quiescent reusable : Bool)
    (e : ExecutionRow) : ExecutionRow :=
  { e with state := state, runtimeHandle := handle.getD e.runtimeHandle,
           outcome := some (payload.getD .null), summary := summary, failureClass := failureClass,
           incarnationReusable := reusable, terminalConfirmed := true,
           quiescentConfirmed := quiescent }

def succeeded (payload : JsonValue) (quiescent : Bool) (e : ExecutionRow) : ExecutionRow :=
  { e with state := .succeeded, outcome := some payload, terminalConfirmed := true,
           quiescentConfirmed := quiescent }

def failed (failureClass : FailureClass) (terminal quiescent : Bool) (e : ExecutionRow) :
    ExecutionRow :=
  { e with state := if terminal then .failed else .unknown, failureClass := some failureClass,
           terminalConfirmed := terminal, quiescentConfirmed := terminal && quiescent }

/-- A cancellation closes a row that is still active. -/
def cancelled (quiescent : Bool) (e : ExecutionRow) : ExecutionRow :=
  if e.state.isActivePhysical then { e with state := cancelledPresence quiescent } else e

/-- The resolution of a writer-safety obligation. -/
def finalized (isolation quiescent : Bool) (e : ExecutionRow) : ExecutionRow :=
  if quiescent then
    { e with state := if e.state.isActivePhysical || decide (e.state = .lost) then .terminated
                      else e.state,
             terminalConfirmed := true, quiescentConfirmed := true }
  else if isolation then
    { e with state := if e.state.isActivePhysical then .lost else e.state }
  else e

end ExecutionRow

/-! ## The write of an operation -/

/-- A write of one execution row. -/
structure ExecutionWrite where
  id : ExecutionId
  value : ExecutionRow → ExecutionRow

/-- The executions once a write has been made. -/
def overwritten (t : Table executionSchema) (w : Option ExecutionWrite) (y : ExecutionId) :
    Option ExecutionRow :=
  match w with
  | none => t.lookup y
  | some w => if y = w.id then (t.lookup y).map w.value else t.lookup y

/-- A failure report leaves a row alone that has left the active states. -/
def Store.failureWrite (s : Store) (a : AttemptId) (c : FailureClass) (terminal quiescent : Bool) :
    Option ExecutionWrite := do
  let x ← s.executionOfAttempt a
  if x.2.state.isActivePhysical then
    some ⟨x.1, ExecutionRow.failed c terminal quiescent⟩
  else none

/-- The execution under the current claim of a task that is still open. -/
def Store.cancelledExecution (s : Store) (t : TaskId) : Option (ExecutionId × ExecutionRow) := do
  let task ← s.tasks.lookup t
  if task.state.isTerminal then none
  else do
    let a ← task.currentAttemptId
    s.executionOfAttempt a

/-- The row an operation writes when it commits. -/
def Op.physicalWrite (s : Store) : Op → Option ExecutionWrite
  | .confirmRunningAndRenew _ _ x h => some ⟨x, ExecutionRow.confirmed h⟩
  | .recordPhysicalOutcome x st h p c tc qc => some ⟨x, ExecutionRow.observed st h p c tc qc⟩
  | .recordRuntimeHandleHint x h => some ⟨x, ExecutionRow.located h⟩
  | .recordPendingPhysicalTerminal x st h p sm c qc r =>
    some ⟨x, ExecutionRow.collected st h p sm c qc r⟩
  | .ackSuccess a _ _ p _ qc _ =>
    (s.executionOfAttempt a).map fun x => ⟨x.1, ExecutionRow.succeeded p qc⟩
  | .nack a _ c _ tc qc _ => s.failureWrite a c tc qc
  | .reportConfigurationUnavailable a _ =>
    s.failureWrite a unavailableConfigurationFailure false false
  | .cancelTask t q => (s.cancelledExecution t).map fun x =>
      ⟨x.1, ExecutionRow.cancelled (q || durableQuiescence x.2.terminalConfirmed
        x.2.quiescentConfirmed)⟩
  | .resolveEscalation id operation q => do
    let row ← s.escalations.lookup id
    let p := s.escalatedPresence row.taskId
    let x ← p.executionId
    if row.tag = writerUnknown ∧ operation ≠ "cancel_task" then
      some ⟨x, ExecutionRow.finalized p.frozenIsolation q⟩
    else none
  | _ => none

/-- What a committed operation has checked about the row it writes. -/
def Op.PhysicalGuard (e : ExecutionRow) : Op → Prop
  | .confirmRunningAndRenew a _ _ _ => e.attemptId = a ∧ e.state.isActivePhysical = true
  | .recordPhysicalOutcome _ st _ _ _ tc qc =>
    physicalTransitionAllowed e.state st = true ∧ (st.isUnresolved && (tc || qc)) = false
  | .recordPendingPhysicalTerminal _ st .. =>
    physicalTransitionAllowed e.state st = true ∧ st.isEnded = true
  | _ => True

/-- The operations that commit an execution for a claim. -/
def Op.createsFor : Op → Option Claim
  | .createExecution claim _ | .createExecutionWithSnapshot claim .. => some claim
  | _ => none

/-- A row as it is committed, up to its snapshot mode. -/
structure ExecutionRow.Fresh (e : ExecutionRow) (claim : Claim) : Prop where
  attempt : e.attemptId = claim.attemptId
  task : e.taskId = claim.taskId
  target : e.executionTarget = claim.executionTarget
  state : e.state = .starting
  terminal : e.terminalConfirmed = false
  quiescent : e.quiescentConfirmed = false

/-- The executions after a committed operation. -/
inductive ExecutionsAfter (s s' : Store) (op : Op) : Prop
  | written (hguard : ∀ w e, op.physicalWrite s = some w → s.executions.lookup w.id = some e →
        op.PhysicalGuard e)
      (h : ∀ y, s'.executions.lookup y = overwritten s.executions (op.physicalWrite s) y)
  | created {claim : Claim} {x : ExecutionId} {row : ExecutionRow} (hop : op.createsFor = some claim)
      (hnone : s.executions.lookup x = none) (hrow : row.Fresh claim)
      (h : ∀ y, s'.executions.lookup y = if y = x then some row else s.executions.lookup y)
  | erased {a : AttemptId} {e : LeaseEpoch} {x : ExecutionId} {row : ExecutionRow}
      (hop : op = .abortBeforePhysicalStart a e x) (hrow : s.executions.lookup x = some row)
      (hattempt : row.attemptId = a) (hstate : row.state = .starting)
      (h : ∀ y, s'.executions.lookup y = if y = x then none else s.executions.lookup y)

/-- **The one write decides.** What holds of a row and itself holds of every row before and after
    the write as soon as it holds of the row that is written. -/
theorem overwritten_iff {P : ExecutionRow → ExecutionRow → Prop} (hrefl : ∀ e, P e e)
    {w : Option ExecutionWrite}
    (h : ∀ y, s'.executions.lookup y = overwritten s.executions w y) :
    (∀ x e e', s.executions.lookup x = some e → s'.executions.lookup x = some e' → P e e') ↔
      ∀ w', w = some w' → ∀ e, s.executions.lookup w'.id = some e → P e (w'.value e) := by
  constructor
  · rintro hk w' rfl e he
    refine hk w'.id e _ he ?_
    rw [h]
    show (if w'.id = w'.id then (s.executions.lookup w'.id).map w'.value else _) = _
    rw [if_pos rfl, he]
    rfl
  · intro hw x e e' he he'
    rw [h] at he'
    cases w with
    | none => exact Option.some.inj (he.symm.trans he') ▸ hrefl e
    | some w' =>
      change (if x = w'.id then (s.executions.lookup x).map w'.value else _) = some e' at he'
      split at he'
      · rename_i hx
        subst hx
        rw [he] at he'
        exact Option.some.inj he' ▸ hw w' rfl e he
      · exact Option.some.inj (he.symm.trans he') ▸ hrefl e

theorem overwritten_isSome {t : Table executionSchema} {w : Option ExecutionWrite}
    {e : ExecutionRow} (he : t.lookup x = some e) : (overwritten t w x).isSome = true := by
  unfold overwritten
  split
  · simp [he]
  · split <;> simp [he]

/-! ## One statement -/

theorem updateExecution_overwritten {f : ExecutionRow → ExecutionRow}
    (h : Runs env (updateExecution x f) s u s') (y : ExecutionId) :
    s'.executions.lookup y = overwritten s.executions (some ⟨x, f⟩) y :=
  updateExecution_runs h y

theorem nackExecution_overwritten {c : FailureClass}
    (h : Runs env (nackExecution c tc qc (s.executionOfAttempt a)) s u s') (y : ExecutionId) :
    s'.executions.lookup y = overwritten s.executions (s.failureWrite a c tc qc) y := by
  unfold Store.failureWrite
  cases hx : s.executionOfAttempt a with
  | none =>
    rw [hx] at h
    obtain ⟨-, rfl⟩ := Tx.Runs.pure h
    rfl
  | some x =>
    rw [hx, nackExecution] at h
    split at h
    · rename_i hclosed
      obtain ⟨-, rfl⟩ := h.pure
      have hinactive : x.2.state.isActivePhysical = false := by
        rcases hclosed with h | h | h <;> rw [h] <;> rfl
      simp [hinactive, overwritten]
    · obtain ⟨hactive, h⟩ := h.require_bind
      rw [updateExecution_overwritten h]
      simp only [Option.bind_eq_bind, Option.bind_some, hactive, if_true]
      rfl

theorem succeedExecution_overwritten {x : Option (ExecutionId × ExecutionRow)}
    (h : Runs env (succeedExecution p q x) s u s') (y : ExecutionId) :
    s'.executions.lookup y = overwritten s.executions
      (x.map fun x => ⟨x.1, ExecutionRow.succeeded p q⟩) y := by
  cases x with
  | none =>
    obtain ⟨-, rfl⟩ := Tx.Runs.pure h
    rfl
  | some x => exact updateExecution_overwritten h y

theorem cancelExecution_overwritten {x : Option (ExecutionId × ExecutionRow)}
    (h : Runs env (cancelExecution q x) s u s') (y : ExecutionId) :
    s'.executions.lookup y = overwritten s.executions
      (x.map fun x => ⟨x.1, ExecutionRow.cancelled q⟩) y := by
  cases x with
  | none =>
    obtain ⟨-, rfl⟩ := Tx.Runs.pure h
    rfl
  | some x =>
    obtain ⟨t', ht', rfl⟩ := Tx.Runs.updateIn h
    show t'.lookup y = _
    rw [Table.lookup_of_update ht']
    show (s.executions.lookup y).map _ = if y = x.1 then _ else _
    split
    · rename_i hy
      subst hy
      congr 1
      funext e
      simp [Table.updateRow, ExecutionRow.cancelled]
    · rename_i hy
      cases s.executions.lookup y <;> simp [Table.updateRow, hy]

theorem finalizeEscalatedExecution_overwritten {x : Option ExecutionId} {isolation : Bool}
    (h : Runs env (finalizeEscalatedExecution x isolation q) s u s') (y : ExecutionId) :
    s'.executions.lookup y = overwritten s.executions
      (x.map fun x => ⟨x, ExecutionRow.finalized isolation q⟩) y := by
  cases x with
  | none =>
    obtain ⟨-, rfl⟩ := Tx.Runs.pure h
    rfl
  | some x =>
    unfold finalizeEscalatedExecution at h
    cases q with
    | true => exact updateExecution_overwritten h y
    | false =>
      cases isolation with
      | true => exact updateExecution_overwritten h y
      | false =>
        obtain ⟨-, rfl⟩ := Tx.Runs.pure h
        show _ = if y = x then (s'.executions.lookup y).map id else _
        rw [Option.map_id_fun, id, ite_self]

/-! ## One operation -/

/-- A transaction that leaves the executions of an operation that writes none alone. -/
theorem ExecutionsAfter.of_eq {op : Op} (hop : op.physicalWrite s = none)
    (h : s'.executions = s.executions) : ExecutionsAfter s s' op := by
  refine .written (fun w e hw => ?_) fun y => ?_
  · rw [hop] at hw
    cases hw
  · rw [hop, h]
    rfl

theorem executionOfAttempt_congr {s₁ : Store} (h : s₁.executions = s.executions) (a : AttemptId) :
    s₁.executionOfAttempt a = s.executionOfAttempt a := by
  unfold Store.executionOfAttempt
  rw [h]

theorem nack_overwritten {c : FailureClass} {x : Option ExecutionId} {st : TaskState}
    (h : Runs env (nack a ep c x tc qc r) s st s') (y : ExecutionId) :
    s'.executions.lookup y = overwritten s.executions (s.failureWrite a c tc qc) y := by
  unfold nack at h
  obtain ⟨records, -, h⟩ := validateAuthorityTx_bind h
  obtain ⟨f, s₁, hf, h⟩ := (executionForAttempt_bind h).bind
  obtain ⟨u, s₂, hn, h⟩ := h.bind
  have h₁ : s₁.executions = s.executions := frame hf .executions rfl
  have h₂ : s'.executions = s₂.executions := frame h .executions rfl
  rw [← executionOfAttempt_congr h₁] at hn
  rw [h₂, nackExecution_overwritten hn, h₁]
  unfold Store.failureWrite
  rw [executionOfAttempt_congr h₁]

theorem writerSafe_of_quiescent {mode : WorkspaceMode} {x : Option (ExecutionId × ExecutionRow)} :
    writerSafe mode x true = true := by
  simp [writerSafe, writerIsSafeToReplace]

/-- The physical part of a refused success is its write of the execution. -/
theorem ackNotQuiescent_physical {records : ClaimRecords} {x : Option (ExecutionId × ExecutionRow)}
    (h : Runs env (ackNotQuiescent a records x p) s u s') :
    ∃ v s₁, Runs env (succeedExecution p false x) s v s₁ ∧ s'.executions = s₁.executions := by
  unfold ackNotQuiescent at h
  obtain ⟨v, s₁, hs, h⟩ := h.bind
  exact ⟨v, s₁, hs, frame h .executions rfl⟩

/-- A completion asks for the state first. -/
theorem ackComplete_physical {records : ClaimRecords} {x : Option (ExecutionId × ExecutionRow)}
    {id : ResultId} (h : Runs env (ackComplete a records x p sm q r) s id s') :
    canSucceed x = .ok () ∧
      ∃ v s₁, Runs env (succeedExecution p q x) s v s₁ ∧ s'.executions = s₁.executions := by
  unfold ackComplete at h
  obtain ⟨_, hcan, h⟩ := h.examine_bind
  obtain ⟨v, s₁, hs, h⟩ := h.bind
  refine ⟨hcan, v, s₁, hs, ?_⟩
  exact frame h .executions rfl

/-- A refused success was reported without quiescence, so both branches write the reported bit. -/
theorem ackSuccess_overwritten {x : Option ExecutionId} {res : Option ResultId}
    (h : Runs env (ackSuccess a ep x p sm qc r) s res s') (y : ExecutionId) :
    s'.executions.lookup y = overwritten s.executions
      ((s.executionOfAttempt a).map fun x => ⟨x.1, ExecutionRow.succeeded p qc⟩) y := by
  unfold ackSuccess at h
  obtain ⟨records, -, h⟩ := validateAuthorityTx_bind h
  replace h := executionForAttempt_bind h
  split at h
  · obtain ⟨id, s₁, hc, h⟩ := h.bind
    obtain ⟨-, rfl⟩ := h.pure
    obtain ⟨-, v, s₂, hs, heq⟩ := ackComplete_physical hc
    rw [heq, succeedExecution_overwritten hs]
  · rename_i hunsafe
    obtain ⟨u, s₁, hn, h⟩ := h.bind
    obtain ⟨-, rfl⟩ := h.pure
    obtain ⟨v, s₂, hs, heq⟩ := ackNotQuiescent_physical hn
    have hqc : qc = false := by
      cases qc with
      | false => rfl
      | true => exact absurd writerSafe_of_quiescent hunsafe
    rw [heq, succeedExecution_overwritten hs, hqc]

theorem confirmRunningAndRenew_overwritten {handle : JsonValue} {g : RunningAuthorityGrant}
    (h : Runs env (confirmRunningAndRenew a ep x handle) s g s') :
    (∃ e, s.executions.lookup x = some e ∧ e.attemptId = a ∧ e.state.isActivePhysical = true) ∧
      ∀ y, s'.executions.lookup y =
        overwritten s.executions (some ⟨x, ExecutionRow.confirmed handle⟩) y := by
  obtain ⟨r, e, s₁, s₂, s₃, t, c, -⟩ := confirmRunningAndRenew_runs h
  refine ⟨⟨e, c.execution, c.own, c.active⟩, fun y => ?_⟩
  have heq : s'.executions = s₁.executions := (frame c.renewed .executions rfl).trans
    ((frame c.warmed .executions rfl).trans (frame c.started .executions rfl))
  rw [heq]
  exact updateExecution_overwritten c.confirmed y

theorem recordPhysicalOutcome_overwritten {st : ExecutionState} {handle payload : Option JsonValue}
    {c : Option FailureClass}
    (h : Runs env (recordPhysicalOutcome x st handle payload c tc qc) s u s') :
    (∃ e, s.executions.lookup x = some e ∧ physicalTransitionAllowed e.state st = true ∧
        (st.isUnresolved && (tc || qc)) = false) ∧
      ∀ y, s'.executions.lookup y =
        overwritten s.executions (some ⟨x, ExecutionRow.observed st handle payload c tc qc⟩) y := by
  unfold recordPhysicalOutcome at h
  obtain ⟨hproof, h⟩ := h.require_bind
  obtain ⟨e, he, h⟩ := h.fetch_bind
  obtain ⟨_, hcheck, h⟩ := h.examine_bind
  replace h := h.query_bind
  obtain ⟨_, s₂, hu, h⟩ := h.bind
  refine ⟨⟨e, he, requirePhysicalTransition_ok.mp hcheck, (Bool.not_eq_true' _).mp hproof⟩,
    fun y => ?_⟩
  have heq : s'.executions = s₂.executions := frame h .executions rfl
  rw [heq]
  exact updateExecution_overwritten hu y

theorem recordPendingPhysicalTerminal_overwritten {st : ExecutionState}
    {handle payload : Option JsonValue} {c : Option FailureClass}
    (h : Runs env (recordPendingPhysicalTerminal x st handle payload sm c qc r) s u s') :
    (∃ e, s.executions.lookup x = some e ∧ physicalTransitionAllowed e.state st = true ∧
        st.isEnded = true) ∧
      ∀ y, s'.executions.lookup y = overwritten s.executions
        (some ⟨x, ExecutionRow.collected st handle payload sm c qc r⟩) y := by
  unfold recordPendingPhysicalTerminal at h
  obtain ⟨hended, h⟩ := h.require_bind
  obtain ⟨e, he, h⟩ := h.fetch_bind
  obtain ⟨_, hcheck, h⟩ := h.examine_bind
  obtain ⟨_, s₂, hu, h⟩ := h.bind
  refine ⟨⟨e, he, requirePhysicalTransition_ok.mp hcheck, hended⟩, fun y => ?_⟩
  have heq : s'.executions = s₂.executions := frame h .executions rfl
  rw [heq]
  exact updateExecution_overwritten hu y

theorem recordRuntimeHandleHint_overwritten {handle : JsonValue}
    (h : Runs env (recordRuntimeHandleHint x handle) s u s') (y : ExecutionId) :
    s'.executions.lookup y =
      overwritten s.executions (some ⟨x, ExecutionRow.located handle⟩) y := by
  unfold recordRuntimeHandleHint at h
  obtain ⟨e, he, h⟩ := h.fetch_bind
  obtain ⟨_, s₂, hu, h⟩ := h.bind
  have heq : s'.executions = s₂.executions := frame h .executions rfl
  rw [heq]
  exact updateExecution_overwritten hu y

theorem cancelTask_overwritten {t : TaskId} (h : Runs env (cancelTask t q) s u s')
    (y : ExecutionId) :
    s'.executions.lookup y = overwritten s.executions (Op.physicalWrite s (.cancelTask t q)) y := by
  unfold cancelTask at h
  obtain ⟨task, ht, h⟩ := h.fetch_bind
  have hpick : s.cancelledExecution t = if task.state.isTerminal then none
      else task.currentAttemptId.bind fun a => s.executionOfAttempt a := by
    unfold Store.cancelledExecution
    rw [ht]
    rfl
  split at h
  · rename_i hterminal
    obtain ⟨-, rfl⟩ := h.pure
    have hterminal : task.state.isTerminal = true := by
      rcases hterminal with h | h <;> rw [h] <;> rfl
    simp [Op.physicalWrite, hpick, hterminal, overwritten]
  rename_i hopen
  have hopen : task.state.isTerminal = false := by
    cases hst : task.state <;> simp_all [TaskState.isTerminal]
  rw [hopen] at hpick
  obtain ⟨_, s₁, h₁, h⟩ := h.bind
  have heq : s'.executions = s₁.executions := frame h .executions rfl
  rw [heq]
  cases hc : task.currentAttemptId with
  | none =>
    rw [hc] at h₁ hpick
    obtain ⟨-, rfl⟩ := Tx.Runs.pure h₁
    simp [Op.physicalWrite, hpick, overwritten]
  | some a =>
    rw [hc] at h₁ hpick
    unfold cancelCurrentAttempt at h₁
    obtain ⟨attempt, ha, h₁⟩ := h₁.fetch_bind
    replace h₁ := executionForAttempt_bind h₁
    obtain ⟨_, s₂, h₂, h₁⟩ := h₁.bind
    obtain ⟨_, s₃, h₃, h₁⟩ := h₁.bind
    obtain ⟨_, s₄, h₄, h₁⟩ := h₁.bind
    have e₂ : s₂.executions = s.executions := frame h₂ .executions rfl
    have e₃ : s₃.executions = s₂.executions := frame h₃ .executions rfl
    have e₁ : s₁.executions = s₄.executions := frame h₁ .executions rfl
    rw [e₁, cancelExecution_overwritten h₄, e₃, e₂]
    have hpick : s.cancelledExecution t = s.executionOfAttempt a := hpick
    simp only [Op.physicalWrite, hpick]
    cases s.executionOfAttempt a with
    | none => rfl
    | some x => simp [rowQuiescent]

theorem parse_eq_cancelTask {operation : String} {op : EscalationOperation}
    (h : EscalationOperation.parse operation = .ok op) :
    op = .cancelTask ↔ operation = "cancel_task" := by
  unfold EscalationOperation.parse at h
  split at h
  · rename_i hop
    obtain rfl := Except.ok.inj h
    rw [hop]
    decide
  · split at h
    · rename_i hop
      obtain rfl := Except.ok.inj h
      exact iff_of_true rfl hop
    · rename_i hop
      split at h
      · obtain rfl := Except.ok.inj h
        exact iff_of_false EscalationOperation.noConfusion hop
      · cases h

/-- Only a decision that cancels the task cancels it. -/
theorem planEscalationResolution_cancelTask {snap : EscalationResolutionSnapshot}
    {op : EscalationOperation} {plan : EscalationResolutionPlan}
    (h : planEscalationResolution snap op q = .ok plan) :
    op = .cancelTask ↔ ∃ next resolve only, plan = .cancelTask next resolve only := by
  unfold planEscalationResolution at h
  split at h
  · cases h
  cases op with
  | cancelTask => exact iff_of_true rfl ⟨_, _, _, (Except.ok.inj h).symm⟩
  | releaseCancelledWriter | retry =>
    refine iff_of_false EscalationOperation.noConfusion ?_
    rintro ⟨next, resolve, only, rfl⟩
    dsimp only at h
    repeat' split at h
    all_goals cases h

/-- The physical part of a decision is to settle the presence behind an obligation. -/
theorem settlePresence_overwritten {action : EscalatedWriterPresenceAction} {p : EscalatedPresence}
    (h : Runs env (settlePresence action p q) s u s') (y : ExecutionId) :
    s'.executions.lookup y = overwritten s.executions (if action = .finalizePresence then
      p.executionId.map fun x => ⟨x, ExecutionRow.finalized p.frozenIsolation q⟩ else none) y := by
  rcases Tx.Runs.whenever h with ⟨hrun, h⟩ | ⟨hskip, rfl⟩
  · rw [if_pos (of_decide_eq_true hrun)]
    obtain ⟨_, s₁, h₁, h⟩ := Tx.Runs.bind h
    have heq : s'.executions = s₁.executions := frame h .executions rfl
    rw [heq]
    exact finalizeEscalatedExecution_overwritten h₁ y
  · rw [if_neg (of_decide_eq_false hskip)]
    rfl

theorem resolveEscalation_overwritten {id : EscalationId} {operation : String}
    (h : Runs env (resolveEscalation id operation q) s u s') (y : ExecutionId) :
    s'.executions.lookup y =
      overwritten s.executions (Op.physicalWrite s (.resolveEscalation id operation q)) y := by
  unfold resolveEscalation at h
  obtain ⟨op, hparse, h⟩ := h.examine_bind
  obtain ⟨row, hrow, h⟩ := h.fetch_bind
  obtain ⟨task, htask, h⟩ := h.fetch_bind
  obtain ⟨cause, hcause, h⟩ := h.examine_bind
  obtain ⟨plan, hplan, h⟩ := h.query_bind.examine_bind
  have hop := (planEscalationResolution_cancelTask hplan).symm.trans (parse_eq_cancelTask hparse)
  obtain ⟨-, hcases⟩ := planEscalationResolution_ok hplan
  have htag : cause.isWriterUnknown = true ↔ row.tag = writerUnknown := by
    rw [isWriterUnknown_iff, escalationCause_tag hcause]
  have hwrite : Op.physicalWrite s (.resolveEscalation id operation q) =
      if row.tag = writerUnknown ∧ operation ≠ "cancel_task" then
        (s.escalatedPresence row.taskId).executionId.map fun x =>
          ⟨x, ExecutionRow.finalized (s.escalatedPresence row.taskId).frozenIsolation q⟩
      else none := by
    simp only [Op.physicalWrite, hrow, Option.bind_eq_bind, Option.bind_some]
    cases (s.escalatedPresence row.taskId).executionId <;> simp
  rw [hwrite]
  rcases hcases with ⟨-, hu, -, rfl⟩ | ⟨-, -, rfl⟩ | rfl
  · have hne : operation ≠ "cancel_task" := fun hc => by
      obtain ⟨_, _, _, h⟩ := hop.mpr hc
      cases h
    rw [if_pos ⟨htag.mp hu, hne⟩]
    obtain ⟨_, s₁, h₁, h⟩ := Tx.Runs.bind h
    have heq : s'.executions = s₁.executions := frame h .executions rfl
    rw [heq, settlePresence_overwritten h₁]
    rfl
  · have hne : operation ≠ "cancel_task" := fun hc => by
      obtain ⟨_, _, _, h⟩ := hop.mpr hc
      cases h
    obtain ⟨_, s₁, h₁, h⟩ := Tx.Runs.bind h
    obtain ⟨_, s₂, h₂, h⟩ := h.bind
    obtain ⟨_, s₃, h₃, h⟩ := h.bind
    have e₁ : s₁.executions = s.executions := frame h₁ .executions rfl
    have e₂ : s₂.executions = s₁.executions := frame h₂ .executions rfl
    have heq : s'.executions = s₃.executions := frame h .executions rfl
    rw [heq, settlePresence_overwritten h₃, e₂, e₁]
    congr 1
    by_cases hu : cause.isWriterUnknown = true
    · rw [if_pos hu, if_pos rfl, if_pos ⟨htag.mp hu, hne⟩]
    · rw [if_neg hu, if_neg (by decide), if_neg fun h => hu (htag.mpr h.1)]
  · have hc : operation = "cancel_task" := hop.mp ⟨_, _, _, rfl⟩
    rw [if_neg fun h => h.2 hc]
    dsimp only [applyResolution] at h
    have heq : s'.executions = s.executions := frame h .executions rfl
    rw [heq]
    rfl

/-- Aborting before the adapter was called removes the row of the claim. -/
theorem abortBeforePhysicalStart_physical {st : TaskState}
    (h : Runs env (abortBeforePhysicalStart a ep x) s st s') :
    ∃ e, s.executionOfAttempt a = some (x, e) ∧ e.state = .starting ∧
      s'.executions = s.executions.erase x := by
  unfold abortBeforePhysicalStart at h
  obtain ⟨records, -, h⟩ := validateAuthorityTx_bind h
  obtain ⟨e, he, h⟩ := executionOfClaim_bind h
  obtain ⟨hstate, h⟩ := h.require_bind
  replace h := h.query_bind
  obtain ⟨-, h⟩ := h.require_bind
  obtain ⟨u, s₁, hd, h⟩ := h.bind
  obtain rfl := hd.eraseFrom
  refine ⟨e, he, of_decide_eq_true hstate, ?_⟩
  exact frame h .executions rfl

/-- The row of a new execution is the claim's own. -/
theorem Launch.row_fresh {claim : Claim} {r : ClaimRecords} {i : IncarnationId} {row : ExecutionRow}
    (hl : Launch env s s' claim x r i row)
    (hclaim : claim.taskId = r.attempt.taskId ∧ claim.executionTarget = r.attempt.executionTarget) :
    row.Fresh claim :=
  ⟨hl.attempt, hl.task.trans hclaim.1.symm, hl.target.trans hclaim.2.symm, hl.state, hl.terminal,
    hl.quiescent⟩

/-- **The executions after one operation.** -/
theorem exec_executions {op : Op} (h : Runs env op.exec s u s') : ExecutionsAfter s s' op := by
  cases op with
  | createExecution claim b =>
    obtain ⟨_, h⟩ := runs_of_effect h
    obtain ⟨x, r, i, row, hl, hclaim⟩ := createExecution_launch h
    exact .created rfl hl.fresh (hl.row_fresh hclaim) hl.executions
  | createExecutionWithSnapshot claim b x =>
    obtain ⟨_, h⟩ := runs_of_effect h
    obtain ⟨r, i, row, hl, hclaim⟩ := createExecutionWithSnapshot_launch h
    exact .created rfl hl.fresh (hl.row_fresh hclaim) hl.executions
  | abortBeforePhysicalStart a ep x =>
    obtain ⟨_, h⟩ := runs_of_effect h
    obtain ⟨e, he, hstate, heq⟩ := abortBeforePhysicalStart_physical h
    obtain ⟨hlook, hattempt⟩ := executionOfAttempt_eq_some.mp he
    exact .erased rfl hlook hattempt hstate fun y => by rw [heq, Table.lookup_erase]
  | confirmRunningAndRenew a ep x handle =>
    obtain ⟨_, h⟩ := runs_of_effect h
    obtain ⟨⟨e, he, hattempt, hactive⟩, hlook⟩ := confirmRunningAndRenew_overwritten h
    refine .written (fun w e' hw he' => ?_) hlook
    obtain rfl := Option.some.inj hw
    cases he.symm.trans he'
    exact ⟨hattempt, hactive⟩
  | recordPhysicalOutcome =>
    obtain ⟨⟨e, he, hguard⟩, hlook⟩ := recordPhysicalOutcome_overwritten h
    refine .written (fun w e' hw he' => ?_) hlook
    obtain rfl := Option.some.inj hw
    cases he.symm.trans he'
    exact hguard
  | recordPendingPhysicalTerminal =>
    obtain ⟨⟨e, he, hguard⟩, hlook⟩ := recordPendingPhysicalTerminal_overwritten h
    refine .written (fun w e' hw he' => ?_) hlook
    obtain rfl := Option.some.inj hw
    cases he.symm.trans he'
    exact hguard
  | recordRuntimeHandleHint =>
    exact .written (fun _ _ _ _ => trivial) (recordRuntimeHandleHint_overwritten h)
  | ackSuccess =>
    obtain ⟨_, h⟩ := runs_of_effect h
    exact .written (fun _ _ _ _ => trivial) (ackSuccess_overwritten h)
  | nack =>
    obtain ⟨_, h⟩ := runs_of_effect h
    exact .written (fun _ _ _ _ => trivial) (nack_overwritten h)
  | reportConfigurationUnavailable =>
    obtain ⟨_, h⟩ := runs_of_effect h
    exact .written (fun _ _ _ _ => trivial) (nack_overwritten h)
  | cancelTask => exact .written (fun _ _ _ _ => trivial) (cancelTask_overwritten h)
  | resolveEscalation =>
    exact .written (fun _ _ _ _ => trivial) (resolveEscalation_overwritten h)
  | _ =>
    refine .of_eq rfl ?_
    exact frame h .executions (by simp [Op.footprint])

end Agentype

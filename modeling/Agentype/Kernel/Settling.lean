import Agentype.Kernel.OpFootprint
import Agentype.Kernel.Reads

/-!
# `Agentype.Kernel.Settling` — what every settlement is made of

The operations that end claims (success, failure, abort, cancellation, expiry) are sequences of a
few shared statements. A relation between stores that allows each of these statements is therefore
respected by every settlement, and a property of whole histories is checked at the statements only.
The settlement of one claim parks the task of that claim and no other, and the failures it records
name that claim; a sweep may do so for any claim.

## Contents
- `Sees V R`: the relation looks at no table outside `V`, so whatever writes none of them is allowed.
- `SettleStep c x`: the statements of a settlement, about claim `c` or about any; `Settling R c`: the
  relation allows them.
- `Settling.exec`: then it is respected by every operation that settles claims.
- `settlesOne_of_exec`: an operation that is presented with a claim settles that claim.
- `Sees.claims`: the operations that grant a claim.
-/

namespace Agentype

open Relational Tx Store

variable {R : Env → Store → Store → Prop}

/-- The relation holds between stores that agree on the tables of `V`. -/
class Sees (V : outParam (List TableName)) (R : Env → Store → Store → Prop) : Prop where
  of_agree : ∀ env s s', (∀ n ∈ V, s'.table n = s.table n) → R env s s'

end Agentype

open Agentype in
/-- A transaction that writes no table the relation looks at. -/
theorem Relational.Tx.Respects.aside {R : Env → Store → Store → Prop} {V W : List TableName}
    {α : Type} {x : KernelTx α} [Touches W x] [hR : Sees V R]
    (hW : decide (∀ n ∈ V, n ∉ W) = true) : Respects R x :=
  fun env s _ s' h => hR.of_agree env s s' fun n hn =>
    frame_of_not_mem h _ (of_decide_eq_true hW n hn)

namespace Agentype

open Relational Tx Store

variable {R : Env → Store → Store → Prop}

/-- A settlement of one claim is about that claim, a sweep about any. -/
def About (c : Option (TaskId × AttemptId)) (t : TaskId) (a : AttemptId) : Prop :=
  ∀ x ∈ c, x = (t, a)

theorem About.any {t : TaskId} {a : AttemptId} : About none t a := nofun

/-- The statements that settlements are made of. -/
inductive SettleStep : Option (TaskId × AttemptId) → ∀ {α : Type}, KernelTx α → Prop
  | failure {c t a x k code sig detail} :
      About c t a → SettleStep c (recordFailure t (some a) x k code sig detail)
  | task {c t a f} : About c t a → Parks f → SettleStep c (updateTask t f)
  | wake {k b} : SettleStep k (releaseDependencies b)
  | attempt {k a st only} : st ≠ .active → SettleStep k (closeAttempt a st only)
  | lease {k l st only} : st ≠ .active → SettleStep k (closeLease l st only)
  | authority {k a} : SettleStep k (cancelAuthority a)
  | succeed {k p q x} : SettleStep k (succeedExecution p q x)
  | fail {k c tc qc x} : SettleStep k (nackExecution c tc qc x)
  | cancel {k q x} : SettleStep k (cancelExecution q x)
  | erase {k x} : SettleStep k (eraseFrom executionsT x : KernelTx Unit)
  | presence {k i st tc qc r} : SettleStep k (recordIncarnationPresence i st tc qc r)
  | lose {k i} : SettleStep k (loseIncarnation i)
  | release {k g} : SettleStep k (releaseAgent g)
  | suspend {k g} : SettleStep k (suspendAgent g)
  | result {k id r} : SettleStep k (insertInto resultsT constraintViolation id r : KernelTx Unit)
  | escalate {k t b g w cause sig detail} :
      SettleStep k (createEscalationWithCause t b g w cause sig detail)
  | batch {k b} : SettleStep k (recomputeBatch b)
  | decisions {b} : SettleStep none (updateIn escalationsT constraintViolation
      (fun _ e => decide (e.batchId = b) && decide (e.state = .opened) &&
        decide (e.tag ≠ .taskFailure .writerQuiescenceUnknown))
      fun e => { e with state := .cancelled } : KernelTx Unit)
  | drop {b} : SettleStep none (updateIn tasksT constraintViolation
      (fun _ t => decide (t.batchId = b) && !t.state.isTerminal)
      fun t => { t with state := .cancelled, currentAttemptId := none } : KernelTx Unit)
  | close {b} : SettleStep none (updateIn batchesT constraintViolation (fun k _ => decide (k = b))
      fun b => { b with state := .cancelled } : KernelTx Unit)

/-- The relation allows the statements of a settlement. -/
def Settling (R : Env → Store → Store → Prop) (c : Option (TaskId × AttemptId)) : Prop :=
  ∀ ⦃α : Type⦄ ⦃x : KernelTx α⦄, SettleStep c x → Respects R x

namespace Settling

variable [∀ env, IsPreorder Store (R env)] {k : Option (TaskId × AttemptId)} {a : AttemptId}
  {r : ClaimRecords} {c : FailureClass} {t : TaskId} {b : BatchId} {g : LogicalAgentId}
  {qc reusable : Bool} {row : ExpireRow} {p : JsonValue} {x : Option (ExecutionId × ExecutionRow)}

section Claims

variable (hR : Settling R k)
include hR

omit [∀ env, IsPreorder Store (R env)] in
theorem suspendOrRelease : Respects R (suspendOrRelease g qc) :=
  .ite (hR .suspend) (hR .release)

theorem suspendCurrent (hk : About k r.attempt.taskId a) {sig detail : Option String} :
    Respects R (suspendCurrent a r c sig detail) := by
  unfold Agentype.suspendCurrent createEscalation
  exact .bind (hR (.attempt nofun)) fun _ => .bind (hR (.lease nofun)) fun _ =>
    .bind (hR (.task hk fun _ => ⟨_, _, _, rfl⟩)) fun _ => .bind hR.suspendOrRelease fun _ =>
    .bind (hR .escalate) fun _ => hR .batch

theorem retryLater (hk : About k r.attempt.taskId a) : Respects R (retryLater a r) := by
  unfold Agentype.retryLater
  exact .bind .ask fun _ => .bind (hR (.attempt nofun)) fun _ => .bind (hR (.lease nofun)) fun _ =>
    .bind (hR (.task hk fun _ => ⟨_, _, _, rfl⟩)) fun _ => hR .release

theorem retryOrSuspend (hk : About k r.attempt.taskId a) : Respects R (retryOrSuspend a r c qc) :=
  .ite (.bind (hR.retryLater hk) fun _ => .pure _) (.bind (hR.suspendCurrent hk) fun _ => .pure _)

theorem ackComplete (hk : About k r.attempt.taskId a) {sm : Option String} :
    Respects R (ackComplete a r x p sm qc reusable) := by
  unfold Agentype.ackComplete
  exact .bind (.examine _) fun _ => .bind (hR .succeed) fun _ => .bind (hR .presence) fun _ =>
    .bind (hR (.attempt nofun)) fun _ => .bind (hR (.lease nofun)) fun _ =>
    .bind (hR (.task hk fun _ => ⟨_, _, _, rfl⟩)) fun _ => .bind (newId_respects _) fun _ =>
    .bind (hR .result) fun _ => .bind (hR .release) fun _ => .bind (hR .wake) fun _ =>
    .bind (hR .batch) fun _ => .pure _

theorem ackNotQuiescent (hk : About k r.attempt.taskId a) :
    Respects R (ackNotQuiescent a r x p) := by
  unfold Agentype.ackNotQuiescent
  exact .bind (hR .succeed) fun _ => .bind (hR .presence) fun _ =>
    .bind (hR (.failure hk)) fun _ => hR.suspendCurrent hk

theorem expireClaim (hk : About k row.taskId row.attemptId) : Respects R (expireClaim row) := by
  unfold Agentype.expireClaim
  refine .bind (.query _) fun fault => .bind (.require _ _) fun _ =>
    .bind (hR (.lease nofun)) fun _ => .bind (hR (.attempt nofun)) fun _ => ?_
  split
  · unfold expireFaulted
    exact .bind (.bind (hR (.task hk fun _ => ⟨_, _, _, rfl⟩)) fun _ => .bind (hR .release) fun _ =>
      .bind (hR .escalate) fun _ => hR .batch) fun _ => .pure _
  · unfold expireLost expireRetry expireSuspend createEscalation
    exact .bind (hR .lose) fun _ => .bind (hR (.failure hk)) fun _ => .ite
      (.bind (.bind .ask fun _ => .bind (hR .release) fun _ =>
        hR (.task hk fun _ => ⟨_, _, _, rfl⟩)) fun _ => .pure _)
      (.bind (.bind (hR (.task hk fun _ => ⟨_, _, _, rfl⟩)) fun _ => .bind hR.suspendOrRelease
        fun _ => .bind (hR .escalate) fun _ => hR .batch) fun _ => .pure _)

end Claims

section Sweeps

variable (hR : Settling R none)
include hR

theorem cancelAgent {w : Option WorkstreamId} {detail : String} :
    Respects R (cancelAgent t b w g qc detail) :=
  .ite (.bind (hR .suspend) fun _ => .bind (hR .escalate) fun _ => .pure _) (hR .release)

theorem cancelTask : Respects R (cancelTask t qc) := by
  unfold Agentype.cancelTask
  refine .bind (.fetch _ _) fun task => .ite (.pure _) (.bind ?_ fun _ =>
    .bind (hR (.task (a := t) .any fun _ => ⟨_, _, _, rfl⟩)) fun _ => hR .batch)
  unfold cancelCurrentAttempt
  split
  · exact .pure _
  · exact .bind (.fetch _ _) fun _ => .bind (executionForAttempt_respects _ _) fun _ =>
      .bind (hR .presence) fun _ => .bind (hR .authority) fun _ => .bind (hR .cancel) fun _ =>
      hR.cancelAgent

theorem cancelBatch : Respects R (cancelBatch b) := by
  unfold Agentype.cancelBatch cancelOpenBatch
  refine .bind (.fetch _ _) fun _ => .bind (.require _ _) fun _ => .ite (.pure _)
    (.bind (hR .decisions) fun _ => .bind (.query _) fun _ => .bind (.forM fun x _ => ?_) fun _ =>
      .bind (hR .drop) fun _ => hR .close)
  unfold cancelBatchAttempt
  exact .bind (executionForAttempt_respects _ _) fun _ => .bind (hR .presence) fun _ =>
    .bind (hR .authority) fun _ => hR.cancelAgent

theorem restoreMissingEscalations : Respects R restoreMissingEscalations := by
  unfold Agentype.restoreMissingEscalations restoreEscalation
  exact .bind (.query _) fun _ => .forM fun _ _ => .bind (.examine _) fun _ =>
    .bind (hR .escalate) fun _ => hR .batch

theorem expireLeases : Respects R (expireLeases qc) := by
  unfold Agentype.expireLeases
  exact .bind .ask fun _ => .bind (.query _) fun _ => .bind (.mapM fun _ _ => hR.expireClaim .any)
    fun _ => .bind hR.restoreMissingEscalations fun _ => .pure _

end Sweeps

end Settling

/-! ## Operations that name their claim -/

/-- The operations that settle the one claim they are presented with. -/
def Op.settlesClaim : Op → Option AttemptId
  | .ackSuccess a .. | .nack a .. | .nackPreservingPhysicalHistory a ..
  | .reportConfigurationUnavailable a _ | .abortBeforePhysicalStart a .. => some a
  | _ => none

section Operations

variable {env : Env} {s s' : Store} {a : AttemptId}

/-- The step is allowed by whatever allows the settlement of claim `a` of task `t`. -/
def SettlesOne (env : Env) (s s' : Store) (t : TaskId) (a : AttemptId) : Prop :=
  ∀ R : Env → Store → Store → Prop, [∀ env, IsPreorder Store (R env)] → Settling R (some (t, a)) →
    R env s s'

theorem About.self {t : TaskId} : About (some (t, a)) t a := by
  rintro _ ⟨⟩
  rfl

theorem settlesOne_of_nack {e : LeaseEpoch} {c : FailureClass} {x : Option ExecutionId}
    {tc qc reusable : Bool} {st : TaskState} (h : Runs env (nack a e c x tc qc reusable) s st s') :
    ∃ r, Authorized s a e env.now r ∧ SettlesOne env s s' r.attempt.taskId a := by
  unfold nack at h
  obtain ⟨r, hauth, h⟩ := validateAuthorityTx_bind h
  refine ⟨r, hauth, fun R _ hR => h.respects ?_⟩
  exact .bind (executionForAttempt_respects _ _) fun _ => .bind (hR (.failure .self)) fun _ =>
    .bind (hR .fail) fun _ => .bind (hR .presence) fun _ => hR.retryOrSuspend .self

/-- **One claim.** The operation is authorized, and it settles its claim. -/
theorem settlesOne_of_exec {op : Op} {u : Unit} (hop : op.settlesClaim = some a)
    (h : Runs env op.exec s u s') : ∃ r e, Authorized s a e env.now r ∧
      SettlesOne env s s' r.attempt.taskId a := by
  cases op with
  | ackSuccess a' e =>
    obtain rfl := Option.some.inj hop
    obtain ⟨q, h⟩ := runs_of_effect h
    unfold ackSuccess at h
    obtain ⟨r, hauth, h⟩ := validateAuthorityTx_bind h
    refine ⟨r, e, hauth, fun R _ hR => h.respects ?_⟩
    exact .bind (executionForAttempt_respects _ _) fun _ => .ite
      (.bind (hR.ackComplete .self) fun _ => .pure _)
      (.bind (hR.ackNotQuiescent .self) fun _ => .pure _)
  | nack a' e | reportConfigurationUnavailable a' e =>
    obtain rfl := Option.some.inj hop
    obtain ⟨q, h⟩ := runs_of_effect h
    obtain ⟨r, hauth, hrest⟩ := settlesOne_of_nack h
    exact ⟨r, e, hauth, hrest⟩
  | nackPreservingPhysicalHistory a' e =>
    obtain rfl := Option.some.inj hop
    obtain ⟨q, h⟩ := runs_of_effect h
    unfold nackPreservingPhysicalHistory at h
    obtain ⟨r, hauth, h⟩ := validateAuthorityTx_bind h
    refine ⟨r, e, hauth, fun R _ hR => h.respects ?_⟩
    exact .bind (executionForAttempt_respects _ _) fun _ => .bind (hR (.failure .self)) fun _ =>
      .bind (hR .presence) fun _ => hR.retryOrSuspend .self
  | abortBeforePhysicalStart a' e x =>
    obtain rfl := Option.some.inj hop
    obtain ⟨q, h⟩ := runs_of_effect h
    unfold abortBeforePhysicalStart at h
    obtain ⟨r, hauth, h⟩ := validateAuthorityTx_bind h
    obtain ⟨row, -, h⟩ := executionOfClaim_bind h
    refine ⟨r, e, hauth, fun R _ hR => h.respects ?_⟩
    exact .bind (.require _ _) fun _ => .bind (.query _) fun _ => .bind (.require _ _) fun _ =>
      .bind (hR .erase) fun _ => .bind (hR (.attempt nofun)) fun _ =>
      .bind (hR (.lease nofun)) fun _ => .bind (hR (.task .self fun _ => ⟨_, _, _, rfl⟩)) fun _ =>
      .bind (hR .release) fun _ => .pure _
  | _ => cases hop

end Operations

/-- The operations that settle claims. -/
def Op.settles : Op → Bool
  | .ackSuccess .. | .nack .. | .nackPreservingPhysicalHistory ..
  | .reportConfigurationUnavailable .. | .abortBeforePhysicalStart .. | .cancelTask ..
  | .cancelBatch .. | .expireLeases .. => true
  | _ => false

/-- **Settlements.** A relation that allows the statements of a settlement is respected by every
    operation that settles claims. -/
theorem Settling.exec [∀ env, IsPreorder Store (R env)] (hR : ∀ k, Settling R k) {op : Op}
    (h : op.settles = true) : Respects R op.exec := by
  have hone : ∀ {a}, op.settlesClaim = some a → Respects R op.exec := by
    intro a hop env s u s' hrun
    obtain ⟨r, e, -, hone⟩ := settlesOne_of_exec hop hrun
    exact hone R (hR _)
  cases op with
  | cancelTask => exact (hR none).cancelTask
  | cancelBatch => exact (hR none).cancelBatch
  | expireLeases => exact .bind (hR none).expireLeases fun _ => .pure _
  | ackSuccess | nack | reportConfigurationUnavailable | nackPreservingPhysicalHistory
  | abortBeforePhysicalStart => exact hone rfl
  | _ => exact absurd h Bool.false_ne_true

/-! ## Operations that grant a claim -/

/-- The operations that grant a claim. -/
def Op.claims : Op → Bool
  | .claimNextAvailable | .acquireTypedTaskExisting .. | .acquireTypedTaskNewAgent .. => true
  | _ => false

section Grants

variable [∀ env, IsPreorder Store (R env)] {V : List TableName} [Sees V R]
  (hV : ∀ n ∈ V, n ∉ [TableName.incarnations, .provisioningBindings, .logicalAgents,
    .logicalAgentTypeBindings])
  (hclaim : ∀ g p row t task, Respects R (claimSelected g p row t task))
include hV hclaim

/-- **Grants.** A relation that does not look at agents and their hosts is respected by every grant
    once it allows the claim proper. -/
theorem Sees.claims {op : Op} (hop : op.claims = true) : Respects R op.exec := by
  have haside : ∀ {α : Type} {W : List TableName} {x : KernelTx α} [Touches W x],
      W ⊆ [.incarnations, .provisioningBindings, .logicalAgents, .logicalAgentTypeBindings] →
      Respects R x :=
    fun hW => .aside (decide_eq_true fun n hn hnW => hV n hn (hW hnW))
  have hfinish : ∀ t g sel contract, Respects R (finishAcquisition t g sel contract) :=
    fun _ _ _ _ => finishAcquisition_respects
      (fun _ _ => haside (by decide))
      (fun _ _ _ => haside (by decide))
      fun _ _ _ => hclaim _ _ _ _ _
  cases op with
  | claimNextAvailable => exact .bind (claimNextAvailable_respects hclaim) fun _ => .pure _
  | acquireTypedTaskExisting => exact .bind (hfinish _ _ _ _) fun _ => .pure _
  | acquireTypedTaskNewAgent =>
    exact .bind (acquireTypedTaskNewAgent_respects
      (fun _ _ _ => haside (by decide))
      (fun _ _ => haside (by decide))
      fun _ => hfinish _ _ _ _) fun _ => .pure _
  | _ => cases hop

end Grants

end Agentype

import Agentype.Contract.Ledger

/-!
# `Agentype.Contract.Suspension` — a suspended task waits for the root

A suspended task leaves its state by a decision of the root or by a cancellation, and by nothing
else: the other operations write tasks they have just claimed, woken or held.

## Contents
- `KeepsSuspended`: suspended tasks stay suspended; `SuspendedBut t`: all but task `t` do.
- `exec_suspended`: every operation but decisions and cancellations keeps them.
-/

namespace Agentype

open Relational Tx Store Board

variable {env : Env} {s s' : Store}

/-- Suspended tasks other than `t` stay suspended. -/
def SuspendedBut (t : Option TaskId) (_ : Env) (s s' : Store) : Prop :=
  Table.Evolves (fun k v v' => some k ≠ t → v.state = .suspended → v'.state = .suspended)
    s.tasks s'.tasks

abbrev KeepsSuspended : Env → Store → Store → Prop := SuspendedBut none

instance (t : Option TaskId) (env : Env) : IsPreorder Store (SuspendedBut t env) where
  refl s := .of_refl (fun _ _ _ hst => hst) s.tasks
  trans _ _ _ h h' := .comp (fun _ _ _ _ hfst hsnd hk hst => hsnd hk (hfst hk hst)) h h'

instance {t : Option TaskId} : Sees [.tasks] (SuspendedBut t) := by
  constructor
  intro env s s' h
  have hsame : s'.tasks = s.tasks := h .tasks (by decide)
  rw [SuspendedBut, hsame]
  exact .of_refl (fun _ _ _ hst => hst) s.tasks

theorem suspended_tasks {t : Option TaskId} : tasksT.Allows (SuspendedBut t) fun _ k v v' =>
    some k ≠ t → v.state = .suspended → v'.state = .suspended :=
  ⟨fun _ _ _ _ hst => hst, fun h => h⟩

theorem insertTask_suspended (id : TaskId) (spec : TaskSpec) (b : BatchId) (st : TaskState)
    (mode : AgentRequirementMode) : Respects KeepsSuspended (insertTask id spec b st mode) :=
  insertTask_respects fun _ => suspended_tasks.insert

/-! ## Claims, submissions and upkeep -/

section Operations

theorem claimSelected_suspended (g : LogicalAgentId) (p : PartitionId) (row : PartitionRow)
    (t : TaskId) (task : TaskRow) : Respects KeepsSuspended (claimSelected g p row t task) := by
  refine claimSelected_respects (fun _ _ => .aside rfl) (fun _ _ => .aside rfl)
    (fun _ _ => suspended_tasks.update ?_) fun _ _ => .aside rfl
  -- only a queued task is claimed
  intro env k r hp _ hst
  have hqueued := of_decide_eq_true (Bool.and_eq_true_iff.mp hp).2
  rw [hst] at hqueued
  cases hqueued

theorem submitBatch_suspended (specs : List TaskSpec) :
    Respects KeepsSuspended (submitBatch specs) :=
  submitBatch_respects (fun _ _ => .aside rfl) insertTask_suspended fun _ _ => .aside rfl

theorem admitProposal_suspended (verdict : Except Error (Option TaskId)) (spec : TaskSpec)
    (draft : Option (Except Error AgentTypeRef)) :
    Respects KeepsSuspended (admitProposal verdict spec draft) :=
  admitProposal_respects (fun _ _ => .aside rfl) (fun _ _ _ _ => insertTask_suspended _ _ _ _ _)
    fun _ _ => .aside rfl

theorem mergePartitions_suspended (p q : PartitionId) :
    Respects KeepsSuspended (mergePartitions p q) :=
  mergePartitions_respects (.aside rfl) (suspended_tasks.update fun _ _ _ _ _ hst => hst)
    (fun _ _ => .aside rfl) (fun _ _ => .aside rfl) fun _ _ => .aside rfl

theorem promoteRetryWait_suspended : Respects KeepsSuspended promoteRetryWait := by
  unfold promoteRetryWait
  refine .bind .ask fun env => .bind (.query _) fun _ => .bind (suspended_tasks.update ?_) fun _ =>
    .pure _
  intro _ k r hp _ hst
  have hdue : r.retryDue env.now = true := hp
  simp [TaskRow.retryDue, hst] at hdue

/-- The task of a held claim is not suspended. -/
theorem Authorized.not_suspended {a : AttemptId} {e : LeaseEpoch} {r : ClaimRecords} {v : TaskRow}
    (hs : s.board.Sound) (h : Authorized s a e env.now r)
    (hv : s.tasks.lookup r.attempt.taskId = some v) : v.state ≠ .suspended := by
  cases h.task.symm.trans hv
  have hassigned : r.task.view.state.isAssigned = true :=
    hs.coherent.holding_assigned h.held.holding
  intro hst
  have hview : r.task.view.state = r.task.state := rfl
  rw [hview, hst] at hassigned
  cases hassigned

/-- A step about a held claim suspends no less: its task was not suspended. -/
theorem SuspendedBut.held {a : AttemptId} {e : LeaseEpoch} {r : ClaimRecords} (hs : s.board.Sound)
    (hauth : Authorized s a e env.now r) (h : SuspendedBut (some r.attempt.taskId) env s s') :
    KeepsSuspended env s s' := by
  intro k v hv
  obtain ⟨v', hv', hkeep⟩ := h k v hv
  refine ⟨v', hv', fun _ hst => hkeep (fun heq => ?_) hst⟩
  obtain rfl := Option.some.inj heq
  exact hauth.not_suspended hs hv hst

theorem confirmRunningAndRenew_suspended {a : AttemptId} {e : LeaseEpoch} {x : ExecutionId}
    {handle : JsonValue} {g : RunningAuthorityGrant} (hs : s.board.Sound)
    (h : Runs env (confirmRunningAndRenew a e x handle) s g s') : KeepsSuspended env s s' := by
  unfold confirmRunningAndRenew at h
  obtain ⟨r, hauth, h⟩ := validateAuthorityTx_bind h.ask_bind
  obtain ⟨row, -, h⟩ := executionOfClaim_bind h
  have hbut : SuspendedBut (some r.attempt.taskId) env s s' := by
    refine h.respects (.bind (.require _ _) fun _ => .bind (.aside rfl) fun _ =>
      .bind (suspended_tasks.update ?_) fun _ => .aside rfl)
    intro _ k _ hp hk
    have hkey := of_decide_eq_true (Bool.and_eq_true_iff.mp hp).1
    exact absurd (congrArg some hkey) hk
  exact .held hs hauth hbut

end Operations

/-! ## Settlements -/

/-- The settlement of one claim leaves the suspensions of other tasks alone. -/
theorem settling_suspended (t : TaskId) (a : AttemptId) :
    Settling (SuspendedBut (some t)) (some (t, a)) := by
  intro α x hx
  cases hx with
  | task hk _ =>
    cases hk _ rfl
    refine suspended_tasks.update fun _ k r hp hk => ?_
    exact absurd (congrArg some (of_decide_eq_true hp)) hk
  | wake =>
    unfold releaseDependencies
    refine .bind (.query _) fun _ => .forM fun t' _ => suspended_tasks.update ?_
    intro _ k r hp _ hst
    have hblocked := of_decide_eq_true (Bool.and_eq_true_iff.mp hp).2
    rw [hst] at hblocked
    cases hblocked
  | _ => exact .aside rfl

theorem expireLeases_suspended {recover : Bool} {report : ExpireReport} (hs : s.board.Sound)
    (h : Runs env (expireLeases recover) s report s') : KeepsSuspended env s s' := by
  refine expireLeases_induction (P := KeepsSuspended env s) hs h (refl_of (SuspendedBut none env) s)
    ?_ ?_
  · intro row lease retried s₁ s₂ _ hs₁ hP htask hheld hrun k v hv
    obtain ⟨v₁, hv₁, hst₁⟩ := hP k v hv
    obtain ⟨v₂, hv₂, hst₂⟩ :=
      hrun.respects ((settling_suspended row.taskId row.attemptId).expireClaim .self) k v₁ hv₁
    refine ⟨v₂, hv₂, fun hk hst => hst₂ (fun heq => ?_) (hst₁ hk hst)⟩
    -- the task of the claim is held, so it was not suspended
    obtain ⟨task, hlookup, -, hassigned⟩ := hheld.taskRow hs₁
    have hkey : k = row.attempt.taskId := (Option.some.inj heq).trans htask
    rw [hkey] at hv₁
    cases hv₁.symm.trans hlookup
    rw [hst₁ hk hst] at hassigned
    cases hassigned
  · intro s₁ u _ hP hrun
    exact trans_of (SuspendedBut none env) hP
      (hrun.respects (.aside rfl))

/-! ## Every operation -/

/-- The operations that may end a suspension: decisions and cancellations. -/
def Op.decides : Op → Bool
  | .resolveEscalation .. | .cancelTask .. | .cancelBatch .. => true
  | _ => false

/-- **Suspended tasks wait.** Only a decision or a cancellation ends a suspension. -/
theorem exec_suspended {op : Op} {u : Unit} (hs : s.board.Sound) (hop : op.decides = false)
    (h : Runs env op.exec s u s') : KeepsSuspended env s s' := by
  have hone : ∀ {a : AttemptId}, op.settlesClaim = some a → KeepsSuspended env s s' := by
    intro a ha
    obtain ⟨r, e, hauth, hone⟩ := settlesOne_of_exec ha h
    exact .held hs hauth (hone _ (settling_suspended _ a))
  have heffect : ∀ {α : Type} {x : KernelTx α}, op.exec = effect x → Respects KeepsSuspended x →
      KeepsSuspended env s s' := by
    intro α x hx hrespects
    rw [hx] at h
    exact h.respects (.bind hrespects fun _ => .pure _)
  cases op with
  | mergePartitions => exact heffect rfl (mergePartitions_suspended _ _)
  | submitBatch => exact heffect rfl (submitBatch_suspended _)
  | admitProposal => exact heffect rfl (admitProposal_suspended _ _ _)
  | claimNextAvailable | acquireTypedTaskExisting | acquireTypedTaskNewAgent =>
    exact h.respects (Sees.claims (by decide) claimSelected_suspended rfl)
  | promoteRetryWait => exact heffect rfl promoteRetryWait_suspended
  | confirmRunningAndRenew =>
    obtain ⟨g, h⟩ := runs_of_effect h
    exact confirmRunningAndRenew_suspended hs h
  | ackSuccess | nack | reportConfigurationUnavailable | nackPreservingPhysicalHistory
  | abortBeforePhysicalStart => exact hone rfl
  | expireLeases =>
    obtain ⟨report, h⟩ := runs_of_effect h
    exact expireLeases_suspended hs h
  | resolveEscalation | cancelTask | cancelBatch => cases hop
  | _ => exact h.respects (.aside (by simp [Op.footprint]))

end Agentype

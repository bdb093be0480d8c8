import Agentype.Scheduler.Selection
import Agentype.Scheduler.Settle

/-!
# `Agentype.Scheduler.Grant` — granting a claim and keeping it alive

A claim is granted on the legacy path to the best ready agent and on the typed path to a named one;
both end in the same statements and are one `claim` of the machine. Everything that happens to a
claim while its holder works on it is invisible on the board, except that a leased task starts
running.

## Contents
- `claimSelected_step`; the operations that grant a claim.
- `TasksMove` from an `UPDATE` of task states; confirmation, renewal, retry promotion.
- The operations the board does not show.
-/

namespace Agentype

open Relational Tx Store Board

variable {env : Env} {s s' s₁ s₂ : Store}
variable {g : LogicalAgentId} {t : TaskId} {a : AttemptId} {e : LeaseEpoch} {x : ExecutionId}
  {claim : Claim} {b : FrozenPhysicalExecutionBinding} {r : ExecutionLaunchSnapshot}

/-! ## Granting -/

/-- **A claim.** A queued task and a ready idle agent get a fresh attempt and a fresh lease. -/
theorem claimSelected_step {p : PartitionId} {prow : PartitionRow} {task : TaskRow} {c : Claim}
    {u : AgentView} (ht : s.board.task t = some task.view) (hq : task.state = .queued)
    (hg : s.board.agent g = some u) (hr : u.state = .ready) (hi : u.current = none)
    (h : Runs env (claimSelected g p prow t task) s c s') : Step s.board s'.board := by
  have hc := claimSelected_runs h
  obtain ⟨hattempt, hviewAttempts⟩ := Table.view_of_insert (f := AttemptRow.view) hc.attempts
  obtain ⟨hlease, hviewLeases⟩ := Table.view_of_insert (f := LeaseRow.view) hc.leases
  have hviewTasks : s'.tasks.view TaskRow.view = Function.update s.board.task t
      (some { task.view with
        state := .leased, current := some c.attemptId, fencing := task.fencingEpoch + 1 }) := by
    refine Table.view_of_update_view hc.tasks ht (fun row hrow => ⟨?_, ?_⟩) fun k' r' hp => ?_
    · have hst : row.state = .queued := (congrArg TaskView.state hrow).trans hq
      exact (Bool.and_eq_true _ _).mpr ⟨decide_eq_true rfl, decide_eq_true hst⟩
    · have hbatch : row.batchId = task.batchId := congrArg TaskView.batch hrow
      show (⟨row.batchId, _, _, _⟩ : TaskView) = ⟨task.batchId, _, _, _⟩
      rw [hbatch]
      rfl
    · exact of_decide_eq_true ((Bool.and_eq_true _ _).mp hp).1
  have hviewAgents : s'.logicalAgents.view AgentRow.view =
      Function.update s.board.agent g (some ⟨.assigned, some t⟩) := by
    refine Table.view_of_update_view hc.agents hg (fun row hrow => ⟨?_, rfl⟩) fun k' r' hp => ?_
    · have hst : row.state = .ready := (congrArg AgentView.state hrow).trans hr
      exact (Bool.and_eq_true _ _).mpr ⟨decide_eq_true rfl, decide_eq_true hst⟩
    · exact of_decide_eq_true ((Bool.and_eq_true _ _).mp hp).1
  have hb : s'.board = s.board.claim t task.view c.attemptId c.leaseId g := by
    rw [hc.rest]
    show (((s.board.withAttempts (s'.attempts.view AttemptRow.view)).withLeases
      (s'.leases.view LeaseRow.view)).withTasks (s'.tasks.view TaskRow.view)).withAgents
        (s'.logicalAgents.view AgentRow.view) = _
    rw [hviewAttempts, hviewLeases, hviewTasks, hviewAgents]
    rfl
  rw [hb]
  exact .claim ht hq hg hr hi hattempt hlease

theorem claimNextAvailable_steps {c : Option Claim} (h : Runs env claimNextAvailable s c s') :
    Steps s.board s'.board := by
  rcases claimNextAvailable_runs h with ⟨-, rfl, -⟩ | ⟨t, task, g, prow, claim, -, hsel, h⟩
  · exact .refl
  · obtain ⟨⟨hawaits, -⟩, ⟨row, hrow, -⟩, -⟩ := selectClaim_best hsel
    exact .single (claimSelected_step (Table.view_of_lookup hawaits.1) hawaits.queued
      (Table.view_of_lookup hrow.row) hrow.ready hrow.idle h)

/-! ## Typed acquisition -/

theorem bindLogicalAgentType_invisible {ref : AgentTypeRef} {verdict : Except Error Unit} :
    Respects Invisible (bindLogicalAgentType g ref verdict) := by
  unfold bindLogicalAgentType
  exact .bind (.fetch _ _) fun _ => .bind (.require _ _) fun _ => .bind (.require _ _) fun _ =>
    .bind (.examine _) fun _ => .bind (shown_agents.invisible fun _ => rfl) fun _ => .aside rfl

theorem finishAcquisition_step {sel : ProvisioningSelection} {contract : Except Error Unit}
    {r : TypedAcquisition} (h : Runs env (finishAcquisition t g sel contract) s r s') :
    Step s.board s'.board := by
  obtain ⟨task, agent, prow, _, _, _, s₁, s₂, htask, hq, hagent, hready, hidle, h₁, h₂, h₃⟩ :=
    finishAcquisition_runs h
  have hb : s₂.board = s.board := by rw [board_frame h₂ rfl, board_frame h₁ rfl]
  have hv : s.board.task t = some task.view := Table.view_of_lookup htask
  have hu : s.board.agent g = some agent.view := Table.view_of_lookup hagent
  rw [← hb] at hv hu ⊢
  exact claimSelected_step hv hq hu hready hidle h₃

theorem acquireTypedTaskNewAgent_steps {sel : ProvisioningSelection}
    {typeVerdict contract : Except Error Unit} {r : TypedAcquisition}
    (h : Runs env (acquireTypedTaskNewAgent t sel typeVerdict contract) s r s') :
    Steps s.board s'.board := by
  obtain ⟨_, _, _, _, g, s₁, s₂, h₁, h₂, h₃⟩ := acquireTypedTaskNewAgent_runs h
  have hbirth : Step s.board s₁.board := (birthAgent_reshapes h₁).agents.step
  have hbind : s₂.board = s₁.board := h₂.respects bindLogicalAgentType_invisible
  have hclaim := finishAcquisition_step h₃
  rw [hbind] at hclaim
  exact .tail (.single hbirth) hclaim

/-! ## Work in progress -/

/-- An `UPDATE` that only advances task states. -/
theorem tasksMove_of_update {c : TaskId → TaskRow → Bool} {f : TaskRow → TaskRow}
    {t' : Table taskSchema} (h : s.tasks.update c f = some t')
    (hf : ∀ k row, s.tasks.lookup k = some row → c k row = true → ∃ st,
      (f row).view = { row.view with state := st } ∧ TaskState.advances row.state st = true) :
    TasksMove s.board.task (t'.view TaskRow.view) := by
  refine ⟨fun t v hv => ?_, fun t hnone => ?_⟩
  · obtain ⟨row, hrow, rfl⟩ := Table.view_eq_some.mp hv
    have hl := Table.lookup_of_update h t
    rw [hrow, Option.map_some] at hl
    unfold Table.updateRow at hl
    split at hl
    · rename_i hc
      obtain ⟨st, hview, hadv⟩ := hf t row hrow hc
      exact ⟨st, by rw [Table.view_of_lookup hl, hview], hadv⟩
    · refine ⟨row.state, Table.view_of_lookup hl, ?_⟩
      show TaskState.advances row.state row.state = true
      cases row.state <;> decide
  · rw [Table.view_eq_none, Table.lookup_of_update h, Table.view_eq_none.mp hnone]
    rfl

theorem renewLease_invisible {l : LeaseId} {p : LeaseRow → Bool} :
    Respects Invisible (renewLease l p) := by
  unfold renewLease
  exact .bind .ask fun _ => .bind (shown_leases.invisible fun _ => rfl) fun _ => .pure _

/-- A leased task starts running. -/
theorem confirmRunningAndRenew_step {handle : JsonValue} {r : RunningAuthorityGrant}
    (hs : s.board.Sound) (h : Runs env (confirmRunningAndRenew a e x handle) s r s') :
    Step s.board s'.board := by
  obtain ⟨_, _, s₁, _, s₂, _, c, -⟩ := confirmRunningAndRenew_runs h
  have hb₁ := board_frame c.confirmed rfl
  rw [← hb₁] at hs ⊢
  obtain ⟨t', ht', rfl⟩ := c.started.updateIn
  have hb : s'.board = s₁.board.withTasks (t'.view TaskRow.view) := by
    have hb₃ : s'.board = s₂.board := c.renewed.respects renewLease_invisible
    rw [hb₃, board_frame c.warmed rfl]
    rfl
  rw [hb]
  refine .tasks (tasksMove_of_update ht' fun k task htask hc => ⟨.running, rfl, ?_⟩)
  -- a task that names a current attempt is leased or already running
  have hcur : task.view.current = some a :=
    of_decide_eq_true ((Bool.and_eq_true _ _).mp hc).2
  have hassigned : task.state.isAssigned = true :=
    (hs.coherent.assigned_iff k _ (Table.view_of_lookup htask)).mpr (by rw [hcur]; rfl)
  revert hassigned
  cases task.state <;> decide

theorem promoteRetryWait_step {n : Nat} (h : Runs env promoteRetryWait s n s') :
    Step s.board s'.board := by
  unfold promoteRetryWait at h
  obtain ⟨t', ht', h⟩ := h.ask_bind.query_bind.updateIn_bind
  obtain ⟨-, rfl⟩ := h.pure
  refine .tasks (tasksMove_of_update ht' fun k task _ hc => ⟨.queued, rfl, ?_⟩)
  unfold TaskRow.retryDue at hc
  rw [of_decide_eq_true ((Bool.and_eq_true _ _).mp hc).1]
  rfl

/-! ## What the board does not show -/

theorem createExecutionInTx_invisible (claim : Claim) (b : FrozenPhysicalExecutionBinding)
    (x : ExecutionId) (desc : Option String) :
    Respects Invisible (createExecutionInTx claim b x desc) :=
  createExecutionInTx_respects (fun _ => .aside rfl)
    (fun _ _ => shown_attempts.invisible fun _ => rfl) fun _ => .aside rfl

theorem createExecutionWithSnapshot_invisible (claim : Claim) (b : FrozenPhysicalExecutionBinding)
    (x : ExecutionId) (desc : String) (snap : BindingSnapshot) (catalog : Except Error Unit) :
    Respects Invisible (createExecutionWithSnapshot claim b x desc snap catalog) :=
  createExecutionWithSnapshot_respects (createExecutionInTx_invisible _ _ _ _) (.aside rfl)
    (.aside rfl)

theorem heartbeat_invisible (a : AttemptId) (e : LeaseEpoch) :
    Respects Invisible (heartbeat a e) := by
  unfold heartbeat
  exact .bind (validateAuthorityTx_respects _ _) fun _ => .bind (.query _) fun _ =>
    .bind (.require _ _) fun _ => renewLease_invisible

theorem renewSupervisedExecutionGuarded_invisible (a : AttemptId) (e : LeaseEpoch)
    (x : ExecutionId) (fresh : UnixTime) :
    Respects Invisible (renewSupervisedExecutionGuarded a e x fresh) := by
  unfold renewSupervisedExecutionGuarded renewFresh renewRunning
  exact .bind .ask fun _ => .ite (.pure _) (.bind (validateAuthorityTx_respects _ _) fun _ =>
    .bind (.aside rfl) fun _ => .ite (.bind renewLease_invisible fun _ => .pure _) (.pure _))

theorem promoteCheckpoint_invisible (a : AttemptId) (e : LeaseEpoch) (capsule : JsonValue) :
    Respects Invisible (promoteCheckpoint a e capsule) := by
  unfold promoteCheckpoint promoteCheckpointTx
  refine .bind (validateAuthorityTx_respects _ _) fun _ => .bind .ask fun _ =>
    .bind (.orFail _ _) fun _ => ?_
  split
  · exact .fail _
  · exact .bind (.require _ _) fun _ => .bind (.fetch _ _) fun _ => .bind (.aside rfl) fun _ =>
      .bind (.aside rfl) fun _ => .bind (shown_agents.invisible fun _ => rfl) fun _ => .pure _

theorem ackResult_invisible (id : ResultId) (consumer : String) :
    Respects Invisible (ackResult id consumer) := by
  unfold ackResult
  exact .bind (.fetch _ _) fun _ => .whenever (shown_results.invisible fun _ => rfl)

end Agentype

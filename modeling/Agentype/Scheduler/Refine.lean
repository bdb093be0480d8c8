import Agentype.Scheduler.Resolve

/-!
# `Agentype.Scheduler.Refine` — the kernel refines the scheduler

Every committed call of the kernel is a run of the abstract machine on the board of its store. So
the invariants of the machine hold of every store that a history of calls reaches from the empty
one, whatever the calls, their arguments, their environments and their order.

## Contents
- `exec_refines`: one call.
- `Store.after_refines`, `Store.after_sound`: whole histories.
-/

namespace Agentype

open Relational Tx Store Board

variable {env : Env} {s s' : Store}

/-- **One call.** A committed operation is a run of the machine on the board. -/
theorem exec_refines (op : Op) {u : Unit} (hs : s.board.Sound) (h : Runs env op.exec s u s') :
    Steps s.board s'.board := by
  have hframe : (∀ n ∈ boardTables, n ∉ op.footprint) → Steps s.board s'.board := fun hW => by
    rw [board_frame h (decide_eq_true hW)]
  have hinvisible : Respects Invisible op.exec → Steps s.board s'.board := fun hop => by
    rw [show s'.board = s.board from h.respects hop]
  cases op with
  | upsertPartition | createWorkstream | resizePartition | resolveExecutionBinding
  | recordPhysicalOutcome | recordRuntimeHandleHint | recordPendingPhysicalTerminal
  | recordPreparationFault | ackOutbox | markOutboxDelivered | commitOutboxDeliverySuccess
  | commitOutboxDeliveryFailure => exact hframe (by simp [Op.footprint])
  | reconcilePool =>
    obtain ⟨r, h⟩ := runs_of_effect h
    exact .single (reconcilePool_reshapes hs h).agents.step
  | moveCapacity =>
    obtain ⟨r, h⟩ := runs_of_effect h
    exact .single (moveCapacity_reshapes hs h).agents.step
  | mergePartitions =>
    obtain ⟨r, h⟩ := runs_of_effect h
    exact .single (mergePartitions_reshapes hs h).agents.step
  | retirePartition =>
    obtain ⟨r, h⟩ := runs_of_effect h
    exact .single (retirePartition_reshapes hs h).agents.step
  | submitBatch =>
    obtain ⟨r, h⟩ := runs_of_effect h
    exact .single (submitBatch_step h)
  | admitProposal =>
    obtain ⟨r, h⟩ := runs_of_effect h
    exact admitProposal_steps h
  | ensureTaskConsumers => exact .single (ensureTaskConsumers_reshapes h).agents.step
  | claimNextAvailable =>
    obtain ⟨r, h⟩ := runs_of_effect h
    exact claimNextAvailable_steps h
  | bindLogicalAgentType => exact hinvisible bindLogicalAgentType_invisible
  | acquireTypedTaskExisting =>
    obtain ⟨r, h⟩ := runs_of_effect h
    exact .single (finishAcquisition_step h)
  | acquireTypedTaskNewAgent =>
    obtain ⟨r, h⟩ := runs_of_effect h
    exact acquireTypedTaskNewAgent_steps h
  | createExecution =>
    exact hinvisible (.bind (.bind (.aside rfl) fun _ => createExecutionInTx_invisible _ _ _ _)
      fun _ => .pure _)
  | createExecutionWithSnapshot =>
    exact hinvisible (.bind (createExecutionWithSnapshot_invisible _ _ _ _ _ _) fun _ => .pure _)
  | confirmRunningAndRenew =>
    obtain ⟨r, h⟩ := runs_of_effect h
    exact .single (confirmRunningAndRenew_step hs h)
  | heartbeat =>
    exact hinvisible (.bind (heartbeat_invisible _ _) fun _ => .pure _)
  | renewSupervisedExecutionGuarded =>
    exact hinvisible (.bind (renewSupervisedExecutionGuarded_invisible _ _ _ _) fun _ => .pure _)
  | promoteCheckpoint =>
    exact hinvisible (.bind (promoteCheckpoint_invisible _ _ _) fun _ => .pure _)
  | ackSuccess =>
    obtain ⟨r, h⟩ := runs_of_effect h
    exact .single (ackSuccess_step hs h)
  | nack | reportConfigurationUnavailable =>
    obtain ⟨r, h⟩ := runs_of_effect h
    exact .single (nack_step hs h)
  | nackPreservingPhysicalHistory =>
    obtain ⟨r, h⟩ := runs_of_effect h
    exact .single (nackPreservingPhysicalHistory_step hs h)
  | abortBeforePhysicalStart =>
    obtain ⟨r, h⟩ := runs_of_effect h
    exact .single (abortBeforePhysicalStart_step hs h)
  | cancelTask => exact cancelTask_steps hs h
  | cancelBatch => exact cancelBatch_steps hs h
  | expireLeases =>
    obtain ⟨r, h⟩ := runs_of_effect h
    exact expireLeases_steps hs h
  | promoteRetryWait =>
    obtain ⟨r, h⟩ := runs_of_effect h
    exact .single (promoteRetryWait_step h)
  | resolveEscalation => exact resolveEscalation_steps hs h
  | reviveAgent => exact .single (reviveAgent_reshapes h).agents.step
  | ackResult => exact hinvisible (ackResult_invisible _ _)

/-! ## Histories -/

/-- A store without rows shows an empty board. -/
theorem Store.empty_board : Store.empty.board = Board.empty :=
  Board.ext rfl rfl rfl rfl rfl rfl (funext fun _ => funext fun _ => Bool.false_eq_true)

/-- **Whole histories.** What a history of calls does to the board is a run of the machine. -/
theorem Store.after_refines (calls : List Call) (hs : s.board.Sound) :
    Steps s.board (s.after calls).board := by
  refine run_induction (P := fun s' : Store => Steps s.board s'.board) ?_ .refl
  intro c _ s₁ s₂ hsteps h
  exact hsteps.trans (exec_refines c.2 (hs.steps hsteps) h)

/-- **The invariants of the scheduler hold of every reachable store.** -/
theorem Store.after_sound (calls : List Call) : (Store.empty.after calls).board.Sound := by
  have hempty : Store.empty.board.Sound := Store.empty_board ▸ Sound.empty
  exact hempty.steps (Store.after_refines calls hempty)

/-- **Refinement.** From any store a history reaches, whatever is called next is a run of the
    abstract machine, and ends in a sound board. -/
theorem histories_refine_machine (calls later : List Call) :
    let s := Store.empty.after calls
    Steps s.board (s.after later).board ∧ (s.after later).board.Sound := by
  intro s
  have hsteps := s.after_refines later (after_sound calls)
  exact ⟨hsteps, (after_sound calls).steps hsteps⟩

end Agentype

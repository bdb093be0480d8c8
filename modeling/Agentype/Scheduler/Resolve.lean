import Agentype.Scheduler.Sweep

/-!
# `Agentype.Scheduler.Resolve` — decisions of the root

A decision on an open escalation requeues or cancels its task, or lets the agent of a cancelled
writer go. A decision that cancels a task leaves a writer-safety obligation open.

## Contents
- `escalationCause_tag`: the cause a decision reads is the one the escalation is tagged with.
- `reviveEscalated_agents`: the agent of a decided obligation is under no other obligation.
- `resolveEscalation_steps`.
-/

namespace Agentype

open Relational Tx Store Board

variable {env : Env} {s s' s₁ s₂ : Store}
variable {e : EscalationId} {u : Unit} {b : Board} {x : EscalationView} {p : EscalatedPresence}
  {q : Bool}

theorem escalationCause_tag {t : TaskId} {tag : EscalationTag} {cause : EscalationCause}
    (h : s.escalationCause e t tag = .ok cause) : cause.tag = tag := by
  unfold escalationCause at h
  split at h
  · cases h
  · obtain ⟨kind, -, h⟩ := Check.bind_ok.mp h
    rw [← Except.ok.inj h]
    rfl
  · cases h
  · rw [← Except.ok.inj h]
    rfl

theorem isWriterUnknown_iff {cause : EscalationCause} :
    cause.isWriterUnknown = true ↔ cause.tag = writerUnknown := by
  unfold EscalationCause.isWriterUnknown
  split
  · exact ⟨fun _ => rfl, fun _ => rfl⟩
  · rename_i hne
    refine ⟨fun h => (Bool.false_ne_true h).elim, fun h => (hne ?_).elim⟩
    cases cause with
    | taskFailure c => rw [EscalationTag.taskFailure.inj h]
    | preparationFault => cases h

/-! ## The agent of a decision -/

/-- Preparing an agent for revival leaves it as it was, or idle and unassigned. -/
theorem prepareAgentRevivalAfterSafety_board {g : LogicalAgentId}
    (h : Runs env (prepareAgentRevivalAfterSafety g) s u s') :
    s'.board = s.board ∨ ∃ v ag, s.board.agent g = some v ∧ ag ≠ .assigned ∧
      s'.board = s.board.withAgents (Function.update s.board.agent g (some ⟨ag, none⟩)) := by
  unfold prepareAgentRevivalAfterSafety at h
  obtain ⟨agent, -, h⟩ := h.fetch_bind
  obtain ⟨target, -, h⟩ := h.examine_bind
  split at h
  · exact .inl (by rw [h.pure.2])
  · obtain ⟨v, ag, hv, hag, hb⟩ := releaseAgent_board h
    exact .inr ⟨v, ag, hv, LogicalAgentState.ne_assigned_of_released hag, hb⟩
  · obtain ⟨_, s₁, h₁, h⟩ := h.bind
    obtain ⟨v, ag, hv, hag, hb₁⟩ := releaseAgent_board h₁
    obtain ⟨released, hreleased, h⟩ := h.fetch_bind
    rcases h.whenever with ⟨hready, h⟩ | ⟨-, rfl⟩
    · have hnow : s₁.board.agent g = some ⟨ag, none⟩ := by
        rw [hb₁]
        exact Function.update_self ..
      have hb : s'.board = s₁.board.withAgents
          (Function.update s₁.board.agent g (some ⟨.reviving, none⟩)) := by
        refine shown_agents.update_row h hnow (fun row hrow => ⟨?_, ?_⟩) fun k' r' hp => ?_
        · have hready : ag = .ready := by
            have hv : s₁.board.agent g = some released.view := Table.view_of_lookup hreleased
            rw [hnow] at hv
            exact (congrArg AgentView.state (Option.some.inj hv)).trans (of_decide_eq_true hready)
          have hst : row.state = ag := congrArg AgentView.state hrow
          exact (Bool.and_eq_true _ _).mpr ⟨decide_eq_true rfl, decide_eq_true (hst.trans hready)⟩
        · have hcur : row.currentTaskId = none := congrArg AgentView.current hrow
          show (⟨.reviving, row.currentTaskId⟩ : AgentView) = _
          rw [hcur]
        · exact of_decide_eq_true ((Bool.and_eq_true _ _).mp hp).1
      refine .inr ⟨v, .reviving, hv, LogicalAgentState.noConfusion, ?_⟩
      rw [hb, hb₁]
      show s.board.withAgents (Function.update (Function.update s.board.agent g _) g _) = _
      rw [Function.update_idem]
    · exact .inr ⟨v, ag, hv, LogicalAgentState.ne_assigned_of_released hag, hb₁⟩

/-- **The agent of a decided obligation** is idle, and no other obligation holds it. -/
theorem reviveEscalated_agents {revive : Bool} (hb : b.Sound) (hx : b.escalation e = some x)
    (ho : x.isOpen = true) (hrevive : revive = true → x.tag = writerUnknown)
    (hagent : s.board.agent = b.agent) (h : Runs env (reviveEscalated revive x.agent) s u s') :
    ∃ ag', AgentsMove (b.decide e x).Obligated b.agent ag' ∧ s'.board = s.board.withAgents ag' := by
  have hsame : s'.board = s.board → ∃ ag', AgentsMove (b.decide e x).Obligated b.agent ag' ∧
      s'.board = s.board.withAgents ag' := fun heq =>
    ⟨b.agent, .refl _, by rw [heq, ← hagent]; rfl⟩
  unfold reviveEscalated at h
  split at h
  · exact hsame (by rw [h.pure.2])
  rename_i g hg
  rcases h.whenever with ⟨hrun, h⟩ | ⟨-, rfl⟩
  · rcases prepareAgentRevivalAfterSafety_board h with heq | ⟨v, ag, hv, hag, hb'⟩
    · exact hsame heq
    · obtain ⟨g', w, hg', hw, -, hidle⟩ := hb.coupled.obligated e x hx ho (hrevive hrun)
      obtain rfl : g' = g := Option.some.inj (hg'.symm.trans hg)
      rw [hagent] at hv hb'
      cases hv.symm.trans hw
      refine ⟨_, .update hv ⟨hidle.symm, ?_, fun _ _ => hag, fun hobl => ?_⟩, hb'⟩
      · intro hc
        rw [hidle] at hc
        cases hc
      · -- the escalation just decided was the only one
        obtain ⟨e', x', hx', ho', htag', hg''⟩ := hobl
        change Function.update b.escalation e _ e' = some x' at hx'
        rw [Function.update_apply] at hx'
        split at hx'
        · rw [← Option.some.inj hx'] at ho'
          cases ho'
        · rename_i hne
          exact absurd (hb.coupled.obligated_unique e' e x' x hx' hx ho' ho htag'
            (hrevive hrun) (hg''.trans hg.symm)) hne
  · exact hsame rfl

theorem closeEscalation_board (h : Runs env (closeEscalation e true) s u s')
    (hx : s.board.escalation e = some x) : s'.board = s.board.decide e x := by
  refine shown_escalations.update_row h hx (fun row hrow => ⟨decide_eq_true rfl, ?_⟩)
    fun k' r' hp => of_decide_eq_true hp
  rw [← hrow]
  rfl

/-! ## Resolution -/

/-- The end of a decision that closes its escalation: the agent of an obligation is let go. The
    task has been written already. -/
theorem decided_step {v : TaskView} {st : TaskState} {revive : Bool}
    {action : EscalatedWriterPresenceAction} {u₁ u₂ u₃ u₄ : Unit} {s₃ : Store} (hb : b.Sound)
    (hx : b.escalation e = some x) (ho : x.isOpen = true) (hv : b.task x.task = some v)
    (hst : v.state = .suspended ∧ st = .queued ∨ v.state = .cancelled ∧ st = .cancelled ∨
      v.state = .suspended ∧ st = .cancelled) (hrevive : revive = true → x.tag = writerUnknown)
    (hs : s.board = b.withTasks (Function.update b.task x.task (some { v with state := st })))
    (h₁ : Runs env (settlePresence action p q) s u₁ s₁)
    (h₂ : Runs env (reviveEscalated revive x.agent) s₁ u₂ s₂)
    (h₃ : Runs env (closeEscalation e true) s₂ u₃ s₃)
    (h₄ : Runs env (recomputeBatch x.batch) s₃ u₄ s') : Step b s'.board := by
  have hb₁ : s₁.board = b.withTasks (Function.update b.task x.task (some { v with state := st })) :=
    (board_frame h₁ rfl).trans hs
  obtain ⟨ag', hmove, hb₂⟩ := reviveEscalated_agents hb hx ho hrevive (by rw [hb₁]; rfl) h₂
  have hb₃ := closeEscalation_board h₃ (x := x) (by rw [hb₂, hb₁]; exact hx)
  rw [board_frame h₄ rfl, hb₃, hb₂, hb₁]
  exact .resolve hx ho hv hst hmove

/-- A task that is written back unchanged. -/
theorem withTasks_self {t : TaskId} {v : TaskView} (hv : b.task t = some v) :
    b.withTasks (Function.update b.task t (some v)) = b := by
  rw [← hv, Function.update_eq_self]
  rfl

/-- A decision that cancels the task; a writer-safety obligation stays open. -/
theorem cancelDecision_steps {row : EscalationRow} {task : TaskRow} {resolve only : Bool}
    (hs : s.board.Sound) (hx : s.board.escalation e = some row.view) (ho : row.view.isOpen = true)
    (hv : s.board.task row.taskId = some task.view)
    (h : Runs env (applyResolution e row p q (.cancelTask .cancelled resolve only)) s u s') :
    Steps s.board s'.board := by
  obtain ⟨_, s₁, h₁, h⟩ := Tx.Runs.bind h
  obtain ⟨_, s₂, h₂, h₃⟩ := h.bind
  have hb₁ : s₁.board = s.board.withTasks (Function.update s.board.task row.taskId
      (some { task.view with state := .cancelled })) :=
    updateTask_board h₁ hv fun r hr => by rw [← hr]; rfl
  have hb₃ : s'.board = s₂.board := by
    rcases h₃.whenever with ⟨-, h₃⟩ | ⟨-, rfl⟩
    · exact board_frame h₃ rfl
    · rfl
  rw [hb₃]
  obtain ⟨v, hv', -, hstate⟩ := hs.coupled.open_task e _ hx ho
  cases hv.symm.trans hv'
  cases resolve with
  | true =>
    have hb₂ := closeEscalation_board h₂ (x := row.view) (by rw [hb₁]; exact hx)
    rw [hb₂, hb₁]
    refine .single (.resolve hx ho hv ?_ (.refl _))
    rcases hstate with hsuspended | hcancelled
    · exact .inr (.inr ⟨hsuspended, rfl⟩)
    · exact .inr (.inl ⟨hcancelled, rfl⟩)
  | false =>
    obtain ⟨-, rfl⟩ := Tx.Runs.pure h₂
    rw [hb₁]
    rcases hstate with hsuspended | hcancelled
    · have hidle : task.view.current = none := by
        cases hc : task.view.current with
        | none => rfl
        | some a =>
          have hassigned := (hs.coherent.assigned_iff _ _ hv).mpr (by rw [hc]; rfl)
          rw [hsuspended] at hassigned
          cases hassigned
      have hstep := cancelIdle_step hv hidle (by rw [hsuspended]; rfl)
      rw [← hidle] at hstep
      exact .single hstep
    · rw [← hcancelled, withTasks_self hv]

/-- **Resolution.** A committed decision is a step of the machine, or changes nothing on the
    board. -/
theorem resolveEscalation_steps {op : String} (hs : s.board.Sound)
    (h : Runs env (resolveEscalation e op q) s u s') : Steps s.board s'.board := by
  unfold resolveEscalation at h
  obtain ⟨op, -, h⟩ := h.examine_bind
  obtain ⟨row, hrow, h⟩ := h.fetch_bind
  obtain ⟨task, htask, h⟩ := h.fetch_bind
  obtain ⟨cause, hcause, h⟩ := h.examine_bind
  obtain ⟨plan, hplan, h⟩ := h.query_bind.examine_bind
  have hx : s.board.escalation e = some row.view := Table.view_of_lookup hrow
  have hv : s.board.task row.view.task = some task.view := Table.view_of_lookup htask
  obtain ⟨ho, hcases⟩ := planEscalationResolution_ok hplan
  have hobl : cause.isWriterUnknown = true → row.view.tag = writerUnknown := fun hu =>
    (escalationCause_tag hcause).symm.trans (isWriterUnknown_iff.mp hu)
  rcases hcases with ⟨hcancelled, hu, -, rfl⟩ | ⟨hsuspended, -, rfl⟩ | rfl
  · obtain ⟨_, s₁, h₁, h⟩ := Tx.Runs.bind h
    obtain ⟨_, s₂, h₂, h⟩ := h.bind
    obtain ⟨_, s₃, h₃, h₄⟩ := h.bind
    refine .single (decided_step hs hx ho hv (.inr (.inl ⟨hcancelled, rfl⟩)) (fun _ => hobl hu) ?_
      h₁ h₂ h₃ h₄)
    change task.view.state = .cancelled at hcancelled
    rw [← hcancelled]
    exact (withTasks_self hv).symm
  · obtain ⟨_, s₁, h₁, h⟩ := Tx.Runs.bind h
    obtain ⟨_, s₂, h₂, h⟩ := h.bind
    obtain ⟨_, s₃, h₃, h⟩ := h.bind
    obtain ⟨_, s₄, h₄, h⟩ := h.bind
    obtain ⟨_, s₅, h₅, h₆⟩ := h.bind
    have hb₁ : s₁.board = s.board.withTasks (Function.update s.board.task row.taskId
        (some { task.view with state := .queued })) :=
      updateTask_board h₁ hv fun r hr => by rw [← hr]; rfl
    have hb₂ : s₂.board = s₁.board := board_frame h₂ rfl
    refine .single (decided_step hs hx ho hv (.inl ⟨hsuspended, rfl⟩) (fun hrevive => ?_)
      (hb₂.trans hb₁) h₃ h₄ h₅ h₆)
    exact hobl ((Bool.and_eq_true _ _).mp hrevive).1
  · exact cancelDecision_steps hs hx ho hv h

end Agentype

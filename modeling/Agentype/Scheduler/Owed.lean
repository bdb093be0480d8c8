import Agentype.Scheduler.Refine

/-!
# `Agentype.Scheduler.Owed` — what an open escalation is about

An open escalation is about the last claim of its task: it names the agent of the attempt that
carries the fencing epoch of the task. A task with an open escalation is suspended or cancelled and
hands out no new claim, so the last claim stays the last until the escalation is decided.

## Contents
- `Step.attempt`, `Step.fencing`, `Step.opened`: what a step does to attempts, epochs and open
  escalations.
- `Board.Owed`: the invariant; `Owed.steps`, `Store.after_owed`.
-/

namespace Agentype

open Relational Tx Store Board

variable {b b' : Board}

/-! ## One step -/

/-- The attempt view keeps its task, its agent and its epoch. -/
def AttemptView.Same (w w' : AttemptView) : Prop :=
  w'.task = w.task ∧ w'.agent = w.agent ∧ w'.epoch = w.epoch

theorem close_attempt_same (h : Holding b) (st : TaskState) (ag : LogicalAgentState)
    {a : AttemptId} {w : AttemptView} (hw : b.attempt a = some w) :
    ∃ w', (b.close h st ag).attempt a = some w' ∧ w.Same w' := by
  rw [close_attempt]
  split
  · rename_i ha
    subst ha
    cases h.attempt_eq.symm.trans hw
    exact ⟨_, rfl, rfl, rfl, rfl⟩
  · exact ⟨w, hw, rfl, rfl, rfl⟩

/-- Attempts are never rewritten. -/
theorem Step.attempt (h : Step b b') {a : AttemptId} {w : AttemptView}
    (hw : b.attempt a = some w) : ∃ w', b'.attempt a = some w' ∧ w.Same w' := by
  have hsame : ∀ b' : Board, b'.attempt = b.attempt → ∃ w', b'.attempt a = some w' ∧ w.Same w' :=
    fun b' heq => ⟨w, by rw [heq, hw], rfl, rfl, rfl⟩
  cases h with
  | agents | tasks | submit | cancelIdle | resolve => exact hsame _ rfl
  | @requeue h st ag => exact close_attempt_same h st ag hw
  | @complete h ag => exact close_attempt_same h .completed ag hw
  | @suspend h ag => exact close_attempt_same h .suspended ag hw
  | @cancel h ag => exact close_attempt_same h .cancelled ag hw
  | cancelObliged h => exact close_attempt_same h .cancelled .suspended hw
  | claim ht hq hg hr hi ha hl =>
    refine ⟨w, ?_, rfl, rfl, rfl⟩
    rw [claim_attempt, if_neg, hw]
    rintro rfl
    rw [ha] at hw
    cases hw

theorem close_task_fencing (h : Holding b) (st : TaskState) (ag : LogicalAgentState) {t : TaskId}
    {v : TaskView} (hv : b.task t = some v) :
    ∃ v', (b.close h st ag).task t = some v' ∧ v'.fencing = v.fencing := by
  rw [close_task]
  split
  · rename_i ht
    subst ht
    cases h.task_eq.symm.trans hv
    exact ⟨_, rfl, rfl⟩
  · exact ⟨v, hv, rfl⟩

/-- The fencing epoch of a task grows with its claims only. -/
theorem Step.fencing (h : Step b b') {t : TaskId} {v : TaskView} (hv : b.task t = some v) :
    ∃ v', b'.task t = some v' ∧ (v'.fencing = v.fencing ∨ v.state = .queued) := by
  have hkeep : ∀ {ts'}, Coherent.Drifts b.task ts' →
      ∃ v', ts' t = some v' ∧ (v'.fencing = v.fencing ∨ v.state = .queued) := by
    intro ts' hd
    obtain ⟨st, hst, -⟩ := hd.move t v hv
    exact ⟨_, hst, .inl rfl⟩
  have hclose : ∀ (h : Holding b) (st ag), ∃ v', (b.close h st ag).task t = some v' ∧
      (v'.fencing = v.fencing ∨ v.state = .queued) := by
    intro h st ag
    obtain ⟨v', hv', hf⟩ := close_task_fencing h st ag hv
    exact ⟨v', hv', .inl hf⟩
  cases h with
  | agents => exact ⟨v, hv, .inl rfl⟩
  | tasks h => exact hkeep (.of_tasksMove h)
  | submit h => exact hkeep (.of_submission h)
  | claim ht hq =>
    rw [claim_task]
    split
    · rename_i heq
      subst heq
      cases hv.symm.trans ht
      exact ⟨_, rfl, .inr hq⟩
    · exact ⟨v, hv, .inl rfl⟩
  | @requeue h st ag => exact hclose h st ag
  | @suspend h ag => exact hclose h .suspended ag
  | @cancel h ag => exact hclose h .cancelled ag
  | cancelObliged h => exact hclose h .cancelled .suspended
  | @complete h ag _ _ _ _ hw =>
    obtain ⟨v₁, hv₁, hf⟩ := close_task_fencing h .completed ag hv
    obtain ⟨st, hst, -⟩ := (Coherent.Drifts.of_wakes hw).move t v₁ hv₁
    exact ⟨_, hst, .inl hf⟩
  | cancelIdle h => exact hkeep (.of_cancellation h)
  | @resolve e x w st ag' he ho ht hst hag =>
    show ∃ v', Function.update b.task x.task (some { w with state := st }) t = some v' ∧ _
    rw [Function.update_apply]
    split
    · rename_i heq
      rw [heq, ht] at hv
      obtain rfl := Option.some.inj hv
      exact ⟨_, rfl, .inl rfl⟩
    · exact ⟨v, hv, .inl rfl⟩

/-- An open escalation was open before, or is about the claim that was just settled. -/
theorem Step.opened (h : Step b b') {e : EscalationId} {x : EscalationView}
    (hx : b'.escalation e = some x) (ho : x.isOpen = true) :
    b.escalation e = some x ∨ ∃ h : Holding b, x.task = h.task ∧ x.agent = some h.agent := by
  cases h with
  | agents | tasks | submit | claim | requeue | complete | cancel => exact .inl hx
  | suspend h | cancelObliged h =>
    rw [raise_escalation] at hx
    split at hx
    · obtain rfl := Option.some.inj hx
      exact .inr ⟨h, rfl, rfl⟩
    · exact .inl hx
  | cancelIdle h =>
    cases hx₀ : b.escalation e with
    | none => cases (h.escalation_absent e hx₀).symm.trans hx
    | some x₀ =>
      rcases h.escalation e x₀ hx₀ with hsame | ⟨-, -, hclosed⟩
      · exact .inl (hsame.symm.trans hx)
      · cases hclosed.symm.trans hx
        cases ho
  | resolve =>
    simp only [Board.decide, Function.update_apply] at hx
    split at hx
    · obtain rfl := Option.some.inj hx
      cases ho
    · exact .inl hx

/-! ## The invariant -/

/-- Every open escalation names the agent of the last claim of its task. -/
def Board.Owed (b : Board) : Prop :=
  ∀ e x, b.escalation e = some x → x.isOpen = true → ∃ a w v, b.attempt a = some w ∧
    w.task = x.task ∧ x.agent = some w.agent ∧ b.task x.task = some v ∧ w.epoch = v.fencing

theorem Board.Owed.step (hb : b.Owed) (hs : b.Sound) (h : Step b b') : b'.Owed := by
  intro e x hx ho
  -- the last claim of the task before the step
  have hlast : ∃ a w v, b.attempt a = some w ∧ w.task = x.task ∧ x.agent = some w.agent ∧
      b.task x.task = some v ∧ w.epoch = v.fencing ∧ v.state ≠ .queued := by
    rcases h.opened hx ho with hold | ⟨hold, htask, hagent⟩
    · obtain ⟨a, w, v, hw, hwt, hwg, hv, hep⟩ := hb e x hold ho
      obtain ⟨v', hv', -, hst⟩ := hs.coupled.open_task e x hold ho
      cases hv.symm.trans hv'
      refine ⟨a, w, v, hw, hwt, hwg, hv, hep, ?_⟩
      rcases hst with hst | hst <;> rw [hst] <;> decide
    · have hcur := hs.coherent.holding_current hold
      obtain ⟨w, hw, -, hep, -⟩ := hs.coherent.current_attempt _ _ _ hold.task_eq hcur
      cases hold.attempt_eq.symm.trans hw
      refine ⟨hold.attempt, hold.attemptView, hold.taskView, hold.attempt_eq,
        hold.attempt_task.trans htask.symm, hagent, htask ▸ hold.task_eq, hep, ?_⟩
      intro hq
      have hassigned := hs.coherent.holding_assigned hold
      rw [hq] at hassigned
      cases hassigned
  obtain ⟨a, w, v, hw, hwt, hwg, hv, hep, hnq⟩ := hlast
  obtain ⟨w', hw', ht', hg', he'⟩ := h.attempt hw
  obtain ⟨v', hv', hf⟩ := h.fencing hv
  have hf : v'.fencing = v.fencing := hf.resolve_right hnq
  exact ⟨a, w', v', hw', ht'.trans hwt, hg'.symm ▸ hwg, hv', by rw [he', hep, hf]⟩

theorem Board.Owed.steps (hb : b.Owed) (hs : b.Sound) (h : Steps b b') : b'.Owed := by
  induction h with
  | refl => exact hb
  | tail hsteps hstep ih => exact ih.step (hs.steps hsteps) hstep

theorem Store.after_owed (calls : List Call) : (Store.empty.after calls).board.Owed := by
  refine Board.Owed.steps ?_ (Store.after_sound []) (Store.after_refines calls (Store.after_sound []))
  intro e x hx
  cases hx

end Agentype

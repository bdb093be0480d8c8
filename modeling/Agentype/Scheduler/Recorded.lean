import Agentype.Scheduler.Coupled

/-!
# `Agentype.Scheduler.Recorded` — completed tasks and their results

A task is completed exactly when it has a result, the result names the attempt that carried the
task's last epoch, and a terminal task never moves again.

## Contents
- `Recorded b`: results against tasks and attempts.
- `KeepsCompletion`: a change of the tasks that completes none; `Recorded.step`.
- `terminal_step`: no transition moves a completed or cancelled task.
-/

namespace Agentype

variable {t : TaskId} {ts' : TaskId → Option TaskView} {b' : Board}

namespace Board

/-- Completed tasks and results correspond. -/
structure Recorded (b : Board) : Prop where
  result_task : ∀ r y, b.result r = some y → ∃ v w, b.task y.task = some v ∧
    v.state = .completed ∧ b.attempt y.attempt = some w ∧ w.task = y.task ∧ w.epoch = v.fencing
  completed_result : ∀ t v, b.task t = some v → v.state = .completed →
    ∃ r y, b.result r = some y ∧ y.task = t
  result_unique : ∀ r r' y y', b.result r = some y → b.result r' = some y' →
    y.task = y'.task → r = r'

/-- A change of the tasks that completes none and reopens none. -/
structure KeepsCompletion (ts ts' : TaskId → Option TaskView) : Prop where
  keep : ∀ t v, ts t = some v → v.state = .completed →
    ∃ v', ts' t = some v' ∧ v'.state = .completed ∧ v'.fencing = v.fencing
  new : ∀ t v', ts' t = some v' → v'.state = .completed →
    ∃ v, ts t = some v ∧ v.state = .completed

namespace KeepsCompletion

variable {b : Board}

/-- Rewriting one task that is not completed before or after. -/
theorem update {v v' : TaskView} (hv : b.task t = some v) (hs : v.state ≠ .completed)
    (hs' : v'.state ≠ .completed) :
    KeepsCompletion b.task (Function.update b.task t (some v')) := by
  refine ⟨fun t' w hw hc => ?_, fun t' w hw hc => ?_⟩
  · have hne : t' ≠ t := by
      rintro rfl
      rw [hv] at hw
      exact hs (Option.some.inj hw ▸ hc)
    exact ⟨w, by rw [Function.update_apply, if_neg hne, hw], hc, rfl⟩
  · rw [Function.update_apply] at hw
    split at hw
    · obtain rfl := Option.some.inj hw
      exact absurd hc hs'
    · exact ⟨w, hw, hc⟩

theorem of_drifts {ts : TaskId → Option TaskView} (h : Coherent.Drifts ts ts') :
    KeepsCompletion ts ts' := by
  refine ⟨fun t v hv hc => ?_, fun t v' hv' hc => ?_⟩
  · obtain ⟨st, hst, hd⟩ := h.move t v hv
    exact ⟨_, hst, (Coherent.Drifts.terminal hd (by rw [hc]; rfl)).trans hc, rfl⟩
  · obtain ⟨v, hv, hd⟩ := h.before hv' (by rw [hc]; decide) (by rw [hc]; decide)
    refine ⟨v, hv, ?_⟩
    rw [hc] at hd
    rcases hd with hadv | ⟨-, hq⟩ | ⟨-, -, hq⟩
    · revert hadv
      cases v.state <;> decide
    · cases hq
    · cases hq

end KeepsCompletion

/-- An attempt never changes its task or its epoch. -/
def KeepsAttempts (as as' : AttemptId → Option AttemptView) : Prop :=
  ∀ a w, as a = some w → ∃ w', as' a = some w' ∧ w'.task = w.task ∧ w'.epoch = w.epoch

namespace Recorded

variable {b : Board}

theorem remap (hb : b.Recorded) (ht : KeepsCompletion b.task b'.task)
    (ha : KeepsAttempts b.attempt b'.attempt) (hr : b'.result = b.result) : b'.Recorded := by
  refine ⟨?_, ?_, ?_⟩ <;> simp only [hr]
  · intro r y hy
    obtain ⟨v, w, hv, hc, hw, hwt, hwe⟩ := hb.result_task r y hy
    obtain ⟨v', hv', hc', hf⟩ := ht.keep _ v hv hc
    obtain ⟨w', hw', hwt', hwe'⟩ := ha _ w hw
    exact ⟨v', w', hv', hc', hw', hwt'.trans hwt, hwe'.trans (hwe.trans hf.symm)⟩
  · intro t v' hv' hc
    obtain ⟨v, hv, hc'⟩ := ht.new t v' hv' hc
    exact hb.completed_result t v hv hc'
  · exact hb.result_unique

theorem keepsAttempts_close (h : Holding b) (st : TaskState) (ag : LogicalAgentState) :
    KeepsAttempts b.attempt (b.close h st ag).attempt := by
  intro a w hw
  rw [close_attempt]
  split
  · rename_i heq
    rw [heq, h.attempt_eq] at hw
    obtain rfl := Option.some.inj hw
    exact ⟨_, rfl, rfl, rfl⟩
  · exact ⟨w, hw, rfl, rfl⟩

/-- The task of a held claim is not completed. -/
theorem not_completed_of_holding (hc : b.Coherent) (h : Holding b) :
    h.taskView.state ≠ .completed := by
  intro hs
  have hassigned := hc.holding_assigned h
  rw [hs] at hassigned
  cases hassigned

theorem close (hb : b.Recorded) (hc : b.Coherent) (h : Holding b) {st : TaskState}
    {ag : LogicalAgentState} (hst : st ≠ .completed) : (b.close h st ag).Recorded := by
  refine hb.remap ?_ (keepsAttempts_close h st ag) rfl
  exact .update h.task_eq (not_completed_of_holding hc h) hst

/-- **Completion.** The result is stored in the same transition, for the current attempt. -/
theorem complete (hb : b.Recorded) (hc : b.Coherent) (h : Holding b) {ag : LogicalAgentState}
    {r : ResultId} (hr : b.result r = none)
    (hw : Wakes ((b.close h .completed ag).store r ⟨h.task, h.attempt⟩) h.taskView.batch ts') :
    Recorded { (b.close h .completed ag).store r ⟨h.task, h.attempt⟩ with task := ts' } := by
  have hepoch : h.attemptView.epoch = h.taskView.fencing := by
    obtain ⟨w, hw, -, he, -⟩ :=
      hc.current_attempt _ _ _ h.task_eq (hc.holding_current h)
    rw [h.attempt_eq] at hw
    rwa [← Option.some.inj hw] at he
  have hclosed : ((b.close h .completed ag).store r ⟨h.task, h.attempt⟩).Recorded := by
    refine ⟨?_, ?_, ?_⟩
    · intro r' y hy
      rw [store_result] at hy
      split at hy
      · obtain rfl := Option.some.inj hy
        exact ⟨{ h.taskView with state := .completed, current := none },
          { h.attemptView with active := false }, by rw [store_task, close_task, if_pos rfl], rfl,
          by rw [store_attempt, close_attempt, if_pos rfl], h.attempt_task, hepoch⟩
      · obtain ⟨v, w, hv, hcomp, hw, hrest⟩ := hb.result_task r' y hy
        have hne : y.task ≠ h.task := by
          intro heq
          rw [heq, h.task_eq] at hv
          exact not_completed_of_holding hc h (Option.some.inj hv ▸ hcomp)
        obtain ⟨w', hw', hwt', hwe'⟩ := keepsAttempts_close h .completed ag _ w hw
        exact ⟨v, w', by rw [store_task, close_task, if_neg hne, hv], hcomp, hw',
          hwt'.trans hrest.1, hwe'.trans hrest.2⟩
    · intro t v hv hcomp
      rw [store_task, close_task] at hv
      split at hv
      · rename_i heq
        exact ⟨r, ⟨h.task, h.attempt⟩, by rw [store_result, if_pos rfl], heq.symm⟩
      · obtain ⟨r', y, hy, hyt⟩ := hb.completed_result t v hv hcomp
        refine ⟨r', y, ?_, hyt⟩
        have hne : r' ≠ r := by
          rintro rfl
          rw [hr] at hy
          cases hy
        rw [store_result, if_neg hne]
        exact hy
    · intro r₁ r₂ y₁ y₂ h₁ h₂ ht
      have fresh : ∀ r' y, b.result r' = some y → y.task ≠ h.task := by
        intro r' y hy heq
        obtain ⟨v, -, hv, hcomp, -⟩ := hb.result_task r' y hy
        rw [heq, h.task_eq] at hv
        exact not_completed_of_holding hc h (Option.some.inj hv ▸ hcomp)
      rw [store_result] at h₁ h₂
      split at h₁ <;> split at h₂
      · rename_i k₁ k₂
        exact k₁.trans k₂.symm
      · obtain rfl := Option.some.inj h₁
        exact absurd ht.symm (fresh r₂ y₂ h₂)
      · obtain rfl := Option.some.inj h₂
        exact absurd ht (fresh r₁ y₁ h₁)
      · exact hb.result_unique r₁ r₂ y₁ y₂ h₁ h₂ ht
  exact hclosed.remap (.of_drifts (.of_wakes hw)) (fun a w hw => ⟨w, hw, rfl, rfl⟩) rfl

/-- **The correspondence is inductive.** -/
theorem step (hb : b.Recorded) (hc : b.Coherent) (h : Step b b') : b'.Recorded := by
  have same : KeepsAttempts b.attempt b.attempt := fun a w hw => ⟨w, hw, rfl, rfl⟩
  cases h with
  | agents _ =>
    exact hb.remap ⟨fun t v hv hs => ⟨v, hv, hs, rfl⟩, fun t v hv hs => ⟨v, hv, hs⟩⟩ same rfl
  | tasks h => exact hb.remap (.of_drifts (.of_tasksMove h)) same rfl
  | submit h => exact hb.remap (.of_drifts (.of_submission h)) same rfl
  | @claim t v a l g u ht hq _ _ _ ha _ =>
    refine hb.remap (.update ht (by rw [hq]; decide) TaskState.noConfusion) ?_ rfl
    intro a' w hw
    have hne : a' ≠ a := by
      rintro rfl
      rw [ha] at hw
      cases hw
    exact ⟨w, by rw [claim_attempt, if_neg hne, hw], rfl, rfl⟩
  | requeue h hst _ =>
    refine hb.close hc h ?_
    rcases hst with rfl | rfl <;> exact TaskState.noConfusion
  | complete h _ hr hw => exact hb.complete hc h hr hw
  | @suspend h ag e tag _ _ _ =>
    have hclose : (b.close h .suspended ag).Recorded := hb.close hc h TaskState.noConfusion
    exact hclose.remap ⟨fun t v hv hs => ⟨v, hv, hs, rfl⟩, fun t v hv hs => ⟨v, hv, hs⟩⟩
      (fun a w hw => ⟨w, hw, rfl, rfl⟩) rfl
  | cancel h _ => exact hb.close hc h TaskState.noConfusion
  | cancelObliged h _ =>
    have hclose : (b.close h .cancelled .suspended).Recorded := hb.close hc h TaskState.noConfusion
    exact hclose.remap ⟨fun t v hv hs => ⟨v, hv, hs, rfl⟩, fun t v hv hs => ⟨v, hv, hs⟩⟩
      (fun a w hw => ⟨w, hw, rfl, rfl⟩) rfl
  | cancelIdle h => exact hb.remap (.of_drifts (.of_cancellation h)) same rfl
  | @resolve e x v st ag' _ _ ht hst _ =>
    refine hb.remap (.update ht ?_ ?_) same rfl
    · rcases hst with ⟨h, -⟩ | ⟨h, -⟩ | ⟨h, -⟩ <;> rw [h] <;> decide
    · rcases hst with ⟨-, rfl⟩ | ⟨-, rfl⟩ | ⟨-, rfl⟩ <;> exact TaskState.noConfusion

end Recorded

/-! ## Finality -/

/-- Rewriting a task that is not terminal leaves every terminal task alone. -/
theorem terminal_update {b : Board} {t' : TaskId} {v v' w : TaskView} (hv : b.task t = some v)
    (hs : v.state.isTerminal = false) (hw : b.task t' = some w) (ht : w.state.isTerminal = true) :
    Function.update b.task t (some v') t' = some w := by
  have hne : t' ≠ t := by
    rintro rfl
    rw [hv] at hw
    rw [Option.some.inj hw, ht] at hs
    cases hs
  rw [Function.update_apply, if_neg hne, hw]

/-- The task of a held claim is not terminal. -/
theorem not_terminal_of_holding {b : Board} (hc : b.Coherent) (h : Holding b) :
    h.taskView.state.isTerminal = false := by
  have hassigned := hc.holding_assigned h
  revert hassigned
  cases h.taskView.state <;> decide

/-- **Terminal tasks are final.** No transition moves a completed or cancelled task. -/
theorem terminal_step {b : Board} (hc : b.Coherent) (h : Step b b') {w : TaskView}
    (hw : b.task t = some w) (ht : w.state.isTerminal = true) :
    ∃ w', b'.task t = some w' ∧ w'.state = w.state := by
  have closed : ∀ (h : Holding b) (st : TaskState) (ag : LogicalAgentState),
      (b.close h st ag).task t = some w := fun h st ag =>
    terminal_update h.task_eq (not_terminal_of_holding hc h) hw ht
  have drifted : ∀ {ts ts'}, Coherent.Drifts ts ts' → ts t = some w →
      ∃ w', ts' t = some w' ∧ w'.state = w.state := by
    intro ts ts' hd hw
    obtain ⟨st, hst, hd⟩ := hd.move t w hw
    exact ⟨_, hst, Coherent.Drifts.terminal hd ht⟩
  cases h with
  | agents _ => exact ⟨w, hw, rfl⟩
  | tasks h => exact drifted (.of_tasksMove h) hw
  | submit h => exact drifted (.of_submission h) hw
  | claim hv hq _ _ _ _ _ =>
    exact ⟨w, terminal_update hv (by rw [hq]; rfl) hw ht, rfl⟩
  | requeue h _ _ => exact ⟨w, closed h _ _, rfl⟩
  | @complete h ag r ts' _ _ hwake => exact drifted (.of_wakes hwake) (closed h .completed ag)
  | @suspend h ag e tag _ _ _ => exact ⟨w, closed h .suspended ag, rfl⟩
  | cancel h _ => exact ⟨w, closed h _ _, rfl⟩
  | cancelObliged h _ => exact ⟨w, closed h .cancelled .suspended, rfl⟩
  | cancelIdle h => exact drifted (.of_cancellation h) hw
  | @resolve e x v st ag' _ _ hv hst _ =>
    by_cases heq : t = x.task
    · subst heq
      rw [hw] at hv
      obtain rfl := Option.some.inj hv
      refine ⟨{ w with state := st }, by simp only [Function.update_self], ?_⟩
      show st = w.state
      rcases hst with ⟨h, -⟩ | ⟨h, rfl⟩ | ⟨h, -⟩
      · rw [h] at ht
        cases ht
      · exact h.symm
      · rw [h] at ht
        cases ht
    · exact ⟨w, by simp only [Function.update_apply, if_neg heq]; exact hw, rfl⟩

end Board

end Agentype

import Agentype.Physical.Attempts
import Agentype.Scheduler.Owed

/-!
# `Agentype.Physical.Latest` — the last claim of a task is its latest attempt

The kernel orders the attempts of a task twice: by their number, which the resolution of an
escalation reads, and by their lease epoch, which the authority fence reads. The two orders agree,
so the latest attempt is the one that carries the fencing epoch of the task; an open escalation
therefore names the agent of the latest attempt.

## Contents
- `Store.Aligned`, `Store.after_aligned`: the two orders agree.
- `latestAttempt_of_epoch`, `latestAttempt_of_open`.
-/

namespace Agentype

open Relational Tx Store Board

variable {env : Env} {s s' : Store}

/-- One attempt per task and epoch: their leases would clash. -/
theorem attempt_epoch_unique (hs : s.board.Sound) {a a' : AttemptId} {r r' : AttemptRow}
    (hr : s.attempts.lookup a = some r) (hr' : s.attempts.lookup a' = some r')
    (htask : r'.taskId = r.taskId) (hepoch : r'.leaseEpoch = r.leaseEpoch) : a' = a := by
  have hlease : ∀ b w, s.attempts.lookup b = some w → ∃ l row, s.leases.lookup l = some row ∧
      row.attemptId = b ∧ row.taskId = w.taskId ∧ row.epoch = w.leaseEpoch := by
    intro b w hw
    obtain ⟨l, x, hx, hxb⟩ := hs.coherent.attempt_lease b w.view (Table.view_of_lookup hw)
    obtain ⟨row, hrow, rfl⟩ := Table.view_eq_some.mp hx
    have hb : row.attemptId = b := hxb
    obtain ⟨w', hw', ht, he, -⟩ := hs.coherent.lease_attempt l _ hx
    rw [hxb] at hw'
    cases (Table.view_of_lookup hw).symm.trans hw'
    exact ⟨l, row, hrow, hb, ht, he⟩
  obtain ⟨l, row, hrow, ha, ht, he⟩ := hlease a r hr
  obtain ⟨l', row', hrow', ha', ht', he'⟩ := hlease a' r' hr'
  by_cases hl : l' = l
  · subst hl
    cases hrow.symm.trans hrow'
    exact ha'.symm.trans ha
  · have hclash := Table.clash_of_lookup hrow' hrow hl
    simp [leaseSchema, ht, ht', he, he', htask, hepoch] at hclash

/-- The attempts of a task are numbered in the order of their epochs. -/
def Store.Aligned (s : Store) : Prop :=
  ∀ a r a' r', s.attempts.lookup a = some r → s.attempts.lookup a' = some r' →
    r'.taskId = r.taskId → r.leaseEpoch ≤ r'.leaseEpoch → r.attemptNumber ≤ r'.attemptNumber

/-- Rows that keep their task, their number and their epoch. -/
theorem Store.Aligned.of_back (hs : s.Aligned)
    (hback : ∀ a w', s'.attempts.lookup a = some w' → ∃ w, s.attempts.lookup a = some w ∧
      w'.taskId = w.taskId ∧ w'.attemptNumber = w.attemptNumber ∧ w'.leaseEpoch = w.leaseEpoch) :
    s'.Aligned := by
  intro a r a' r' hr hr' htask hepoch
  obtain ⟨w, hw, ht, hn, he⟩ := hback a r hr
  obtain ⟨w', hw', ht', hn', he'⟩ := hback a' r' hr'
  rw [hn, hn']
  refine hs a w a' w' hw hw' ?_ ?_
  · rw [← ht, ← ht', htask]
  · rw [← he, ← he']
    exact hepoch

/-- A new claim has the greatest number and the greatest epoch. -/
theorem Store.Aligned.granted (hs : s.Aligned) (hsound : s'.board.Sound) (hnum : s'.Numbered)
    {b : AttemptId} {w : AttemptRow} (h : Granted s s' b w) : s'.Aligned := by
  have hnew : s'.attempts.lookup b = some w := by rw [h.lookup, if_pos rfl]
  -- no attempt of the task has a greater epoch than the one that holds it
  have hgreatest : ∀ a r, s'.attempts.lookup a = some r → r.taskId = w.taskId →
      r.leaseEpoch ≤ w.leaseEpoch := by
    intro a r hr htask
    obtain ⟨v, hv, hcur⟩ := hsound.coherent.active_current b w.view (Table.view_of_lookup hnew)
      (decide_eq_true h.active)
    obtain ⟨w', hw', -, hfence, -⟩ := hsound.coherent.current_attempt _ v b hv hcur
    cases (Table.view_of_lookup hnew).symm.trans hw'
    obtain ⟨v', hv', hle⟩ := hsound.coherent.attempt_task a r.view (Table.view_of_lookup hr)
    rw [show r.view.task = w.view.task from htask] at hv'
    cases hv.symm.trans hv'
    exact hle.trans_eq hfence.symm
  intro a r a' r' hr hr' htask hepoch
  by_cases ha' : a' = b
  · subst ha'
    cases hnew.symm.trans hr'
    exact hnum.latest a' w a r hnew h.active hr htask.symm
  · by_cases ha : a = b
    · subst ha
      cases hnew.symm.trans hr
      have heq := Nat.le_antisymm (hgreatest a' r' hr' htask) hepoch
      exact absurd (attempt_epoch_unique hsound hr hr' htask heq) ha'
    · rw [h.lookup, if_neg ha] at hr
      rw [h.lookup, if_neg ha'] at hr'
      exact hs a r a' r' hr hr' htask hepoch

theorem Store.Aligned.exec (hs : s.Aligned) (hsound : s.board.Sound) (hnum : s.Numbered) {op : Op}
    {u : Unit} (h : Runs env op.exec s u s') : s'.Aligned := by
  cases exec_attempts h with
  | closed hc =>
    refine hs.of_back fun a w' hw' => ?_
    obtain ⟨w, hw, st, -, rfl⟩ := hc.lookup_of_after hw'
    exact ⟨w, hw, rfl, rfl, rfl⟩
  | granted hg => exact hs.granted (hsound.steps (exec_refines op hsound h)) (hnum.exec h) hg
  | @linked claim x r i row _ hl =>
    refine hs.of_back fun a w' hw' => ?_
    rw [hl.attempts] at hw'
    split at hw'
    · rename_i ha
      obtain rfl := Option.some.inj hw'
      exact ⟨r.attempt, ha ▸ hl.authorized.attempt, rfl, rfl, rfl⟩
    · exact ⟨w', hw', rfl, rfl, rfl⟩

theorem Store.after_aligned (calls : List Call) : (Store.empty.after calls).Aligned := by
  refine (run_induction (P := fun s : Store => s.Aligned ∧ s.board.Sound ∧ s.Numbered) ?_
    ⟨?_, Store.after_sound [], Store.after_numbered []⟩).1
  · rintro c _ s₁ s₂ ⟨hs, hsound, hnum⟩ h
    exact ⟨hs.exec hsound hnum h, hsound.steps (exec_refines c.2 hsound h), hnum.exec h⟩
  · intro a r a' r' hr
    cases hr

/-- The attempt that carries the fencing epoch of its task is its latest one. -/
theorem latestAttempt_of_epoch (hs : s.Aligned) (hsound : s.board.Sound) {a : AttemptId}
    {r : AttemptRow} {task : TaskRow} (hr : s.attempts.lookup a = some r)
    (htask : s.tasks.lookup r.taskId = some task) (hepoch : r.leaseEpoch = task.fencingEpoch) :
    s.latestAttempt r.taskId = some (a, r) := by
  refine latestAttempt_eq_some.mpr ⟨hr, rfl, ?_⟩
  intro a' r' hr' ht'
  refine hs a' r' a r hr' hr ht'.symm ?_
  obtain ⟨v, hv, hle⟩ := hsound.coherent.attempt_task a' r'.view (Table.view_of_lookup hr')
  rw [show r'.view.task = r.taskId from ht'] at hv
  cases (Table.view_of_lookup htask).symm.trans hv
  rw [hepoch]
  exact hle

/-- **The subject of an escalation.** An open escalation names the agent of the latest attempt of
    its task, and that attempt is closed. -/
theorem latestAttempt_of_open (hs : s.Aligned) (hsound : s.board.Sound) (howed : s.board.Owed)
    {e : EscalationId} {x : EscalationRow} (hx : s.escalations.lookup e = some x)
    (ho : x.state = .opened) : ∃ a r task, s.latestAttempt x.taskId = some (a, r) ∧
      r.taskId = x.taskId ∧ x.logicalAgentId = some r.logicalAgentId ∧ r.state ≠ .active ∧
      s.tasks.lookup x.taskId = some task ∧ r.leaseEpoch = task.fencingEpoch := by
  have hview : s.board.escalation e = some x.view := Table.view_of_lookup hx
  have hopen : x.view.isOpen = true := decide_eq_true ho
  obtain ⟨a, w, v, hw, hwt, hwg, hv, hep⟩ := howed e x.view hview hopen
  obtain ⟨r, hr, rfl⟩ := Table.view_eq_some.mp hw
  obtain ⟨task, htask, rfl⟩ := Table.view_eq_some.mp hv
  have ht : r.taskId = x.taskId := hwt
  refine ⟨a, r, task, ?_, ht, hwg, ?_, htask, hep⟩
  · rw [← ht]
    exact latestAttempt_of_epoch hs hsound hr (by rw [ht]; exact htask) hep
  · intro hactive
    obtain ⟨v', hv', hcur⟩ := hsound.coherent.active_current a r.view hw (decide_eq_true hactive)
    rw [hwt] at hv'
    cases hv.symm.trans hv'
    have hassigned := (hsound.coherent.assigned_iff _ _ hv).mpr (by rw [hcur]; rfl)
    obtain ⟨v'', hv'', -, hst⟩ := hsound.coupled.open_task e x.view hview hopen
    cases hv.symm.trans hv''
    rcases hst with hst | hst <;> rw [hst] at hassigned <;> cases hassigned

/-- **Attempts are numbered in the order of their claims**, in every reachable store. -/
theorem attempts_numbered (calls : List Call) :
    let s := Store.empty.after calls
    s.Numbered ∧ s.Aligned :=
  ⟨after_numbered calls, after_aligned calls⟩

end Agentype

import Agentype.Contract.Assignment

/-!
# `Agentype.Contract.Results` — terminal tasks and their results

A completed or cancelled task never moves again, a task is completed exactly when it has its one
result, and every result was written by a claim that passed the fence at that moment.

## Contents
- `ResultOf s r t`: `r` is a result of task `t`.
- `newResult_of_runs`: only a success writes a result, and only under the fence.
- `WrittenBy before c r row`: the call `c`, made after `before`, wrote the result `r`.
-/

namespace Agentype

open Relational Tx Store Board

variable {env : Env} {s s' : Store}
variable {row : ResultRow}

/-- The result `r` is one of task `t`. -/
def ResultOf (s : Store) (r : ResultId) (t : TaskId) : Prop :=
  ∃ row, s.results.lookup r = some row ∧ row.taskId = t

/-- **Completed exactly with one result.** -/
theorem completed_iff_result (hs : s.board.Recorded) {t : TaskId} {task : TaskRow}
    (ht : s.tasks.lookup t = some task) :
    task.state = .completed ↔ ∃! r, ResultOf s r t := by
  constructor
  · intro hc
    obtain ⟨r, _, hr, htask⟩ := hs.completed_result t task.view (Table.view_of_lookup ht) hc
    obtain ⟨row, hrow, rfl⟩ := Table.view_eq_some.mp hr
    refine ⟨r, ⟨row, hrow, htask⟩, ?_⟩
    rintro r' ⟨row', hrow', htask'⟩
    exact hs.result_unique r' r row'.view row.view (Table.view_of_lookup hrow') hr
      (htask'.trans htask.symm)
  · rintro ⟨r, ⟨row, hrow, rfl⟩, -⟩
    obtain ⟨v, -, hv, hc, -⟩ := hs.result_task r row.view (Table.view_of_lookup hrow)
    rw [show s.board.task row.view.task = some task.view from Table.view_of_lookup ht] at hv
    rw [← Option.some.inj hv] at hc
    exact hc

/-! ## Who wrote a result -/

/-- A completed claim stores its own result and no other. -/
theorem ackComplete_results {a : AttemptId} {r : ClaimRecords}
    {x : Option (ExecutionId × ExecutionRow)} {p : JsonValue} {sm : Option String}
    {q reusable : Bool} {id id' : ResultId}
    (h : Runs env (ackComplete a r x p sm q reusable) s id s') (hold : s.results.lookup id' = none)
    (hnew : s'.results.lookup id' = some row) :
    row.attemptId = a ∧ row.taskId = r.attempt.taskId := by
  unfold ackComplete at h
  obtain ⟨_, -, h⟩ := h.examine_bind
  obtain ⟨_, s₁, h₁, h⟩ := h.bind
  obtain ⟨_, s₂, h₂, h⟩ := h.bind
  obtain ⟨_, s₃, h₃, h⟩ := h.bind
  obtain ⟨_, s₄, h₄, h⟩ := h.bind
  obtain ⟨_, s₅, h₅, h⟩ := h.bind
  obtain ⟨result, s₆, h₆, h⟩ := h.bind
  have hbefore : s₆.results = s.results := by
    have e₁ := frame h₁ .results rfl
    have e₂ := frame h₂ .results rfl
    have e₃ := frame h₃ .results rfl
    have e₄ := frame h₄ .results rfl
    have e₅ := frame h₅ .results rfl
    have e₆ := frame h₆ .results rfl
    exact e₆.trans (e₅.trans (e₄.trans (e₃.trans (e₂.trans e₁))))
  obtain ⟨t', ht', h⟩ := h.insertInto_bind
  obtain ⟨_, s₇, h₇, h⟩ := h.bind
  obtain ⟨_, s₈, h₈, h⟩ := h.bind
  obtain ⟨_, s₉, h₉, h⟩ := h.bind
  obtain ⟨-, rfl⟩ := h.pure
  have hafter : s'.results = t' := by
    have e₇ := frame h₇ .results rfl
    have e₈ := frame h₈ .results rfl
    have e₉ := frame h₉ .results rfl
    exact e₉.trans (e₈.trans e₇)
  rw [hafter, (Table.lookup_of_insert ht').2] at hnew
  split at hnew
  · obtain rfl := Option.some.inj hnew
    exact ⟨rfl, rfl⟩
  · change s₆.results.lookup id' = some row at hnew
    rw [hbefore, hold] at hnew
    cases hnew

/-- **Only a success under the fence writes a result.** -/
theorem newResult_of_runs {op : Op} {u : Unit} {id : ResultId} (h : Runs env op.exec s u s')
    (hold : s.results.lookup id = none) (hnew : s'.results.lookup id = some row) :
    ∃ e x p sm q reusable r, op = .ackSuccess row.attemptId e x p sm q reusable ∧
      Authorized s row.attemptId e env.now r ∧ r.attempt.taskId = row.taskId := by
  have untouched {x : Prop} (heq : s'.results = s.results) : x := by
    rw [heq, hold] at hnew
    cases hnew
  cases op with
  | ackSuccess a e x p sm q reusable =>
    obtain ⟨_, h⟩ := runs_of_effect h
    unfold Agentype.ackSuccess at h
    obtain ⟨r, hauth, h⟩ := validateAuthorityTx_bind h
    have h := executionForAttempt_bind h
    split at h
    · obtain ⟨_, s₁, h₁, h⟩ := h.bind
      obtain ⟨-, rfl⟩ := h.pure
      obtain ⟨rfl, htask⟩ := ackComplete_results h₁ hold hnew
      exact ⟨e, x, p, sm, q, reusable, r, rfl, hauth, htask.symm⟩
    · obtain ⟨_, s₁, h₁, h⟩ := h.bind
      obtain ⟨-, rfl⟩ := h.pure
      exact untouched (frame h₁ .results rfl)
  | nack =>
    obtain ⟨_, h⟩ := runs_of_effect h
    exact untouched (frame h .results rfl)
  | reportConfigurationUnavailable =>
    obtain ⟨_, h⟩ := runs_of_effect h
    exact untouched (frame h .results rfl)
  | ackResult =>
    -- the acknowledgement rewrites an existing row
    obtain ⟨_, -, h⟩ := Tx.Runs.fetch_bind h
    rcases h.whenever with ⟨-, h⟩ | ⟨-, rfl⟩
    · obtain ⟨t', ht', rfl⟩ := h.updateIn
      have hsome := Table.lookup_isSome_of_update ht' id
      change (Table.lookup t' id).isSome = (s.results.lookup id).isSome at hsome
      rw [hold, show Table.lookup t' id = some row from hnew] at hsome
      cases hsome
    · exact untouched rfl
  | _ =>
    refine untouched ?_
    exact frame h .results (by simp [Op.footprint])

/-- The call `c`, made after `before`, wrote the result `r`: the result is there after the call and not
    before it, and the call acknowledged a claim that was current, unexpired and carried the fencing
    epoch of its task. -/
structure WrittenBy (before : List Call) (c : Call) (r : ResultId) (row : ResultRow) : Prop where
  fresh : (Store.empty.after before).results.lookup r = none
  written : ∃ first, (Store.empty.after (before ++ [c])).results.lookup r = some first ∧
    first.fixed = row.fixed
  ack : ∃ e x p sm q reusable records, c.2 = .ackSuccess row.attemptId e x p sm q reusable ∧
    Authorized (Store.empty.after before) row.attemptId e c.1.now records ∧
    records.attempt.taskId = row.taskId

/-- Every result of a history was written by one of its calls. -/
theorem result_written (calls : List Call) {r : ResultId}
    (hr : (Store.empty.after calls).results.lookup r = some row) :
    ∃ before c later, calls = before ++ c :: later ∧ WrittenBy before c r row := by
  induction calls using List.reverseRecOn generalizing row with
  | nil => cases hr
  | append_singleton calls c ih =>
    have hafter : Store.empty.after (calls ++ [c]) = (Store.empty.after calls).call c :=
      run_append _ _ _
    rw [hafter] at hr
    -- a row that was there before keeps its task and its attempt
    have old {row₀ : ResultRow} (h₀ : (Store.empty.after calls).results.lookup r = some row₀)
        (hfixed : row.fixed = row₀.fixed) :
        ∃ before d later, calls ++ [c] = before ++ d :: later ∧ WrittenBy before d r row := by
      have hattempt : row₀.attemptId = row.attemptId :=
        (congrArg ResultRow.attemptId hfixed).symm
      have htask : row₀.taskId = row.taskId := (congrArg ResultRow.taskId hfixed).symm
      obtain ⟨before, d, later, rfl, hfresh, ⟨first, hfirst, hsame⟩, hack⟩ := ih h₀
      refine ⟨before, d, later ++ [c], by simp, hfresh, ⟨first, hfirst, hsame.trans hfixed.symm⟩, ?_⟩
      rw [← hattempt, ← htask]
      exact hack
    rcases step_cases Op.exec (Store.empty.after calls) c with ⟨-, hrun⟩ | ⟨-, heq⟩
    · cases hold : (Store.empty.after calls).results.lookup r with
      | none =>
        obtain ⟨e, x, p, sm, q, reusable, records, hop, hauth, htask⟩ :=
          newResult_of_runs hrun hold hr
        exact ⟨calls, c, [], rfl, hold, ⟨row, hafter ▸ hr, rfl⟩, e, x, p, sm, q, reusable, records, hop, hauth, htask⟩
      | some row₀ =>
        obtain ⟨row', hrow', hfixed⟩ := (exec_ages c.2 _ _ _ _ hrun).results r row₀ hold
        cases hr.symm.trans hrow'
        exact old hold hfixed
    · change (step Op.exec (Store.empty.after calls) c).results.lookup r = some row at hr
      rw [heq] at hr
      exact old hr rfl

/-- **Terminal tasks are final and results are exact.** -/
theorem terminal_final_results_exact (calls : List Call) :
    (∀ (later : List Call) (t : TaskId) (task : TaskRow),
        (Store.empty.after calls).tasks.lookup t = some task → task.state.isTerminal = true →
        ∃ task', (Store.empty.after (calls ++ later)).tasks.lookup t = some task' ∧
          task'.state = task.state) ∧
      (∀ (t : TaskId) (task : TaskRow), (Store.empty.after calls).tasks.lookup t = some task →
        (task.state = .completed ↔ ∃! r, ResultOf (Store.empty.after calls) r t)) ∧
      (∀ (r : ResultId) (row : ResultRow), (Store.empty.after calls).results.lookup r = some row →
        (∃ task, (Store.empty.after calls).tasks.lookup row.taskId = some task ∧
          task.state = .completed) ∧
        ∃ before c later, calls = before ++ c :: later ∧ WrittenBy before c r row) := by
  have hsound := Store.after_sound calls
  refine ⟨fun later t task ht hterminal => ?_, fun t task ht => ?_, fun r row hr => ⟨?_, ?_⟩⟩
  · have hsteps := Store.after_refines later hsound
    obtain ⟨_, hv, hstate⟩ := hsound.terminal_steps hsteps (Table.view_of_lookup ht) hterminal
    obtain ⟨task', ht', rfl⟩ := Table.view_eq_some.mp hv
    have hafter : Store.empty.after (calls ++ later) = (Store.empty.after calls).after later :=
      run_append _ _ _
    exact ⟨task', by rw [hafter, ht'], hstate⟩
  · exact completed_iff_result hsound.recorded ht
  · obtain ⟨_, -, hv, hc, -⟩ := hsound.recorded.result_task r row.view (Table.view_of_lookup hr)
    obtain ⟨task, ht, rfl⟩ := Table.view_eq_some.mp hv
    exact ⟨task, ht, hc⟩
  · exact result_written calls hr

open Deployment in
/-- The worker succeeds: its task is completed for good and has exactly one result. -/
theorem terminal_final_results_exact_succeeded :
    let calls := running ++
      [(moment 7 "z", .ackSuccess "attempt_c" 1 none .emptyObject none true false)]
    (∃! r, ResultOf (Store.empty.after calls) r "edit") ∧
      ∃ task', (Store.empty.after (calls ++ [(moment 8 "w", .cancelTask "edit" true)])).tasks.lookup
        "edit" = some task' ∧ task'.state = .completed := by
  intro calls
  have hstate : ((Store.empty.after calls).tasks.lookup "edit").map TaskRow.state =
      some .completed := by decide +kernel
  obtain ⟨task, ht, hc⟩ := Option.map_eq_some_iff.mp hstate
  obtain ⟨hfinal, hexact, -⟩ := terminal_final_results_exact calls
  refine ⟨(hexact "edit" task ht).mp hc, ?_⟩
  obtain ⟨task', ht', hsame⟩ := hfinal [(moment 8 "w", .cancelTask "edit" true)] "edit" task ht
    (by rw [hc]; rfl)
  exact ⟨task', ht', hsame.trans hc⟩

end Agentype

import Agentype.Kernel.Fresh

/-!
# `Agentype.Kernel.Commits` — statements that do not fail

What a statement needs of the store in order to commit. Rewriting columns that no constraint looks at
needs nothing; a statement that names a new row needs a fresh identifier.

## Contents
- `updateTask_ensures`, `closeEscalation_ensures`: rewriting rows.
- `recomputeBatch_ensures`: a batch with a member that is not completed mints no event.
-/

namespace Agentype

open Relational Relational.Tx

variable {env : Env} {s : Store} {n : Nat}

/-- A task row may be rewritten as long as its retry policy stays. -/
theorem updateTask_ensures {t : TaskId} {f : TaskRow → TaskRow}
    (hf : ∀ r, (f r).retryPolicy = r.retryPolicy) :
    Ensures env (updateTask t f) s n fun _ _ _ => True := by
  obtain ⟨t', ht'⟩ : ∃ t', s.tasks.update (fun k _ => decide (k = t)) f = some t' := by
    refine Table.exists_update_of_imp (fun k r hr _ => ?_) fun _ _ _ _ _ _ h => h
    have hcheck : taskSchema.check k r = true := Table.check_of_lookup hr
    simpa [taskSchema, Schema.checked, hf] using hcheck
  exact .updateIn ht' trivial

/-- Closing an escalation cannot clash with an open one. -/
theorem closeEscalation_ensures {e : EscalationId} {resolve : Bool} :
    Ensures env (closeEscalation e resolve) s n fun _ _ _ => True := by
  obtain ⟨t', ht'⟩ : ∃ t', s.escalations.update (fun k _ => decide (k = e))
      (fun x => { x with state := .resolved }) = some t' := by
    refine Table.exists_update_of_imp (fun _ _ _ _ => rfl) ?_
    intro k r k' r' _ _ h
    simp only [escalationSchema, Table.updateRow, decide_eq_true_eq] at h ⊢
    by_cases hk : k = e <;> by_cases hk' : k' = e <;> simp_all
  unfold closeEscalation
  exact .whenever (fun _ => .updateIn ht' trivial) fun _ => trivial

/-- A batch is recomputed without an event while one of its members is not completed. -/
theorem recomputeBatch_ensures {b : BatchId} {row : BatchRow}
    (hrow : s.batches.lookup b = some row) {x : TaskId × TaskRow} (hx : x ∈ s.members b)
    (hopen : x.2.state ≠ .completed) : Ensures env (recomputeBatch b) s n fun _ _ _ => True := by
  obtain ⟨next, hnext, hne⟩ : ∃ next, s.aggregateState b = .ok next ∧ next ≠ .completed := by
    unfold Store.aggregateState
    have hempty : (s.members b).isEmpty = false := by
      rw [List.isEmpty_eq_false_iff]
      exact List.ne_nil_of_mem hx
    have hall : ((s.members b).all fun x => x.2.state = .completed) = false := by
      rw [List.all_eq_false]
      exact ⟨x, hx, by simpa using hopen⟩
    refine ⟨_, if_neg (by simp [hempty]), ?_⟩
    rw [hall, batchNextState]
    split_ifs <;> simp_all
  have hupdate : ∃ t', s.batches.update (fun k _ => decide (k = b))
      (fun row => { row with state := next }) = some t' :=
    Table.exists_update (fun _ _ _ => rfl) fun _ _ _ _ _ _ _ => rfl
  obtain ⟨t', ht'⟩ := hupdate
  unfold recomputeBatch
  refine .bind (.fetch hrow ?_)
  split_ifs
  · exact .pure trivial
  refine .bind (.examine hnext ?_)
  refine .whenever (fun _ => .bind (.updateIn ht' ?_)) fun _ => trivial
  exact .whenever (fun h => absurd (of_decide_eq_true h) hne) fun _ => trivial

end Agentype

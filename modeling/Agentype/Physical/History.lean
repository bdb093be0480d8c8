import Agentype.Physical.Writes

/-!
# `Agentype.Physical.History` — physical history against the execution graph

The state column of an execution is meant to move along the graph of
`physicalTransitionAllowed`. Two operations ask `requirePhysicalTransition`; the others write the
column under conditions of their own.

## Contents
- `ObeysGraph s s'`: every execution present on both sides moved along the graph. Since an operation
  writes one execution at most, `obeysGraph_overwritten` reads it off the written value.
- `Op.KeepsHistory s op`: what a call has to meet for its write to be an edge of the graph. Only
  `nack` (also under its name for a missing configuration) and the not-quiescent branch of
  `ackSuccess` can fail it.
- `obeysGraph_iff_keepsHistory`: for a committed call the two agree, in every store.
-/

namespace Agentype

open Relational Tx Store

variable {env : Env} {s s' : Store}
variable {a : AttemptId} {qc : Bool}

/-! ## The relation -/

/-- Every execution present before and after moved along the graph. -/
def ObeysGraph (s s' : Store) : Prop :=
  ∀ x e e', s.executions.lookup x = some e → s'.executions.lookup x = some e' →
    physicalTransitionAllowed e.state e'.state

/-- Executions that were kept as they are obey the graph. -/
theorem ObeysGraph.of_kept (h : ∀ x e e', s.executions.lookup x = some e →
    s'.executions.lookup x = some e' → e' = e) : ObeysGraph s s' := by
  intro x e e' he he'
  rw [h x e e' he he']
  exact physicalTransitionAllowed_refl e.state

theorem obeysGraph_overwritten {w : Option ExecutionWrite}
    (h : ∀ y, s'.executions.lookup y = overwritten s.executions w y) :
    ObeysGraph s s' ↔ ∀ w', w = some w' → ∀ e, s.executions.lookup w'.id = some e →
      physicalTransitionAllowed e.state (w'.value e).state :=
  overwritten_iff (P := fun e e' => physicalTransitionAllowed e.state e'.state)
    (fun e => physicalTransitionAllowed_refl e.state) h

/-! ## Writes against the graph -/

theorem cancelled_allowed (q : Bool) (e : ExecutionRow) :
    physicalTransitionAllowed e.state (ExecutionRow.cancelled q e).state := by
  unfold ExecutionRow.cancelled
  split
  · rename_i hactive
    show physicalTransitionAllowed e.state (cancelledPresence q) = true
    exact physicalTransitionAllowed_of_active hactive (by cases q <;> decide)
      (by cases q <;> decide)
  · exact physicalTransitionAllowed_refl e.state

theorem finalized_allowed (isolation q : Bool) (e : ExecutionRow) :
    physicalTransitionAllowed e.state (ExecutionRow.finalized isolation q e).state := by
  unfold ExecutionRow.finalized
  split
  · show physicalTransitionAllowed e.state (if _ then _ else _) = true
    cases e.state <;> decide
  · split
    · show physicalTransitionAllowed e.state (if _ then _ else _) = true
      cases e.state <;> decide
    · exact physicalTransitionAllowed_refl e.state

/-- The physical state of the execution of an attempt. -/
def Store.physicalState (s : Store) (a : AttemptId) : Option ExecutionState :=
  (s.executionOfAttempt a).map fun x => x.2.state

/-- **A failure report.** Without a terminal confirmation it writes `UNKNOWN`, which is no edge of
    the graph from `RUNNING`. -/
theorem failureWrite_allowed_iff {c : FailureClass} {tc : Bool} :
    (∀ w, s.failureWrite a c tc qc = some w → ∀ e, s.executions.lookup w.id = some e →
      physicalTransitionAllowed e.state (w.value e).state) ↔
      (tc = false → s.physicalState a ≠ some .running) := by
  unfold Store.failureWrite Store.physicalState
  cases hx : s.executionOfAttempt a with
  | none => simp
  | some x =>
    have hlook := (executionOfAttempt_eq_some.mp hx).1
    simp only [Option.bind_eq_bind, Option.bind_some, Option.map_some, ne_eq, Option.some.injEq]
    by_cases hactive : x.2.state.isActivePhysical = true
    · simp only [hactive, if_true, Option.some.injEq, forall_eq', hlook, ExecutionRow.failed]
      revert hactive
      cases x.2.state <;> cases tc <;> decide
    · -- a row that has left the active states is not written
      have hne : x.2.state ≠ .running := fun hrun => hactive (by rw [hrun]; rfl)
      simp [hactive, hne]

/-- A success writes `SUCCEEDED` whatever the row shows. -/
theorem succeeded_allowed_iff {p : JsonValue} :
    (∀ w : ExecutionWrite,
      ((s.executionOfAttempt a).map fun x => ⟨x.1, ExecutionRow.succeeded p qc⟩) = some w →
      ∀ e, s.executions.lookup w.id = some e →
        physicalTransitionAllowed e.state (w.value e).state) ↔
      s.physicalState a ≠ some .failed ∧ s.physicalState a ≠ some .terminated := by
  unfold Store.physicalState
  cases hx : s.executionOfAttempt a with
  | none => simp
  | some x =>
    have hlook := (executionOfAttempt_eq_some.mp hx).1
    simp only [Option.map_some, Option.some.injEq, forall_eq', hlook, ne_eq,
      ExecutionRow.succeeded]
    cases x.2.state <;> decide

/-- The writer rule lets a success of this claim complete its task. -/
def Store.claimWriterSafe (s : Store) (a : AttemptId) (quiescent : Bool) : Bool :=
  ((s.attempts.lookup a).bind fun x => s.tasks.lookup x.taskId).all fun t =>
    writerSafe t.workspaceMode (s.executionOfAttempt a) quiescent

/-- A completion asks for the state first. -/
theorem canSucceed_of_ackSuccess {ep : LeaseEpoch} {x : Option ExecutionId} {p : JsonValue}
    {sm : Option String} {r : Bool} {res : Option ResultId}
    (h : Runs env (ackSuccess a ep x p sm qc r) s res s') (hsafe : s.claimWriterSafe a qc = true) :
    s.physicalState a ≠ some .failed ∧ s.physicalState a ≠ some .terminated := by
  unfold ackSuccess at h
  obtain ⟨records, hr, h⟩ := validateAuthorityTx_bind h
  replace h := executionForAttempt_bind h
  unfold Store.claimWriterSafe at hsafe
  rw [hr.attempt, Option.bind_some, hr.task, Option.all_some] at hsafe
  rw [if_pos hsafe] at h
  obtain ⟨id, s₁, hc, -⟩ := h.bind
  have hcan := (ackComplete_physical hc).1
  unfold Store.physicalState
  cases hx : s.executionOfAttempt a with
  | none => simp
  | some x =>
    rw [hx] at hcan
    unfold canSucceed at hcan
    revert hcan
    simp only [Option.map_some, ne_eq, Option.some.injEq]
    cases x.2.state <;> simp [ExecutionState.isActivePhysical]

/-! ## Whole histories -/

/-- What the store must look like for the physical write of a call to be an edge of the graph. A
    failure report without terminal confirmation must not find its execution `RUNNING`; a success
    the writer rule refuses must not find it `FAILED` or `TERMINATED`. -/
def Op.KeepsHistory (s : Store) : Op → Prop
  | .nack a _ _ _ tc _ _ => tc = false → s.physicalState a ≠ some .running
  | .reportConfigurationUnavailable a _ => s.physicalState a ≠ some .running
  | .ackSuccess a _ _ _ _ qc _ => s.claimWriterSafe a qc = false →
      s.physicalState a ≠ some .failed ∧ s.physicalState a ≠ some .terminated
  | _ => True

/-- **One committed call**, in any store. -/
theorem obeysGraph_iff_keepsHistory {op : Op} (h : Runs env op.exec s () s') :
    ObeysGraph s s' ↔ op.KeepsHistory s := by
  cases exec_executions h with
  | created hop hnone hrow hlook =>
    refine iff_of_true (.of_kept fun x e e' he he' => ?_) (by cases op <;> trivial)
    rw [hlook, if_neg (by rintro rfl; rw [hnone] at he; cases he), he] at he'
    exact (Option.some.inj he').symm
  | erased hop hrow hattempt hstate hlook =>
    subst hop
    refine iff_of_true (.of_kept fun x e e' he he' => ?_) trivial
    rw [hlook] at he'
    split at he'
    · cases he'
    · exact Option.some.inj (he'.symm.trans he)
  | written hguard hlook =>
    rw [obeysGraph_overwritten hlook]
    cases op with
    | confirmRunningAndRenew =>
      refine iff_of_true (fun w hw e he => ?_) trivial
      have hactive := (hguard w e hw he).2
      obtain rfl := Option.some.inj hw
      show physicalTransitionAllowed e.state .running = true
      exact physicalTransitionAllowed_of_active hactive (by decide) (by decide)
    | recordPhysicalOutcome | recordPendingPhysicalTerminal =>
      refine iff_of_true (fun w hw e he => ?_) trivial
      have hallowed := (hguard w e hw he).1
      obtain rfl := Option.some.inj hw
      exact hallowed
    | recordRuntimeHandleHint =>
      refine iff_of_true (fun w hw e _ => ?_) trivial
      obtain rfl := Option.some.inj hw
      exact physicalTransitionAllowed_refl e.state
    | cancelTask t q =>
      refine iff_of_true (fun w hw e _ => ?_) trivial
      obtain ⟨x, -, rfl⟩ := Option.map_eq_some_iff.mp hw
      exact cancelled_allowed _ e
    | resolveEscalation id operation q =>
      refine iff_of_true (fun w hw e _ => ?_) trivial
      simp only [Op.physicalWrite, Option.bind_eq_bind, Option.bind_eq_some_iff] at hw
      obtain ⟨row, -, x, -, hw⟩ := hw
      split at hw
      · obtain rfl := Option.some.inj hw
        exact finalized_allowed _ _ e
      · cases hw
    | nack => exact failureWrite_allowed_iff
    | reportConfigurationUnavailable =>
      exact failureWrite_allowed_iff.trans ⟨fun hk => hk rfl, fun hk _ => hk⟩
    | ackSuccess a ep x p sm qc =>
      obtain ⟨res, h⟩ := runs_of_effect h
      refine succeeded_allowed_iff.trans ⟨fun hk _ => hk, fun hk => ?_⟩
      cases hsafe : s.claimWriterSafe a qc with
      | true => exact canSucceed_of_ackSuccess h hsafe
      | false => exact hk hsafe
    | _ =>
      refine iff_of_true (fun w hw => ?_) trivial
      cases hw

/-- **Physical history obeys the graph exactly in the histories that keep it.** Every call of a
    history moves every execution along the graph if and only if every call that commits meets its
    condition in the store it finds. -/
theorem history_obeysGraph_iff (s : Store) (calls : List Call) :
    EveryCall Op.exec (fun s c => ObeysGraph s (s.call c)) s calls ↔
      EveryCall Op.exec (fun s c => Commits Op.exec s c → c.2.KeepsHistory s) s calls := by
  refine EveryCall.congr (fun s c => ?_) calls s
  rcases step_cases Op.exec s c with ⟨hc, h⟩ | ⟨hc, h⟩
  · rw [obeysGraph_iff_keepsHistory h]
    exact ⟨fun hk _ => hk, fun hk => hk hc⟩
  · refine iff_of_true ?_ fun hcommit => absurd hcommit hc
    refine .of_kept fun x e e' he he' => ?_
    rw [show s.call c = s from h] at he'
    exact Option.some.inj (he'.symm.trans he)

/-- The physical state an execution row shows after a history of calls from the empty store. -/
def stateAfter (calls : List Call) (x : ExecutionId) : Option ExecutionState :=
  ((Store.empty.after calls).executions.lookup x).map ExecutionRow.state

open Deployment in
/-- A timeout reported without terminal confirmation rewrites `RUNNING` to `UNKNOWN`, and a success
    reported without quiescence rewrites a recorded `FAILED` to `SUCCEEDED`. -/
theorem running_forgotten_and_failure_rewritten :
    (let failed := running ++ [(moment 7 "z", .recordPendingPhysicalTerminal "exec_x" .failed none none
        none (some .timeout) false false)]
     let forgotten := running ++ [(moment 7 "z", .nack "attempt_c" 1 .timeout none false false false)]
     let rewritten := failed ++
       [(moment 8 "w", .ackSuccess "attempt_c" 1 none .emptyObject none false false)]
     stateAfter running "exec_x" = some .running ∧ stateAfter forgotten "exec_x" = some .unknown ∧
     physicalTransitionAllowed .running .unknown = false ∧
     stateAfter failed "exec_x" = some .failed ∧ stateAfter rewritten "exec_x" = some .succeeded ∧
     physicalTransitionAllowed .failed .succeeded = false) := by
  decide +kernel

end Agentype

import Agentype.Physical.Closing

/-!
# `Agentype.Physical.Endings` — every ending of a claim is a settlement

Success, failure, abort, cancellation and expiry, each as a `Settlement`. The executions of the
claim stop being active, or the incarnation behind them is fenced, before the attempt is closed.

## Contents
- `Still`-lemmas: the statements after which no execution of the claim is active.
- `ackSuccess_settlement`, `nack_settlement`, `nackPreserving_settlement`, `abort_settlement`,
  `cancelTask_settlement`, `cancelBatchAttempt_settlement`, `expireClaim_settlement`.
-/

namespace Agentype

open Relational Tx Store Board

-- a clause is inferred in as many steps as the settlement has statements
set_option synthInstance.maxSize 100000

variable {env : Env} {s s' s₁ : Store} {a : AttemptId} {g : LogicalAgentId}
variable {u : Unit} {p : JsonValue} {q qc reusable : Bool} {c : FailureClass}
  {x : Option (ExecutionId × ExecutionRow)} {j : IncarnationId} {i : Option IncarnationId}
  {e : LeaseEpoch} {r : ClaimRecords} {y : Option ExecutionId} {st : TaskState} {row : ExpireRow}

/-! ## Ended executions -/

theorem still_of_none (h : s.executionOfAttempt a = none) : s.Still a := by
  intro y e he ha
  rw [executionOfAttempt_eq_some.mpr ⟨he, ha⟩] at h
  cases h

/-- The execution of an attempt, by its identity. -/
theorem executionOfAttempt_key {y z : ExecutionId} {row e : ExecutionRow}
    (h : s.executionOfAttempt a = some (y, row)) (he : s.executions.lookup z = some e)
    (ha : e.attemptId = a) : z = y ∧ e = row := by
  have hz := executionOfAttempt_eq_some.mpr ⟨he, ha⟩
  obtain ⟨rfl, rfl⟩ := Prod.mk.inj (Option.some.inj (hz.symm.trans h))
  exact ⟨rfl, rfl⟩

/-- A write that ends the execution of the attempt. -/
theorem still_of_write {f : ExecutionRow → ExecutionRow} (hx : s.executionOfAttempt a = x)
    (h : ∀ z, s'.executions.lookup z = overwritten s.executions (x.map fun x => ⟨x.1, f⟩) z)
    (hend : ∀ e, (f e).state.isActivePhysical = false) : s'.Still a := by
  intro z e' he' ha
  rw [h] at he'
  cases x with
  | none => exact still_of_none hx z e' he' ha
  | some x =>
    simp only [Option.map_some, overwritten] at he'
    split at he'
    · obtain ⟨e, -, rfl⟩ := Option.map_eq_some_iff.mp he'
      exact hend e
    · rename_i hne
      exact absurd (executionOfAttempt_key hx he' ha).1 hne

theorem succeedExecution_still
    (h : Runs env (succeedExecution p q (s.executionOfAttempt a)) s u s') : s'.Still a :=
  still_of_write rfl (succeedExecution_overwritten h) fun _ => rfl

theorem nackExecution_still
    (h : Runs env (nackExecution c true qc (s.executionOfAttempt a)) s u s') : s'.Still a := by
  cases hx : s.executionOfAttempt a with
  | none =>
    rw [hx] at h
    obtain ⟨-, rfl⟩ := h.pure
    exact still_of_none hx
  | some x =>
    rw [hx, nackExecution] at h
    split at h
    · rename_i hended
      obtain ⟨-, rfl⟩ := h.pure
      intro z e he ha
      rw [(executionOfAttempt_key hx he ha).2]
      revert hended
      cases x.2.state <;> decide
    · obtain ⟨-, h⟩ := h.require_bind
      exact still_of_write hx (updateExecution_overwritten h) fun _ => rfl

theorem cancelledPresence_inactive (q : Bool) : (cancelledPresence q).isActivePhysical = false := by
  cases q <;> rfl

theorem cancelExecution_still (hx : s.executionOfAttempt a = x)
    (h : Runs env (cancelExecution q x) s u s') : s'.Still a := by
  refine still_of_write hx (cancelExecution_overwritten h) fun e => ?_
  unfold ExecutionRow.cancelled
  split
  · exact cancelledPresence_inactive q
  · rename_i hinactive
    exact Bool.eq_false_iff.mpr hinactive

/-- Confirmed quiescence and an isolated attempt both end the execution. -/
theorem finalizeEscalatedExecution_still {isolation : Bool} (hsafe : (q || isolation) = true)
    (h : Runs env (finalizeEscalatedExecution
      ((s.executionOfAttempt a).map Prod.fst) isolation q) s u s') : s'.Still a := by
  refine still_of_write (s := s) (f := .finalized isolation q) rfl (fun z => ?_) fun e => ?_
  · rw [finalizeEscalatedExecution_overwritten h, Option.map_map]
    rfl
  · unfold ExecutionRow.finalized
    grind [ExecutionState.isActivePhysical]

/-! ## Fenced incarnations -/

theorem setIncarnationState_dead {source : IncarnationState → Bool} {st : IncarnationState}
    (hst : st.isLivePresence = false)
    (hsource : ∀ st₀, st₀.isLivePresence = true → source st₀ = true)
    (h : Runs env (setIncarnationState j source st) s u s') : ¬ s'.LiveHost j := by
  obtain ⟨t', ht', rfl⟩ := Tx.Runs.updateIn h
  rintro ⟨r', hr', hlive⟩
  change t'.lookup j = some r' at hr'
  rw [Table.lookup_of_update ht'] at hr'
  obtain ⟨r, hr, rfl⟩ := Option.map_eq_some_iff.mp hr'
  unfold Table.updateRow at hlive
  split at hlive
  · rw [hst] at hlive
    cases hlive
  · rename_i hskip
    exact hskip (by simp [hsource _ hlive])

/-- A report of an end without reuse fences the incarnation. -/
theorem recordIncarnationPresence_dead {st : ExecutionState} {tc : Bool}
    (hst : st.isActivePhysical = false) (hreuse : (reusable && tc && qc) = false)
    (h : Runs env (recordIncarnationPresence i st tc qc reusable) s u s') (hj : i = some j) :
    ¬ s'.LiveHost j := by
  subst hj
  have hfence : incarnationPresence st tc qc reusable = .fenceTerminated ∨
      incarnationPresence st tc qc reusable = .fenceLost := by
    revert hst hreuse
    cases st <;> cases tc <;> cases qc <;> cases reusable <;> decide
  unfold recordIncarnationPresence at h
  rcases hfence with hf | hf
  · simp only [hf] at h
    exact setIncarnationState_dead rfl (fun st₀ hl => by cases st₀ <;> first | rfl | cases hl) h
  · simp only [hf] at h
    exact setIncarnationState_dead rfl (fun _ hl => hl) h

theorem loseIncarnation_dead (h : Runs env (loseIncarnation i) s u s') (hj : i = some j) :
    ¬ s'.LiveHost j := by
  subst hj
  exact setIncarnationState_dead rfl (fun _ hl => hl) h

/-! ## Success -/

/-- A claim that owns its task has no open escalation. -/
theorem Authorized.undecided {now : UnixTime} (h : Authorized s a e now r) (hs : s.board.Sound) :
    s.board.Undecided r.attempt.taskId :=
  h.held.not_open hs

theorem ackComplete_settlement {sm : Option String} {id : ResultId} (ht : s.Tied)
    (hr : s.attempts.lookup a = some r.attempt) (hactive : r.attempt.state = .active)
    (h : Runs env (ackComplete a r (s.executionOfAttempt a) p sm q reusable) s id s') :
    Settlement env s s' a r.attempt r.task := by
  unfold ackComplete at h
  obtain ⟨_, -, h⟩ := h.examine_bind
  obtain ⟨_, s₁, h₁, h⟩ := h.bind
  have hbacked := ht.backed hr
  have hw₁ := h₁.respects (succeedExecution_handles p q) hbacked
  have hw₂ : Works a r.attempt.logicalAgentId env s₁ s' :=
    h.respects (.bind (recordIncarnationPresence_handles _ _ _ _) fun _ =>
      .bind (closeAttempt_handles _ _ (by decide)) fun _ => .bind (.aside rfl) fun _ =>
      .bind (.aside rfl) fun _ => .bind (newId_respects _) fun _ => .bind (.aside rfl) fun _ =>
      .bind releaseAgent_handles fun _ => .aside rfl) (hbacked.works hw₁)
  have hclosed : ¬ s'.ActiveClaim a := by
    obtain ⟨_, s₂, -, h⟩ := h.bind
    obtain ⟨_, s₃, h₃, h⟩ := h.bind
    exact Closes.not_activeClaim (h.respects (.aside rfl))
      (Shuts.closeAttempt _ _ (by decide) env _ _ _ h₃)
  exact .of_still hr hactive (trans_of (Works a _ env) hw₁ hw₂) hclosed
    ((succeedExecution_still h₁).works hw₂)

theorem ackNotQuiescent_settlement (ht : s.Tied) (hr : s.attempts.lookup a = some r.attempt)
    (hactive : r.attempt.state = .active)
    (h : Runs env (ackNotQuiescent a r (s.executionOfAttempt a) p) s u s') :
    Settlement env s s' a r.attempt r.task := by
  unfold ackNotQuiescent at h
  obtain ⟨_, s₁, h₁, h⟩ := h.bind
  have hbacked := ht.backed hr
  have hw₁ := h₁.respects (succeedExecution_handles p false) hbacked
  have hw₂ : Works a r.attempt.logicalAgentId env s₁ s' :=
    h.respects (.bind (recordIncarnationPresence_handles _ _ _ _) fun _ =>
      .bind (.aside rfl) fun _ => suspendCurrent_handles _ _ _) (hbacked.works hw₁)
  have hclosed := closed_of_runs (a := a) h
    (.later fun _ => .later fun _ => .suspendCurrent _ _ _)
  exact .of_still hr hactive (trans_of (Works a _ env) hw₁ hw₂) hclosed
    ((succeedExecution_still h₁).works hw₂)

/-- **Success.** -/
theorem ackSuccess_settlement {sm : Option String} {id : Option ResultId} (ht : s.Tied)
    (h : Runs env (ackSuccess a e y p sm q reusable) s id s') :
    ∃ r, Authorized s a e env.now r ∧ Settlement env s s' a r.attempt r.task := by
  unfold ackSuccess at h
  obtain ⟨r, hauth, h⟩ := validateAuthorityTx_bind h
  have h := executionForAttempt_bind h
  refine ⟨r, hauth, ?_⟩
  split at h
  · obtain ⟨id, s₁, h₁, h⟩ := h.bind
    obtain ⟨-, rfl⟩ := h.pure
    exact ackComplete_settlement ht hauth.attempt hauth.attemptActive h₁
  · obtain ⟨u, s₁, h₁, h⟩ := h.bind
    obtain ⟨-, rfl⟩ := h.pure
    exact ackNotQuiescent_settlement ht hauth.attempt hauth.attemptActive h₁

/-! ## Failure -/

/-- A claim that is not retried safely leaves an obligation. -/
theorem retryOrSuspend_obliged (hno : s.board.Undecided r.attempt.taskId)
    (h : Runs env (retryOrSuspend a r c false) s st s') :
    s'.board.ObligedFor r.attempt.taskId r.attempt.logicalAgentId := by
  unfold retryOrSuspend at h
  rw [Bool.and_false, if_neg Bool.false_ne_true] at h
  obtain ⟨_, s₁, h₁, h⟩ := h.bind
  obtain ⟨-, rfl⟩ := h.pure
  exact suspendCurrent_obliged hno h₁

/-- A settlement after which the writer may be replaced, or an obligation is open. -/
theorem Settlement.of_writer {r : AttemptRow} {task : TaskRow} (hr : s.attempts.lookup a = some r)
    (hactive : r.state = .active) (hw : Works a r.logicalAgentId env s s')
    (hclosed : ¬ s'.ActiveClaim a) (htame : s'.Tame a) (hq : q = true → s'.Still a)
    (hobliged : writerSafe task.workspaceMode (s.executionOfAttempt a) q = false →
      s'.board.ObligedFor r.taskId r.logicalAgentId) : Settlement env s s' a r task := by
  refine ⟨hr, hactive, hw, hclosed, htame, fun y e he ha hphys => ?_⟩
  cases hsafe : writerSafe task.workspaceMode (s.executionOfAttempt a) q with
  | true => exact (vouched_of_safe hsafe hw hq he ha hphys).imp_right .inl
  | false => exact .inr (.inr (hobliged hsafe))

/-- The decision on a failed claim, after its execution has been written. A confirmed end has ended
    the row, everything else fences the incarnation. -/
theorem failure_settlement (tc qc : Bool) {v : Unit} {s₂ : Store} (hs : s.board.Sound) (ht : s.Tied)
    (hauth : Authorized s a e env.now r) (hw₁ : Works a r.attempt.logicalAgentId env s s₁)
    (hboard : s₁.board = s.board) (hstill : tc = true → s₁.Still a)
    (h₁ : Runs env (recordIncarnationPresence r.attempt.incarnationId (failurePresence c) tc
      (durableQuiescence tc qc) reusable) s₁ v s₂)
    (h : Runs env (retryOrSuspend a r c (writerSafe r.task.workspaceMode (s.executionOfAttempt a)
      (durableQuiescence tc qc))) s₂ st s') : Settlement env s s' a r.attempt r.task := by
  have hbacked := ht.backed hauth.attempt
  have hw₂ := h₁.respects (recordIncarnationPresence_handles _ _ _ _) (hbacked.works hw₁)
  have hw := trans_of (Works a _ env) hw₁ hw₂
  have hw' : Works a r.attempt.logicalAgentId env s₂ s' :=
    h.respects (retryOrSuspend_handles c _) (hbacked.works hw)
  have htame : s₂.Tame a := by
    cases htc : tc with
    | true => exact ((hstill htc).works hw₂).tame
    | false =>
      subst htc
      refine ht.tame_of_fenced hauth.attempt hw fun j hj => ?_
      refine recordIncarnationPresence_dead ?_ (by simp) h₁ hj
      unfold failurePresence
      split <;> rfl
  refine .of_writer (q := durableQuiescence tc qc) hauth.attempt hauth.attemptActive
    (trans_of (Works a _ env) hw hw') (closed_of_runs h (.retryOrSuspend c _)) (htame.works hw')
    (fun hq => ?_) fun hrisk => ?_
  · exact ((hstill (Bool.and_eq_true_iff.mp hq).1).works hw₂).works hw'
  · rw [hrisk] at h
    refine retryOrSuspend_obliged ?_ h
    rw [board_frame h₁ rfl, hboard]
    exact hauth.undecided hs

/-- **Failure.** -/
theorem nack_settlement {tc : Bool} (hs : s.board.Sound) (ht : s.Tied)
    (h : Runs env (nack a e c y tc qc reusable) s st s') :
    ∃ r, Authorized s a e env.now r ∧ Settlement env s s' a r.attempt r.task := by
  unfold nack at h
  obtain ⟨r, hauth, h⟩ := validateAuthorityTx_bind h
  refine ⟨r, hauth, ?_⟩
  obtain ⟨_, s₁, h₁, h⟩ := (executionForAttempt_bind h).bind
  obtain ⟨_, s₂, h₂, h⟩ := h.bind
  obtain ⟨_, s₃, h₃, h⟩ := h.bind
  have hw₁ := h₁.respects (.aside (R := Handles a _ _ _) rfl) (ht.backed hauth.attempt)
  have e₁ : s₁.executionOfAttempt a = s.executionOfAttempt a := executionOfAttempt_congr
    (frame h₁ .executions rfl) a
  rw [← e₁] at h₂
  refine failure_settlement tc qc hs ht hauth (trans_of (Works a _ env) hw₁ (nackExecution_works h₂))
    ((board_frame h₂ rfl).trans (board_frame h₁ rfl)) ?_ h₃ h
  rintro rfl
  exact nackExecution_still h₂

theorem nackPreserving_settlement (hs : s.board.Sound) (ht : s.Tied)
    (h : Runs env (nackPreservingPhysicalHistory a e c y) s st s') :
    ∃ r, Authorized s a e env.now r ∧ Settlement env s s' a r.attempt r.task := by
  unfold nackPreservingPhysicalHistory at h
  obtain ⟨r, hauth, h⟩ := validateAuthorityTx_bind h
  refine ⟨r, hauth, ?_⟩
  obtain ⟨_, s₁, h₁, h⟩ := (executionForAttempt_bind h).bind
  obtain ⟨_, s₂, h₂, h⟩ := h.bind
  have hw₁ := h₁.respects (.aside (R := Handles a _ _ _) rfl) (ht.backed hauth.attempt)
  exact failure_settlement false false hs ht hauth hw₁ (board_frame h₁ rfl)
    (fun h => by cases h) h₂ h

/-- **Abort.** The row is gone. -/
theorem abort_settlement {y : ExecutionId} (ht : s.Tied)
    (h : Runs env (abortBeforePhysicalStart a e y) s st s') :
    ∃ r, Authorized s a e env.now r ∧ Settlement env s s' a r.attempt r.task := by
  unfold abortBeforePhysicalStart at h
  obtain ⟨r, hauth, h⟩ := validateAuthorityTx_bind h
  refine ⟨r, hauth, ?_⟩
  obtain ⟨row, hrow, h⟩ := executionOfClaim_bind h
  obtain ⟨-, h⟩ := h.require_bind
  obtain ⟨-, h⟩ := h.query_bind.require_bind
  obtain ⟨_, s₁, h₁, h⟩ := h.bind
  have hbacked := ht.backed hauth.attempt
  rw [hrow] at hbacked
  have hw₁ := h₁.respects (eraseExecution_handles y row) hbacked
  have hw₂ : Works a r.attempt.logicalAgentId env s₁ s' :=
    h.respects (.bind (closeAttempt_handles _ _ (by decide)) fun _ =>
      .bind (.aside rfl) fun _ => .bind (.aside rfl) fun _ => .bind releaseAgent_handles fun _ => .pure _)
      (hbacked.works hw₁)
  have hclosed : ¬ s'.ActiveClaim a := by
    apply closed_of_runs h
    exact .first (.closeAttempt _ _ (by decide)) fun _ => .aside rfl
  have hstill : s₁.Still a := by
    obtain rfl := h₁.eraseFrom
    intro z e he ha
    change (s.executions.erase y).lookup z = some e at he
    rw [Table.lookup_erase] at he
    split at he
    · cases he
    · rename_i hne
      exact absurd (executionOfAttempt_key hrow he ha).1 hne
  exact .of_still hauth.attempt hauth.attemptActive (trans_of (Works a _ env) hw₁ hw₂) hclosed
    (hstill.works hw₂)

/-! ## Cancellation -/

/-- The current claim of a cancelled task. -/
theorem cancelCurrentAttempt_settlement {t : TaskId} {task : TaskRow} (hs : s.board.Sound)
    (ht : s.Tied) (htask : s.tasks.lookup t = some task) (hcurrent : task.currentAttemptId = some a)
    (h : Runs env (cancelCurrentAttempt t task q (some a)) s u s') :
    ∃ r, r.taskId = t ∧ Settlement env s s' a r task := by
  unfold cancelCurrentAttempt at h
  obtain ⟨r, hr, h⟩ := Tx.Runs.fetch_bind h
  obtain ⟨rfl, l, lease, hheld⟩ := held_of_current hs htask hcurrent hr
  refine ⟨r, rfl, ?_⟩
  obtain ⟨_, s₁, h₁, h⟩ := (executionForAttempt_bind h).bind
  obtain ⟨_, s₂, h₂, h⟩ := h.bind
  obtain ⟨_, s₃, h₃, h₄⟩ := h.bind
  have hbacked := ht.backed hr
  have hw₁ := h₁.respects (recordIncarnationPresence_handles _ _ _ _) hbacked
  have hw₂ := trans_of (Works a _ env) hw₁
    (h₂.respects cancelAuthority_handles (hbacked.works hw₁))
  have hw₃ := trans_of (Works a _ env) hw₂
    (h₃.respects (cancelExecution_handles _) (hbacked.works hw₂))
  have hw₄ := h₄.respects (cancelAgent_handles _ _ _ _ _) (hbacked.works hw₃)
  have e₁ : s₁.executions = s.executions := frame h₁ .executions rfl
  have e₂ : s₂.executions = s₁.executions := frame h₂ .executions rfl
  have hstill : s₃.Still a :=
    cancelExecution_still (executionOfAttempt_congr (e₂.trans e₁) a) h₃
  have hclosed : ¬ s'.ActiveClaim a := by
    refine Closes.not_activeClaim (h₄.respects (.aside rfl)) ?_
    refine Closes.not_activeClaim (h₃.respects (.aside rfl)) ?_
    exact closed_of_runs h₂ .cancelAuthority
  exact .of_still hr hheld.active (trans_of (Works a _ env) hw₃ hw₄) hclosed (hstill.works hw₄)

theorem closed_of_works (h : Works a g env s s') (hs : ¬ s.ActiveClaim a) : ¬ s'.ActiveClaim a := by
  rintro ⟨r', hr', hactive⟩
  obtain ⟨r, hr, hc⟩ := h.attempt r' hr'
  obtain rfl := hc.of_active hactive
  exact hs ⟨r', hr, hactive⟩

/-- Statements after the settlement proper. -/
theorem Settlement.then_respects {α : Type} {r : AttemptRow} {task : TaskRow} {y : KernelTx α}
    {b : α} (h : Settlement env s s₁ a r task) (hrun : Runs env y s₁ b s')
    (hy : ∀ i x, Respects (Handles a r.logicalAgentId i x) y) (hboard : s'.board.escalation =
      s₁.board.escalation) : Settlement env s s' a r task := by
  have hw : Works a r.logicalAgentId env s₁ s' := hrun.respects (hy none none) .absent
  refine ⟨h.attempt, h.active, trans_of (Works a _ env) h.works hw, closed_of_works hw h.closed,
    h.tame.works hw, ?_⟩
  intro y e he ha hphys
  obtain ⟨e₁, he₁, hends⟩ := hw.own y e he ha
  have hv := h.vouched y e₁ he₁ (hends.attempt.symm.trans ha) (hends.active hphys)
  rw [hends.isolation]
  unfold Board.ObligedFor at hv ⊢
  rw [hboard]
  exact hv

/-- **Cancellation of a task.** -/
theorem cancelTask_settlement {t : TaskId} (hs : s.board.Sound) (ht : s.Tied)
    (h : Runs env (cancelTask t q) s u s') :
    Quiet env s s' ∨ ∃ a r task, s.tasks.lookup t = some task ∧
      task.currentAttemptId = some a ∧ r.taskId = t ∧ Settlement env s s' a r task := by
  unfold cancelTask at h
  obtain ⟨task, htask, hrun⟩ := Tx.Runs.fetch_bind h
  split at hrun
  · obtain ⟨-, rfl⟩ := hrun.pure
    exact .inl (refl_of (Quiet env) s')
  obtain ⟨_, s₁, h₁, hrest⟩ := hrun.bind
  cases hcurrent : task.currentAttemptId with
  | none =>
    rw [hcurrent] at h₁
    obtain ⟨-, rfl⟩ := h₁.pure
    exact .inl (hrest.respects (.aside rfl))
  | some a =>
    rw [hcurrent] at h₁
    obtain ⟨r, hrt, hset⟩ := cancelCurrentAttempt_settlement hs ht htask hcurrent h₁
    refine .inr ⟨a, r, task, htask, hcurrent, hrt, hset.then_respects hrest ?_ ?_⟩
    · intro i x
      exact .aside rfl
    · have e₂ : s'.escalations = s₁.escalations := frame hrest .escalations rfl
      show s'.escalations.view _ = s₁.escalations.view _
      rw [e₂]

/-- One claim of a cancelled batch. The execution row is left alone and its incarnation fenced. -/
theorem cancelBatchAttempt_settlement {b : BatchId} {c : AttemptId × AttemptRow × TaskRow}
    (ht : s.Tied) (hno : s.board.Undecided c.2.1.taskId) (hr : s.attempts.lookup c.1 = some c.2.1)
    (hactive : c.2.1.state = .active) (h : Runs env (cancelBatchAttempt b c) s u s') :
    Settlement env s s' c.1 c.2.1 c.2.2 := by
  unfold cancelBatchAttempt at h
  obtain ⟨_, s₁, h₁, h⟩ := (executionForAttempt_bind h).bind
  obtain ⟨_, s₂, h₂, h₃⟩ := h.bind
  have hbacked := ht.backed hr
  have hw₁ := h₁.respects (recordIncarnationPresence_handles _ _ _ _) hbacked
  have hw₂ := trans_of (Works c.1 _ env) hw₁
    (h₂.respects cancelAuthority_handles (hbacked.works hw₁))
  have hw₃ := h₃.respects (cancelAgent_handles _ _ _ _ _) (hbacked.works hw₂)
  have hw := trans_of (Works c.1 _ env) hw₂ hw₃
  have htame : s₁.Tame c.1 := ht.tame_of_fenced hr hw₁ fun j hj =>
    recordIncarnationPresence_dead (cancelledPresence_inactive _) (by simp) h₁ hj
  have hclosed := (h₃.respects (.aside (R := Closes) rfl)).not_activeClaim
    (closed_of_runs h₂ .cancelAuthority)
  have hw₁₂ := h₂.respects (cancelAuthority_handles (a := c.1)) (hbacked.works hw₁)
  refine .of_writer hr hactive hw hclosed ((htame.works hw₁₂).works hw₃)
    (fun hq => (still_of_rowQuiescent hq).works hw) fun hrisk => ?_
  rw [hrisk] at h₃
  exact cancelAgent_obliged (undecided_frame h₂ rfl (undecided_frame h₁ rfl hno)) h₃

/-! ## Expiry -/

theorem expireRetry_handles :
    Respects (Handles a row.attempt.logicalAgentId i x) (expireRetry row) := by
  unfold expireRetry
  exact .bind .ask fun _ => .bind releaseAgent_handles fun _ => .aside rfl

theorem expireSuspend_handles {safe : Bool} :
    Respects (Handles a row.attempt.logicalAgentId i x) (expireSuspend row safe) := by
  unfold expireSuspend createEscalation
  exact .bind (.aside rfl) fun _ => .bind (suspendOrRelease_handles _) fun _ => .aside rfl

theorem expireFaulted_handles {kind : PreparationFaultKind} :
    Respects (Handles a row.attempt.logicalAgentId i x) (expireFaulted row kind) := by
  unfold expireFaulted
  exact .bind (.aside rfl) fun _ => .bind releaseAgent_handles fun _ => .aside rfl

theorem expireSuspend_obliged (hno : s.board.Undecided row.taskId)
    (h : Runs env (expireSuspend row false) s u s') :
    s'.board.ObligedFor row.taskId row.attempt.logicalAgentId := by
  unfold expireSuspend at h
  obtain ⟨_, s₁, h₁, h⟩ := h.bind
  obtain ⟨_, s₂, h₂, h⟩ := h.bind
  obtain ⟨_, s₃, h₃, h⟩ := h.bind
  have hobl := createEscalation_obliged (undecided_frame h₂ rfl (undecided_frame h₁ rfl hno)) h₃
  rwa [board_frame h rfl]

/-- **Expiry of a claim.** -/
theorem expireClaim_settlement {retried : Bool} (ht : s.Tied) (hno : s.board.Undecided row.taskId)
    (htask : row.taskId = row.attempt.taskId)
    (hr : s.attempts.lookup row.attemptId = some row.attempt)
    (hactive : row.attempt.state = .active)
    (hx : row.execution = s.executionOfAttempt row.attemptId)
    (h : Runs env (expireClaim row) s retried s') :
    Settlement env s s' row.attemptId row.attempt row.task := by
  unfold expireClaim at h
  obtain ⟨hfault, h⟩ := h.query_bind.require_bind
  obtain ⟨_, s₁, h₁, h⟩ := h.bind
  obtain ⟨_, s₂, h₂, h⟩ := h.bind
  have hbacked := ht.backed hr
  have hw₁ := h₁.respects (.aside (R := Handles row.attemptId _ _ _) rfl) hbacked
  have hw₂ := trans_of (Works row.attemptId _ env) hw₁
    (h₂.respects (closeAttempt_handles _ _ (by decide)) (hbacked.works hw₁))
  have hclosed₂ := closed_of_runs h₂ (Shuts.closeAttempt _ _ (by decide))
  split at h
  · rename_i kind hkind
    obtain ⟨_, s₃, h₃, h⟩ := h.bind
    obtain ⟨-, rfl⟩ := h.pure
    rw [hkind, hx] at hfault
    have hnone : s.executionOfAttempt row.attemptId = none := by
      revert hfault
      cases s.executionOfAttempt row.attemptId <;> simp
    have hw₃ := h₃.respects (expireFaulted_handles (a := row.attemptId)) (hbacked.works hw₂)
    have hw := trans_of (Works row.attemptId _ env) hw₂ hw₃
    refine .of_still hr hactive hw ?_ ((still_of_none hnone).works hw)
    exact closed_of_works hw₃ hclosed₂
  · obtain ⟨_, s₃, h₃, h⟩ := Tx.Runs.bind h
    have hw₃ := h₃.respects loseIncarnation_handles (hbacked.works hw₂)
    have hw₂₃ := trans_of (Works row.attemptId _ env) hw₂ hw₃
    have hw₄ := h.respects (R := Handles row.attemptId row.attempt.logicalAgentId none none)
      (.bind (.aside rfl) fun _ => .ite (.bind expireRetry_handles fun _ => .pure _)
        (.bind expireSuspend_handles fun _ => .pure _)) .absent
    have hw := trans_of (Works row.attemptId _ env) hw₂₃ hw₄
    have htame : s₃.Tame row.attemptId :=
      ht.tame_of_fenced hr hw₂₃ fun j hj => loseIncarnation_dead h₃ hj
    refine .of_writer hr hactive hw
      (closed_of_works (trans_of (Works row.attemptId _ env) hw₃ hw₄) hclosed₂) (htame.works hw₄)
      (fun hq => (still_of_rowQuiescent hq).works hw) fun hrisk => ?_
    -- a claim that is not safe to replace is not retried
    obtain ⟨_, s₄, h₄, h⟩ := h.bind
    dsimp only at h
    rw [hx, hrisk, Bool.and_false, if_neg Bool.false_ne_true] at h
    obtain ⟨_, s₅, h₅, h⟩ := h.bind
    obtain ⟨-, rfl⟩ := h.pure
    have hno₂ := undecided_frame h₂ rfl (undecided_frame h₁ rfl hno)
    have hno₄ := undecided_frame h₄ rfl (undecided_frame h₃ rfl hno₂)
    rw [← htask]
    exact expireSuspend_obliged hno₄ h₅

end Agentype

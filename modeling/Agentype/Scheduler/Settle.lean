import Agentype.Scheduler.Agents

/-!
# `Agentype.Scheduler.Settle` — settling a claim is one step of the machine

Every operation that ends a claim closes its attempt and its lease, parks its task and lets its
agent go. The orders of the statements differ; on the board they all amount to `Board.close`, with
an escalation or a result on top.

## Contents
- `Held b a r`: the records `r` are those of a held claim of the board; `Held.holding`.
- **Closing.** `revoke_board`, `retryLater_step`, `suspendCurrent_step`, `ackComplete_step`.
- **Operations.** `nack`, `ack_success`, the aborted start and `cancel_task`.
-/

namespace Agentype

open Relational Tx Store Board

variable {env : Env} {s s' s₁ s₂ : Store} {a : AttemptId} {r : ClaimRecords}
variable {e : LeaseEpoch} {u : Unit} {t : TaskId} {sig detail : Option String} {c : FailureClass}
  {st : TaskState} {x : Option ExecutionId} {reusable q : Bool} {p : JsonValue}

/-! ## Records of a held claim -/

/-- The records are those of a claim that the board shows as held. -/
structure Held (b : Board) (a : AttemptId) (r : ClaimRecords) : Prop where
  task : b.task r.attempt.taskId = some r.task.view
  attempt : b.attempt a = some r.attempt.view
  lease : b.lease r.leaseId = some r.lease.view
  active : r.attempt.state = .active
  owns : r.lease.attemptId = a

/-- The claim behind the records. -/
def Held.holding {b : Board} (h : Held b a r) : Holding b where
  task := r.attempt.taskId
  attempt := a
  lease := r.leaseId
  taskView := r.task.view
  attemptView := r.attempt.view
  leaseView := r.lease.view
  task_eq := h.task
  attempt_eq := h.attempt
  lease_eq := h.lease
  attempt_task := rfl
  attempt_active := decide_eq_true h.active
  lease_attempt := h.owns

theorem Authorized.held {now : UnixTime} (h : Authorized s a e now r) : Held s.board a r where
  task := Table.view_of_lookup h.task
  attempt := Table.view_of_lookup h.attempt
  lease := Table.view_of_lookup (leaseOfAttempt_eq_some.mp h.lease).1
  active := h.attemptActive
  owns := (leaseOfAttempt_eq_some.mp h.lease).2

namespace Held

variable {b : Board} (hheld : Held b a r) (hs : b.Sound)
include hheld hs

theorem lease_active : r.lease.view.active = true := by
  obtain ⟨w, hw, -, -, hactive⟩ := hs.coherent.lease_attempt _ _ hheld.lease
  change b.attempt r.lease.attemptId = some w at hw
  rw [hheld.owns, hheld.attempt] at hw
  rw [hactive, ← Option.some.inj hw]
  exact decide_eq_true hheld.active

/-- The agent of the claim, which is not retired. -/
theorem agent : ∃ u, b.agent r.attempt.logicalAgentId = some u ∧ u.state ≠ .retired := by
  obtain ⟨u, hu, -, hholds⟩ := hs.coherent.holding_agent hheld.holding
  refine ⟨u, hu, fun hretired => ?_⟩
  rw [hretired] at hholds
  cases hholds

/-- No decision is open on the task of the claim. -/
theorem not_open (e : EscalationId) (x : EscalationView) (hx : b.escalation e = some x)
    (ho : x.isOpen = true) : x.task ≠ r.attempt.taskId :=
  hs.coupled.not_open_of_holding hs.coherent hheld.holding hx ho

end Held

/-- A step that ends a claim and leaves every other claim alone. -/
structure Settles {b : Board} (h : Holding b) (b' : Board) : Prop where
  step : Step b b'
  task : ∀ t, t ≠ h.task → b'.task t = b.task t
  attempt : ∀ a, a ≠ h.attempt → b'.attempt a = b.attempt a
  lease : ∀ l, l ≠ h.lease → b'.lease l = b.lease l

theorem Settles.of_close {b b' : Board} {h : Holding b} (st : TaskState) (ag : LogicalAgentState)
    (hstep : Step b b') (ht : b'.task = (b.close h st ag).task)
    (ha : b'.attempt = (b.close h st ag).attempt) (hl : b'.lease = (b.close h st ag).lease) :
    Settles h b' where
  step := hstep
  task t hne := by rw [ht, close_task, if_neg hne]
  attempt a hne := by rw [ha, close_attempt, if_neg hne]
  lease l hne := by rw [hl, close_lease, if_neg hne]

/-- The other claims are still held: no two held claims share a task or a lease. -/
theorem Held.other {b b' : Board} {a' : AttemptId} {r' : ClaimRecords} (hs : b.Sound)
    (h : Held b a r) (h' : Held b a' r') (hne : a' ≠ a) (hset : Settles h.holding b') :
    Held b' a' r' where
  task := by
    rw [hset.task, h'.task]
    intro heq
    exact hne (hs.coherent.active_unique h'.attempt h.attempt (decide_eq_true h'.active)
      (decide_eq_true h.active) heq)
  attempt := by rw [hset.attempt a' hne, h'.attempt]
  lease := by
    rw [hset.lease, h'.lease]
    intro heq
    change r'.leaseId = r.leaseId at heq
    have hl := h'.lease
    rw [heq, h.lease] at hl
    exact hne (h'.owns.symm.trans ((congrArg LeaseView.attempt (Option.some.inj hl)).symm.trans
      h.owns))
  active := h'.active
  owns := h'.owns

/-! ## Closing -/

/-- The two statements that close the authority of a claim. -/
theorem revoke_board {st : AttemptState} {st' : LeaseState} {only only' : Bool} (hs : s.board.Sound)
    (hheld : Held s.board a r) (h₁ : Runs env (closeAttempt a st only) s u s₁)
    (h₂ : Runs env (closeLease r.leaseId st' only') s₁ u s₂) (hst : st ≠ .active)
    (hst' : st' ≠ .active) : s₂.board = s.board.revoke hheld.holding := by
  have hb₁ := closeAttempt_board h₁ hheld.attempt (decide_eq_true hheld.active) hst
  have hl : s₁.board.lease r.leaseId = some r.lease.view := by
    rw [hb₁]
    exact hheld.lease
  rw [closeLease_board h₂ hl (hheld.lease_active hs) hst', hb₁]
  rfl

/-- The task of a closed claim is parked in a state. -/
theorem parkTask_board {v : TaskView} {f : TaskRow → TaskRow} (st : TaskState)
    (h : Runs env (updateTask t f) s u s') (hv : s.board.task t = some v)
    (hf : ∀ row : TaskRow, (f row).view = { row.view with state := st, current := none }) :
    s'.board = s.board.withTasks
      (Function.update s.board.task t (some { v with state := st, current := none })) :=
  updateTask_board h hv fun row hrow => by rw [hf row, hrow]

/-- A claim that will be retried after a delay. -/
theorem retryLater_step (hs : s.board.Sound) (hheld : Held s.board a r)
    (h : Runs env (retryLater a r) s u s') : Step s.board s'.board := by
  unfold retryLater at h
  obtain ⟨_, s₁, h₁, h⟩ := h.ask_bind.bind
  obtain ⟨_, s₂, h₂, h⟩ := h.bind
  obtain ⟨_, s₃, h₃, h₄⟩ := h.bind
  have hb₂ := revoke_board hs hheld h₁ h₂ (by decide) (by decide)
  have hb₃ := parkTask_board .retryWait h₃ (by rw [hb₂]; exact hheld.task) fun _ => rfl
  obtain ⟨v, ag, -, hag, hb₄⟩ := releaseAgent_board h₄
  have hb : s'.board = s.board.close hheld.holding .retryWait ag := by
    rw [hb₄, hb₃, hb₂]
    rfl
  rw [hb]
  exact .requeue _ (.inr rfl) hag

/-- What is left to do once the authority of a claim is closed and its task suspended: the agent
    is let go and the decision is raised. -/
theorem suspend_settles {u' : Unit} {id : EscalationId} {unknown : Bool} {w : Option WorkstreamId}
    {cause : EscalationCause} {s₃ s₄ s₅ : Store} (hs : s.board.Sound) (hheld : Held s.board a r)
    (hb₃ : s₃.board = (s.board.revoke hheld.holding).withTasks (Function.update s.board.task
      r.attempt.taskId (some { r.task.view with state := .suspended, current := none })))
    (h₄ : Runs env (suspendOrRelease r.attempt.logicalAgentId unknown) s₃ u s₄)
    (h₅ : Runs env (createEscalationWithCause r.attempt.taskId r.task.batchId
      (some r.attempt.logicalAgentId) w cause sig detail) s₄ id s₅)
    (h₆ : Runs env (recomputeBatch r.task.batchId) s₅ u' s')
    (htag : cause.tag = writerUnknown → unknown = true) : Settles hheld.holding s'.board := by
  obtain ⟨v, hv, hretired⟩ := hheld.agent hs
  obtain ⟨ag, hag, hsusp, hb₄⟩ := suspendOrRelease_board h₄ (by rw [hb₃]; exact hv) hretired
  have hno : ∀ e x, s₄.board.escalation e = some x → x.isOpen = true →
      x.task ≠ r.attempt.taskId := by
    rw [hb₄, hb₃]
    exact hheld.not_open hs
  obtain ⟨hnone, hb₅⟩ := createEscalationWithCause_board h₅ hno
  have hfresh : s.board.escalation id = none := by
    rw [hb₄, hb₃] at hnone
    exact hnone
  have hb : s'.board = (s.board.close hheld.holding .suspended ag).raise id
      (hheld.holding.escalation cause.tag) := by
    rw [board_frame h₆ rfl, hb₅, hb₄, hb₃]
    rfl
  rw [hb]
  exact .of_close .suspended ag (.suspend _ hag hfresh fun ht => hsusp (htag ht)) rfl rfl rfl

/-- A claim whose task waits for a decision. -/
theorem suspendCurrent_step (hs : s.board.Sound) (hheld : Held s.board a r)
    (h : Runs env (suspendCurrent a r c sig detail) s u s') : Step s.board s'.board := by
  unfold suspendCurrent createEscalation at h
  obtain ⟨_, s₁, h₁, h⟩ := h.bind
  obtain ⟨_, s₂, h₂, h⟩ := h.bind
  obtain ⟨_, s₃, h₃, h⟩ := h.bind
  obtain ⟨_, s₄, h₄, h⟩ := h.bind
  obtain ⟨id, s₅, h₅, h₆⟩ := h.bind
  have hb₂ := revoke_board hs hheld h₁ h₂ (by decide) (by decide)
  have hb₃ := parkTask_board .suspended h₃ (by rw [hb₂]; exact hheld.task) fun _ => rfl
  rw [hb₂] at hb₃
  refine (suspend_settles hs hheld hb₃ h₄ h₅ h₆ fun htag => ?_).step
  rw [EscalationTag.taskFailure.inj htag]
  rfl

theorem retryOrSuspend_step {safe : Bool} (hs : s.board.Sound) (hheld : Held s.board a r)
    (h : Runs env (retryOrSuspend a r c safe) s st s') : Step s.board s'.board := by
  unfold retryOrSuspend at h
  split at h
  · obtain ⟨_, s₁, h₁, h⟩ := h.bind
    obtain ⟨-, rfl⟩ := h.pure
    exact retryLater_step hs hheld h₁
  · obtain ⟨_, s₁, h₁, h⟩ := h.bind
    obtain ⟨-, rfl⟩ := h.pure
    exact suspendCurrent_step hs hheld h₁

/-! ## Failure -/

theorem nack_step {tc qc : Bool} (hs : s.board.Sound)
    (h : Runs env (nack a e c x tc qc reusable) s st s') : Step s.board s'.board := by
  unfold nack at h
  obtain ⟨r, hauth, h⟩ := validateAuthorityTx_bind h
  obtain ⟨_, s₁, h₁, h⟩ := (executionForAttempt_bind h).bind
  obtain ⟨_, s₂, h₂, h⟩ := h.bind
  obtain ⟨_, s₃, h₃, h⟩ := h.bind
  have hb : s₃.board = s.board := by
    rw [board_frame h₃ rfl,
      board_frame h₂ rfl, board_frame h₁ rfl]
  have hheld := hauth.held
  rw [← hb] at hs hheld ⊢
  exact retryOrSuspend_step hs hheld h

theorem nackPreservingPhysicalHistory_step (hs : s.board.Sound)
    (h : Runs env (nackPreservingPhysicalHistory a e c x) s st s') : Step s.board s'.board := by
  unfold nackPreservingPhysicalHistory at h
  obtain ⟨r, hauth, h⟩ := validateAuthorityTx_bind h
  obtain ⟨_, s₁, h₁, h⟩ := (executionForAttempt_bind h).bind
  obtain ⟨_, s₂, h₂, h⟩ := h.bind
  have hb : s₂.board = s.board := by
    rw [board_frame h₂ rfl, board_frame h₁ rfl]
  have hheld := hauth.held
  rw [← hb] at hs hheld ⊢
  exact retryOrSuspend_step hs hheld h

theorem abortBeforePhysicalStart_step {x : ExecutionId} (hs : s.board.Sound)
    (h : Runs env (abortBeforePhysicalStart a e x) s st s') : Step s.board s'.board := by
  unfold abortBeforePhysicalStart at h
  obtain ⟨r, hauth, h⟩ := validateAuthorityTx_bind h
  obtain ⟨row, -, h⟩ := executionOfClaim_bind h
  obtain ⟨_, h⟩ := h.require_bind
  obtain ⟨_, h⟩ := h.query_bind.require_bind
  obtain ⟨_, s₁, h₁, h⟩ := h.bind
  have hb₁ : s₁.board = s.board :=
    board_frame h₁ rfl
  have hheld := hauth.held
  rw [← hb₁] at hs hheld ⊢
  obtain ⟨_, s₂, h₂, h⟩ := h.bind
  obtain ⟨_, s₃, h₃, h⟩ := h.bind
  obtain ⟨_, s₄, h₄, h⟩ := h.bind
  obtain ⟨_, s₅, h₅, h⟩ := h.bind
  obtain ⟨-, rfl⟩ := h.pure
  have hb₃ := revoke_board hs hheld h₂ h₃ (by decide) (by decide)
  have hb₄ := parkTask_board .queued h₄ (by rw [hb₃]; exact hheld.task) fun _ => rfl
  obtain ⟨v, ag, -, hag, hb₅⟩ := releaseAgent_board h₅
  have hb : s'.board = s₁.board.close hheld.holding .queued ag := by
    rw [hb₅, hb₄, hb₃]
    rfl
  rw [hb]
  exact .requeue _ (.inl rfl) hag

/-! ## Waking a batch -/

/-- Queue the listed tasks that are blocked. -/
def Board.queued (b : Board) (ids : List TaskId) (t : TaskId) : Option TaskView :=
  (b.task t).map fun v => if t ∈ ids ∧ v.state = .blocked then { v with state := .queued } else v

theorem releaseOne_board
    (h : Runs env (updateIn tasksT constraintViolation
      (fun k row => decide (k = t) && decide (row.state = .blocked))
      fun row => { row with state := .queued }) s u s') :
    s'.board = s.board.withTasks (s.board.queued [t]) := by
  refine shown_tasks.update_map h _ fun k row => ?_
  unfold Table.updateRow
  by_cases hc : k = t ∧ row.state = .blocked
  · rw [if_pos (by simp [hc]), if_pos ⟨List.mem_singleton.mpr hc.1, hc.2⟩]
    rfl
  · rw [if_neg (by simpa using hc), if_neg fun h => hc ⟨List.mem_singleton.mp h.1, h.2⟩]

theorem releaseLoop_board {ids : List TaskId} {u : PUnit}
    (h : Runs env (ids.forM fun t => updateIn tasksT constraintViolation
      (fun k row => decide (k = t) && decide (row.state = .blocked))
      fun row => { row with state := .queued }) s u s') :
    s'.board = s.board.withTasks (s.board.queued ids) := by
  induction ids generalizing s with
  | nil =>
    obtain ⟨-, rfl⟩ := h.pure
    have hid : s'.board.queued [] = s'.board.task := by
      funext t
      simp [Board.queued]
    rw [hid]
    rfl
  | cons t ids ih =>
    obtain ⟨_, s₁, h₁, h₂⟩ := h.bind
    rw [ih h₂, releaseOne_board h₁]
    have htwice : (s.board.withTasks (s.board.queued [t])).queued ids =
        s.board.queued (t :: ids) := by
      funext k
      show ((s.board.task k).map _).map _ = (s.board.task k).map _
      rw [Option.map_map]
      congr 1
      funext v
      simp only [Function.comp_apply, List.mem_cons]
      grind
    rw [htwice]
    rfl

/-- The tasks a batch releases: its blocked tasks all of whose parents are completed. -/
theorem mem_planDependencyReleases {batch : BatchId}
    (hdep : ∀ t p, s.board.depends t p → ∃ w, s.board.task p = some w) :
    t ∈ planDependencyReleases (s.blockedSnapshots batch) ↔
      ∃ v, s.board.task t = some v ∧ v.batch = batch ∧ v.state = .blocked ∧
        ∀ p, s.board.depends t p → s.board.Completed p := by
  unfold planDependencyReleases blockedSnapshots dependencyReleaseDecision
  simp only [List.mem_map, List.mem_filter, Bool.and_eq_true, decide_eq_true_eq]
  constructor
  · rintro ⟨_, ⟨⟨⟨t', row⟩, ⟨hmem, hbatch, hstate⟩, rfl⟩, hall⟩, rfl⟩
    refine ⟨row.view, Table.view_of_lookup (Table.mem_rows.mp hmem), hbatch, hstate, ?_⟩
    intro p hp
    obtain ⟨w, hw⟩ := hdep _ p hp
    obtain ⟨prow, hprow, rfl⟩ := Table.view_eq_some.mp hw
    obtain ⟨d, hd⟩ := Option.isSome_iff_exists.mp hp
    refine ⟨prow.view, hw, ?_⟩
    rw [List.all_eq_true] at hall
    refine of_decide_eq_true (hall prow.state (List.mem_filterMap.mpr ⟨((t', p), d), ?_, ?_⟩))
    · exact List.mem_filter.mpr ⟨Table.mem_rows.mpr hd, decide_eq_true rfl⟩
    · rw [hprow]
      rfl
  · rintro ⟨v, hv, hbatch, hstate, hall⟩
    obtain ⟨row, hrow, rfl⟩ := Table.view_eq_some.mp hv
    refine ⟨_, ⟨⟨(t, row), ⟨Table.mem_rows.mpr hrow, hbatch, hstate⟩, rfl⟩, ?_⟩, rfl⟩
    rw [List.all_eq_true]
    intro st hst
    obtain ⟨⟨⟨t', p⟩, d⟩, hd, hlookup⟩ := List.mem_filterMap.mp hst
    obtain ⟨hmem, ht⟩ := List.mem_filter.mp hd
    obtain rfl : t' = t := of_decide_eq_true ht
    have hdepends : s.board.depends t' p := Option.isSome_of_eq_some (Table.mem_rows.mp hmem)
    obtain ⟨w, hw, hcompleted⟩ := hall p hdepends
    obtain ⟨prow, hprow, rfl⟩ := Table.view_eq_some.mp hw
    rw [hprow] at hlookup
    obtain rfl := Option.some.inj hlookup
    exact decide_eq_true hcompleted

/-- **Release.** Every blocked task of the batch whose parents are completed wakes up. -/
theorem releaseDependencies_board {batch : BatchId}
    (h : Runs env (releaseDependencies batch) s u s')
    (hdep : ∀ t p, s.board.depends t p → ∃ w, s.board.task p = some w) :
    ∃ ts', Wakes s.board batch ts' ∧ s'.board = s.board.withTasks ts' := by
  unfold releaseDependencies at h
  refine ⟨_, ⟨?_, ?_, ?_⟩, releaseLoop_board h.query_bind⟩
  · intro t v hv
    by_cases hc : t ∈ planDependencyReleases (s.blockedSnapshots batch) ∧ v.state = .blocked
    · obtain ⟨_, -, -, -, hall⟩ := (mem_planDependencyReleases hdep).mp hc.1
      exact .inr ⟨hc.2, hall, by rw [Board.queued, hv, Option.map_some, if_pos hc]⟩
    · exact .inl (by rw [Board.queued, hv, Option.map_some, if_neg hc])
  · intro t hnone
    rw [Board.queued, hnone, Option.map_none]
  · intro t v hv hbatch hstate hall
    have hmem := (mem_planDependencyReleases hdep).mpr ⟨v, hv, hbatch, hstate, hall⟩
    rw [Board.queued, hv, Option.map_some, if_pos ⟨hmem, hstate⟩]

/-! ## Success -/

/-- The task of a claim is completed: its result is stored and its successors wake up. -/
theorem ackComplete_step {x : Option (ExecutionId × ExecutionRow)} {sm : Option String}
    {id : ResultId} (hs : s.board.Sound) (hheld : Held s.board a r)
    (h : Runs env (ackComplete a r x p sm q reusable) s id s') : Step s.board s'.board := by
  unfold ackComplete at h
  obtain ⟨_, -, h⟩ := h.examine_bind
  obtain ⟨_, s₁, h₁, h⟩ := h.bind
  obtain ⟨_, s₂, h₂, h⟩ := h.bind
  have hb₂ : s₂.board = s.board := by
    rw [board_frame h₂ rfl,
      board_frame h₁ rfl]
  rw [← hb₂] at hs hheld ⊢
  obtain ⟨_, s₃, h₃, h⟩ := h.bind
  obtain ⟨_, s₄, h₄, h⟩ := h.bind
  obtain ⟨_, s₅, h₅, h⟩ := h.bind
  have hb₄ := revoke_board hs hheld h₃ h₄ (by decide) (by decide)
  have hb₅ := parkTask_board .completed h₅ (by rw [hb₄]; exact hheld.task) fun _ => rfl
  obtain ⟨result, s₆, h₆, h⟩ := h.bind
  have hb₆ := board_frame h₆ rfl
  obtain ⟨t', ht', h⟩ := h.insertInto_bind
  obtain ⟨hnone, hview⟩ := Table.view_of_insert (f := ResultRow.view) ht'
  have hins : (resultsT.set s₆ t').board = s₆.board.store result ⟨r.attempt.taskId, a⟩ := by
    show s₆.board.withResults (t'.view ResultRow.view) = _
    rw [hview]
    rfl
  obtain ⟨_, s₇, h₇, h⟩ := h.bind
  obtain ⟨v, ag, -, hag, hb₇⟩ := releaseAgent_board h₇
  have hstored : s₇.board = (s₂.board.close hheld.holding .completed ag).store result
      ⟨r.attempt.taskId, a⟩ := by
    rw [hb₇, hins, hb₆, hb₅, hb₄]
    rfl
  obtain ⟨_, s₈, h₈, h⟩ := h.bind
  obtain ⟨_, s₉, h₉, h⟩ := h.bind
  obtain ⟨-, rfl⟩ := h.pure
  have hdep : ∀ t p, s₇.board.depends t p → ∃ w, s₇.board.task p = some w := by
    rw [hstored]
    intro t p hp
    obtain ⟨-, w, -, hw, -⟩ := hs.ordered.dep_local t p hp
    rw [store_task, close_task]
    split
    · exact ⟨_, rfl⟩
    · exact ⟨w, hw⟩
  obtain ⟨ts', hwakes, hb₈⟩ := releaseDependencies_board h₈ hdep
  have hfresh : s₂.board.result result = none := by
    change s₆.board.result result = none at hnone
    rw [hb₆, hb₅, hb₄] at hnone
    exact hnone
  rw [hstored] at hwakes hb₈
  rw [board_frame h₉ rfl, hb₈]
  exact .complete hheld.holding hag hfresh hwakes

theorem ackNotQuiescent_step {x : Option (ExecutionId × ExecutionRow)} (hs : s.board.Sound)
    (hheld : Held s.board a r) (h : Runs env (ackNotQuiescent a r x p) s u s') :
    Step s.board s'.board := by
  unfold ackNotQuiescent at h
  obtain ⟨_, s₁, h₁, h⟩ := h.bind
  obtain ⟨_, s₂, h₂, h⟩ := h.bind
  obtain ⟨_, s₃, h₃, h⟩ := h.bind
  have hb : s₃.board = s.board := by
    rw [board_frame h₃ rfl, board_frame h₂ rfl,
      board_frame h₁ rfl]
  rw [← hb] at hs hheld ⊢
  exact suspendCurrent_step hs hheld h

theorem ackSuccess_step {sm : Option String} {id : Option ResultId} (hs : s.board.Sound)
    (h : Runs env (ackSuccess a e x p sm q reusable) s id s') : Step s.board s'.board := by
  unfold ackSuccess at h
  obtain ⟨r, hauth, h⟩ := validateAuthorityTx_bind h
  have h := executionForAttempt_bind h
  split at h
  · obtain ⟨_, s₁, h₁, h⟩ := h.bind
    obtain ⟨-, rfl⟩ := h.pure
    exact ackComplete_step hs hauth.held h₁
  · obtain ⟨_, s₁, h₁, h⟩ := h.bind
    obtain ⟨-, rfl⟩ := h.pure
    exact ackNotQuiescent_step hs hauth.held h₁

/-! ## Cancellation -/

/-- Cancelling authority closes the attempt and, found by its attempt, the lease. -/
theorem cancelAuthority_board {B : Board} {ts : TaskId → Option TaskView} (hB : B.Sound)
    (hheld : Held B a r) (hb : s.board = B.withTasks ts) (h : Runs env (cancelAuthority a) s u s') :
    s'.board = (B.revoke hheld.holding).withTasks ts := by
  obtain ⟨_, s₁, h₁, h₂⟩ := h.bind
  have ha : s.board.attempt a = some r.attempt.view := by
    rw [hb]
    exact hheld.attempt
  have hb₁ := closeAttempt_board h₁ ha (decide_eq_true hheld.active) (by decide)
  obtain ⟨t', ht', rfl⟩ := h₂.updateIn
  have hleases : s₁.board.lease = B.lease := by
    rw [hb₁, hb]
    rfl
  have hlease : s₁.board.lease r.leaseId = some r.lease.view := by rw [hleases, hheld.lease]
  obtain ⟨row, hrow, hview⟩ := Table.view_eq_some.mp hlease
  have hlactive := hheld.lease_active hB
  have howns : row.view.attempt = a := by rw [hview]; exact hheld.owns
  rw [← hview] at hlactive
  have hupdate : t'.view LeaseRow.view =
      Function.update s₁.board.lease r.leaseId (some { r.lease.view with active := false }) := by
    rw [Table.view_of_update_at ht' hrow ?_ ?_, ← hview]
    · rfl
    · exact (Bool.and_eq_true _ _).mpr ⟨decide_eq_true howns, hlactive⟩
    · intro k' r' hk' hp
      have hl' : B.lease k' = some r'.view := by
        rw [← hleases]
        exact Table.view_of_lookup hk'
      exact hB.coherent.lease_unique _ _ _ _ hl' hheld.lease
        ((of_decide_eq_true ((Bool.and_eq_true _ _).mp hp).1).trans hheld.owns.symm)
  show s₁.board.withLeases (t'.view LeaseRow.view) = _
  rw [hupdate, hb₁, hb]
  rfl

/-- **Cancelling a claim.** The store may be behind the board in its tasks: a batch is cancelled
    claim by claim first and its tasks follow in one statement. -/
theorem cancelClaim_settles {B : Board} {ts : TaskId → Option TaskView} {u' : Unit}
    {w : Option WorkstreamId} {unknown : Bool} {detail : String} {s₃ : Store} (hB : B.Sound)
    (hheld : Held B a r) (hb : s.board = B.withTasks ts) (h₁ : Runs env (cancelAuthority a) s u s₁)
    (hb₂ : s₂.board = s₁.board)
    (h₃ : Runs env (cancelAgent r.attempt.taskId r.task.batchId w r.attempt.logicalAgentId unknown
      detail) s₂ u' s₃) :
    ∃ B', Settles hheld.holding B' ∧ s₃.board = B'.withTasks ts ∧ B'.task = Function.update B.task
      r.attempt.taskId (some { r.task.view with state := .cancelled, current := none }) := by
  rw [cancelAuthority_board hB hheld hb h₁] at hb₂
  unfold cancelAgent createEscalation at h₃
  split at h₃
  · obtain ⟨_, s₄, h₄, h⟩ := h₃.bind
    obtain ⟨id, s₅, h₅, h⟩ := h.bind
    obtain ⟨-, rfl⟩ := h.pure
    obtain ⟨v, hv, hretired⟩ := hheld.agent hB
    have hb₄ := suspendAgent_board h₄ (by rw [hb₂]; exact hv) hretired
    have hno : ∀ e x, s₄.board.escalation e = some x → x.isOpen = true →
        x.task ≠ r.attempt.taskId := by
      rw [hb₄, hb₂]
      exact hheld.not_open hB
    obtain ⟨hnone, hb₅⟩ := createEscalationWithCause_board h₅ hno
    rw [hb₄, hb₂] at hnone
    refine ⟨_, .of_close .cancelled .suspended (.cancelObliged hheld.holding (e := id) hnone)
      rfl rfl rfl, ?_, rfl⟩
    rw [hb₅, hb₄, hb₂]
    rfl
  · obtain ⟨v, ag, -, hag, hb₃⟩ := releaseAgent_board h₃
    refine ⟨_, .of_close .cancelled ag (.cancel hheld.holding hag) rfl rfl rfl, ?_, rfl⟩
    rw [hb₃, hb₂]
    rfl

/-- The records of the claim a task names as its current one. -/
theorem held_of_current {task : TaskRow} {attempt : AttemptRow} (hs : s.board.Sound)
    (ht : s.tasks.lookup t = some task) (hc : task.currentAttemptId = some a)
    (ha : s.attempts.lookup a = some attempt) :
    attempt.taskId = t ∧ ∃ l lease, Held s.board a ⟨attempt, l, lease, task⟩ := by
  have hv : s.board.task t = some task.view := Table.view_of_lookup ht
  have hw : s.board.attempt a = some attempt.view := Table.view_of_lookup ha
  obtain ⟨w, hw', htask, -, hactive⟩ := hs.coherent.current_attempt t _ a hv hc
  cases hw.symm.trans hw'
  obtain ⟨l, x, hx, hxa⟩ := hs.coherent.attempt_lease a _ hw
  obtain ⟨lease, -, rfl⟩ := Table.view_eq_some.mp hx
  have htask : attempt.taskId = t := htask
  exact ⟨htask, l, lease, by rw [htask]; exact hv, hw, hx, of_decide_eq_true hactive, hxa⟩

/-- A task without a claim is cancelled. -/
theorem cancelIdle_step {v : TaskView} {b : Board} (hv : b.task t = some v)
    (hidle : v.current = none) (hterm : v.state.isTerminal = false) :
    Step b (b.withTasks
      (Function.update b.task t (some { v with state := .cancelled, current := none }))) := by
  have hcancel : Cancellation b (Function.update b.task t
      (some { v with state := .cancelled, current := none })) b.escalation := by
    refine ⟨?_, ?_, fun _ _ hx => .inl hx, fun _ hx => hx⟩
    · intro t' v' hv'
      rw [Function.update_apply]
      split
      · rename_i heq
        subst heq
        cases hv.symm.trans hv'
        exact .inr ⟨hidle, hterm, by rw [hidle]⟩
      · exact .inl hv'
    · intro t' hnone
      have hne : t' ≠ t := by
        rintro rfl
        rw [hv] at hnone
        cases hnone
      rw [Function.update_apply, if_neg hne, hnone]
  exact .cancelIdle hcancel

theorem cancelTask_steps (hs : s.board.Sound) (h : Runs env (cancelTask t q) s u s') :
    Steps s.board s'.board := by
  unfold cancelTask at h
  obtain ⟨task, htask, h⟩ := h.fetch_bind
  split at h
  · obtain ⟨-, rfl⟩ := h.pure
    exact .refl
  rename_i hopen
  have hv : s.board.task t = some task.view := Table.view_of_lookup htask
  obtain ⟨_, s₁, h₁, h⟩ := h.bind
  obtain ⟨_, s₂, h₂, h₃⟩ := h.bind
  rw [board_frame h₃ rfl]
  unfold cancelCurrentAttempt at h₁
  split at h₁
  · rename_i hidle
    obtain ⟨-, rfl⟩ := h₁.pure
    rw [parkTask_board .cancelled h₂ hv fun _ => rfl]
    refine .single (cancelIdle_step hv hidle ?_)
    revert hopen
    show ¬ (task.state = .completed ∨ task.state = .cancelled) → task.state.isTerminal = false
    cases task.state <;> decide
  · rename_i attemptId hcurrent
    obtain ⟨attempt, hattempt, h₁⟩ := h₁.fetch_bind
    obtain ⟨rfl, l, lease, hheld⟩ := held_of_current hs htask hcurrent hattempt
    obtain ⟨_, sa, ha, h₁⟩ := (executionForAttempt_bind h₁).bind
    obtain ⟨_, sb, hb, h₁⟩ := h₁.bind
    obtain ⟨_, sc, hc, hd⟩ := h₁.bind
    have hba : sa.board = s.board.withTasks s.board.task := board_frame ha rfl
    have hbc := board_frame hc rfl
    obtain ⟨B', hsettles, hbd, hts⟩ := cancelClaim_settles hs hheld hba hb hbc hd
    rw [parkTask_board .cancelled h₂ (by rw [hbd]; exact hv) fun _ => rfl, hbd]
    refine .single ?_
    convert hsettles.step using 1
    show B'.withTasks (Function.update s.board.task _ _) = B'
    rw [← hts]
    rfl

end Agentype

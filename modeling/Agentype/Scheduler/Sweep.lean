import Agentype.Scheduler.Submit

/-!
# `Agentype.Scheduler.Sweep` — the operations that work through a list of rows

Expiry and the cancellation of a batch read their rows once and then settle one claim after
another. The rows they read stay true of the claims not yet settled, because settling a claim leaves
every other claim alone; so each round is one step of the machine.

## Contents
- `Expirable b row`: the expiry row is about a held claim; `expireClaim_settles`.
- `mem_expiring`, `expireLeases_induction`, `expireLeases_steps`.
- `cancelledBut`: the tasks of a batch that is being cancelled; `cancelBatch_steps`.
- `cancelOpenBatch_induction`: the rule behind it.
-/

namespace Agentype

open Relational Tx Store Board

variable {env : Env} {s s' s₁ s₂ : Store}
variable {a : AttemptId} {r : ClaimRecords} {u : Unit} {recover : Bool} {b : Board}
  {batch : BatchId} {rest : List AttemptId}

/-! ## Expiry of one claim -/

/-- The columns of an expiry row are those of a held claim. -/
structure Expirable (b : Board) (row : ExpireRow) : Prop where
  task : row.taskId = row.attempt.taskId
  held : ∃ lease, Held b row.attemptId ⟨row.attempt, row.leaseId, lease, row.task⟩

/-- Expiry closes the lease before the attempt. -/
theorem expireAuthority_board {u' : Unit} {st : AttemptState} {st' : LeaseState} {only only' : Bool}
    (hs : s.board.Sound) (hheld : Held s.board a r)
    (h₁ : Runs env (closeLease r.leaseId st' only') s u s₁)
    (h₂ : Runs env (closeAttempt a st only) s₁ u' s₂) (hst : st ≠ .active) (hst' : st' ≠ .active) :
    s₂.board = s.board.revoke hheld.holding := by
  have hb₁ := closeLease_board h₁ hheld.lease (hheld.lease_active hs) hst'
  have ha : s₁.board.attempt a = some r.attempt.view := by
    rw [hb₁]
    exact hheld.attempt
  rw [closeAttempt_board h₂ ha (decide_eq_true hheld.active) hst, hb₁]
  rfl

theorem loseIncarnation_board {i : Option IncarnationId} (h : Runs env (loseIncarnation i) s u s') :
    s'.board = s.board :=
  board_frame h rfl

section Expire

variable {row : ExpireRow} {lease : LeaseRow}
  (hs : s.board.Sound) (htask : row.taskId = row.attempt.taskId)
  (hheld : Held s.board row.attemptId ⟨row.attempt, row.leaseId, lease, row.task⟩)
  (hb₁ : s₁.board = s.board.revoke hheld.holding)
include hs htask hb₁

theorem expireFaulted_settles {kind : PreparationFaultKind}
    (h : Runs env (expireFaulted row kind) s₁ u s') : Settles hheld.holding s'.board := by
  unfold expireFaulted at h
  rw [htask] at h
  obtain ⟨_, s₂, h₂, h⟩ := h.bind
  obtain ⟨_, s₃, h₃, h⟩ := h.bind
  obtain ⟨id, s₄, h₄, h₅⟩ := h.bind
  have hb₂ := parkTask_board .suspended h₂ (by rw [hb₁]; exact hheld.task) fun _ => rfl
  rw [hb₁] at hb₂
  have hrelease : Runs env (suspendOrRelease row.attempt.logicalAgentId false) s₂ _ s₃ := h₃
  exact suspend_settles hs hheld hb₂ hrelease h₄ h₅ fun htag => by cases htag

omit hs in
theorem expireRetry_settles (h : Runs env (expireRetry row) s₁ u s') :
    Settles hheld.holding s'.board := by
  unfold expireRetry at h
  rw [htask] at h
  obtain ⟨_, s₂, h₂, h₃⟩ := h.ask_bind.bind
  obtain ⟨v, ag, -, hag, hb₂⟩ := releaseAgent_board h₂
  have hb₃ := parkTask_board .retryWait h₃ (by rw [hb₂, hb₁]; exact hheld.task) fun _ => rfl
  have hb : s'.board = s.board.close hheld.holding .retryWait ag := by
    rw [hb₃, hb₂, hb₁]
    rfl
  rw [hb]
  exact .of_close .retryWait ag (.requeue _ (.inr rfl) hag) rfl rfl rfl

theorem expireSuspend_settles {safe : Bool} (h : Runs env (expireSuspend row safe) s₁ u s') :
    Settles hheld.holding s'.board := by
  unfold expireSuspend createEscalation at h
  rw [htask] at h
  obtain ⟨_, s₂, h₂, h⟩ := h.bind
  obtain ⟨_, s₃, h₃, h⟩ := h.bind
  obtain ⟨id, s₄, h₄, h₅⟩ := h.bind
  have hb₂ := parkTask_board .suspended h₂ (by rw [hb₁]; exact hheld.task) fun _ => rfl
  rw [hb₁] at hb₂
  refine suspend_settles hs hheld hb₂ h₃ h₄ h₅ fun htag => ?_
  cases safe with
  | false => rfl
  | true => cases htag

theorem expireLost_settles {retried : Bool} (h : Runs env (expireLost row) s₁ retried s') :
    Settles hheld.holding s'.board := by
  unfold expireLost at h
  obtain ⟨_, s₂, h₂, h⟩ := h.bind
  obtain ⟨_, s₃, h₃, h⟩ := h.bind
  have hb₃ : s₃.board = s.board.revoke hheld.holding := by
    rw [board_frame h₃ rfl, loseIncarnation_board h₂, hb₁]
  dsimp only at h
  split at h
  · obtain ⟨_, s₄, h₄, h⟩ := h.bind
    obtain ⟨-, rfl⟩ := h.pure
    exact expireRetry_settles htask hheld hb₃ h₄
  · obtain ⟨_, s₄, h₄, h⟩ := h.bind
    obtain ⟨-, rfl⟩ := h.pure
    exact expireSuspend_settles hs htask hheld hb₃ h₄

end Expire

/-- **One round of expiry.** -/
theorem expireClaim_settles {row : ExpireRow} {lease : LeaseRow} {retried : Bool}
    (hs : s.board.Sound) (htask : row.taskId = row.attempt.taskId)
    (hheld : Held s.board row.attemptId ⟨row.attempt, row.leaseId, lease, row.task⟩)
    (h : Runs env (expireClaim row) s retried s') : Settles hheld.holding s'.board := by
  unfold expireClaim at h
  obtain ⟨_, h⟩ := h.query_bind.require_bind
  obtain ⟨_, s₁, h₁, h⟩ := h.bind
  obtain ⟨_, s₂, h₂, h⟩ := h.bind
  have hb₂ := expireAuthority_board hs hheld h₁ h₂ (by decide) (by decide)
  split at h
  · obtain ⟨_, s₃, h₃, h⟩ := h.bind
    obtain ⟨-, rfl⟩ := h.pure
    exact expireFaulted_settles hs htask hheld hb₂ h₃
  · exact expireLost_settles hs htask hheld hb₂ h

/-! ## The expiry sweep -/

theorem mem_of_mem_firstOfEach {xs : List ExpireRow} {x : ExpireRow} (h : x ∈ firstOfEach xs) :
    x ∈ xs := by
  induction xs with
  | nil => exact h
  | cons y xs ih =>
    rcases List.mem_cons.mp h with rfl | h
    · exact List.mem_cons_self
    · exact List.mem_cons_of_mem _ (ih (List.mem_filter.mp h).1)

/-- No attempt is expired twice in one sweep. -/
theorem firstOfEach_pairwise (xs : List ExpireRow) :
    (firstOfEach xs).Pairwise fun x y => y.attemptId ≠ x.attemptId := by
  induction xs with
  | nil => exact .nil
  | cons x xs ih =>
    refine List.pairwise_cons.mpr ⟨fun y hy => ?_, ih.filter _⟩
    exact of_decide_eq_true (List.mem_filter.mp hy).2

/-- The rows that the expiry query returns are about held claims. -/
theorem mem_expiring {now : UnixTime} {row : ExpireRow} :
    row ∈ s.expiring now recover ↔ ∃ lease, s.leases.lookup row.leaseId = some lease ∧
      lease.attemptId = row.attemptId ∧ lease.taskId = row.taskId ∧ lease.state = .active ∧
      s.attempts.lookup row.attemptId = some row.attempt ∧
      s.tasks.lookup row.taskId = some row.task ∧
      row.execution = s.executionOfAttempt row.attemptId ∧
      (lease.expiresAt ≤ now ∨ (recover = true ∧ row.execution = none)) := by
  unfold expiring
  rw [List.mem_filterMap]
  constructor
  · rintro ⟨⟨l, lease⟩, hl, hrow⟩
    rw [List.mem_insertionSort, Table.mem_rows] at hl
    obtain ⟨attempt, hattempt, hrow⟩ := Option.bind_eq_some_iff.mp hrow
    obtain ⟨task, htask, hrow⟩ := Option.bind_eq_some_iff.mp hrow
    dsimp only at hrow
    split at hrow
    · rename_i hdue
      obtain rfl := Option.some.inj hrow
      refine ⟨lease, hl, rfl, rfl, hdue.1, hattempt, htask, rfl, hdue.2.imp_right ?_⟩
      rintro ⟨hrecover, hnone⟩
      exact ⟨hrecover, Option.isNone_iff_eq_none.mp hnone⟩
    · cases hrow
  · rintro ⟨lease, hl, ha, ht, hactive, hattempt, htask, hexec, hdue⟩
    refine ⟨(row.leaseId, lease), ?_, ?_⟩
    · rw [List.mem_insertionSort]
      exact Table.mem_rows.mpr hl
    · dsimp only
      rw [ha, ht, hattempt, htask, ← hexec]
      simp only [Option.bind_eq_bind, Option.bind_some]
      rw [if_pos ⟨hactive, hdue.imp_right fun h => ⟨h.1, Option.isNone_iff_eq_none.mpr h.2⟩⟩]

theorem expirable_of_mem {now : UnixTime} {row : ExpireRow} (hs : s.board.Sound)
    (h : row ∈ s.expiring now recover) : Expirable s.board row := by
  obtain ⟨lease, hl, ha, ht, hdue, hattempt, htask, -⟩ := mem_expiring.mp h
  have hlview : s.board.lease row.leaseId = some lease.view := Table.view_of_lookup hl
  have haview : s.board.attempt row.attemptId = some row.attempt.view :=
    Table.view_of_lookup hattempt
  obtain ⟨w, hw, hsame, -, hactive⟩ := hs.coherent.lease_attempt _ _ hlview
  rw [show lease.view.attempt = row.attemptId from ha] at hw
  cases haview.symm.trans hw
  have hsame : row.taskId = row.attempt.taskId := ht.symm.trans hsame
  refine ⟨hsame, lease, ?_, haview, hlview, ?_, ha⟩
  · show s.board.task row.attempt.taskId = _
    rw [← hsame]
    exact Table.view_of_lookup htask
  · exact of_decide_eq_true (hactive.symm.trans (decide_eq_true hdue))

/-- The rows not yet expired are still about held claims. -/
theorem Expirable.other {b' : Board} {row row' : ExpireRow} {lease : LeaseRow} (hs : b.Sound)
    (hheld : Held b row.attemptId ⟨row.attempt, row.leaseId, lease, row.task⟩)
    (h' : Expirable b row') (hne : row'.attemptId ≠ row.attemptId)
    (hset : Settles hheld.holding b') : Expirable b' row' where
  task := h'.task
  held := by
    obtain ⟨lease', hheld'⟩ := h'.held
    exact ⟨lease', hheld.other hs hheld' hne hset⟩

/-- A suspended task has its decision already, so restoring missing ones changes nothing. -/
theorem restoreMissingEscalations_board (hs : s.board.Sound)
    (h : Runs env restoreMissingEscalations s u s') : s'.board = s.board := by
  unfold restoreMissingEscalations at h
  refine h.query_bind.forM (P := fun s₁ => s₁.board = s.board) rfl fun x hx s₁ s₂ u hb h => ?_
  unfold restoreEscalation at h
  obtain ⟨kind, -, h⟩ := h.examine_bind
  obtain ⟨id, s₃, h₃, h₄⟩ := h.bind
  unfold undecidedFaults at hx
  obtain ⟨f, -, hx⟩ := List.mem_filterMap.mp hx
  obtain ⟨attempt, -, hx⟩ := Option.bind_eq_some_iff.mp hx
  obtain ⟨task, htask, hx⟩ := Option.bind_eq_some_iff.mp hx
  split at hx
  · rename_i hsuspended
    obtain rfl := Option.some.inj hx
    have hopen := hs.coupled.suspended_open _ _ (Table.view_of_lookup htask) hsuspended.1
    rw [← hb] at hopen
    obtain rfl := createEscalationWithCause_reuse h₃ hopen
    rw [board_frame h₄ rfl, hb]
  · cases hx

/-- **The expiry sweep.** What every round and the final repair keep, the sweep keeps; each round
    finds its claim still held. -/
theorem expireLeases_induction {report : ExpireReport} {P : Store → Prop} (hs : s.board.Sound)
    (h : Runs env (expireLeases recover) s report s') (hP : P s)
    (hround : ∀ row lease retried s₁ s₂, row ∈ s.expiring env.now recover → s₁.board.Sound →
      P s₁ → row.taskId = row.attempt.taskId →
      Held s₁.board row.attemptId ⟨row.attempt, row.leaseId, lease, row.task⟩ →
      Runs env (expireClaim row) s₁ retried s₂ → P s₂)
    (hrepair : ∀ s₁ u, s₁.board.Sound → P s₁ → Runs env restoreMissingEscalations s₁ u s' → P s') :
    P s' := by
  unfold expireLeases at h
  obtain ⟨retried, s₁, h₁, h⟩ := h.ask_bind.query_bind.bind
  obtain ⟨_, s₂, h₂, h⟩ := h.bind
  obtain ⟨-, rfl⟩ := h.pure
  have hinit : ∀ row ∈ firstOfEach (s.expiring env.now recover),
      row ∈ s.expiring env.now recover ∧ Expirable s.board row := fun row hrow =>
    ⟨mem_of_mem_firstOfEach hrow, expirable_of_mem hs (mem_of_mem_firstOfEach hrow)⟩
  have hloop := h₁.mapM_rest (P := fun rest s₁ => s₁.board.Sound ∧ P s₁ ∧
    (rest.Pairwise fun x y => y.attemptId ≠ x.attemptId) ∧
    ∀ row ∈ rest, row ∈ s.expiring env.now recover ∧ Expirable s₁.board row)
    ⟨hs, hP, firstOfEach_pairwise _, hinit⟩ fun row rest s₁ s₂ retried hinv hrun => by
      obtain ⟨hs₁, hP₁, hdistinct, hall⟩ := hinv
      obtain ⟨hne, hdistinct⟩ := List.pairwise_cons.mp hdistinct
      obtain ⟨hmem, htask, lease, hheld⟩ := hall row List.mem_cons_self
      have hset := expireClaim_settles hs₁ htask hheld hrun
      refine ⟨hs₁.step hset.step, hround row lease retried s₁ s₂ hmem hs₁ hP₁ htask hheld hrun,
        hdistinct, fun row' hrow' => ?_⟩
      obtain ⟨hmem', hexp'⟩ := hall row' (List.mem_cons_of_mem _ hrow')
      exact ⟨hmem', hexp'.other hs₁ hheld (hne row' hrow') hset⟩
  exact hrepair s₁ _ hloop.1 hloop.2.1 h₂

/-- **Expiry.** Each expired claim is one step of the machine. -/
theorem expireLeases_steps {report : ExpireReport} (hs : s.board.Sound)
    (h : Runs env (expireLeases recover) s report s') : Steps s.board s'.board := by
  refine expireLeases_induction (P := fun s₁ => Steps s.board s₁.board) hs h .refl ?_ ?_
  · intro row lease retried s₁ s₂ _ hs₁ hsteps htask hheld hrun
    exact hsteps.tail (expireClaim_settles hs₁ htask hheld hrun).step
  · intro s₁ u hs₁ hsteps hrun
    rwa [restoreMissingEscalations_board hs₁ hrun]

/-! ## Cancelling a batch

The rows of the tasks are written last, in one statement. On the way the store is behind the
machine in its tasks: the machine has cancelled every task of the batch except those with a claim
still to come. -/

/-- A task ends as cancelled. -/
def TaskView.cancelled (v : TaskView) : TaskView := { v with state := .cancelled, current := none }

/-- The open tasks of a batch are cancelled, except those that one of the listed attempts holds. -/
def cancelledBut (batch : BatchId) (rest : List AttemptId) (ts : TaskId → Option TaskView)
    (t : TaskId) : Option TaskView :=
  (ts t).map fun v =>
    if v.batch = batch ∧ v.state.isTerminal = false ∧ ∀ a ∈ rest, v.current ≠ some a then v.cancelled
    else v

/-- The claims of a batch still to be cancelled. -/
structure Cancellable (b : Board) (batch : BatchId)
    (rest : List (AttemptId × AttemptRow × TaskRow)) : Prop where
  distinct : rest.Pairwise fun x y => y.1 ≠ x.1
  batch : ∀ x ∈ rest, x.2.2.batchId = batch
  held : ∀ x ∈ rest, ∃ l lease, Held b x.1 ⟨x.2.1, l, lease, x.2.2⟩

theorem mem_activeClaims {x : AttemptId × AttemptRow × TaskRow} :
    x ∈ s.activeClaims batch ↔ s.attempts.lookup x.1 = some x.2.1 ∧
      s.tasks.lookup x.2.1.taskId = some x.2.2 ∧ x.2.2.batchId = batch ∧ x.2.1.state = .active := by
  unfold activeClaims
  rw [List.mem_insertionSort, List.mem_filterMap]
  constructor
  · rintro ⟨⟨a, attempt⟩, hmem, hx⟩
    obtain ⟨task, htask, hx⟩ := Option.bind_eq_some_iff.mp hx
    split at hx
    · rename_i hc
      obtain rfl := Option.some.inj hx
      exact ⟨Table.mem_rows.mp hmem, htask, hc.1, hc.2⟩
    · cases hx
  · rintro ⟨hattempt, htask, hbatch, hactive⟩
    refine ⟨(x.1, x.2.1), Table.mem_rows.mpr hattempt, Option.bind_eq_some_iff.mpr ⟨x.2.2, htask, ?_⟩⟩
    rw [if_pos ⟨hbatch, hactive⟩]

/-- The active claims of a batch are held, and each is listed once. -/
theorem activeClaims_cancellable (batch : BatchId) (hs : s.board.Sound) :
    Cancellable s.board batch (s.activeClaims batch) where
  distinct := by
    unfold activeClaims
    refine ((List.perm_insertionSort _ _).pairwise_iff Ne.symm).mpr ?_
    refine List.pairwise_filterMap.mpr (s.attempts.rows_pairwise.imp fun {y z} hne x hx x' hx' => ?_)
    obtain ⟨_, -, hx⟩ := Option.bind_eq_some_iff.mp hx
    obtain ⟨_, -, hx'⟩ := Option.bind_eq_some_iff.mp hx'
    split at hx <;> split at hx' <;> simp at hx hx'
    rw [← hx, ← hx']
    exact hne.symm
  batch x hx := (mem_activeClaims.mp hx).2.2.1
  held x hx := by
    obtain ⟨hattempt, htask, -, hactive⟩ := mem_activeClaims.mp hx
    have haview : s.board.attempt x.1 = some x.2.1.view := Table.view_of_lookup hattempt
    obtain ⟨l, v, hl, howns⟩ := hs.coherent.attempt_lease _ _ haview
    obtain ⟨lease, -, rfl⟩ := Table.view_eq_some.mp hl
    exact ⟨l, lease, Table.view_of_lookup htask, haview, hl, hactive, howns⟩

/-- The non-writer decisions of a batch are closed with it. -/
def cancelledDecisions (batch : BatchId) (es : EscalationId → Option EscalationView)
    (e : EscalationId) : Option EscalationView :=
  (es e).map fun x =>
    if x.batch = batch ∧ x.isOpen = true ∧ x.tag ≠ writerUnknown then { x with isOpen := false }
    else x

/-- **The first step of a cancelled batch** takes its tasks without a claim and its decisions. -/
theorem cancellation_of_batch (hb : b.Sound)
    (hall : ∀ t v a, b.task t = some v → v.batch = batch → v.current = some a → a ∈ rest) :
    Cancellation b (cancelledBut batch rest b.task) (cancelledDecisions batch b.escalation) where
  task t v hv := by
    unfold cancelledBut
    rw [hv, Option.map_some]
    split
    · rename_i hc
      have hidle : v.current = none := by
        cases hcur : v.current with
        | none => rfl
        | some a => exact absurd hcur (hc.2.2 a (hall t v a hv hc.1 hcur))
      exact .inr ⟨hidle, hc.2.1, by rw [TaskView.cancelled, hidle]⟩
    · exact .inl rfl
  task_absent t hnone := by
    unfold cancelledBut
    rw [hnone, Option.map_none]
  escalation e x hx := by
    unfold cancelledDecisions
    rw [hx, Option.map_some]
    split
    · rename_i hc
      refine .inr ⟨hc.2.2, ?_, rfl⟩
      obtain ⟨v, hv, hbatch, hstate⟩ := hb.coupled.open_task e x hx hc.2.1
      unfold cancelledBut
      rw [hv, Option.map_some]
      rcases hstate with hsuspended | hcancelled
      · -- a suspended task has no claim, so it is cancelled here
        have hidle : ∀ a ∈ rest, v.current ≠ some a := by
          intro a _ hcur
          have hassigned := (hb.coherent.assigned_iff _ v hv).mpr (by rw [hcur]; rfl)
          rw [hsuspended] at hassigned
          cases hassigned
        rw [if_pos ⟨hbatch.trans hc.1, by rw [hsuspended]; rfl, hidle⟩]
        exact ⟨_, rfl, rfl⟩
      · refine ⟨_, rfl, ?_⟩
        rw [if_neg fun h => ?_]
        · exact hcancelled
        · have hterm := h.2.1
          rw [hcancelled] at hterm
          cases hterm
    · exact .inl rfl
  escalation_absent e hnone := by
    unfold cancelledDecisions
    rw [hnone, Option.map_none]

/-- The task of a listed claim is left alone. -/
theorem cancelledBut_claimed (hb : b.Sound) (hheld : Held b a r) (ha : a ∈ rest) :
    cancelledBut batch rest b.task r.attempt.taskId = some r.task.view := by
  have hcur : r.task.view.current = some a := hb.coherent.holding_current hheld.holding
  rw [cancelledBut, hheld.task, Option.map_some, if_neg fun hc => hc.2.2 a ha hcur]

/-- One more claim of the batch is cancelled. -/
theorem cancelledBut_cons {ts : TaskId → Option TaskView} (hb : b.Sound) (hheld : Held b a r)
    (hbatch : r.task.batchId = batch) (hnew : a ∉ rest)
    (hts : b.task = cancelledBut batch (a :: rest) ts) :
    Function.update b.task r.attempt.taskId
      (some { r.task.view with state := .cancelled, current := none }) =
      cancelledBut batch rest ts := by
  have hcur : r.task.view.current = some a := hb.coherent.holding_current hheld.holding
  have hassigned : r.task.view.state.isAssigned = true :=
    hb.coherent.holding_assigned hheld.holding
  funext t
  rw [Function.update_apply]
  split
  · rename_i heq
    subst heq
    have hv := hheld.task
    rw [hts] at hv
    unfold cancelledBut at hv ⊢
    obtain ⟨v, hv, hsame⟩ := Option.map_eq_some_iff.mp hv
    -- the row is not cancelled yet, so it is the one the store still has
    split at hsame
    · rw [← hsame] at hcur
      cases hcur
    subst hsame
    have hopen : r.task.view.state.isTerminal = false := by
      revert hassigned
      cases r.task.view.state <;> decide
    have hkept : ∀ a' ∈ rest, r.task.view.current ≠ some a' := by
      intro a' ha' heq
      rw [hcur] at heq
      exact hnew (Option.some.inj heq ▸ ha')
    rw [hv, Option.map_some, if_pos ⟨hbatch, hopen, hkept⟩]
    rfl
  · rename_i hne
    rw [hts]
    unfold cancelledBut
    cases hv : ts t with
    | none => rfl
    | some v =>
      have hother : v.current ≠ some a := by
        intro heq
        have hkept : b.task t = some v := by
          rw [hts, cancelledBut, hv, Option.map_some, if_neg]
          exact fun hc => hc.2.2 a List.mem_cons_self heq
        obtain ⟨w, hw, htask, -⟩ := hb.coherent.current_attempt t v a hkept heq
        rw [hheld.attempt] at hw
        exact hne (htask.symm.trans (congrArg AttemptView.task (Option.some.inj hw).symm))
      simp [hother]

/-- **One round of a cancelled batch.** -/
theorem cancelBatchAttempt_settles {l : LeaseId} {lease : LeaseRow} {ts : TaskId → Option TaskView}
    {x : AttemptId × AttemptRow × TaskRow} (hb : b.Sound)
    (hheld : Held b x.1 ⟨x.2.1, l, lease, x.2.2⟩) (hbatch : x.2.2.batchId = batch)
    (hs : s.board = b.withTasks ts) (h : Runs env (cancelBatchAttempt batch x) s u s') :
    ∃ b', Settles hheld.holding b' ∧ s'.board = b'.withTasks ts ∧
      b'.task = Function.update b.task x.2.1.taskId
        (some { x.2.2.view with state := .cancelled, current := none }) := by
  unfold cancelBatchAttempt at h
  obtain ⟨_, s₁, h₁, h⟩ := (executionForAttempt_bind h).bind
  obtain ⟨_, s₂, h₂, h₃⟩ := h.bind
  rw [← hbatch] at h₃
  exact cancelClaim_settles hb hheld ((board_frame h₁ rfl).trans hs) h₂ rfl h₃

theorem closeDecisions_board
    (h : Runs env (updateIn escalationsT constraintViolation
      (fun _ e => decide (e.batchId = batch) && decide (e.state = .opened) &&
        decide (e.tag ≠ .taskFailure .writerQuiescenceUnknown))
      fun e => { e with state := .cancelled }) s u s') :
    s'.board = s.board.withEscalations (cancelledDecisions batch s.board.escalation) := by
  refine shown_escalations.update_map h _ fun k row => ?_
  unfold Table.updateRow
  by_cases hc : row.batchId = batch ∧ row.state = .opened ∧ row.tag ≠ writerUnknown
  · rw [if_pos (by simp [hc]), if_pos ⟨hc.1, decide_eq_true hc.2.1, hc.2.2⟩]
    rfl
  · rw [if_neg (by simpa [and_assoc] using hc),
      if_neg fun h => hc ⟨h.1, of_decide_eq_true h.2.1, h.2.2⟩]

theorem cancelTasks_board
    (h : Runs env (updateIn tasksT constraintViolation
      (fun _ t => decide (t.batchId = batch) && !t.state.isTerminal)
      fun t => { t with state := .cancelled, currentAttemptId := none }) s u s') :
    s'.board = s.board.withTasks (cancelledBut batch [] s.board.task) := by
  refine shown_tasks.update_map h _ fun k row => ?_
  unfold Table.updateRow
  by_cases hc : row.batchId = batch ∧ row.state.isTerminal = false
  · rw [if_pos (by simp [hc]), if_pos ⟨hc.1, hc.2, fun _ ha => by cases ha⟩]
    rfl
  · rw [if_neg (by simpa using hc), if_neg fun h => hc ⟨h.1, h.2.1⟩]

/-- **The cancellation of a batch.** What its three parts keep, the cancellation keeps; each round
    finds its claim held on the machine's board. -/
theorem cancelOpenBatch_induction {P : Store → Prop} (hs : s.board.Sound)
    (h : Runs env (cancelOpenBatch batch) s u s')
    (hfirst : ∀ s₁ u, Runs env (updateIn escalationsT constraintViolation
      (fun _ e => decide (e.batchId = batch) && decide (e.state = .opened) &&
        decide (e.tag ≠ .taskFailure .writerQuiescenceUnknown))
      fun e => { e with state := .cancelled }) s u s₁ → P s₁)
    (hround : ∀ c b ts l lease s₁ s₂ u, c ∈ s.activeClaims batch → b.Sound →
      s₁.board = b.withTasks ts → Held b c.1 ⟨c.2.1, l, lease, c.2.2⟩ → P s₁ →
      Runs env (cancelBatchAttempt batch c) s₁ u s₂ → P s₂)
    (hlast : ∀ s₁ s₂ u₁ u₂, P s₁ → Runs env (updateIn tasksT constraintViolation
        (fun _ t => decide (t.batchId = batch) && !t.state.isTerminal)
        fun t => { t with state := .cancelled, currentAttemptId := none }) s₁ u₁ s₂ →
      Runs env (updateIn batchesT constraintViolation (fun k _ => decide (k = batch))
        fun b => { b with state := .cancelled }) s₂ u₂ s' → P s') :
    Steps s.board s'.board ∧ P s' := by
  unfold cancelOpenBatch at h
  obtain ⟨_, s₁, h₁, h⟩ := h.bind
  obtain ⟨_, s₂, h₂, h⟩ := h.query_bind.bind
  obtain ⟨_, s₃, h₃, h₄⟩ := h.bind
  have hb₁ := closeDecisions_board h₁
  have hattempts : s₁.attempts = s.attempts := by
    obtain ⟨t', -, rfl⟩ := h₁.updateIn
    rfl
  have htasks : s₁.tasks = s.tasks := by
    obtain ⟨t', -, rfl⟩ := h₁.updateIn
    rfl
  have hclaims : s₁.activeClaims batch = s.activeClaims batch := by
    unfold activeClaims
    rw [hattempts, htasks]
  rw [hclaims] at h₂
  -- every claim of the batch is listed
  have hall : ∀ t v a, s.board.task t = some v → v.batch = batch → v.current = some a →
      a ∈ (s.activeClaims batch).map Prod.fst := by
    intro t v a hv hbatch hcur
    obtain ⟨w, hw, htask, -, hactive⟩ := hs.coherent.current_attempt t v a hv hcur
    obtain ⟨attempt, hattempt, rfl⟩ := Table.view_eq_some.mp hw
    obtain ⟨task, htask', rfl⟩ := Table.view_eq_some.mp hv
    refine List.mem_map.mpr ⟨(a, attempt, task), mem_activeClaims.mpr ⟨hattempt, ?_, hbatch,
      of_decide_eq_true hactive⟩, rfl⟩
    rwa [show attempt.taskId = t from htask]
  have hfirst' := Step.cancelIdle (cancellation_of_batch hs hall)
  have hinit := activeClaims_cancellable batch hs
  have hloop := h₂.forM_rest (P := fun rest s₁ => P s₁ ∧ (∀ c ∈ rest, c ∈ s.activeClaims batch) ∧
    ∃ b, Steps s.board b ∧ s₁.board = b.withTasks s.board.task ∧ Cancellable b batch rest ∧
      b.task = cancelledBut batch (rest.map Prod.fst) s.board.task)
    ⟨hfirst s₁ _ h₁, fun _ hc => hc, _, .single hfirst', ?_, ?_, rfl⟩
    fun x rest s₁ s₂ u hinv hrun => ?_
  · obtain ⟨hP, -, b, hsteps, hb₂, -, hts⟩ := hloop
    have hb₃ := cancelTasks_board h₃
    have hfinal : s₃.board = b := by
      rw [hb₃, hb₂]
      show b.withTasks (cancelledBut batch [] s.board.task) = b
      rw [← List.map_nil, ← hts]
      rfl
    refine ⟨?_, hlast s₂ s₃ _ _ hP h₃ h₄⟩
    obtain ⟨bt, -, rfl⟩ := h₄.updateIn
    show Steps s.board s₃.board
    rw [hfinal]
    exact hsteps
  · rw [hb₁]
    rfl
  · exact ⟨hinit.distinct, hinit.batch, fun x hx => by
      obtain ⟨l, lease, hheld⟩ := hinit.held x hx
      refine ⟨l, lease, ?_, hheld.attempt, hheld.lease, hheld.active, hheld.owns⟩
      exact cancelledBut_claimed hs hheld (List.mem_map.mpr ⟨x, hx, rfl⟩)⟩
  · obtain ⟨hP, hmem, b, hsteps, hb, hcan, hts⟩ := hinv
    have hsound := hs.steps hsteps
    obtain ⟨hne, hdistinct⟩ := List.pairwise_cons.mp hcan.distinct
    obtain ⟨l, lease, hheld⟩ := hcan.held x List.mem_cons_self
    have hbatch := hcan.batch x List.mem_cons_self
    obtain ⟨b', hset, hb', hts'⟩ := cancelBatchAttempt_settles hsound hheld hbatch hb hrun
    refine ⟨hround x b _ l lease s₁ s₂ u (hmem x List.mem_cons_self) hsound hb hheld hP hrun,
      fun c hc => hmem c (List.mem_cons_of_mem _ hc), b', hsteps.tail hset.step, hb',
      ⟨hdistinct, fun y hy => hcan.batch y (List.mem_cons_of_mem _ hy), fun y hy => ?_⟩, ?_⟩
    · obtain ⟨l', lease', hheld'⟩ := hcan.held y (List.mem_cons_of_mem _ hy)
      exact ⟨l', lease', hheld.other hsound hheld' (hne y hy) hset⟩
    · rw [hts']
      refine cancelledBut_cons hsound hheld hbatch (fun hmem => ?_) hts
      obtain ⟨y, hy, heq⟩ := List.mem_map.mp hmem
      exact hne y hy heq

theorem cancelOpenBatch_steps (hs : s.board.Sound) (h : Runs env (cancelOpenBatch batch) s u s') :
    Steps s.board s'.board :=
  (cancelOpenBatch_induction (P := fun _ => True) hs h (fun _ _ _ => trivial)
    (fun _ _ _ _ _ _ _ _ _ _ _ _ _ _ => trivial) fun _ _ _ _ _ _ _ => trivial).1

theorem cancelBatch_steps (hs : s.board.Sound) (h : Runs env (cancelBatch batch) s u s') :
    Steps s.board s'.board := by
  unfold cancelBatch at h
  obtain ⟨row, -, h⟩ := h.fetch_bind
  obtain ⟨_, h⟩ := h.require_bind
  split at h
  · obtain ⟨-, rfl⟩ := h.pure
    exact .refl
  · exact cancelOpenBatch_steps hs h

end Agentype

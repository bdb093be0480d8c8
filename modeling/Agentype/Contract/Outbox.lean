import Agentype.Kernel.Ages

/-!
# `Agentype.Contract.Outbox` — the bookkeeping of notifications

Notifications are delivered outside of transactions. A notifier reads what is due, talks to the root
session and then commits the outcome in a transaction of its own, so several outcomes of one event can
arrive in any order, mixed with acknowledgements. The outbox has two kinds of statements: an operation
of the scheduler posts new events, and a *handling* (a delivery commit or an acknowledgement) rewrites
one row, if the row still has the state the handling is for.

Every call is therefore described by what it does to a row (`Handling.apply`), and the history of an
event is the history of the handlings that found it pending.

## Contents
- `Handling`, `Handling.apply`, `Op.handling`; `exec_handling`: what a handling commits.
- `Posts`: events are added and none is touched; `exec_posts`: every other operation posts.
- `Dispatch`: the calls, with the events that the frontier posts; `call_row`, `call_new`.
- `Store.commitsFound`: the delivery commits that found an event pending.
- **`outbox_counted_once`**.
-/

namespace Agentype

open Relational Tx Store

variable {env : Env} {s s' : Store}
variable {id : OutboxEventId} {op : Op} {h : Handling} {u : Unit} {c : Env × Dispatch}
  {o : OutboxRow}

/-! ## Handlings -/

/-- What a call does with one event. -/
inductive Handling where
  | acknowledge
  | mark
  | succeed
  | fail (delay : ℚ) (diagnostic : String)

/-- A handling that reports the outcome of a delivery. -/
def Handling.isCommit : Handling → Bool
  | acknowledge => false
  | mark | succeed | fail .. => true

/-- The state of an event in which a handling still has something to do. -/
def Handling.due : Handling → OutboxRow → Bool
  | acknowledge, o => o.state ≠ .acked
  | mark, o | succeed, o | fail .., o => o.state = .pending

/-- The columns that a handling sets. -/
def Handling.change (now : UnixTime) : Handling → OutboxRow → OutboxRow
  | acknowledge, o => { o with state := .acked, acknowledgedAt := some now }
  | mark, o => o.delivered now
  | succeed, o => { o.delivered now with lastError := none }
  | fail delay diagnostic, o => o.postponed (Binary64.add now delay) (boundLastError diagnostic)

/-- What a handling makes of a row. -/
def Handling.apply (now : UnixTime) (h : Handling) (o : OutboxRow) : OutboxRow :=
  if h.due o then h.change now o else o

/-- The operations that handle an event. -/
def Op.handling : Op → Option (OutboxEventId × Handling)
  | .ackOutbox id => some (id, .acknowledge)
  | .markOutboxDelivered id => some (id, .mark)
  | .commitOutboxDeliverySuccess id => some (id, .succeed)
  | .commitOutboxDeliveryFailure id delay diagnostic => some (id, .fail delay diagnostic)
  | _ => none

/-- Rewrite a row and report the state. -/
theorem updateEvent_pure {f : OutboxRow → OutboxRow} {a o : OutboxState}
    (h : Runs env (updateEvent id f >>= fun _ => pure a) s o s') :
    Runs env (updateEvent id f) s () s' := by
  obtain ⟨_, s₁, h₁, h⟩ := h.bind
  obtain ⟨-, rfl⟩ := h.pure
  exact h₁

/-- **What a handling commits.** The event exists, and its row is rewritten if it is due. -/
theorem exec_handling (hop : op.handling = some (id, h)) (hr : Runs env op.exec s u s') :
    ∃ row, s.notificationOutbox.lookup id = some row ∧
      (h.due row = true ∧ Runs env (updateEvent id (h.change env.now)) s () s' ∨
        h.due row = false ∧ s' = s) := by
  cases op with
  | ackOutbox =>
    cases hop
    obtain ⟨_, hr⟩ := runs_of_effect hr
    unfold ackOutbox at hr
    obtain ⟨row, hrow, hr⟩ := hr.ask_bind.fetch_bind
    obtain ⟨_, s₁, h₁, hr⟩ := hr.bind
    obtain ⟨-, rfl⟩ := hr.pure
    exact ⟨row, hrow, h₁.whenever⟩
  | markOutboxDelivered =>
    cases hop
    obtain ⟨_, hr⟩ := runs_of_effect hr
    unfold markOutboxDelivered at hr
    obtain ⟨row, hrow, hr⟩ := hr.ask_bind.fetch_bind
    refine ⟨row, hrow, ?_⟩
    split_ifs at hr with hpending
    · exact .inl ⟨decide_eq_true hpending, updateEvent_pure hr⟩
    · exact .inr ⟨decide_eq_false hpending, hr.pure.2⟩
  | commitOutboxDeliverySuccess =>
    cases hop
    obtain ⟨_, hr⟩ := runs_of_effect hr
    unfold commitOutboxDeliverySuccess commitOutboxDelivery at hr
    obtain ⟨row, hrow, hr⟩ := hr.fetch_bind
    refine ⟨row, hrow, ?_⟩
    split_ifs at hr with hpending
    · exact .inl ⟨decide_eq_true hpending, updateEvent_pure hr.ask_bind⟩
    · exact .inr ⟨decide_eq_false hpending, hr.pure.2⟩
  | commitOutboxDeliveryFailure =>
    cases hop
    obtain ⟨_, hr⟩ := runs_of_effect hr
    unfold commitOutboxDeliveryFailure commitOutboxDelivery at hr
    obtain ⟨-, hr⟩ := hr.require_bind
    obtain ⟨row, hrow, hr⟩ := hr.fetch_bind
    refine ⟨row, hrow, ?_⟩
    split_ifs at hr with hpending
    · exact .inl ⟨decide_eq_true hpending, updateEvent_pure hr.ask_bind⟩
    · exact .inr ⟨decide_eq_false hpending, hr.pure.2⟩
  | _ => cases hop

/-- **The rows after a handling**: the row of the event is what the handling makes of it, and no other
    row changes. -/
theorem handling_rows (hop : op.handling = some (id, h)) (hr : Runs env op.exec s u s')
    (k : OutboxEventId) :
    s'.notificationOutbox.lookup k =
      if k = id then (s.notificationOutbox.lookup id).map (h.apply env.now)
      else s.notificationOutbox.lookup k := by
  obtain ⟨row, hrow, ⟨hdue, hrewrite⟩ | ⟨hdue, rfl⟩⟩ := exec_handling hop hr
  · obtain ⟨t', ht', rfl⟩ := Tx.Runs.updateIn hrewrite
    show t'.lookup k = _
    rw [Table.lookup_of_update_key ht']
    split_ifs with hk
    · subst hk
      show (s.notificationOutbox.lookup k).map _ = _
      simp [hrow, Handling.apply, hdue]
    · rfl
  · split_ifs with hk
    · subst hk
      simp [hrow, Handling.apply, hdue]
    · rfl

/-! ## Posting -/

/-- A newly posted event. -/
structure OutboxRow.Posted (now : UnixTime) (o : OutboxRow) : Prop where
  state : o.state = .pending
  attempts : o.deliveryAttempts = 0
  next : o.nextDeliveryAt = now
  created : o.createdAt = now
  unacknowledged : o.acknowledgedAt = none

/-- **Posting**: events stay as they are, and what is new is posted now. -/
structure Posts (env : Env) (s s' : Store) : Prop where
  kept : ∀ id row, s.notificationOutbox.lookup id = some row →
    s'.notificationOutbox.lookup id = some row
  posted : ∀ id row, s'.notificationOutbox.lookup id = some row →
    s.notificationOutbox.lookup id = some row ∨
      s.notificationOutbox.lookup id = none ∧ row.Posted env.now

instance (env : Env) : IsPreorder Store (Posts env) where
  refl _ := ⟨fun _ _ h => h, fun _ _ h => .inl h⟩
  trans s₁ s₂ s₃ h h' := by
    refine ⟨fun id row hrow => h'.kept id row (h.kept id row hrow), fun id row hrow => ?_⟩
    rcases h'.posted id row hrow with hold | ⟨hnone, hposted⟩
    · exact h.posted id row hold
    · refine .inr ⟨?_, hposted⟩
      cases hfirst : s₁.notificationOutbox.lookup id with
      | none => rfl
      | some row₁ =>
        rw [h.kept id row₁ hfirst] at hnone
        cases hnone

instance : Sees [.notificationOutbox] Posts := by
  constructor
  intro env s s' h
  have hsame : s'.notificationOutbox = s.notificationOutbox := h .notificationOutbox (by decide)
  refine ⟨fun id row hrow => ?_, fun id row hrow => .inl ?_⟩
  · rw [hsame]
    exact hrow
  · rw [← hsame]
    exact hrow

theorem enqueueEvent_posts (ty : OutboxEventType) (agg : String) :
    Respects Posts (enqueueEvent ty agg) := by
  intro env s id s' h
  unfold enqueueEvent at h
  obtain ⟨n, h⟩ := newId_bind h.ask_bind
  obtain ⟨t', ht', h⟩ := h.insertInto_bind
  obtain ⟨-, rfl⟩ := h.pure
  obtain ⟨hnone, hlookup⟩ := Table.lookup_of_insert ht'
  constructor
  · intro k row hrow
    show t'.lookup k = some row
    rw [hlookup, if_neg]
    · exact hrow
    · rintro rfl
      rw [show s.notificationOutbox.lookup _ = _ from hnone] at hrow
      cases hrow
  · intro k row hrow
    replace hrow : t'.lookup k = some row := hrow
    rw [hlookup] at hrow
    split_ifs at hrow with hk
    · cases hrow
      subst hk
      exact .inr ⟨hnone, ⟨rfl, rfl, rfl, rfl, rfl⟩⟩
    · exact .inl hrow

theorem recomputeBatch_posts {b : BatchId} : Respects Posts (recomputeBatch b) := by
  unfold recomputeBatch
  exact .bind (.fetch _ _) fun _ => .ite (.pure _) (.bind (.examine _) fun _ => .whenever
    (.bind (.aside rfl) fun _ => .whenever (.bind (enqueueEvent_posts _ _) fun _ => .pure _)))

theorem createEscalationWithCause_posts {t : TaskId} {b : BatchId} {g : Option LogicalAgentId}
    {w : Option WorkstreamId} {cause : EscalationCause} {sig detail : Option String} :
    Respects Posts (createEscalationWithCause t b g w cause sig detail) :=
  createEscalationWithCause_respects (fun _ _ => .aside rfl) (fun _ _ => .aside rfl)
    fun _ => enqueueEvent_posts _ _

/-- The statements of a settlement post. -/
theorem settling_posts (k : Option (TaskId × AttemptId)) : Settling Posts k := by
  intro α x hx
  cases hx with
  | escalate => exact createEscalationWithCause_posts
  | batch => exact recomputeBatch_posts
  | _ => exact .aside rfl

/-- A resolution posts at most the news of its batch. -/
theorem resolveEscalation_posts (e : EscalationId) (op : String) (q : Bool) :
    Respects Posts (resolveEscalation e op q) :=
  resolveEscalation_respects (fun _ _ _ => .aside rfl) (fun _ => .aside rfl) (fun _ _ => .aside rfl)
    (fun _ _ => .aside rfl) (fun _ => .aside rfl) fun _ => recomputeBatch_posts

/-- **Every operation that handles no event posts.** -/
theorem exec_posts (hop : op.handling = none) : Respects Posts op.exec := by
  cases op with
  | ackOutbox | markOutboxDelivered | commitOutboxDeliverySuccess | commitOutboxDeliveryFailure =>
    cases hop
  | ackSuccess | nack | reportConfigurationUnavailable | nackPreservingPhysicalHistory
  | abortBeforePhysicalStart | cancelTask | cancelBatch | expireLeases =>
    exact Settling.exec settling_posts rfl
  | resolveEscalation => exact resolveEscalation_posts _ _ _
  | _ =>
    -- no other operation writes the outbox
    exact .aside (by simp [Op.footprint])

/-! ## Whole histories -/

/-- A call that reaches the outbox: an operation of the kernel, or the event that a transaction of
    the frontier posts. -/
inductive Dispatch where
  | kernel (op : Op)
  | post (eventType : OutboxEventType) (aggregateId : String)

def Dispatch.exec : Dispatch → KernelTx Unit
  | kernel op => op.exec
  | post eventType aggregateId => effect (enqueueEvent eventType aggregateId)

/-- How a call handles an event, if it does. -/
def Dispatch.handling : Dispatch → Option (OutboxEventId × Handling)
  | kernel op => op.handling
  | post .. => none

/-- The call reports the outcome of a delivery of the event, with an admissible delay. -/
def Dispatch.commits (d : Dispatch) (id : OutboxEventId) : Bool :=
  match d.handling with
  | some (k, .fail delay _) => decide (k = id) && decide (0 ≤ delay)
  | some (k, h) => decide (k = id) && h.isCommit
  | none => false

/-- The call reports a failed delivery of the event. -/
def Dispatch.reportsFailure (d : Dispatch) (id : OutboxEventId) : Bool :=
  match d.handling with
  | some (k, .fail ..) => decide (k = id)
  | _ => false

abbrev Store.dispatch (s : Store) (c : Env × Dispatch) : Store := step Dispatch.exec s c

abbrev Store.dispatched (s : Store) (calls : List (Env × Dispatch)) : Store :=
  run Dispatch.exec s calls

/-- The event is pending. -/
def Store.isPending (s : Store) (id : OutboxEventId) : Bool :=
  (s.notificationOutbox.lookup id).any fun o => decide (o.state = .pending)

/-- How many of the calls are delivery commits that find the event pending. -/
def Store.commitsFound (id : OutboxEventId) : Store → List (Env × Dispatch) → Nat
  | _, [] => 0
  | s, c :: rest =>
    (if c.2.commits id && s.isPending id then 1 else 0) + commitsFound id (s.dispatch c) rest

theorem commitsFound_cons (id : OutboxEventId) (s : Store) (c : Env × Dispatch)
    (rest : List (Env × Dispatch)) :
    s.commitsFound id (c :: rest) =
      (if c.2.commits id && s.isPending id then 1 else 0) + (s.dispatch c).commitsFound id rest :=
  rfl

/-- A call that handles no event posts. -/
theorem dispatch_posts {d : Dispatch} (h : d.handling = none) : Respects Posts d.exec := by
  cases d with
  | kernel op => exact exec_posts h
  | post ty agg => exact .bind (enqueueEvent_posts ty agg) fun _ => .pure _

def OutboxState.rank : OutboxState → Nat
  | .pending => 0
  | .delivered => 1
  | .acked => 2

/-- **What a call may do to an event**: it moves forward, an acknowledged event stays as it is, an
    attempt is counted for a delivery commit that found the event pending, and only the report of a
    failure to a pending event sets the next delivery. -/
structure OutboxRow.Advances (c : Env × Dispatch) (id : OutboxEventId) (o o' : OutboxRow) : Prop where
  event : o'.eventType = o.eventType
  aggregate : o'.aggregateId = o.aggregateId
  created : o'.createdAt = o.createdAt
  forward : o.state.rank ≤ o'.state.rank
  acked : o.state = .acked → o' = o
  counted : o'.deliveryAttempts =
    o.deliveryAttempts + if c.2.commits id && decide (o.state = .pending) then 1 else 0
  next : o'.nextDeliveryAt ≠ o.nextDeliveryAt → o.state = .pending ∧ c.2.reportsFailure id = true
  late : o.state ≠ .pending → c.2.commits id = true → o' = o

/-- An event that a call leaves alone. -/
theorem OutboxRow.Advances.same (h : (c.2.commits id && decide (o.state = .pending)) = false) :
    o.Advances c id o where
  event := rfl
  aggregate := rfl
  created := rfl
  forward := le_refl _
  acked _ := rfl
  counted := by simp [h]
  next hne := absurd rfl hne
  late _ _ := rfl

theorem Handling.apply_advances (hc : c.2.handling = some (id, h))
    (hdelay : ∀ delay d, h = .fail delay d → 0 ≤ delay) (o : OutboxRow) :
    o.Advances c id (h.apply c.1.now o) := by
  cases h with
  | acknowledge =>
    have hnot : c.2.commits id = false := by simp [Dispatch.commits, hc, Handling.isCommit]
    by_cases hacked : o.state = .acked
    · rw [Handling.apply, if_neg (by simp [due, hacked])]
      exact .same (by simp [hnot])
    · rw [Handling.apply, if_pos (by simp [due, hacked])]
      constructor
      · rfl
      · rfl
      · rfl
      · show o.state.rank ≤ 2
        cases o.state <;> decide
      · exact fun h => absurd h hacked
      · simp [hnot, change]
      · exact fun hne => absurd rfl hne
      · simp [hnot]
  | mark | succeed =>
    have hcommits : c.2.commits id = true := by simp [Dispatch.commits, hc, Handling.isCommit]
    by_cases hpending : o.state = .pending
    · rw [Handling.apply, if_pos (by simp [due, hpending])]
      constructor
      · rfl
      · rfl
      · rfl
      · simp [hpending, OutboxState.rank]
      · simp [hpending]
      · simp [hcommits, hpending, change, OutboxRow.delivered]
      · exact fun hne => absurd rfl hne
      · exact fun h => absurd hpending h
    · rw [Handling.apply, if_neg (by simp [due, hpending])]
      exact .same (by simp [hpending])
  | fail delay diagnostic =>
    have hcommits : c.2.commits id = true := by
      simp [Dispatch.commits, hc, hdelay delay diagnostic rfl]
    by_cases hpending : o.state = .pending
    · rw [Handling.apply, if_pos (by simp [due, hpending])]
      constructor
      · rfl
      · rfl
      · rfl
      · exact le_refl _
      · simp [hpending]
      · simp [hcommits, hpending, change, OutboxRow.postponed]
      · exact fun _ => ⟨hpending, by simp [Dispatch.reportsFailure, hc]⟩
      · exact fun h => absurd hpending h
    · rw [Handling.apply, if_neg (by simp [due, hpending])]
      exact .same (by simp [hpending])

/-- The report of a failure is committed with an admissible delay only. -/
theorem failure_delay {d : Dispatch} (hd : d.handling = some (id, h))
    (hr : Runs env d.exec s u s') : ∀ delay x, h = .fail delay x → 0 ≤ delay := by
  rintro delay x rfl
  cases d with
  | post => cases hd
  | kernel op =>
    cases op with
    | commitOutboxDeliveryFailure =>
      cases hd
      obtain ⟨_, hr⟩ := runs_of_effect hr
      unfold commitOutboxDeliveryFailure at hr
      exact of_decide_eq_true hr.require_bind.1
    | _ => cases hd

/-- Rewriting a row of the outbox does not fail. -/
theorem updateEvent_ensures (id : OutboxEventId) (f : OutboxRow → OutboxRow) (n : Nat) :
    Ensures env (updateEvent id f) s n fun _ _ _ => True := by
  obtain ⟨t', ht'⟩ : ∃ t', s.notificationOutbox.update (fun k _ => decide (k = id)) f = some t' :=
    Table.exists_update (fun _ _ _ => rfl) fun _ _ _ _ _ _ _ => rfl
  exact .updateIn ht' trivial

/-- **A delivery commit of an existing event is committed.** -/
theorem commits_of_event (ho : s.notificationOutbox.lookup id = some o)
    (hc : c.2.commits id = true) : Commits Dispatch.exec s c := by
  obtain ⟨env, d⟩ := c
  have hrewrite : ∀ {f : OutboxRow → OutboxRow} {a b : OutboxState} {n : Nat},
      Ensures env (if o.state = .pending then (updateEvent id f >>= fun _ => pure a) else pure b :
        KernelTx OutboxState) s n fun _ _ _ => True := by
    intro f a b n
    split_ifs
    · exact .bind ((updateEvent_ensures id f n).mono fun _ _ _ _ => .pure trivial)
    · exact .pure trivial
  have hcommit : ∀ commit n,
      Ensures env (commitOutboxDelivery id commit) s n fun _ _ _ => True := by
    intro commit n
    refine .bind (.fetch ho ?_)
    split_ifs
    · cases commit with
      | success | failure =>
        exact .bind (.ask (.bind ((updateEvent_ensures id _ n).mono fun _ _ _ _ => .pure trivial)))
    · exact .pure trivial
  apply Ensures.commits (Q := fun _ _ _ => True)
  cases d with
  | post => cases hc
  | kernel op =>
    cases op with
    | markOutboxDelivered k =>
      obtain rfl : k = id := by simpa [Dispatch.commits, Dispatch.handling, Op.handling,
        Handling.isCommit] using hc
      refine .bind (Ensures.mono (.bind (.ask (.bind (.fetch ho hrewrite))))
        fun _ _ _ _ => .pure trivial)
    | commitOutboxDeliverySuccess k =>
      obtain rfl : k = id := by simpa [Dispatch.commits, Dispatch.handling, Op.handling,
        Handling.isCommit] using hc
      exact .bind ((hcommit .success 0).mono fun _ _ _ _ => .pure trivial)
    | commitOutboxDeliveryFailure k delay diagnostic =>
      obtain ⟨rfl, hdelay⟩ : k = id ∧ 0 ≤ delay := by
        simpa [Dispatch.commits, Dispatch.handling, Op.handling] using hc
      refine .bind (Ensures.mono (Q := fun _ _ _ => True) ?_ fun _ _ _ _ => .pure trivial)
      exact .bind (.require (decide_eq_true hdelay) (hcommit _ _))
    | _ => simp [Dispatch.commits, Dispatch.handling, Op.handling, Handling.isCommit] at hc

/-- **The row of an event after a call.** -/
theorem dispatch_row (s : Store) (c : Env × Dispatch)
    (ho : s.notificationOutbox.lookup id = some o) :
    ∃ o', (s.dispatch c).notificationOutbox.lookup id = some o' ∧ o.Advances c id o' := by
  rcases step_cases Dispatch.exec s c with ⟨-, hr⟩ | ⟨hno, heq⟩
  · cases hd : c.2.handling with
    | none =>
      refine ⟨o, (dispatch_posts hd _ _ _ _ hr).kept id o ho, .same ?_⟩
      simp [Dispatch.commits, hd]
    | some x =>
      obtain ⟨k, h⟩ := x
      have hrows : (s.dispatch c).notificationOutbox.lookup id =
          if id = k then (s.notificationOutbox.lookup k).map (h.apply c.1.now)
          else s.notificationOutbox.lookup id := by
        obtain ⟨env, d⟩ := c
        cases d with
        | kernel op => exact handling_rows hd hr id
        | post => cases hd
      split_ifs at hrows with hk
      · subst hk
        rw [ho] at hrows
        exact ⟨_, hrows, Handling.apply_advances hd (failure_delay hd hr) o⟩
      · refine ⟨o, hrows.trans ho, .same ?_⟩
        have hne : decide (k = id) = false := decide_eq_false (Ne.symm hk)
        cases h <;> simp [Dispatch.commits, hd, hne]
  · -- a call that is not committed reports no delivery of this event
    refine ⟨o, by rw [show s.dispatch c = s from heq]; exact ho, .same ?_⟩
    cases hc : c.2.commits id with
    | false => rfl
    | true => exact absurd (commits_of_event ho hc) hno

/-- **What a call adds** is posted by it; a call that handles an event adds none. -/
theorem dispatch_new (s : Store) (c : Env × Dispatch)
    (hnone : s.notificationOutbox.lookup id = none)
    (ho : (s.dispatch c).notificationOutbox.lookup id = some o) :
    c.2.handling = none ∧ o.Posted c.1.now := by
  rcases step_cases Dispatch.exec s c with ⟨-, hr⟩ | ⟨-, heq⟩
  · cases hd : c.2.handling with
    | none =>
      rcases (dispatch_posts hd _ _ _ _ hr).posted id o ho with hold | ⟨-, hposted⟩
      · rw [hnone] at hold
        cases hold
      · exact ⟨rfl, hposted⟩
    | some x =>
      obtain ⟨env, d⟩ := c
      obtain ⟨k, h⟩ := x
      cases d with
      | post => cases hd
      | kernel op =>
        have hrows : (s.dispatch (env, .kernel op)).notificationOutbox.lookup id = _ :=
          handling_rows hd hr id
        rw [hrows] at ho
        split_ifs at ho with hk
        · subst hk
          simp [hnone] at ho
        · rw [hnone] at ho
          cases ho
  · rw [show s.dispatch c = s from heq, hnone] at ho
    cases ho

/-- **A late delivery commit changes nothing at all.** -/
theorem dispatch_late (s : Store) (c : Env × Dispatch)
    (ho : s.notificationOutbox.lookup id = some o) (hlate : o.state ≠ .pending)
    (hc : c.2.commits id = true) : s.dispatch c = s := by
  rcases step_cases Dispatch.exec s c with ⟨-, hr⟩ | ⟨-, heq⟩
  · obtain ⟨env, d⟩ := c
    cases d with
    | post => cases hc
    | kernel op =>
      cases hop : op.handling with
      | none => simp [Dispatch.commits, Dispatch.handling, hop] at hc
      | some x =>
        obtain ⟨k, h⟩ := x
        obtain ⟨hk, hcommit⟩ : k = id ∧ h.isCommit = true := by
          cases h <;> simp_all [Dispatch.commits, Dispatch.handling, Handling.isCommit]
        subst hk
        obtain ⟨row, hrow, ⟨hdue, -⟩ | ⟨-, hsame⟩⟩ := exec_handling hop hr
        · cases ho.symm.trans hrow
          cases h with
          | acknowledge => cases hcommit
          | _ => exact absurd (of_decide_eq_true hdue) hlate
        · exact hsame
  · exact heq

/-- **Attempts are counted once.** The count of an event is the number of the delivery commits that
    found it pending: none before it was posted, and one for each commit that was counted. -/
theorem commitsFound_counts (calls : List (Env × Dispatch)) (s : Store) {o' : OutboxRow}
    (ho' : (s.dispatched calls).notificationOutbox.lookup id = some o') :
    o'.deliveryAttempts =
      ((s.notificationOutbox.lookup id).map OutboxRow.deliveryAttempts).getD 0 +
        s.commitsFound id calls := by
  induction calls generalizing s with
  | nil =>
    replace ho' : s.notificationOutbox.lookup id = some o' := ho'
    simp [ho', commitsFound]
  | cons c rest ih =>
    have hrest := ih (s.dispatch c) ho'
    rw [hrest, commitsFound_cons]
    cases ho : s.notificationOutbox.lookup id with
    | none =>
      have hzero : (((s.dispatch c).notificationOutbox.lookup id).map
          OutboxRow.deliveryAttempts).getD 0 = 0 := by
        cases hnew : (s.dispatch c).notificationOutbox.lookup id with
        | none => rfl
        | some o₁ => exact (dispatch_new s c ho hnew).2.attempts
      simp [hzero, isPending, ho]
    | some o =>
      obtain ⟨o₁, ho₁, hadv⟩ := dispatch_row s c ho
      simp only [ho₁, hadv.counted, isPending, ho, Option.map_some, Option.getD_some,
        Option.any_some]
      omega

/-- **Events persist and move forward** along every further history. -/
theorem dispatched_row (more : List (Env × Dispatch)) (s : Store)
    (ho : s.notificationOutbox.lookup id = some o) :
    ∃ o', (s.dispatched more).notificationOutbox.lookup id = some o' ∧
      o'.eventType = o.eventType ∧ o'.aggregateId = o.aggregateId ∧ o'.createdAt = o.createdAt ∧
      o.state.rank ≤ o'.state.rank ∧ (o.state = .acked → o' = o) := by
  induction more generalizing s o with
  | nil => exact ⟨o, ho, rfl, rfl, rfl, le_refl _, fun _ => rfl⟩
  | cons c rest ih =>
    obtain ⟨o₁, ho₁, hadv⟩ := dispatch_row s c ho
    obtain ⟨o', ho', hevent, haggregate, hcreated, hforward, hacked⟩ := ih (s.dispatch c) ho₁
    refine ⟨o', ho', hevent.trans hadv.event, haggregate.trans hadv.aggregate,
      hcreated.trans hadv.created, le_trans hadv.forward hforward, fun h => ?_⟩
    obtain rfl := hadv.acked h
    exact hacked h

/-- **Delivery is monotone and counted once.** For every history of calls, by whatever callers: each
    further call advances each event and changes nothing else about it; a late delivery commit changes
    nothing; what is new was posted; the attempts of an event are the delivery commits that found it
    pending; and along every further history the event is there, moves forward, and stays as it is once
    it is acknowledged. -/
theorem outbox_counted_once (calls : List (Env × Dispatch)) :
    (∀ c id o, (Store.empty.dispatched calls).notificationOutbox.lookup id = some o →
      (∃ o', ((Store.empty.dispatched calls).dispatch c).notificationOutbox.lookup id = some o' ∧
        o.Advances c id o') ∧
      (o.state ≠ .pending → c.2.commits id = true →
        (Store.empty.dispatched calls).dispatch c = Store.empty.dispatched calls)) ∧
    (∀ c id o, (Store.empty.dispatched calls).notificationOutbox.lookup id = none →
      ((Store.empty.dispatched calls).dispatch c).notificationOutbox.lookup id = some o →
      c.2.handling = none ∧ o.Posted c.1.now) ∧
    (∀ id o, (Store.empty.dispatched calls).notificationOutbox.lookup id = some o →
      o.deliveryAttempts = Store.empty.commitsFound id calls) ∧
    ∀ more id o, (Store.empty.dispatched calls).notificationOutbox.lookup id = some o →
      ∃ o', ((Store.empty.dispatched calls).dispatched more).notificationOutbox.lookup id = some o' ∧
        o'.eventType = o.eventType ∧ o'.aggregateId = o.aggregateId ∧ o'.createdAt = o.createdAt ∧
        o.state.rank ≤ o'.state.rank ∧ (o.state = .acked → o' = o) := by
  refine ⟨fun c id o ho => ⟨dispatch_row _ c ho, dispatch_late _ c ho⟩,
    fun c id o hnone ho => dispatch_new _ c hnone ho, fun id o ho => ?_,
    fun more id o ho => dispatched_row more _ ho⟩
  have hcount := commitsFound_counts calls Store.empty ho
  simpa [Store.empty] using hcount

/-- An event whose first delivery fails, which is delivered and then acknowledged. -/
def delivery : List (Env × Dispatch) :=
  [(Deployment.moment 1 "e", .post .proposalAvailable "gen"),
   (Deployment.moment 2 "f", .kernel (.commitOutboxDeliveryFailure "event_e" 5 "closed")),
   (Deployment.moment 8 "g", .kernel (.commitOutboxDeliverySuccess "event_e")),
   (Deployment.moment 9 "h", .kernel (.ackOutbox "event_e"))]

/-- The event has two attempts, and the report of a third changes nothing. -/
theorem outbox_counted_once_delivery :
    ∃ o, (Store.empty.dispatched delivery).notificationOutbox.lookup "event_e" = some o ∧
      o.deliveryAttempts = 2 ∧
      (Store.empty.dispatched delivery).dispatch
        (Deployment.moment 10 "i", .kernel (.commitOutboxDeliveryFailure "event_e" 5 "late")) =
        Store.empty.dispatched delivery := by
  have hevent : ((Store.empty.dispatched delivery).notificationOutbox.lookup "event_e").map
      OutboxRow.state = some .acked := by decide +kernel
  obtain ⟨o, ho, hstate⟩ := Option.map_eq_some_iff.mp hevent
  obtain ⟨hcalls, -, hcount, -⟩ := outbox_counted_once delivery
  refine ⟨o, ho, (hcount _ o ho).trans (by decide +kernel), ?_⟩
  exact (hcalls _ _ o ho).2 (by simp [hstate]) (by decide)

end Agentype

import Agentype.Scheduler.Refine

/-!
# `Agentype.Contract.Ledger` — the books of a batch

The row of a batch is a summary that the kernel keeps beside the tasks: it is recomputed at the end
of the operations that move a task across a line the summary can see, and every other operation
moves tasks only within one side of it. The event that announces the results is written by the
recomputation that completes the batch. This module has the books and what the settlement of a
claim does to them.

## Contents
- `TaskState.outline`: what the summary sees of a task; `memberOutline`, `readyEvents`.
- `Tallied s b`: the books of batch `b` are in order; `SameBatch s s' b`: nothing it reads changed.
- `LocalTo t`: a stretch of a transaction that moves at most task `t`.
- `recomputeBatch_tallied`: the recomputation repairs the books of an open batch.
- `BooksMove s s'`: the books are in order again; `Accounts t b x` and one rule for each way a claim
  ends.
-/

namespace Agentype

open Relational Tx Store Board

variable {env : Env} {s s' s₁ s₂ : Store}
variable {b : BatchId} {t : TaskId} {st : TaskState} {α : Type} {x : KernelTx α}
  {f : TaskRow → TaskRow} {u : Unit} {task : TaskRow} {c : FailureClass} {e : LeaseEpoch}
  {reusable : Bool} {p : JsonValue}

/-! ## What a batch sees -/

/-- A batch tells suspended, cancelled and completed tasks from the others. -/
def TaskState.outline : TaskState → TaskState
  | .suspended => .suspended
  | .cancelled => .cancelled
  | .completed => .completed
  | _ => .queued

namespace Store

/-- The outline of a task if it belongs to the batch. -/
def memberOutline (s : Store) (b : BatchId) (t : TaskId) : Option TaskState :=
  (s.tasks.lookup t).bind fun r => if r.batchId = b then some r.state.outline else none

/-- How many events announce the results of the batch. -/
def readyEvents (s : Store) (b : BatchId) : Nat :=
  s.notificationOutbox.count fun _ o =>
    decide (o.eventType = .batchResultsReady) && decide (o.aggregateId = b)

theorem memberOutline_eq_some :
    s.memberOutline b t = some st ↔
      ∃ r, s.tasks.lookup t = some r ∧ r.batchId = b ∧ r.state.outline = st := by
  unfold memberOutline
  rw [Option.bind_eq_some_iff]
  refine exists_congr fun r => and_congr_right fun _ => ?_
  rw [Option.ite_none_right_eq_some, Option.some.injEq]

/-- A condition on the outline holds of some member row exactly if it holds of some member. -/
theorem any_members {p : TaskState → Bool} (hp : ∀ st : TaskState, p st = p st.outline) :
    ((s.members b).any fun x => p x.2.state) = true ↔
      ∃ t st, s.memberOutline b t = some st ∧ p st = true := by
  unfold members
  rw [List.any_eq_true]
  constructor
  · rintro ⟨⟨t, r⟩, hmem, hr⟩
    obtain ⟨hrow, hbatch⟩ := List.mem_filter.mp hmem
    refine ⟨t, _, memberOutline_eq_some.mpr ⟨r, Table.mem_rows.mp hrow, ?_, rfl⟩, ?_⟩
    · exact of_decide_eq_true hbatch
    · rw [← hp]
      exact hr
  · rintro ⟨t, st, hst, hr⟩
    obtain ⟨r, hrow, hbatch, rfl⟩ := memberOutline_eq_some.mp hst
    refine ⟨(t, r), List.mem_filter.mpr ⟨Table.mem_rows.mpr hrow, decide_eq_true hbatch⟩, ?_⟩
    rw [hp]
    exact hr

/-- The aggregate state is a function of which outlines there are. -/
theorem aggregateState_eq {v : (TaskState → Bool) → Bool}
    (hany : ∀ p : TaskState → Bool, (∀ st : TaskState, p st = p st.outline) →
      ((s.members b).any fun x => p x.2.state) = v p) :
    s.aggregateState b = if v (fun _ => true) then
      .ok (batchNextState (v fun st => decide (st = .suspended)) (v fun st => decide (st = .cancelled))
        (!v fun st => !decide (st = .completed)))
      else .error (.storageFailure "sqlite: Invalid column type Null") := by
  have hempty : (s.members b).isEmpty = !v fun _ => true := by
    rw [← hany (fun _ => true) fun _ => rfl]
    cases s.members b <;> rfl
  unfold aggregateState
  dsimp only
  rw [hempty, List.all_eq_not_any_not,
    hany (fun st => !decide (st = .completed)) fun st => by cases st <;> rfl,
    hany (fun st => decide (st = .suspended)) fun st => by cases st <;> rfl,
    hany (fun st => decide (st = .cancelled)) fun st => by cases st <;> rfl]
  cases v fun _ => true <;> rfl

/-- The aggregate state reads the outlines only. -/
theorem aggregateState_congr (h : ∀ t, s'.memberOutline b t = s.memberOutline b t) :
    s'.aggregateState b = s.aggregateState b := by
  have hany : ∀ p : TaskState → Bool, (∀ st : TaskState, p st = p st.outline) →
      ((s'.members b).any fun x => p x.2.state) = (s.members b).any fun x => p x.2.state := by
    intro p hp
    rw [Bool.eq_iff_iff, any_members hp, any_members hp]
    simp only [h]
  rw [aggregateState_eq hany, aggregateState_eq fun _ _ => rfl]

end Store

/-- The books of a batch: the row says what the members say, and the results of a completed batch
    have been announced once. -/
structure Tallied (s : Store) (b : BatchId) : Prop where
  absent : s.batches.lookup b = none → (∀ t, s.memberOutline b t = none) ∧ s.readyEvents b = 0
  aggregate : ∀ row, s.batches.lookup b = some row → row.state ≠ .cancelled →
    s.aggregateState b = .ok row.state
  cancelled : ∀ row, s.batches.lookup b = some row → row.state = .cancelled →
    ∀ t st, s.memberOutline b t = some st → st.isTerminal = true
  ready : ∀ row, s.batches.lookup b = some row →
    s.readyEvents b = if row.state = .completed then 1 else 0

/-- The books of a batch that is there. -/
theorem Tallied.of_row {row : BatchRow} (hrow : s.batches.lookup b = some row)
    (hagg : row.state ≠ .cancelled → s.aggregateState b = .ok row.state)
    (hc : row.state = .cancelled → ∀ t st, s.memberOutline b t = some st → st.isTerminal = true)
    (hready : s.readyEvents b = if row.state = .completed then 1 else 0) : Tallied s b := by
  refine ⟨fun hnone => ?_, fun row' hrow' => ?_, fun row' hrow' => ?_, fun row' hrow' => ?_⟩
  · rw [hrow] at hnone
    cases hnone
  · cases hrow.symm.trans hrow'
    exact hagg
  · cases hrow.symm.trans hrow'
    exact hc
  · cases hrow.symm.trans hrow'
    exact hready

/-- Nothing that the books of the batch read has changed. -/
structure SameBatch (s s' : Store) (b : BatchId) : Prop where
  row : s'.batches.lookup b = s.batches.lookup b
  ready : s'.readyEvents b = s.readyEvents b
  members : ∀ t, s'.memberOutline b t = s.memberOutline b t

theorem SameBatch.trans (h : SameBatch s s₁ b) (h' : SameBatch s₁ s₂ b) : SameBatch s s₂ b where
  row := h'.row.trans h.row
  ready := h'.ready.trans h.ready
  members t := (h'.members t).trans (h.members t)

theorem Tallied.of_same (hb : Tallied s b) (h : SameBatch s s' b) : Tallied s' b where
  absent hnone := by
    rw [h.row] at hnone
    simp only [h.members, h.ready]
    exact hb.absent hnone
  aggregate row hrow hstate := by
    rw [h.row] at hrow
    rw [aggregateState_congr h.members]
    exact hb.aggregate row hrow hstate
  cancelled row hrow hstate t st hst := by
    rw [h.row] at hrow
    rw [h.members] at hst
    exact hb.cancelled row hrow hstate t st hst
  ready row hrow := by
    rw [h.row] at hrow
    rw [h.ready]
    exact hb.ready row hrow

/-! ## Stretches that a batch does not see, or sees in one task -/

/-- The tables the books are kept in. -/
abbrev bookTables : List TableName := [.tasks, .batches, .notificationOutbox]

/-- No batch sees a difference. -/
abbrev SameBooks (_ : Env) (s s' : Store) : Prop := ∀ b, SameBatch s s' b

instance (env : Env) : IsPreorder Store (SameBooks env) where
  refl _ _ := ⟨rfl, rfl, fun _ => rfl⟩
  trans _ _ _ h h' b := (h b).trans (h' b)

instance : Sees bookTables SameBooks := by
  constructor
  intro env s s' h b
  have ht : s'.tasks = s.tasks := h .tasks (by decide)
  have hb : s'.batches = s.batches := h .batches (by decide)
  have ho : s'.notificationOutbox = s.notificationOutbox := h .notificationOutbox (by decide)
  refine ⟨by rw [hb], ?_, fun t => ?_⟩
  · unfold readyEvents
    rw [ho]
  · unfold memberOutline
    rw [ht]

/-- The transaction moves nothing that a batch sees. -/
abbrev Unseen {α : Type} (x : KernelTx α) : Prop := Respects SameBooks x

theorem same_frame {W : List TableName} [Touches W x] {a : α} (h : Runs env x s a s')
    (b : BatchId) (hW : decide (∀ n ∈ bookTables, n ∉ W) = true) : SameBatch s s' b :=
  h.respects (R := SameBooks) (.aside hW) b

/-- At most one task moves, and it stays in its batch. -/
structure LocalTo (t : TaskId) (_ : Env) (s s' : Store) : Prop where
  batches : s'.batches = s.batches
  ready : ∀ b, s'.readyEvents b = s.readyEvents b
  others : ∀ b k, k ≠ t → s'.memberOutline b k = s.memberOutline b k
  home : (s'.tasks.lookup t).map TaskRow.batchId = (s.tasks.lookup t).map TaskRow.batchId

instance (env : Env) : IsPreorder Store (LocalTo t env) where
  refl _ := ⟨rfl, fun _ => rfl, fun _ _ _ => rfl, rfl⟩
  trans _ _ _ h h' :=
    ⟨h'.batches.trans h.batches, fun b => (h'.ready b).trans (h.ready b),
      fun b k hk => (h'.others b k hk).trans (h.others b k hk), h'.home.trans h.home⟩

/-- What no batch sees is local to every task, as long as the task stays in its batch. -/
theorem LocalTo.of_same (h : SameBooks env s s') (hb : s'.batches = s.batches)
    (ht : s'.tasks = s.tasks) : LocalTo t env s s' :=
  ⟨hb, fun b => (h b).ready, fun b k _ => (h b).members k, by rw [ht]⟩

instance : Sees bookTables (LocalTo t) :=
  ⟨fun env s s' h => .of_same (Sees.of_agree env s s' h) (h .batches (by decide))
    (h .tasks (by decide))⟩

/-- An `UPDATE` of tasks that keeps their batches and outlines. -/
theorem updateTasks_same {p : TaskId → TaskRow → Bool} {err : Error}
    (h : Runs env (updateIn tasksT err p f) s u s')
    (hf : ∀ k r, s.tasks.lookup k = some r → p k r = true →
      (f r).batchId = r.batchId ∧ (f r).state.outline = r.state.outline) (b : BatchId) :
    SameBatch s s' b := by
  obtain ⟨t', ht', rfl⟩ := h.updateIn
  refine ⟨rfl, rfl, fun t => ?_⟩
  show (t'.lookup t).bind _ = (s.tasks.lookup t).bind _
  rw [Table.lookup_of_update ht']
  cases hr : s.tasks.lookup t with
  | none =>
    change ((s.tasks.lookup t).map _).bind _ = _
    rw [hr]
    rfl
  | some r =>
    change ((s.tasks.lookup t).map _).bind _ = _
    rw [hr]
    simp only [Option.map_some, Option.bind_some, Table.updateRow]
    split
    · rename_i hp
      obtain ⟨hbatch, houtline⟩ := hf t r hr hp
      rw [hbatch, houtline]
    · rfl

/-- An `UPDATE` of tasks that keeps their batches, and the outlines of all but one. -/
theorem updateTasks_local {p : TaskId → TaskRow → Bool} {err : Error}
    (hb : ∀ r, (f r).batchId = r.batchId)
    (hf : ∀ k r, k ≠ t → p k r = true → (f r).state.outline = r.state.outline) :
    Respects (LocalTo t) (updateIn tasksT err p f : KernelTx Unit) := by
  intro env s u s' h
  obtain ⟨t', ht', rfl⟩ := h.updateIn
  have hlook : ∀ k, t'.lookup k = (s.tasks.lookup k).map _ := Table.lookup_of_update ht'
  refine ⟨rfl, fun _ => rfl, fun b k hk => ?_, ?_⟩
  · show (t'.lookup k).bind _ = (s.tasks.lookup k).bind _
    rw [hlook]
    cases s.tasks.lookup k with
    | none => rfl
    | some r =>
      simp only [Option.map_some, Option.bind_some, Table.updateRow]
      split
      · rename_i hp
        rw [hb, hf k r hk hp]
      · rfl
  · show (t'.lookup t).map _ = (s.tasks.lookup t).map _
    rw [hlook, Option.map_map]
    refine Option.map_congr fun r _ => ?_
    show (if _ then _ else r).batchId = r.batchId
    split
    · exact hb r
    · rfl

theorem updateTask_local (hf : ∀ r, (f r).batchId = r.batchId) :
    Respects (LocalTo t) (updateTask t f) :=
  updateTasks_local hf fun _ _ hk hp => absurd (of_decide_eq_true hp) hk

/-- An event that announces no results. -/
theorem enqueueEvent_ready {ty : OutboxEventType} {agg : String} {id : OutboxEventId}
    (h : Runs env (enqueueEvent ty agg) s id s') (b : BatchId) :
    s'.readyEvents b =
      s.readyEvents b + if ty = .batchResultsReady ∧ agg = b then 1 else 0 := by
  unfold enqueueEvent at h
  obtain ⟨n, h⟩ := newId_bind h.ask_bind
  obtain ⟨t', ht', h⟩ := h.insertInto_bind
  obtain ⟨-, rfl⟩ := h.pure
  show t'.count _ = _
  rw [Table.count_of_insert ht']
  simp only [Bool.and_eq_true, decide_eq_true_eq]
  rfl

theorem enqueueEvent_unseen {ty : OutboxEventType} {agg : String} (hty : ty ≠ .batchResultsReady) :
    Unseen (enqueueEvent ty agg) := by
  intro env s id s' h b
  have htasks : s'.tasks = s.tasks := frame h .tasks rfl
  have hbatches : s'.batches = s.batches := frame h .batches rfl
  refine ⟨by rw [hbatches], ?_, fun t => by unfold memberOutline; rw [htasks]⟩
  rw [enqueueEvent_ready h, if_neg fun hc => hty hc.1, Nat.add_zero]

section Escalations

variable {g : Option LogicalAgentId} {w : Option WorkstreamId} {cause : EscalationCause}
  {sig detail : Option String}

theorem createEscalationWithCause_unseen :
    Unseen (createEscalationWithCause t b g w cause sig detail) :=
  createEscalationWithCause_respects (fun _ _ => .aside rfl) (fun _ _ => .aside rfl)
    fun _ => enqueueEvent_unseen (by decide)

theorem createEscalationWithCause_local {k : TaskId} :
    Respects (LocalTo k) (createEscalationWithCause t b g w cause sig detail) :=
  fun _ _ _ _ h => .of_same (h.respects createEscalationWithCause_unseen) (frame h .batches rfl)
    (frame h .tasks rfl)

end Escalations

/-! ## The recomputation -/

/-- A batch that can still change: neither ended nor announced. -/
def OpenBatch (s : Store) (b : BatchId) : Prop :=
  ∃ row, s.batches.lookup b = some row ∧ (row.state = .active ∨ row.state = .suspended) ∧
    s.readyEvents b = 0

theorem aggregateState_ne_cancelled {st : BatchState} (h : s.aggregateState b = .ok st) :
    st ≠ .cancelled := by
  unfold aggregateState batchNextState at h
  grind

/-- **Recomputation** puts the books of a batch in order that were so before, or that had been left
    behind while the batch was open; the other batches do not notice. -/
theorem recomputeBatch_tallied (h : Runs env (recomputeBatch b) s u s')
    (hb : Tallied s b ∨ OpenBatch s b) :
    Tallied s' b ∧ (Tallied s b → SameBatch s s' b) ∧ ∀ b', b' ≠ b → SameBatch s s' b' := by
  have hsame : ∀ b', SameBatch s s b' := fun _ => ⟨rfl, rfl, fun _ => rfl⟩
  have htasks : s'.tasks = s.tasks := frame h .tasks rfl
  have hmembers : ∀ b' t, s'.memberOutline b' t = s.memberOutline b' t := fun b' t => by
    unfold memberOutline
    rw [htasks]
  unfold recomputeBatch at h
  obtain ⟨batch, hbatch, h⟩ := h.fetch_bind
  split at h
  · rename_i hcancelled
    obtain ⟨-, rfl⟩ := h.pure
    refine ⟨?_, fun _ => hsame b, fun b' _ => hsame b'⟩
    rcases hb with hb | ⟨row, hrow, hstate, -⟩
    · exact hb
    · cases hbatch.symm.trans hrow
      rw [hcancelled] at hstate
      rcases hstate with hstate | hstate <;> cases hstate
  rename_i hopen
  obtain ⟨next, hnext, h⟩ := h.examine_bind
  rcases h.whenever with ⟨hne, h⟩ | ⟨heq, rfl⟩
  · -- the books were behind, so the batch was open and nothing was announced
    have hne : batch.state ≠ next := of_decide_eq_true hne
    have hstale : ¬ Tallied s b := fun hb => by
      have := (hb.aggregate batch hbatch hopen).symm.trans hnext
      exact hne (Except.ok.inj this)
    obtain ⟨row, hrow, -, hready⟩ := hb.resolve_left hstale
    obtain ⟨t', ht', h⟩ := h.updateIn_bind
    have hlook : ∀ b', t'.lookup b' = if b' = b then some ⟨next⟩ else s.batches.lookup b' := by
      intro b'
      rw [Table.lookup_of_update_key ht']
      split
      · rename_i heq
        subst heq
        exact congrArg (Option.map _) hbatch
      · rfl
    have hevents : ∀ b', s'.readyEvents b' =
        s.readyEvents b' + if next = .completed ∧ b = b' then 1 else 0 := by
      intro b'
      rcases h.whenever with ⟨hc, h⟩ | ⟨hc, rfl⟩
      · have hc : next = .completed := of_decide_eq_true hc
        obtain ⟨_, s₁, h₁, h⟩ := h.bind
        obtain ⟨-, rfl⟩ := h.pure
        rw [enqueueEvent_ready h₁]
        simp only [hc, true_and]
        rfl
      · rw [if_neg fun h' => of_decide_eq_false hc h'.1]
        rfl
    have hbatches : s'.batches = t' := by
      have : s'.batches = (batchesT.set s t').batches := frame h .batches rfl
      exact this
    have hnew : s'.batches.lookup b = some ⟨next⟩ := by rw [hbatches, hlook, if_pos rfl]
    refine ⟨.of_row hnew (fun _ => ?_) (fun hc => ?_) ?_, fun hb => absurd hb hstale, fun b' hb' => ⟨?_, ?_, hmembers b'⟩⟩
    · rw [aggregateState_congr (hmembers b), hnext]
    · exact absurd hc (aggregateState_ne_cancelled hnext)
    · rw [hevents, hready, Nat.zero_add]
      simp
    · rw [hbatches, hlook, if_neg hb']
    · rw [hevents, if_neg fun hc => hb' hc.2.symm, Nat.add_zero]
  · have heq : batch.state = next := by simpa using heq
    refine ⟨?_, fun _ => hsame b, fun b' _ => hsame b'⟩
    rcases hb with hb | ⟨row, hrow, hstate, hready⟩
    · exact hb
    cases hbatch.symm.trans hrow
    refine .of_row hbatch (fun _ => by rw [heq, hnext]) (fun hc => absurd hc hopen) ?_
    · rw [hready, if_neg]
      rintro hc
      rw [hc] at hstate
      rcases hstate with hstate | hstate <;> cases hstate

/-! ## Moves of the books -/

/-- The books are in order everywhere. -/
def Ledger (s : Store) : Prop := ∀ b, Tallied s b

/-- The books are in order again, and completed batches stay completed. -/
structure BooksMove (s s' : Store) : Prop where
  ledger : Ledger s'
  final : ∀ b row, s.batches.lookup b = some row → row.state = .completed →
    s'.batches.lookup b = some row

theorem BooksMove.trans (h : BooksMove s s₁) (h' : BooksMove s₁ s₂) : BooksMove s s₂ where
  ledger := h'.ledger
  final b row hrow hc := h'.final b row (h.final b row hrow hc) hc

/-- A transaction that no batch sees. -/
theorem BooksMove.of_same (hs : Ledger s) (h : ∀ b, SameBatch s s' b) : BooksMove s s' where
  ledger b := (hs b).of_same (h b)
  final b row hrow _ := by rw [(h b).row, hrow]

/-- The batch of an open task is open. -/
theorem openBatch_of_task (hs : Ledger s) (ht : s.tasks.lookup t = some task)
    (hopen : task.state.isTerminal = false) : OpenBatch s task.batchId := by
  have hmember : s.memberOutline task.batchId t = some task.state.outline :=
    memberOutline_eq_some.mpr ⟨task, ht, rfl, rfl⟩
  have hterm : task.state.outline.isTerminal = false := by
    revert hopen
    cases task.state <;> decide
  have hb := hs task.batchId
  cases hrow : s.batches.lookup task.batchId with
  | none =>
    rw [(hb.absent hrow).1 t] at hmember
    cases hmember
  | some row =>
    have hnot : row.state ≠ .cancelled := fun hc => by
      rw [hb.cancelled row hrow hc t _ hmember] at hterm
      cases hterm
    have hagg := hb.aggregate row hrow hnot
    have hstate : row.state = .active ∨ row.state = .suspended := by
      unfold aggregateState batchNextState at hagg
      dsimp only at hagg
      split at hagg
      · cases hagg
      · rw [← Except.ok.inj hagg]
        split
        · exact .inr rfl
        · split
          · -- the open task is a member that is not completed
            rename_i hall
            rw [List.all_eq_true] at hall
            have := hall (t, task) (List.mem_filter.mpr ⟨Table.mem_rows.mpr ht, decide_eq_true rfl⟩)
            rw [of_decide_eq_true this] at hopen
            cases hopen
          · exact .inl rfl
    refine ⟨row, hrow, hstate, ?_⟩
    rw [hb.ready row hrow, if_neg]
    intro hc
    rw [hc] at hstate
    rcases hstate with h | h <;> cases h

/-- The stretch of a transaction between an open task's first write and the recomputation. -/
structure Behind (s : Store) (b : BatchId) : Prop where
  opened : OpenBatch s b
  others : ∀ b', b' ≠ b → Tallied s b'

theorem Behind.of_local (hs : Ledger s) (ht : s.tasks.lookup t = some task)
    (hopen : task.state.isTerminal = false) (h : LocalTo t env s s') : Behind s' task.batchId where
  opened := by
    obtain ⟨row, hrow, hstate, hready⟩ := openBatch_of_task hs ht hopen
    exact ⟨row, by rw [h.batches, hrow], hstate, by rw [h.ready, hready]⟩
  others b' hb' := by
    refine (hs b').of_same ⟨by rw [h.batches], h.ready b', fun k => ?_⟩
    by_cases hk : k = t
    · -- the task is in another batch, before and after
      subst hk
      have hhome := h.home
      rw [ht] at hhome
      obtain ⟨r, hr, hbatch⟩ := Option.map_eq_some_iff.mp hhome
      unfold memberOutline
      rw [ht, hr, Option.bind_some, Option.bind_some, hbatch, if_neg hb'.symm, if_neg hb'.symm]
    · exact h.others b' k hk

/-- **A settled task**: one task moved, and then its batch was recomputed. -/
theorem books_of_recompute
    (hfinal : ∀ b' row, s.batches.lookup b' = some row → row.state = .completed →
      b' ≠ b ∧ s₁.batches.lookup b' = some row) (hb : Behind s₁ b)
    (h : Runs env (recomputeBatch b) s₁ u s') : BooksMove s s' := by
  obtain ⟨hb', -, hothers⟩ := recomputeBatch_tallied h (.inr hb.opened)
  refine ⟨fun b' => ?_, fun b' row hrow hc => ?_⟩
  · by_cases heq : b' = b
    · rw [heq]
      exact hb'
    · exact (hb.others b' heq).of_same (hothers b' heq)
  · obtain ⟨hne, hrow⟩ := hfinal b' row hrow hc
    rw [(hothers b' hne).row, hrow]

theorem books_of_local (hs : Ledger s) (ht : s.tasks.lookup t = some task)
    (hopen : task.state.isTerminal = false) (hlocal : LocalTo t env s s₁)
    (h : Runs env (recomputeBatch task.batchId) s₁ u s') : BooksMove s s' := by
  refine books_of_recompute (fun b' row hrow hc => ⟨?_, by rw [hlocal.batches, hrow]⟩)
    (.of_local hs ht hopen hlocal) h
  rintro rfl
  obtain ⟨row', hrow', hstate, -⟩ := openBatch_of_task hs ht hopen
  cases hrow.symm.trans hrow'
  rw [hc] at hstate
  rcases hstate with h | h <;> cases h

/-- Recomputing books that are in order changes nothing. -/
theorem recomputeBatch_same (hl : Ledger s) (h : Runs env (recomputeBatch b) s u s')
    (b' : BatchId) : SameBatch s s' b' := by
  obtain ⟨-, hsame, hothers⟩ := recomputeBatch_tallied h (.inl (hl b))
  by_cases heq : b' = b
  · rw [heq]
    exact hsame (hl b)
  · exact hothers b' heq

/-- A stretch that no batch sees may come first. -/
theorem BooksMove.after_same (hl : Ledger s) (hsame : ∀ b, SameBatch s s₁ b)
    (h : Ledger s₁ → BooksMove s₁ s') : BooksMove s s' :=
  (BooksMove.of_same hl hsame).trans (h fun b => (hl b).of_same (hsame b))

/-! ## Settlements -/

section Settlements

variable {a : AttemptId} {r : ClaimRecords}

/-- The task row of a held claim. -/
theorem Held.taskRow (hheld : Held s.board a r) (hs : s.board.Sound) :
    ∃ task, s.tasks.lookup r.attempt.taskId = some task ∧ task.batchId = r.task.batchId ∧
      task.state.isAssigned = true := by
  obtain ⟨task, htask, hview⟩ := Table.view_eq_some.mp hheld.task
  have hassigned : r.task.view.state.isAssigned = true :=
    hs.coherent.holding_assigned hheld.holding
  rw [← hview] at hassigned
  exact ⟨task, htask, congrArg TaskView.batch hview, hassigned⟩

theorem TaskState.open_of_assigned (h : st.isAssigned = true) : st.isTerminal = false := by
  revert h
  cases st <;> decide

theorem TaskState.outline_of_assigned (h : st.isAssigned = true) : st.outline = .queued := by
  revert h
  cases st <;> first | exact fun _ => rfl | exact fun h => nomatch h

/-- The claim of task `t` of batch `b` is accounted for: at most the task moves, and then the batch is
    recomputed or the task is open as before. -/
def Accounts (t : TaskId) (b : BatchId) {α : Type} (x : KernelTx α) : Prop :=
  ∀ env s v s', Runs env x s v s' → ∃ s₁ s₂, LocalTo t env s s₁ ∧
    ((∃ u, Runs env (recomputeBatch b) s₁ u s₂) ∨
      s₂ = s₁ ∧ ∀ r, s₁.tasks.lookup t = some r → r.state.outline = .queued) ∧ SameBooks env s₂ s'

namespace Accounts

variable {β : Type} {k : α → KernelTx β}

theorem recompute : Accounts t b (recomputeBatch b) := fun env s v s' h =>
  ⟨s, s', refl_of (LocalTo t env) s, .inl ⟨v, h⟩, refl_of (SameBooks env) s'⟩

theorem requeue (hb : ∀ r, (f r).batchId = r.batchId) (hf : ∀ r, (f r).state.outline = .queued) :
    Accounts t b (updateTask t f) := by
  intro env s v s' h
  refine ⟨s', s', h.respects (updateTask_local hb), .inr ⟨rfl, ?_⟩, refl_of (SameBooks env) s'⟩
  obtain ⟨t', ht', rfl⟩ := Tx.Runs.updateIn h
  intro r hr
  change t'.lookup t = some r at hr
  rw [Table.lookup_of_update_key ht', if_pos rfl] at hr
  obtain ⟨r₀, -, rfl⟩ := Option.map_eq_some_iff.mp hr
  exact hf r₀

theorem after (hx : Respects (LocalTo t) x) (hk : ∀ v, Accounts t b (k v)) :
    Accounts t b (x >>= k) := by
  intro env s v s' h
  obtain ⟨w, s₀, h₀, h⟩ := h.bind
  obtain ⟨s₁, s₂, hlocal, hend⟩ := hk w env s₀ v s' h
  exact ⟨s₁, s₂, trans_of (LocalTo t env) (h₀.respects hx) hlocal, hend⟩

theorem before (hx : Accounts t b x) (hk : ∀ v, Unseen (k v)) : Accounts t b (x >>= k) := by
  intro env s v s' h
  obtain ⟨w, s₀, h₀, h⟩ := h.bind
  obtain ⟨s₁, s₂, hlocal, hend, hsame⟩ := hx env s w s₀ h₀
  exact ⟨s₁, s₂, hlocal, hend, trans_of (SameBooks env) hsame (h.respects (hk w))⟩

theorem ite {c : Prop} [Decidable c] {y : KernelTx α} (hx : Accounts t b x) (hy : Accounts t b y) :
    Accounts t b (if c then x else y) := by
  split
  · exact hx
  · exact hy

end Accounts

/-- **A settled claim.** The books of its batch are in order again. -/
theorem books_of_accounts {v : α} (hs : s.board.Sound) (hl : Ledger s) (hheld : Held s.board a r)
    (hx : Accounts r.attempt.taskId r.task.batchId x) (h : Runs env x s v s') : BooksMove s s' := by
  obtain ⟨task, htask, hbatch, hassigned⟩ := hheld.taskRow hs
  obtain ⟨s₁, s₂, hlocal, hend, hsame⟩ := hx env s v s' h
  have hmove : BooksMove s s₂ := by
    rcases hend with ⟨u, hrec⟩ | ⟨rfl, hqueued⟩
    · rw [← hbatch] at hrec
      exact books_of_local hl htask (TaskState.open_of_assigned hassigned) hlocal hrec
    · refine .of_same hl fun b => ⟨by rw [hlocal.batches], hlocal.ready b, fun k => ?_⟩
      by_cases hk : k = r.attempt.taskId
      · have hhome := hlocal.home
        rw [htask] at hhome
        obtain ⟨row, hrow, hrb⟩ := Option.map_eq_some_iff.mp hhome
        unfold memberOutline
        rw [hk, htask, hrow, Option.bind_some, Option.bind_some, hrb, hqueued row hrow,
          TaskState.outline_of_assigned hassigned]
      · exact hlocal.others b k hk
  exact hmove.trans (.of_same hmove.ledger hsame)

/-! One rule for each way a claim ends. -/

theorem suspendCurrent_accounts {sig detail : Option String} :
    Accounts r.attempt.taskId r.task.batchId (suspendCurrent a r c sig detail) := by
  unfold suspendCurrent createEscalation
  exact .after (.aside rfl) fun _ => .after (.aside rfl) fun _ =>
    .after (updateTask_local fun _ => rfl) fun _ => .after (.aside rfl) fun _ =>
    .after createEscalationWithCause_local fun _ => .recompute

theorem retryLater_accounts : Accounts r.attempt.taskId r.task.batchId (retryLater a r) := by
  unfold retryLater
  exact .after .ask fun _ => .after (.aside rfl) fun _ => .after (.aside rfl) fun _ =>
    .before (.requeue (fun _ => rfl) fun _ => rfl) fun _ => .aside rfl

theorem retryOrSuspend_accounts {safe : Bool} :
    Accounts r.attempt.taskId r.task.batchId (retryOrSuspend a r c safe) :=
  .ite (.before retryLater_accounts fun _ => .pure _)
    (.before suspendCurrent_accounts fun _ => .pure _)

theorem nack_books {x : Option ExecutionId} {tc qc : Bool} (hs : s.board.Sound) (hl : Ledger s)
    (h : Runs env (nack a e c x tc qc reusable) s st s') : BooksMove s s' := by
  unfold nack at h
  obtain ⟨r, hauth, h⟩ := validateAuthorityTx_bind h
  exact books_of_accounts hs hl hauth.held (.after (.aside rfl) fun _ => .after (.aside rfl) fun _ =>
    .after (.aside rfl) fun _ => .after (.aside rfl) fun _ => retryOrSuspend_accounts) h

theorem nackPreservingPhysicalHistory_books {x : Option ExecutionId} (hs : s.board.Sound)
    (hl : Ledger s) (h : Runs env (nackPreservingPhysicalHistory a e c x) s st s') :
    BooksMove s s' := by
  unfold nackPreservingPhysicalHistory at h
  obtain ⟨r, hauth, h⟩ := validateAuthorityTx_bind h
  exact books_of_accounts hs hl hauth.held (.after (.aside rfl) fun _ => .after (.aside rfl) fun _ =>
    .after (.aside rfl) fun _ => retryOrSuspend_accounts) h

/-- Waking blocked tasks moves no outline. -/
theorem releaseDependencies_local : Respects (LocalTo t) (releaseDependencies b) := by
  unfold releaseDependencies
  refine .bind (.query _) fun _ => .forM fun t' _ => updateTasks_local (fun _ => rfl) ?_
  intro k row _ hp
  have hblocked : row.state = .blocked := of_decide_eq_true ((Bool.and_eq_true _ _).mp hp).2
  rw [hblocked]
  rfl

theorem ackComplete_accounts {x : Option (ExecutionId × ExecutionRow)} {sm : Option String}
    {q : Bool} : Accounts r.attempt.taskId r.task.batchId (ackComplete a r x p sm q reusable) := by
  unfold ackComplete
  exact .after (.examine _) fun _ => .after (.aside rfl) fun _ => .after (.aside rfl) fun _ =>
    .after (.aside rfl) fun _ => .after (.aside rfl) fun _ =>
    .after (updateTask_local fun _ => rfl) fun _ => .after (.aside rfl) fun _ =>
    .after (.aside rfl) fun _ => .after (.aside rfl) fun _ =>
    .after releaseDependencies_local fun _ => .before .recompute fun _ => .pure _

theorem ackNotQuiescent_accounts {x : Option (ExecutionId × ExecutionRow)} :
    Accounts r.attempt.taskId r.task.batchId (ackNotQuiescent a r x p) := by
  unfold ackNotQuiescent
  exact .after (.aside rfl) fun _ => .after (.aside rfl) fun _ => .after (.aside rfl) fun _ =>
    suspendCurrent_accounts

theorem ackSuccess_books {x : Option ExecutionId} {sm : Option String} {q : Bool}
    {id : Option ResultId} (hs : s.board.Sound) (hl : Ledger s)
    (h : Runs env (ackSuccess a e x p sm q reusable) s id s') : BooksMove s s' := by
  unfold ackSuccess at h
  obtain ⟨r, hauth, h⟩ := validateAuthorityTx_bind h
  exact books_of_accounts hs hl hauth.held (.after (.aside rfl) fun _ => .ite
    (.before ackComplete_accounts fun _ => .pure _)
    (.before ackNotQuiescent_accounts fun _ => .pure _)) h

theorem abortBeforePhysicalStart_books {x : ExecutionId} (hs : s.board.Sound) (hl : Ledger s)
    (h : Runs env (abortBeforePhysicalStart a e x) s st s') : BooksMove s s' := by
  unfold abortBeforePhysicalStart at h
  obtain ⟨r, hauth, h⟩ := validateAuthorityTx_bind h
  obtain ⟨row, -, h⟩ := executionOfClaim_bind h
  refine books_of_accounts hs hl hauth.held ?_ h
  exact .after (.require _ _) fun _ => .after (.query _) fun _ => .after (.require _ _) fun _ =>
    .after (.aside rfl) fun _ => .after (.aside rfl) fun _ => .after (.aside rfl) fun _ =>
    .before (.requeue (fun _ => rfl) fun _ => rfl) fun _ => .aside rfl

theorem expireClaim_accounts (row : ExpireRow) :
    Accounts row.taskId row.task.batchId (expireClaim row) := by
  unfold expireClaim
  refine .after (.query _) fun fault => .after (.require _ _) fun _ => .after (.aside rfl) fun _ =>
    .after (.aside rfl) fun _ => ?_
  split
  · unfold expireFaulted
    exact .before (.after (updateTask_local fun _ => rfl) fun _ => .after (.aside rfl) fun _ =>
      .after createEscalationWithCause_local fun _ => .recompute) fun _ => .pure _
  · unfold expireLost expireRetry expireSuspend createEscalation
    exact .after (.aside rfl) fun _ => .after (.aside rfl) fun _ => .ite
      (.before (.after .ask fun _ => .after (.aside rfl) fun _ =>
        .requeue (fun _ => rfl) fun _ => rfl) fun _ => .pure _)
      (.before (.after (updateTask_local fun _ => rfl) fun _ => .after (.aside rfl) fun _ =>
        .after createEscalationWithCause_local fun _ => .recompute) fun _ => .pure _)

theorem restoreMissingEscalations_same (hl : Ledger s)
    (h : Runs env restoreMissingEscalations s u s') (b : BatchId) : SameBatch s s' b := by
  unfold restoreMissingEscalations at h
  refine (h.query_bind.forM (P := fun s₁ => ∀ b, SameBatch s s₁ b)
    (fun _ => ⟨rfl, rfl, fun _ => rfl⟩) fun x _ s₁ s₂ u hsame h => ?_) b
  unfold restoreEscalation at h
  obtain ⟨kind, -, h⟩ := h.examine_bind
  obtain ⟨id, s₃, h₃, h₄⟩ := h.bind
  have hsame' : ∀ b, SameBatch s s₃ b := fun b =>
    (hsame b).trans (h₃.respects createEscalationWithCause_unseen b)
  exact fun b => (hsame' b).trans (recomputeBatch_same (fun b => (hl b).of_same (hsame' b)) h₄ b)

theorem expireLeases_books {recover : Bool} {report : ExpireReport} (hs : s.board.Sound)
    (hl : Ledger s) (h : Runs env (expireLeases recover) s report s') : BooksMove s s' := by
  refine expireLeases_induction (P := BooksMove s) hs h ⟨hl, fun _ _ hrow _ => hrow⟩ ?_ ?_
  · intro row lease retried s₁ s₂ _ hs₁ hmove htask hheld hrun
    have hx := expireClaim_accounts row
    rw [htask] at hx
    exact hmove.trans (books_of_accounts hs₁ hmove.ledger hheld hx hrun)
  · intro s₁ u _ hmove hrun
    exact hmove.trans (.of_same hmove.ledger (restoreMissingEscalations_same hmove.ledger hrun))

end Settlements

end Agentype

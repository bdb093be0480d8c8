import Agentype.Contract.Ledger

/-!
# `Agentype.Contract.Batches` — a batch says what its tasks say

The remaining operations on tasks: cancellation and decisions recompute the batch they touch,
submission opens one, and claims, retries and merges move tasks in ways no batch sees. Together
with the settlements they keep the books of every batch in order along every history.

## Contents
- `cancelTask_books`, `cancelBatch_books`, `resolveEscalation_books`.
- `submitBatch_books`, `admitProposal_books`.
- `exec_books`, `Store.after_ledger`, and the theorem about batches.
-/

namespace Agentype

open Relational Tx Store Board

variable {env : Env} {s s' s₁ s₂ : Store}
variable {q : Bool} {u : Unit} {b : BatchId}

/-! ## Cancellation -/

theorem cancelAgent_unseen {t : TaskId} {w : Option WorkstreamId} {g : LogicalAgentId}
    {detail : String} : Unseen (cancelAgent t b w g q detail) := by
  unfold cancelAgent createEscalation
  exact .ite (.bind (.aside rfl) fun _ => .bind createEscalationWithCause_unseen fun _ =>
    .pure _) (.aside rfl)

/-- Closing the claim of a task that is being cancelled is not seen yet. -/
theorem cancelCurrentAttempt_unseen {t : TaskId} {task : TaskRow} {a : Option AttemptId} :
    Unseen (cancelCurrentAttempt t task q a) := by
  unfold cancelCurrentAttempt
  split
  · exact .pure _
  · exact .bind (.aside rfl) fun _ => .bind (.aside rfl) fun _ => .bind (.aside rfl) fun _ =>
      .bind (.aside rfl) fun _ => .bind (.aside rfl) fun _ => cancelAgent_unseen

theorem cancelTask_books {t : TaskId} (hl : Ledger s) (h : Runs env (cancelTask t q) s u s') :
    BooksMove s s' := by
  unfold cancelTask at h
  obtain ⟨task, htask, h⟩ := h.fetch_bind
  split at h
  · obtain ⟨-, rfl⟩ := h.pure
    exact .of_same hl fun _ => ⟨rfl, rfl, fun _ => rfl⟩
  rename_i hopen
  obtain ⟨_, s₁, h₁, h⟩ := h.bind
  obtain ⟨_, s₂, h₂, h₃⟩ := h.bind
  have hclosed : LocalTo t env s s₁ := .of_same (h₁.respects cancelCurrentAttempt_unseen)
    (frame h₁ .batches rfl) (frame h₁ .tasks rfl)
  have hlocal := trans_of (LocalTo t env) hclosed (h₂.respects (updateTask_local fun _ => rfl))
  have hterm : task.state.isTerminal = false := by
    revert hopen
    cases task.state <;> decide
  exact books_of_local hl htask hterm hlocal h₃

/-- The claims of a cancelled batch are closed before its tasks are written. -/
theorem cancelBatchAttempt_unseen {x : AttemptId × AttemptRow × TaskRow} :
    Unseen (cancelBatchAttempt b x) := by
  unfold cancelBatchAttempt
  exact .bind (.aside rfl) fun _ => .bind (.aside rfl) fun _ => .bind (.aside rfl) fun _ =>
    cancelAgent_unseen

/-- **A cancelled batch** leaves only ended tasks behind. -/
theorem cancelBatch_books (hl : Ledger s) (h : Runs env (cancelBatch b) s u s') :
    BooksMove s s' := by
  unfold cancelBatch at h
  obtain ⟨row, hrow, h⟩ := h.fetch_bind
  obtain ⟨hnot, h⟩ := h.require_bind
  have hnot : row.state ≠ .completed := of_decide_eq_true hnot
  split at h
  · obtain ⟨-, rfl⟩ := h.pure
    exact .of_same hl fun _ => ⟨rfl, rfl, fun _ => rfl⟩
  unfold cancelOpenBatch at h
  obtain ⟨_, s₁, h₁, h⟩ := h.bind
  obtain ⟨_, s₂, h₂, h⟩ := h.query_bind.bind
  obtain ⟨ts, hts, h⟩ := h.updateIn_bind
  obtain ⟨bs, hbs, rfl⟩ := h.updateIn
  have hsame : ∀ b', SameBatch s s₂ b' := fun b' => (same_frame h₁ b' rfl).trans
    (h₂.respects (.forM fun _ _ => cancelBatchAttempt_unseen) b')
  have htasks : s₂.tasks = s.tasks := (frame h₂ .tasks rfl).trans (frame h₁ .tasks rfl)
  have hbatches : s₂.batches = s.batches := (frame h₂ .batches rfl).trans (frame h₁ .batches rfl)
  have hlookb : ∀ b', bs.lookup b' =
      if b' = b then some ⟨.cancelled⟩ else s.batches.lookup b' := by
    intro b'
    rw [Table.lookup_of_update_key hbs]
    show (if b' = b then (s₂.batches.lookup b').map _ else s₂.batches.lookup b') = _
    rw [hbatches]
    split
    · rename_i heq
      rw [heq, hrow]
      rfl
    · rfl
  -- the tasks of the batch end; the others stay
  have hlookt : ∀ t, ts.lookup t = (s.tasks.lookup t).map fun r =>
      if r.batchId = b ∧ r.state.isTerminal = false then
        { r with state := .cancelled, currentAttemptId := none } else r := by
    intro t
    rw [Table.lookup_of_update hts]
    show (s₂.tasks.lookup t).map _ = _
    rw [htasks]
    refine Option.map_congr fun r _ => ?_
    simp [Table.updateRow]
  have hothers : ∀ b', b' ≠ b → SameBatch s { s₂ with tasks := ts, batches := bs } b' := by
    intro b' hb'
    refine ⟨?_, (hsame b').ready, fun t => ?_⟩
    · show bs.lookup b' = _
      rw [hlookb, if_neg hb']
    · show (ts.lookup t).bind _ = (s.tasks.lookup t).bind _
      rw [hlookt]
      cases s.tasks.lookup t with
      | none => rfl
      | some r =>
        simp only [Option.map_some, Option.bind_some]
        split
        · rename_i hc
          have hne : ¬ r.batchId = b' := fun heq => hb' (heq.symm.trans hc.1)
          rw [if_neg hne, if_neg hne]
        · rfl
  have hcancelled : ∀ t st, ({ s₂ with tasks := ts, batches := bs } : Store).memberOutline b t =
      some st → st.isTerminal = true := by
    intro t st hst
    obtain ⟨r', hr', hbatch, rfl⟩ := memberOutline_eq_some.mp hst
    change ts.lookup t = some r' at hr'
    rw [hlookt] at hr'
    obtain ⟨r, -, rfl⟩ := Option.map_eq_some_iff.mp hr'
    split
    · rfl
    · rename_i hc
      rw [if_neg hc] at hbatch
      have hended : r.state.isTerminal = true := by
        cases hterm : r.state.isTerminal with
        | true => rfl
        | false => exact absurd ⟨hbatch, hterm⟩ hc
      revert hended
      cases r.state <;> decide
  refine ⟨fun b' => ?_, fun b' row' hrow' hc => ?_⟩
  · by_cases heq : b' = b
    · subst heq
      refine .of_row ((hlookb b').trans (if_pos rfl)) (fun hne => absurd rfl hne)
        (fun _ => hcancelled) ?_
      exact (hsame b').ready.trans (((hl b').ready row hrow).trans (if_neg hnot))
    · exact (hl b').of_same (hothers b' heq)
  · have hne : b' ≠ b := by
      rintro rfl
      rw [← Option.some.inj (hrow.symm.trans hrow')] at hc
      exact hnot hc
    show bs.lookup b' = some row'
    rw [hlookb, if_neg hne, hrow']

/-! ## Decisions -/

theorem Behind.of_same (hb : Behind s b) (h : ∀ b, SameBatch s s' b) : Behind s' b where
  opened := by
    obtain ⟨row, hrow, hstate, hready⟩ := hb.opened
    exact ⟨row, by rw [(h b).row, hrow], hstate, by rw [(h b).ready, hready]⟩
  others b' hb' := (hb.others b' hb').of_same (h b')

/-- A suspended batch is reactivated ahead of its recomputation. -/
theorem reactivate_behind {c : Bool}
    (h : Runs env (whenever c (updateIn batchesT constraintViolation
      (fun k row => decide (k = b) && decide (row.state = .suspended))
      fun row => { row with state := .active })) s u s') (hb : Behind s b) :
    Behind s' b ∧ ∀ b', b' ≠ b → s'.batches.lookup b' = s.batches.lookup b' := by
  rcases h.whenever with ⟨-, h⟩ | ⟨-, rfl⟩
  · obtain ⟨bs, hbs, rfl⟩ := h.updateIn
    have hother : ∀ b', b' ≠ b → bs.lookup b' = s.batches.lookup b' := by
      intro b' hb'
      rw [Table.lookup_of_update hbs]
      show (s.batches.lookup b').map _ = _
      cases s.batches.lookup b' with
      | none => rfl
      | some row => simp [Table.updateRow, hb']
    refine ⟨⟨?_, fun b' hb' => ?_⟩, hother⟩
    · obtain ⟨row, hrow, hstate, hready⟩ := hb.opened
      refine ⟨_, (Table.lookup_of_update hbs b).trans (congrArg (Option.map _) hrow), ?_, hready⟩
      unfold Table.updateRow
      split
      · exact .inl rfl
      · exact hstate
    · exact (hb.others b' hb').of_same ⟨hother b' hb', rfl, fun _ => rfl⟩
  · exact ⟨hb, fun _ _ => rfl⟩

/-- The physical side, the agent side and the closing of a decision are not seen. -/
theorem decision_same {action : EscalatedWriterPresenceAction} {p : EscalatedPresence}
    {revive resolve : Bool} {g : Option LogicalAgentId} {e : EscalationId} {u₁ u₂ u₃ : Unit}
    {s₃ : Store} (h₁ : Runs env (settlePresence action p q) s u₁ s₁)
    (h₂ : Runs env (reviveEscalated revive g) s₁ u₂ s₂)
    (h₃ : Runs env (closeEscalation e resolve) s₂ u₃ s₃) (b : BatchId) :
    SameBatch s s₃ b ∧ s₃.batches = s.batches := by
  refine ⟨((same_frame h₁ b rfl).trans (same_frame h₂ b rfl)).trans (same_frame h₃ b rfl), ?_⟩
  exact (frame h₃ .batches rfl).trans ((frame h₂ .batches rfl).trans (frame h₁ .batches rfl))

theorem resolveEscalation_books {e : EscalationId} {op : String} (hs : s.board.Sound)
    (hl : Ledger s) (h : Runs env (resolveEscalation e op q) s u s') : BooksMove s s' := by
  unfold resolveEscalation at h
  obtain ⟨op, -, h⟩ := h.examine_bind
  obtain ⟨row, hrow, h⟩ := h.fetch_bind
  obtain ⟨task, htask, h⟩ := h.fetch_bind
  obtain ⟨cause, -, h⟩ := h.examine_bind
  obtain ⟨plan, hplan, h⟩ := h.query_bind.examine_bind
  obtain ⟨ho, hcases⟩ := planEscalationResolution_ok hplan
  -- the escalation names the batch of its task
  have hx : s.board.escalation e = some row.view := Table.view_of_lookup hrow
  obtain ⟨v, hv, hbatch, hstate⟩ := hs.coupled.open_task e _ hx ho
  have hv' : s.board.task row.taskId = some task.view := Table.view_of_lookup htask
  cases hv'.symm.trans hv
  change task.batchId = row.batchId at hbatch
  rcases hcases with ⟨-, -, -, rfl⟩ | ⟨hsuspended, -, rfl⟩ | rfl
  · obtain ⟨_, s₁, h₁, h⟩ := Tx.Runs.bind h
    obtain ⟨_, s₂, h₂, h⟩ := h.bind
    obtain ⟨_, s₃, h₃, h₄⟩ := h.bind
    have hsame := fun b => (decision_same h₁ h₂ h₃ b).1
    exact .after_same hl hsame fun hl => .of_same hl (recomputeBatch_same hl h₄)
  · obtain ⟨_, s₁, h₁, h⟩ := Tx.Runs.bind h
    obtain ⟨_, s₂, h₂, h⟩ := h.bind
    obtain ⟨_, s₃, h₃, h⟩ := h.bind
    obtain ⟨_, s₄, h₄, h⟩ := h.bind
    obtain ⟨_, s₅, h₅, h₆⟩ := h.bind
    have hopen : task.state.isTerminal = false := by
      change task.state = .suspended at hsuspended
      rw [hsuspended]
      rfl
    have hlocal : LocalTo row.taskId env s s₁ := h₁.respects (updateTask_local fun _ => rfl)
    have hbehind := Behind.of_local hl htask hopen hlocal
    rw [hbatch] at hbehind
    obtain ⟨hbehind, hothers⟩ := reactivate_behind h₂ hbehind
    have hsame := fun b => decision_same h₃ h₄ h₅ b
    refine books_of_recompute (fun b' row' hrow' hc => ?_)
      (hbehind.of_same fun b => (hsame b).1) h₆
    have hne : b' ≠ row.batchId := by
      rintro rfl
      obtain ⟨row₂, hrow₂, hst, -⟩ := openBatch_of_task hl htask hopen
      rw [hbatch, hrow'] at hrow₂
      rw [← Option.some.inj hrow₂, hc] at hst
      rcases hst with h | h <;> cases h
    exact ⟨hne, by rw [(hsame b').2, hothers b' hne, hlocal.batches, hrow']⟩
  · obtain ⟨_, s₁, h₁, h⟩ := Tx.Runs.bind h
    obtain ⟨_, s₂, h₂, h₃⟩ := h.bind
    have hclose := fun b => same_frame h₂ b rfl
    have h₃ : Runs env (recomputeBatch row.batchId) s₂ u s' := by
      rcases h₃.whenever with ⟨-, h₃⟩ | ⟨hc, -⟩
      · exact h₃
      · change (cause.isWriterUnknown || !cause.isWriterUnknown) = false at hc
        rw [Bool.or_not_self] at hc
        cases hc
    rcases hstate with hsuspended | hcancelled
    · have hlocal := trans_of (LocalTo row.taskId env) (h₁.respects (updateTask_local fun _ => rfl))
        (h₂.respects (.aside rfl))
      have hopen : task.state.isTerminal = false := by
        change task.state = .suspended at hsuspended
        rw [hsuspended]
        rfl
      rw [← hbatch] at h₃
      exact books_of_local hl htask hopen hlocal h₃
    · -- the task was cancelled before
      have hsame : ∀ b, SameBatch s s₁ b := updateTasks_same h₁ fun k r hr hk => by
        obtain rfl : k = row.taskId := of_decide_eq_true hk
        cases htask.symm.trans hr
        exact ⟨rfl, congrArg TaskState.outline hcancelled.symm⟩
      exact .after_same hl (fun b => (hsame b).trans (hclose b)) fun hl =>
        .of_same hl (recomputeBatch_same hl h₃)

/-! ## Submission -/

/-- A new batch is being filled with open tasks; the other batches do not notice. -/
structure Filling (s s' : Store) (b : BatchId) : Prop where
  others : ∀ b', b' ≠ b → SameBatch s s' b'
  row : s'.batches.lookup b = some ⟨.active⟩
  ready : s'.readyEvents b = 0
  fresh : ∀ t st, s'.memberOutline b t = some st → st = .queued

/-- The insertion of a batch row. -/
theorem Filling.of_insert {bs : Table (.free BatchId BatchRow)} (hl : Ledger s)
    (h : s.batches.insert b ⟨.active⟩ = some bs) : Filling s { s with batches := bs } b := by
  obtain ⟨hnone, hlook⟩ := Table.lookup_of_insert h
  obtain ⟨hmembers, hready⟩ := (hl b).absent hnone
  refine ⟨fun b' hb' => ⟨?_, rfl, fun _ => rfl⟩, ?_, hready, fun t st hst => ?_⟩
  · exact (hlook b').trans (if_neg hb')
  · exact (hlook b).trans (if_pos rfl)
  · change s.memberOutline b t = some st at hst
    rw [hmembers t] at hst
    cases hst

theorem Filling.of_same (hf : Filling s s₁ b) (h : ∀ b, SameBatch s₁ s₂ b) : Filling s s₂ b where
  others b' hb' := (hf.others b' hb').trans (h b')
  row := (h b).row.trans hf.row
  ready := (h b).ready.trans hf.ready
  fresh t st hst := by
    rw [(h b).members] at hst
    exact hf.fresh t st hst

/-- The insertion of a task row. -/
theorem insertTask_filling {id : TaskId} {spec : TaskSpec} {st : TaskState}
    {mode : AgentRequirementMode} (hf : Filling s s₁ b) (hst : st.outline = .queued)
    (h : Runs env (insertTask id spec b st mode) s₁ u s') :
    Filling s s' b ∧ s'.memberOutline b id = some .queued ∧
      ∀ t, s₁.memberOutline b t = some .queued → s'.memberOutline b t = some .queued := by
  unfold insertTask at h
  obtain ⟨_, h⟩ := h.ask_bind.query_bind.require_bind
  obtain ⟨ts, hts, rfl⟩ := h.insertInto
  obtain ⟨hnone, hlook⟩ := Table.lookup_of_insert hts
  change s₁.tasks.lookup id = none at hnone
  have hmember : ∀ b' t, (tasksT.set s₁ ts).memberOutline b' t =
      if t = id then (if b = b' then some .queued else none) else s₁.memberOutline b' t := by
    intro b' t
    show (ts.lookup t).bind _ = _
    rw [hlook]
    split
    · exact congrArg (fun x => if b = b' then some x else none) hst
    · rfl
  have hold : ∀ b', s₁.memberOutline b' id = none := fun b' => by
    unfold memberOutline
    rw [hnone]
    rfl
  refine ⟨⟨fun b' hb' => (hf.others b' hb').trans ⟨rfl, rfl, fun t => ?_⟩, hf.row, hf.ready,
    fun t st' hst' => ?_⟩, ?_, fun t ht => ?_⟩
  · rw [hmember]
    split
    · rename_i heq
      rw [if_neg hb'.symm, heq, hold]
    · rfl
  · rw [hmember] at hst'
    split at hst'
    · rw [if_pos rfl] at hst'
      exact (Option.some.inj hst').symm
    · exact hf.fresh t st' hst'
  · rw [hmember, if_pos rfl, if_pos rfl]
  · rw [hmember]
    split
    · exact if_pos rfl
    · exact ht

/-- **A filled batch** is active. -/
theorem Filling.books (hl : Ledger s) (hb : s.batches.lookup b = none) (hf : Filling s s' b)
    (hne : ∃ t, s'.memberOutline b t = some .queued) : BooksMove s s' := by
  have hany : ∀ p : TaskState → Bool, (∀ st : TaskState, p st = p st.outline) →
      ((s'.members b).any fun x => p x.2.state) = p .queued := by
    intro p hp
    rw [Bool.eq_iff_iff, any_members hp]
    constructor
    · rintro ⟨t, st, hst, hpst⟩
      rwa [hf.fresh t st hst] at hpst
    · intro hq
      obtain ⟨t, ht⟩ := hne
      exact ⟨t, _, ht, hq⟩
  refine ⟨fun b' => ?_, fun b' row hrow _ => ?_⟩
  · by_cases heq : b' = b
    · subst heq
      exact .of_row hf.row (fun _ => aggregateState_eq hany) nofun hf.ready
    · exact (hl b').of_same (hf.others b' heq)
  · have hne' : b' ≠ b := by
      rintro rfl
      rw [hb] at hrow
      cases hrow
    rw [(hf.others b' hne').row, hrow]

theorem submitBatch_books {specs : List TaskSpec} {r : BatchId × List (String × TaskId)}
    (hl : Ledger s) (h : Runs env (submitBatch specs) s r s') : BooksMove s s' := by
  unfold submitBatch at h
  obtain ⟨hnonempty, h⟩ := h.require_bind
  obtain ⟨-, h⟩ := h.require_bind
  obtain ⟨n, h⟩ := newId_bind h.ask_bind
  obtain ⟨bs, hbs, h⟩ := h.insertInto_bind
  obtain ⟨ids, s₁, h₁, h⟩ := h.bind
  obtain ⟨graph, -, h⟩ := h.examine_bind
  obtain ⟨_, -, h⟩ := h.examine_bind
  obtain ⟨_, s₂, h₂, h⟩ := h.bind
  obtain ⟨_, s₃, h₃, h⟩ := h.bind
  obtain ⟨-, rfl⟩ := h.pure
  have hfill : Filling s s₁ _ := (Filling.of_insert hl hbs).of_same fun b => same_frame h₁ b rfl
  -- the first task of the batch is there as soon as the loop has begun
  have hloop := h₂.forM_rest (P := fun rest s₂ => Filling s s₂ _ ∧ (rest.length < specs.length →
    ∃ t, s₂.memberOutline _ t = some .queued)) ⟨hfill, fun hlt => absurd hlt (lt_irrefl _)⟩
    fun spec rest s₂ s₃ u hinv hrun => by
      unfold submitTask at hrun
      obtain ⟨_, -, hrun⟩ := hrun.fetch_bind
      obtain ⟨id, -, hrun⟩ := hrun.orFail_bind
      obtain ⟨hfill, hmember, -⟩ := insertTask_filling hinv.1 (by split <;> rfl) hrun
      exact ⟨hfill, fun _ => ⟨id, hmember⟩⟩
  have hdeps := fun b => same_frame h₃ b rfl
  obtain ⟨t, ht⟩ := hloop.2 (List.length_pos_iff.mpr (by simpa using hnonempty))
  exact (hloop.1.of_same hdeps).books hl (Table.lookup_of_insert hbs).1
    ⟨t, by rw [(hdeps _).members, ht]⟩

theorem admitProposal_books {verdict : Except Error (Option TaskId)} {spec : TaskSpec}
    {draft : Option (Except Error AgentTypeRef)} {id : TaskId} (hl : Ledger s)
    (h : Runs env (admitProposal verdict spec draft) s id s') : BooksMove s s' := by
  unfold admitProposal at h
  obtain ⟨replayed, -, h⟩ := h.examine_bind
  split at h
  · obtain ⟨-, rfl⟩ := h.pure
    exact .of_same hl fun _ => ⟨rfl, rfl, fun _ => rfl⟩
  unfold admitTask at h
  obtain ⟨-, h⟩ := h.require_bind
  obtain ⟨_, -, h⟩ := h.fetch_bind
  obtain ⟨named, s₁, h₁, h⟩ := h.bind
  obtain ⟨n, h⟩ := newId_bind h
  obtain ⟨bs, hbs, h⟩ := h.insertInto_bind
  obtain ⟨_, s₂, h₂, h⟩ := h.bind
  obtain ⟨_, s₃, h₃, h⟩ := h.bind
  obtain ⟨-, rfl⟩ := h.pure
  refine .after_same hl (fun b => same_frame h₁ b rfl) fun hl => ?_
  obtain ⟨hfill, hmember, -⟩ := insertTask_filling (Filling.of_insert hl hbs) rfl h₂
  have hdraft := fun b => same_frame h₃ b rfl
  exact (hfill.of_same hdraft).books hl (Table.lookup_of_insert hbs).1
    ⟨named.2, by rw [(hdraft _).members, hmember]⟩

/-! ## Moves that no batch sees -/

theorem updateTasks_unseen {p : TaskId → TaskRow → Bool} {f : TaskRow → TaskRow} {err : Error}
    (hf : ∀ k r, p k r = true →
      (f r).batchId = r.batchId ∧ (f r).state.outline = r.state.outline) :
    Unseen (updateIn tasksT err p f : KernelTx Unit) :=
  fun _ _ _ _ h => updateTasks_same h fun k r _ hp => hf k r hp

theorem claimSelected_unseen (g : LogicalAgentId) (p : PartitionId) (row : PartitionRow)
    (t : TaskId) (task : TaskRow) : Unseen (claimSelected g p row t task) := by
  refine claimSelected_respects (fun _ _ => .aside rfl) (fun _ _ => .aside rfl)
    (fun _ _ => updateTasks_unseen fun k r hp => ⟨rfl, ?_⟩) fun _ _ => .aside rfl
  have hqueued : r.state = .queued := of_decide_eq_true ((Bool.and_eq_true _ _).mp hp).2
  rw [hqueued]
  rfl

theorem mergePartitions_unseen (p q : PartitionId) : Unseen (mergePartitions p q) :=
  mergePartitions_respects (.aside rfl) (updateTasks_unseen fun _ _ _ => ⟨rfl, rfl⟩)
    (fun _ _ => .aside rfl) (fun _ _ => .aside rfl) fun _ _ => .aside rfl

theorem promoteRetryWait_unseen : Unseen promoteRetryWait := by
  unfold promoteRetryWait
  refine .bind .ask fun _ => .bind (.query _) fun _ =>
    .bind (updateTasks_unseen fun k r hp => ⟨rfl, ?_⟩) fun _ => .pure _
  have hwaiting : r.state = .retryWait := of_decide_eq_true ((Bool.and_eq_true _ _).mp hp).1
  rw [hwaiting]
  rfl

/-- A claimed task that starts to run stays open. -/
theorem confirmRunningAndRenew_same {a : AttemptId} {e : LeaseEpoch} {x : ExecutionId}
    {handle : JsonValue} {g : RunningAuthorityGrant} (hs : s.board.Sound)
    (h : Runs env (confirmRunningAndRenew a e x handle) s g s') (b : BatchId) :
    SameBatch s s' b := by
  obtain ⟨r, row, s₁, s₂, s₃, t, c, -⟩ := confirmRunningAndRenew_runs h
  have htasks : s₁.tasks = s.tasks := frame c.confirmed .tasks rfl
  have hrun : SameBatch s₁ s₂ b := by
    refine updateTasks_same c.started (fun k row hrow hp => ⟨rfl, ?_⟩) b
    obtain rfl : k = r.attempt.taskId := of_decide_eq_true ((Bool.and_eq_true _ _).mp hp).1
    rw [htasks] at hrow
    cases c.authorized.task.symm.trans hrow
    exact (TaskState.outline_of_assigned
      (hs.coherent.holding_assigned c.authorized.held.holding)).symm
  exact (((same_frame c.confirmed b rfl).trans hrun).trans (same_frame c.warmed b rfl)).trans
    (same_frame c.renewed b rfl)

/-- The bookkeeping of a delivery announces nothing. -/
theorem updateEvent_unseen (id : OutboxEventId) {f : OutboxRow → OutboxRow}
    (hf : ∀ o, (f o).eventType = o.eventType ∧ (f o).aggregateId = o.aggregateId) :
    Unseen (updateEvent id f) := by
  intro env s u s' h b
  obtain ⟨t', ht', rfl⟩ := Tx.Runs.updateIn h
  refine ⟨rfl, Table.count_of_update ht' fun k o _ _ => ?_, fun _ => rfl⟩
  rw [(hf o).1, (hf o).2]

theorem outbox_unseen {op : Op} (hop : op.footprint = [.notificationOutbox]) : Unseen op.exec := by
  cases op with
  | ackOutbox id =>
    refine .bind ?_ fun _ => .pure _
    unfold ackOutbox
    exact .bind .ask fun _ => .bind (.fetch _ _) fun _ =>
      .bind (.whenever (updateEvent_unseen _ fun _ => ⟨rfl, rfl⟩)) fun _ => .pure _
  | markOutboxDelivered id =>
    refine .bind ?_ fun _ => .pure _
    unfold markOutboxDelivered
    exact .bind .ask fun _ => .bind (.fetch _ _) fun _ =>
      .ite (.bind (updateEvent_unseen _ fun _ => ⟨rfl, rfl⟩) fun _ => .pure _) (.pure _)
  | commitOutboxDeliverySuccess id =>
    refine .bind ?_ fun _ => .pure _
    exact .bind (.fetch _ _) fun _ => .ite (.bind .ask fun _ =>
      .bind (updateEvent_unseen _ fun _ => ⟨rfl, rfl⟩) fun _ => .pure _) (.pure _)
  | commitOutboxDeliveryFailure id delay diagnostic =>
    refine .bind (.bind (.require _ _) fun _ => ?_) fun _ => .pure _
    exact .bind (.fetch _ _) fun _ => .ite (.bind .ask fun _ =>
      .bind (updateEvent_unseen _ fun _ => ⟨rfl, rfl⟩) fun _ => .pure _) (.pure _)
  | _ => simp [Op.footprint] at hop

/-! ## Whole histories -/

/-- **One committed call** keeps the books. -/
theorem exec_books (op : Op) (hs : s.board.Sound) (hl : Ledger s) (h : Runs env op.exec s u s') :
    BooksMove s s' := by
  have hunseen : Unseen op.exec → BooksMove s s' := fun hx => .of_same hl (hx env s u s' h)
  cases op with
  | submitBatch =>
    obtain ⟨_, h⟩ := runs_of_effect h
    exact submitBatch_books hl h
  | admitProposal =>
    obtain ⟨_, h⟩ := runs_of_effect h
    exact admitProposal_books hl h
  | mergePartitions => exact hunseen (.bind (mergePartitions_unseen _ _) fun _ => .pure _)
  | claimNextAvailable | acquireTypedTaskExisting | acquireTypedTaskNewAgent =>
    exact hunseen (Sees.claims (by decide) claimSelected_unseen rfl)
  | confirmRunningAndRenew =>
    obtain ⟨_, h⟩ := runs_of_effect h
    exact .of_same hl (confirmRunningAndRenew_same hs h)
  | ackSuccess =>
    obtain ⟨_, h⟩ := runs_of_effect h
    exact ackSuccess_books hs hl h
  | nack | reportConfigurationUnavailable =>
    obtain ⟨_, h⟩ := runs_of_effect h
    exact nack_books hs hl h
  | nackPreservingPhysicalHistory =>
    obtain ⟨_, h⟩ := runs_of_effect h
    exact nackPreservingPhysicalHistory_books hs hl h
  | abortBeforePhysicalStart =>
    obtain ⟨_, h⟩ := runs_of_effect h
    exact abortBeforePhysicalStart_books hs hl h
  | cancelTask => exact cancelTask_books hl h
  | cancelBatch => exact cancelBatch_books hl h
  | expireLeases =>
    obtain ⟨_, h⟩ := runs_of_effect h
    exact expireLeases_books hs hl h
  | promoteRetryWait => exact hunseen (.bind promoteRetryWait_unseen fun _ => .pure _)
  | resolveEscalation => exact resolveEscalation_books hs hl h
  | ackOutbox | markOutboxDelivered | commitOutboxDeliverySuccess | commitOutboxDeliveryFailure =>
    exact hunseen (outbox_unseen rfl)
  | _ => exact hunseen (.aside (by simp [Op.footprint]))

theorem Ledger.empty : Ledger Store.empty := fun _ =>
  ⟨fun _ => ⟨fun _ => rfl, rfl⟩, fun _ hrow => (nomatch hrow), fun _ hrow => (nomatch hrow),
    fun _ hrow => (nomatch hrow)⟩

/-- **Every history keeps the books.** -/
theorem Store.after_books (hs : s.board.Sound) (hl : Ledger s) (calls : List Call) :
    BooksMove s (s.after calls) := by
  refine (run_induction (P := fun s' : Store => s'.board.Sound ∧ BooksMove s s') ?_
    ⟨hs, hl, fun _ _ hrow _ => hrow⟩).2
  rintro c - s₁ s₂ ⟨hs₁, hmove⟩ hrun
  exact ⟨hs₁.steps (exec_refines c.2 hs₁ hrun),
    hmove.trans (exec_books c.2 hs₁ hmove.ledger hrun)⟩

theorem Store.after_ledger (calls : List Call) : Ledger (Store.empty.after calls) :=
  (Store.after_books (Store.after_sound []) Ledger.empty calls).ledger

/-- **A batch says what its tasks say, and announces its results once.** -/
theorem batch_aggregate_exact (calls : List Call) (b : BatchId) (row : BatchRow)
    (hrow : (Store.empty.after calls).batches.lookup b = some row) :
    (row.state ≠ .cancelled → row.state = batchNextState
      (((Store.empty.after calls).members b).any fun x => decide (x.2.state = .suspended))
      (((Store.empty.after calls).members b).any fun x => decide (x.2.state = .cancelled))
      (((Store.empty.after calls).members b).all fun x => decide (x.2.state = .completed))) ∧
    (row.state = .cancelled → ∀ x ∈ (Store.empty.after calls).members b,
      x.2.state = .completed ∨ x.2.state = .cancelled) ∧
    (row.state = .completed → ∀ more : List Call,
      ∃ row', (Store.empty.after (calls ++ more)).batches.lookup b = some row' ∧
        row'.state = .completed) ∧
    (Store.empty.after calls).readyEvents b = if row.state = .completed then 1 else 0 := by
  have hb := Store.after_ledger calls b
  refine ⟨fun hnot => ?_, fun hc x hx => ?_, fun hc more => ?_, hb.ready row hrow⟩
  · have hagg := hb.aggregate row hrow hnot
    unfold aggregateState at hagg
    dsimp only at hagg
    split at hagg
    · cases hagg
    · exact (Except.ok.inj hagg).symm
  · obtain ⟨hmem, hbatch⟩ := List.mem_filter.mp hx
    have hterm := hb.cancelled row hrow hc x.1 x.2.state.outline
      (memberOutline_eq_some.mpr ⟨x.2, Table.mem_rows.mp hmem, of_decide_eq_true hbatch, rfl⟩)
    revert hterm
    cases x.2.state <;> decide
  · rw [Store.after, run_append]
    exact ⟨row, (Store.after_books (Store.after_sound calls) (Store.after_ledger calls) more).final
      b row hrow hc, hc⟩

open Deployment in
theorem batch_aggregate_exact_completed :
    (let done := running ++
       [(moment 7 "z", .ackSuccess "attempt_c" 1 none .emptyObject none true false)]
     (Store.empty.after done).batches.lookup "batch_b" = some ⟨.completed⟩ ∧
     (Store.empty.after done).readyEvents "batch_b" = 1) := by
  have hrow : (Store.empty.after (running ++
      [(moment 7 "z", .ackSuccess "attempt_c" 1 none .emptyObject none true false)])).batches.lookup
      "batch_b" = some ⟨.completed⟩ := by decide +kernel
  exact ⟨hrow, (batch_aggregate_exact _ _ _ hrow).2.2.2⟩

end Agentype

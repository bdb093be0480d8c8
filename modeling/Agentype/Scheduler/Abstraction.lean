import Agentype.Lib.View
import Agentype.Kernel.Settling
import Agentype.Scheduler.Ordered

/-!
# `Agentype.Scheduler.Abstraction` — the board a store stands for

The abstraction function from the durable tables to the board, and what each shared statement of
the kernel does to the board. Everything else in the development about claims, suspensions and
agents goes through these equations.

## Contents
- **`Store.board`.** Each table seen as a function of its keys, restricted to the board's columns.
- **Frames.** `board_frame`: a transaction that writes no board table is `Invisible`.
- **Statements.** `Shown`: an `UPDATE` of a table as the board shows it; one equation for each of
  the shared statements: closing attempts and leases, moving tasks, releasing and suspending
  agents, opening escalations.
-/

namespace Agentype

open Relational Tx Store Board

variable {t : TaskId} {u : Unit} {g : LogicalAgentId} {f : AgentRow → AgentRow} {v : AgentView}
  {p : PartitionId} {w : Option WorkstreamId} {batch : BatchId}

/-! ## The abstraction function -/

def TaskRow.view (r : TaskRow) : TaskView := ⟨r.batchId, r.state, r.currentAttemptId, r.fencingEpoch⟩

def AttemptRow.view (r : AttemptRow) : AttemptView :=
  ⟨r.taskId, r.logicalAgentId, r.leaseEpoch, decide (r.state = .active)⟩

def LeaseRow.view (r : LeaseRow) : LeaseView :=
  ⟨r.taskId, r.attemptId, r.epoch, decide (r.state = .active)⟩

def AgentRow.view (r : AgentRow) : AgentView := ⟨r.state, r.currentTaskId⟩

def EscalationRow.view (r : EscalationRow) : EscalationView :=
  ⟨r.taskId, r.batchId, r.logicalAgentId, r.tag, decide (r.state = .opened)⟩

def ResultRow.view (r : ResultRow) : ResultView := ⟨r.taskId, r.attemptId⟩

/-- The board of a store. -/
def Store.board (s : Store) : Board where
  task := s.tasks.view TaskRow.view
  attempt := s.attempts.view AttemptRow.view
  lease := s.leases.view LeaseRow.view
  agent := s.logicalAgents.view AgentRow.view
  escalation := s.escalations.view EscalationRow.view
  result := s.results.view ResultRow.view
  depends t p := (s.taskDependencies.lookup (t, p)).isSome = true

variable {env : Env} {s s' : Store}

/-! ## Frames -/

/-- The tables the board shows. -/
abbrev boardTables : List TableName :=
  [.tasks, .attempts, .leases, .logicalAgents, .escalations, .results, .taskDependencies]

/-- A transaction leaves the board alone. -/
def Invisible (_ : Env) (s s' : Store) : Prop := s'.board = s.board

instance : IsPreorder Store (Invisible env) where
  refl _ := rfl
  trans _ _ _ h h' := Eq.trans h' h

/-- Stores that agree on the board's tables have the same board. -/
instance : Sees boardTables Invisible := by
  refine ⟨fun env s s' h => ?_⟩
  have ht : s'.tasks = s.tasks := h .tasks (by decide)
  have ha : s'.attempts = s.attempts := h .attempts (by decide)
  have hl : s'.leases = s.leases := h .leases (by decide)
  have hg : s'.logicalAgents = s.logicalAgents := h .logicalAgents (by decide)
  have he : s'.escalations = s.escalations := h .escalations (by decide)
  have hr : s'.results = s.results := h .results (by decide)
  have hd : s'.taskDependencies = s.taskDependencies := h .taskDependencies (by decide)
  simp only [Invisible, board, ht, ha, hl, hg, he, hr, hd]

/-- A transaction that writes no table of the board is invisible. -/
theorem board_frame {α : Type} {W : List TableName} {x : KernelTx α} [Touches W x] {a : α}
    (h : Runs env x s a s') (hW : decide (∀ n ∈ boardTables, n ∉ W) = true) : s'.board = s.board :=
  h.respects (R := Invisible) (.aside hW)

/-! ## Statements about one table -/

/-- The board shows a table through the columns `view`; `put` replaces what it shows. -/
structure Shown {κ ρ ν : Type} [DecidableEq κ] {S : Schema κ ρ} (T : Handle Store S) (view : ρ → ν)
    (get : Board → κ → Option ν) (put : Board → (κ → Option ν) → Board) : Prop where
  board_set : ∀ s t', (T.set s t').board = put s.board (t'.view view)
  get_board : ∀ s : Store, get s.board = (T.get s).view view
  put_get : ∀ b, put b (get b) = b

theorem shown_tasks : Shown tasksT TaskRow.view Board.task withTasks :=
  ⟨fun _ _ => rfl, fun _ => rfl, fun _ => rfl⟩

theorem shown_attempts : Shown attemptsT AttemptRow.view Board.attempt withAttempts :=
  ⟨fun _ _ => rfl, fun _ => rfl, fun _ => rfl⟩

theorem shown_leases : Shown leasesT LeaseRow.view Board.lease withLeases :=
  ⟨fun _ _ => rfl, fun _ => rfl, fun _ => rfl⟩

theorem shown_agents : Shown logicalAgentsT AgentRow.view Board.agent withAgents :=
  ⟨fun _ _ => rfl, fun _ => rfl, fun _ => rfl⟩

theorem shown_escalations : Shown escalationsT EscalationRow.view Board.escalation withEscalations :=
  ⟨fun _ _ => rfl, fun _ => rfl, fun _ => rfl⟩

theorem shown_results : Shown resultsT ResultRow.view Board.result withResults :=
  ⟨fun _ _ => rfl, fun _ => rfl, fun _ => rfl⟩

namespace Shown

variable {κ ρ ν : Type} [DecidableEq κ] {S : Schema κ ρ} {T : Handle Store S} {view : ρ → ν}
  {get : Board → κ → Option ν} {put : Board → (κ → Option ν) → Board} {c : κ → ρ → Bool} {f : ρ → ρ}
  {err : Error}

/-- An `UPDATE` of one row whose selection and new columns the board tells. -/
theorem update_row (hT : Shown T view get put) (h : Runs env (updateIn T err c f) s u s') {k : κ}
    {y y' : ν} (hy : get s.board k = some y) (hf : ∀ r, view r = y → c k r = true ∧ view (f r) = y')
    (honly : ∀ k' r, c k' r = true → k' = k) :
    s'.board = put s.board (Function.update (get s.board) k (some y')) := by
  obtain ⟨t', ht', rfl⟩ := h.updateIn
  rw [hT.get_board] at hy ⊢
  rw [hT.board_set, Table.view_of_update_view ht' hy hf honly]

/-- An `UPDATE` whose condition and assignment are about the columns the board shows. -/
theorem update_map (hT : Shown T view get put) (h : Runs env (updateIn T err c f) s u s')
    (F : κ → ν → ν) (hF : ∀ k r, view (Table.updateRow c f k r) = F k (view r)) :
    s'.board = put s.board fun k => (get s.board k).map (F k) := by
  obtain ⟨t', ht', rfl⟩ := h.updateIn
  rw [hT.board_set, Table.view_of_update_map F ht' hF, hT.get_board]

/-- An `UPDATE` that keeps the columns the board shows. -/
theorem invisible (hT : Shown T view get put) (hf : ∀ r, view (f r) = view r) :
    Respects Invisible (updateIn T err c f : KernelTx Unit) := by
  intro env s u s' h
  obtain ⟨t', ht', rfl⟩ := h.updateIn
  show (T.set s t').board = s.board
  rw [hT.board_set, Table.view_of_update_eq ht' fun _ r _ _ => hf r, ← hT.get_board, hT.put_get]

end Shown

/-- `UPDATE tasks … WHERE id = t`, as long as the task is there. -/
theorem updateTask_board {f : TaskRow → TaskRow} {v v' : TaskView}
    (h : Runs env (updateTask t f) s u s') (hv : s.board.task t = some v)
    (hf : ∀ r : TaskRow, r.view = v → (f r).view = v') :
    s'.board = s.board.withTasks (Function.update s.board.task t (some v')) :=
  shown_tasks.update_row h hv (fun r hr => ⟨decide_eq_true rfl, hf r hr⟩)
    fun _ _ hp => of_decide_eq_true hp

/-- Closing an active attempt. -/
theorem closeAttempt_board {a : AttemptId} {st : AttemptState} {only : Bool} {w : AttemptView}
    (h : Runs env (closeAttempt a st only) s u s') (hw : s.board.attempt a = some w)
    (hactive : w.active = true) (hst : st ≠ .active) :
    s'.board = s.board.withAttempts
      (Function.update s.board.attempt a (some { w with active := false })) := by
  refine shown_attempts.update_row h hw (fun r hr => ?_) fun k' r' hp => ?_
  · subst hr
    have hs : r.state = .active := of_decide_eq_true hactive
    simp [AttemptRow.view, hs, hst]
  · simp only [Bool.and_eq_true, decide_eq_true_eq] at hp
    exact hp.1

/-- Closing an active lease. -/
theorem closeLease_board {l : LeaseId} {st : LeaseState} {only : Bool} {x : LeaseView}
    (h : Runs env (closeLease l st only) s u s') (hx : s.board.lease l = some x)
    (hactive : x.active = true) (hst : st ≠ .active) :
    s'.board = s.board.withLeases
      (Function.update s.board.lease l (some { x with active := false })) := by
  refine shown_leases.update_row h hx (fun r hr => ?_) fun k' r' hp => ?_
  · subst hr
    have hs : r.state = .active := of_decide_eq_true hactive
    simp [LeaseRow.view, hs, hst]
  · simp only [Bool.and_eq_true, decide_eq_true_eq] at hp
    exact hp.1

/-- `UPDATE logical_agents … WHERE id = g`, as long as the agent is there. -/
theorem updateAgent_board {v' : AgentView} (h : Runs env (updateAgent g f) s u s')
    (hv : s.board.agent g = some v) (hf : ∀ r : AgentRow, r.view = v → (f r).view = v') :
    s'.board = s.board.withAgents (Function.update s.board.agent g (some v')) :=
  shown_agents.update_row h hv (fun r hr => ⟨decide_eq_true rfl, hf r hr⟩)
    fun _ _ hp => of_decide_eq_true hp

/-! ## Agents -/

theorem retireLogicalAgent_board (h : Runs env (retireLogicalAgent g) s u s')
    (hv : s.board.agent g = some v) :
    s'.board = s.board.withAgents (Function.update s.board.agent g (some ⟨.retired, none⟩)) := by
  obtain ⟨_, s₁, h₁, h₂⟩ := h.bind
  have hb := board_frame h₁ rfl
  rw [← hb] at hv ⊢
  exact updateAgent_board h₂ hv fun r _ => rfl

theorem commitPartitionCutover_invisible {row : AgentRow} :
    Respects Invisible (commitPartitionCutover g row p) := by
  unfold commitPartitionCutover
  refine .bind (.aside rfl) fun plan => ?_
  split
  · exact .fail _
  · exact .fail _
  · exact .fail _
  · exact .bind (.aside rfl) fun _ => .bind (shown_agents.invisible fun _ => rfl) fun _ => .pure _

theorem requestPartitionCutover_invisible {row : AgentRow} :
    Respects Invisible (requestPartitionCutover g row p) := by
  unfold requestPartitionCutover
  refine .bind (.aside rfl) fun plan => ?_
  split
  · exact .bind (shown_agents.invisible fun _ => rfl) fun _ => .pure _
  · exact .fail _
  · exact .fail _
  · exact commitPartitionCutover_invisible

/-- **Release.** A released agent has no task and is ready, parked or retired. -/
theorem releaseAgent_board (h : Runs env (releaseAgent g) s u s') :
    ∃ v ag, s.board.agent g = some v ∧ ag.released = true ∧ s'.board = s.board.withAgents
      (Function.update s.board.agent g (some ⟨ag, none⟩)) := by
  unfold releaseAgent at h
  obtain ⟨row, hrow, h⟩ := h.ask_bind.fetch_bind
  have hv : s.board.agent g = some row.view := Table.view_of_lookup hrow
  split at h
  · exact ⟨_, .retired, hv, rfl, retireLogicalAgent_board h hv⟩
  · obtain ⟨destination, -, h⟩ := h.examine_bind
    obtain ⟨closure, -, h⟩ := h.examine_bind
    split at h
    · exact ⟨_, .suspended, hv, rfl, updateAgent_board h hv fun r _ => rfl⟩
    · obtain ⟨target, s₁, h₁, h₂⟩ := h.bind
      have hb : s₁.board = s.board := h₁.respects commitPartitionCutover_invisible
      rw [← hb] at hv ⊢
      split at h₂
      · exact ⟨_, .retired, hv, rfl, retireLogicalAgent_board h₂ hv⟩
      · exact ⟨_, .ready, hv, rfl, updateAgent_board h₂ hv fun r _ => rfl⟩

/-- Suspension behind a writer-safety obligation. -/
theorem suspendAgent_board (h : Runs env (suspendAgent g) s u s') (hv : s.board.agent g = some v)
    (hr : v.state ≠ .retired) :
    s'.board = s.board.withAgents (Function.update s.board.agent g (some ⟨.suspended, none⟩)) := by
  refine shown_agents.update_row h hv (fun r hv => ⟨?_, rfl⟩) fun k' r' hp => ?_
  · subst hv
    exact (Bool.and_eq_true _ _).mpr ⟨decide_eq_true rfl, decide_eq_true hr⟩
  · exact of_decide_eq_true ((Bool.and_eq_true _ _).mp hp).1

theorem suspendOrRelease_board {unknown : Bool} (h : Runs env (suspendOrRelease g unknown) s u s')
    (hv : s.board.agent g = some v) (hr : v.state ≠ .retired) :
    ∃ ag : LogicalAgentState, ag.released = true ∧ (unknown = true → ag = .suspended) ∧
      s'.board = s.board.withAgents (Function.update s.board.agent g (some ⟨ag, none⟩)) := by
  unfold suspendOrRelease at h
  split at h
  · exact ⟨.suspended, rfl, fun _ => rfl, suspendAgent_board h hv hr⟩
  · rename_i hunknown
    obtain ⟨_, ag, -, hag, hb⟩ := releaseAgent_board h
    exact ⟨ag, hag, fun hu => absurd hu hunknown, hb⟩

/-- **Birth.** A new agent is ready and idle. -/
theorem birthAgent_board {tags : Option (List String)} (h : Runs env (birthAgent p w tags) s g s') :
    s.board.agent g = none ∧ s'.board = s.board.withAgents
      (Function.update s.board.agent g (some ⟨.ready, none⟩)) := by
  unfold birthAgent at h
  obtain ⟨partition, -, h⟩ := h.ask_bind.fetch_bind
  obtain ⟨id, s₁, h₁, h⟩ := h.bind
  have hb₁ := board_frame h₁ rfl
  obtain ⟨continuity, s₂, h₂, h⟩ := h.bind
  have hb₂ := board_frame h₂ rfl
  obtain ⟨t', ht', h⟩ := h.insertInto_bind
  obtain ⟨rfl, rfl⟩ := h.pure
  obtain ⟨hnone, hview⟩ := Table.view_of_insert (f := AgentRow.view) ht'
  rw [← hb₁, ← hb₂]
  refine ⟨hnone, ?_⟩
  show s₂.board.withAgents (t'.view AgentRow.view) = _
  rw [hview]
  rfl

/-! ## Escalations -/

/-- No open escalation of the task is found when there is none on the board. -/
theorem openEscalation_eq_none
    (hno : ∀ e x, s.board.escalation e = some x → x.isOpen = true → x.task ≠ t) :
    s.openEscalation t = none := by
  unfold openEscalation
  rw [List.find?_eq_none]
  rintro ⟨e, row⟩ hmem hp
  rw [Table.mem_rows] at hmem
  simp only [Bool.and_eq_true, decide_eq_true_eq] at hp
  exact hno e row.view (Table.view_of_lookup hmem) (decide_eq_true hp.2) hp.1

/-- An escalation that is already open is found. -/
theorem openEscalation_isSome {e : EscalationId} {x : EscalationView}
    (hx : s.board.escalation e = some x) (ho : x.isOpen = true) (ht : x.task = t) :
    (s.openEscalation t).isSome = true := by
  obtain ⟨row, hrow, rfl⟩ := Table.view_eq_some.mp hx
  unfold openEscalation
  rw [List.find?_isSome]
  refine ⟨(e, row), Table.mem_rows.mpr hrow, ?_⟩
  rw [Bool.and_eq_true]
  exact ⟨decide_eq_true ht, ho⟩

/-- **Escalation.** A task without an open escalation gets one. -/
theorem createEscalationWithCause_board {g : Option LogicalAgentId} {cause : EscalationCause}
    {sig detail : Option String} {id : EscalationId}
    (h : Runs env (createEscalationWithCause t batch g w cause sig detail) s id s')
    (hno : ∀ e x, s.board.escalation e = some x → x.isOpen = true → x.task ≠ t) :
    s.board.escalation id = none ∧ s'.board = s.board.raise id ⟨t, batch, g, cause.tag, true⟩ := by
  unfold createEscalationWithCause at h
  have h := h.query_bind
  rw [openEscalation_eq_none hno] at h
  obtain ⟨id', s₁, h₁, h⟩ := h.bind
  have hb₁ := board_frame h₁ rfl
  obtain ⟨t', ht', h⟩ := h.insertInto_bind
  obtain ⟨hnone, hview⟩ := Table.view_of_insert (f := EscalationRow.view) ht'
  have hraised : (escalationsT.set s₁ t').board =
      s₁.board.raise id' ⟨t, batch, g, cause.tag, true⟩ := by
    show s₁.board.withEscalations (t'.view EscalationRow.view) = _
    rw [hview]
    rfl
  rw [← hb₁]
  split at h
  · obtain ⟨_, s₂, h₂, h⟩ := h.bind
    have hb₂ := board_frame h₂ rfl
    obtain ⟨_, s₃, h₃, h⟩ := h.bind
    obtain ⟨rfl, rfl⟩ := h.pure
    exact ⟨hnone, by rw [board_frame h₃ rfl, hb₂, hraised]⟩
  · obtain ⟨_, s₃, h₃, h⟩ := h.bind
    obtain ⟨rfl, rfl⟩ := h.pure
    exact ⟨hnone, by rw [board_frame h₃ rfl, hraised]⟩

/-- A task that already has an open escalation keeps it. -/
theorem createEscalationWithCause_reuse {g : Option LogicalAgentId} {cause : EscalationCause}
    {sig detail : Option String} {id : EscalationId}
    (h : Runs env (createEscalationWithCause t batch g w cause sig detail) s id s')
    (hopen : ∃ e x, s.board.escalation e = some x ∧ x.isOpen = true ∧ x.task = t) : s' = s := by
  obtain ⟨e, x, hx, ho, ht⟩ := hopen
  obtain ⟨found, hfound⟩ := Option.isSome_iff_exists.mp (openEscalation_isSome hx ho ht)
  unfold createEscalationWithCause at h
  have h := h.query_bind
  rw [hfound] at h
  obtain ⟨actual, -, h⟩ := h.examine_bind
  obtain ⟨-, h⟩ := h.require_bind
  exact h.pure.2

end Agentype

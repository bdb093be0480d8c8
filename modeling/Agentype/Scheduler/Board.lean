import Mathlib.Logic.Function.Basic
import Mathlib.Logic.Relation
import Agentype.Kernel.Store

/-!
# `Agentype.Scheduler.Board` — the scheduler as an abstract machine

What the kernel is for, without its tables: a board of tasks, the claims that agents hold on them,
the decisions that wait for the root, and the results. A claim is an attempt with its lease; it is
held as long as the attempt is active.

## Contents
- **The board.** One partial function per kind of row, restricted to the columns that decide who
  may work on what.
- **Moves.** `Holding b` is a held claim of `b`; `b.close h st ag` ends it, parking its task in `st`
  and its agent in `ag`. `AgentsMove`, `TasksMove` are the changes that touch no claim.
- **`Step`.** The transitions of the machine.
-/

namespace Agentype

/-! ## The board -/

structure TaskView where
  batch : BatchId
  state : TaskState
  current : Option AttemptId
  fencing : LeaseEpoch

structure AttemptView where
  task : TaskId
  agent : LogicalAgentId
  epoch : LeaseEpoch
  active : Bool

structure LeaseView where
  task : TaskId
  attempt : AttemptId
  epoch : LeaseEpoch
  active : Bool

structure AgentView where
  state : LogicalAgentState
  current : Option TaskId

structure EscalationView where
  task : TaskId
  batch : BatchId
  agent : Option LogicalAgentId
  tag : EscalationTag
  isOpen : Bool

structure ResultView where
  task : TaskId
  attempt : AttemptId

/-- The scheduling state of the kernel. -/
@[ext] structure Board where
  task : TaskId → Option TaskView
  attempt : AttemptId → Option AttemptView
  lease : LeaseId → Option LeaseView
  agent : LogicalAgentId → Option AgentView
  escalation : EscalationId → Option EscalationView
  result : ResultId → Option ResultView
  depends : TaskId → TaskId → Prop

/-- The tag of a writer-safety obligation. -/
abbrev writerUnknown : EscalationTag := .taskFailure .writerQuiescenceUnknown

/-- The changes of a task state that touch neither claim nor decision. -/
def TaskState.advances : TaskState → TaskState → Bool
  | .leased, .running | .retryWait, .queued => true
  | st, st' => decide (st = st')

namespace LogicalAgentState

/-- The states in which an agent may hold a task. -/
def holds : LogicalAgentState → Bool
  | assigned | draining => true
  | _ => false

/-- The states that keep an agent away from every task. -/
def fenced : LogicalAgentState → Bool
  | suspended | retired => true
  | _ => false

/-- The states a closed claim leaves its agent in. -/
def released : LogicalAgentState → Bool
  | ready | suspended | retired => true
  | _ => false

theorem ne_assigned_of_released {ag : LogicalAgentState} (h : ag.released = true) :
    ag ≠ assigned := by
  rintro rfl
  cases h

end LogicalAgentState

namespace Board

variable (b : Board)

/-! Replacing one component of a board. -/

def withTasks (ts : TaskId → Option TaskView) : Board := { b with task := ts }

def withAttempts (as : AttemptId → Option AttemptView) : Board := { b with attempt := as }

def withLeases (ls : LeaseId → Option LeaseView) : Board := { b with lease := ls }

def withAgents (ag : LogicalAgentId → Option AgentView) : Board := { b with agent := ag }

def withEscalations (es : EscalationId → Option EscalationView) : Board :=
  { b with escalation := es }

def withResults (rs : ResultId → Option ResultView) : Board := { b with result := rs }

def withDepends (r : TaskId → TaskId → Prop) : Board := { b with depends := r }

/-- An open writer-safety obligation names the agent. -/
def Obligated (g : LogicalAgentId) : Prop :=
  ∃ e x, b.escalation e = some x ∧ x.isOpen = true ∧ x.tag = writerUnknown ∧ x.agent = some g

/-- The task has been completed. -/
def Completed (t : TaskId) : Prop := ∃ v, b.task t = some v ∧ v.state = .completed

/-! ## Claims -/

/-- A held claim: a task, its current attempt, the attempt's lease and its agent. -/
structure Holding where
  task : TaskId
  attempt : AttemptId
  lease : LeaseId
  taskView : TaskView
  attemptView : AttemptView
  leaseView : LeaseView
  task_eq : b.task task = some taskView
  attempt_eq : b.attempt attempt = some attemptView
  lease_eq : b.lease lease = some leaseView
  attempt_task : attemptView.task = task
  attempt_active : attemptView.active = true
  lease_attempt : leaseView.attempt = attempt

variable {b}

/-- The agent that holds a claim. -/
def Holding.agent (h : Holding b) : LogicalAgentId := h.attemptView.agent

/-- End a claim: its task is parked in `st`, its agent in `ag`. -/
def close (b : Board) (h : Holding b) (st : TaskState) (ag : LogicalAgentState) : Board :=
  { b with
    task := Function.update b.task h.task (some { h.taskView with state := st, current := none })
    attempt := Function.update b.attempt h.attempt (some { h.attemptView with active := false })
    lease := Function.update b.lease h.lease (some { h.leaseView with active := false })
    agent := Function.update b.agent h.agent (some ⟨ag, none⟩) }

section Close

variable {h : Holding b} {st : TaskState} {ag : LogicalAgentState}

@[simp, grind =] theorem close_task (t : TaskId) : (b.close h st ag).task t =
    if t = h.task then some { h.taskView with state := st, current := none } else b.task t :=
  Function.update_apply ..

@[simp, grind =] theorem close_attempt (a : AttemptId) : (b.close h st ag).attempt a =
    if a = h.attempt then some { h.attemptView with active := false } else b.attempt a :=
  Function.update_apply ..

@[simp, grind =] theorem close_lease (l : LeaseId) : (b.close h st ag).lease l =
    if l = h.lease then some { h.leaseView with active := false } else b.lease l :=
  Function.update_apply ..

@[simp, grind =] theorem close_agent (g : LogicalAgentId) : (b.close h st ag).agent g =
    if g = h.agent then some ⟨ag, none⟩ else b.agent g :=
  Function.update_apply ..

end Close

/-- Only the authority of a claim is closed; its task and its agent do not know yet. -/
def revoke (b : Board) (h : Holding b) : Board :=
  { b with
    attempt := Function.update b.attempt h.attempt (some { h.attemptView with active := false })
    lease := Function.update b.lease h.lease (some { h.leaseView with active := false }) }

/-- Open an escalation. -/
def raise (b : Board) (e : EscalationId) (x : EscalationView) : Board :=
  { b with escalation := Function.update b.escalation e (some x) }

@[simp, grind =] theorem raise_task (e : EscalationId) (x : EscalationView) :
    (b.raise e x).task = b.task := rfl

@[simp, grind =] theorem raise_agent (e : EscalationId) (x : EscalationView) :
    (b.raise e x).agent = b.agent := rfl

@[simp, grind =] theorem raise_escalation (e e' : EscalationId) (x : EscalationView) :
    (b.raise e x).escalation e' = if e' = e then some x else b.escalation e' :=
  Function.update_apply ..

/-- Store a result. -/
def store (b : Board) (r : ResultId) (y : ResultView) : Board :=
  { b with result := Function.update b.result r (some y) }

@[simp, grind =] theorem store_task (r : ResultId) (y : ResultView) :
    (b.store r y).task = b.task := rfl

@[simp, grind =] theorem store_attempt (r : ResultId) (y : ResultView) :
    (b.store r y).attempt = b.attempt := rfl

@[simp, grind =] theorem store_result (r r' : ResultId) (y : ResultView) :
    (b.store r y).result r' = if r' = r then some y else b.result r' :=
  Function.update_apply ..

/-- The escalation of a held claim. -/
def Holding.escalation (h : Holding b) (tag : EscalationTag) : EscalationView where
  task := h.task
  batch := h.taskView.batch
  agent := some h.agent
  tag := tag
  isOpen := true

/-- The claim of task `t` by agent `g` with a new attempt and a new lease. -/
def claim (b : Board) (t : TaskId) (v : TaskView) (a : AttemptId) (l : LeaseId)
    (g : LogicalAgentId) : Board :=
  { b with
    task := Function.update b.task t
      (some { v with state := .leased, current := some a, fencing := v.fencing + 1 })
    attempt := Function.update b.attempt a (some ⟨t, g, v.fencing + 1, true⟩)
    lease := Function.update b.lease l (some ⟨t, a, v.fencing + 1, true⟩)
    agent := Function.update b.agent g (some ⟨.assigned, some t⟩) }

section Claim

variable {t : TaskId} {v : TaskView} {a : AttemptId} {l : LeaseId} {g : LogicalAgentId}

@[simp, grind =] theorem claim_task (t' : TaskId) : (b.claim t v a l g).task t' = if t' = t then
    some { v with state := .leased, current := some a, fencing := v.fencing + 1 }
    else b.task t' :=
  Function.update_apply ..

@[simp, grind =] theorem claim_attempt (a' : AttemptId) : (b.claim t v a l g).attempt a' =
    if a' = a then some ⟨t, g, v.fencing + 1, true⟩ else b.attempt a' :=
  Function.update_apply ..

@[simp, grind =] theorem claim_lease (l' : LeaseId) : (b.claim t v a l g).lease l' =
    if l' = l then some ⟨t, a, v.fencing + 1, true⟩ else b.lease l' :=
  Function.update_apply ..

@[simp, grind =] theorem claim_agent (g' : LogicalAgentId) : (b.claim t v a l g).agent g' =
    if g' = g then some ⟨.assigned, some t⟩ else b.agent g' :=
  Function.update_apply ..

end Claim

/-! ## Moves that touch no claim -/

/-- How an agent may move without a claim changing hands; `O` are the agents under obligation. -/
structure AgentMove (O : LogicalAgentId → Prop) (g : LogicalAgentId) (u u' : AgentView) : Prop where
  current : u'.current = u.current
  holds : u.current.isSome = true → u.state.holds = true → u'.state.holds = true
  idle : u.current = none → u.state ≠ .assigned → u'.state ≠ .assigned
  fenced : O g → u.state.fenced = true → u'.state.fenced = true

theorem AgentMove.refl {O : LogicalAgentId → Prop} {g : LogicalAgentId} (u : AgentView) :
    AgentMove O g u u :=
  ⟨rfl, fun _ h => h, fun _ h => h, fun _ h => h⟩

theorem AgentMove.trans {O : LogicalAgentId → Prop} {g : LogicalAgentId} {u u' u'' : AgentView}
    (h : AgentMove O g u u') (h' : AgentMove O g u' u'') : AgentMove O g u u'' where
  current := h'.current.trans h.current
  holds hc hs := h'.holds (by rwa [h.current]) (h.holds hc hs)
  idle hc hs := h'.idle (h.current.trans hc) (h.idle hc hs)
  fenced hO hf := h'.fenced hO (h.fenced hO hf)

/-- Agents move and new ones are born without a task. -/
structure AgentsMove (O : LogicalAgentId → Prop) (ag ag' : LogicalAgentId → Option AgentView) :
    Prop where
  move : ∀ g u, ag g = some u → ∃ u', ag' g = some u' ∧ AgentMove O g u u'
  born : ∀ g u', ag g = none → ag' g = some u' → u'.current = none ∧ u'.state ≠ .assigned

namespace AgentsMove

variable {O : LogicalAgentId → Prop} {ag ag' ag'' : LogicalAgentId → Option AgentView}

theorem refl (ag : LogicalAgentId → Option AgentView) : AgentsMove O ag ag where
  move _ u hu := ⟨u, hu, .refl u⟩
  born _ _ hnone hu' := by
    rw [hnone] at hu'
    cases hu'

theorem trans (h : AgentsMove O ag ag') (h' : AgentsMove O ag' ag'') : AgentsMove O ag ag'' where
  move g u hu := by
    obtain ⟨u', hu', hmove⟩ := h.move g u hu
    obtain ⟨u'', hu'', hmove'⟩ := h'.move g u' hu'
    exact ⟨u'', hu'', hmove.trans hmove'⟩
  born g u'' hnone hu'' := by
    cases hu' : ag' g with
    | none => exact h'.born g u'' hu' hu''
    | some u' =>
      obtain ⟨hc, hs⟩ := h.born g u' hnone hu'
      obtain ⟨u₂, hu₂, hmove⟩ := h'.move g u' hu'
      cases hu''.symm.trans hu₂
      exact ⟨hmove.current.trans hc, hmove.idle hc hs⟩

/-- One agent moves. -/
theorem update {g : LogicalAgentId} {u u' : AgentView} (hu : ag g = some u)
    (hmove : AgentMove O g u u') : AgentsMove O ag (Function.update ag g (some u')) where
  move g' w hw := by
    rw [Function.update_apply]
    split
    · rename_i heq
      subst heq
      rw [hu] at hw
      obtain rfl := Option.some.inj hw
      exact ⟨u', rfl, hmove⟩
    · exact ⟨w, hw, .refl w⟩
  born g' w hnone hw := by
    have hne : g' ≠ g := by
      rintro rfl
      rw [hu] at hnone
      cases hnone
    rw [Function.update_apply, if_neg hne, hnone] at hw
    cases hw

/-- An agent is born. -/
theorem birth {g : LogicalAgentId} (hnone : ag g = none) :
    AgentsMove O ag (Function.update ag g (some ⟨.ready, none⟩)) where
  move g' w hw := by
    have hne : g' ≠ g := by
      rintro rfl
      rw [hnone] at hw
      cases hw
    exact ⟨w, by rw [Function.update_apply, if_neg hne, hw], .refl w⟩
  born g' w hnone' hw := by
    rw [Function.update_apply] at hw
    split at hw
    · obtain rfl := Option.some.inj hw
      exact ⟨rfl, LogicalAgentState.noConfusion⟩
    · rw [hnone'] at hw
      cases hw

end AgentsMove

structure TasksMove (ts ts' : TaskId → Option TaskView) : Prop where
  move : ∀ t v, ts t = some v → ∃ st, ts' t = some { v with state := st } ∧
    TaskState.advances v.state st = true
  absent : ∀ t, ts t = none → ts' t = none

/-- The blocked tasks of a batch whose parents are all completed become queued. -/
structure Wakes (b : Board) (batch : BatchId) (ts' : TaskId → Option TaskView) : Prop where
  move : ∀ t v, b.task t = some v → ts' t = some v ∨
    (v.state = .blocked ∧ (∀ p, b.depends t p → b.Completed p) ∧
      ts' t = some { v with state := .queued })
  absent : ∀ t, b.task t = none → ts' t = none
  none_lost : ∀ t v, b.task t = some v → v.batch = batch → v.state = .blocked →
    (∀ p, b.depends t p → b.Completed p) → ts' t = some { v with state := .queued }

/-- New tasks with their dependencies. -/
structure Submission (b : Board) (N : TaskId → Option TaskView) (D : TaskId → TaskId → Prop) :
    Prop where
  fresh : ∀ t v, N t = some v → b.task t = none
  unclaimed : ∀ t v, N t = some v → v.current = none
  state : ∀ t v, N t = some v → v.state = .queued ∧ (∀ p, ¬ D t p) ∨ v.state = .blocked ∧ ∃ p, D t p
  local_ : ∀ t p, D t p → ∃ v w, N t = some v ∧ N p = some w ∧ v.batch = w.batch
  acyclic : ∀ t, ¬ Relation.TransGen D t t

/-- Tasks without a claim are cancelled, and with them the decisions that waited for them. A
    writer-safety obligation stays open. -/
structure Cancellation (b : Board) (ts' : TaskId → Option TaskView)
    (es' : EscalationId → Option EscalationView) : Prop where
  task : ∀ t v, b.task t = some v → ts' t = some v ∨
    (v.current = none ∧ v.state.isTerminal = false ∧ ts' t = some { v with state := .cancelled })
  task_absent : ∀ t, b.task t = none → ts' t = none
  escalation : ∀ e x, b.escalation e = some x → es' e = some x ∨
    (x.tag ≠ writerUnknown ∧ (∃ v, ts' x.task = some v ∧ v.state = .cancelled) ∧
      es' e = some { x with isOpen := false })
  escalation_absent : ∀ e, b.escalation e = none → es' e = none

/-- Close an escalation. -/
def decide (b : Board) (e : EscalationId) (x : EscalationView) : Board :=
  { b with escalation := Function.update b.escalation e (some { x with isOpen := false }) }

end Board

/-! ## Transitions -/

open Board in
/-- One transition of the scheduler. -/
inductive Step (b : Board) : Board → Prop
  /-- Topology and revival move agents that hold no task. -/
  | agents {ag'} (h : AgentsMove b.Obligated b.agent ag') : Step b { b with agent := ag' }
  /-- A claimed task starts running, a waiting one becomes eligible. -/
  | tasks {ts'} (h : TasksMove b.task ts') : Step b { b with task := ts' }
  | submit {N D} (h : Submission b N D) :
      Step b { b with task := fun t => (N t).or (b.task t)
                      depends := fun t p => b.depends t p ∨ D t p }
  | claim {t v a l g u} (ht : b.task t = some v) (hq : v.state = .queued)
      (hg : b.agent g = some u) (hr : u.state = .ready) (hi : u.current = none)
      (ha : b.attempt a = none) (hl : b.lease l = none) :
      Step b (b.claim t v a l g)
  /-- The claim failed and its task will be claimed again. -/
  | requeue (h : Holding b) {st ag} (hst : st = .queued ∨ st = .retryWait)
      (hag : ag.released = true) : Step b (b.close h st ag)
  | complete (h : Holding b) {ag r ts'} (hag : ag.released = true) (hr : b.result r = none)
      (hw : Wakes ((b.close h .completed ag).store r ⟨h.task, h.attempt⟩) h.taskView.batch ts') :
      Step b { (b.close h .completed ag).store r ⟨h.task, h.attempt⟩ with task := ts' }
  | suspend (h : Holding b) {ag e tag} (hag : ag.released = true) (he : b.escalation e = none)
      (htag : tag = writerUnknown → ag = .suspended) :
      Step b ((b.close h .suspended ag).raise e (h.escalation tag))
  | cancel (h : Holding b) {ag} (hag : ag.released = true) : Step b (b.close h .cancelled ag)
  /-- The cancelled claim leaves a writer behind that may still run. -/
  | cancelObliged (h : Holding b) {e} (he : b.escalation e = none) :
      Step b ((b.close h .cancelled .suspended).raise e (h.escalation writerUnknown))
  | cancelIdle {ts' es'} (h : Cancellation b ts' es') :
      Step b { b with task := ts', escalation := es' }
  /-- The root decides an escalation. -/
  | resolve {e x v st ag'} (he : b.escalation e = some x) (ho : x.isOpen = true)
      (ht : b.task x.task = some v)
      (hst : v.state = .suspended ∧ st = .queued ∨ v.state = .cancelled ∧ st = .cancelled ∨
        v.state = .suspended ∧ st = .cancelled)
      (hag : AgentsMove (b.decide e x).Obligated b.agent ag') :
      Step b { b.decide e x with
        task := Function.update b.task x.task (some { v with state := st }), agent := ag' }

end Agentype

import Agentype.Lib.Total
import Agentype.Kernel.Footprint

/-!
# `Agentype.Kernel.Reads` — what the shared reads of the kernel return

The execution and the lease of an attempt are found by unique columns, so a search and a lookup
agree; the authority fence returns the rows it compared.

## Contents
- `executionOfAttempt_eq_some`, `leaseOfAttempt_eq_some`: search against lookup.
- `executionForAttempt_runs`, `executionOfClaim_runs`, `requiredExecution_runs`: a supplied identity
  changes nothing about which row an operation works on.
- `Authorized s a e now r`: the rows `r` behind a claim that passes the fence at `now`;
  `validateAuthorityTx_ok` says that the fence accepts exactly these.
- `commitPartitionCutover_runs`: what a committed cutover has checked and written.
- `ClaimEffect`, `claimSelected_runs`, `claimNextAvailable_runs`, `finishAcquisition_runs`, `acquireTypedTaskNewAgent_runs`: grants.
- `Confirmation`, `heartbeat_runs`, `renewSupervisedExecutionGuarded_runs`: renewals.
-/

namespace Agentype

open Relational Tx Store

variable {env : Env} {s s' : Store}
variable {a : AttemptId} {x : ExecutionId} {β α : Type} {kind : String} {b : β}
  {e : LeaseEpoch} {r : ClaimRecords}

/-! ## Searches by unique columns -/

theorem executionOfAttempt_eq_some {e : ExecutionRow} :
    s.executionOfAttempt a = some (x, e) ↔ s.executions.lookup x = some e ∧ e.attemptId = a := by
  unfold executionOfAttempt
  rw [Table.find?_rows_eq_some, decide_eq_true_eq]
  intro k r k' r' hk hk' hp hp'
  by_contra hne
  have hc := Table.clash_of_lookup hk hk' hne
  simp only [decide_eq_true_eq] at hp hp'
  simp [executionSchema, hp, hp'] at hc

theorem leaseOfAttempt_eq_some {l : LeaseId} {r : LeaseRow} :
    s.leaseOfAttempt a = some (l, r) ↔ s.leases.lookup l = some r ∧ r.attemptId = a := by
  unfold leaseOfAttempt
  rw [Table.find?_rows_eq_some, decide_eq_true_eq]
  intro k r k' r' hk hk' hp hp'
  by_contra hne
  have hc := Table.clash_of_lookup hk hk' hne
  simp only [decide_eq_true_eq] at hp hp'
  simp [leaseSchema, hp, hp'] at hc

/-! ## The execution an operation works on -/

/-- A fresh identifier leaves the store alone. -/
theorem newId_bind {f : String → KernelTx β} (h : Runs env (newId kind >>= f) s b s') :
    ∃ n, Runs env (f (kind ++ "_" ++ env.uuid n)) s b s' := by
  obtain ⟨id, s₁, h₁, h₂⟩ := h.bind
  unfold newId at h₁
  obtain ⟨n, h₁⟩ := h₁.ask_bind.mint_bind
  obtain ⟨rfl, rfl⟩ := h₁.pure
  exact ⟨n, h₂⟩

/-- A JSON column that is read was parsed. -/
theorem jsonLoad_bind {v : JsonValue} {f : JsonValue → KernelTx β}
    (h : Runs env (jsonLoad v >>= f) s b s') :
    ∃ w, env.parseJson v = .ok w ∧ Runs env (f w) s b s' := by
  obtain ⟨w, s₁, h₁, h₂⟩ := h.bind
  unfold jsonLoad at h₁
  obtain ⟨hw, rfl⟩ := h₁.ask_bind.examine
  exact ⟨w, Check.mapError_ok.mp hw, h₂⟩

theorem jsonLoad_ensures {v w : JsonValue} {n : Nat} {Q : JsonValue → Store → Nat → Prop}
    (hw : env.parseJson v = .ok w) (h : Q w s n) : Ensures env (jsonLoad v) s n Q :=
  .bind (.ask (.examine (Check.mapError_ok.mpr hw) h))

theorem newId_ensures {n : Nat} {Q : String → Store → Nat → Prop}
    (h : Q (kind ++ "_" ++ env.uuid n) s (n + 1)) : Ensures env (newId kind) s n Q := by
  unfold newId
  exact .bind (.ask (.bind (.mint (.pure h))))

theorem newId_ensures_bind {f : String → KernelTx β} {n : Nat} {Q : β → Store → Nat → Prop}
    (h : Ensures env (newId kind >>= f) s n Q) :
    Ensures env (f (kind ++ "_" ++ env.uuid n)) s (n + 1) Q := h

/-- With or without a supplied identity, an operation works on the one execution of its attempt. -/
theorem executionForAttempt_runs {x : Option ExecutionId} {ex : Option (ExecutionId × ExecutionRow)}
    (h : Runs env (executionForAttempt a x) s ex s') : ex = s.executionOfAttempt a ∧ s' = s := by
  unfold executionForAttempt at h
  cases x with
  | none => exact h.query
  | some id =>
    obtain ⟨row, hrow, h⟩ := h.fetch_bind
    obtain ⟨ha, h⟩ := h.require_bind
    obtain ⟨rfl, rfl⟩ := h.pure
    exact ⟨(executionOfAttempt_eq_some.mpr ⟨hrow, of_decide_eq_true ha⟩).symm, rfl⟩

theorem executionOfClaim_runs {e : ExecutionRow} (h : Runs env (executionOfClaim a x) s e s') :
    s.executionOfAttempt a = some (x, e) ∧ s' = s := by
  unfold executionOfClaim at h
  obtain ⟨row, hrow, h⟩ := h.fetch_bind
  obtain ⟨ha, h⟩ := h.require_bind
  obtain ⟨rfl, rfl⟩ := h.pure
  exact ⟨executionOfAttempt_eq_some.mpr ⟨hrow, of_decide_eq_true ha⟩, rfl⟩

theorem executionForAttempt_bind {x : Option ExecutionId}
    {f : Option (ExecutionId × ExecutionRow) → KernelTx β}
    (h : Runs env (executionForAttempt a x >>= f) s b s') :
    Runs env (f (s.executionOfAttempt a)) s b s' := by
  obtain ⟨ex, s₁, hx, hf⟩ := h.bind
  obtain ⟨rfl, rfl⟩ := executionForAttempt_runs hx
  exact hf

theorem executionOfClaim_bind {f : ExecutionRow → KernelTx β}
    (h : Runs env (executionOfClaim a x >>= f) s b s') :
    ∃ e, s.executionOfAttempt a = some (x, e) ∧ Runs env (f e) s b s' := by
  obtain ⟨e, s₁, hx, hf⟩ := h.bind
  obtain ⟨he, rfl⟩ := executionOfClaim_runs hx
  exact ⟨e, he, hf⟩

/-! ## The authority fence -/

/-- The claim `(a, e)` passes the authority fence at `now`, and `r` are its rows. -/
structure Authorized (s : Store) (a : AttemptId) (e : LeaseEpoch) (now : UnixTime)
    (r : ClaimRecords) : Prop where
  attempt : s.attempts.lookup a = some r.attempt
  task : s.tasks.lookup r.attempt.taskId = some r.task
  lease : s.leaseOfAttempt a = some (r.leaseId, r.lease)
  attemptActive : r.attempt.state = .active
  leaseActive : r.lease.state = .active
  attemptEpoch : r.attempt.leaseEpoch = e
  leaseEpoch : r.lease.epoch = e
  current : r.task.currentAttemptId = some a
  fencing : r.task.fencingEpoch = e
  unexpired : now < r.lease.expiresAt
  unfaulted : s.preparationFaults.lookup a = none

theorem orError_ok {err : Error} {o : Option α} {x : α} : orError err o = .ok x ↔ o = some x := by
  cases o <;> simp [orError]

/-- **The fence accepts exactly the authorized claims.** -/
theorem validateAuthorityTx_ok {now : UnixTime} :
    s.validateAuthorityTx a e now = .ok r ↔ Authorized s a e now r := by
  unfold Store.validateAuthorityTx validateClaimTx
  simp only [Check.bind_ok, orError_ok]
  constructor
  · rintro ⟨r', ⟨attempt, ha, task, ht, lease, hl, u, hv, hr'⟩, hr⟩
    have hv' := validateAuthority_ok.mp hv
    obtain ⟨⟨h₁, h₂, h₃, h₄, h₅⟩, h₆⟩ := And.imp_left validateClaimOwnership_ok.mp hv'
    split at hr'
    · cases hr'
    · rename_i hepoch
      cases hr'
      split at hr
      · cases hr
      · rename_i hfault
        cases hr
        exact ⟨ha, ht, hl, h₁, h₂, h₃, not_not.mp hepoch, h₄, h₅, h₆,
          Option.not_isSome_iff_eq_none.mp hfault⟩
  · intro h
    refine ⟨r, ⟨r.attempt, h.attempt, r.task, h.task, (r.leaseId, r.lease), h.lease, (), ?_, ?_⟩, ?_⟩
    · exact validateAuthority_ok.mpr ⟨validateClaimOwnership_ok.mpr
        ⟨h.attemptActive, h.leaseActive, h.attemptEpoch, h.current, h.fencing⟩, h.unexpired⟩
    · rw [if_neg (not_not.mpr h.leaseEpoch)]
    · rw [h.unfaulted]
      rfl

theorem validateAuthorityTx_runs (h : Runs env (validateAuthorityTx a e) s r s') :
    Authorized s a e env.now r ∧ s' = s := by
  obtain h := Tx.Runs.ask_bind h
  obtain ⟨hr, rfl⟩ := h.examine
  exact ⟨validateAuthorityTx_ok.mp hr, rfl⟩

theorem validateAuthorityTx_bind {f : ClaimRecords → KernelTx β}
    (h : Runs env (validateAuthorityTx a e >>= f) s b s') :
    ∃ r, Authorized s a e env.now r ∧ Runs env (f r) s b s' := by
  obtain ⟨r, s₁, hv, hf⟩ := h.bind
  obtain ⟨hr, rfl⟩ := validateAuthorityTx_runs hv
  exact ⟨r, hr, hf⟩

/-- The claim `(a, e)` owns its task, whatever the clock says; `r` are its rows. -/
structure Owned (s : Store) (a : AttemptId) (e : LeaseEpoch) (r : ClaimRecords) : Prop where
  attempt : s.attempts.lookup a = some r.attempt
  task : s.tasks.lookup r.attempt.taskId = some r.task
  lease : s.leaseOfAttempt a = some (r.leaseId, r.lease)
  attemptActive : r.attempt.state = .active
  leaseActive : r.lease.state = .active
  attemptEpoch : r.attempt.leaseEpoch = e
  leaseEpoch : r.lease.epoch = e
  current : r.task.currentAttemptId = some a
  fencing : r.task.fencingEpoch = e

/-- Without a clock the fence asks for ownership only. -/
theorem validateClaimTx_none_ok : s.validateClaimTx a e none = .ok r ↔ Owned s a e r := by
  unfold validateClaimTx
  simp only [Check.bind_ok, orError_ok]
  constructor
  · rintro ⟨attempt, ha, task, ht, lease, hl, u, hv, hr⟩
    obtain ⟨h₁, h₂, h₃, h₄, h₅⟩ := validateClaimOwnership_ok.mp hv
    split at hr
    · cases hr
    · rename_i hepoch
      cases hr
      exact ⟨ha, ht, hl, h₁, h₂, h₃, not_not.mp hepoch, h₄, h₅⟩
  · intro h
    refine ⟨r.attempt, h.attempt, r.task, h.task, (r.leaseId, r.lease), h.lease, (), ?_, ?_⟩
    · exact validateClaimOwnership_ok.mpr
        ⟨h.attemptActive, h.leaseActive, h.attemptEpoch, h.current, h.fencing⟩
    · rw [if_neg (not_not.mpr h.leaseEpoch)]

/-! ## Cutovers -/

/-- **Cutover.** A committed cutover has checked that the agent has no active attempt; it fences
    the hosts of other execution targets and moves the agent. -/
theorem commitPartitionCutover_runs {g : LogicalAgentId} {agent : AgentRow} {p : PartitionId}
    {target : PartitionId × PartitionRow}
    (h : Runs env (commitPartitionCutover g agent p) s target s') :
    s.hasActiveAttempt g = false ∧ s.canonicalPartition p = .ok target ∧ ∃ s₁,
      Runs env (loseIncarnations g fun i => i.executionTarget ≠ target.2.executionTarget) s () s₁ ∧
      Runs env (updateAgent g fun a =>
        { a with partition := target.1, retention := target.2.retention,
                 pendingPartition := none, retirementRequested := false }) s₁ () s' := by
  unfold commitPartitionCutover at h
  obtain ⟨plan, s₁, h₁, h⟩ := h.bind
  unfold planCutover at h₁
  obtain ⟨found, hfound, h₁⟩ := h₁.ask_bind.examine_bind
  obtain ⟨_, -, h₁⟩ := h₁.query_bind.examine_bind
  obtain ⟨rfl, rfl⟩ := h₁.pure
  split at h
  · exact h.fail.elim
  · exact h.fail.elim
  · exact h.fail.elim
  rename_i hcommit
  obtain ⟨_, s₂, h₂, h⟩ := h.bind
  obtain ⟨_, s₃, h₃, h⟩ := h.bind
  obtain ⟨rfl, rfl⟩ := h.pure
  refine ⟨Bool.eq_false_iff.mpr fun hactive => ?_, hfound, s₂, h₂, h₃⟩
  simp [partitionCutoverPlan, hactive] at hcommit

/-! ## Grants -/

section Grants

variable {t : TaskId} {g : LogicalAgentId} {sel : ProvisioningSelection}
  {typeVerdict contract : Except Error Unit} {q : TypedAcquisition}

/-- **A claim proper**: a fresh attempt and a fresh lease, the queued task leased to them and the ready
    agent assigned to the task. -/
structure ClaimEffect (env : Env) (g : LogicalAgentId) (p : PartitionId) (prow : PartitionRow)
    (t : TaskId) (task : TaskRow) (s : Store) (c : Claim) (s' : Store) : Prop where
  names : c.taskId = t ∧ c.logicalAgentId = g ∧ c.leaseEpoch = task.fencingEpoch + 1
  payload : env.parseJson task.payload = .ok c.payload
  acceptance : env.parseJson task.acceptance = .ok c.acceptance
  attempts : s.attempts.insert c.attemptId
    (claimedAttempt g p prow t task (s.attemptCount t + 1)) = some s'.attempts
  leases : s.leases.insert c.leaseId (claimedLease env t c.attemptId task) = some s'.leases
  tasks : s.tasks.update (fun k r => decide (k = t) && decide (r.state = .queued))
    (leasedTask task c.attemptId) = some s'.tasks
  agents : s.logicalAgents.update (fun k a => decide (k = g) && decide (a.state = .ready))
    (assignedAgent t task) = some s'.logicalAgents
  rest : s' = { s with attempts := s'.attempts, leases := s'.leases, tasks := s'.tasks,
                       logicalAgents := s'.logicalAgents }

theorem claimSelected_runs {p : PartitionId} {prow : PartitionRow} {task : TaskRow} {c : Claim}
    (h : Runs env (claimSelected g p prow t task) s c s') :
    ClaimEffect env g p prow t task s c s' := by
  unfold claimSelected at h
  obtain ⟨_, h⟩ := newId_bind h.ask_bind.query_bind
  obtain ⟨_, h⟩ := newId_bind h
  obtain ⟨_, hattempts, h⟩ := h.insertInto_bind
  obtain ⟨_, hleases, h⟩ := h.insertInto_bind
  obtain ⟨_, htasks, h⟩ := h.query_bind.updateIn_bind
  obtain ⟨-, h⟩ := h.require_bind
  obtain ⟨_, hagents, h⟩ := h.updateIn_bind
  obtain ⟨_, hpayload, h⟩ := jsonLoad_bind h
  obtain ⟨_, hacceptance, h⟩ := jsonLoad_bind h
  obtain ⟨rfl, rfl⟩ := h.pure
  exact ⟨⟨rfl, rfl, rfl⟩, hpayload, hacceptance, hattempts, hleases, htasks, hagents, rfl⟩

/-- A legacy claim is for what was selected. -/
theorem claimNextAvailable_runs {c : Option Claim} (h : Runs env claimNextAvailable s c s') :
    (c = none ∧ s' = s ∧ s.selectClaim env.now = none) ∨ ∃ t task g prow claim,
      c = some claim ∧ s.selectClaim env.now = some (t, task, g) ∧
      Runs env (claimSelected g task.partition prow t task) s claim s' := by
  unfold claimNextAvailable at h
  have h := h.ask_bind.query_bind
  split at h
  · rename_i hnone
    obtain ⟨rfl, rfl⟩ := h.pure
    exact .inl ⟨rfl, rfl, hnone⟩
  · rename_i hsel
    obtain ⟨prow, -, h⟩ := h.fetch_bind
    obtain ⟨claim, s₁, h₁, h⟩ := h.bind
    obtain ⟨rfl, rfl⟩ := h.pure
    exact .inr ⟨_, _, _, prow, claim, rfl, hsel, h₁⟩

/-- An acquisition of a queued task by a ready idle agent hosts the agent, then claims. -/
theorem finishAcquisition_runs (h : Runs env (finishAcquisition t g sel contract) s q s') :
    ∃ task agent prow ref i b s₁ s₂, s.tasks.lookup t = some task ∧ task.state = .queued ∧
      s.logicalAgents.lookup g = some agent ∧ agent.state = .ready ∧ agent.currentTaskId = none ∧
      Runs env (resolveIncarnation g prow.executionTarget ref sel) s i s₁ ∧
      Runs env (provisionIncarnation g i.1 ref sel i.2) s₁ b s₂ ∧
      Runs env (claimSelected g task.partition prow t task) s₂ q.claim s' := by
  unfold finishAcquisition at h
  obtain ⟨task, htask, h⟩ := h.ask_bind.fetch_bind
  obtain ⟨batch, -, h⟩ := h.fetch_bind
  obtain ⟨home, -, h⟩ := h.fetch_bind
  obtain ⟨hready, h⟩ := h.require_bind
  obtain ⟨-, h⟩ := h.require_bind
  obtain ⟨requirement, -, h⟩ := h.examine_bind
  obtain ⟨required, -, h⟩ := h.orFail_bind
  obtain ⟨agent, hagent, h⟩ := h.fetch_bind
  obtain ⟨hidle, h⟩ := h.require_bind
  obtain ⟨binding, -, h⟩ := h.examine_bind
  obtain ⟨bound, -, h⟩ := h.orFail_bind
  obtain ⟨-, h⟩ := h.require_bind
  obtain ⟨-, h⟩ := h.require_bind
  obtain ⟨_, -, h⟩ := h.examine_bind
  obtain ⟨prow, -, h⟩ := h.fetch_bind
  obtain ⟨i, s₁, h₁, h⟩ := h.bind
  obtain ⟨b, s₂, h₂, h⟩ := h.bind
  obtain ⟨claim, s₃, h₃, h⟩ := h.bind
  obtain ⟨rfl, rfl⟩ := h.pure
  unfold claimTaskReady at hready
  simp only [Bool.and_eq_true, decide_eq_true_eq, Option.isNone_iff_eq_none] at hready hidle
  exact ⟨task, agent, prow, bound, i, b, s₁, s₂, htask, hready.1.1.1, hagent, hidle.1, hidle.2,
    h₁, h₂, h₃⟩

/-- With a new agent: its birth and its type come first. -/
theorem acquireTypedTaskNewAgent_runs
    (h : Runs env (acquireTypedTaskNewAgent t sel typeVerdict contract) s q s') :
    ∃ p w tags ref g s₁ s₂, Runs env (birthAgent p w tags) s g s₁ ∧
      Runs env (bindLogicalAgentType g ref typeVerdict) s₁ () s₂ ∧
      Runs env (finishAcquisition t g sel contract) s₂ q s' := by
  unfold acquireTypedTaskNewAgent at h
  obtain ⟨task, -, h⟩ := h.fetch_bind
  obtain ⟨requirement, -, h⟩ := h.examine_bind
  obtain ⟨required, -, h⟩ := h.orFail_bind
  obtain ⟨g, s₁, h₁, h⟩ := h.bind
  obtain ⟨_, s₂, h₂, h⟩ := h.bind
  exact ⟨_, _, _, required, g, s₁, s₂, h₁, h₂, h⟩

end Grants

/-! ## Renewals -/

section Renewals

variable {handle : JsonValue} {row : ExecutionRow} {s₁ s₂ s₃ : Store} {t : UnixTime}

/-- **A confirmation**, statement by statement. -/
structure Confirmation (env : Env) (s s' : Store) (a : AttemptId) (e : LeaseEpoch) (x : ExecutionId)
    (handle : JsonValue) (r : ClaimRecords) (row : ExecutionRow) (s₁ s₂ s₃ : Store) (t : UnixTime) :
    Prop where
  authorized : Authorized s a e env.now r
  execution : s.executions.lookup x = some row
  own : row.attemptId = a
  active : row.state.isActivePhysical = true
  confirmed : Runs env (updateExecution x fun e =>
    { e with state := .running, runtimeHandle := handle }) s () s₁
  started : Runs env (updateIn tasksT constraintViolation (fun k t =>
    decide (k = r.attempt.taskId) && decide (t.currentAttemptId = some a))
    fun t => { t with state := .running }) s₁ () s₂
  warmed : Runs env (warmIncarnation r.attempt.incarnationId handle) s₂ () s₃
  renewed : Runs env (renewLease r.leaseId fun l =>
    decide (l.state = .active) && decide (env.now < l.expiresAt)) s₃ t s'

theorem confirmRunningAndRenew_runs {g : RunningAuthorityGrant}
    (h : Runs env (confirmRunningAndRenew a e x handle) s g s') : ∃ r row s₁ s₂ s₃ t,
      Confirmation env s s' a e x handle r row s₁ s₂ s₃ t ∧
        g = ⟨x, row.requestId, a, r.lease.epoch, env.now, t⟩ := by
  unfold confirmRunningAndRenew at h
  obtain ⟨r, hauth, h⟩ := validateAuthorityTx_bind h.ask_bind
  obtain ⟨row, hrow, h⟩ := executionOfClaim_bind h
  obtain ⟨hrow, hown⟩ := executionOfAttempt_eq_some.mp hrow
  obtain ⟨hactive, h⟩ := h.require_bind
  obtain ⟨_, s₁, h₁, h⟩ := h.bind
  obtain ⟨_, s₂, h₂, h⟩ := h.bind
  obtain ⟨_, s₃, h₃, h⟩ := h.bind
  obtain ⟨t, s₄, h₄, h⟩ := h.query_bind.bind
  obtain ⟨-, h⟩ := h.require_bind
  obtain ⟨rfl, rfl⟩ := h.pure
  exact ⟨r, row, s₁, s₂, s₃, t, ⟨hauth, hrow, hown, hactive, h₁, h₂, h₃, h₄⟩, rfl⟩

theorem heartbeat_runs (h : Runs env (heartbeat a e) s t s') : ∃ r, Authorized s a e env.now r ∧
    Runs env (renewLease r.leaseId fun _ => true) s t s' := by
  unfold heartbeat at h
  obtain ⟨r, hauth, h⟩ := validateAuthorityTx_bind h
  obtain ⟨_, h⟩ := h.query_bind.require_bind
  exact ⟨r, hauth, h⟩

theorem renewSupervisedExecutionGuarded_runs {fresh : UnixTime} {out : SupervisedRenewal}
    (h : Runs env (renewSupervisedExecutionGuarded a e x fresh) s out s') :
    (s' = s ∧ ∀ t, out ≠ .renewed t) ∨ ∃ r t, out = .renewed t ∧ Authorized s a e env.now r ∧
      Runs env (renewLease r.leaseId fun _ => true) s t s' := by
  unfold renewSupervisedExecutionGuarded renewFresh renewRunning at h
  replace h := h.ask_bind
  split at h
  · obtain ⟨rfl, rfl⟩ := h.pure
    exact .inl ⟨rfl, fun _ => nofun⟩
  obtain ⟨r, hauth, h⟩ := validateAuthorityTx_bind h
  obtain ⟨row, -, h⟩ := executionOfClaim_bind h
  split at h
  · obtain ⟨t, s₁, h₁, h⟩ := h.bind
    obtain ⟨rfl, rfl⟩ := h.pure
    exact .inr ⟨r, t, rfl, hauth, h₁⟩
  · obtain ⟨rfl, rfl⟩ := h.pure
    exact .inl ⟨rfl, fun _ => nofun⟩

end Renewals

/-! ## Running for an effect -/

/-- Running a transaction for its effect is running it. -/
theorem runs_of_effect {x : KernelTx α} {u : Unit} (h : Runs env (effect x) s u s') :
    ∃ a, Runs env x s a s' := by
  obtain ⟨a, s₁, hx, h⟩ := Tx.Runs.bind h
  obtain ⟨-, rfl⟩ := h.pure
  exact ⟨a, hx⟩

theorem runs_effect {x : KernelTx α} {a : α} (h : Runs env x s a s') :
    Runs env (effect x) s () s' := by
  obtain ⟨n, n', h⟩ := h
  refine ⟨n, n', ?_⟩
  change (x env (s, n) >>= fun r => (pure () : KernelTx Unit) env r.2) = _
  rw [h]
  rfl

end Agentype

import Agentype.Kernel.OpFootprint
import Agentype.Kernel.Reads

/-!
# `Agentype.Physical.Launch` — how an execution starts

The commitment of an execution picks an incarnation for the attempt of a claim, links the attempt to
it and writes the row of the execution. The typed commitment does the same and adds a snapshot.

## Contents
- `Host`, `incarnationForAttempt_host`: the incarnation an attempt runs on.
- `Launch`: all that a commitment does, `createExecution_launch`,
  `createExecutionWithSnapshot_launch`.
-/

namespace Agentype

open Relational Tx Store

variable {env : Env} {s s' : Store}
variable {g : LogicalAgentId} {i : IncarnationId} {x : ExecutionId} {claim : Claim}
  {b : FrozenPhysicalExecutionBinding} {q : ExecutionLaunchSnapshot}

/-! ## Hosts -/

theorem activeIncarnation_mem {inc : IncarnationRow} (h : s.activeIncarnation g = some (i, inc)) :
    s.incarnations.lookup i = some inc ∧
      inc.logicalAgentId = g ∧ inc.state.isLivePresence = true := by
  obtain ⟨hmem, hp⟩ := List.mem_filter.mp (minBy_mem h)
  simp only [Bool.and_eq_true, decide_eq_true_eq] at hp
  exact ⟨Table.mem_rows.mp hmem, hp⟩

theorem activeIncarnation_eq_none (h : s.activeIncarnation g = none) {inc : IncarnationRow}
    (hi : s.incarnations.lookup i = some inc) (hg : inc.logicalAgentId = g) :
    inc.state.isLivePresence = false := by
  by_contra hlive
  have hmem : (i, inc) ∈ s.incarnations.rows.filter fun x =>
      decide (x.2.logicalAgentId = g) && x.2.state.isLivePresence := by
    apply List.mem_filter.mpr
    simp [Table.mem_rows.mpr hi, hg, Bool.not_eq_false _ ▸ hlive]
  unfold Store.activeIncarnation at h
  generalize s.incarnations.rows.filter _ = live at h hmem
  cases live with
  | nil => cases hmem
  | cons => cases h

/-- A new incarnation of an agent. -/
structure Born (s s' : Store) (g : LogicalAgentId) (target : String) (i : IncarnationId)
    (row : IncarnationRow) : Prop where
  fresh : s.incarnations.lookup i = none
  agent : row.logicalAgentId = g
  target : row.executionTarget = target
  state : row.state = .starting
  mode : row.provisioningMode = .legacy
  lookup : ∀ j, s'.incarnations.lookup j = if j = i then some row else s.incarnations.lookup j

theorem createNewIncarnation_born {target : String}
    (h : Runs env (createNewIncarnation g target) s i s') : ∃ row, Born s s' g target i row := by
  unfold createNewIncarnation at h
  obtain ⟨n, h⟩ := newId_bind h.query_bind
  obtain ⟨t₁, ht₁, h⟩ := h.insertInto_bind
  obtain ⟨rfl, rfl⟩ := h.pure
  obtain ⟨hnone, hlook⟩ := Table.lookup_of_insert ht₁
  refine ⟨_, hnone, ?_, ?_, ?_, ?_, hlook⟩
  all_goals rfl

/-- The incarnation an attempt runs on: the one it is linked to, the live one of its agent, or a
    new one when the agent has none. -/
inductive Host (s s' : Store) (r : AttemptRow) (i : IncarnationId) : Prop
  | linked (hlink : r.incarnationId = some i) (h : s'.incarnations = s.incarnations)
  | reused {inc : IncarnationRow} (hlink : r.incarnationId = none)
      (hinc : s.incarnations.lookup i = some inc) (hagent : inc.logicalAgentId = r.logicalAgentId)
      (htarget : inc.executionTarget = r.executionTarget)
      (hlive : inc.state.isLivePresence = true) (h : s'.incarnations = s.incarnations)
  | fresh {row : IncarnationRow} (hlink : r.incarnationId = none)
      (hidle : ∀ j inc, s.incarnations.lookup j = some inc →
        inc.logicalAgentId = r.logicalAgentId → inc.state.isLivePresence = false)
      (hborn : Born s s' r.logicalAgentId r.executionTarget i row)

theorem incarnationForAttempt_host {r : AttemptRow}
    (h : Runs env (incarnationForAttempt r) s i s') : Host s s' r i := by
  unfold incarnationForAttempt at h
  split at h
  · rename_i i' hlink
    obtain ⟨rfl, rfl⟩ := h.pure
    exact .linked hlink rfl
  · rename_i hlink
    unfold ensureIncarnation at h
    obtain ⟨agent, -, h⟩ := h.fetch_bind
    obtain ⟨-, h⟩ := h.require_bind
    have h := h.query_bind
    split at h
    · rename_i i' inc hactive
      obtain ⟨htarget, h⟩ := h.require_bind
      obtain ⟨rfl, rfl⟩ := h.pure
      obtain ⟨hinc, hagent, hlive⟩ := activeIncarnation_mem hactive
      exact .reused hlink hinc hagent (of_decide_eq_true htarget) hlive rfl
    · rename_i hnone
      obtain ⟨row, hborn⟩ := createNewIncarnation_born h
      exact .fresh hlink (fun j inc => activeIncarnation_eq_none hnone) hborn

/-! ## Commitments -/

/-- The row an `updateExecution` leaves. -/
theorem updateExecution_runs {f : ExecutionRow → ExecutionRow} {u : Unit}
    (h : Runs env (updateExecution x f) s u s') (y : ExecutionId) :
    s'.executions.lookup y =
      if y = x then (s.executions.lookup y).map f else s.executions.lookup y := by
  obtain ⟨t', ht', rfl⟩ := Tx.Runs.updateIn h
  exact Table.lookup_of_update_key ht' y

/-- **The commitment of an execution.** The claim passed the fence, the attempt is linked to an
    idle incarnation, and the new row is a starting one of that attempt on that incarnation. -/
structure Launch (env : Env) (s s' : Store) (claim : Claim) (x : ExecutionId) (r : ClaimRecords)
    (i : IncarnationId) (row : ExecutionRow) : Prop where
  authorized : Authorized s claim.attemptId claim.leaseEpoch env.now r
  host : Host s s' r.attempt i
  idle : s.incarnationBusy i = false
  attempts : ∀ a, s'.attempts.lookup a = if a = claim.attemptId then
    some { r.attempt with incarnationId := some i } else s.attempts.lookup a
  count : ∀ t, s'.attemptCount t = s.attemptCount t
  fresh : s.executions.lookup x = none
  executions : ∀ y, s'.executions.lookup y = if y = x then some row else s.executions.lookup y
  attempt : row.attemptId = claim.attemptId
  task : row.taskId = r.attempt.taskId
  incarnation : row.incarnationId = i
  target : row.executionTarget = r.attempt.executionTarget
  state : row.state = .starting
  terminal : row.terminalConfirmed = false
  quiescent : row.quiescentConfirmed = false

theorem incarnationBusy_congr {s₁ : Store} (h : s₁.executions = s.executions) (i : IncarnationId) :
    s₁.incarnationBusy i = s.incarnationBusy i := by
  rw [Store.incarnationBusy, Store.incarnationBusy, h]

theorem agreesWith_ok {a : AttemptRow} {u : Unit} (h : claim.agreesWith a = .ok u) :
    claim.taskId = a.taskId ∧ claim.executionTarget = a.executionTarget := by
  unfold Claim.agreesWith at h
  split_ifs at h with htask hagent htarget hprofile
  exact ⟨not_not.mp htask, not_not.mp htarget⟩

theorem createExecutionInTx_launch {desc : Option String}
    (h : Runs env (createExecutionInTx claim b x desc) s q s') :
    ∃ r i row, Launch env s s' claim x r i row ∧ claim.taskId = r.attempt.taskId ∧
      claim.executionTarget = r.attempt.executionTarget := by
  unfold createExecutionInTx at h
  obtain ⟨-, h⟩ := h.require_bind
  obtain ⟨-, h⟩ := h.require_bind
  obtain ⟨r, hauth, h⟩ := validateAuthorityTx_bind h
  obtain ⟨_, hagrees, h⟩ := h.examine_bind
  obtain ⟨-, h⟩ := h.require_bind
  obtain ⟨_, -, h⟩ := h.examine_bind
  obtain ⟨i, s₁, h₁, h⟩ := h.bind
  obtain ⟨inc, -, h⟩ := h.fetch_bind
  obtain ⟨hidle, h⟩ := h.query_bind.require_bind
  obtain ⟨t₂, ht₂, h⟩ := h.updateIn_bind
  obtain ⟨n, h⟩ := newId_bind h
  obtain ⟨t₃, ht₃, h⟩ := h.insertInto_bind
  obtain ⟨_, -, h⟩ := jsonLoad_bind h
  obtain ⟨_, -, h⟩ := jsonLoad_bind h
  obtain ⟨agent, -, h⟩ := h.fetch_bind
  obtain ⟨_, -, h⟩ := jsonLoad_bind h
  obtain ⟨_, -, h⟩ := jsonLoad_bind h
  obtain ⟨_, -, h⟩ := h.examine_bind
  obtain ⟨-, rfl⟩ := h.pure
  have hattempts : s₁.attempts = s.attempts := frame h₁ .attempts rfl
  have hexecutions : s₁.executions = s.executions := frame h₁ .executions rfl
  have hhost := incarnationForAttempt_host h₁
  change s₁.attempts.update _ _ = some t₂ at ht₂
  change s₁.executions.insert _ _ = some t₃ at ht₃
  rw [hattempts] at ht₂
  rw [hexecutions] at ht₃
  obtain ⟨hnone, hlook⟩ := Table.lookup_of_insert ht₃
  -- the statement links an unlinked row; a linked one is linked to the very incarnation chosen
  have hlinked : ∀ a, t₂.lookup a = if a = claim.attemptId then
      some { r.attempt with incarnationId := some i } else s.attempts.lookup a := by
    intro a
    rw [Table.lookup_of_update ht₂]
    by_cases ha : a = claim.attemptId
    · rw [if_pos ha, ha, hauth.attempt]
      cases hhost with
      | linked hlink =>
        have hsame : { r.attempt with incarnationId := some i } = r.attempt := by rw [← hlink]
        simp [Table.updateRow, hlink, hsame]
      | reused hlink | fresh hlink => simp [Table.updateRow, hlink]
    · rw [if_neg ha]
      cases s.attempts.lookup a with
      | none => rfl
      | some row => simp [Table.updateRow, ha]
  refine ⟨r, i, _, ⟨hauth, ?_, ?_, hlinked, ?_, hnone, hlook, ?_, ?_, ?_, ?_, ?_, ?_, ?_⟩, agreesWith_ok hagrees⟩
  · cases hhost with
    | linked hlink heq => exact .linked hlink heq
    | reused hlink hinc hagent htarget hlive heq =>
      exact .reused hlink hinc hagent htarget hlive heq
    | fresh hlink hnolive hborn =>
      exact .fresh hlink hnolive
        ⟨hborn.fresh, hborn.agent, hborn.target, hborn.state, hborn.mode, hborn.lookup⟩
  · have hbusy := (Bool.not_eq_true' _).mp hidle
    rwa [incarnationBusy_congr hexecutions] at hbusy
  · intro t
    exact Table.count_of_update ht₂ fun _ _ _ _ => rfl
  all_goals rfl

theorem createExecution_launch (h : Runs env (createExecution claim b) s q s') :
    ∃ x r i row, Launch env s s' claim x r i row ∧ claim.taskId = r.attempt.taskId ∧
      claim.executionTarget = r.attempt.executionTarget := by
  obtain ⟨n, h⟩ := newId_bind h
  exact ⟨_, createExecutionInTx_launch h⟩

/-- The typed commitment is a commitment whose row also points to its snapshot. -/
theorem createExecutionWithSnapshot_launch {desc : String} {snap : BindingSnapshot}
    {catalog : Except Error Unit}
    (h : Runs env (createExecutionWithSnapshot claim b x desc snap catalog) s q s') :
    ∃ r i row, Launch env s s' claim x r i row ∧ claim.taskId = r.attempt.taskId ∧
      claim.executionTarget = r.attempt.executionTarget := by
  obtain ⟨_, s₁, h₁, h⟩ := Tx.Runs.bind h
  obtain ⟨r, i, row, hl, hclaim⟩ := createExecutionInTx_launch h₁
  obtain ⟨_, -, h⟩ := h.examine_bind
  obtain ⟨_, -, h⟩ := h.examine_bind
  obtain ⟨_, s₂, h₂, h⟩ := h.bind
  have hsnap : ∀ n, n ≠ .bindingSnapshots → s'.table n = s₂.table n := fun n hn =>
    frame h n (by simpa using hn)
  have hframe : ∀ n, n ≠ .executions → n ≠ .bindingSnapshots → s'.table n = s₁.table n := by
    intro n hexec hn
    rw [hsnap n hn, frame h₂ n (by simpa using hexec)]
  have hattempts : s'.attempts = s₁.attempts := hframe .attempts (by decide) (by decide)
  have hincarnations : s'.incarnations = s₁.incarnations :=
    hframe .incarnations (by decide) (by decide)
  have hexecutions : s'.executions = s₂.executions := hsnap .executions (by decide)
  refine ⟨r, i, { row with bindingSnapshotMode := .snapshot }, ⟨hl.authorized, ?_, hl.idle, ?_, ?_,
    hl.fresh, ?_, hl.attempt, hl.task, hl.incarnation, hl.target, hl.state, hl.terminal,
    hl.quiescent⟩, hclaim⟩
  · cases hl.host with
    | linked hlink heq => exact .linked hlink (hincarnations.trans heq)
    | reused hlink hinc hagent htarget hlive heq =>
      exact .reused hlink hinc hagent htarget hlive (hincarnations.trans heq)
    | fresh hlink hnolive hborn =>
      exact .fresh hlink hnolive ⟨hborn.fresh, hborn.agent, hborn.target, hborn.state, hborn.mode,
        hincarnations ▸ hborn.lookup⟩
  · rw [hattempts]
    exact hl.attempts
  · intro t
    rw [← hl.count t, Store.attemptCount, Store.attemptCount, hattempts]
  · intro y
    rw [hexecutions, updateExecution_runs h₂]
    by_cases hy : y = x
    · rw [if_pos hy, if_pos hy, hl.executions, if_pos hy]
      rfl
    · rw [if_neg hy, if_neg hy, hl.executions, if_neg hy]

end Agentype

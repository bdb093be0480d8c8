import Agentype.Physical.Bonds
import Agentype.Contract.Obligations

/-!
# `Agentype.Physical.Course` — what one operation does to the physical rows

What an operation can do to attempts, executions, incarnations and faults is said once
(`PhysicalAfter`): it changes hosts, grants a claim, launches an execution, records an observation
or a fault, settles claims one after another, or finalizes the presence of a writer that is being
released. Each of these keeps the ties, so they hold in every reachable store.

## Contents
- `Claimed`: a grant, possibly after its agent got a new incarnation.
- `Settled`: settlements in a row; `Settled.pristine`: the claims still open are as they were.
- `Released`: a resolved obligation.
- `PhysicalAfter`, `exec_physical`; `Store.Regular`: the invariants of reachable stores.
-/

namespace Agentype

open Relational Tx Store Board

variable {env : Env} {s s' s₁ : Store}
variable {a : AttemptId} {r : AttemptRow} {g : LogicalAgentId} {t : TaskId} {q : Bool}
  {e : EscalationId}

/-! ## Claims -/

/-- A grant, possibly after its agent got a new incarnation. -/
def Claimed (env : Env) (s s' : Store) (a : AttemptId) (r : AttemptRow) : Prop :=
  ∃ s₁, Rehosts env s s₁ ∧ Granted s₁ s' a r ∧ s'.executions = s₁.executions ∧
    s'.incarnations = s₁.incarnations ∧ s'.preparationFaults = s₁.preparationFaults

theorem Store.Tied.claimed (hs : s.Tied) (h : Claimed env s s' a r) : s'.Tied := by
  obtain ⟨s₁, hhosts, hgrant, hexecutions, hincarnations, hfaults⟩ := h
  exact (hs.rehosts hhosts).granted hgrant hexecutions hincarnations hfaults

theorem claimSelected_claimed {p : PartitionId} {prow : PartitionRow} {task : TaskRow} {c : Claim}
    (hhosts : Rehosts env s s₁) (h : Runs env (claimSelected g p prow t task) s₁ c s') :
    ∃ r, Claimed env s s' c.attemptId r ∧ r.taskId = t ∧ r.logicalAgentId = g := by
  obtain ⟨r, hgrant, htask, hagent⟩ := claimSelected_granted h
  exact ⟨r, ⟨s₁, hhosts, hgrant, frame h .executions rfl, frame h .incarnations rfl,
    frame h .preparationFaults rfl⟩, htask, hagent⟩

theorem claimNextAvailable_claimed {c : Option Claim} (h : Runs env claimNextAvailable s c s') :
    (c = none ∧ s' = s) ∨
      ∃ claim r, c = some claim ∧ Claimed env s s' claim.attemptId r := by
  rcases claimNextAvailable_runs h with ⟨hc, hs, -⟩ | ⟨t, task, g, prow, claim, hc, -, h⟩
  · exact .inl ⟨hc, hs⟩
  · obtain ⟨r, hr, -, -⟩ := claimSelected_claimed (refl_of (Rehosts env) s) h
    exact .inr ⟨claim, r, hc, hr⟩

theorem finishAcquisition_claimed {sel : ProvisioningSelection} {contract : Except Error Unit}
    {q : TypedAcquisition} (hhosts : Rehosts env s s₁)
    (h : Runs env (finishAcquisition t g sel contract) s₁ q s') :
    ∃ r, Claimed env s s' q.claim.attemptId r := by
  obtain ⟨_, _, _, _, _, _, s₂, s₃, -, -, -, -, -, h₂, h₃, h₄⟩ := finishAcquisition_runs h
  have hhosts₂ := trans_of (Rehosts env) hhosts (h₂.respects (resolveIncarnation_rehosts _ _ _ _))
  have hhosts₃ := trans_of (Rehosts env) hhosts₂
    (h₃.respects (provisionIncarnation_rehosts _ _ _ _ _))
  obtain ⟨r, hr, -, -⟩ := claimSelected_claimed hhosts₃ h₄
  exact ⟨r, hr⟩

theorem acquireTypedTaskNewAgent_claimed {sel : ProvisioningSelection}
    {typeVerdict contract : Except Error Unit} {q : TypedAcquisition}
    (h : Runs env (acquireTypedTaskNewAgent t sel typeVerdict contract) s q s') :
    ∃ r, Claimed env s s' q.claim.attemptId r := by
  obtain ⟨_, _, _, _, g, s₁, s₂, h₁, h₂, h⟩ := acquireTypedTaskNewAgent_runs h
  have hquiet₁ : Quiet env s s₁ := h₁.respects (.aside rfl)
  have hquiet₂ : Quiet env s₁ s₂ := h₂.respects (.aside rfl)
  exact finishAcquisition_claimed (trans_of (Quiet env) hquiet₁ hquiet₂).rehosts h

/-! ## Settlements in a row -/

/-- Claims are settled one after another; `s` is the store the operation began with. -/
inductive Settled (env : Env) (s : Store) : Store → Prop
  | refl : Settled env s s
  | quiet {s₁ s' : Store} (h : Settled env s s₁) (hquiet : Quiet env s₁ s')
      (hkeep : KeepsObligations env s₁ s') : Settled env s s'
  | settle {s₁ s' : Store} {a : AttemptId} {r : AttemptRow} {task : TaskRow}
      (h : Settled env s s₁) (hset : Settlement env s₁ s' a r task)
      (hkeep : KeepsObligations env s₁ s') (htask : s.tasks.lookup r.taskId = some task) :
      Settled env s s'

theorem Settled.tied (h : Settled env s s') (hs : s.Tied) : s'.Tied := by
  induction h with
  | refl => exact hs
  | quiet _ hquiet _ ih => exact ih.rehosts hquiet.rehosts
  | settle _ hset _ _ ih => exact hset.tied ih

/-- The claims still open in `s₁` are as `s` had them. -/
structure Pristine (s s₁ : Store) : Prop where
  attempts : ∀ a r, s₁.attempts.lookup a = some r → r.state = .active →
    s.attempts.lookup a = some r
  executions : ∀ a, s₁.ActiveClaim a → s₁.executionOfAttempt a = s.executionOfAttempt a

theorem Works.executionOfAttempt {b : AttemptId} (h : Works a g env s s') (hne : b ≠ a) :
    s'.executionOfAttempt b = s.executionOfAttempt b := by
  apply Option.ext
  rintro ⟨y, e⟩
  rw [executionOfAttempt_eq_some, executionOfAttempt_eq_some]
  constructor
  · rintro ⟨he, hb⟩
    exact ⟨(h.others y e (hb ▸ hne)).mp he, hb⟩
  · rintro ⟨he, hb⟩
    exact ⟨(h.others y e (hb ▸ hne)).mpr he, hb⟩

theorem Settled.pristine (h : Settled env s s') : Pristine s s' := by
  induction h with
  | refl => exact ⟨fun _ _ hr _ => hr, fun _ _ => rfl⟩
  | @quiet s₁ s₂ _ hquiet _ ih =>
    refine ⟨fun a r hr => ih.attempts a r (hquiet.attempts ▸ hr), fun a ha => ?_⟩
    rw [executionOfAttempt_congr hquiet.executions]
    refine ih.executions a ?_
    obtain ⟨r, hr, hactive⟩ := ha
    exact ⟨r, hquiet.attempts ▸ hr, hactive⟩
  | @settle s₁ s₂ a r task _ hset _ _ ih =>
    -- an open claim is not the one that was settled
    have hne : ∀ b, s₂.ActiveClaim b → b ≠ a := by
      rintro b hb rfl
      exact hset.closed hb
    refine ⟨?_, ?_⟩
    · intro b w hw hactive
      refine ih.attempts b w ?_ hactive
      rwa [← hset.works.attempts b (hne b ⟨w, hw, hactive⟩)]
    · intro b hb
      rw [hset.works.executionOfAttempt (hne b hb)]
      refine ih.executions b ?_
      obtain ⟨w, hw, hactive⟩ := hb
      exact ⟨w, by rwa [← hset.works.attempts b (hne b ⟨w, hw, hactive⟩)], hactive⟩

/-- The view of an attempt tells whether it is active. -/
theorem active_of_view {r' : AttemptRow} (hview : r.view = r'.view) (h : r'.state = .active) :
    r.state = .active := by
  have hactive : r.view.active = r'.view.active := by rw [hview]
  exact of_decide_eq_true (hactive.trans (decide_eq_true h))

/-- A row listed at the start is settled at its turn with the columns it still has. -/
theorem expiring_settlement {recover : Bool} {row : ExpireRow} {lease : LeaseRow} {retried : Bool}
    (ht : s.Tied) (hchain : Settled env s s₁) (hmem : row ∈ s.expiring env.now recover)
    (hs₁ : s₁.board.Sound) (htask : row.taskId = row.attempt.taskId)
    (hheld : Held s₁.board row.attemptId ⟨row.attempt, row.leaseId, lease, row.task⟩)
    (hrun : Runs env (expireClaim row) s₁ retried s') :
    s.attempts.lookup row.attemptId = some row.attempt ∧
      Settlement env s₁ s' row.attemptId row.attempt row.task := by
  obtain ⟨_, -, -, -, -, hr, hrow, hx, -⟩ := mem_expiring.mp hmem
  obtain ⟨r, hr₁, hview⟩ := Table.view_eq_some.mp hheld.attempt
  have hactive₁ := active_of_view hview hheld.active
  cases (hchain.pristine.attempts _ r hr₁ hactive₁).symm.trans hr
  have hno : s₁.board.Undecided row.taskId := by
    intro e x hx ho
    rw [htask]
    exact hs₁.coupled.not_open_of_holding hs₁.coherent hheld.holding hx ho
  have hexec := hchain.pristine.executions row.attemptId ⟨_, hr₁, hactive₁⟩
  exact ⟨hr, expireClaim_settlement (hchain.tied ht) hno htask hr₁ hactive₁
    (hx.trans hexec.symm) hrun⟩

/-- **Expiry.** -/
theorem expireLeases_settled {recover : Bool} {report : ExpireReport} (hs : s.board.Sound)
    (ht : s.Tied) (h : Runs env (expireLeases recover) s report s') : Settled env s s' := by
  refine expireLeases_induction (P := Settled env s) hs h .refl ?_ ?_
  · intro row lease retried s₁ s₂ hmem hs₁ hchain htask hheld hrun
    obtain ⟨_, -, -, -, -, -, hrow, -⟩ := mem_expiring.mp hmem
    obtain ⟨-, hset⟩ := expiring_settlement ht hchain hmem hs₁ htask hheld hrun
    refine .settle hchain hset (hrun.respects ((settling_keepsObligations none).expireClaim .any)) ?_
    rw [← htask]
    exact hrow
  · intro s₁ u hs₁ hchain hrun
    have hquiet : Quiet env s₁ s' := hrun.respects (.aside rfl)
    exact .quiet hchain hquiet (hrun.respects (settling_keepsObligations none).restoreMissingEscalations)

/-- **Cancellation of a batch.** -/
theorem cancelBatch_settled {batch : BatchId} {u : Unit} (hs : s.board.Sound) (ht : s.Tied)
    (h : Runs env (cancelBatch batch) s u s') : Settled env s s' := by
  unfold cancelBatch at h
  obtain ⟨brow, -, h⟩ := Tx.Runs.fetch_bind h
  obtain ⟨-, h⟩ := h.require_bind
  split at h
  · obtain ⟨-, rfl⟩ := h.pure
    exact .refl
  refine (cancelOpenBatch_induction (P := Settled env s) hs h ?_ ?_ ?_).2
  · intro s₁ u₁ hrun
    have hquiet : Quiet env s s₁ := hrun.respects (.aside rfl)
    exact .quiet .refl hquiet (hrun.respects (settling_keepsObligations none .decisions))
  · intro c b ts l lease s₁ s₂ u₁ hc hb hboard hheld hchain hrun
    obtain ⟨hr, hrow, -, hactive⟩ := mem_activeClaims.mp hc
    -- the attempts and the escalations of the board are those of the store
    have hattempt : s₁.board.attempt c.1 = some c.2.1.view := by
      rw [hboard]
      exact hheld.attempt
    obtain ⟨r, hr₁, hview⟩ := Table.view_eq_some.mp hattempt
    have hactive₁ := active_of_view hview hactive
    cases (hchain.pristine.attempts _ r hr₁ hactive₁).symm.trans hr
    have hno : s₁.board.Undecided c.2.1.taskId := by
      intro e x hx ho
      rw [hboard] at hx
      exact hb.coupled.not_open_of_holding hb.coherent hheld.holding hx ho
    have hset := cancelBatchAttempt_settlement (hchain.tied ht) hno hr₁ hactive₁ hrun
    refine .settle hchain hset (hrun.respects ?_) hrow
    unfold cancelBatchAttempt
    exact .bind (executionForAttempt_respects _ _) fun _ =>
      .bind (.aside rfl) fun _ => .bind (.aside rfl) fun _ => (settling_keepsObligations none).cancelAgent
  · intro s₁ s₂ u₁ u₂ hchain h₁ h₂
    have hquiet₁ : Quiet env s₁ s₂ := h₁.respects (.aside rfl)
    have hquiet₂ : Quiet env s₂ s' := h₂.respects (.aside rfl)
    exact .quiet hchain (trans_of (Quiet env) hquiet₁ hquiet₂) (trans_of (KeepsObligations env)
      (h₁.respects (.aside rfl))
      (h₂.respects (.aside rfl)))

/-- **One claim.** An operation that settles the claim it is presented with. -/
theorem exec_settlement {op : Op} {u : Unit} (hs : s.board.Sound) (ht : s.Tied)
    (hop : op.settlesClaim = some a) (h : Runs env op.exec s u s') :
    ∃ r e, Authorized s a e env.now r ∧ Settlement env s s' a r.attempt r.task := by
  cases op with
  | ackSuccess a' e =>
    obtain rfl := Option.some.inj hop
    obtain ⟨q, h⟩ := runs_of_effect h
    obtain ⟨r, hr⟩ := ackSuccess_settlement ht h
    exact ⟨r, e, hr⟩
  | nack a' e | reportConfigurationUnavailable a' e =>
    obtain rfl := Option.some.inj hop
    obtain ⟨q, h⟩ := runs_of_effect h
    obtain ⟨r, hr⟩ := nack_settlement hs ht h
    exact ⟨r, e, hr⟩
  | nackPreservingPhysicalHistory a' e =>
    obtain rfl := Option.some.inj hop
    obtain ⟨q, h⟩ := runs_of_effect h
    obtain ⟨r, hr⟩ := nackPreserving_settlement hs ht h
    exact ⟨r, e, hr⟩
  | abortBeforePhysicalStart a' e =>
    obtain rfl := Option.some.inj hop
    obtain ⟨q, h⟩ := runs_of_effect h
    obtain ⟨r, hr⟩ := abort_settlement ht h
    exact ⟨r, e, hr⟩
  | _ => cases hop

/-- **Settlements.** -/
theorem exec_settled {op : Op} {u : Unit} (hs : s.board.Sound) (ht : s.Tied)
    (hop : op.settles = true) (h : Runs env op.exec s u s') : Settled env s s' := by
  have hkeep := h.respects (Settling.exec settling_keepsObligations hop)
  -- the settlement of one claim that its caller names
  have hone : ∀ {a : AttemptId}, op.settlesClaim = some a → Settled env s s' := by
    intro a ha
    obtain ⟨r, e, hauth, hset⟩ := exec_settlement hs ht ha h
    exact .settle .refl hset hkeep hauth.task
  cases op with
  | ackSuccess | nack | reportConfigurationUnavailable | nackPreservingPhysicalHistory
  | abortBeforePhysicalStart => exact hone rfl
  | cancelTask =>
    rcases cancelTask_settlement hs ht h with hquiet | ⟨a, r, task, htask, -, hr, hset⟩
    · exact .quiet .refl hquiet hkeep
    · refine .settle .refl hset hkeep ?_
      rw [hr]
      exact htask
  | cancelBatch => exact cancelBatch_settled hs ht h
  | expireLeases =>
    obtain ⟨q, h⟩ := runs_of_effect h
    exact expireLeases_settled hs ht h
  | _ => exact absurd hop Bool.false_ne_true

/-! ## Resolved obligations -/

theorem finalizeEscalatedIncarnation_handles {i : Option IncarnationId}
    {x : Option (ExecutionId × ExecutionRow)} (q : Bool) :
    Respects (Handles a g i x) (finalizeEscalatedIncarnation i q) := by
  unfold finalizeEscalatedIncarnation
  split
  · exact .pure _
  · refine setIncarnationState_handles rfl ?_
    cases q <;> exact fun hl => by cases hl

theorem finalizeEscalatedIncarnation_dead {i : Option IncarnationId} {u : Unit}
    (h : Runs env (finalizeEscalatedIncarnation i q) s u s') {j : IncarnationId} (hj : i = some j) :
    ¬ s'.LiveHost j := by
  subst hj
  refine setIncarnationState_dead ?_ ?_ h
  · cases q <;> rfl
  · intro st hst
    cases st <;> first | rfl | cases hst

/-- **A resolved obligation.** The latest execution of the task is finalized and its incarnation
    fenced, then the agent may move to its current partition. -/
structure Released (env : Env) (s s' : Store) (e : EscalationId) (x : EscalationRow)
    (a : AttemptId) (r : AttemptRow) (task : TaskRow) : Prop where
  escalation : s.escalations.lookup e = some x
  obligation : x.IsObligation
  found : s.tasks.lookup x.taskId = some task
  latest : s.latestAttempt x.taskId = some (a, r)
  agent : x.logicalAgentId = some r.logicalAgentId
  closed : r.state ≠ .active
  idle : s.IdleAgent r.logicalAgentId
  finalized : ∃ s₁, Works a r.logicalAgentId env s s₁ ∧ s₁.attempts = s.attempts ∧ s₁.Tame a ∧
    (task.workspaceMode = .write → s₁.Still a) ∧ Quiet env s₁ s'

theorem Released.tied {x : EscalationRow} {task : TaskRow} (h : Released env s s' e x a r task)
    (hs : s.Tied) : s'.Tied := by
  obtain ⟨s₁, hworks, hattempts, htame, -, hquiet⟩ := h.finalized
  obtain ⟨hr, -, -⟩ := latestAttempt_eq_some.mp h.latest
  refine Store.Tied.rehosts (hs.works hworks ?_ ((idleAgent_congr hattempts).mpr h.idle) htame)
    hquiet.rehosts
  rintro ⟨r', hr', hactive⟩
  rw [hattempts] at hr'
  cases hr.symm.trans hr'
  exact h.closed hactive

/-- The agent of an open obligation has no claim. -/
theorem idleAgent_of_obligation (hs : s.board.Sound) {x : EscalationRow}
    (hx : s.escalations.lookup e = some x) (ho : x.IsObligation) (hg : x.logicalAgentId = some g) :
    s.IdleAgent g := by
  obtain ⟨g', v, hg', hv, -, hcurrent⟩ := hs.coupled.obligated e x.view (Table.view_of_lookup hx)
    (decide_eq_true ho.1) ho.2
  cases hg'.symm.trans hg
  exact idleAgent_of_current hs hv hcurrent

/-- The physical side of a resolution, then the agent side. -/
theorem finalize_physical {p : EscalatedPresence} {revive : Bool} {u₁ u₂ : Unit} {s₀ s₂ : Store}
    (ht : s.Tied) (hr : s.attempts.lookup a = some r) (hidle : s.IdleAgent r.logicalAgentId)
    (hsame : ∀ n ∈ physicalTables, s₀.table n = s.table n)
    (hexec : p.executionId = (s.executionOfAttempt a).map Prod.fst)
    (hinc : p.incarnationId = r.incarnationId)
    (h₁ : Runs env (settlePresence .finalizePresence p q) s₀ u₁ s₁)
    (h₂ : Runs env (reviveEscalated revive (some r.logicalAgentId)) s₁ u₂ s₂) :
    Works a r.logicalAgentId env s s₁ ∧ s₁.attempts = s.attempts ∧ s₁.Tame a ∧
      ((q || p.frozenIsolation) = true → s₁.Still a) ∧ Quiet env s₁ s₂ := by
  have hw₀ : Works a r.logicalAgentId env s s₀ :=
    Sees.of_agree (R := Handles a _ none none) env s s₀ hsame .absent
  have eattempts : s₁.attempts = s.attempts := by
    have e₁ : s₁.attempts = s₀.attempts := frame h₁ .attempts rfl
    exact e₁.trans (hsame .attempts (by decide))
  rcases Tx.Runs.whenever h₁ with ⟨-, h₁⟩ | ⟨hoff, -⟩
  swap
  · cases hoff
  obtain ⟨_, s₃, h₃, h₄⟩ := Tx.Runs.bind h₁
  rw [hexec] at h₃
  rw [hinc] at h₄
  have hbacked := ht.backed hr
  have hw₃ := trans_of (Works a r.logicalAgentId env) hw₀
    (h₃.respects (finalizeEscalatedExecution_handles _ q) (hbacked.works hw₀))
  have hw₄ : Works a r.logicalAgentId env s₃ s₁ :=
    h₄.respects (finalizeEscalatedIncarnation_handles q) (hbacked.works hw₃)
  have hw := trans_of (Works a r.logicalAgentId env) hw₃ hw₄
  refine ⟨hw, eattempts, ht.tame_of_fenced hr hw ?_, ?_, ?_⟩
  · intro j hj
    exact finalizeEscalatedIncarnation_dead h₄ hj
  · intro hsafe
    rw [← executionOfAttempt_congr (hsame .executions (by decide)) a] at h₃
    exact (finalizeEscalatedExecution_still hsafe h₃).works hw₄
  · rcases Tx.Runs.whenever h₂ with ⟨-, h₂⟩ | ⟨-, rfl⟩
    · exact prepareAgentRevivalAfterSafety_quiet ((idleAgent_congr eattempts).mpr hidle) h₂
    · exact refl_of (Quiet env) s₂

/-- **Decisions.** A decision that is not about an obligation touches nothing physical. -/
theorem resolveEscalation_physical {o : String} {u : Unit} (hsound : s.board.Sound) (ht : s.Tied)
    (haligned : s.Aligned) (howed : s.board.Owed) (h : Runs env (resolveEscalation e o q) s u s') :
    Quiet env s s' ∨ ∃ x a r task, Released env s s' e x a r task := by
  unfold resolveEscalation at h
  obtain ⟨op, hparse, h⟩ := h.examine_bind
  obtain ⟨x, hx, h⟩ := h.fetch_bind
  obtain ⟨task, htask, h⟩ := h.fetch_bind
  obtain ⟨cause, hcause, h⟩ := h.examine_bind
  obtain ⟨plan, hplan, h⟩ := h.query_bind.examine_bind
  obtain ⟨hopen, hcases⟩ := planEscalationResolution_ok hplan
  have ho : x.state = .opened := of_decide_eq_true hopen
  have htask : s.tasks.lookup x.taskId = some task := htask
  have hlast : ∀ {s₂ : Store} {resolve : Bool} {u : Unit}, Runs env (do
      closeEscalation e resolve
      recomputeBatch x.batchId) s₂ u s' → Quiet env s₂ s' := by
    intro s₂ resolve u hrun
    exact hrun.respects (.aside rfl)
  by_cases hunknown : cause.isWriterUnknown = true
  swap
  · -- no obligation: neither the presence nor the agent is touched
    left
    rcases hcases with ⟨-, habs, -⟩ | ⟨-, -, rfl⟩ | rfl
    · exact absurd habs hunknown
    · rw [Bool.eq_false_iff.mpr hunknown] at h
      obtain ⟨_, s₁, h₁, hrest⟩ := Tx.Runs.bind h
      obtain ⟨_, s₂, h₂, hrest⟩ := hrest.bind
      obtain ⟨_, s₃, h₃, hrest⟩ := hrest.bind
      obtain ⟨_, s₄, h₄, hend⟩ := hrest.bind
      have hq₁ : Quiet env s s₁ := h₁.respects (.aside rfl)
      have hq₂ : Quiet env s₁ s₂ := h₂.respects (.aside rfl)
      rcases Tx.Runs.whenever h₃ with ⟨hoff, -⟩ | ⟨-, rfl⟩
      · cases hoff
      have hq₄ : Quiet env s₃ s₄ := by
        unfold reviveEscalated at h₄
        split at h₄
        · obtain ⟨-, rfl⟩ := h₄.pure
          exact refl_of (Quiet env) s₄
        · rcases Tx.Runs.whenever h₄ with ⟨hoff, -⟩ | ⟨-, rfl⟩
          · cases hoff
          · exact refl_of (Quiet env) s₄
      exact trans_of (Quiet env) (trans_of (Quiet env) (trans_of (Quiet env) hq₁ hq₂) hq₄) (hlast hend)
    · dsimp only [applyResolution] at h
      exact h.respects (.aside rfl)
  have hob : x.IsObligation :=
    ⟨ho, (escalationCause_tag hcause).symm.trans (isWriterUnknown_iff.mp hunknown)⟩
  obtain ⟨a, r, _, hlatest, -, hagent, hclosed, -⟩ := latestAttempt_of_open haligned hsound howed hx ho
  have hidle := idleAgent_of_obligation hsound hx hob hagent
  obtain ⟨hr, -, -⟩ := latestAttempt_eq_some.mp hlatest
  have hpresence : s.escalatedPresence x.taskId = ⟨r.incarnationId,
      (s.executionOfAttempt a).map Prod.fst,
      (s.executionOfAttempt a).any fun y => y.2.attemptIsolation⟩ := by
    unfold escalatedPresence
    rw [hlatest]
  have hrelease : ∀ {s₁ : Store}, Works a r.logicalAgentId env s s₁ → s₁.attempts = s.attempts →
      s₁.Tame a → (task.workspaceMode = .write → s₁.Still a) → Quiet env s₁ s' →
      Released env s s' e x a r task := fun hw hsame htame hstill hquiet =>
    ⟨hx, hob, htask, hlatest, hagent, hclosed, hidle, _, hw, hsame, htame, hstill, hquiet⟩
  rcases hcases with ⟨-, -, hsafe, rfl⟩ | ⟨-, hsafe, rfl⟩ | rfl
  · right
    obtain ⟨_, s₁, h₁, h⟩ := Tx.Runs.bind h
    obtain ⟨_, s₂, h₂, h⟩ := h.bind
    rw [hagent] at h₂
    obtain ⟨hw, hsame, htame, hstill, hquiet⟩ := finalize_physical ht hr hidle (fun _ _ => rfl)
      (by rw [hpresence]) (by rw [hpresence]) h₁ h₂
    exact ⟨x, a, r, task, hrelease hw hsame htame (fun _ => hstill hsafe)
      (trans_of (Quiet env) hquiet (hlast h))⟩
  · right
    rw [hunknown] at h
    obtain ⟨_, s₁, h₁, h⟩ := Tx.Runs.bind h
    obtain ⟨_, s₂, h₂, h⟩ := h.bind
    obtain ⟨_, s₃, h₃, h⟩ := h.bind
    obtain ⟨_, s₄, h₄, h⟩ := h.bind
    rw [hagent] at h₄
    have hprefix : ∀ n ∈ physicalTables, s₂.table n = s.table n := by
      have hw₁ : ∀ n ∈ physicalTables, n ∉ [TableName.tasks] := by decide
      have hw₂ : ∀ n ∈ physicalTables, n ∉ [TableName.batches] := by decide
      intro n hn
      have e₁ : s₁.table n = s.table n := frame_of_not_mem h₁ _ (hw₁ n hn)
      have e₂ : s₂.table n = s₁.table n := frame_of_not_mem h₂ _ (hw₂ n hn)
      exact e₂.trans e₁
    obtain ⟨hw, hsame, htame, hstill, hquiet⟩ := finalize_physical ht hr hidle hprefix
      (by rw [hpresence]) (by rw [hpresence]) h₃ h₄
    exact ⟨x, a, r, task, hrelease hw hsame htame (fun hmode => hstill (hsafe hmode hunknown))
      (trans_of (Quiet env) hquiet (hlast h))⟩
  · left
    dsimp only [applyResolution] at h
    exact h.respects (.aside rfl)

/-! ## Recorded faults -/

/-- **A recorded fault.** The claim is owned and has no incarnation; the first fault stays. -/
structure Faulted (s s' : Store) (claim : Claim) (kind : PreparationFaultKind)
    (r : ClaimRecords) : Prop where
  owned : Owned s claim.attemptId claim.leaseEpoch r
  unlinked : r.attempt.incarnationId = none
  typed : r.task.agentRequirementMode = .typed
  faults : ∀ b, s'.preparationFaults.lookup b =
    if b = claim.attemptId ∧ s.preparationFaults.lookup b = none then some kind
    else s.preparationFaults.lookup b
  frame : ∀ n, n ≠ .preparationFaults → s'.table n = s.table n

theorem recordPreparationFault_faulted {claim : Claim} {kind : PreparationFaultKind} {u : Unit}
    (h : Runs env (recordPreparationFault claim kind) s u s') :
    ∃ r, Faulted s s' claim kind r := by
  have hframe : ∀ n, n ≠ .preparationFaults → s'.table n = s.table n := by
    intro n hn
    exact frame h n (by simpa using hn)
  unfold recordPreparationFault at h
  obtain ⟨r, hr, h⟩ := h.examine_bind
  obtain ⟨-, h⟩ := h.require_bind
  obtain ⟨hnew, h⟩ := h.require_bind
  obtain ⟨-, h⟩ := h.require_bind
  obtain ⟨htyped, hunlinked⟩ := Bool.and_eq_true_iff.mp hnew
  refine ⟨r, validateClaimTx_none_ok.mp hr, Option.isNone_iff_eq_none.mp hunlinked,
    of_decide_eq_true htyped, ?_, hframe⟩
  intro b
  rcases h.query_bind.whenever with ⟨hnone, h⟩ | ⟨hknown, rfl⟩
  · obtain ⟨t', ht', rfl⟩ := h.insertInto
    show t'.lookup b = _
    rw [(Table.lookup_of_insert ht').2]
    have hnone : s.preparationFaults.lookup claim.attemptId = none := by
      simpa using hnone
    by_cases hb : b = claim.attemptId
    · subst hb
      rw [if_pos rfl, if_pos ⟨rfl, hnone⟩]
    · rw [if_neg hb, if_neg fun hc => hb hc.1]
      rfl
  · rw [if_neg]
    rintro ⟨rfl, hnone⟩
    rw [hnone] at hknown
    cases hknown

theorem Store.Tied.faulted_of (hs : s.Tied) {claim : Claim} {kind : PreparationFaultKind}
    {r : ClaimRecords} (h : Faulted s s' claim kind r) : s'.Tied := by
  refine hs.fault h.owned.attempt h.unlinked (h.frame .attempts (by decide))
    (h.frame .executions (by decide)) (h.frame .incarnations (by decide)) ?_
  intro b k hk
  rw [h.faults] at hk
  split at hk
  · rename_i hb
    exact .inl hb.1
  · exact .inr hk

/-! ## One operation -/

/-- **What one operation does to the physical rows.** -/
inductive PhysicalAfter (env : Env) (s s' : Store) (op : Op) : Prop
  | rehosted (h : Rehosts env s s')
  | claimed {a : AttemptId} {r : AttemptRow} (h : Claimed env s s' a r)
  | launched {claim : Claim} {x : ExecutionId} {r : ClaimRecords} {i : IncarnationId}
      {row : ExecutionRow} (hop : op.createsFor = some claim)
      (h : Launch env s s' claim x r i row)
      (hfaults : s'.preparationFaults = s.preparationFaults)
  | observed (h : Observed env s s')
  | faulted {claim : Claim} {kind : PreparationFaultKind} {r : ClaimRecords}
      (hop : op = .recordPreparationFault claim kind) (h : Faulted s s' claim kind r)
  | settled (hop : op.settles = true) (h : Settled env s s')
  | released {e : EscalationId} {o : String} {q : Bool} {x : EscalationRow} {a : AttemptId}
      {r : AttemptRow} {task : TaskRow} (hop : op = .resolveEscalation e o q)
      (h : Released env s s' e x a r task)

theorem Store.Tied.after {op : Op} (hs : s.Tied) (h : PhysicalAfter env s s' op) : s'.Tied := by
  cases h with
  | rehosted h => exact hs.rehosts h
  | claimed h => exact hs.claimed h
  | launched _ h hfaults => exact hs.launch h hfaults
  | observed h => exact hs.observed h
  | faulted _ h => exact hs.faulted_of h
  | settled _ h => exact h.tied hs
  | released _ h => exact h.tied hs

theorem exec_physical {op : Op} {u : Unit} (hsound : s.board.Sound) (ht : s.Tied)
    (haligned : s.Aligned) (howed : s.board.Owed) (h : Runs env op.exec s u s') :
    PhysicalAfter env s s' op := by
  have hquiet : Quiet env s s' → PhysicalAfter env s s' op := fun h => .rehosted h.rehosts
  have hsees : (∀ n ∈ physicalTables, n ∉ op.footprint) → PhysicalAfter env s s' op := fun hW =>
    hquiet (h.respects (.aside (decide_eq_true hW)))
  cases op with
  | ackSuccess | nack | reportConfigurationUnavailable | nackPreservingPhysicalHistory
  | abortBeforePhysicalStart | cancelTask | cancelBatch | expireLeases =>
    exact .settled rfl (exec_settled hsound ht rfl h)
  | claimNextAvailable =>
    obtain ⟨c, h⟩ := runs_of_effect h
    rcases claimNextAvailable_claimed h with ⟨-, rfl⟩ | ⟨claim, r, -, hr⟩
    · exact .rehosted (refl_of (Rehosts env) s')
    · exact .claimed hr
  | acquireTypedTaskExisting =>
    obtain ⟨q, h⟩ := runs_of_effect h
    obtain ⟨r, hr⟩ := finishAcquisition_claimed (refl_of (Rehosts env) s) h
    exact .claimed hr
  | acquireTypedTaskNewAgent =>
    obtain ⟨q, h⟩ := runs_of_effect h
    obtain ⟨r, hr⟩ := acquireTypedTaskNewAgent_claimed h
    exact .claimed hr
  | createExecution =>
    have hfaults := frame h .preparationFaults (by simp [Op.footprint])
    obtain ⟨q, h⟩ := runs_of_effect h
    obtain ⟨x, r, i, row, hl, -⟩ := createExecution_launch h
    exact .launched rfl hl hfaults
  | createExecutionWithSnapshot =>
    have hfaults := frame h .preparationFaults (by simp [Op.footprint])
    obtain ⟨q, h⟩ := runs_of_effect h
    obtain ⟨r, i, row, hl, -⟩ := createExecutionWithSnapshot_launch h
    exact .launched rfl hl hfaults
  | confirmRunningAndRenew =>
    obtain ⟨q, h⟩ := runs_of_effect h
    exact .observed (confirmRunningAndRenew_observed ht h)
  | recordPhysicalOutcome => exact .observed (recordPhysicalOutcome_observed h)
  | recordRuntimeHandleHint => exact .observed (h.respects (recordRuntimeHandleHint_observed _ _))
  | recordPendingPhysicalTerminal => exact .observed (recordPendingPhysicalTerminal_observed h)
  | recordPreparationFault =>
    obtain ⟨r, hr⟩ := recordPreparationFault_faulted h
    exact .faulted rfl hr
  | resolveEscalation =>
    rcases resolveEscalation_physical hsound ht haligned howed h with hq | ⟨x, a, r, task, hr⟩
    · exact hquiet hq
    · exact .released rfl hr
  | reconcilePool =>
    obtain ⟨q, h⟩ := runs_of_effect h
    exact hquiet (reconcilePool_reshapes hsound h).quiet
  | moveCapacity =>
    obtain ⟨q, h⟩ := runs_of_effect h
    exact hquiet (moveCapacity_reshapes hsound h).quiet
  | mergePartitions =>
    obtain ⟨q, h⟩ := runs_of_effect h
    exact hquiet (mergePartitions_reshapes hsound h).quiet
  | retirePartition =>
    obtain ⟨q, h⟩ := runs_of_effect h
    exact hquiet (retirePartition_reshapes hsound h).quiet
  | _ => exact hsees (by simp [Op.footprint])

/-! ## Whole histories -/

/-- The invariants of reachable stores that the physical rows rest on. -/
structure Store.Regular (s : Store) : Prop where
  sound : s.board.Sound
  numbered : s.Numbered
  aligned : s.Aligned
  owed : s.board.Owed
  tied : s.Tied

namespace Store.Regular

variable {op : Op} {u : Unit}

theorem physical (hs : s.Regular) (h : Runs env op.exec s u s') : PhysicalAfter env s s' op :=
  exec_physical hs.sound hs.tied hs.aligned hs.owed h

theorem exec (hs : s.Regular) (h : Runs env op.exec s u s') : s'.Regular where
  sound := hs.sound.steps (exec_refines op hs.sound h)
  numbered := hs.numbered.exec h
  aligned := hs.aligned.exec hs.sound hs.numbered h
  owed := hs.owed.steps hs.sound (exec_refines op hs.sound h)
  tied := hs.tied.after (hs.physical h)

end Store.Regular

/-- A history keeps the invariants. -/
theorem Store.Regular.after (hs : s.Regular) (calls : List Call) : (s.after calls).Regular :=
  run_induction (P := Store.Regular) (fun _ _ _ _ hs h => hs.exec h) hs

theorem Store.after_regular (calls : List Call) : (Store.empty.after calls).Regular := by
  refine Store.Regular.after ⟨Store.after_sound [], Store.after_numbered [], Store.after_aligned [],
    Store.after_owed [], ?_⟩ calls
  constructor
  · intro x e he
    cases he
  · intro a r i hr
    cases hr
  · intro a r hr
    cases hr
  · intro a k hk
    cases hk
  · intro x e he
    cases he

/-- **Physical rows agree.** In every reachable store an execution, its attempt and its incarnation
    name the same task, target and agent, and the host of an active execution is live exactly while
    its claim is. -/
theorem physical_rows_tied (calls : List Call) : (Store.empty.after calls).Tied :=
  (Store.after_regular calls).tied

/-- Every open escalation is about the agent of its task's latest attempt, which is closed and
    carries the fencing epoch of the task. -/
def Store.Addressed (s : Store) : Prop :=
  ∀ e x, s.escalations.lookup e = some x → x.state = .opened → ∃ a r task,
    s.latestAttempt x.taskId = some (a, r) ∧ r.taskId = x.taskId ∧
    x.logicalAgentId = some r.logicalAgentId ∧ r.state ≠ .active ∧
    s.tasks.lookup x.taskId = some task ∧ r.leaseEpoch = task.fencingEpoch

/-- **Decisions reach the last claim.** -/
theorem escalations_addressed (calls : List Call) : (Store.empty.after calls).Addressed := by
  intro e x hx ho
  have hs := Store.after_regular calls
  exact latestAttempt_of_open hs.aligned hs.sound hs.owed hx ho

end Agentype

import Agentype.Scheduler.Abstraction
import Agentype.Scheduler.Machine

/-!
# `Agentype.Physical.Presence` — who may fence an incarnation

An incarnation is fenced when it leaves the live states, and it never returns: apart from the
confirmation of a running execution, no statement makes a fenced incarnation live. Topology,
retirement and release fence only incarnations of agents without an active attempt.

## Contents
- `IncarnationRow.Fences`, `Confines G`: incarnations are kept or fenced, and only those of agents
  in `G` are fenced.
- `Store.IdleAgent`: no active attempt names the agent.
- `Quiet`: attempts, executions and faults are kept, and only idle agents lose incarnations.
- `releaseAgent_quiet`, `requestPartitionCutover_quiet` and the other writes of the topology.
-/

namespace Agentype

open Relational Tx Store Board

variable {env : Env} {s s' s₁ : Store}
variable {g : LogicalAgentId} {u : Unit}

/-! ## Fencing -/

/-- The row is kept, or moved towards its end. -/
structure IncarnationRow.Fences (r r' : IncarnationRow) : Prop where
  agent : r'.logicalAgentId = r.logicalAgentId
  target : r'.executionTarget = r.executionTarget
  live : r'.state.isLivePresence = true → r.state.isLivePresence = true
  terminated : r.state = .terminated → r'.state = .terminated

theorem IncarnationRow.Fences.refl (r : IncarnationRow) : r.Fences r := ⟨rfl, rfl, id, id⟩

theorem IncarnationRow.Fences.trans {r r' r'' : IncarnationRow} (h : r.Fences r')
    (h' : r'.Fences r'') : r.Fences r'' :=
  ⟨h'.agent.trans h.agent, h'.target.trans h.target, h.live ∘ h'.live, h'.terminated ∘ h.terminated⟩

/-- Incarnations are kept or fenced, only those of agents in `G` are fenced, and none is added. -/
structure Confines (G : LogicalAgentId → Prop) (s s' : Store) : Prop where
  keep : ∀ i r, s.incarnations.lookup i = some r → ∃ r', s'.incarnations.lookup i = some r' ∧
    r.Fences r' ∧ (r.state.isLivePresence = true → r'.state.isLivePresence = false →
      G r.logicalAgentId)
  absent : ∀ i, s.incarnations.lookup i = none → s'.incarnations.lookup i = none

namespace Confines

variable {G G' : LogicalAgentId → Prop}

theorem of_eq (h : s'.incarnations = s.incarnations) : Confines G s s' where
  keep i r hr := by
    refine ⟨r, h ▸ hr, .refl r, ?_⟩
    intro hlive hdead
    rw [hlive] at hdead
    cases hdead
  absent i hi := h ▸ hi

theorem trans (h : Confines G s s₁) (h' : Confines G s₁ s') : Confines G s s' where
  keep i r hr := by
    obtain ⟨r₁, hr₁, hf, hG⟩ := h.keep i r hr
    obtain ⟨r', hr', hf', hG'⟩ := h'.keep i r₁ hr₁
    refine ⟨r', hr', hf.trans hf', ?_⟩
    intro hlive hdead
    cases hmid : r₁.state.isLivePresence with
    | false => exact hG hlive hmid
    | true => exact hf.agent ▸ hG' hmid hdead
  absent i hi := h'.absent i (h.absent i hi)

theorem mono (h : Confines G s s') (hG : ∀ g, G g → G' g) : Confines G' s s' where
  keep i r hr := by
    obtain ⟨r', hr', hf, hlose⟩ := h.keep i r hr
    exact ⟨r', hr', hf, fun hlive hdead => hG _ (hlose hlive hdead)⟩
  absent := h.absent

/-- The row an incarnation had before. -/
theorem before (h : Confines G s s') {i : IncarnationId} {r' : IncarnationRow}
    (hr' : s'.incarnations.lookup i = some r') : ∃ r, s.incarnations.lookup i = some r ∧
      r.Fences r' ∧ (r.state.isLivePresence = true → r'.state.isLivePresence = false →
        G r.logicalAgentId) := by
  cases hr : s.incarnations.lookup i with
  | none => rw [h.absent i hr] at hr'; cases hr'
  | some r =>
    obtain ⟨r'', hr'', hf⟩ := h.keep i r hr
    cases hr''.symm.trans hr'
    exact ⟨r, rfl, hf⟩

/-- An `UPDATE` of incarnations. -/
theorem of_update {p : IncarnationId → IncarnationRow → Bool} {f : IncarnationRow → IncarnationRow}
    {t' : Table incarnationSchema} (h : s.incarnations.update p f = some t')
    (heq : s'.incarnations = t')
    (hf : ∀ i r, s.incarnations.lookup i = some r → p i r = true → r.Fences (f r) ∧
      (r.state.isLivePresence = true → (f r).state.isLivePresence = false →
        G r.logicalAgentId)) : Confines G s s' where
  keep i r hr := by
    rw [heq, Table.lookup_of_update h, hr, Option.map_some]
    refine ⟨_, rfl, ?_⟩
    unfold Table.updateRow
    cases hp : p i r with
    | true => exact hf i r hr hp
    | false =>
      refine ⟨.refl r, ?_⟩
      intro hlive hdead
      rw [if_neg (by simp), hlive] at hdead
      cases hdead
  absent i hi := by
    rw [heq, Table.lookup_of_update h, hi, Option.map_none]

end Confines

/-! ## Idle agents -/

/-- No active attempt names the agent. -/
def Store.IdleAgent (s : Store) (g : LogicalAgentId) : Prop :=
  ∀ a r, s.attempts.lookup a = some r → r.logicalAgentId = g → r.state ≠ .active

theorem hasActiveAttempt_eq_false : s.hasActiveAttempt g = false ↔ s.IdleAgent g := by
  unfold Store.hasActiveAttempt Store.IdleAgent
  rw [List.any_eq_false]
  constructor
  · intro h a r hr hg hactive
    have hrow := h (a, r) (Table.mem_rows.mpr hr)
    simp [hg, hactive] at hrow
  · rintro h ⟨a, r⟩ hmem
    have hrow := h a r (Table.mem_rows.mp hmem)
    simp only [Bool.and_eq_true, decide_eq_true_eq, not_and]
    exact hrow

/-- An agent without a task has no active attempt. -/
theorem idleAgent_of_current (hs : s.board.Sound) {v : AgentView} (hv : s.board.agent g = some v)
    (hidle : v.current = none) : s.IdleAgent g := by
  rintro a r hr rfl hactive
  obtain ⟨u, hu, hcurrent⟩ := hs.coherent.active_holder a r.view (Table.view_of_lookup hr)
    (decide_eq_true hactive)
  obtain rfl : v = u := Option.some.inj (hv.symm.trans hu)
  rw [hidle] at hcurrent
  cases hcurrent

theorem idleAgent_congr (h : s'.attempts = s.attempts) : s'.IdleAgent g ↔ s.IdleAgent g := by
  unfold Store.IdleAgent
  rw [h]

/-! ## Quiet operations -/

/-- Attempts, executions and faults are kept, and only idle agents lose incarnations. -/
structure Quiet (_ : Env) (s s' : Store) : Prop where
  attempts : s'.attempts = s.attempts
  executions : s'.executions = s.executions
  faults : s'.preparationFaults = s.preparationFaults
  confines : Confines s.IdleAgent s s'

instance (env : Env) : IsPreorder Store (Quiet env) where
  refl _ := ⟨rfl, rfl, rfl, .of_eq rfl⟩
  trans _ _ _ h h' :=
    ⟨h'.attempts.trans h.attempts, h'.executions.trans h.executions, h'.faults.trans h.faults,
      h.confines.trans (h'.confines.mono fun _ => (idleAgent_congr h.attempts).mp)⟩

abbrev physicalTables : List TableName := [.attempts, .executions, .preparationFaults, .incarnations]

instance : Sees physicalTables Quiet := by
  constructor
  intro env s s' h
  exact ⟨h .attempts (by decide), h .executions (by decide), h .preparationFaults (by decide),
    .of_eq (h .incarnations (by decide))⟩

/-- A statement on the incarnations alone. -/
theorem Quiet.of_confines {α : Type} {x : KernelTx α} [Touches [.incarnations] x] {a : α}
    (h : Runs env x s a s') (hc : Confines s.IdleAgent s s') : Quiet env s s' :=
  ⟨frame h .attempts rfl, frame h .executions rfl, frame h .preparationFaults rfl, hc⟩

theorem loseIncarnations_confines {p : IncarnationRow → Bool}
    (h : Runs env (loseIncarnations g p) s u s') : Confines (· = g) s s' := by
  obtain ⟨t', ht', rfl⟩ := Tx.Runs.updateIn h
  refine .of_update ht' rfl fun i r _ hp => ⟨⟨rfl, rfl, ?_, ?_⟩, ?_⟩
  · intro hlive
    cases hlive
  · intro hterm
    simp [hterm, IncarnationState.isLivePresence] at hp
  · intro _ _
    simp only [Bool.and_eq_true, decide_eq_true_eq] at hp
    exact hp.1.1

theorem loseIncarnations_quiet {p : IncarnationRow → Bool} (hidle : s.IdleAgent g)
    (h : Runs env (loseIncarnations g p) s u s') : Quiet env s s' :=
  .of_confines h ((loseIncarnations_confines h).mono fun _ hg => hg ▸ hidle)

theorem retireLogicalAgent_quiet (hidle : s.IdleAgent g)
    (h : Runs env (retireLogicalAgent g) s u s') : Quiet env s s' := by
  obtain ⟨_, s₁, h₁, h₂⟩ := Tx.Runs.bind h
  exact trans_of (Quiet env) (loseIncarnations_quiet hidle h₁)
    (h₂.respects (.aside rfl))

/-- **Cutover.** A committed cutover has checked that the agent has no active attempt. -/
theorem commitPartitionCutover_idle {agent : AgentRow} {p : PartitionId}
    {r : PartitionId × PartitionRow} (h : Runs env (commitPartitionCutover g agent p) s r s') :
    s.IdleAgent g ∧ Quiet env s s' := by
  obtain ⟨hfree, -, s₁, h₁, h₂⟩ := commitPartitionCutover_runs h
  have hidle := hasActiveAttempt_eq_false.mp hfree
  exact ⟨hidle, trans_of (Quiet env) (loseIncarnations_quiet hidle h₁) (h₂.respects (.aside rfl))⟩

theorem commitPartitionCutover_quiet (g : LogicalAgentId) (agent : AgentRow) (p : PartitionId) :
    Respects Quiet (commitPartitionCutover g agent p) :=
  fun _ _ _ _ h => (commitPartitionCutover_idle h).2

theorem requestPartitionCutover_quiet (g : LogicalAgentId) (agent : AgentRow) (p : PartitionId) :
    Respects Quiet (requestPartitionCutover g agent p) := by
  unfold requestPartitionCutover
  refine .bind (.aside rfl) fun plan => ?_
  split
  · exact .aside rfl
  · exact .fail _
  · exact .fail _
  · exact commitPartitionCutover_quiet g agent _

/-- **Release.** Only the retirement of an agent fences without a check of its own. -/
theorem releaseAgent_quiet (hidle : s.IdleAgent g) (h : Runs env (releaseAgent g) s u s') :
    Quiet env s s' := by
  unfold releaseAgent at h
  obtain ⟨agent, -, h⟩ := h.ask_bind.fetch_bind
  split at h
  · exact retireLogicalAgent_quiet hidle h
  · obtain ⟨destination, -, h⟩ := h.examine_bind
    obtain ⟨closure, -, h⟩ := h.examine_bind
    split at h
    · exact h.respects (.aside rfl)
    · obtain ⟨target, s₁, h₁, h⟩ := h.bind
      have hq₁ := commitPartitionCutover_quiet g agent _ env s _ s₁ h₁
      split at h
      · have hidle₁ := (idleAgent_congr hq₁.attempts).mpr hidle
        exact trans_of (Quiet env) hq₁ (retireLogicalAgent_quiet hidle₁ h)
      · exact trans_of (Quiet env) hq₁ (h.respects (.aside rfl))

theorem prepareAgentRevivalAfterSafety_quiet (hidle : s.IdleAgent g)
    (h : Runs env (prepareAgentRevivalAfterSafety g) s u s') : Quiet env s s' := by
  unfold prepareAgentRevivalAfterSafety at h
  obtain ⟨agent, -, h⟩ := Tx.Runs.fetch_bind h
  obtain ⟨target, -, h⟩ := h.examine_bind
  split at h
  · obtain ⟨-, rfl⟩ := h.pure
    exact refl_of (Quiet env) s'
  · exact releaseAgent_quiet hidle h
  · obtain ⟨_, s₁, h₁, h⟩ := h.bind
    exact trans_of (Quiet env) (releaseAgent_quiet hidle h₁) (h.respects (.aside rfl))

end Agentype

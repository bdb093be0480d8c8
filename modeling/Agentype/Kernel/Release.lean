import Agentype.Kernel.Settling

/-!
# `Agentype.Kernel.Release` — where a released agent ends up, and which of its hosts it loses

A release retires the agent, parks it behind a provisioned host, or makes it ready in the partition
it is headed for. The hosts it loses are those it can no longer use: all of them when the agent is
retired, those of another execution target when it changes partition.

## Contents
- `canonicalPartition_lookup`: a resolved partition exists and is active.
- `Departed`: the agent has left the host's target for good.
- `releaseAgent_hosts`: a live host of a released agent stays live, or the agent has departed.
- `AgentKept g`: statements about another agent.
-/

namespace Agentype

open Relational Tx Store

variable {env : Env} {s s' : Store} {g : LogicalAgentId}
variable {u : Unit} {i : IncarnationId} {inc : IncarnationRow}

/-! ## Resolved partitions -/

theorem canonicalPartitionFrom_lookup {start : PartitionId} {p : PartitionId × PartitionRow} :
    ∀ {fuel : Nat} {visited : List PartitionId} {current : PartitionId},
      canonicalPartitionFrom s start fuel visited current = .ok p →
        s.poolPartitions.lookup p.1 = some p.2 ∧ p.2.active = true := by
  intro fuel
  induction fuel with
  | zero =>
    intro visited current h
    cases h
  | succ fuel ih =>
    intro visited current h
    unfold canonicalPartitionFrom at h
    split at h
    · cases h
    split at h
    · cases h
    rename_i row hrow
    split at h
    · rename_i hactive
      obtain rfl := Except.ok.inj h
      exact ⟨hrow, hactive⟩
    · split at h
      · exact ih h
      · cases h

theorem canonicalPartition_lookup {name : PartitionId} {p : PartitionId × PartitionRow}
    (h : s.canonicalPartition name = .ok p) :
    s.poolPartitions.lookup p.1 = some p.2 ∧ p.2.active = true :=
  canonicalPartitionFrom_lookup h

/-! ## Hosts -/

/-- A host of the agent is live. -/
def Store.LiveFor (s : Store) (i : IncarnationId) (inc : IncarnationRow) : Prop :=
  ∃ inc', s.incarnations.lookup i = some inc' ∧ inc'.logicalAgentId = inc.logicalAgentId ∧
    inc'.executionTarget = inc.executionTarget ∧ inc'.state.isLivePresence = true

/-- The agent is retired, or works in a partition of another execution target. -/
def Store.Departed (s : Store) (g : LogicalAgentId) (target : String) : Prop :=
  ∃ agent, s.logicalAgents.lookup g = some agent ∧ (agent.state = .retired ∨
    ∃ p, s.poolPartitions.lookup agent.partition = some p ∧ p.executionTarget ≠ target)

theorem updateAgent_lookup {f : AgentRow → AgentRow} (h : Runs env (updateAgent g f) s u s')
    (g' : LogicalAgentId) :
    s'.logicalAgents.lookup g' =
      (s.logicalAgents.lookup g').map fun r => if g' = g then f r else r := by
  obtain ⟨t, ht, rfl⟩ := Tx.Runs.updateIn h
  show t.lookup g' = _
  rw [Table.lookup_of_update ht]
  show Option.map _ (s.logicalAgents.lookup g') = _
  congr 1
  funext r
  unfold Table.updateRow
  simp only [decide_eq_true_eq]

/-- Fencing the hosts that satisfy a condition keeps the others. -/
theorem loseIncarnations_live {p : IncarnationRow → Bool}
    (h : Runs env (loseIncarnations g p) s u s') (hinc : s.incarnations.lookup i = some inc)
    (hlive : inc.state.isLivePresence = true) (hp : p inc = false) : s'.LiveFor i inc := by
  obtain ⟨t, ht, rfl⟩ := Tx.Runs.updateIn h
  refine ⟨inc, ?_, rfl, rfl, hlive⟩
  show t.lookup i = _
  rw [Table.lookup_of_update ht]
  show Option.map _ (s.incarnations.lookup i) = _
  rw [hinc]
  simp [Table.updateRow, hp]

theorem liveFor_congr (h : s'.incarnations = s.incarnations) :
    s'.LiveFor i inc ↔ s.LiveFor i inc := by
  rw [Store.LiveFor, Store.LiveFor, h]

theorem retireLogicalAgent_departed {target : String} {agent : AgentRow}
    (hagent : s.logicalAgents.lookup g = some agent) (h : Runs env (retireLogicalAgent g) s u s') :
    s'.Departed g target := by
  unfold retireLogicalAgent at h
  obtain ⟨_, s₁, h₁, h₂⟩ := h.bind
  have hsame : s₁.logicalAgents = s.logicalAgents :=
    frame h₁ .logicalAgents rfl
  have hrow := updateAgent_lookup h₂ g
  rw [hsame, hagent] at hrow
  exact ⟨_, hrow, .inl (by simp)⟩

/-- What a committed cutover does to a live host of the agent. -/
theorem commitPartitionCutover_hosts {agent row : AgentRow} {p : PartitionId}
    {target : PartitionId × PartitionRow} (hrow : s.logicalAgents.lookup g = some row)
    (hinc : s.incarnations.lookup i = some inc) (hlive : inc.state.isLivePresence = true)
    (h : Runs env (commitPartitionCutover g agent p) s target s') :
    s'.poolPartitions.lookup target.1 = some target.2 ∧
      (∃ row', s'.logicalAgents.lookup g = some row' ∧ row'.partition = target.1) ∧
      (s'.LiveFor i inc ∨ target.2.executionTarget ≠ inc.executionTarget) := by
  obtain ⟨-, hfound, s₁, h₁, h₂⟩ := commitPartitionCutover_runs h
  have e₁ : s₁.poolPartitions = s.poolPartitions := frame h₁ .poolPartitions rfl
  have e₂ : s'.poolPartitions = s₁.poolPartitions := frame h₂ .poolPartitions rfl
  have hagents : s₁.logicalAgents = s.logicalAgents := frame h₁ .logicalAgents rfl
  refine ⟨?_, ?_, ?_⟩
  · rw [e₂, e₁]
    exact (canonicalPartition_lookup hfound).1
  · have hlookup := updateAgent_lookup h₂ g
    rw [hagents, hrow] at hlookup
    exact ⟨_, hlookup, by simp⟩
  · by_cases htarget : inc.executionTarget = target.2.executionTarget
    · left
      rw [liveFor_congr (frame h₂ .incarnations rfl)]
      exact loseIncarnations_live h₁ hinc hlive (by simpa using htarget)
    · exact .inr (Ne.symm htarget)

/-- **Release.** A live host of a released agent stays live, unless the agent has departed. -/
theorem releaseAgent_hosts (hinc : s.incarnations.lookup i = some inc)
    (hlive : inc.state.isLivePresence = true) (h : Runs env (releaseAgent g) s u s') :
    s'.LiveFor i inc ∨ s'.Departed g inc.executionTarget := by
  unfold releaseAgent at h
  obtain ⟨agent, hagent, h⟩ := Tx.Runs.fetch_bind h.ask_bind
  split at h
  · exact .inr (retireLogicalAgent_departed hagent h)
  obtain ⟨found, hfound, h⟩ := h.examine_bind
  obtain ⟨closure, -, h⟩ := h.examine_bind
  split at h
  · left
    rw [liveFor_congr (frame h .incarnations rfl)]
    exact ⟨inc, hinc, rfl, rfl, hlive⟩
  obtain ⟨target, s₁, h₁, h⟩ := h.bind
  obtain ⟨hpart, ⟨row', hrow', hin⟩, hhost⟩ := commitPartitionCutover_hosts hagent hinc hlive h₁
  split at h
  · exact .inr (retireLogicalAgent_departed hrow' h)
  · rcases hhost with hkept | hmoved
    · left
      rw [liveFor_congr (frame h .incarnations rfl)]
      exact hkept
    · right
      have hlookup := updateAgent_lookup h g
      rw [hrow'] at hlookup
      refine ⟨_, hlookup, .inr ⟨target.2, ?_, hmoved⟩⟩
      have hparts : s'.poolPartitions = s₁.poolPartitions :=
        frame h .poolPartitions rfl
      simp only [if_pos]
      rw [hparts, hin]
      exact hpart

/-! ## Other agents -/

/-- The row of the agent is as before. -/
def AgentKept (g : LogicalAgentId) (_ : Env) (s s' : Store) : Prop :=
  s'.logicalAgents.lookup g = s.logicalAgents.lookup g

instance (g : LogicalAgentId) (env : Env) : IsPreorder Store (AgentKept g env) where
  refl _ := rfl
  trans _ _ _ h h' := Eq.trans h' h

instance {g : LogicalAgentId} : Sees [.logicalAgents] (AgentKept g) := by
  constructor
  intro env s s' h
  have hsame : s'.logicalAgents = s.logicalAgents := h .logicalAgents (by decide)
  rw [AgentKept, hsame]

section Others

variable {g' : LogicalAgentId} (hne : g ≠ g')
include hne

theorem updateAgent_kept (f : AgentRow → AgentRow) : Respects (AgentKept g) (updateAgent g' f) := by
  intro env s u s' h
  have hlookup := updateAgent_lookup h g
  simp only [if_neg hne, Option.map_id'] at hlookup
  exact hlookup

theorem suspendAgent_kept : Respects (AgentKept g) (suspendAgent g') := by
  intro env s u s' h
  obtain ⟨t, ht, rfl⟩ := Tx.Runs.updateIn h
  exact Table.lookup_of_update_other ht fun _ _ => by simp [hne]

theorem releaseAgent_kept : Respects (AgentKept g) (releaseAgent g') :=
  releaseAgent_respects (updateAgent_kept hne) fun _ => .aside rfl

end Others

end Agentype

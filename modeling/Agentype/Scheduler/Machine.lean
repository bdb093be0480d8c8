import Agentype.Scheduler.Ordered

/-!
# `Agentype.Scheduler.Machine` — what holds on every board the machine reaches

The invariants of the abstract machine together, and runs of the machine.
-/

namespace Agentype

variable {g : LogicalAgentId}

namespace Board

/-- The invariants of the scheduler. -/
structure Sound (b : Board) : Prop where
  coherent : b.Coherent
  coupled : b.Coupled
  recorded : b.Recorded
  ordered : b.Ordered

/-- A board without rows. -/
def empty : Board where
  task _ := none
  attempt _ := none
  lease _ := none
  agent _ := none
  escalation _ := none
  result _ := none
  depends _ _ := False

theorem Sound.empty : Board.empty.Sound where
  coherent := by constructor <;> intros <;> contradiction
  coupled := by constructor <;> intros <;> contradiction
  recorded := by constructor <;> intros <;> contradiction
  ordered := by
    refine ⟨by intros; contradiction, by intros; contradiction, by intros; contradiction, ?_⟩
    intro t h
    cases h <;> contradiction

end Board

/-- A run of the machine. -/
abbrev Steps : Board → Board → Prop := Relation.ReflTransGen Step

/-- A closed attempt stays closed. -/
theorem attempt_closed_step {b b' : Board} (h : Step b b') {a : AttemptId} {w : AttemptView}
    (hw : b.attempt a = some w) (hclosed : w.active = false) :
    ∃ w', b'.attempt a = some w' ∧ w'.active = false := by
  have hclose : ∀ (h : Board.Holding b) (st : TaskState) (ag : LogicalAgentState),
      ∃ w', (b.close h st ag).attempt a = some w' ∧ w'.active = false := by
    intro h st ag
    rw [Board.close_attempt]
    split
    · exact ⟨_, rfl, rfl⟩
    · exact ⟨w, hw, hclosed⟩
  cases h with
  | agents | tasks | submit | cancelIdle | resolve => exact ⟨w, hw, hclosed⟩
  | @claim t v a' l g u ht hq hg hr hi ha hl =>
    refine ⟨w, ?_, hclosed⟩
    have hne : a ≠ a' := by
      rintro rfl
      rw [ha] at hw
      cases hw
    rw [Board.claim_attempt, if_neg hne, hw]
  | requeue h => exact hclose h _ _
  | @complete h ag => exact hclose h .completed ag
  | @suspend h ag => exact hclose h .suspended ag
  | cancel h => exact hclose h _ _
  | cancelObliged h => exact hclose h .cancelled .suspended

theorem attempt_closed_steps {b b' : Board} (h : Steps b b') {a : AttemptId} {w : AttemptView}
    (hw : b.attempt a = some w) (hclosed : w.active = false) :
    ∃ w', b'.attempt a = some w' ∧ w'.active = false := by
  induction h with
  | refl => exact ⟨w, hw, hclosed⟩
  | tail _ hstep ih =>
    obtain ⟨w₁, hw₁, hclosed₁⟩ := ih
    exact attempt_closed_step hstep hw₁ hclosed₁

/-- Agents are retired, never deleted. -/
theorem agent_persists_step {b b' : Board} (h : Step b b') (hg : (b.agent g).isSome = true) :
    (b'.agent g).isSome = true := by
  have hclose : ∀ (h : Board.Holding b) (st : TaskState) (ag : LogicalAgentState),
      ((b.close h st ag).agent g).isSome = true := by
    intro h st ag
    rw [Board.close_agent]
    split
    · rfl
    · exact hg
  have hmove : ∀ {O : LogicalAgentId → Prop} {ag' : LogicalAgentId → Option AgentView},
      Board.AgentsMove O b.agent ag' → (ag' g).isSome = true := by
    intro O ag' hm
    obtain ⟨u, hu⟩ := Option.isSome_iff_exists.mp hg
    obtain ⟨u', hu', -⟩ := hm.move g u hu
    rw [hu']
    rfl
  cases h with
  | tasks | submit | cancelIdle => exact hg
  | agents hm => exact hmove hm
  | resolve _ _ _ _ hm => exact hmove hm
  | claim =>
    rw [Board.claim_agent]
    split
    · rfl
    · exact hg
  | requeue h => exact hclose h _ _
  | @complete h ag => exact hclose h .completed ag
  | @suspend h ag => exact hclose h .suspended ag
  | cancel h => exact hclose h _ _
  | cancelObliged h => exact hclose h .cancelled .suspended

theorem agent_persists {b b' : Board} (h : Steps b b') (hg : (b.agent g).isSome = true) :
    (b'.agent g).isSome = true := by
  induction h with
  | refl => exact hg
  | tail _ hstep ih => exact agent_persists_step hstep ih

namespace Board.Sound

variable {b b' : Board}

theorem step (hb : b.Sound) (h : Step b b') : b'.Sound where
  coherent := hb.coherent.step h
  coupled := hb.coupled.step hb.coherent h
  recorded := hb.recorded.step hb.coherent h
  ordered := hb.ordered.step hb.coherent h

/-- **The invariants hold along every run.** -/
theorem steps (hb : b.Sound) (h : Steps b b') : b'.Sound := by
  induction h with
  | refl => exact hb
  | tail _ hstep ih => exact ih.step hstep

/-- Terminal tasks are final along every run. -/
theorem terminal_steps (hb : b.Sound) (h : Steps b b') {t : TaskId} {v : TaskView}
    (hv : b.task t = some v) (ht : v.state.isTerminal = true) :
    ∃ v', b'.task t = some v' ∧ v'.state = v.state := by
  induction h with
  | refl => exact ⟨v, hv, rfl⟩
  | tail hpre hstep ih =>
    obtain ⟨v₁, hv₁, hs₁⟩ := ih
    obtain ⟨v₂, hv₂, hs₂⟩ := terminal_step (hb.steps hpre).coherent hstep hv₁ (by rwa [hs₁])
    exact ⟨v₂, hv₂, hs₂.trans hs₁⟩

/-- An agent that is not fenced is under no obligation. -/
theorem not_obligated (hb : b.Sound) {u : AgentView} (hu : b.agent g = some u)
    (hf : u.state.fenced = false) : ¬ b.Obligated g := by
  intro ho
  obtain ⟨u', hu', hfenced, -⟩ := hb.coupled.fenced_of_obligated ho
  rw [hu] at hu'
  rw [← Option.some.inj hu', hf] at hfenced
  cases hfenced

/-- An agent with a task holds it. -/
theorem holds_of_current (hb : b.Sound) {u : AgentView} (hu : b.agent g = some u)
    (hc : u.current.isSome = true) : u.state.holds = true := by
  obtain ⟨t, ht⟩ := Option.isSome_iff_exists.mp hc
  exact (hb.coherent.holder g u t hu ht).1

end Board.Sound

end Agentype

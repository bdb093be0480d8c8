import Agentype.Scheduler.Board

/-!
# `Agentype.Scheduler.Coherent` — assignment coherence of the scheduler

Tasks, attempts, leases and agents agree about who works on what. The agreement is an inductive
invariant of the abstract machine: `Coherent.step`.

## Contents
- `Coherent b`: the agreement.
- What follows for a held claim: its rows are exactly the ones that mention it.
- One preservation lemma per kind of move, and `Coherent.step`.
-/

namespace Agentype

variable {a : AttemptId} {st : TaskState} {t : TaskId} {v : TaskView}
  {ts' : TaskId → Option TaskView}

namespace Board

/-- Tasks, attempts, leases and agents agree about the claims that are held. -/
structure Coherent (b : Board) : Prop where
  assigned_iff : ∀ t v, b.task t = some v → (v.state.isAssigned = true ↔ v.current.isSome = true)
  current_attempt : ∀ t v a, b.task t = some v → v.current = some a →
    ∃ w, b.attempt a = some w ∧ w.task = t ∧ w.epoch = v.fencing ∧ w.active = true
  active_current : ∀ a w, b.attempt a = some w → w.active = true →
    ∃ v, b.task w.task = some v ∧ v.current = some a
  attempt_task : ∀ a w, b.attempt a = some w → ∃ v, b.task w.task = some v ∧ w.epoch ≤ v.fencing
  attempt_lease : ∀ a w, b.attempt a = some w → ∃ l x, b.lease l = some x ∧ x.attempt = a
  lease_attempt : ∀ l x, b.lease l = some x → ∃ w, b.attempt x.attempt = some w ∧
    x.task = w.task ∧ x.epoch = w.epoch ∧ x.active = w.active
  lease_unique : ∀ l l' x x', b.lease l = some x → b.lease l' = some x' →
    x.attempt = x'.attempt → l = l'
  holder : ∀ g u t, b.agent g = some u → u.current = some t → u.state.holds = true ∧
    ∃ a w, b.attempt a = some w ∧ w.active = true ∧ w.task = t ∧ w.agent = g
  assigned_holds : ∀ g u, b.agent g = some u → u.state = .assigned → u.current.isSome = true
  active_holder : ∀ a w, b.attempt a = some w → w.active = true →
    ∃ u, b.agent w.agent = some u ∧ u.current = some w.task

namespace Coherent

variable {b : Board}

/-- A task has at most one active attempt. -/
theorem active_unique (hb : b.Coherent) {a' : AttemptId} {w w' : AttemptView}
    (ha : b.attempt a = some w) (ha' : b.attempt a' = some w') (hw : w.active = true)
    (hw' : w'.active = true) (ht : w.task = w'.task) : a = a' := by
  obtain ⟨v, hv, hc⟩ := hb.active_current a w ha hw
  obtain ⟨v', hv', hc'⟩ := hb.active_current a' w' ha' hw'
  rw [← ht, hv] at hv'
  obtain rfl := Option.some.inj hv'
  rw [hc] at hc'
  exact Option.some.inj hc'

/-- An agent has at most one active attempt. -/
theorem agent_active_unique (hb : b.Coherent) {a' : AttemptId} {w w' : AttemptView}
    (ha : b.attempt a = some w) (ha' : b.attempt a' = some w') (hw : w.active = true)
    (hw' : w'.active = true) (hg : w.agent = w'.agent) : a = a' := by
  obtain ⟨u, hu, hc⟩ := hb.active_holder a w ha hw
  obtain ⟨u', hu', hc'⟩ := hb.active_holder a' w' ha' hw'
  rw [← hg, hu] at hu'
  obtain rfl := Option.some.inj hu'
  rw [hc] at hc'
  exact hb.active_unique ha ha' hw hw' (Option.some.inj hc')

section Holding

variable (hb : b.Coherent) (h : Holding b)
include hb

/-- The task of a held claim names its attempt. -/
theorem holding_current : h.taskView.current = some h.attempt := by
  obtain ⟨v, hv, hc⟩ := hb.active_current _ _ h.attempt_eq h.attempt_active
  rw [h.attempt_task, h.task_eq] at hv
  rwa [Option.some.inj hv]

theorem holding_assigned : h.taskView.state.isAssigned = true := by
  rw [hb.assigned_iff _ _ h.task_eq, hb.holding_current h]
  rfl

/-- The agent of a held claim works on its task. -/
theorem holding_agent : ∃ u, b.agent h.agent = some u ∧ u.current = some h.task ∧
    u.state.holds = true := by
  obtain ⟨u, hu, hc⟩ := hb.active_holder _ _ h.attempt_eq h.attempt_active
  rw [h.attempt_task] at hc
  exact ⟨u, hu, hc, (hb.holder _ _ _ hu hc).1⟩

end Holding

/-! ## Preservation -/

/-- **Closing a claim.** The attempt, the lease, the task and the agent let go of each other. -/
theorem close (hb : b.Coherent) (h : Holding b) {ag : LogicalAgentState}
    (hst : st.isAssigned = false) (hag : ag.holds = false) : (b.close h st ag).Coherent := by
  have hcur := hb.holding_current h
  have ht := h.task_eq
  have ha := h.attempt_eq
  have hl := h.lease_eq
  have hat := h.attempt_task
  have hact := h.attempt_active
  have hla := h.lease_attempt
  have hg : h.agent = h.attemptView.agent := rfl
  refine ⟨?_, ?_, ?_, ?_, ?_, ?_, ?_, ?_, ?_, ?_⟩
  · intro t v hv
    have := hb.assigned_iff t
    grind
  · intro t v a hv hc
    have := hb.current_attempt t
    grind
  · intro a w hw hactive
    have := hb.active_current a
    grind
  · intro a w hw
    have := hb.attempt_task a
    grind
  · intro a w hw
    by_cases haa : a = h.attempt
    · exact ⟨h.lease, { h.leaseView with active := false }, by rw [close_lease, if_pos rfl],
        hla.trans haa.symm⟩
    · rw [close_attempt, if_neg haa] at hw
      obtain ⟨l, x, hx, hxa⟩ := hb.attempt_lease a w hw
      refine ⟨l, x, ?_, hxa⟩
      have hne : l ≠ h.lease := by
        rintro rfl
        rw [hl] at hx
        exact haa (by rw [← hxa, ← Option.some.inj hx, hla])
      rw [close_lease, if_neg hne, hx]
  · intro l x hx
    have := hb.lease_attempt l
    have := hb.lease_attempt h.lease
    have := hb.lease_unique l h.lease
    grind
  · intro l l' x x' hx hx'
    have := hb.lease_unique l l'
    grind
  · intro g u t hu hc
    rw [close_agent] at hu
    split at hu
    · cases hu
      cases hc
    · rename_i hne
      obtain ⟨hh, a, w, hw, hactive, hwt, hwg⟩ := hb.holder g u t hu hc
      refine ⟨hh, a, w, ?_, hactive, hwt, hwg⟩
      have haa : a ≠ h.attempt := by
        rintro rfl
        rw [ha] at hw
        exact hne (by rw [← hwg, ← Option.some.inj hw, hg])
      rw [close_attempt, if_neg haa, hw]
  · intro g u hu hs
    have := hb.assigned_holds g
    grind [LogicalAgentState.holds]
  · intro a w hw hactive
    have := hb.active_holder a
    have : ∀ w', b.attempt a = some w' → w'.active = true → w'.agent = h.agent → a = h.attempt :=
      fun w' hw' hactive' hagent => hb.agent_active_unique hw' ha hactive' hact hagent
    grind

/-- **Claiming a task.** -/
theorem claim (hb : b.Coherent) {l : LeaseId} {g : LogicalAgentId} {u : AgentView}
    (ht : b.task t = some v) (hq : v.state = .queued) (hg : b.agent g = some u)
    (hi : u.current = none) (ha : b.attempt a = none) (hl : b.lease l = none) :
    (b.claim t v a l g).Coherent := by
  have hcur : v.current = none := by
    have := hb.assigned_iff t v ht
    rw [hq] at this
    simpa [TaskState.isAssigned] using this
  refine ⟨?_, ?_, ?_, ?_, ?_, ?_, ?_, ?_, ?_, ?_⟩
  · intro t' v' hv
    have := hb.assigned_iff t'
    grind [TaskState.isAssigned]
  · intro t' v' a' hv hc
    rw [claim_task] at hv
    split at hv
    · rename_i htt
      cases hv
      cases hc
      exact ⟨_, by rw [claim_attempt, if_pos rfl], htt.symm, rfl, rfl⟩
    · obtain ⟨w, hw, hrest⟩ := hb.current_attempt t' v' a' hv hc
      refine ⟨w, ?_, hrest⟩
      have haa : a' ≠ a := by
        rintro rfl
        rw [ha] at hw
        cases hw
      rw [claim_attempt, if_neg haa, hw]
  · intro a' w hw hactive
    have := hb.active_current a'
    grind
  · intro a' w hw
    have := hb.attempt_task a'
    grind
  · intro a' w hw
    by_cases haa : a' = a
    · subst haa
      exact ⟨l, _, by rw [claim_lease, if_pos rfl], rfl⟩
    · rw [claim_attempt, if_neg haa] at hw
      obtain ⟨l', x, hx, hxa⟩ := hb.attempt_lease a' w hw
      refine ⟨l', x, ?_, hxa⟩
      have hne : l' ≠ l := by
        rintro rfl
        rw [hl] at hx
        cases hx
      rw [claim_lease, if_neg hne, hx]
  · intro l' x hx
    rw [claim_lease] at hx
    split at hx
    · cases hx
      exact ⟨_, by rw [claim_attempt, if_pos rfl], rfl, rfl, rfl⟩
    · obtain ⟨w, hw, hrest⟩ := hb.lease_attempt l' x hx
      refine ⟨w, ?_, hrest⟩
      have haa : x.attempt ≠ a := by
        intro hxa
        rw [hxa, ha] at hw
        cases hw
      rw [claim_attempt, if_neg haa, hw]
  · intro l₁ l₂ x₁ x₂ hx₁ hx₂
    have := hb.lease_unique l₁ l₂
    have := hb.lease_attempt l₁
    have := hb.lease_attempt l₂
    grind
  · intro g' u' t' hu hc
    rw [claim_agent] at hu
    split at hu
    · rename_i hgg
      cases hu
      cases hc
      exact ⟨rfl, a, _, by rw [claim_attempt, if_pos rfl], rfl, rfl, hgg.symm⟩
    · obtain ⟨hh, a', w, hw, hactive, hwt, hwg⟩ := hb.holder g' u' t' hu hc
      refine ⟨hh, a', w, ?_, hactive, hwt, hwg⟩
      have haa : a' ≠ a := by
        rintro rfl
        rw [ha] at hw
        cases hw
      rw [claim_attempt, if_neg haa, hw]
  · intro g' u' hu hs
    have := hb.assigned_holds g'
    grind
  · intro a' w hw hactive
    have := hb.active_holder a'
    grind

/-- The board's claims are told by tasks, attempts, leases and agents alone. -/
theorem of_eq (hb : b.Coherent) {b' : Board} (ht : b'.task = b.task) (ha : b'.attempt = b.attempt)
    (hl : b'.lease = b.lease) (hg : b'.agent = b.agent) : b'.Coherent := by
  refine ⟨?_, ?_, ?_, ?_, ?_, ?_, ?_, ?_, ?_, ?_⟩ <;> simp only [ht, ha, hl, hg]
  exacts [hb.assigned_iff, hb.current_attempt, hb.active_current, hb.attempt_task,
    hb.attempt_lease, hb.lease_attempt, hb.lease_unique, hb.holder, hb.assigned_holds,
    hb.active_holder]

/-- A change of the tasks that keeps claims and epochs and adds unclaimed tasks only. -/
structure KeepsClaims (ts ts' : TaskId → Option TaskView) : Prop where
  keep : ∀ t v, ts t = some v → ∃ v', ts' t = some v' ∧ v'.current = v.current ∧
    v'.fencing = v.fencing ∧ v'.state.isAssigned = v.state.isAssigned
  new : ∀ t v', ts t = none → ts' t = some v' → v'.current = none ∧ v'.state.isAssigned = false

theorem retask (hb : b.Coherent) (h : KeepsClaims b.task ts') :
    Coherent { b with task := ts' } := by
  have back : ∀ t v', ts' t = some v' → v'.current.isSome = true →
      ∃ v, b.task t = some v ∧ v'.current = v.current ∧ v'.fencing = v.fencing := by
    intro t v' hv' hc
    cases hv : b.task t with
    | none => grind [(h.new t v' hv hv').1]
    | some v =>
      obtain ⟨v'', hv'', h₁, h₂, -⟩ := h.keep t v hv
      rw [hv'] at hv''
      obtain rfl := Option.some.inj hv''
      exact ⟨v, rfl, h₁, h₂⟩
  refine ⟨?_, ?_, ?_, ?_, hb.attempt_lease, hb.lease_attempt, hb.lease_unique, hb.holder,
    hb.assigned_holds, hb.active_holder⟩
  · intro t v' hv'
    cases hv : b.task t with
    | none =>
      obtain ⟨hc, hs⟩ := h.new t v' hv hv'
      simp [hc, hs]
    | some v =>
      obtain ⟨v'', hv'', h₁, -, h₃⟩ := h.keep t v hv
      cases hv'.symm.trans hv''
      rw [h₁, h₃]
      exact hb.assigned_iff t v hv
  · intro t v' a hv' hc
    obtain ⟨v, hv, h₁, h₂⟩ := back t v' hv' (by rw [hc]; rfl)
    rw [h₂]
    exact hb.current_attempt t v a hv (h₁ ▸ hc)
  · intro a w hw hactive
    obtain ⟨v, hv, hc⟩ := hb.active_current a w hw hactive
    obtain ⟨v', hv', h₁, -, -⟩ := h.keep _ v hv
    exact ⟨v', hv', h₁.trans hc⟩
  · intro a w hw
    obtain ⟨v, hv, hle⟩ := hb.attempt_task a w hw
    obtain ⟨v', hv', -, h₂, -⟩ := h.keep _ v hv
    exact ⟨v', hv', h₂ ▸ hle⟩

theorem reagent (hb : b.Coherent) {O : LogicalAgentId → Prop}
    {ag' : LogicalAgentId → Option AgentView} (h : AgentsMove O b.agent ag') :
    Coherent { b with agent := ag' } := by
  have back : ∀ g u', ag' g = some u' →
      (u'.current = none ∧ u'.state ≠ .assigned) ∨
        ∃ u, b.agent g = some u ∧ AgentMove O g u u' := by
    intro g u' hu'
    cases hu : b.agent g with
    | none => exact .inl (h.born g u' hu hu')
    | some u =>
      obtain ⟨u'', hu'', hmove⟩ := h.move g u hu
      cases hu'.symm.trans hu''
      exact .inr ⟨u, rfl, hmove⟩
  refine ⟨hb.assigned_iff, hb.current_attempt, hb.active_current, hb.attempt_task,
    hb.attempt_lease, hb.lease_attempt, hb.lease_unique, ?_, ?_, ?_⟩
  · intro g u' t hu' hc
    rcases back g u' hu' with ⟨hnone, -⟩ | ⟨u, hu, hmove⟩
    · rw [hnone] at hc
      cases hc
    · rw [hmove.current] at hc
      obtain ⟨hh, hex⟩ := hb.holder g u t hu hc
      exact ⟨hmove.holds (by rw [hc]; rfl) hh, hex⟩
  · intro g u' hu' hs
    rcases back g u' hu' with ⟨-, hno⟩ | ⟨u, hu, hmove⟩
    · exact absurd hs hno
    · rw [hmove.current]
      by_contra hno
      have hidle : u.current = none := by simpa using hno
      refine hmove.idle hidle (fun hass => ?_) hs
      exact hno (hb.assigned_holds g u hu hass)
  · intro a w hw hactive
    obtain ⟨u, hu, hc⟩ := hb.active_holder a w hw hactive
    obtain ⟨u', hu', hmove⟩ := h.move _ u hu
    exact ⟨u', hu', hmove.current.trans hc⟩

/-! ## The task moves of the machine keep the claims -/

/-- The state changes of a task that involve no claim: an ordinary advance, the release of a
    blocked task, the cancellation of an unclaimed one. -/
def Drift (v : TaskView) (st : TaskState) : Prop :=
  TaskState.advances v.state st = true ∨ v.state = .blocked ∧ st = .queued ∨
    v.current = none ∧ v.state.isTerminal = false ∧ st = .cancelled

/-- Every task drifts, and a new one is unclaimed. -/
structure Drifts (ts ts' : TaskId → Option TaskView) : Prop where
  move : ∀ t v, ts t = some v → ∃ st, ts' t = some { v with state := st } ∧ Drift v st
  born : ∀ t v', ts t = none → ts' t = some v' →
    v'.current = none ∧ (v'.state = .queued ∨ v'.state = .blocked)

namespace Drifts

theorem of_absent {ts : TaskId → Option TaskView}
    (hmove : ∀ t v, ts t = some v → ∃ st, ts' t = some { v with state := st } ∧ Drift v st)
    (habsent : ∀ t, ts t = none → ts' t = none) : Drifts ts ts' := by
  refine ⟨hmove, fun t v' hv hv' => ?_⟩
  cases (habsent t hv).symm.trans hv'

theorem of_tasksMove {ts : TaskId → Option TaskView} (h : TasksMove ts ts') : Drifts ts ts' := by
  refine of_absent (fun t v hv => ?_) h.absent
  obtain ⟨st, hst, hadv⟩ := h.move t v hv
  exact ⟨st, hst, .inl hadv⟩

theorem stays (v : TaskView) : Drift v v.state := by
  refine .inl ?_
  cases v.state <;> rfl

theorem of_wakes {batch : BatchId} (h : Wakes b batch ts') : Drifts b.task ts' := by
  refine of_absent (fun t v hv => ?_) h.absent
  rcases h.move t v hv with hsame | ⟨hblocked, -, hq⟩
  · exact ⟨v.state, hsame, stays v⟩
  · exact ⟨.queued, hq, .inr (.inl ⟨hblocked, rfl⟩)⟩

theorem of_cancellation {es' : EscalationId → Option EscalationView} (h : Cancellation b ts' es') :
    Drifts b.task ts' := by
  refine of_absent (fun t v hv => ?_) h.task_absent
  rcases h.task t v hv with hsame | ⟨hc, hterm, hq⟩
  · exact ⟨v.state, hsame, stays v⟩
  · exact ⟨.cancelled, hq, .inr (.inr ⟨hc, hterm, rfl⟩)⟩

theorem of_submission {N : TaskId → Option TaskView} {D : TaskId → TaskId → Prop}
    (h : Submission b N D) : Drifts b.task fun t => (N t).or (b.task t) := by
  refine ⟨fun t v hv => ⟨v.state, ?_, stays v⟩, fun t v' hv hv' => ?_⟩
  · cases hN : N t with
    | none => rw [Option.none_or, hv]
    | some v' =>
      rw [h.fresh t v' hN] at hv
      cases hv
  · simp only [hv, Option.or_none] at hv'
    exact ⟨h.unclaimed t v' hv', (h.state t v' hv').imp And.left And.left⟩

/-- A task that is neither queued nor blocked was there before. -/
theorem before {ts : TaskId → Option TaskView} (h : Drifts ts ts') {v' : TaskView}
    (hv' : ts' t = some v') (hq : v'.state ≠ .queued) (hb : v'.state ≠ .blocked) :
    ∃ v, ts t = some v ∧ Drift v v'.state := by
  cases hv : ts t with
  | none => exact absurd (h.born t v' hv hv').2 (not_or.mpr ⟨hq, hb⟩)
  | some v =>
    obtain ⟨st, hst, hd⟩ := h.move t v hv
    cases hv'.symm.trans hst
    exact ⟨v, rfl, hd⟩

/-- A terminal task stays as it is. -/
theorem terminal {st : TaskState} (h : Drift v st) (ht : v.state.isTerminal = true) :
    st = v.state := by
  rcases h with h | ⟨hs, -⟩ | ⟨-, hs, -⟩
  · revert ht h
    cases v.state <;> cases st <;> decide
  · rw [hs] at ht
    cases ht
  · rw [hs] at ht
    cases ht

end Drifts

/-- A task without a claim is not assigned. -/
theorem idle_of_current_none (hb : b.Coherent) (hv : b.task t = some v) (hc : v.current = none) :
    v.state.isAssigned = false := by
  have h := hb.assigned_iff t v hv
  rw [hc] at h
  simpa using h

theorem keepsClaims_of_drifts (hb : b.Coherent) (h : Drifts b.task ts') :
    KeepsClaims b.task ts' := by
  refine ⟨fun t v hv => ?_, fun t v' hv hv' => ?_⟩
  · obtain ⟨st, hst, hd⟩ := h.move t v hv
    refine ⟨_, hst, rfl, rfl, ?_⟩
    show st.isAssigned = v.state.isAssigned
    rcases hd with hadv | ⟨hs, rfl⟩ | ⟨hc, -, rfl⟩
    · revert hadv
      cases v.state <;> cases st <;> decide
    · rw [hs]
      rfl
    · exact (hb.idle_of_current_none hv hc).symm
  · obtain ⟨hc, hs | hs⟩ := h.born t v' hv hv' <;> exact ⟨hc, by rw [hs]; rfl⟩

/-- Rewriting the state of one task between unassigned states. -/
theorem keepsClaims_update (hv : b.task t = some v) (hst : st.isAssigned = v.state.isAssigned) :
    KeepsClaims b.task (Function.update b.task t (some { v with state := st })) := by
  refine ⟨fun t' v' hv' => ?_, fun t' v' hnone hv' => ?_⟩
  · rw [Function.update_apply]
    split
    · rename_i heq
      rw [heq, hv] at hv'
      obtain rfl := Option.some.inj hv'
      exact ⟨_, rfl, rfl, rfl, hst⟩
    · exact ⟨v', hv', rfl, rfl, rfl⟩
  · rw [Function.update_apply] at hv'
    split at hv'
    · rename_i heq
      rw [heq, hv] at hnone
      cases hnone
    · rw [hnone] at hv'
      cases hv'

/-! ## The step theorem -/

theorem holds_of_released {ag : LogicalAgentState}
    (h : ag.released = true) : ag.holds = false := by
  revert h
  cases ag <;> decide

/-- **Assignment coherence is inductive.** -/
theorem step (hb : b.Coherent) {b' : Board} (h : Step b b') : b'.Coherent := by
  cases h with
  | agents h => exact hb.reagent h
  | tasks h => exact hb.retask (hb.keepsClaims_of_drifts (.of_tasksMove h))
  | submit h => exact (hb.retask (hb.keepsClaims_of_drifts (.of_submission h))).of_eq rfl rfl rfl rfl
  | claim ht hq hg _ hi ha hl => exact hb.claim ht hq hg hi ha hl
  | requeue h hst hag =>
    refine hb.close h ?_ (holds_of_released hag)
    rcases hst with rfl | rfl <;> rfl
  | @complete h ag r ts' hag _ hw =>
    have hclose : (b.close h .completed ag).Coherent := hb.close h rfl (holds_of_released hag)
    have hstore : ((b.close h .completed ag).store r ⟨h.task, h.attempt⟩).Coherent :=
      hclose.of_eq rfl rfl rfl rfl
    exact hstore.retask (hstore.keepsClaims_of_drifts (.of_wakes hw))
  | @suspend h ag e tag hag _ _ =>
    have hclose : (b.close h .suspended ag).Coherent := hb.close h rfl (holds_of_released hag)
    exact hclose.of_eq rfl rfl rfl rfl
  | cancel h hag => exact hb.close h rfl (holds_of_released hag)
  | cancelObliged h _ =>
    have hclose : (b.close h .cancelled .suspended).Coherent := hb.close h rfl rfl
    exact hclose.of_eq rfl rfl rfl rfl
  | cancelIdle h =>
    exact (hb.retask (hb.keepsClaims_of_drifts (.of_cancellation h))).of_eq rfl rfl rfl rfl
  | @resolve e x v st ag' _ _ ht hst hag =>
    have hsame : st.isAssigned = v.state.isAssigned := by
      rcases hst with ⟨h, rfl⟩ | ⟨h, rfl⟩ | ⟨h, rfl⟩ <;> rw [h] <;> rfl
    exact ((hb.retask (keepsClaims_update ht hsame)).reagent hag).of_eq rfl rfl rfl rfl

end Coherent

end Board

end Agentype

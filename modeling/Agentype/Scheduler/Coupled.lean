import Agentype.Scheduler.Coherent

/-!
# `Agentype.Scheduler.Coupled` — decisions that wait for the root

A suspended task waits for exactly one open escalation, and an open writer-safety obligation keeps
its agent fenced. Both are inductive on the abstract machine, given assignment coherence.

## Contents
- `Coupled b`: escalations against tasks and agents.
- `Coupled.not_open_of_assigned`, `Coupled.not_obligated_of_current`: what a held claim excludes.
- One preservation lemma per kind of move, and `Coupled.step`.
-/

namespace Agentype

variable {v : TaskView} {e : EscalationId} {x : EscalationView} {st : TaskState}
  {ts' : TaskId → Option TaskView}

namespace Board

/-- Open escalations, suspended tasks and fenced agents agree. -/
structure Coupled (b : Board) : Prop where
  open_task : ∀ e x, b.escalation e = some x → x.isOpen = true →
    ∃ v, b.task x.task = some v ∧ v.batch = x.batch ∧ (v.state = .suspended ∨ v.state = .cancelled)
  suspended_open : ∀ t v, b.task t = some v → v.state = .suspended →
    ∃ e x, b.escalation e = some x ∧ x.isOpen = true ∧ x.task = t
  open_unique : ∀ e e' x x', b.escalation e = some x → b.escalation e' = some x' →
    x.isOpen = true → x'.isOpen = true → x.task = x'.task → e = e'
  obligated : ∀ e x, b.escalation e = some x → x.isOpen = true → x.tag = writerUnknown →
    ∃ g u, x.agent = some g ∧ b.agent g = some u ∧ u.state.fenced = true ∧ u.current = none
  obligated_unique : ∀ e e' x x', b.escalation e = some x → b.escalation e' = some x' →
    x.isOpen = true → x'.isOpen = true → x.tag = writerUnknown → x'.tag = writerUnknown →
    x.agent = x'.agent → e = e'

namespace Coupled

variable {b : Board}

/-- Only suspended and cancelled tasks have an open escalation. -/
theorem not_open_of_state (hb : b.Coupled) {t : TaskId} (hv : b.task t = some v)
    (hs : v.state ≠ .suspended) (hc : v.state ≠ .cancelled) (hx : b.escalation e = some x)
    (ho : x.isOpen = true) : x.task ≠ t := by
  rintro rfl
  obtain ⟨v', hv', -, hst⟩ := hb.open_task e x hx ho
  rw [hv] at hv'
  obtain rfl := Option.some.inj hv'
  exact hst.elim hs hc

/-- A task with a claim has no open escalation. -/
theorem not_open_of_holding (hb : b.Coupled) (hc : b.Coherent) (h : Holding b)
    (hx : b.escalation e = some x) (ho : x.isOpen = true) : x.task ≠ h.task := by
  have hassigned := hc.holding_assigned h
  refine hb.not_open_of_state h.task_eq ?_ ?_ hx ho
  · intro hs
    rw [hs] at hassigned
    cases hassigned
  · intro hs
    rw [hs] at hassigned
    cases hassigned

/-- An agent under obligation is fenced and idle. -/
theorem fenced_of_obligated (hb : b.Coupled) {g : LogicalAgentId} (ho : b.Obligated g) :
    ∃ u, b.agent g = some u ∧ u.state.fenced = true ∧ u.current = none := by
  obtain ⟨e, x, hx, hopen, htag, hg⟩ := ho
  obtain ⟨g', u, hg', hu, hf, hc⟩ := hb.obligated e x hx hopen htag
  rw [hg] at hg'
  obtain rfl := Option.some.inj hg'
  exact ⟨u, hu, hf, hc⟩

theorem not_obligated_of_holding (hb : b.Coupled) (hc : b.Coherent) (h : Holding b) :
    ¬ b.Obligated h.agent := by
  intro ho
  obtain ⟨u, hu, -, hcur⟩ := hb.fenced_of_obligated ho
  obtain ⟨u', hu', hcur', -⟩ := hc.holding_agent h
  rw [hu] at hu'
  obtain rfl := Option.some.inj hu'
  rw [hcur] at hcur'
  cases hcur'

/-! ## Preservation -/

/-- Closing a claim without suspending its task. -/
theorem close (hb : b.Coupled) (hc : b.Coherent) (h : Holding b) {ag : LogicalAgentState}
    (hst : st ≠ .suspended) : (b.close h st ag).Coupled := by
  refine ⟨?_, ?_, hb.open_unique, ?_, hb.obligated_unique⟩
  · intro e x hx ho
    obtain ⟨v, hv, hrest⟩ := hb.open_task e x hx ho
    exact ⟨v, by rw [close_task, if_neg (hb.not_open_of_holding hc h hx ho), hv], hrest⟩
  · intro t v hv hs
    rw [close_task] at hv
    split at hv
    · cases hv
      exact absurd hs hst
    · exact hb.suspended_open t v hv hs
  · intro e x hx ho htag
    obtain ⟨g, u, hg, hu, hrest⟩ := hb.obligated e x hx ho htag
    have hne : g ≠ h.agent := by
      rintro rfl
      exact hb.not_obligated_of_holding hc h ⟨e, x, hx, ho, htag, hg⟩
    exact ⟨g, u, hg, by rw [close_agent, if_neg hne, hu], hrest⟩

/-- Closing a claim and opening the escalation of its task; `ag` is fenced when the escalation is
    a writer-safety obligation. -/
theorem close_raise (hb : b.Coupled) (hc : b.Coherent) (h : Holding b) {ag : LogicalAgentState}
    {tag : EscalationTag} (hst : st = .suspended ∨ st = .cancelled) (he : b.escalation e = none)
    (htag : tag = writerUnknown → ag = .suspended) :
    ((b.close h st ag).raise e (h.escalation tag)).Coupled := by
  have old : ∀ e' x, ((b.close h st ag).raise e (h.escalation tag)).escalation e' = some x →
      (e' = e ∧ x = h.escalation tag) ∨ b.escalation e' = some x := by
    intro e' x hx
    rw [raise_escalation] at hx
    split at hx
    · rename_i heq
      exact .inl ⟨heq, (Option.some.inj hx).symm⟩
    · exact .inr hx
  have keep : ∀ e' x, b.escalation e' = some x →
      ((b.close h st ag).raise e (h.escalation tag)).escalation e' = some x := by
    intro e' x hx
    have hne : e' ≠ e := by
      rintro rfl
      rw [he] at hx
      cases hx
    rw [raise_escalation, if_neg hne]
    exact hx
  refine ⟨?_, ?_, ?_, ?_, ?_⟩
  · intro e' x hx ho
    rcases old e' x hx with ⟨-, rfl⟩ | hx
    · exact ⟨{ h.taskView with state := st, current := none },
        by rw [raise_task]; exact (close_task h.task).trans (if_pos rfl), rfl, hst⟩
    · obtain ⟨v, hv, hrest⟩ := hb.open_task e' x hx ho
      exact ⟨v, by rw [raise_task, close_task, if_neg (hb.not_open_of_holding hc h hx ho), hv],
        hrest⟩
  · intro t v hv hs
    rw [raise_task, close_task] at hv
    split at hv
    · rename_i heq
      exact ⟨e, h.escalation tag, by rw [raise_escalation, if_pos rfl], rfl, heq.symm⟩
    · obtain ⟨e', x, hx, hrest⟩ := hb.suspended_open t v hv hs
      exact ⟨e', x, keep e' x hx, hrest⟩
  · intro e₁ e₂ x₁ x₂ h₁ h₂ ho₁ ho₂ ht
    rcases old e₁ x₁ h₁ with ⟨hk₁, rfl⟩ | k₁ <;> rcases old e₂ x₂ h₂ with ⟨hk₂, rfl⟩ | k₂
    · exact hk₁.trans hk₂.symm
    · exact absurd ht.symm (hb.not_open_of_holding hc h k₂ ho₂)
    · exact absurd ht (hb.not_open_of_holding hc h k₁ ho₁)
    · exact hb.open_unique e₁ e₂ x₁ x₂ k₁ k₂ ho₁ ho₂ ht
  · intro e' x hx ho hw
    rcases old e' x hx with ⟨-, rfl⟩ | hx
    · obtain rfl := htag hw
      exact ⟨h.agent, ⟨.suspended, none⟩, rfl, by rw [raise_agent, close_agent, if_pos rfl],
        rfl, rfl⟩
    · obtain ⟨g, u, hg, hu, hrest⟩ := hb.obligated e' x hx ho hw
      have hne : g ≠ h.agent := by
        rintro rfl
        exact hb.not_obligated_of_holding hc h ⟨e', x, hx, ho, hw, hg⟩
      exact ⟨g, u, hg, by rw [raise_agent, close_agent, if_neg hne, hu], hrest⟩
  · intro e₁ e₂ x₁ x₂ h₁ h₂ ho₁ ho₂ hw₁ hw₂ hg
    have free := hb.not_obligated_of_holding hc h
    rcases old e₁ x₁ h₁ with ⟨hk₁, rfl⟩ | k₁ <;> rcases old e₂ x₂ h₂ with ⟨hk₂, rfl⟩ | k₂
    · exact hk₁.trans hk₂.symm
    · exact absurd ⟨e₂, x₂, k₂, ho₂, hw₂, hg.symm⟩ free
    · exact absurd ⟨e₁, x₁, k₁, ho₁, hw₁, hg⟩ free
    · exact hb.obligated_unique e₁ e₂ x₁ x₂ k₁ k₂ ho₁ ho₂ hw₁ hw₂ hg

/-- A change of the tasks that keeps batches and neither suspends a task nor ends a suspension. -/
structure KeepsSuspensions (ts ts' : TaskId → Option TaskView) : Prop where
  keep : ∀ t v, ts t = some v → v.state = .suspended ∨ v.state = .cancelled →
    ∃ v', ts' t = some v' ∧ v'.batch = v.batch ∧ (v'.state = .suspended ∨ v'.state = .cancelled)
  new : ∀ t v', ts' t = some v' → v'.state = .suspended →
    ∃ v, ts t = some v ∧ v.state = .suspended

theorem retask (hb : b.Coupled) (h : KeepsSuspensions b.task ts') :
    Coupled { b with task := ts' } := by
  refine ⟨?_, ?_, hb.open_unique, hb.obligated, hb.obligated_unique⟩
  · intro e x hx ho
    obtain ⟨v, hv, hbatch, hs⟩ := hb.open_task e x hx ho
    obtain ⟨v', hv', hbatch', hs'⟩ := h.keep _ v hv hs
    exact ⟨v', hv', hbatch'.trans hbatch, hs'⟩
  · intro t v' hv' hs
    obtain ⟨v, hv, hs'⟩ := h.new t v' hv' hs
    exact hb.suspended_open t v hv hs'

theorem reagent (hb : b.Coupled) {O : LogicalAgentId → Prop}
    {ag' : LogicalAgentId → Option AgentView} (hO : ∀ g, b.Obligated g → O g)
    (h : AgentsMove O b.agent ag') : Coupled { b with agent := ag' } := by
  refine ⟨hb.open_task, hb.suspended_open, hb.open_unique, ?_, hb.obligated_unique⟩
  intro e x hx ho hw
  obtain ⟨g, u, hg, hu, hf, hc⟩ := hb.obligated e x hx ho hw
  obtain ⟨u', hu', hmove⟩ := h.move g u hu
  exact ⟨g, u', hg, hu', hmove.fenced (hO g ⟨e, x, hx, ho, hw, hg⟩) hf, hmove.current.trans hc⟩

/-- The obligations and decisions of a board are told by tasks, agents and escalations alone. -/
theorem of_eq (hb : b.Coupled) {b' : Board} (ht : b'.task = b.task) (hg : b'.agent = b.agent)
    (he : b'.escalation = b.escalation) : b'.Coupled := by
  refine ⟨?_, ?_, ?_, ?_, ?_⟩ <;> simp only [ht, hg, he]
  exacts [hb.open_task, hb.suspended_open, hb.open_unique, hb.obligated, hb.obligated_unique]

theorem claim (hb : b.Coupled) {t : TaskId} {a : AttemptId} {l : LeaseId} {g : LogicalAgentId}
    {u : AgentView} (ht : b.task t = some v) (hq : v.state = .queued) (hg : b.agent g = some u)
    (hr : u.state = .ready) : (b.claim t v a l g).Coupled := by
  refine ⟨?_, ?_, hb.open_unique, ?_, hb.obligated_unique⟩
  · intro e x hx ho
    obtain ⟨v', hv', hrest⟩ := hb.open_task e x hx ho
    have hne : x.task ≠ t :=
      hb.not_open_of_state ht (by rw [hq]; decide) (by rw [hq]; decide) hx ho
    exact ⟨v', by rw [claim_task, if_neg hne, hv'], hrest⟩
  · intro t' v' hv' hs
    rw [claim_task] at hv'
    split at hv'
    · cases hv'
      cases hs
    · exact hb.suspended_open t' v' hv' hs
  · intro e x hx ho hw
    obtain ⟨g', u', hg', hu', hf, hc⟩ := hb.obligated e x hx ho hw
    have hne : g' ≠ g := by
      rintro rfl
      rw [hg] at hu'
      obtain rfl := Option.some.inj hu'
      rw [hr] at hf
      cases hf
    exact ⟨g', u', hg', by rw [claim_agent, if_neg hne, hu'], hf, hc⟩

/-- Cancelling unclaimed tasks closes no decision of a task that stays suspended. -/
theorem cancelIdle (hb : b.Coupled) {es' : EscalationId → Option EscalationView}
    (h : Cancellation b ts' es') : Coupled { b with task := ts', escalation := es' } := by
  have back : ∀ e x', es' e = some x' → x'.isOpen = true → b.escalation e = some x' := by
    intro e x' hx' ho
    cases hx : b.escalation e with
    | none =>
      rw [h.escalation_absent e hx] at hx'
      cases hx'
    | some x =>
      rcases h.escalation e x hx with hsame | ⟨-, -, hclosed⟩
      · rw [← hx', hsame]
      · rw [hclosed] at hx'
        obtain rfl := Option.some.inj hx'
        cases ho
  refine ⟨?_, ?_, ?_, ?_, ?_⟩
  · intro e x hx ho
    obtain ⟨v, hv, hbatch, hs⟩ := hb.open_task e x (back e x hx ho) ho
    rcases h.task _ v hv with hsame | ⟨-, -, hcancel⟩
    · exact ⟨v, hsame, hbatch, hs⟩
    · exact ⟨_, hcancel, hbatch, .inr rfl⟩
  · intro t v' (hv' : ts' t = some v') hs
    cases hv : b.task t with
    | none =>
      rw [h.task_absent t hv] at hv'
      cases hv'
    | some v =>
      have hsame : v' = v := by
        rcases h.task t v hv with hsame | ⟨-, -, hcancel⟩
        · exact Option.some.inj (hv'.symm.trans hsame)
        · rw [hcancel] at hv'
          obtain rfl := Option.some.inj hv'
          cases hs
      subst hsame
      obtain ⟨e, x, hx, ho, rfl⟩ := hb.suspended_open t v' hv hs
      rcases h.escalation e x hx with hkeep | ⟨-, ⟨v'', hv'', hc⟩, -⟩
      · exact ⟨e, x, hkeep, ho, rfl⟩
      · rw [hv'] at hv''
        obtain rfl := Option.some.inj hv''
        rw [hs] at hc
        cases hc
  · intro e e' x x' hx hx' ho ho'
    exact hb.open_unique e e' x x' (back e x hx ho) (back e' x' hx' ho') ho ho'
  · intro e x hx ho
    exact hb.obligated e x (back e x hx ho) ho
  · intro e e' x x' hx hx' ho ho'
    exact hb.obligated_unique e e' x x' (back e x hx ho) (back e' x' hx' ho') ho ho'

/-- Closing the open escalation of a task and moving the task on. -/
theorem decide (hb : b.Coupled) (he : b.escalation e = some x) (ho : x.isOpen = true)
    (hst : st ≠ .suspended) :
    Coupled { b.decide e x with
      task := Function.update b.task x.task (some { v with state := st }) } := by
  have back : ∀ e' x', (b.decide e x).escalation e' = some x' → x'.isOpen = true →
      e' ≠ e ∧ b.escalation e' = some x' := by
    intro e' x' hx' ho'
    simp only [Board.decide, Function.update_apply] at hx'
    split at hx'
    · obtain rfl := Option.some.inj hx'
      cases ho'
    · rename_i hne
      exact ⟨hne, hx'⟩
  refine ⟨?_, ?_, ?_, ?_, ?_⟩
  · intro e' x' hx' ho'
    obtain ⟨hne, hx'⟩ := back e' x' hx' ho'
    obtain ⟨v', hv', hrest⟩ := hb.open_task e' x' hx' ho'
    have hother : x'.task ≠ x.task := fun heq => hne (hb.open_unique e' e x' x hx' he ho' ho heq)
    exact ⟨v', by simp only [Function.update_apply, if_neg hother]; exact hv', hrest⟩
  · intro t v' hv' hs
    simp only [Function.update_apply] at hv'
    split at hv'
    · cases hv'
      exact absurd hs hst
    · rename_i hne
      obtain ⟨e', x', hx', ho', rfl⟩ := hb.suspended_open t v' hv' hs
      have hother : e' ≠ e := by
        rintro rfl
        rw [he] at hx'
        exact hne (by rw [Option.some.inj hx'])
      refine ⟨e', x', ?_, ho', rfl⟩
      simp only [Board.decide, Function.update_apply, if_neg hother]
      exact hx'
  · intro e₁ e₂ x₁ x₂ h₁ h₂ ho₁ ho₂
    exact hb.open_unique e₁ e₂ x₁ x₂ (back e₁ x₁ h₁ ho₁).2 (back e₂ x₂ h₂ ho₂).2 ho₁ ho₂
  · intro e' x' hx' ho'
    exact hb.obligated e' x' (back e' x' hx' ho').2 ho'
  · intro e₁ e₂ x₁ x₂ h₁ h₂ ho₁ ho₂
    exact hb.obligated_unique e₁ e₂ x₁ x₂ (back e₁ x₁ h₁ ho₁).2 (back e₂ x₂ h₂ ho₂).2 ho₁ ho₂

/-! ## The task moves of the machine keep the suspensions -/

theorem keepsSuspensions_of_drifts {ts : TaskId → Option TaskView} (h : Coherent.Drifts ts ts') :
    KeepsSuspensions ts ts' := by
  refine ⟨fun t v hv hs => ?_, fun t v' hv' hs => ?_⟩
  · obtain ⟨st, hst, hd⟩ := h.move t v hv
    refine ⟨_, hst, rfl, ?_⟩
    show st = .suspended ∨ st = .cancelled
    rcases hd with hadv | ⟨hb, -⟩ | ⟨-, -, hc⟩
    · rcases hs with hs | hs <;> rw [hs] at hadv <;> revert hadv <;> cases st <;> decide
    · rw [hb] at hs
      rcases hs with hs | hs <;> cases hs
    · exact .inr hc
  · obtain ⟨v, hv, hd⟩ := h.before hv' (by rw [hs]; decide) (by rw [hs]; decide)
    refine ⟨v, hv, ?_⟩
    rw [hs] at hd
    rcases hd with hadv | ⟨-, hq⟩ | ⟨-, -, hc⟩
    · revert hadv
      cases v.state <;> decide
    · cases hq
    · cases hc

/-! ## The step theorem -/

/-- **The coupling is inductive.** -/
theorem step (hb : b.Coupled) (hc : b.Coherent) {b' : Board} (h : Step b b') : b'.Coupled := by
  cases h with
  | agents h => exact hb.reagent (fun _ ho => ho) h
  | tasks h => exact hb.retask (keepsSuspensions_of_drifts (.of_tasksMove h))
  | submit h => exact (hb.retask (keepsSuspensions_of_drifts (.of_submission h))).of_eq rfl rfl rfl
  | claim ht hq hg hr _ _ _ => exact hb.claim ht hq hg hr
  | requeue h hst _ =>
    refine hb.close hc h ?_
    rcases hst with rfl | rfl <;> exact TaskState.noConfusion
  | @complete h ag r ts' _ _ hw =>
    have hclose : (b.close h .completed ag).Coupled := hb.close hc h TaskState.noConfusion
    have hstore : ((b.close h .completed ag).store r ⟨h.task, h.attempt⟩).Coupled :=
      hclose.of_eq rfl rfl rfl
    exact hstore.retask (keepsSuspensions_of_drifts (.of_wakes hw))
  | suspend h _ he htag => exact hb.close_raise hc h (.inl rfl) he htag
  | cancel h _ => exact hb.close hc h TaskState.noConfusion
  | cancelObliged h he => exact hb.close_raise hc h (.inr rfl) he fun _ => rfl
  | cancelIdle h => exact hb.cancelIdle h
  | @resolve e x v st ag' he ho _ hst hag =>
    have hne : st ≠ .suspended := by
      rcases hst with ⟨-, rfl⟩ | ⟨-, rfl⟩ | ⟨-, rfl⟩ <;> exact TaskState.noConfusion
    exact (hb.decide he ho hne).reagent (fun _ hO => hO) hag

end Coupled

end Board

end Agentype

import Agentype.Physical.Attempts

/-!
# `Agentype.Physical.Links` — executions, attempts and incarnations are tied together

Every execution belongs to an attempt that is linked to the execution's incarnation, and a linked
incarnation belongs to the attempt's agent. While an execution is physically active, its
incarnation is live exactly as long as its attempt is active: a settlement fences the incarnation or
ends the execution, and nobody else fences the incarnation of an active attempt.

## Contents
- `Store.Tied`: the invariant.
- `Works a g`: what the settlement of attempt `a` of agent `g` may write; `Tied.works`.
- `Rehosts`: incarnations are born, and lost by idle agents; `Tied.rehosts`.
-/

namespace Agentype

open Relational Tx Store Board

variable {env : Env} {s s' : Store}
variable {e : ExecutionRow} {G : LogicalAgentId → Prop} {i : IncarnationId}

/-! ## The invariant -/

/-- The incarnation is live. -/
def Store.LiveHost (s : Store) (i : IncarnationId) : Prop :=
  ∃ r, s.incarnations.lookup i = some r ∧ r.state.isLivePresence = true

/-- The attempt is active. -/
def Store.ActiveClaim (s : Store) (a : AttemptId) : Prop :=
  ∃ r, s.attempts.lookup a = some r ∧ r.state = .active

/-- Executions, attempts and incarnations fit together. -/
structure Store.Tied (s : Store) : Prop where
  execution : ∀ x e, s.executions.lookup x = some e → ∃ r, s.attempts.lookup e.attemptId = some r ∧
    r.taskId = e.taskId ∧ r.executionTarget = e.executionTarget ∧
    r.incarnationId = some e.incarnationId
  link : ∀ a r i, s.attempts.lookup a = some r → r.incarnationId = some i →
    ∃ inc, s.incarnations.lookup i = some inc ∧ inc.logicalAgentId = r.logicalAgentId ∧
      inc.executionTarget = r.executionTarget
  started : ∀ a r, s.attempts.lookup a = some r → r.state = .active → r.incarnationId.isSome = true →
    ∃ x e, s.executions.lookup x = some e ∧ e.attemptId = a
  faulted : ∀ a k, s.preparationFaults.lookup a = some k →
    ∃ r, s.attempts.lookup a = some r ∧ r.incarnationId = none
  attached : ∀ x e, s.executions.lookup x = some e → e.state.isActivePhysical = true →
    (s.LiveHost e.incarnationId ↔ s.ActiveClaim e.attemptId)

/-- The incarnation of an execution belongs to the agent of its attempt. -/
theorem Store.Tied.host (hs : s.Tied) {x : ExecutionId} {r : AttemptRow}
    (he : s.executions.lookup x = some e) (hr : s.attempts.lookup e.attemptId = some r) :
    ∃ inc, s.incarnations.lookup e.incarnationId = some inc ∧
      inc.logicalAgentId = r.logicalAgentId := by
  obtain ⟨r', hr', -, -, hlink⟩ := hs.execution x e he
  cases hr'.symm.trans hr
  obtain ⟨inc, hinc, hagent, -⟩ := hs.link _ _ _ hr hlink
  exact ⟨inc, hinc, hagent⟩

/-- An execution names an incarnation that exists. -/
theorem Store.Tied.hosted (hs : s.Tied) {x : ExecutionId} (he : s.executions.lookup x = some e) :
    ∃ inc, s.incarnations.lookup e.incarnationId = some inc := by
  obtain ⟨r, hr, -⟩ := hs.execution x e he
  obtain ⟨inc, hinc, -⟩ := hs.host he hr
  exact ⟨inc, hinc⟩

theorem Confines.liveHost (h : Confines G s s') (hlive : s'.LiveHost i) : s.LiveHost i := by
  obtain ⟨r', hr', hl⟩ := hlive
  obtain ⟨r, hr, hf, -⟩ := h.before hr'
  exact ⟨r, hr, hf.live hl⟩

/-- A live incarnation of an agent outside `G` stays live. -/
theorem Confines.liveHost_of_not (h : Confines G s s') {inc : IncarnationRow}
    (hinc : s.incarnations.lookup i = some inc) (hG : ¬ G inc.logicalAgentId)
    (hlive : s.LiveHost i) : s'.LiveHost i := by
  obtain ⟨r, hr, hl⟩ := hlive
  cases hinc.symm.trans hr
  obtain ⟨r', hr', -, hlose⟩ := h.keep i inc hinc
  cases hl' : r'.state.isLivePresence with
  | true => exact ⟨r', hr', hl'⟩
  | false => exact absurd (hlose hl hl') hG

theorem Confines.link (h : Confines G s s') {r : AttemptRow}
    (hlink : ∃ inc, s.incarnations.lookup i = some inc ∧ inc.logicalAgentId = r.logicalAgentId ∧
      inc.executionTarget = r.executionTarget) :
    ∃ inc, s'.incarnations.lookup i = some inc ∧ inc.logicalAgentId = r.logicalAgentId ∧
      inc.executionTarget = r.executionTarget := by
  obtain ⟨inc, hinc, hagent, htarget⟩ := hlink
  obtain ⟨inc', hinc', hf, -⟩ := h.keep i inc hinc
  exact ⟨inc', hinc', hf.agent.trans hagent, hf.target.trans htarget⟩

/-! ## Changes of hosts -/

/-- Attempts, executions and faults are kept, incarnations are born, and only idle agents lose
    theirs. -/
structure Rehosts (_ : Env) (s s' : Store) : Prop where
  attempts : s'.attempts = s.attempts
  executions : s'.executions = s.executions
  faults : s'.preparationFaults = s.preparationFaults
  keep : ∀ i r, s.incarnations.lookup i = some r → ∃ r', s'.incarnations.lookup i = some r' ∧
    r.Fences r' ∧ (r.state.isLivePresence = true → r'.state.isLivePresence = false →
      s.IdleAgent r.logicalAgentId)

instance (env : Env) : IsPreorder Store (Rehosts env) where
  refl _ := ⟨rfl, rfl, rfl, fun _ r hr => ⟨r, hr, .refl r, fun hlive hdead => by
    rw [hlive] at hdead
    cases hdead⟩⟩
  trans s s₁ s' h h' := by
    refine ⟨h'.attempts.trans h.attempts, h'.executions.trans h.executions,
      h'.faults.trans h.faults, ?_⟩
    intro i r hr
    obtain ⟨r₁, hr₁, hf, hidle⟩ := h.keep i r hr
    obtain ⟨r', hr', hf', hidle'⟩ := h'.keep i r₁ hr₁
    refine ⟨r', hr', hf.trans hf', ?_⟩
    intro hlive hdead
    cases hmid : r₁.state.isLivePresence with
    | false => exact hidle hlive hmid
    | true =>
      rw [← hf.agent]
      exact (idleAgent_congr h.attempts).mp (hidle' hmid hdead)

theorem Quiet.rehosts (h : Quiet env s s') : Rehosts env s s' :=
  ⟨h.attempts, h.executions, h.faults, h.confines.keep⟩

/-- **Changes of hosts.** Only idle agents lose incarnations, so no active attempt loses its own. -/
theorem Store.Tied.rehosts (hs : s.Tied) (h : Rehosts env s s') : s'.Tied where
  execution := by
    rw [h.executions, h.attempts]
    exact hs.execution
  link a r i hr hi := by
    rw [h.attempts] at hr
    obtain ⟨inc, hinc, hagent, htarget⟩ := hs.link a r i hr hi
    obtain ⟨inc', hinc', hf, -⟩ := h.keep i inc hinc
    exact ⟨inc', hinc', hf.agent.trans hagent, hf.target.trans htarget⟩
  started := by
    rw [h.attempts, h.executions]
    exact hs.started
  faulted := by
    rw [h.faults, h.attempts]
    exact hs.faulted
  attached x e he hphys := by
    rw [h.executions] at he
    have hiff := hs.attached x e he hphys
    have hclaim : s'.ActiveClaim e.attemptId ↔ s.ActiveClaim e.attemptId := by
      unfold Store.ActiveClaim
      rw [h.attempts]
    obtain ⟨inc, hinc⟩ := hs.hosted he
    obtain ⟨inc', hinc', hf, hidle⟩ := h.keep _ inc hinc
    rw [hclaim]
    constructor
    · rintro ⟨inc'', hinc'', hlive⟩
      cases hinc'.symm.trans hinc''
      exact hiff.mp ⟨inc, hinc, hf.live hlive⟩
    · rintro ⟨r, hr, hactive⟩
      refine ⟨inc', hinc', ?_⟩
      obtain ⟨inc₀, hinc₀, hlive⟩ := hiff.mpr ⟨r, hr, hactive⟩
      cases hinc.symm.trans hinc₀
      obtain ⟨inc₁, hinc₁, hagent⟩ := hs.host he hr
      cases hinc.symm.trans hinc₁
      cases hdead : inc'.state.isLivePresence with
      | true => rfl
      | false => exact absurd hactive (hidle hlive hdead _ r hr hagent.symm)

/-! ## Settlements -/

/-- A change of an execution row that keeps what it belongs to and starts nothing. -/
structure ExecutionRow.Ends (e e' : ExecutionRow) : Prop where
  attempt : e'.attemptId = e.attemptId
  task : e'.taskId = e.taskId
  target : e'.executionTarget = e.executionTarget
  incarnation : e'.incarnationId = e.incarnationId
  isolation : e'.attemptIsolation = e.attemptIsolation
  active : e'.state.isActivePhysical = true → e.state.isActivePhysical = true

theorem ExecutionRow.Ends.refl (e : ExecutionRow) : e.Ends e := ⟨rfl, rfl, rfl, rfl, rfl, id⟩

theorem ExecutionRow.Ends.trans {e' e'' : ExecutionRow} (h : e.Ends e') (h' : e'.Ends e'') :
    e.Ends e'' :=
  ⟨h'.attempt.trans h.attempt, h'.task.trans h.task, h'.target.trans h.target,
    h'.incarnation.trans h.incarnation, h'.isolation.trans h.isolation, h.active ∘ h'.active⟩

/-- What the settlement of the attempt `a` of agent `g` may write: the attempt is kept or closed,
    only its own execution changes, and only incarnations of `g` are fenced. -/
structure Works (a : AttemptId) (g : LogicalAgentId) (_ : Env) (s s' : Store) : Prop where
  attempts : ∀ a', a' ≠ a → s'.attempts.lookup a' = s.attempts.lookup a'
  attempt : ∀ r', s'.attempts.lookup a = some r' → ∃ r, s.attempts.lookup a = some r ∧ r.Closes r'
  attempt_kept : ∀ r, s.attempts.lookup a = some r → (s'.attempts.lookup a).isSome = true
  faults : s'.preparationFaults = s.preparationFaults
  confines : Confines (· = g) s s'
  others : ∀ x e, e.attemptId ≠ a →
    (s'.executions.lookup x = some e ↔ s.executions.lookup x = some e)
  own : ∀ x e', s'.executions.lookup x = some e' → e'.attemptId = a →
    ∃ e, s.executions.lookup x = some e ∧ e.Ends e'

section Kept

variable {a : AttemptId} {g : LogicalAgentId} (hattempts : s'.attempts = s.attempts)
  (hfaults : s'.preparationFaults = s.preparationFaults) (hc : Confines (· = g) s s')
include hattempts hfaults hc

/-- Only executions and incarnations are written. -/
theorem Works.of_executions
    (hothers : ∀ x e, e.attemptId ≠ a →
      (s'.executions.lookup x = some e ↔ s.executions.lookup x = some e))
    (hown : ∀ x e', s'.executions.lookup x = some e' → e'.attemptId = a →
      ∃ e, s.executions.lookup x = some e ∧ e.Ends e') : Works a g env s s' where
  attempts _ _ := by rw [hattempts]
  attempt r hr := ⟨r, hattempts ▸ hr, .refl r⟩
  attempt_kept r hr := by
    rw [hattempts, hr]
    rfl
  faults := hfaults
  confines := hc
  others := hothers
  own := hown

/-- Only incarnations are written. -/
theorem Works.of_confines (hexecutions : s'.executions = s.executions) : Works a g env s s' :=
  .of_executions hattempts hfaults hc (fun _ _ _ => by rw [hexecutions])
    fun _ e he _ => ⟨e, hexecutions ▸ he, .refl e⟩

end Kept

instance (a : AttemptId) (g : LogicalAgentId) (env : Env) : IsPreorder Store (Works a g env) where
  refl _ := .of_confines rfl rfl (.of_eq rfl) rfl
  trans s s₁ s' h h' := by
    refine ⟨fun a' ha => (h'.attempts a' ha).trans (h.attempts a' ha), ?_, ?_,
      h'.faults.trans h.faults, h.confines.trans h'.confines,
      fun x e he => (h'.others x e he).trans (h.others x e he), ?_⟩
    · intro r' hr'
      obtain ⟨r₁, hr₁, hc₁⟩ := h'.attempt r' hr'
      obtain ⟨r, hr, hc⟩ := h.attempt r₁ hr₁
      exact ⟨r, hr, hc.trans hc₁⟩
    · intro r hr
      obtain ⟨r₁, hr₁⟩ := Option.isSome_iff_exists.mp (h.attempt_kept r hr)
      exact h'.attempt_kept r₁ hr₁
    · intro x e' he' ha
      obtain ⟨e₁, he₁, hend₁⟩ := h'.own x e' he' ha
      obtain ⟨e, he, hend⟩ := h.own x e₁ he₁ (hend₁.attempt.symm.trans ha)
      exact ⟨e, he, hend.trans hend₁⟩

/-- The execution of the attempt has ended, or its incarnation is fenced. -/
def Store.Tame (s : Store) (a : AttemptId) : Prop :=
  ∀ x e, s.executions.lookup x = some e → e.attemptId = a → e.state.isActivePhysical = true →
    ¬ s.LiveHost e.incarnationId

theorem Store.Tame.works {a : AttemptId} {g : LogicalAgentId} (hs : s.Tame a)
    (h : Works a g env s s') : s'.Tame a := by
  intro x e' he' ha hphys hlive
  obtain ⟨e, he, hend⟩ := h.own x e' he' ha
  refine hs x e he (hend.attempt.symm.trans ha) (hend.active hphys) ?_
  rw [← hend.incarnation]
  exact h.confines.liveHost hlive

/-- **Settlements.** A settled claim is closed, its agent idle, and its execution no longer active
    on a live incarnation. -/
theorem Store.Tied.works (hs : s.Tied) {a : AttemptId} {g : LogicalAgentId}
    (h : Works a g env s s') (hclosed : ¬ s'.ActiveClaim a) (hidle : s'.IdleAgent g)
    (htame : s'.Tame a) : s'.Tied := by
  -- the row of an attempt keeps its task, its agent and its link
  have hback : ∀ a' r', s'.attempts.lookup a' = some r' →
      ∃ r, s.attempts.lookup a' = some r ∧ r.Closes r' := by
    intro a' r' hr'
    by_cases ha : a' = a
    · subst ha
      exact h.attempt r' hr'
    · rw [h.attempts a' ha] at hr'
      exact ⟨r', hr', .refl r'⟩
  have hforth : ∀ a' r, s.attempts.lookup a' = some r →
      ∃ r', s'.attempts.lookup a' = some r' ∧ r.Closes r' := by
    intro a' r hr
    by_cases ha : a' = a
    · subst ha
      obtain ⟨r', hr'⟩ := Option.isSome_iff_exists.mp (h.attempt_kept r hr)
      obtain ⟨r₀, hr₀, hc⟩ := h.attempt r' hr'
      cases hr.symm.trans hr₀
      exact ⟨r', hr', hc⟩
    · exact ⟨r, (h.attempts a' ha).trans hr, .refl r⟩
  have hexec : ∀ x e', s'.executions.lookup x = some e' → ∃ e, s.executions.lookup x = some e ∧
      e'.attemptId = e.attemptId ∧ e'.taskId = e.taskId ∧ e'.executionTarget = e.executionTarget ∧
      e'.incarnationId = e.incarnationId := by
    intro x e' he'
    by_cases ha : e'.attemptId = a
    · obtain ⟨e, he, hend⟩ := h.own x e' he' ha
      exact ⟨e, he, hend.attempt, hend.task, hend.target, hend.incarnation⟩
    · exact ⟨e', (h.others x e' ha).mp he', rfl, rfl, rfl, rfl⟩
  refine ⟨?_, ?_, ?_, ?_, ?_⟩
  · intro x e' he'
    obtain ⟨e, he, ha, ht, hx, hi⟩ := hexec x e' he'
    obtain ⟨r, hr, htask, htarget, hlink⟩ := hs.execution x e he
    obtain ⟨r', hr', hc⟩ := hforth _ r hr
    obtain ⟨htask', -, -, hlink', htarget'⟩ := hc.fields
    exact ⟨r', ha ▸ hr', by rw [htask', htask, ht], by rw [htarget', htarget, hx],
      by rw [hlink', hlink, hi]⟩
  · intro a' r' i hr' hi
    obtain ⟨r, hr, hc⟩ := hback a' r' hr'
    obtain ⟨-, -, hagent, hlink, htarget⟩ := hc.fields
    rw [hagent, htarget]
    exact h.confines.link (hs.link a' r i hr (hlink ▸ hi))
  · intro a' r' hr' hactive hi
    by_cases ha : a' = a
    · subst ha
      exact absurd ⟨r', hr', hactive⟩ hclosed
    · rw [h.attempts a' ha] at hr'
      obtain ⟨x, e, he, hea⟩ := hs.started a' r' hr' hactive hi
      exact ⟨x, e, (h.others x e (hea ▸ ha)).mpr he, hea⟩
  · intro a' k hk
    rw [h.faults] at hk
    obtain ⟨r, hr, hnone⟩ := hs.faulted a' k hk
    obtain ⟨r', hr', hc⟩ := hforth a' r hr
    exact ⟨r', hr', hc.fields.2.2.2.1.trans hnone⟩
  · intro x e' he' hphys
    by_cases ha : e'.attemptId = a
    · rw [ha]
      exact iff_of_false (htame x e' he' ha hphys) hclosed
    · have he := (h.others x e' ha).mp he'
      have hiff := hs.attached x e' he hphys
      have hclaim : s'.ActiveClaim e'.attemptId ↔ s.ActiveClaim e'.attemptId := by
        unfold Store.ActiveClaim
        rw [h.attempts _ ha]
      constructor
      · intro hlive
        exact hclaim.mpr (hiff.mp (h.confines.liveHost hlive))
      · intro hactive'
        obtain ⟨r, hr, hactive⟩ := hclaim.mp hactive'
        obtain ⟨inc, hinc, hagent⟩ := hs.host he hr
        refine h.confines.liveHost_of_not hinc ?_ (hiff.mpr ⟨r, hr, hactive⟩)
        intro hg
        exact hidle _ r ((h.attempts _ ha).trans hr) (hagent.symm.trans hg) hactive

end Agentype

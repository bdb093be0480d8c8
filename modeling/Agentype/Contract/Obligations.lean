import Agentype.Scheduler.Refine

/-!
# `Agentype.Contract.Obligations` — writer-safety obligations bind their agent

An open escalation of class `WRITER_QUIESCENCE_UNKNOWN` says that a writer of the named agent may
still run. As long as it is open the agent is fenced and idle, and only the root's decision on that
very escalation closes it.

## Contents
- `Store.Obliges s e g`: the open obligation `e` names the agent `g`.
- `KeepsObligations`: no open obligation changes. Every operation but a decision keeps them all, and
  a decision closes at most its own (`exec_obligation`).
- `obligation_binds`: whole histories.
-/

namespace Agentype

open Relational Tx Store Board

variable {env : Env} {s s' : Store}
variable {q : Bool} {e e' : EscalationId} {u : Unit} {g : LogicalAgentId}

/-- The escalation is an open writer-safety obligation. -/
def EscalationRow.IsObligation (x : EscalationRow) : Prop :=
  x.state = .opened ∧ x.tag = writerUnknown

/-- The escalation `e` is an open writer-safety obligation on the agent `g`. -/
def Store.Obliges (s : Store) (e : EscalationId) (g : LogicalAgentId) : Prop :=
  ∃ x, s.escalations.lookup e = some x ∧ x.IsObligation ∧ x.logicalAgentId = some g

instance (x : EscalationRow) : Decidable x.IsObligation := inferInstanceAs (Decidable (_ ∧ _))

instance (s : Store) (e : EscalationId) (g : LogicalAgentId) : Decidable (s.Obliges e g) :=
  decidable_of_iff ((s.escalations.lookup e).any fun x =>
    decide (x.IsObligation ∧ x.logicalAgentId = some g) = true) (by
      simp [Store.Obliges, Option.any_eq_true])

/-! ## What the operations do to open obligations -/

/-- Every open obligation stays as it is. -/
def KeepsObligations (_ : Env) (s s' : Store) : Prop :=
  ∀ e x, s.escalations.lookup e = some x → x.IsObligation → s'.escalations.lookup e = some x

instance (env : Env) : IsPreorder Store (KeepsObligations env) where
  refl _ _ _ hx _ := hx
  trans _ _ _ h h' e x hx ho := h' e x (h e x hx ho) ho

instance : Sees [.escalations] KeepsObligations := by
  constructor
  intro env s s' h e x hx _
  have heq : s'.escalations = s.escalations := h .escalations (by decide)
  rw [heq, hx]

theorem createEscalationWithCause_keepsObligations {t : TaskId} {b : BatchId}
    {g : Option LogicalAgentId} {w : Option WorkstreamId} {cause : EscalationCause}
    {sig detail : Option String} :
    Respects KeepsObligations (createEscalationWithCause t b g w cause sig detail) := by
  refine createEscalationWithCause_respects ?_ (fun _ _ => .aside rfl) fun _ => .aside rfl
  intro id row env s u s' h e x hx _
  obtain ⟨t', ht', rfl⟩ := h.insertInto
  exact Table.lookup_of_insert_some ht' hx

/-- A settlement opens escalations, and a cancelled batch closes all but the obligations. -/
theorem settling_keepsObligations (k : Option (TaskId × AttemptId)) :
    Settling KeepsObligations k := by
  intro α x hx
  cases hx with
  | escalate => exact createEscalationWithCause_keepsObligations
  | decisions =>
    intro env s u s' h e x hx ho
    obtain ⟨t', ht', rfl⟩ := h.updateIn
    refine (Table.lookup_of_update_other ht' fun r hr => ?_).trans hx
    cases hx.symm.trans hr
    simp [ho.2]
  | _ => exact .aside rfl

/-- Every operation but a decision keeps the open obligations. -/
theorem exec_keepsObligations {op : Op} (hop : ∀ e o q, op ≠ .resolveEscalation e o q) :
    Respects KeepsObligations op.exec := by
  cases op with
  | resolveEscalation e o q => exact absurd rfl (hop e o q)
  | ackSuccess | nack | reportConfigurationUnavailable | nackPreservingPhysicalHistory
  | abortBeforePhysicalStart | cancelTask | cancelBatch | expireLeases =>
    exact Settling.exec settling_keepsObligations rfl
  | _ => exact .aside (by simp [Op.footprint])

/-! ## Decisions -/

/-- A decision may close the obligation: the root confirms quiescence, the latest execution of the
    task had an isolated attempt, or the task never writes and is retried. -/
def Store.dischargeable (s : Store) (x : EscalationRow) (operation : String)
    (quiescenceConfirmed : Bool) : Bool :=
  quiescenceConfirmed || (s.escalatedPresence x.taskId).frozenIsolation ||
    (decide (operation = "retry") &&
      (s.tasks.lookup x.taskId).any fun t => decide (t.workspaceMode = .readOnly))

theorem parse_retry {operation : String} (h : EscalationOperation.parse operation = .ok .retry) :
    operation = "retry" := by
  unfold EscalationOperation.parse at h
  split at h
  · assumption
  · split at h
    · cases h
    · split at h <;> cases h

/-- Only a `retry` is planned as one. -/
theorem planEscalationResolution_retry {snap : EscalationResolutionSnapshot}
    {op : EscalationOperation} {reactivate revive resolve : Bool} {st : TaskState}
    {presence : EscalatedWriterPresenceAction}
    (h : planEscalationResolution snap op q = .ok (.retry st reactivate presence revive resolve)) :
    op = .retry := by
  unfold planEscalationResolution at h
  split at h
  · cases h
  · cases op with
    | retry => rfl
    | releaseCancelledWriter =>
      dsimp only at h
      split at h <;> cases h
    | cancelTask => cases h

/-- The plan closes the escalation it decides. -/
def EscalationResolutionPlan.resolves : EscalationResolutionPlan → Bool
  | .releaseCancelledWriter _ _ resolve | .retry _ _ _ _ resolve | .cancelTask _ resolve _ => resolve

theorem closeEscalation_lookup {resolve : Bool} (h : Runs env (closeEscalation e resolve) s u s')
    (hne : resolve = true → e' ≠ e) : s'.escalations.lookup e' = s.escalations.lookup e' := by
  rcases Tx.Runs.whenever h with ⟨hr, h⟩ | ⟨-, rfl⟩
  · obtain ⟨t', ht', rfl⟩ := h.updateIn
    exact (Table.lookup_of_update_key ht' e').trans (if_neg (hne hr))
  · rfl

/-- A decision writes no escalation but its own, and that one only when its plan says so. -/
theorem applyResolution_lookup {row : EscalationRow} {p : EscalatedPresence}
    {plan : EscalationResolutionPlan} (h : Runs env (applyResolution e row p q plan) s u s')
    (hne : plan.resolves = true → e' ≠ e) : s'.escalations.lookup e' = s.escalations.lookup e' := by
  -- all statements but the closing one leave the escalations alone
  have quiet : ∀ {α : Type} {W : List TableName} {x : KernelTx α} [Touches W x] {s s' : Store}
      {a : α}, Runs env x s a s' → TableName.escalations ∉ W →
      s'.escalations.lookup e' = s.escalations.lookup e' :=
    fun hr hW => congrArg (·.lookup e') (frame_of_not_mem hr .escalations hW)
  cases plan with
  | releaseCancelledWriter presence revive resolve =>
    obtain ⟨_, s₁, h₁, h⟩ := Tx.Runs.bind h
    obtain ⟨_, s₂, h₂, h⟩ := h.bind
    obtain ⟨_, s₃, h₃, h₄⟩ := h.bind
    rw [quiet h₄ (by decide), closeEscalation_lookup h₃ hne, quiet h₂ (by decide),
      quiet h₁ (by decide)]
  | retry next reactivate presence revive resolve =>
    obtain ⟨_, s₁, h₁, h⟩ := Tx.Runs.bind h
    obtain ⟨_, s₂, h₂, h⟩ := h.bind
    obtain ⟨_, s₃, h₃, h⟩ := h.bind
    obtain ⟨_, s₄, h₄, h⟩ := h.bind
    obtain ⟨_, s₅, h₅, h₆⟩ := h.bind
    rw [quiet h₆ (by decide), closeEscalation_lookup h₅ hne, quiet h₄ (by decide),
      quiet h₃ (by decide), quiet h₂ (by decide), quiet h₁ (by decide)]
  | cancelTask next resolve only =>
    obtain ⟨_, s₁, h₁, h⟩ := Tx.Runs.bind h
    obtain ⟨_, s₂, h₂, h₃⟩ := h.bind
    rw [quiet h₃ (by decide), closeEscalation_lookup h₂ hne, quiet h₁ (by decide)]

/-- **Decisions.** A decision closes an open obligation only if it is about that obligation and may
    discharge it. -/
theorem resolveEscalation_obligation {e₀ : EscalationId} {o : String} {x : EscalationRow}
    (h : Runs env (resolveEscalation e₀ o q) s u s') (hx : s.escalations.lookup e = some x)
    (ho : x.IsObligation) :
    s'.escalations.lookup e = some x ∨ (e = e₀ ∧ s.dischargeable x o q = true) := by
  unfold resolveEscalation at h
  obtain ⟨op, hparse, h⟩ := h.examine_bind
  obtain ⟨row, hrow, h⟩ := h.fetch_bind
  obtain ⟨task, htask, h⟩ := h.fetch_bind
  obtain ⟨cause, hcause, h⟩ := h.examine_bind
  obtain ⟨plan, hplan, h⟩ := h.query_bind.examine_bind
  by_cases hne : e = e₀
  swap
  · exact .inl ((applyResolution_lookup h fun _ => hne).trans hx)
  subst hne
  obtain rfl := Option.some.inj (hrow.symm.trans hx)
  have hunknown : cause.isWriterUnknown = true :=
    isWriterUnknown_iff.mpr ((escalationCause_tag hcause).trans ho.2)
  rcases (planEscalationResolution_ok hplan).2 with
    ⟨-, -, hsafe, -⟩ | ⟨-, hsafe, hretry⟩ | rfl
  · refine .inr ⟨rfl, ?_⟩
    unfold Store.dischargeable
    rw [hsafe, Bool.true_or]
  · refine .inr ⟨rfl, ?_⟩
    unfold Store.dischargeable
    cases hmode : task.workspaceMode with
    | write => rw [hsafe hmode hunknown, Bool.true_or]
    | readOnly =>
      subst hretry
      obtain rfl := planEscalationResolution_retry hplan
      simp [parse_retry hparse, show s.tasks.lookup row.taskId = some task from htask, hmode]
  · -- cancelling the task leaves an obligation open
    refine .inl ((applyResolution_lookup h fun hr => ?_).trans hx)
    rw [EscalationResolutionPlan.resolves, hunknown] at hr
    cases hr

/-- **One call.** An open obligation stays open unless the call is a decision that discharges it. -/
theorem exec_obligation {op : Op} {x : EscalationRow} (h : Runs env op.exec s u s')
    (hx : s.escalations.lookup e = some x) (ho : x.IsObligation) :
    s'.escalations.lookup e = some x ∨
      ∃ o q, op = .resolveEscalation e o q ∧ s.dischargeable x o q = true := by
  by_cases hop : ∃ e₀ o q, op = .resolveEscalation e₀ o q
  · obtain ⟨e₀, o, q, rfl⟩ := hop
    rcases resolveEscalation_obligation h hx ho with hkeep | ⟨rfl, hd⟩
    · exact .inl hkeep
    · exact .inr ⟨o, q, rfl, hd⟩
  · exact .inl (exec_keepsObligations (fun e₀ o q heq => hop ⟨e₀, o, q, heq⟩) env s u s' h e x hx ho)

/-! ## Histories -/

/-- The agent under an open obligation can hold no task. -/
def Store.Bound (s : Store) (e : EscalationId) (g : LogicalAgentId) : Prop :=
  s.Obliges e g ∧ ∃ a, s.logicalAgents.lookup g = some a ∧
    (a.state = .suspended ∨ a.state = .retired) ∧ a.currentTaskId = none

/-- The call closes the obligation: it is a decision on that very escalation, and it may discharge
    it. -/
def Discharges (s : Store) (c : Call) (e : EscalationId) (g : LogicalAgentId) : Prop :=
  s.Obliges e g ∧ ¬ (s.call c).Obliges e g ∧ ∃ o q x, c.2 = .resolveEscalation e o q ∧
    s.escalations.lookup e = some x ∧ s.dischargeable x o q = true

theorem Store.Obliges.bound (hs : s.board.Sound) (h : s.Obliges e g) : s.Bound e g := by
  obtain ⟨x, hx, ho, hg⟩ := h
  obtain ⟨u, hu, hf, hc⟩ := hs.coupled.fenced_of_obligated (g := g)
    ⟨e, x.view, Table.view_of_lookup hx, decide_eq_true ho.1, ho.2, hg⟩
  obtain ⟨a, ha, rfl⟩ := Table.view_eq_some.mp hu
  refine ⟨⟨x, hx, ho, hg⟩, a, ha, ?_, hc⟩
  change a.state.fenced = true at hf
  revert hf
  cases a.state <;> simp [LogicalAgentState.fenced]

theorem Store.Obliges.unique (hs : s.board.Sound) (h : s.Obliges e g) (h' : s.Obliges e' g) :
    e' = e := by
  obtain ⟨x, hx, ho, hg⟩ := h
  obtain ⟨x', hx', ho', hg'⟩ := h'
  exact hs.coupled.obligated_unique e' e x'.view x.view (Table.view_of_lookup hx')
    (Table.view_of_lookup hx) (decide_eq_true ho'.1) (decide_eq_true ho.1) ho'.2 ho.2
    (hg'.trans hg.symm)

/-- Along any further history the obligation stays open until a call discharges it. -/
theorem obliges_until (h : s.Obliges e g) (more : List Call) : (s.after more).Obliges e g ∨
      ∃ before c later, more = before ++ c :: later ∧ Discharges (s.after before) c e g := by
  induction more using List.reverseRecOn with
  | nil => exact .inl h
  | append_singleton more c ih =>
    rcases ih with hopen | ⟨before, d, later, rfl, hd⟩
    swap
    · exact .inr ⟨before, d, later ++ [c], by simp, hd⟩
    have hafter : s.after (more ++ [c]) = (s.after more).call c := run_append _ _ _
    rw [hafter]
    by_cases hstill : ((s.after more).call c).Obliges e g
    · exact .inl hstill
    refine .inr ⟨more, c, [], rfl, hopen, hstill, ?_⟩
    obtain ⟨x, hx, ho, hg⟩ := hopen
    rcases step_cases Op.exec (s.after more) c with ⟨-, hrun⟩ | ⟨-, heq⟩
    · rcases exec_obligation hrun hx ho with hkeep | ⟨o, q, hop, hd⟩
      · exact absurd ⟨x, hkeep, ho, hg⟩ hstill
      · exact ⟨o, q, x, hop, hx, hd⟩
    · refine absurd ⟨x, ?_, ho, hg⟩ hstill
      change (step Op.exec (s.after more) c).escalations.lookup e = some x
      rw [heq, hx]

/-- **Writer-safety obligations bind the agent.** In every reachable store the agent of an open
    obligation is suspended or retired and idle, it has no other open obligation, and along every
    further history this stays so until a decision on that very escalation discharges it. -/
theorem obligation_binds (calls : List Call) (e : EscalationId) (g : LogicalAgentId)
    (h : (Store.empty.after calls).Obliges e g) :
    (Store.empty.after calls).Bound e g ∧
      (∀ e', (Store.empty.after calls).Obliges e' g → e' = e) ∧
      ∀ more, (Store.empty.after (calls ++ more)).Bound e g ∨
        ∃ before c later, more = before ++ c :: later ∧
          Discharges (Store.empty.after (calls ++ before)) c e g := by
  have hsound := Store.after_sound calls
  refine ⟨h.bound hsound, fun e' h' => h.unique hsound h', fun more => ?_⟩
  have hafter : ∀ cs, Store.empty.after (calls ++ cs) = (Store.empty.after calls).after cs :=
    fun cs => run_append _ _ _
  rcases obliges_until h more with hopen | ⟨before, c, later, heq, hd⟩
  · rw [← hafter] at hopen
    exact .inl (hopen.bound (Store.after_sound _))
  · rw [← hafter] at hd
    exact .inr ⟨before, c, later, heq, hd⟩

/-- The state of an agent after a history of calls from the empty store. -/
def agentStateAfter (calls : List Call) (g : LogicalAgentId) : Option LogicalAgentState :=
  ((Store.empty.after calls).logicalAgents.lookup g).map AgentRow.state

namespace Deployment

/-- The writer fails without proof that it has stopped. -/
def unproven : List Call :=
  running ++ [(moment 7 "z", .nack "attempt_c" 1 .timeout none false false false)]

/-- A resident worker reports the class of a lost writer for a task that only reads. -/
def misreported : List Call :=
  [(moment 1 "p", .upsertPartition { general with retention := .resident }),
   (moment 2 "b", .submitBatch [{ writer with workspaceMode := .readOnly }]),
   (moment 3 "r", .reconcilePool), (moment 4 "c", .claimNextAvailable),
   (moment 5 "x", .createExecution claim binding),
   (moment 6 "y", .confirmRunningAndRenew "attempt_c" 1 "exec_x" .emptyObject),
   (moment 7 "z", .nack "attempt_c" 1 .writerQuiescenceUnknown none false false false)]

end Deployment

open Deployment in
/-- The agent of the failed writer is bound, and reviving it changes nothing. -/
theorem obligation_binds_unproven : (Store.empty.after unproven).Obliges "escalation_z+" "agent_r" ∧
    (Store.empty.after (unproven ++ [(moment 8 "w", .reviveAgent "agent_r" "local")])).Bound
      "escalation_z+" "agent_r" := by
  have hobliges : (Store.empty.after unproven).Obliges "escalation_z+" "agent_r" := by
    decide +kernel
  refine ⟨hobliges, ?_⟩
  rcases (obligation_binds unproven _ _ hobliges).2.2 [(moment 8 "w", .reviveAgent "agent_r" "local")]
    with hbound | ⟨before, c, later, heq, -, -, o, q, x, hop, -⟩
  · exact hbound
  · have hmem : c ∈ [(moment 8 "w", Op.reviveAgent "agent_r" "local")] := by simp [heq]
    rw [List.mem_singleton.mp hmem] at hop
    cases hop

open Deployment in
/-- A retry frees the agent of a task that only reads, without confirmed quiescence and without
    attempt isolation. -/
theorem reader_retry_frees_agent :
    (Store.empty.after misreported).Obliges "escalation_z+" "agent_r" ∧
      ((Store.empty.after misreported).escalatedPresence "edit").frozenIsolation = false ∧
      agentStateAfter (misreported ++
        [(moment 8 "w", .resolveEscalation "escalation_z+" "retry" false)]) "agent_r" =
        some .reviving := by
  decide +kernel

end Agentype

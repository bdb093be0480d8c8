import Agentype.Physical.Refusals
import Agentype.Physical.Course

/-!
# `Agentype.Physical.Fencing` — incarnations are fenced for good

A fenced incarnation never comes back, although the confirmation of a running execution writes
`WARM` without looking: an execution that can still be confirmed belongs to an active attempt, and
the incarnation of an active attempt with an active execution is live. For the same reason the live
incarnation of an idle agent is free, and so is the one a fresh claim starts its execution on.

## Contents
- `exec_fences`, `Store.after_fences`: one call, whole histories.
- `Store.Tied.idle_free`, `Store.Tied.unstarted_free`: free incarnations.
- `createExecutionInTx_spares`: a fresh claim never finds its incarnation busy.
- `incarnation_fencing`.
-/

namespace Agentype

open Relational Tx Store Board

variable {env : Env} {s s' s₁ : Store}
variable {i : IncarnationId} {inc : IncarnationRow} {a : AttemptId} {r : AttemptRow} {err : Error}
  {claim : Claim}

/-! ## One-way states -/

/-- Every incarnation stays, under a row that is fenced at least as far. -/
def KeepsFences (s s' : Store) : Prop :=
  ∀ i r, s.incarnations.lookup i = some r →
    ∃ r', s'.incarnations.lookup i = some r' ∧ r.Fences r'

theorem KeepsFences.refl (s : Store) : KeepsFences s s := fun _ r hr => ⟨r, hr, .refl r⟩

theorem KeepsFences.trans (h : KeepsFences s s₁) (h' : KeepsFences s₁ s') : KeepsFences s s' := by
  intro i r hr
  obtain ⟨r₁, hr₁, hf⟩ := h i r hr
  obtain ⟨r', hr', hf'⟩ := h' i r₁ hr₁
  exact ⟨r', hr', hf.trans hf'⟩

theorem KeepsFences.of_keep {G : IncarnationId → IncarnationRow → IncarnationRow → Prop}
    (h : ∀ i r, s.incarnations.lookup i = some r →
      ∃ r', s'.incarnations.lookup i = some r' ∧ r.Fences r' ∧ G i r r') : KeepsFences s s' := by
  intro i r hr
  obtain ⟨r', hr', hf, -⟩ := h i r hr
  exact ⟨r', hr', hf⟩

theorem KeepsFences.of_same (h : ∀ i r, s.incarnations.lookup i = some r →
    s'.incarnations.lookup i = some r) : KeepsFences s s' :=
  fun i r hr => ⟨r, h i r hr, .refl r⟩

theorem Settled.keepsFences (h : Settled env s s') : KeepsFences s s' := by
  induction h with
  | refl => exact .refl s
  | quiet _ hquiet _ ih => exact ih.trans (.of_keep hquiet.confines.keep)
  | settle _ hset _ _ ih => exact ih.trans (.of_keep hset.works.confines.keep)

theorem Store.Regular.keepsFences {op : Op} {u : Unit} (hs : s.Regular)
    (h : Runs env op.exec s u s') : KeepsFences s s' := by
  cases hs.physical h with
  | rehosted h => exact .of_keep h.keep
  | claimed h =>
    obtain ⟨s₁, hhosts, -, -, hsame, -⟩ := h
    exact KeepsFences.trans (.of_keep hhosts.keep) (.of_same fun i r hr => hsame ▸ hr)
  | launched _ h _ => exact .of_same (hs.tied.launch_host h).2.2.2
  | observed h => exact .of_keep h.confines.keep
  | faulted _ h =>
    have hsame : s'.incarnations = s.incarnations := h.frame .incarnations (by decide)
    exact .of_same fun i r hr => hsame ▸ hr
  | settled _ h => exact h.keepsFences
  | released _ h =>
    obtain ⟨s₁, hworks, -, -, -, hquiet⟩ := h.finalized
    exact KeepsFences.trans (.of_keep hworks.confines.keep) (.of_keep hquiet.confines.keep)

/-- **Whole histories.** -/
theorem Store.Regular.after_keepsFences (hs : s.Regular) (calls : List Call) :
    KeepsFences s (s.after calls) := by
  refine (run_induction (P := fun s₁ : Store => s₁.Regular ∧ KeepsFences s s₁) ?_
    ⟨hs, .refl s⟩).2
  rintro c _ s₁ s₂ ⟨hs₁, hkeep⟩ h
  exact ⟨hs₁.exec h, hkeep.trans (hs₁.keepsFences h)⟩

/-! ## Free incarnations -/

/-- The incarnation owns no physically active execution. -/
def Store.Free (s : Store) (i : IncarnationId) : Prop :=
  ∀ x e, s.executions.lookup x = some e → e.incarnationId = i → e.state.isActivePhysical = false

theorem incarnationBusy_eq_false : s.incarnationBusy i = false ↔ s.Free i := by
  unfold incarnationBusy Store.Free
  rw [List.any_eq_false]
  constructor
  · intro h x e he hi
    have hx := h (x, e) (Table.mem_rows.mpr he)
    simpa [hi] using hx
  · rintro h ⟨x, e⟩ hmem
    have hx := h x e (Table.mem_rows.mp hmem)
    intro hboth
    rw [Bool.and_eq_true, decide_eq_true_eq] at hboth
    rw [hx hboth.1] at hboth
    exact absurd hboth.2 Bool.false_ne_true

/-- A physically active execution on a live incarnation belongs to an active attempt of the agent
    of that incarnation, and that attempt is linked. -/
theorem Store.Tied.owner (hs : s.Tied) {x : ExecutionId} {e : ExecutionRow}
    (he : s.executions.lookup x = some e) (hphys : e.state.isActivePhysical = true)
    (hinc : s.incarnations.lookup e.incarnationId = some inc)
    (hlive : inc.state.isLivePresence = true) :
    ∃ r, s.attempts.lookup e.attemptId = some r ∧ r.state = .active ∧
      r.logicalAgentId = inc.logicalAgentId ∧ r.incarnationId = some e.incarnationId := by
  obtain ⟨r, hr, hactive⟩ := (hs.attached x e he hphys).mp ⟨inc, hinc, hlive⟩
  obtain ⟨r', hr', -, -, hlink⟩ := hs.execution x e he
  cases hr.symm.trans hr'
  obtain ⟨inc', hinc', hagent⟩ := hs.host he hr
  cases hinc.symm.trans hinc'
  exact ⟨r, hr, hactive, hagent.symm, hlink⟩

theorem Store.Tied.idle_free (hs : s.Tied) (hinc : s.incarnations.lookup i = some inc)
    (hlive : inc.state.isLivePresence = true) (hidle : s.IdleAgent inc.logicalAgentId) :
    s.Free i := by
  rintro x e he rfl
  rw [Bool.eq_false_iff]
  intro hphys
  obtain ⟨r, hr, hactive, hagent, -⟩ := hs.owner he hphys hinc hlive
  exact hidle _ r hr hagent hactive

/-- The agent of a claim that has not started has a free incarnation: its only active attempt is
    not linked to any. -/
theorem Store.Tied.unstarted_free (hs : s.Tied) (hr : s.attempts.lookup a = some r)
    (hactive : r.state = .active) (hunlinked : r.incarnationId = none)
    (hinc : s.incarnations.lookup i = some inc) (hlive : inc.state.isLivePresence = true)
    (hagent : inc.logicalAgentId = r.logicalAgentId) : s.Free i := by
  rintro x e he rfl
  rw [Bool.eq_false_iff]
  intro hphys
  obtain ⟨r', hr', hactive', hagent', hlink⟩ := hs.owner he hphys hinc hlive
  by_cases ha : a = e.attemptId
  · subst ha
    cases hr.symm.trans hr'
    rw [hunlinked] at hlink
    cases hlink
  · have hclash := Table.clash_of_lookup hr hr' ha
    simp [attemptSchema, hactive, hactive', hagent', hagent] at hclash

/-! ## Starting a fresh claim -/

/-- The refusal of a start on a busy incarnation. -/
def busyIncarnation (i : IncarnationId) : Error :=
  .invalidTransition ("incarnation " ++ i ++ " already owns an active Execution")

def Error.IsBusy (err : Error) : Prop := ∃ i, err = busyIncarnation i

def Error.isTransition : Error → Bool
  | .invalidTransition _ => true
  | _ => false

theorem Error.not_isBusy (h : err.isTransition = false) : ¬ err.IsBusy := by
  rintro ⟨i, rfl⟩
  cases h

/-- A message that begins with another letter. -/
theorem not_isBusy_of_head {m : String} {c : Char} (h : m.toList.head? = some c) (hc : c ≠ 'i') :
    ¬ (Error.invalidTransition m).IsBusy := by
  rintro ⟨i, heq⟩
  obtain rfl := Error.invalidTransition.inj heq
  rw [String.toList_append, String.toList_append] at h
  obtain rfl := Option.some.inj h
  exact hc rfl

/-- A check that never refuses a transition. -/
abbrev Untransitional {α : Type} : Except Error α → Prop := Declines Error.isTransition

theorem Untransitional.spares {α : Type} {q : Store → Except Error α} (h : Untransitional (q s)) :
    Spares env Error.IsBusy (examine q : KernelTx α) s :=
  .examine fun err herr => Error.not_isBusy (h err herr)

theorem Error.isTransition_sound : Error.Sound Error.isTransition :=
  ⟨fun _ => rfl, fun _ => rfl, fun _ => rfl, fun _ => rfl⟩

theorem agreesWith_untransitional (claim : Claim) (r : AttemptRow) :
    Untransitional (claim.agreesWith r) :=
  .ite (.error rfl) (.ite (.error rfl) (.ite (.error rfl) (.ite (.error rfl) (.ok _))))

theorem boundTo_untransitional (safety : FrozenExecutionSafety) (claim : Claim) (a : AttemptId)
    (r : AttemptRow) : Untransitional (safety.boundTo claim a r) :=
  .ite (.error rfl) (.ite (.error rfl) (.ite (.error rfl) (.ite (.error rfl) (.ok _))))

theorem getTaskAgentRequirement_untransitional (t : TaskId) :
    Untransitional (s.getTaskAgentRequirement t) := by
  unfold getTaskAgentRequirement
  refine .bind (orError_declines rfl) fun task => ?_
  split <;> first | exact .ok _ | exact .error rfl

theorem validateBindingSnapshotAuthority_untransitional (x : ExecutionId) (snap : BindingSnapshot) :
    Untransitional (s.validateBindingSnapshotAuthority x snap) := by
  unfold validateBindingSnapshotAuthority
  exact .bind (orError_declines rfl) fun _ => .ite (.error rfl) (.ite (.error rfl)
    (.bind (getProvisioningBinding_declines Error.isTransition_sound _) fun _ =>
      .bind (orError_declines rfl) fun _ =>
      .ite (.error rfl) (.ok _)))

/-- **The host of a fresh claim is free.** -/
theorem Store.Tied.host_free (hs : s.Tied) (hr : s.attempts.lookup a = some r)
    (hactive : r.state = .active) (hunlinked : r.incarnationId = none)
    (h : Runs env (incarnationForAttempt r) s i s') : s'.Free i := by
  have hexec : s'.executions = s.executions := frame h .executions rfl
  have hfree : s.Free i := by
    cases incarnationForAttempt_host h with
    | linked hlink =>
      rw [hunlinked] at hlink
      cases hlink
    | reused _ hinc hagent _ hlive => exact hs.unstarted_free hr hactive hunlinked hinc hlive hagent
    | fresh _ _ hborn =>
      -- no execution names an incarnation that did not exist
      rintro x e he rfl
      obtain ⟨inc, hinc⟩ := hs.hosted he
      rw [hborn.fresh] at hinc
      cases hinc
  intro x e he
  rw [hexec] at he
  exact hfree x e he

theorem newId_spares {kind : String} : Spares env Error.IsBusy (newId kind) s := by
  unfold newId
  exact .bind .ask fun _ _ _ => .bind .mint fun _ _ _ => .pure _

theorem jsonLoad_spares {v : JsonValue} : Spares env Error.IsBusy (jsonLoad v) s := by
  refine .bind .ask fun env' _ _ => .examine fun err herr hbusy => ?_
  cases hv : env'.parseJson v with
  | ok => simp [hv, Except.mapError] at herr
  | error e =>
    rw [hv] at herr
    cases herr
    exact Error.not_isBusy rfl hbusy

theorem incarnationForAttempt_spares (r : AttemptRow) :
    Spares env Error.IsBusy (incarnationForAttempt r) s := by
  unfold incarnationForAttempt
  split
  · exact .pure _
  · unfold ensureIncarnation requiredAgent
    refine .bind (.fetch (Error.not_isBusy rfl)) fun agent s₁ _ =>
      .bind (.require fun _ => not_isBusy_of_head (c := 'a') rfl (by decide)) fun _ s₂ _ =>
      .bind (.query _) fun active s₃ _ => ?_
    split
    · refine .bind (.require fun _ => ?_) fun _ _ _ => .pure _
      refine not_isBusy_of_head (c := 'l') ?_ (by decide)
      simp only [String.toList_append]
      rfl
    · unfold createNewIncarnation
      exact .bind (.query _) fun _ _ _ => .bind newId_spares fun _ _ _ =>
        .bind (.insertInto (Error.not_isBusy rfl)) fun _ _ _ => .pure _

/-- **A fresh claim never finds its incarnation busy.** -/
theorem createExecutionInTx_spares (hs : s.Tied) (hr : s.attempts.lookup claim.attemptId = some r)
    (hactive : r.state = .active) (hunlinked : r.incarnationId = none)
    (binding : FrozenPhysicalExecutionBinding) (x : ExecutionId) (desc : Option String) :
    Spares env Error.IsBusy (createExecutionInTx claim binding x desc) s := by
  unfold createExecutionInTx
  refine .bind (.require fun _ => Error.not_isBusy rfl) fun _ s₁ h₁ => ?_
  obtain rfl := h₁.require.2
  refine .bind (.require fun _ => Error.not_isBusy rfl) fun _ s₂ h₂ => ?_
  obtain rfl := h₂.require.2
  refine .bind (.bind .ask fun _ _ _ =>
    Untransitional.spares (validateAuthorityTx_declines Error.isTransition_sound _ _ _)) fun records s₃ h₃ => ?_
  obtain ⟨hauth, rfl⟩ := validateAuthorityTx_runs h₃
  cases hr.symm.trans hauth.attempt
  refine .bind (agreesWith_untransitional _ _).spares fun _ s₄ h₄ => ?_
  obtain ⟨-, rfl⟩ := h₄.examine
  refine .bind (.require fun _ => Error.not_isBusy rfl) fun _ s₅ h₅ => ?_
  obtain rfl := h₅.require.2
  refine .bind (boundTo_untransitional _ _ _ _).spares fun _ s₆ h₆ => ?_
  obtain ⟨-, rfl⟩ := h₆.examine
  refine .bind (incarnationForAttempt_spares _) fun i s₇ h₇ => ?_
  have hfree := hs.host_free hr hactive hunlinked h₇
  refine .bind (.fetch (Error.not_isBusy rfl)) fun inc s₈ h₈ => ?_
  obtain ⟨-, rfl⟩ := h₈.fetch
  refine .bind (.query _) fun busy s₉ h₉ => ?_
  obtain ⟨rfl, rfl⟩ := h₉.query
  refine .bind (.require fun hbusy => ?_) fun _ _ _ => ?_
  · rw [incarnationBusy_eq_false.mpr hfree] at hbusy
    cases hbusy
  · unfold requiredAgent
    exact .bind (.updateIn (Error.not_isBusy rfl)) fun _ _ _ => .bind newId_spares fun _ _ _ =>
      .bind (.insertInto (Error.not_isBusy rfl)) fun _ _ _ =>
      .bind jsonLoad_spares fun _ _ _ => .bind jsonLoad_spares fun _ _ _ =>
      .bind (.fetch (Error.not_isBusy rfl)) fun _ _ _ => .bind jsonLoad_spares fun _ _ _ =>
      .bind jsonLoad_spares fun _ _ _ =>
      .bind (getTaskAgentRequirement_untransitional _).spares fun _ _ _ => .pure _

theorem newId_runs {kind id : String} (h : Runs env (newId kind) s id s') : s' = s := by
  unfold newId at h
  obtain ⟨k, h⟩ := h.ask_bind.mint_bind
  exact h.pure.2

theorem createExecution_spares (hs : s.Tied) (hr : s.attempts.lookup claim.attemptId = some r)
    (hactive : r.state = .active) (hunlinked : r.incarnationId = none)
    (binding : FrozenPhysicalExecutionBinding) :
    Spares env Error.IsBusy (createExecution claim binding) s := by
  unfold createExecution
  refine .bind newId_spares fun x s₁ h₁ => ?_
  obtain rfl := newId_runs h₁
  exact createExecutionInTx_spares hs hr hactive hunlinked binding x none

/-- The typed start; what the catalog says is a verdict of its own. -/
theorem createExecutionWithSnapshot_spares (hs : s.Tied)
    (hr : s.attempts.lookup claim.attemptId = some r) (hactive : r.state = .active)
    (hunlinked : r.incarnationId = none) (binding : FrozenPhysicalExecutionBinding)
    (x : ExecutionId) (desc : String) (snap : BindingSnapshot) (catalog : Except Error Unit) :
    Spares env (fun err => err.IsBusy ∧ catalog ≠ .error err)
      (createExecutionWithSnapshot claim binding x desc snap catalog) s := by
  have hbusy : ∀ {α : Type} {y : KernelTx α} {s : Store}, Spares env Error.IsBusy y s →
      Spares env (fun err => err.IsBusy ∧ catalog ≠ .error err) y s :=
    fun h n err herr hboth => h n err herr hboth.1
  unfold createExecutionWithSnapshot
  exact .bind (hbusy (createExecutionInTx_spares hs hr hactive hunlinked binding x _)) fun _ _ _ =>
    .bind (hbusy (validateBindingSnapshotAuthority_untransitional _ _).spares) fun _ _ _ =>
    .bind (.examine fun err herr h => h.2 herr) fun _ _ _ =>
    .bind (hbusy (.updateIn (Error.not_isBusy rfl))) fun _ _ _ =>
    .bind (hbusy (.insertInto (Error.not_isBusy rfl))) fun _ _ _ => .pure _

/-! ## Fresh claims -/

/-- A transaction that grants `claim` commits. -/
inductive Grants (env : Env) (s : Store) (claim : Claim) (s' : Store) : Prop
  | next (h : Runs env claimNextAvailable s (some claim) s')
  | existing {t : TaskId} {g : LogicalAgentId} {sel : ProvisioningSelection}
      {contract : Except Error Unit} {binding : ProvisioningBinding}
      (h : Runs env (acquireTypedTaskExisting t g sel contract) s ⟨claim, binding⟩ s')
  | newborn {t : TaskId} {sel : ProvisioningSelection} {typeVerdict contract : Except Error Unit}
      {binding : ProvisioningBinding}
      (h : Runs env (acquireTypedTaskNewAgent t sel typeVerdict contract) s ⟨claim, binding⟩ s')

theorem Grants.claimed (h : Grants env s claim s') : ∃ r, Claimed env s s' claim.attemptId r := by
  cases h with
  | next h =>
    rcases claimNextAvailable_claimed h with ⟨hnone, -⟩ | ⟨claim', r, hsome, hr⟩
    · cases hnone
    · obtain rfl := Option.some.inj hsome
      exact ⟨r, hr⟩
  | existing h => exact finishAcquisition_claimed (refl_of (Rehosts env) s) h
  | newborn h => exact acquireTypedTaskNewAgent_claimed h

theorem Grants.regular (h : Grants env s claim s') (hs : s.Regular) : s'.Regular := by
  cases h with
  | next h =>
    have hrun : Runs env (Op.exec .claimNextAvailable) s () s' := runs_effect h
    exact hs.exec hrun
  | @existing t g sel contract _ h =>
    have hrun : Runs env (Op.exec (.acquireTypedTaskExisting t g sel contract)) s () s' :=
      runs_effect h
    exact hs.exec hrun
  | @newborn t sel typeVerdict contract _ h =>
    have hrun : Runs env (Op.exec (.acquireTypedTaskNewAgent t sel typeVerdict contract)) s () s' :=
      runs_effect h
    exact hs.exec hrun

theorem Claimed.lookup (h : Claimed env s s' a r) :
    s'.attempts.lookup a = some r ∧ r.state = .active ∧ r.incarnationId = none := by
  obtain ⟨s₁, -, hgrant, -⟩ := h
  exact ⟨by rw [hgrant.lookup, if_pos rfl], hgrant.active, hgrant.unlinked⟩

/-- The live incarnation of a ready agent is free. -/
theorem Store.Regular.ready_free (hs : s.Regular) {g : LogicalAgentId} {agent : AgentRow}
    (hagent : s.logicalAgents.lookup g = some agent) (hready : agent.state = .ready)
    (hinc : s.incarnations.lookup i = some inc) (hg : inc.logicalAgentId = g)
    (hlive : inc.state.isLivePresence = true) : s.Free i := by
  subst hg
  refine hs.tied.idle_free hinc hlive
    (idleAgent_of_current hs.sound (Table.view_of_lookup hagent) ?_)
  show agent.currentTaskId = none
  cases hcurrent : agent.currentTaskId with
  | none => rfl
  | some t =>
    obtain ⟨hholds, -⟩ := hs.sound.coherent.holder _ agent.view t (Table.view_of_lookup hagent)
      hcurrent
    rw [show agent.view.state = .ready from hready] at hholds
    cases hholds

/-- **Incarnations are fenced for good.** In every reachable store: a lost incarnation stays lost or
    becomes terminated and a terminated one stays terminated along every further history, an agent
    has one live incarnation at most, the one of a ready agent is free, and a start right after a
    granted claim is never refused because the incarnation is busy. -/
theorem incarnation_fencing (calls : List Call) :
    let s := Store.empty.after calls
    (∀ more i r, s.incarnations.lookup i = some r →
      ∃ r', (s.after more).incarnations.lookup i = some r' ∧
        (r.state = .lost → r'.state = .lost ∨ r'.state = .terminated) ∧
        (r.state = .terminated → r'.state = .terminated)) ∧
    (∀ i j r w, s.incarnations.lookup i = some r → s.incarnations.lookup j = some w →
      r.logicalAgentId = w.logicalAgentId → r.state.isLivePresence = true →
      w.state.isLivePresence = true → i = j) ∧
    (∀ g agent i inc, s.logicalAgents.lookup g = some agent → agent.state = .ready →
      s.incarnations.lookup i = some inc → inc.logicalAgentId = g →
      inc.state.isLivePresence = true → ∀ x e, s.executions.lookup x = some e →
      e.incarnationId = i → e.state.isActivePhysical = false) ∧
    (∀ env env' claim s' i, Grants env s claim s' →
      (∀ binding, (commit (createExecution claim binding) env' s').1 ≠
        .error (busyIncarnation i)) ∧
      ∀ binding x desc snap catalog, (commit
        (createExecutionWithSnapshot claim binding x desc snap catalog) env' s').1 =
          .error (busyIncarnation i) → catalog = .error (busyIncarnation i)) := by
  have hs := Store.after_regular calls
  refine ⟨?_, ?_, ?_, ?_⟩
  · intro more i r hr
    obtain ⟨r', hr', hf⟩ := hs.after_keepsFences more i r hr
    refine ⟨r', hr', ?_, hf.terminated⟩
    intro hlost
    cases hst : r'.state with
    | lost => exact .inl rfl
    | terminated => exact .inr rfl
    | starting | warm | cold =>
      have hback := hf.live (by rw [hst]; rfl)
      rw [hlost] at hback
      cases hback
  · intro i j r w hr hw hagent hlive hlive'
    by_contra hne
    have hclash := Table.clash_of_lookup hr hw hne
    simp [incarnationSchema, hagent, hlive, hlive'] at hclash
  · intro g agent i inc hagent hready hinc hg hlive
    exact hs.ready_free hagent hready hinc hg hlive
  · intro env env' claim s' i hgrant
    obtain ⟨r, hclaimed⟩ := hgrant.claimed
    obtain ⟨hr, hactive, hunlinked⟩ := hclaimed.lookup
    have htied := (hgrant.regular hs).tied
    refine ⟨fun binding => (createExecution_spares htied hr hactive hunlinked binding).commit
      ⟨i, rfl⟩, ?_⟩
    intro binding x desc snap catalog hbusy
    by_contra hne
    exact (createExecutionWithSnapshot_spares htied hr hactive hunlinked binding x desc snap
      catalog).commit ⟨⟨i, rfl⟩, hne⟩ hbusy

/-- The state of an incarnation after a history of calls from the empty store. -/
def incarnationStateAfter (calls : List Call) (i : IncarnationId) : Option IncarnationState :=
  ((Store.empty.after calls).incarnations.lookup i).map IncarnationRow.state

open Deployment in
/-- The incarnation of a writer that failed without proof is lost, a root decision terminates it,
    and the first claim of the worker does not find it busy. -/
theorem incarnation_fencing_unproven :
    incarnationStateAfter unproven "inc_x+" = some .lost ∧
    (∀ more, (∃ r', ((Store.empty.after unproven).after more).incarnations.lookup "inc_x+" = some r' ∧
      (r'.state = .lost ∨ r'.state = .terminated))) ∧
    ∃ claim s', Grants (moment 4 "c") (Store.empty.after (claimed.take 3)) claim s' ∧
      ∀ i, (commit (createExecution claim binding) (moment 5 "x") s').1 ≠
        .error (busyIncarnation i) := by
  have hlost : incarnationStateAfter unproven "inc_x+" = some .lost := by decide +kernel
  refine ⟨hlost, fun more => ?_, ?_⟩
  · obtain ⟨r, hr, hst⟩ := Option.map_eq_some_iff.mp hlost
    obtain ⟨r', hr', hstays, -⟩ := (incarnation_fencing unproven).1 more "inc_x+" r hr
    exact ⟨r', hr', hstays hst⟩
  · have hclaim : ((commit claimNextAvailable (moment 4 "c")
        (Store.empty.after (claimed.take 3))).1.toOption.join.isSome) = true := by decide +kernel
    rcases commit_cases claimNextAvailable (moment 4 "c") (Store.empty.after (claimed.take 3)) with
      ⟨c, hrun, hok⟩ | ⟨err, herr, -⟩
    · rw [hok] at hclaim
      obtain ⟨claim, rfl⟩ := Option.isSome_iff_exists.mp hclaim
      refine ⟨claim, _, .next hrun, fun i => ?_⟩
      exact ((incarnation_fencing (claimed.take 3)).2.2.2 _ (moment 5 "x") claim _ i
        (.next hrun)).1 binding
    · rw [herr] at hclaim
      cases hclaim

end Agentype

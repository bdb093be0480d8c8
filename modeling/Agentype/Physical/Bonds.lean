import Agentype.Physical.Endings
import Agentype.Physical.Latest

/-!
# `Agentype.Physical.Bonds` — grants, launches and observations keep the physical rows tied

The ways the physical rows change other than by the end of a claim: incarnations are born and lost
by idle agents, a claim is granted or starts its execution, an observation or a fault is recorded.
Each of them keeps the ties.

## Contents
- `createNewIncarnation_rehosts`, `resolveIncarnation_rehosts`, `provisionIncarnation_rehosts`.
- `Store.Tied.granted`, `.launch`, `.fault`.
- `Observed`, `Store.Tied.observed`.
-/

namespace Agentype

open Relational Tx Store Board

variable {env : Env} {s s' s₁ : Store}
variable {i : IncarnationId} {u : Unit} {x : ExecutionId}

/-! ## Births and grants -/

theorem Born.keep {g : LogicalAgentId} {target : String} {j : IncarnationId}
    {row inc : IncarnationRow} (h : Born s s' g target i row)
    (hj : s.incarnations.lookup j = some inc) : s'.incarnations.lookup j = some inc := by
  rw [h.lookup, if_neg, hj]
  rintro rfl
  rw [h.fresh] at hj
  cases hj

theorem createNewIncarnation_rehosts (g : LogicalAgentId) (target : String) :
    Respects Rehosts (createNewIncarnation g target) := by
  intro env s i s' h
  obtain ⟨row, hborn⟩ := createNewIncarnation_born h
  refine ⟨frame h .attempts rfl, frame h .executions rfl, frame h .preparationFaults rfl,
    fun j r hr => ⟨r, hborn.keep hr, .refl r, ?_⟩⟩
  intro hlive hdead
  rw [hlive] at hdead
  cases hdead

/-- A rollover has checked that the agent has no active attempt. -/
theorem fenceIdleIncarnation_rehosts {inc : IncarnationRow}
    (hinc : s.incarnations.lookup i = some inc) (hlive : inc.state.isLivePresence = true)
    (h : Runs env (fenceIdleIncarnation i) s u s') : Rehosts env s s' := by
  unfold fenceIdleIncarnation at h
  obtain ⟨_, hcheck, h⟩ := h.examine_bind
  have hidle : s.IdleAgent inc.logicalAgentId := by
    unfold Store.rolloverCheck at hcheck
    split at hcheck
    · cases hcheck
    · rename_i hnone
      rw [hinc] at hnone
      exact hasActiveAttempt_eq_false.mp (Bool.eq_false_iff.mpr hnone)
  refine Quiet.rehosts (.of_confines h ?_)
  obtain ⟨t', ht', rfl⟩ := Tx.Runs.updateIn h
  refine .of_update ht' rfl fun j r hr hp => ?_
  obtain rfl := of_decide_eq_true (Bool.and_eq_true_iff.mp hp).1
  cases hinc.symm.trans hr
  refine ⟨⟨rfl, rfl, fun _ => hlive, ?_⟩, fun _ _ => hidle⟩
  intro hterm
  rw [hterm] at hlive
  cases hlive

theorem resolveIncarnation_rehosts (g : LogicalAgentId) (target : String) (ref : AgentTypeRef)
    (sel : ProvisioningSelection) : Respects Rehosts (resolveIncarnation g target ref sel) := by
  intro env s q s' h
  unfold resolveIncarnation at h
  have h := h.query_bind
  split at h
  · exact h.respects (.bind (createNewIncarnation_rehosts g target) fun _ => .pure _)
  · rename_i i inc hactive
    obtain ⟨hinc, -, hlive⟩ := activeIncarnation_mem hactive
    obtain ⟨-, h⟩ := h.require_bind
    obtain ⟨existing, -, h⟩ := h.examine_bind
    have h := h.query_bind
    have hroll : ∀ {b : IncarnationId × Option ProvisioningBinding}, Runs env (do
        let new ← rollover g i target
        pure (new, none)) s b s' → Rehosts env s s' := by
      intro b hrun
      obtain ⟨new, s₁, h₁, hrun⟩ := hrun.bind
      obtain ⟨-, rfl⟩ := hrun.pure
      obtain ⟨_, s₂, h₂, h₃⟩ := Tx.Runs.bind h₁
      exact trans_of (Rehosts env) (fenceIdleIncarnation_rehosts hinc hlive h₂)
        (h₃.respects (createNewIncarnation_rehosts g target))
    split at h
    · split at h
      · obtain ⟨-, rfl⟩ := h.pure
        exact refl_of (Rehosts env) s'
      · exact hroll h
    · split at h
      · obtain ⟨-, rfl⟩ := h.pure
        exact refl_of (Rehosts env) s'
      · exact hroll h

theorem provisionIncarnation_rehosts (g : LogicalAgentId) (i : IncarnationId) (ref : AgentTypeRef)
    (sel : ProvisioningSelection) (reused : Option ProvisioningBinding) :
    Respects Rehosts (provisionIncarnation g i ref sel reused) := by
  unfold provisionIncarnation
  split
  · exact .pure _
  · refine .bind ?_ fun _ => .bind (newId_respects _) fun _ => .bind ?_ fun _ => .pure _
    · intro env s u s' h
      unfold markIncarnationProvisioned at h
      obtain ⟨-, h⟩ := h.query_bind.require_bind
      refine Quiet.rehosts (.of_confines h ?_)
      obtain ⟨t', ht', rfl⟩ := h.updateIn
      refine .of_update ht' rfl fun j r hr _ => ⟨⟨rfl, rfl, id, id⟩, fun hlive hdead => ?_⟩
      rw [show r.state.isLivePresence = false from hdead] at hlive
      cases hlive
    · exact fun env s u s' h => Quiet.rehosts (h.respects (.aside rfl))

/-- A new claim has no incarnation and no execution yet. -/
theorem Store.Tied.granted (hs : s.Tied) {b : AttemptId} {w : AttemptRow} (h : Granted s s' b w)
    (hexecutions : s'.executions = s.executions) (hincarnations : s'.incarnations = s.incarnations)
    (hfaults : s'.preparationFaults = s.preparationFaults) : s'.Tied := by
  have hold : ∀ a r, s.attempts.lookup a = some r → s'.attempts.lookup a = some r := by
    intro a r hr
    rw [h.lookup, if_neg, hr]
    rintro rfl
    rw [h.fresh] at hr
    cases hr
  have hcases : ∀ a r, s'.attempts.lookup a = some r →
      (a = b ∧ r = w) ∨ s.attempts.lookup a = some r := by
    intro a r hr
    rw [h.lookup] at hr
    split at hr
    · rename_i ha
      exact .inl ⟨ha, (Option.some.inj hr).symm⟩
    · exact .inr hr
  refine ⟨?_, ?_, ?_, ?_, ?_⟩
  · intro x e he
    rw [hexecutions] at he
    obtain ⟨r, hr, hrest⟩ := hs.execution x e he
    exact ⟨r, hold _ r hr, hrest⟩
  · intro a r i hr hi
    rw [hincarnations]
    rcases hcases a r hr with ⟨-, rfl⟩ | hr
    · rw [h.unlinked] at hi
      cases hi
    · exact hs.link a r i hr hi
  · intro a r hr hactive hi
    rw [hexecutions]
    rcases hcases a r hr with ⟨-, rfl⟩ | hr
    · rw [h.unlinked] at hi
      cases hi
    · exact hs.started a r hr hactive hi
  · intro a k hk
    rw [hfaults] at hk
    obtain ⟨r, hr, hnone⟩ := hs.faulted a k hk
    exact ⟨r, hold a r hr, hnone⟩
  · intro x e he hphys
    rw [hexecutions] at he
    have hlive : s'.LiveHost e.incarnationId ↔ s.LiveHost e.incarnationId := by
      unfold Store.LiveHost
      rw [hincarnations]
    obtain ⟨r, hr, -⟩ := hs.execution x e he
    rw [hlive, hs.attached x e he hphys]
    unfold Store.ActiveClaim
    rw [hold _ r hr, hr]

/-! ## Launches -/

/-- The host of a launch is live: a claim linked before has its execution already. -/
theorem Store.Tied.launch_host (hs : s.Tied) {claim : Claim} {r : ClaimRecords} {row : ExecutionRow}
    (h : Launch env s s' claim x r i row) :
    r.attempt.incarnationId = none ∧ s'.LiveHost i ∧
      (∃ inc, s'.incarnations.lookup i = some inc ∧
        inc.logicalAgentId = r.attempt.logicalAgentId ∧
        inc.executionTarget = r.attempt.executionTarget) ∧
      ∀ j inc, s.incarnations.lookup j = some inc → s'.incarnations.lookup j = some inc := by
  cases h.host with
  | linked hlink =>
    obtain ⟨y, e, he, ha⟩ := hs.started _ _ h.authorized.attempt h.authorized.attemptActive
      (by rw [hlink]; rfl)
    have hne : x ≠ y := by
      rintro rfl
      rw [h.fresh] at he
      cases he
    have hx : s'.executions.lookup x = some row := by rw [h.executions, if_pos rfl]
    have hy : s'.executions.lookup y = some e := by rw [h.executions, if_neg hne.symm, he]
    have hclash := Table.clash_of_lookup hx hy hne
    simp [executionSchema, h.attempt, ha] at hclash
  | @reused inc hlink hinc hagent htarget hlive hsame =>
    rw [← hsame] at hinc
    exact ⟨hlink, ⟨inc, hinc, hlive⟩, ⟨inc, hinc, hagent, htarget⟩, fun j inc hj => hsame ▸ hj⟩
  | @fresh irow hlink hidle hborn =>
    have hi : s'.incarnations.lookup i = some irow := by rw [hborn.lookup, if_pos rfl]
    refine ⟨hlink, ⟨irow, hi, ?_⟩, ⟨irow, hi, hborn.agent, hborn.target⟩, fun j inc => hborn.keep⟩
    rw [hborn.state]
    rfl

theorem Store.Tied.launch (hs : s.Tied) {claim : Claim} {r : ClaimRecords} {row : ExecutionRow}
    (h : Launch env s s' claim x r i row) (hfaults : s'.preparationFaults = s.preparationFaults) :
    s'.Tied := by
  obtain ⟨hunlinked, hlive, hhost, hkeep⟩ := hs.launch_host h
  have hlive_iff : ∀ j inc, s.incarnations.lookup j = some inc →
      (s'.LiveHost j ↔ s.LiveHost j) := by
    intro j inc hj
    unfold Store.LiveHost
    rw [hj, hkeep j inc hj]
  -- an execution that existed belongs to another claim
  have hother : ∀ y e, s.executions.lookup y = some e → e.attemptId ≠ claim.attemptId := by
    intro y e he ha
    obtain ⟨r', hr', -, -, hlink⟩ := hs.execution y e he
    rw [ha] at hr'
    cases h.authorized.attempt.symm.trans hr'
    rw [hunlinked] at hlink
    cases hlink
  have hself : s'.attempts.lookup claim.attemptId =
      some { r.attempt with incarnationId := some i } := by rw [h.attempts, if_pos rfl]
  refine ⟨?_, ?_, ?_, ?_, ?_⟩
  · intro y e he
    rw [h.executions] at he
    split at he
    · obtain rfl := Option.some.inj he
      rw [h.attempt, h.incarnation, h.task, h.target]
      exact ⟨_, hself, rfl, rfl, rfl⟩
    · obtain ⟨r', hr', hrest⟩ := hs.execution y e he
      exact ⟨r', by rw [h.attempts, if_neg (hother y e he), hr'], hrest⟩
  · intro a r' j hr' hj
    rw [h.attempts] at hr'
    split at hr'
    · obtain rfl := Option.some.inj hr'
      obtain rfl := Option.some.inj hj
      exact hhost
    · obtain ⟨inc, hinc, hrest⟩ := hs.link a r' j hr' hj
      exact ⟨inc, hkeep j inc hinc, hrest⟩
  · intro a r' hr' hactive hlinked
    rw [h.attempts] at hr'
    split at hr'
    · rename_i ha
      exact ⟨x, row, by rw [h.executions, if_pos rfl], h.attempt.trans ha.symm⟩
    · obtain ⟨y, e, he, ha⟩ := hs.started a r' hr' hactive hlinked
      refine ⟨y, e, ?_, ha⟩
      rw [h.executions, if_neg, he]
      rintro rfl
      rw [h.fresh] at he
      cases he
  · intro a k hk
    rw [hfaults] at hk
    obtain ⟨r', hr', hnone⟩ := hs.faulted a k hk
    refine ⟨r', ?_, hnone⟩
    rw [h.attempts, if_neg, hr']
    rintro rfl
    rw [h.authorized.unfaulted] at hk
    cases hk
  · intro y e he hphys
    rw [h.executions] at he
    split at he
    · obtain rfl := Option.some.inj he
      rw [h.attempt, h.incarnation]
      exact iff_of_true hlive ⟨_, hself, h.authorized.attemptActive⟩
    · obtain ⟨inc, hinc⟩ := hs.hosted he
      rw [hlive_iff _ inc hinc, hs.attached y e he hphys]
      unfold Store.ActiveClaim
      rw [h.attempts, if_neg (hother y e he)]

/-! ## Observations and faults -/

/-- An observation rewrites executions without starting one, and an incarnation that still carries
    an active execution is as live as before. -/
structure Observed (_ : Env) (s s' : Store) : Prop where
  attempts : s'.attempts = s.attempts
  faults : s'.preparationFaults = s.preparationFaults
  executions : ∀ y e, s.executions.lookup y = some e →
    ∃ e', s'.executions.lookup y = some e' ∧ e.Ends e'
  absent : ∀ y, s.executions.lookup y = none → s'.executions.lookup y = none
  confines : Confines (fun _ => True) s s'
  live : ∀ y e, s'.executions.lookup y = some e → e.state.isActivePhysical = true →
    s.LiveHost e.incarnationId → s'.LiveHost e.incarnationId

theorem Observed.before (h : Observed env s s') {y : ExecutionId} {e' : ExecutionRow}
    (he' : s'.executions.lookup y = some e') :
    ∃ e, s.executions.lookup y = some e ∧ e.Ends e' := by
  cases he : s.executions.lookup y with
  | none => rw [h.absent y he] at he'; cases he'
  | some e =>
    obtain ⟨e'', he'', hends⟩ := h.executions y e he
    cases he''.symm.trans he'
    exact ⟨e, rfl, hends⟩

instance (env : Env) : IsPreorder Store (Observed env) where
  refl _ := ⟨rfl, rfl, fun _ e he => ⟨e, he, .refl e⟩, fun _ he => he, .of_eq rfl,
    fun _ _ _ _ hl => hl⟩
  trans s s₁ s' h h' := by
    refine ⟨h'.attempts.trans h.attempts, h'.faults.trans h.faults, ?_,
      fun y hy => h'.absent y (h.absent y hy), h.confines.trans h'.confines, ?_⟩
    · intro y e he
      obtain ⟨e₁, he₁, hends⟩ := h.executions y e he
      obtain ⟨e', he', hends'⟩ := h'.executions y e₁ he₁
      exact ⟨e', he', hends.trans hends'⟩
    · intro y e' he' hphys hlive
      obtain ⟨e₁, he₁, hends⟩ := h'.before he'
      refine h'.live y e' he' hphys ?_
      rw [hends.incarnation] at hlive ⊢
      exact h.live y e₁ he₁ (hends.active hphys) hlive

instance : Sees physicalTables Observed := by
  constructor
  intro env s s' h
  have hexecutions : s'.executions = s.executions := h .executions (by decide)
  have hincarnations : s'.incarnations = s.incarnations := h .incarnations (by decide)
  refine ⟨h .attempts (by decide), h .preparationFaults (by decide), ?_, ?_, .of_eq hincarnations,
    ?_⟩
  · intro y e he
    exact ⟨e, hexecutions ▸ he, .refl e⟩
  · intro y hy
    rw [hexecutions, hy]
  · intro y e _ _ hlive
    unfold Store.LiveHost
    rw [hincarnations]
    exact hlive

theorem Store.Tied.observed (hs : s.Tied) (h : Observed env s s') : s'.Tied where
  execution y e' he' := by
    obtain ⟨e, he, hends⟩ := h.before he'
    rw [h.attempts, hends.attempt, hends.task, hends.target, hends.incarnation]
    exact hs.execution y e he
  link a r i hr hi := by
    rw [h.attempts] at hr
    exact h.confines.link (hs.link a r i hr hi)
  started a r hr hactive hi := by
    rw [h.attempts] at hr
    obtain ⟨y, e, he, ha⟩ := hs.started a r hr hactive hi
    obtain ⟨e', he', hends⟩ := h.executions y e he
    exact ⟨y, e', he', hends.attempt.trans ha⟩
  faulted := by
    rw [h.faults, h.attempts]
    exact hs.faulted
  attached y e' he' hphys := by
    obtain ⟨e, he, hends⟩ := h.before he'
    have hiff := hs.attached y e he (hends.active hphys)
    have hclaim : s'.ActiveClaim e'.attemptId ↔ s.ActiveClaim e.attemptId := by
      unfold Store.ActiveClaim
      rw [h.attempts, hends.attempt]
    rw [hclaim, ← hiff, ← hends.incarnation]
    exact ⟨h.confines.liveHost, h.live y e' he' hphys⟩

theorem updateExecution_observed {f : ExecutionRow → ExecutionRow}
    (hf : ∀ e, s.executions.lookup x = some e → e.Ends (f e))
    (h : Runs env (updateExecution x f) s u s') : Observed env s s' := by
  obtain ⟨t', ht', rfl⟩ := Tx.Runs.updateIn h
  have hlook : ∀ y, t'.lookup y =
      if y = x then (s.executions.lookup y).map f else s.executions.lookup y :=
    Table.lookup_of_update_key ht'
  refine ⟨rfl, rfl, ?_, ?_, .of_eq rfl, fun _ _ _ _ hl => hl⟩
  · intro y e he
    show ∃ e', t'.lookup y = some e' ∧ _
    rw [hlook, he]
    split
    · rename_i hy
      subst hy
      exact ⟨f e, rfl, hf e he⟩
    · exact ⟨e, rfl, .refl e⟩
  · intro y hy
    show t'.lookup y = none
    rw [hlook, hy]
    split <;> rfl

theorem Observed.of_incarnations {α : Type} {y : KernelTx α} {b : α} [Touches [.incarnations] y]
    (h : Runs env y s b s') (hc : Confines (fun _ => True) s s')
    (hl : ∀ z e, s.executions.lookup z = some e → e.state.isActivePhysical = true →
      s.LiveHost e.incarnationId → s'.LiveHost e.incarnationId) : Observed env s s' := by
  have hexecutions : s'.executions = s.executions := frame h .executions rfl
  refine ⟨frame h .attempts rfl, frame h .preparationFaults rfl, ?_, ?_, hc, ?_⟩
  · intro z e he
    exact ⟨e, hexecutions ▸ he, .refl e⟩
  · intro z hz
    rw [hexecutions, hz]
  · intro z e he
    exact hl z e (hexecutions ▸ he)

/-- An `UPDATE` of one incarnation. -/
theorem liveHost_of_update {p : IncarnationId → IncarnationRow → Bool}
    {f : IncarnationRow → IncarnationRow} {t' : Table incarnationSchema}
    (h : s.incarnations.update p f = some t') (heq : s'.incarnations = t') {j : IncarnationId}
    (hf : ∀ r, s.incarnations.lookup j = some r → p j r = true → r.state.isLivePresence = true →
      (f r).state.isLivePresence = true) (hlive : s.LiveHost j) : s'.LiveHost j := by
  obtain ⟨r, hr, hl⟩ := hlive
  refine ⟨Table.updateRow p f j r, ?_, ?_⟩
  · rw [heq, Table.lookup_of_update h, hr]
    rfl
  · unfold Table.updateRow
    split
    · rename_i hp
      exact hf r hr hp hl
    · exact hl

theorem updateIncarnationHandle_observed (i : IncarnationId) (handle : Option JsonValue) :
    Respects Observed (updateIncarnationHandle i handle) := by
  unfold updateIncarnationHandle
  split
  · exact .pure _
  · intro env s u s' h
    refine .of_incarnations h ?_ ?_
    · obtain ⟨t', ht', rfl⟩ := h.updateIn
      exact .of_update ht' rfl fun _ r _ _ => ⟨⟨rfl, rfl, id, id⟩, fun _ _ => trivial⟩
    · obtain ⟨t', ht', rfl⟩ := h.updateIn
      intro z e _ _ hlive
      exact liveHost_of_update ht' rfl (fun _ _ _ hl => hl) hlive

/-- **Confirmation.** The incarnation of a claim that still owns an active execution is live, so
    the unguarded write only warms it. -/
theorem confirmRunningAndRenew_observed {a : AttemptId} {e : LeaseEpoch} {handle : JsonValue}
    {q : RunningAuthorityGrant} (hs : s.Tied)
    (h : Runs env (confirmRunningAndRenew a e x handle) s q s') : Observed env s s' := by
  obtain ⟨r, row, s₁, s₂, s₃, t, ⟨hauth, hrow, hown, hactive, h₁, h₂, h₃, h₄⟩, -⟩ :=
    confirmRunningAndRenew_runs h
  obtain ⟨r', hr', -, -, hlink⟩ := hs.execution x row hrow
  rw [hown] at hr'
  cases hauth.attempt.symm.trans hr'
  have hlive : s.LiveHost row.incarnationId := by
    refine (hs.attached x row hrow hactive).mpr ?_
    rw [hown]
    exact ⟨r.attempt, hauth.attempt, hauth.attemptActive⟩
  have ho₁ : Observed env s s₁ := by
    refine updateExecution_observed ?_ h₁
    intro e he
    cases hrow.symm.trans he
    exact ⟨rfl, rfl, rfl, rfl, rfl, fun _ => hactive⟩
  have ho₂ : Observed env s₁ s₂ := h₂.respects (.aside rfl)
  have ei : s₂.incarnations = s.incarnations := by
    have e₁ : s₁.incarnations = s.incarnations := frame h₁ .incarnations rfl
    have e₂ : s₂.incarnations = s₁.incarnations := frame h₂ .incarnations rfl
    exact e₂.trans e₁
  have ho₃ : Observed env s₂ s₃ := by
    rw [hlink] at h₃
    have hwarm := h₃
    obtain ⟨t', ht', rfl⟩ := Tx.Runs.updateIn h₃
    refine .of_incarnations hwarm ?_ ?_
    · refine .of_update ht' rfl fun j inc hinc hj => ?_
      have hl : inc.state.isLivePresence = true := by
        obtain ⟨inc', hinc', hl⟩ := hlive
        obtain rfl := of_decide_eq_true hj
        rw [ei] at hinc
        cases hinc.symm.trans hinc'
        exact hl
      refine ⟨⟨rfl, rfl, fun _ => hl, fun hterm => ?_⟩, fun _ _ => trivial⟩
      rw [hterm] at hl
      cases hl
    · intro z e _ _ hl
      exact liveHost_of_update ht' rfl (fun _ _ _ _ => rfl) hl
  have ho₄ : Observed env s₃ s' := h₄.respects (.aside rfl)
  exact trans_of (Observed env) (trans_of (Observed env) (trans_of (Observed env) ho₁ ho₂) ho₃) ho₄

/-- An active state is entered from active states only. -/
theorem active_of_physicalTransition {source target : ExecutionState}
    (h : physicalTransitionAllowed source target = true) (ht : target.isActivePhysical = true) :
    source.isActivePhysical = true := by
  revert h ht
  cases source <;> cases target <;> decide

/-- A write of one incarnation that keeps it live, or that no active execution is left on. -/
theorem setIncarnationState_observed {source : IncarnationState → Bool} {st : IncarnationState}
    (hterm : source .terminated = false)
    (hlive : st.isLivePresence = true → ∀ st₀, source st₀ = true → st₀.isLivePresence = true)
    (hfree : st.isLivePresence = true ∨ ∀ z e, s.executions.lookup z = some e →
      e.state.isActivePhysical = true → e.incarnationId ≠ i)
    (h : Runs env (setIncarnationState i source st) s u s') : Observed env s s' := by
  refine .of_incarnations h ?_ ?_
  · obtain ⟨t', ht', rfl⟩ := Tx.Runs.updateIn h
    refine .of_update ht' rfl fun j inc hinc hp => ⟨⟨rfl, rfl, ?_, ?_⟩, fun _ _ => trivial⟩
    · intro hl
      exact hlive hl inc.state (Bool.and_eq_true_iff.mp hp).2
    · intro ht
      rw [ht, hterm, Bool.and_false] at hp
      cases hp
  · obtain ⟨t', ht', rfl⟩ := Tx.Runs.updateIn h
    intro z e he hphys hl
    refine liveHost_of_update ht' rfl ?_ hl
    intro inc _ hp _
    rcases hfree with hst | hnone
    · exact hst
    · exact absurd (of_decide_eq_true (Bool.and_eq_true_iff.mp hp).1) (hnone z e he hphys)

/-- **Observation.** An end fences the incarnation of its execution only while no other execution
    is attached to it. -/
theorem recordPhysicalOutcome_observed {st : ExecutionState} {handle payload : Option JsonValue}
    {c : Option FailureClass} {tc qc : Bool}
    (h : Runs env (recordPhysicalOutcome x st handle payload c tc qc) s u s') :
    Observed env s s' := by
  unfold recordPhysicalOutcome at h
  obtain ⟨-, h⟩ := h.require_bind
  obtain ⟨row, hrow, h⟩ := Tx.Runs.fetch_bind h
  obtain ⟨_, hgraph, h⟩ := h.examine_bind
  obtain ⟨_, s₁, h₁, h⟩ := h.query_bind.bind
  have hgraph := requirePhysicalTransition_ok.mp hgraph
  have ho₁ : Observed env s s₁ := by
    refine updateExecution_observed ?_ h₁
    intro e he
    cases hrow.symm.trans he
    exact ⟨rfl, rfl, rfl, rfl, rfl, active_of_physicalTransition hgraph⟩
  refine trans_of (Observed env) ho₁ ?_
  rcases h.whenever with ⟨hattached, h⟩ | ⟨-, rfl⟩
  · obtain ⟨_, s₂, h₂, h₃⟩ := h.bind
    have ho₂ := h₂.respects (updateIncarnationHandle_observed _ _)
    refine trans_of (Observed env) ho₂ ?_
    have ex : s₂.executions = s₁.executions := frame h₂ .executions rfl
    -- no active execution is left on the incarnation once this one has ended
    have hfree : st.isActivePhysical = false → ∀ z e, s₂.executions.lookup z = some e →
        e.state.isActivePhysical = true → e.incarnationId ≠ row.incarnationId := by
      intro hst z e he hphys hsame
      rw [ex] at he
      obtain ⟨t', ht', rfl⟩ := Tx.Runs.updateIn h₁
      change t'.lookup z = some e at he
      rw [Table.lookup_of_update_key ht'] at he
      split at he
      · obtain ⟨e₀, -, rfl⟩ := Option.map_eq_some_iff.mp he
        rw [show st.isActivePhysical = true from hphys] at hst
        cases hst
      · rename_i hne
        have hnone := (Bool.and_eq_true_iff.mp hattached).2
        rw [Bool.not_eq_true', List.any_eq_false] at hnone
        have hz := hnone (z, e) (Table.mem_rows.mpr he)
        simp [hsame, hne, hphys] at hz
    unfold recordIncarnationPresence at h₃
    dsimp only at h₃
    split at h₃
    · obtain ⟨-, rfl⟩ := h₃.pure
      exact refl_of (Observed env) s'
    · exact setIncarnationState_observed rfl (fun _ _ hl => hl) (.inl rfl) h₃
    · rename_i hact
      refine setIncarnationState_observed rfl (fun hl => ?_) (.inr (hfree ?_)) h₃
      · cases hl
      · revert hact
        cases st <;> cases tc <;> cases qc <;> decide
    · rename_i hact
      refine setIncarnationState_observed rfl (fun hl => ?_) (.inr (hfree ?_)) h₃
      · cases hl
      · revert hact
        cases st <;> cases tc <;> cases qc <;> decide
  · exact refl_of (Observed env) s'

theorem recordRuntimeHandleHint_observed (x : ExecutionId) (handle : JsonValue) :
    Respects Observed (recordRuntimeHandleHint x handle) := by
  intro env s u s' h
  unfold recordRuntimeHandleHint at h
  obtain ⟨row, hrow, h⟩ := Tx.Runs.fetch_bind h
  obtain ⟨_, s₁, h₁, h⟩ := h.bind
  have ho₁ : Observed env s s₁ := by
    refine updateExecution_observed ?_ h₁
    intro e _
    exact ⟨rfl, rfl, rfl, rfl, rfl, fun hphys => hphys⟩
  refine trans_of (Observed env) ho₁ ?_
  rcases h.query_bind.whenever with ⟨-, h⟩ | ⟨-, rfl⟩
  · exact h.respects (updateIncarnationHandle_observed _ _)
  · exact refl_of (Observed env) s'

theorem recordPendingPhysicalTerminal_observed {st : ExecutionState}
    {handle payload : Option JsonValue} {sm : Option String} {c : Option FailureClass}
    {qc reusable : Bool}
    (h : Runs env (recordPendingPhysicalTerminal x st handle payload sm c qc reusable) s u s') :
    Observed env s s' := by
  unfold recordPendingPhysicalTerminal at h
  obtain ⟨hended, h⟩ := h.require_bind
  obtain ⟨row, hrow, h⟩ := Tx.Runs.fetch_bind h
  obtain ⟨_, -, h⟩ := h.examine_bind
  obtain ⟨_, s₁, h₁, h⟩ := h.bind
  refine trans_of (Observed env) (updateExecution_observed ?_ h₁)
    (h.respects (updateIncarnationHandle_observed _ _))
  intro e _
  have hst : st.isActivePhysical = false := by
    revert hended
    cases st <;> decide
  exact ⟨rfl, rfl, rfl, rfl, rfl, fun hphys => absurd (hst.symm.trans hphys) Bool.false_ne_true⟩

/-- A fault is recorded on an attempt without an incarnation. -/
theorem Store.Tied.fault (hs : s.Tied) {a : AttemptId} {r : AttemptRow}
    (hr : s.attempts.lookup a = some r) (hunlinked : r.incarnationId = none)
    (hattempts : s'.attempts = s.attempts) (hexecutions : s'.executions = s.executions)
    (hincarnations : s'.incarnations = s.incarnations)
    (hfaults : ∀ b k, s'.preparationFaults.lookup b = some k →
      b = a ∨ s.preparationFaults.lookup b = some k) : s'.Tied where
  execution := by
    rw [hexecutions, hattempts]
    exact hs.execution
  link := by
    rw [hattempts, hincarnations]
    exact hs.link
  started := by
    rw [hattempts, hexecutions]
    exact hs.started
  faulted b k hk := by
    rw [hattempts]
    rcases hfaults b k hk with rfl | hk
    · exact ⟨r, hr, hunlinked⟩
    · exact hs.faulted b k hk
  attached y e he hphys := by
    rw [hexecutions] at he
    unfold Store.LiveHost Store.ActiveClaim
    rw [hattempts, hincarnations]
    exact hs.attached y e he hphys

end Agentype

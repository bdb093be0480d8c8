import Agentype.Physical.Links

/-!
# `Agentype.Physical.Closing` — what a settlement does to the physical rows

Each operation that ends a claim closes its attempt, ends its execution or fences its incarnation,
and touches no other attempt and no other execution. A writer that may still run leaves an
obligation behind that names its task and its agent.

## Contents
- `Handles a g i x`: the statements of the settlement of attempt `a` of agent `g`, with incarnation
  `i` and execution `x`, stay within `Works a g`.
- `Shuts a`: the attempt is closed afterwards.
- `Settlement`: what one settled claim leaves behind, for each operation that settles claims.
-/

namespace Agentype

open Relational Tx Store Board

variable {env : Env} {s s' s₁ : Store} {a : AttemptId} {g : LogicalAgentId}
  {i : Option IncarnationId} {x : Option (ExecutionId × ExecutionRow)}
variable {u : Unit} {t : TaskId} {task : TaskRow}

/-! ## Statements of one claim -/

/-- The incarnation and the execution a settlement works on are those of its claim. -/
structure Backed (a : AttemptId) (g : LogicalAgentId) (i : Option IncarnationId)
    (x : Option (ExecutionId × ExecutionRow)) (s : Store) : Prop where
  incarnation : ∀ j inc, i = some j → s.incarnations.lookup j = some inc → inc.logicalAgentId = g
  execution : ∀ y row e, x = some (y, row) → s.executions.lookup y = some e → e.attemptId = a

/-- A settlement that writes neither needs no backing. -/
theorem Backed.absent : Backed a g none none s where
  incarnation _ _ hj := by cases hj
  execution _ _ _ hx := by cases hx

theorem Backed.works (hs : Backed a g i x s) (h : Works a g env s s') : Backed a g i x s' where
  incarnation j inc' hj hinc' := by
    obtain ⟨inc, hinc, hf, -⟩ := h.confines.before hinc'
    exact hf.agent.trans (hs.incarnation j inc hj hinc)
  execution y row e hx he := by
    by_contra hne
    exact hne (hs.execution y row e hx ((h.others y e hne).mp he))

/-- Under its own incarnation and execution, a settlement stays within `Works a g`. -/
def Handles (a : AttemptId) (g : LogicalAgentId) (i : Option IncarnationId)
    (x : Option (ExecutionId × ExecutionRow)) (env : Env) (s s' : Store) : Prop :=
  Backed a g i x s → Works a g env s s'

instance (env : Env) : IsPreorder Store (Handles a g i x env) where
  refl s _ := refl_of (Works a g env) s
  trans _ _ _ h h' hs :=
    trans_of (Works a g env) (h hs) (h' (hs.works (h hs)))

instance : Sees physicalTables (Handles a g i x) := by
  constructor
  intro env s s' h _
  exact .of_confines (h .attempts (by decide)) (h .preparationFaults (by decide))
    (.of_eq (h .incarnations (by decide))) (h .executions (by decide))

theorem closeAttempt_handles (st : AttemptState) (only : Bool) (hst : st ≠ .active) :
    Respects (Handles a g i x) (closeAttempt a st only) := by
  intro env s u s' h _
  obtain ⟨t', ht', rfl⟩ := Tx.Runs.updateIn h
  have hlook : ∀ k, t'.lookup k = (s.attempts.lookup k).map _ := Table.lookup_of_update ht'
  refine ⟨?_, ?_, ?_, rfl, .of_eq rfl, fun _ _ _ => Iff.rfl, fun _ e he _ => ⟨e, he, .refl e⟩⟩
  · intro a' hne
    exact Table.lookup_of_update_other ht' fun _ _ => by simp [hne]
  · intro r' hr'
    change t'.lookup a = some r' at hr'
    rw [hlook] at hr'
    obtain ⟨r, hr, rfl⟩ := Option.map_eq_some_iff.mp hr'
    refine ⟨r, hr, ?_⟩
    unfold Table.updateRow
    split
    · exact ⟨st, .inr hst, rfl⟩
    · exact .refl r
  · intro r hr
    show (t'.lookup a).isSome = true
    rw [hlook, hr]
    rfl

section Writes

variable {α : Type} {y : KernelTx α} [Touches [.executions] y]

/-- A write of the claim's own execution. -/
theorem Works.of_write {b : α} (h : Runs env y s b s') {w : Option ExecutionWrite}
    (hw : ∀ z, s'.executions.lookup z = overwritten s.executions w z)
    (hown : ∀ w', w = some w' → ∀ e, s.executions.lookup w'.id = some e →
      e.attemptId = a ∧ e.Ends (w'.value e)) : Works a g env s s' := by
  refine .of_executions (frame h .attempts rfl) (frame h .preparationFaults rfl)
    (.of_eq (frame h .incarnations rfl)) ?_ ?_
  · intro z e hne
    rw [hw]
    cases w with
    | none => exact Iff.rfl
    | some w' =>
      simp only [overwritten]
      split
      · rename_i hz
        subst hz
        cases he : s.executions.lookup w'.id with
        | none => exact Iff.rfl
        | some e₀ =>
          obtain ⟨hown, hends⟩ := hown w' rfl e₀ he
          -- both rows belong to the claim, so neither is the row asked for
          refine iff_of_false ?_ ?_
          · rintro ⟨⟩
            exact hne (hends.attempt.trans hown)
          · rintro ⟨⟩
            exact hne hown
      · exact Iff.rfl
  · intro z e' he' _
    rw [hw] at he'
    cases w with
    | none => exact ⟨e', he', .refl e'⟩
    | some w' =>
      simp only [overwritten] at he'
      split at he'
      · rename_i hz
        subst hz
        obtain ⟨e, he, rfl⟩ := Option.map_eq_some_iff.mp he'
        exact ⟨e, he, (hown w' rfl e he).2⟩
      · exact ⟨e', he', .refl e'⟩

/-- A write of the execution the settlement was handed. -/
theorem handles_of_write {f : ExecutionRow → ExecutionRow}
    (hy : ∀ {env s b s'}, Runs env y s b s' → ∀ z, s'.executions.lookup z =
      overwritten s.executions (x.map fun x => ⟨x.1, f⟩) z)
    (hf : ∀ e : ExecutionRow, e.Ends (f e)) : Respects (Handles a g i x) y := by
  intro env s b s' h hbacked
  refine .of_write h (hy h) fun w hw e he => ?_
  obtain ⟨x, rfl, rfl⟩ := Option.map_eq_some_iff.mp hw
  exact ⟨hbacked.execution x.1 x.2 e rfl he, hf e⟩

end Writes

theorem succeedExecution_handles (p : JsonValue) (q : Bool) :
    Respects (Handles a g i x) (succeedExecution p q x) :=
  handles_of_write succeedExecution_overwritten fun _ => ⟨rfl, rfl, rfl, rfl, rfl, nofun⟩

/-- A failed claim writes the row it has read. -/
theorem nackExecution_works {c : FailureClass} {tc qc : Bool}
    (h : Runs env (nackExecution c tc qc (s.executionOfAttempt a)) s u s') : Works a g env s s' := by
  refine .of_write h (nackExecution_overwritten h) fun w hw e he => ?_
  unfold Store.failureWrite at hw
  cases hx : s.executionOfAttempt a with
  | none =>
    rw [hx] at hw
    cases hw
  | some x =>
    obtain ⟨hrow, hown⟩ := executionOfAttempt_eq_some.mp hx
    simp only [hx, Option.bind_eq_bind, Option.bind_some] at hw
    split at hw
    · rename_i hactive
      cases hw
      cases hrow.symm.trans he
      exact ⟨hown, rfl, rfl, rfl, rfl, rfl, fun _ => hactive⟩
    · cases hw

namespace ExecutionRow

variable {q isolation : Bool} (e : ExecutionRow)

theorem cancelled_ends : e.Ends (e.cancelled q) := by
  unfold cancelled
  split
  · rename_i hactive
    exact ⟨rfl, rfl, rfl, rfl, rfl, fun _ => hactive⟩
  · exact .refl e

theorem finalized_ends : e.Ends (e.finalized isolation q) := by
  unfold finalized
  split
  · refine ⟨rfl, rfl, rfl, rfl, rfl, fun hphys => ?_⟩
    dsimp only at hphys
    split at hphys
    · cases hphys
    · exact hphys
  · split
    · refine ⟨rfl, rfl, rfl, rfl, rfl, fun hphys => ?_⟩
      dsimp only at hphys
      split at hphys
      · cases hphys
      · exact hphys
    · exact .refl e

end ExecutionRow

theorem cancelExecution_handles (q : Bool) :
    Respects (Handles a g i x) (cancelExecution q x) :=
  handles_of_write cancelExecution_overwritten fun e => e.cancelled_ends

theorem finalizeEscalatedExecution_handles (isolation q : Bool) :
    Respects (Handles a g i x) (finalizeEscalatedExecution (x.map Prod.fst) isolation q) := by
  refine handles_of_write (f := .finalized isolation q) (fun h z => ?_) fun e => e.finalized_ends
  rw [finalizeEscalatedExecution_overwritten h, Option.map_map]
  rfl

theorem eraseExecution_handles (y : ExecutionId) (row : ExecutionRow) :
    Respects (Handles a g i (some (y, row))) (eraseFrom executionsT y : KernelTx Unit) := by
  intro env s u s' h hbacked
  obtain rfl := h.eraseFrom
  have hlook : ∀ z, (s.executions.erase y).lookup z = _ := Table.lookup_erase s.executions y
  refine .of_executions rfl rfl (.of_eq rfl) ?_ ?_
  · intro z e hne
    change (s.executions.erase y).lookup z = some e ↔ s.executions.lookup z = some e
    rw [hlook]
    split
    · rename_i hz
      subst hz
      refine iff_of_false nofun ?_
      intro he
      exact hne (hbacked.execution z row e rfl he)
    · exact Iff.rfl
  · intro z e he _
    change (s.executions.erase y).lookup z = some e at he
    rw [hlook] at he
    split at he
    · cases he
    · exact ⟨e, he, .refl e⟩

/-! ## The incarnation and the agent of the claim -/

theorem Works.of_incarnations {α : Type} {y : KernelTx α} {b : α} [Touches [.incarnations] y]
    (h : Runs env y s b s') (hc : Confines (· = g) s s') : Works a g env s s' :=
  .of_confines (frame h .attempts rfl) (frame h .preparationFaults rfl) hc (frame h .executions rfl)

theorem setIncarnationState_handles {j : IncarnationId} {source : IncarnationState → Bool}
    {st : IncarnationState} (hterm : source .terminated = false)
    (hlive : st.isLivePresence = true → ∀ st₀, source st₀ = true → st₀.isLivePresence = true) :
    Respects (Handles a g (some j) x) (setIncarnationState j source st) := by
  intro env s u s' h hbacked
  refine .of_incarnations h ?_
  obtain ⟨t', ht', rfl⟩ := Tx.Runs.updateIn h
  refine .of_update ht' rfl fun k r hr hp => ⟨⟨rfl, rfl, ?_, ?_⟩, ?_⟩
  · intro hl
    exact hlive hl r.state (Bool.and_eq_true_iff.mp hp).2
  · intro ht
    rw [ht, hterm, Bool.and_false] at hp
    cases hp
  · intro _ _
    obtain rfl := of_decide_eq_true (Bool.and_eq_true_iff.mp hp).1
    exact hbacked.incarnation k r rfl hr

theorem recordIncarnationPresence_handles (st : ExecutionState) (tc qc r : Bool) :
    Respects (Handles a g i x) (recordIncarnationPresence i st tc qc r) := by
  unfold recordIncarnationPresence
  cases i with
  | none => exact .pure _
  | some j =>
    dsimp only
    split
    · exact .pure _
    · exact setIncarnationState_handles rfl fun _ _ h => h
    · exact setIncarnationState_handles rfl fun h => by cases h
    · exact setIncarnationState_handles rfl fun h => by cases h

theorem loseIncarnation_handles : Respects (Handles a g i x) (loseIncarnation i) := by
  unfold loseIncarnation
  cases i with
  | none => exact .pure _
  | some j => exact setIncarnationState_handles rfl nofun

theorem loseIncarnations_handles (p : IncarnationRow → Bool) :
    Respects (Handles a g i x) (loseIncarnations g p) :=
  fun _ _ _ _ h _ => .of_incarnations h (loseIncarnations_confines h)

theorem releaseAgent_handles : Respects (Handles a g i x) (releaseAgent g) :=
  releaseAgent_respects (fun _ => .aside rfl) loseIncarnations_handles

/-! ## The shared parts of a settlement -/

section Parts

variable {r : ClaimRecords}

theorem suspendOrRelease_handles (unknown : Bool) :
    Respects (Handles a g i x) (suspendOrRelease g unknown) :=
  .ite (.aside rfl) releaseAgent_handles

theorem suspendCurrent_handles (c : FailureClass) (sig detail : Option String) :
    Respects (Handles a r.attempt.logicalAgentId i x) (suspendCurrent a r c sig detail) := by
  unfold suspendCurrent createEscalation
  exact .bind (closeAttempt_handles _ _ (by decide)) fun _ => .bind (.aside rfl) fun _ =>
    .bind (.aside rfl) fun _ => .bind (suspendOrRelease_handles _) fun _ => .aside rfl

theorem retryLater_handles :
    Respects (Handles a r.attempt.logicalAgentId i x) (retryLater a r) := by
  unfold retryLater
  exact .bind .ask fun _ => .bind (closeAttempt_handles _ _ (by decide)) fun _ =>
    .bind (.aside rfl) fun _ => .bind (.aside rfl) fun _ => releaseAgent_handles

theorem retryOrSuspend_handles (c : FailureClass) (safe : Bool) :
    Respects (Handles a r.attempt.logicalAgentId i x) (retryOrSuspend a r c safe) :=
  .ite (.bind retryLater_handles fun _ => .pure _)
    (.bind (suspendCurrent_handles _ _ _) fun _ => .pure _)

theorem cancelAuthority_handles : Respects (Handles a g i x) (cancelAuthority a) :=
  .bind (closeAttempt_handles _ _ (by decide)) fun _ => .aside rfl

theorem cancelAgent_handles (t : TaskId) (b : BatchId) (w : Option WorkstreamId) (unknown : Bool)
    (detail : String) : Respects (Handles a g i x) (cancelAgent t b w g unknown detail) :=
  .ite (.aside rfl) releaseAgent_handles

end Parts

/-! ## Closing the attempt -/

theorem Closes.not_activeClaim (h : Closes env s s') (hs : ¬ s.ActiveClaim a) :
    ¬ s'.ActiveClaim a := by
  rintro ⟨r', hr', hactive⟩
  obtain ⟨r, hr, hc⟩ := h.lookup_of_after hr'
  obtain rfl := hc.of_active hactive
  exact hs ⟨r', hr, hactive⟩

/-- The attempt is closed afterwards. -/
def Shuts {α : Type} (a : AttemptId) (y : KernelTx α) : Prop :=
  ∀ env s b s', Runs env y s b s' → ¬ s'.ActiveClaim a

theorem closed_of_runs {α : Type} {y : KernelTx α} {b : α} (h : Runs env y s b s')
    (hy : Shuts a y) : ¬ s'.ActiveClaim a :=
  hy env s b s' h

namespace Shuts

variable {α β : Type} {y : KernelTx α} {f : α → KernelTx β}

theorem first (hy : Shuts a y) (hf : ∀ v, Respects Closes (f v)) : Shuts a (y >>= f) := by
  intro env s b s' h
  obtain ⟨v, s₁, h₁, h₂⟩ := h.bind
  exact (hf v env s₁ b s' h₂).not_activeClaim (hy env s v s₁ h₁)

theorem later (hf : ∀ v, Shuts a (f v)) : Shuts a (y >>= f) := by
  intro env s b s' h
  obtain ⟨v, s₁, -, h₂⟩ := h.bind
  exact hf v env s₁ b s' h₂

theorem ite {c : Prop} [Decidable c] {y z : KernelTx α} (hy : Shuts a y) (hz : Shuts a z) :
    Shuts a (if c then y else z) := by
  split
  · exact hy
  · exact hz

theorem closeAttempt (st : AttemptState) (only : Bool) (hst : st ≠ .active) :
    Shuts a (closeAttempt a st only) := by
  intro env s u s' h
  obtain ⟨t', ht', rfl⟩ := Tx.Runs.updateIn h
  rintro ⟨r', hr', hactive⟩
  change t'.lookup a = some r' at hr'
  rw [Table.lookup_of_update ht'] at hr'
  obtain ⟨r, hr, rfl⟩ := Option.map_eq_some_iff.mp hr'
  unfold Table.updateRow at hactive
  split at hactive
  · exact hst hactive
  · rename_i hskip
    simp [hactive] at hskip

variable {r : ClaimRecords}

theorem suspendCurrent (c : FailureClass) (sig detail : Option String) :
    Shuts a (suspendCurrent a r c sig detail) := by
  unfold Agentype.suspendCurrent createEscalation
  exact .first (.closeAttempt _ _ (by decide)) fun _ => .aside rfl

theorem retryLater : Shuts a (retryLater a r) := by
  unfold Agentype.retryLater
  exact .later fun _ => .first (.closeAttempt _ _ (by decide)) fun _ => .aside rfl

theorem retryOrSuspend (c : FailureClass) (safe : Bool) : Shuts a (retryOrSuspend a r c safe) :=
  .ite (.first retryLater fun _ => .pure _) (.first (suspendCurrent _ _ _) fun _ => .pure _)

theorem cancelAuthority : Shuts a (cancelAuthority a) :=
  .first (.closeAttempt _ _ (by decide)) fun _ => .aside rfl

end Shuts

/-! ## Obligations -/

/-- An open obligation names the task and the agent. -/
def Board.ObligedFor (b : Board) (t : TaskId) (g : LogicalAgentId) : Prop :=
  ∃ e x, b.escalation e = some x ∧ x.isOpen = true ∧ x.tag = writerUnknown ∧ x.task = t ∧
    x.agent = some g

/-- No escalation of the task is open. -/
def Board.Undecided (b : Board) (t : TaskId) : Prop :=
  ∀ e x, b.escalation e = some x → x.isOpen = true → x.task ≠ t

theorem undecided_congr (h : s'.escalations = s.escalations) :
    s'.board.Undecided t ↔ s.board.Undecided t := by
  show (∀ e x, s'.escalations.view EscalationRow.view e = some x → _) ↔ _
  rw [h]
  rfl

theorem undecided_frame {α : Type} {y : KernelTx α} {b : α} {W : List TableName} [Touches W y]
    (h : Runs env y s b s') (hW : decide (.escalations ∉ W) = true) (hno : s.board.Undecided t) :
    s'.board.Undecided t :=
  (undecided_congr (frame h .escalations hW)).mpr hno

theorem createEscalation_obliged {b : BatchId} {w : Option WorkstreamId}
    {sig detail : Option String} {id : EscalationId} (hno : s.board.Undecided t)
    (h : Runs env (createEscalation t b (some g) w .writerQuiescenceUnknown sig detail) s id s') :
    s'.board.ObligedFor t g := by
  obtain ⟨-, hboard⟩ := createEscalationWithCause_board h hno
  refine ⟨id, ⟨t, b, some g, writerUnknown, true⟩, ?_, rfl, rfl, rfl, rfl⟩
  rw [hboard, raise_escalation, if_pos rfl]
  rfl

theorem suspendCurrent_obliged {r : ClaimRecords} {sig detail : Option String}
    (hno : s.board.Undecided r.attempt.taskId)
    (h : Runs env (suspendCurrent a r .writerQuiescenceUnknown sig detail) s u s') :
    s'.board.ObligedFor r.attempt.taskId r.attempt.logicalAgentId := by
  unfold suspendCurrent at h
  obtain ⟨_, s₁, h₁, h⟩ := h.bind
  obtain ⟨_, s₂, h₂, h⟩ := h.bind
  obtain ⟨_, s₃, h₃, h⟩ := h.bind
  obtain ⟨_, s₄, h₄, h⟩ := h.bind
  obtain ⟨id, s₅, h₅, h⟩ := h.bind
  have hno₂ := undecided_frame h₂ rfl (undecided_frame h₁ rfl hno)
  have hno₄ := undecided_frame h₄ rfl (undecided_frame h₃ rfl hno₂)
  have hobl := createEscalation_obliged hno₄ h₅
  rwa [board_frame h rfl]

theorem cancelAgent_obliged {b : BatchId} {w : Option WorkstreamId} {detail : String}
    (hno : s.board.Undecided t) (h : Runs env (cancelAgent t b w g true detail) s u s') :
    s'.board.ObligedFor t g := by
  obtain ⟨_, s₁, h₁, h⟩ := Tx.Runs.bind h
  obtain ⟨id, s₂, h₂, h⟩ := h.bind
  obtain ⟨-, rfl⟩ := h.pure
  exact createEscalation_obliged (undecided_frame h₁ rfl hno) h₂

/-! ## Settlements -/

/-- **A settled claim.** The attempt is closed, its execution has ended or its incarnation is
    fenced, and a writer that may still run is isolated or has left an obligation. -/
structure Settlement (env : Env) (s s' : Store) (a : AttemptId) (r : AttemptRow) (task : TaskRow) :
    Prop where
  attempt : s.attempts.lookup a = some r
  active : r.state = .active
  works : Works a r.logicalAgentId env s s'
  closed : ¬ s'.ActiveClaim a
  tame : s'.Tame a
  vouched : ∀ y e, s'.executions.lookup y = some e → e.attemptId = a →
    e.state.isActivePhysical = true → task.workspaceMode ≠ .write ∨ e.attemptIsolation = true ∨
      s'.board.ObligedFor r.taskId r.logicalAgentId

/-- A settled agent is idle: no other attempt of it was active. -/
theorem Settlement.idle {r : AttemptRow} (h : Settlement env s s' a r task) :
    s'.IdleAgent r.logicalAgentId := by
  intro a' r' hr' hagent hactive
  by_cases ha : a' = a
  · subst ha
    exact h.closed ⟨r', hr', hactive⟩
  · rw [h.works.attempts a' ha] at hr'
    have hclash := Table.clash_of_lookup h.attempt hr' (Ne.symm ha)
    simp [attemptSchema, h.active, hactive, hagent] at hclash

theorem Settlement.tied {r : AttemptRow} (h : Settlement env s s' a r task) (hs : s.Tied) :
    s'.Tied :=
  hs.works h.works h.closed h.idle h.tame

theorem Store.Tied.backed (hs : s.Tied) {r : AttemptRow} (hr : s.attempts.lookup a = some r) :
    Backed a r.logicalAgentId r.incarnationId (s.executionOfAttempt a) s where
  incarnation j inc hj hinc := by
    obtain ⟨inc', hinc', hagent, -⟩ := hs.link a r j hr hj
    cases hinc.symm.trans hinc'
    exact hagent
  execution y row e hy he := by
    obtain ⟨hrow, hown⟩ := executionOfAttempt_eq_some.mp hy
    cases hrow.symm.trans he
    exact hown

/-- The execution of a claim whose incarnation is fenced. -/
theorem Store.Tied.tame_of_fenced (hs : s.Tied) {r : AttemptRow}
    (hr : s.attempts.lookup a = some r) (hw : Works a g env s s')
    (hdead : ∀ j, r.incarnationId = some j → ¬ s'.LiveHost j) : s'.Tame a := by
  intro y e he ha _
  obtain ⟨e₀, he₀, hends⟩ := hw.own y e he ha
  obtain ⟨r', hr', -, -, hlink⟩ := hs.execution y e₀ he₀
  rw [← hends.attempt, ha] at hr'
  cases hr.symm.trans hr'
  rw [hends.incarnation]
  exact hdead _ hlink

/-- No execution of the attempt is physically active. -/
def Store.Still (s : Store) (a : AttemptId) : Prop :=
  ∀ y e, s.executions.lookup y = some e → e.attemptId = a → e.state.isActivePhysical = false

theorem Store.Still.tame (h : s.Still a) : s.Tame a := by
  intro y e he ha hphys
  rw [h y e he ha] at hphys
  cases hphys

theorem Store.Still.works (h : s.Still a) (hw : Works a g env s s') : s'.Still a := by
  intro y e he ha
  obtain ⟨e₀, he₀, hends⟩ := hw.own y e he ha
  have hstill := h y e₀ he₀ (hends.attempt.symm.trans ha)
  cases hphys : e.state.isActivePhysical with
  | false => rfl
  | true => rw [hends.active hphys] at hstill; cases hstill

theorem Settlement.of_still {r : AttemptRow} (hr : s.attempts.lookup a = some r)
    (hactive : r.state = .active) (hw : Works a r.logicalAgentId env s s')
    (hclosed : ¬ s'.ActiveClaim a) (hstill : s'.Still a) : Settlement env s s' a r task where
  attempt := hr
  active := hactive
  works := hw
  closed := hclosed
  tame := hstill.tame
  vouched y e he ha hphys := by
    rw [hstill y e he ha] at hphys
    cases hphys

/-- A claim whose writer may be replaced: its execution is isolated, or has ended. -/
theorem vouched_of_safe {mode : WorkspaceMode} {q : Bool}
    (hsafe : writerSafe mode (s.executionOfAttempt a) q = true) (hw : Works a g env s s')
    (hq : q = true → s'.Still a) {y : ExecutionId} {e : ExecutionRow}
    (he : s'.executions.lookup y = some e) (ha : e.attemptId = a)
    (hphys : e.state.isActivePhysical = true) :
    mode ≠ .write ∨ e.attemptIsolation = true := by
  obtain ⟨e₀, he₀, hends⟩ := hw.own y e he ha
  have hown : s.executionOfAttempt a = some (y, e₀) :=
    executionOfAttempt_eq_some.mpr ⟨he₀, hends.attempt.symm.trans ha⟩
  have hnq : q = false := by
    cases hq' : q with
    | false => rfl
    | true => rw [hq hq' y e he ha] at hphys; cases hphys
  rw [hown, hnq] at hsafe
  rw [hends.isolation]
  by_cases hmode : mode = .write
  · right
    simpa [writerSafe, writerIsSafeToReplace, hmode] using hsafe
  · exact .inl hmode

/-- The proof of a row shows that it has ended. -/
theorem still_of_rowQuiescent (h : rowQuiescent (s.executionOfAttempt a) = true) : s.Still a := by
  intro y e he ha
  rw [executionOfAttempt_eq_some.mpr ⟨he, ha⟩] at h
  have hcheck := Table.check_of_lookup he
  revert h hcheck
  show durableQuiescence e.terminalConfirmed e.quiescentConfirmed = true →
    (!e.quiescentConfirmed || (e.terminalConfirmed && e.state.isEnded)) = true → _
  unfold durableQuiescence
  cases e.state <;> cases e.terminalConfirmed <;> cases e.quiescentConfirmed <;> decide

end Agentype

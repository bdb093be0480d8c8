import Agentype.Kernel.Ages
import Agentype.Scheduler.Refine

/-!
# `Agentype.Contract.Assignment` — who may work on what, and until when

The durable rows of a claim agree with each other in every store a history of calls reaches, and a
claim that failed its fence never passes it again.

## Contents
- `AssignmentCoherence s`: the agreement of tasks, attempts, leases and agents, row by row.
- `Validates s a e now`: the claim `(a, e)` passes the fence at `now`.
- `Authorized.earlier`: a claim that passes after a call passed before it.
- `Op.Presents a e`: the operations that are presented with the claim `(a, e)`.
-/

namespace Agentype

open Relational Tx Store Board

variable {env : Env} {s s' : Store} {a a' : AttemptId} {e e' : LeaseEpoch}
variable {now : UnixTime}

/-! ## Assignment coherence -/

/-- The rows of the claim that task `t` names as its current one. -/
structure ClaimRows (s : Store) (t : TaskId) (task : TaskRow) (a : AttemptId) : Prop where
  attempt : ∃ w, s.attempts.lookup a = some w ∧ w.taskId = t ∧ w.state = .active ∧
    w.leaseEpoch = task.fencingEpoch
  only : ∀ a' w, s.attempts.lookup a' = some w → w.taskId = t → w.state = .active → a' = a
  lease : ∃ l x, s.leases.lookup l = some x ∧ x.attemptId = a ∧ x.taskId = t ∧
    x.state = .active ∧ x.epoch = task.fencingEpoch ∧
    ∀ l' x', s.leases.lookup l' = some x' → x'.attemptId = a → l' = l
  agent : ∃ w g, s.attempts.lookup a = some w ∧ s.logicalAgents.lookup w.logicalAgentId = some g ∧
    g.currentTaskId = some t ∧ (g.state = .assigned ∨ g.state = .draining)

/-- Tasks, attempts, leases and agents agree about the claims that are held. -/
structure AssignmentCoherence (s : Store) : Prop where
  assigned_iff : ∀ t task, s.tasks.lookup t = some task →
    ((task.state = .leased ∨ task.state = .running) ↔ task.currentAttemptId.isSome = true)
  claim : ∀ t task a, s.tasks.lookup t = some task → task.currentAttemptId = some a →
    ClaimRows s t task a
  /-- An active attempt is the current one of its task. -/
  active : ∀ a w, s.attempts.lookup a = some w → w.state = .active →
    ∃ task, s.tasks.lookup w.taskId = some task ∧ task.currentAttemptId = some a
  /-- An active lease belongs to an active attempt. -/
  leased : ∀ l x, s.leases.lookup l = some x → x.state = .active →
    ∃ w, s.attempts.lookup x.attemptId = some w ∧ w.state = .active
  /-- An agent with a task holds the task's active attempt. -/
  holder : ∀ g row t, s.logicalAgents.lookup g = some row → row.currentTaskId = some t →
    ∃ a w, s.attempts.lookup a = some w ∧ w.state = .active ∧ w.taskId = t ∧ w.logicalAgentId = g
  /-- An assigned agent has a task. -/
  assigned : ∀ g row, s.logicalAgents.lookup g = some row → row.state = .assigned →
    row.currentTaskId.isSome = true

theorem isAssigned_iff {st : TaskState} :
    st.isAssigned = true ↔ st = .leased ∨ st = .running := by
  cases st <;> decide

theorem holds_iff {st : LogicalAgentState} :
    st.holds = true ↔ st = .assigned ∨ st = .draining := by
  cases st <;> decide

/-- The claim of a task on a coherent board, row by row. -/
theorem ClaimRows.of_coherent (hs : s.board.Coherent) {t : TaskId} {task : TaskRow}
    (ht : s.tasks.lookup t = some task) (hc : task.currentAttemptId = some a) :
    ClaimRows s t task a := by
  obtain ⟨_, hw, htask, hepoch, hactive⟩ :=
    hs.current_attempt t task.view a (Table.view_of_lookup ht) hc
  obtain ⟨w, hattempt, rfl⟩ := Table.view_eq_some.mp hw
  obtain ⟨l, _, hl, howns⟩ := hs.attempt_lease a w.view hw
  obtain ⟨x, hlease, rfl⟩ := Table.view_eq_some.mp hl
  obtain ⟨_, hw', hsame, hepoch', hactive'⟩ := hs.lease_attempt l x.view hl
  rw [howns, hw] at hw'
  obtain rfl := Option.some.inj hw'
  obtain ⟨_, hu, hcur⟩ := hs.active_holder a w.view hw hactive
  obtain ⟨g, hagent, rfl⟩ := Table.view_eq_some.mp hu
  have htask : w.taskId = t := htask
  refine ⟨⟨w, hattempt, htask, of_decide_eq_true hactive, hepoch⟩, ?_, ?_, ?_⟩
  · intro a' w' hw' htask' hactive'
    exact hs.active_unique (Table.view_of_lookup hw') hw (decide_eq_true hactive') hactive
      (htask'.trans htask.symm)
  · refine ⟨l, x, hlease, howns, hsame.trans htask, ?_, hepoch'.trans hepoch, ?_⟩
    · exact of_decide_eq_true (hactive'.trans hactive)
    · intro l' x' hl' howns'
      exact hs.lease_unique l' l x'.view x.view (Table.view_of_lookup hl') hl
        (howns'.trans howns.symm)
  · have hcur : g.currentTaskId = some t := htask ▸ hcur
    exact ⟨w, g, hattempt, hagent, hcur, holds_iff.mp (hs.holder _ g.view t hu hcur).1⟩

/-- The agreement on the board is the agreement of the rows. -/
theorem AssignmentCoherence.of_coherent (hs : s.board.Coherent) : AssignmentCoherence s where
  assigned_iff t task ht := isAssigned_iff.symm.trans (hs.assigned_iff t task.view
    (Table.view_of_lookup ht))
  claim t task a ht hc := .of_coherent hs ht hc
  active a w hw hactive := by
    obtain ⟨_, hv, hc⟩ := hs.active_current a w.view (Table.view_of_lookup hw)
      (decide_eq_true hactive)
    obtain ⟨task, ht, rfl⟩ := Table.view_eq_some.mp hv
    exact ⟨task, ht, hc⟩
  leased l x hl hactive := by
    obtain ⟨_, hw, -, -, hsame⟩ := hs.lease_attempt l x.view (Table.view_of_lookup hl)
    obtain ⟨w, hattempt, rfl⟩ := Table.view_eq_some.mp hw
    exact ⟨w, hattempt, of_decide_eq_true (hsame.symm.trans (decide_eq_true hactive))⟩
  holder g row t hg hc := by
    obtain ⟨-, a, _, hw, hactive, htask, hagent⟩ :=
      hs.holder g row.view t (Table.view_of_lookup hg) hc
    obtain ⟨w, hattempt, rfl⟩ := Table.view_eq_some.mp hw
    exact ⟨a, w, hattempt, of_decide_eq_true hactive, htask, hagent⟩
  assigned g row hg hst := hs.assigned_holds g row.view (Table.view_of_lookup hg) hst

/-- **Assignment coherence.** In every store that a history of calls reaches from the empty one,
    tasks, attempts, leases and agents agree about the claims that are held. -/
theorem after_assignmentCoherence (calls : List Call) :
    AssignmentCoherence (Store.empty.after calls) :=
  .of_coherent (Store.after_sound calls).coherent

/-! ## The fence -/

/-- The claim `(a, e)` passes the authority fence at `now`. -/
def Validates (s : Store) (a : AttemptId) (e : LeaseEpoch) (now : UnixTime) : Prop :=
  ∃ r, s.validateAuthorityTx a e now = .ok r

instance {now : UnixTime} : Decidable (Validates s a e now) :=
  match h : s.validateAuthorityTx a e now with
  | .ok r => .isTrue ⟨r, h⟩
  | .error _ => .isFalse fun ⟨_, hr⟩ => by rw [h] at hr; cases hr

theorem validates_iff : Validates s a e now ↔ ∃ r, Authorized s a e now r :=
  exists_congr fun _ => validateAuthorityTx_ok

/-- The operations that are presented with the claim `(a, e)`. -/
def Op.Presents (a : AttemptId) (e : LeaseEpoch) : Op → Prop
  | .createExecution claim _ | .createExecutionWithSnapshot claim .. =>
    claim.attemptId = a ∧ claim.leaseEpoch = e
  | .confirmRunningAndRenew a' e' .. | .heartbeat a' e' | .renewSupervisedExecutionGuarded a' e' ..
  | .promoteCheckpoint a' e' _ | .ackSuccess a' e' .. | .nack a' e' ..
  | .nackPreservingPhysicalHistory a' e' .. | .reportConfigurationUnavailable a' e'
  | .abortBeforePhysicalStart a' e' _ => a' = a ∧ e' = e
  | _ => False

/-- An active attempt has every row the fence asks for; what is left is time and faults. -/
theorem Authorized.of_active (hs : s.board.Coherent) {w : AttemptRow}
    (hw : s.attempts.lookup a = some w) (hactive : w.state = .active) (hepoch : w.leaseEpoch = e)
    (hlive : ∀ l x, s.leases.lookup l = some x → x.attemptId = a → now < x.expiresAt)
    (hfault : s.preparationFaults.lookup a = none) : ∃ r, Authorized s a e now r := by
  obtain ⟨task, ht, hc⟩ := (AssignmentCoherence.of_coherent hs).active a w hw hactive
  obtain ⟨⟨w', hw', -, -, hfencing⟩, -, ⟨l, x, hl, howns, -, hlactive, hlepoch, -⟩, -⟩ :=
    (AssignmentCoherence.of_coherent hs).claim _ task a ht hc
  cases hw.symm.trans hw'
  refine ⟨⟨w, l, x, task⟩, hw, ht, leaseOfAttempt_eq_some.mpr ⟨hl, howns⟩, hactive, hlactive,
    hepoch, ?_, hc, ?_, hlive l x hl howns, hfault⟩
  · exact hlepoch.trans (hfencing.symm.trans hepoch)
  · exact hfencing.symm.trans hepoch

/-- **One call.** A claim that passes after a call passed before it, unless its attempt is new. -/
theorem Authorized.earlier {op : Op} {u : Unit} {r : ClaimRecords} (hs : s.board.Sound)
    (h : Runs env op.exec s u s') (hnow : env.now ≤ now)
    (hold : (s.attempts.lookup a).isSome = true) (hauth : Authorized s' a e now r) :
    ∃ r₀, Authorized s a e env.now r₀ := by
  have hages := exec_ages op env s u s' h
  obtain ⟨w, hw⟩ := Option.isSome_iff_exists.mp hold
  obtain ⟨w', hw', hfixed⟩ := hages.attempts a w hw
  cases hauth.attempt.symm.trans hw'
  have hactive : w.state = .active := by
    by_contra hne
    obtain ⟨v, hv, hclosed⟩ := attempt_closed_steps (exec_refines op hs h)
      (Table.view_of_lookup hw) (decide_eq_false hne)
    rw [show s'.board.attempt a = some r.attempt.view from Table.view_of_lookup hw'] at hv
    rw [← Option.some.inj hv] at hclosed
    exact absurd hauth.attemptActive (of_decide_eq_false hclosed)
  have hepoch : w.leaseEpoch = e :=
    (congrArg AttemptRow.leaseEpoch hfixed).symm.trans hauth.attemptEpoch
  refine Authorized.of_active hs.coherent hw hactive hepoch (fun l x hl howns => ?_) ?_
  · obtain ⟨x', hl', hfixed', hexpiry⟩ := hages.leases l x hl
    have howns' : x'.attemptId = a := (congrArg LeaseRow.attemptId hfixed').trans howns
    have hsame := hauth.lease
    rw [leaseOfAttempt_eq_some.mpr ⟨hl', howns'⟩] at hsame
    obtain ⟨-, rfl⟩ := Prod.mk.inj (Option.some.inj hsame)
    rcases hexpiry with heq | ⟨hlt, -⟩
    · rw [← heq]
      exact lt_of_le_of_lt hnow hauth.unexpired
    · exact hlt
  · cases hf : s.preparationFaults.lookup a with
    | none => rfl
    | some kind =>
      obtain ⟨k, hk, -⟩ := hages.preparationFaults a kind hf
      rw [hauth.unfaulted] at hk
      cases hk

/-- The fence only gets stricter with time. -/
theorem Authorized.mono {now' : UnixTime} {r : ClaimRecords} (h : Authorized s a e now' r)
    (hle : now ≤ now') : Authorized s a e now r :=
  { h with unexpired := lt_of_le_of_lt hle h.unexpired }

theorem Validates.mono {now' : UnixTime} (h : Validates s a e now') (hle : now ≤ now') :
    Validates s a e now := by
  obtain ⟨r, hr⟩ := validates_iff.mp h
  exact validates_iff.mpr ⟨r, hr.mono hle⟩

/-- A transaction that begins with the fence commits only when the claim passes it. -/
theorem validates_of_runs {α : Type} {f : ClaimRecords → KernelTx α} {x : α}
    (h : Runs env (validateAuthorityTx a e >>= f) s x s') : Validates s a e env.now := by
  obtain ⟨r, hr, -⟩ := validateAuthorityTx_bind h
  exact validates_iff.mpr ⟨r, hr⟩

theorem createExecutionInTx_validates {claim : Claim} {b : FrozenPhysicalExecutionBinding}
    {x : ExecutionId} {desc : Option String} {r : ExecutionLaunchSnapshot}
    (h : Runs env (createExecutionInTx claim b x desc) s r s') :
    Validates s claim.attemptId claim.leaseEpoch env.now := by
  unfold createExecutionInTx at h
  obtain ⟨_, h⟩ := h.require_bind
  obtain ⟨_, h⟩ := h.require_bind
  exact validates_of_runs h

/-- A committed operation that is presented with a claim has fenced it, or changed nothing. -/
theorem Op.Presents.validates {op : Op} {u : Unit} (hp : op.Presents a e)
    (h : Runs env op.exec s u s') : Validates s a e env.now ∨ s' = s := by
  cases op with
  | createExecution =>
    obtain ⟨rfl, rfl⟩ := hp
    obtain ⟨r, h⟩ := runs_of_effect h
    obtain ⟨x, s₁, h₁, h₂⟩ := Tx.Runs.bind h
    obtain ⟨k, h₁⟩ := Tx.Runs.ask_bind h₁ |>.mint_bind
    obtain ⟨-, rfl⟩ := h₁.pure
    exact .inl (createExecutionInTx_validates h₂)
  | createExecutionWithSnapshot =>
    obtain ⟨rfl, rfl⟩ := hp
    obtain ⟨r, h⟩ := runs_of_effect h
    obtain ⟨_, s₁, h₁, -⟩ := Tx.Runs.bind h
    exact .inl (createExecutionInTx_validates h₁)
  | confirmRunningAndRenew =>
    obtain ⟨rfl, rfl⟩ := hp
    obtain ⟨r, h⟩ := runs_of_effect h
    exact .inl (validates_of_runs (Tx.Runs.ask_bind h))
  | renewSupervisedExecutionGuarded =>
    obtain ⟨rfl, rfl⟩ := hp
    obtain ⟨r, h⟩ := runs_of_effect h
    unfold Agentype.renewSupervisedExecutionGuarded at h
    have h := h.ask_bind
    split at h
    · exact .inr h.pure.2
    · exact .inl (validates_of_runs h)
  | heartbeat | promoteCheckpoint | ackSuccess | nack | nackPreservingPhysicalHistory
  | reportConfigurationUnavailable | abortBeforePhysicalStart =>
    obtain ⟨rfl, rfl⟩ := hp
    obtain ⟨r, h⟩ := runs_of_effect h
    exact .inl (validates_of_runs h)
  | _ => exact hp.elim

/-- A call presented with a claim that does not pass the fence changes nothing. -/
theorem call_eq_of_fenced {c : Call} (hp : c.2.Presents a e) (hno : ¬ Validates s a e c.1.now) :
    s.call c = s := by
  rcases step_cases Op.exec s c with ⟨-, hrun⟩ | ⟨-, heq⟩
  · exact (hp.validates hrun).resolve_left hno
  · exact heq

/-! ## Histories -/

/-- The timestamps of a history never decrease. -/
def Clock (calls : List Call) : Prop := calls.Pairwise fun c c' => c.1.now ≤ c'.1.now

theorem attempt_persists_call (c : Call) (h : (s.attempts.lookup a).isSome = true) :
    ((s.call c).attempts.lookup a).isSome = true := by
  rcases step_cases Op.exec s c with ⟨-, hrun⟩ | ⟨-, heq⟩
  · obtain ⟨w, hw⟩ := Option.isSome_iff_exists.mp h
    obtain ⟨w', hw', -⟩ := (exec_ages c.2 _ _ _ _ hrun).attempts a w hw
    exact Option.isSome_of_eq_some hw'
  · show ((step Op.exec s c).attempts.lookup a).isSome = true
    rw [heq]
    exact h

theorem call_sound (c : Call) (hs : s.board.Sound) : (s.call c).board.Sound :=
  hs.steps (Store.after_refines [c] hs)

/-- **A fenced claim stays fenced**, whatever calls follow. -/
theorem not_validates_after (calls : List Call) (c' : Call) (hs : s.board.Sound)
    (hold : (s.attempts.lookup a).isSome = true) (hno : ¬ Validates s a e now)
    (hnow : ∀ c ∈ calls ++ [c'], now ≤ c.1.now) (hclock : Clock (calls ++ [c'])) :
    ¬ Validates (s.after calls) a e c'.1.now := by
  induction calls generalizing s now with
  | nil => exact fun h => hno (h.mono (hnow c' (List.mem_singleton.mpr rfl)))
  | cons c calls ih =>
    obtain ⟨hle, hclock⟩ := List.pairwise_cons.mp hclock
    refine ih (call_sound c hs) (attempt_persists_call c hold) ?_ hle hclock
    -- the fence is checked at the time of the call, and the call does not lift it
    have hnow : ¬ Validates s a e c.1.now := fun h => hno (h.mono (hnow c List.mem_cons_self))
    intro hlater
    rcases step_cases Op.exec s c with ⟨-, hrun⟩ | ⟨-, heq⟩
    · obtain ⟨r, hr⟩ := validates_iff.mp hlater
      exact hnow (validates_iff.mpr (hr.earlier hs hrun le_rfl hold))
    · change Validates (step Op.exec s c) a e c.1.now at hlater
      rw [heq] at hlater
      exact hnow hlater

/-- Two claims of one task never pass the fence together. -/
theorem Authorized.unique (hs : s.board.Coherent) {now' : UnixTime} {r r' : ClaimRecords}
    (h : Authorized s a e now r) (h' : Authorized s a' e' now' r')
    (htask : r.attempt.taskId = r'.attempt.taskId) : a = a' ∧ e = e' := by
  have ha : a = a' := hs.active_unique (Table.view_of_lookup h.attempt)
    (Table.view_of_lookup h'.attempt) (decide_eq_true h.attemptActive)
    (decide_eq_true h'.attemptActive) htask
  subst ha
  have hrow : r.attempt = r'.attempt := Option.some.inj (h.attempt.symm.trans h'.attempt)
  refine ⟨rfl, ?_⟩
  rw [← h.attemptEpoch, ← h'.attemptEpoch, hrow]

/-- The history up to a call, as the claim sees it: the call made at `c` found attempt `a` and
    rejected `(a, e)`. -/
structure Rejected (before : List Call) (c : Call) (a : AttemptId) (e : LeaseEpoch) : Prop where
  known : ((Store.empty.after before).attempts.lookup a).isSome = true
  rejected : ¬ Validates (Store.empty.after before) a e c.1.now

/-- **Fenced authority is never regained.** In a history whose timestamps never decrease, a claim
    that some call rejected after its attempt was created is rejected by every later call, and the
    calls presented with it change nothing. At every point of every history at most one claim of a
    task passes the fence, and a claim whose lease has run out does not, swept or not. -/
theorem authority_never_regained :
    (∀ (before : List Call) (c : Call) (later : List Call) (c' : Call) (a : AttemptId)
        (e : LeaseEpoch), Clock (before ++ c :: (later ++ [c'])) → Rejected before c a e →
        ¬ Validates (Store.empty.after (before ++ c :: later)) a e c'.1.now ∧
          (c'.2.Presents a e → (Store.empty.after (before ++ c :: later)).call c' =
            Store.empty.after (before ++ c :: later))) ∧
      (∀ (calls : List Call) (now : UnixTime) (a a' : AttemptId) (e e' : LeaseEpoch)
        (w w' : AttemptRow), (Store.empty.after calls).attempts.lookup a = some w →
        (Store.empty.after calls).attempts.lookup a' = some w' → w.taskId = w'.taskId →
        Validates (Store.empty.after calls) a e now →
        Validates (Store.empty.after calls) a' e' now → a = a' ∧ e = e') ∧
      (∀ (calls : List Call) (c : Call) (a : AttemptId) (e : LeaseEpoch) (l : LeaseId)
        (x : LeaseRow), (Store.empty.after calls).leases.lookup l = some x → x.attemptId = a →
        x.expiresAt ≤ c.1.now → ¬ Validates (Store.empty.after calls) a e c.1.now ∧
          (c.2.Presents a e → (Store.empty.after calls).call c = Store.empty.after calls)) := by
  refine ⟨fun before c later c' a e hclock hrej => ?_, ?_, ?_⟩
  · have htail := (List.pairwise_append.mp hclock).2.1
    obtain ⟨hle, -⟩ := List.pairwise_cons.mp htail
    have hafter : Store.empty.after (before ++ c :: later) =
        (Store.empty.after before).after (c :: later) := run_append _ _ _
    have hno : ¬ Validates (Store.empty.after (before ++ c :: later)) a e c'.1.now := by
      rw [hafter]
      refine not_validates_after (c :: later) c' (Store.after_sound before) hrej.known
        hrej.rejected (fun d hd => ?_) htail
      rcases List.mem_cons.mp hd with rfl | hd
      · exact le_rfl
      · exact hle d hd
    exact ⟨hno, fun hp => call_eq_of_fenced hp hno⟩
  · intro calls now a a' e e' w w' hw hw' htask hv hv'
    obtain ⟨r, hr⟩ := validates_iff.mp hv
    obtain ⟨r', hr'⟩ := validates_iff.mp hv'
    refine hr.unique (Store.after_sound calls).coherent hr' ?_
    rw [← Option.some.inj (hw.symm.trans hr.attempt), htask,
      Option.some.inj (hw'.symm.trans hr'.attempt)]
  · intro calls c a e l x hl howns hexpired
    have hno : ¬ Validates (Store.empty.after calls) a e c.1.now := by
      intro hv
      obtain ⟨r, hr⟩ := validates_iff.mp hv
      have hlease := hr.lease
      rw [leaseOfAttempt_eq_some.mpr ⟨hl, howns⟩] at hlease
      obtain ⟨-, rfl⟩ := Prod.mk.inj (Option.some.inj hlease)
      exact absurd hr.unexpired (not_lt.mpr hexpired)
    exact ⟨hno, fun hp => call_eq_of_fenced hp hno⟩

open Deployment in
/-- A claim whose lease ran out at 16 is rejected by a call at 17 and by every call after it. -/
theorem authority_never_regained_running :
    Rejected running (moment 17 "w", .promoteRetryWait) "attempt_c" 1 ∧
      ¬ Validates (Store.empty.after (running ++ [(moment 17 "w", .promoteRetryWait)]))
        "attempt_c" 1 18 :=
  have hrejected : Rejected running (moment 17 "w", .promoteRetryWait) "attempt_c" 1 :=
    ⟨by decide +kernel, by decide +kernel⟩
  ⟨hrejected, (authority_never_regained.1 running (moment 17 "w", .promoteRetryWait) []
    (moment 18 "v", .heartbeat "attempt_c" 1) "attempt_c" 1
    (by unfold Clock; decide +kernel) hrejected).1⟩

end Agentype

import Agentype.Physical.Refusals
import Agentype.Physical.History

/-!
# `Agentype.Physical.Evidence` — proof of an end, and evidence that comes late

What the rows say about the end of an execution: the two proof bits, how they are won and which
operation may lose them. And what a late report about one execution does to the incarnation that
meanwhile runs another.

## Contents
- `Proved e`: the row holds both bits. `KeepsProof s s'`: no row loses them.
- `Op.KeepsQuiescence s`: the reports that may overwrite a proof repeat it.
- `Op.observes`, `Op.ConfirmsEnd`: the reports of a process, and those that confirm an end.
- `Successor s x i`: another execution than `x` is active on incarnation `i`.
- `SparesSuccessor`, `Op.LeavesHandle s`: what a late report leaves alone, and when.
-/

namespace Agentype

open Relational Tx Store

variable {env : Env} {s s' : Store}
variable {x : ExecutionId} {e : ExecutionRow} {st : ExecutionState} {op : Op} {u : Unit}
  {i : IncarnationId}

/-! ## Proof bits -/

/-- The row holds a confirmed end and confirmed quiescence. -/
def ExecutionRow.Proved (e : ExecutionRow) : Prop :=
  e.terminalConfirmed = true ∧ e.quiescentConfirmed = true

/-- **Quiescence is well-founded** in every store: the bit needs a confirmed end. -/
theorem quiescent_ended (he : s.executions.lookup x = some e) (hq : e.quiescentConfirmed = true) :
    e.terminalConfirmed = true ∧ e.state.isEnded = true := by
  have hcheck : (!e.quiescentConfirmed || (e.terminalConfirmed && e.state.isEnded)) = true :=
    Table.check_of_lookup he
  rw [hq] at hcheck
  exact (Bool.and_eq_true _ _).mp hcheck

theorem ExecutionState.not_active_of_ended (h : st.isEnded = true) :
    st.isActivePhysical = false := by
  revert h
  cases st <;> decide

theorem ExecutionState.resolved_of_ended (h : st.isEnded = true) : st.isUnresolved = false := by
  revert h
  cases st <;> decide

/-- An ended execution moves to no unresolved state. -/
theorem resolved_of_allowed {st' : ExecutionState} (h : physicalTransitionAllowed st st' = true)
    (hst : st.isEnded = true) : st'.isUnresolved = false := by
  revert h hst
  cases st <;> cases st' <;> decide

/-- No row loses its proof. -/
def KeepsProof (s s' : Store) : Prop :=
  ∀ x e, s.executions.lookup x = some e → e.Proved →
    ∃ e', s'.executions.lookup x = some e' ∧ e'.Proved

/-- The reports that write the quiescence bit repeat a proof that is already there. -/
def Op.KeepsQuiescence (s : Store) : Op → Prop
  | .recordPendingPhysicalTerminal x _ _ _ _ _ qc _ =>
    ∀ e, s.executions.lookup x = some e → e.Proved → qc = true
  | .ackSuccess a _ _ _ _ qc _ =>
    ∀ x e, s.executionOfAttempt a = some (x, e) → e.Proved → qc = true
  | _ => True

theorem keepsProof_overwritten {w : Option ExecutionWrite}
    (h : ∀ y, s'.executions.lookup y = overwritten s.executions w y) :
    KeepsProof s s' ↔ ∀ w', w = some w' → ∀ e, s.executions.lookup w'.id = some e → e.Proved →
      (w'.value e).Proved := by
  rw [← overwritten_iff (P := fun e e' => e.Proved → e'.Proved) (fun _ => id) h]
  constructor
  · intro hk x e e' he he' hproved
    obtain ⟨e'', he'', hproved'⟩ := hk x e he hproved
    exact Option.some.inj (he''.symm.trans he') ▸ hproved'
  · intro hk x e he hproved
    obtain ⟨e', he'⟩ := Option.isSome_iff_exists.mp (overwritten_isSome (w := w) he)
    rw [← h] at he'
    exact ⟨e', he', hk x e e' he he' hproved⟩

/-- Both bits survive when only the caller's quiescence is written over them. -/
theorem proved_succeeded {p : JsonValue} {qc : Bool} :
    (ExecutionRow.succeeded p qc e).Proved ↔ qc = true :=
  and_iff_right rfl

theorem proved_collected {h p : Option JsonValue} {sm : Option String} {c : Option FailureClass}
    {qc r : Bool} : (ExecutionRow.collected st h p sm c qc r e).Proved ↔ qc = true :=
  and_iff_right rfl

theorem Proved.finalized {isolation q : Bool} (h : e.Proved) :
    (ExecutionRow.finalized isolation q e).Proved := by
  unfold ExecutionRow.finalized
  split
  · exact ⟨rfl, rfl⟩
  · split
    · exact h
    · exact h

/-- **One committed call** keeps every proof exactly when it repeats the one it writes over. -/
theorem keepsProof_iff (h : Runs env op.exec s u s') : KeepsProof s s' ↔ op.KeepsQuiescence s := by
  cases exec_executions h with
  | created hop hnone hrow hlook =>
    refine iff_of_true (fun x e he hproved => ⟨e, ?_, hproved⟩) ?_
    · rw [hlook, if_neg, he]
      rintro rfl
      rw [hnone] at he
      cases he
    · cases op <;> trivial
  | erased hop hrow hattempt hstate hlook =>
    subst hop
    refine iff_of_true (fun x e he hproved => ⟨e, ?_, hproved⟩) trivial
    rw [hlook, if_neg, he]
    rintro rfl
    cases hrow.symm.trans he
    have hended := (quiescent_ended hrow hproved.2).2
    rw [hstate] at hended
    cases hended
  | written hguard hlook =>
    rw [keepsProof_overwritten hlook]
    -- a proved row is not active
    have hinactive : ∀ {x e}, s.executions.lookup x = some e → e.Proved →
        e.state.isActivePhysical = false := fun he hproved =>
      ExecutionState.not_active_of_ended (quiescent_ended he hproved.2).2
    cases op with
    | confirmRunningAndRenew a ep x handle =>
      refine iff_of_true (fun w hw e he hproved => ?_) trivial
      have hactive := (hguard w e hw he).2
      rw [hinactive he hproved] at hactive
      cases hactive
    | recordPhysicalOutcome x st handle p c tc qc =>
      refine iff_of_true (fun w hw e he hproved => ?_) trivial
      have hresolved := resolved_of_allowed (hguard w e hw he).1 (quiescent_ended he hproved.2).2
      obtain rfl := Option.some.inj hw
      simp [ExecutionRow.Proved, ExecutionRow.observed, hresolved, hproved.1, hproved.2]
    | recordRuntimeHandleHint =>
      refine iff_of_true (fun w hw e he hproved => ?_) trivial
      obtain rfl := Option.some.inj hw
      exact hproved
    | recordPendingPhysicalTerminal x =>
      constructor
      · intro hk e he hproved
        exact proved_collected.mp (hk _ rfl e he hproved)
      · intro hq w hw e he hproved
        obtain rfl := Option.some.inj hw
        exact proved_collected.mpr (hq e he hproved)
    | ackSuccess a ep key p sm qc r =>
      constructor
      · intro hk x e hx hproved
        refine proved_succeeded.mp
          (hk ⟨x, ExecutionRow.succeeded p qc⟩ ?_ e (executionOfAttempt_eq_some.mp hx).1 hproved)
        rw [Op.physicalWrite, hx, Option.map_some]
      · intro hq w hw e he hproved
        obtain ⟨⟨x, e'⟩, hx, rfl⟩ := Option.map_eq_some_iff.mp hw
        cases he.symm.trans (executionOfAttempt_eq_some.mp hx).1
        exact proved_succeeded.mpr (hq x e hx hproved)
    | nack | reportConfigurationUnavailable =>
      refine iff_of_true (fun w hw e he hproved => ?_) trivial
      -- a failure report writes active rows only
      obtain ⟨⟨x, e'⟩, hx, hw⟩ := Option.bind_eq_some_iff.mp hw
      split at hw
      · rename_i hactive
        obtain rfl := Option.some.inj hw
        cases he.symm.trans (executionOfAttempt_eq_some.mp hx).1
        change e.state.isActivePhysical = true at hactive
        rw [hinactive he hproved] at hactive
        cases hactive
      · cases hw
    | cancelTask t q =>
      refine iff_of_true (fun w hw e he hproved => ?_) trivial
      obtain ⟨⟨x, e'⟩, hx, rfl⟩ := Option.map_eq_some_iff.mp hw
      show (ExecutionRow.cancelled _ e).Proved
      rw [ExecutionRow.cancelled, if_neg (by rw [hinactive he hproved]; exact Bool.false_ne_true)]
      exact hproved
    | resolveEscalation id operation q =>
      refine iff_of_true (fun w hw e he hproved => ?_) trivial
      obtain ⟨row, hrow, hw⟩ := Option.bind_eq_some_iff.mp hw
      obtain ⟨x, hx, hw⟩ := Option.bind_eq_some_iff.mp hw
      split at hw
      · obtain rfl := Option.some.inj hw
        exact Proved.finalized hproved
      · cases hw
    | _ => exact iff_of_true (fun w hw => by cases hw) trivial

/-! ## Which reports are taken -/

/-- The execution a report is about and the state it was seen in. -/
def Op.observes : Op → Option (ExecutionId × ExecutionState)
  | .recordPhysicalOutcome x st .. | .recordPendingPhysicalTerminal x st .. => some (x, st)
  | _ => none

/-- Reported quiescence comes with a confirmed end, reported now or known before. -/
def Op.ConfirmsEnd (e : ExecutionRow) : Op → Prop
  | .recordPhysicalOutcome _ _ _ _ _ tc qc => qc = true → tc = true ∨ e.terminalConfirmed = true
  | _ => True

/-- The table takes an ended row exactly when the quiescence it leaves is backed by an end. -/
theorem updateExecution_isSome {f : ExecutionRow → ExecutionRow}
    (he : s.executions.lookup x = some e)
    (hf : ∀ e, (f e).requestId = e.requestId ∧ (f e).attemptId = e.attemptId ∧
      (f e).incarnationId = e.incarnationId) (hstate : ∀ e, (f e).state.isEnded = true) :
    (s.executions.update (fun k _ => decide (k = x)) f).isSome = true ↔
      ((f e).quiescentConfirmed = true → (f e).terminalConfirmed = true) := by
  have hcheck : executionSchema.check x (f e) = true ↔
      ((f e).quiescentConfirmed = true → (f e).terminalConfirmed = true) := by
    simp only [executionSchema, hstate, Bool.and_true]
    cases (f e).quiescentConfirmed <;> simp
  rw [← hcheck, executions_update_isSome hf fun e h => by
    rw [ExecutionState.not_active_of_ended (hstate e)] at h
    cases h]
  constructor
  · exact fun h => h x e he (decide_eq_true rfl)
  · intro h k r hr hk
    obtain rfl := of_decide_eq_true hk
    cases he.symm.trans hr
    exact h

/-- An observation leaves the end it confirms, if any, behind the quiescence. -/
theorem observed_backed {handle p : Option JsonValue} {c : Option FailureClass} {tc qc : Bool}
    (he : s.executions.lookup x = some e) (hend : st.isEnded = true) :
    ((ExecutionRow.observed st handle p c tc qc e).quiescentConfirmed = true →
        (ExecutionRow.observed st handle p c tc qc e).terminalConfirmed = true) ↔
      (qc = true → tc = true ∨ e.terminalConfirmed = true) := by
  -- quiescence the row already has is backed by an end
  have hbacked := fun hq => (quiescent_ended he hq).1
  have hresolved : st.isUnresolved = false := ExecutionState.resolved_of_ended hend
  simp only [ExecutionRow.observed, hresolved, Bool.not_false, Bool.true_and, Bool.or_eq_true]
  constructor
  · intro h hq
    exact (h (.inr hq)).symm
  · rintro h (hq | hq)
    · exact .inl (hbacked hq)
    · exact (h hq).symm

/-- An update that revives no incarnation commits. -/
theorem incarnations_ensures {p : IncarnationId → IncarnationRow → Bool}
    {f : IncarnationRow → IncarnationRow} {n : Nat}
    (hf : ∀ i, (f i).logicalAgentId = i.logicalAgentId ∧ (f i).generation = i.generation)
    (hlive : ∀ k i, p k i = true → (f i).state.isLivePresence = true →
      i.state.isLivePresence = true) :
    Ensures env (updateIn incarnationsT constraintViolation p f : KernelTx Unit) s n
      fun _ _ _ => True := by
  have hrow : ∀ k r, (Table.updateRow p f k r).logicalAgentId = r.logicalAgentId ∧
      (Table.updateRow p f k r).generation = r.generation ∧
      ((Table.updateRow p f k r).state.isLivePresence = true → r.state.isLivePresence = true) := by
    intro k r
    unfold Table.updateRow
    split
    · exact ⟨(hf r).1, (hf r).2, hlive k r ‹_›⟩
    · exact ⟨rfl, rfl, id⟩
  have hupdate : ∃ t', s.incarnations.update p f = some t' := by
    refine Table.exists_update_of_imp (fun _ _ _ _ => rfl) fun k r k' r' _ _ hclash => ?_
    obtain ⟨h₁, h₂, h₃⟩ := hrow k r
    obtain ⟨h₁', h₂', h₃'⟩ := hrow k' r'
    simp only [incarnationSchema, decide_eq_true_eq, h₁, h₂, h₁', h₂'] at hclash ⊢
    exact hclash.imp_right (Or.imp_right (And.imp h₃ h₃'))
  obtain ⟨t', ht'⟩ := hupdate
  exact .updateIn ht' trivial

theorem updateIncarnationHandle_ensures {handle : Option JsonValue} {n : Nat} :
    Ensures env (updateIncarnationHandle i handle) s n fun _ _ _ => True := by
  cases handle with
  | none => exact .pure trivial
  | some h => exact incarnations_ensures (fun _ => ⟨rfl, rfl⟩) fun _ _ _ => id

theorem recordIncarnationPresence_ensures {tc qc r : Bool} {n : Nat} :
    Ensures env (recordIncarnationPresence (some i) st tc qc r) s n fun _ _ _ => True := by
  unfold recordIncarnationPresence
  dsimp only
  split
  · exact .pure trivial
  · -- only a live incarnation is promoted
    exact incarnations_ensures (fun _ => ⟨rfl, rfl⟩) fun k i hp _ =>
      ((Bool.and_eq_true _ _).mp hp).2
  · exact incarnations_ensures (fun _ => ⟨rfl, rfl⟩) fun _ _ _ h => absurd h Bool.false_ne_true
  · exact incarnations_ensures (fun _ => ⟨rfl, rfl⟩) fun _ _ _ h => absurd h Bool.false_ne_true

/-- **A report of an end is taken** exactly when the execution is there, its state may move to the
    reported one, and reported quiescence comes with a confirmed end. -/
theorem observation_commits_iff (hobs : op.observes = some (x, st)) (hend : st.isEnded = true) :
    Commits Op.exec s (env, op) ↔ ∃ e, s.executions.lookup x = some e ∧
      physicalTransitionAllowed e.state st = true ∧ op.ConfirmsEnd e := by
  have hresolved : st.isUnresolved = false := ExecutionState.resolved_of_ended hend
  have hruns : Commits Op.exec s (env, op) → Runs env op.exec s () (step Op.exec s (env, op)) :=
    fun hcommit => (step_cases Op.exec s (env, op)).elim And.right fun h => absurd hcommit h.1
  cases op with
  | recordPhysicalOutcome x' st' handle p c tc qc =>
    cases hobs
    have htaken := fun {e} (he : s.executions.lookup x = some e) =>
      (updateExecution_isSome (f := ExecutionRow.observed st handle p c tc qc) he
        (fun _ => ⟨rfl, rfl, rfl⟩) fun _ => hend).trans (observed_backed he hend)
    constructor
    · intro hcommit
      have h : Runs env (recordPhysicalOutcome x st handle p c tc qc) s () _ := hruns hcommit
      unfold recordPhysicalOutcome at h
      obtain ⟨-, h⟩ := h.require_bind
      obtain ⟨e, he, h⟩ := h.fetch_bind
      obtain ⟨_, hallowed, h⟩ := h.examine_bind
      obtain ⟨_, s₁, hu, -⟩ := h.query_bind.bind
      obtain ⟨t', ht', -⟩ := Tx.Runs.updateIn hu
      exact ⟨e, he, requirePhysicalTransition_ok.mp hallowed,
        (htaken he).mp (Option.isSome_of_eq_some ht')⟩
    · rintro ⟨e, he, hallowed, hconfirms⟩
      -- the row is taken, and what follows only writes the incarnation, which revives nothing
      obtain ⟨t', ht'⟩ := Option.isSome_iff_exists.mp ((htaken he).mpr hconfirms)
      have hens : Ensures env (recordPhysicalOutcome x st handle p c tc qc) s 0 fun _ _ _ => True := by
        unfold recordPhysicalOutcome
        refine .bind (.require (by rw [hresolved]; rfl) (.bind (.fetch he (.bind (.examine
          (requirePhysicalTransition_ok.mpr hallowed) (.bind (.query (.bind
          (.updateIn ht' ?_)))))))))
        refine .whenever (fun _ => .bind (updateIncarnationHandle_ensures.mono fun _ _ _ _ => ?_))
          fun _ => trivial
        exact recordIncarnationPresence_ensures
      exact hens.commits
  | recordPendingPhysicalTerminal x' st' handle p sm c qc r =>
    cases hobs
    constructor
    · intro hcommit
      have h : Runs env (recordPendingPhysicalTerminal x st handle p sm c qc r) s () _ :=
        hruns hcommit
      unfold recordPendingPhysicalTerminal at h
      obtain ⟨-, h⟩ := h.require_bind
      obtain ⟨e, he, h⟩ := h.fetch_bind
      obtain ⟨_, hallowed, -⟩ := h.examine_bind
      exact ⟨e, he, requirePhysicalTransition_ok.mp hallowed, trivial⟩
    · rintro ⟨e, he, hallowed, -⟩
      -- a collected end is confirmed by the write itself
      obtain ⟨t', ht'⟩ := Option.isSome_iff_exists.mp ((updateExecution_isSome
        (f := ExecutionRow.collected st handle p sm c qc r) he (fun _ => ⟨rfl, rfl, rfl⟩)
        fun _ => hend).mpr fun _ => rfl)
      have hens : Ensures env (recordPendingPhysicalTerminal x st handle p sm c qc r) s 0
          fun _ _ _ => True := by
        unfold recordPendingPhysicalTerminal
        exact .bind (.require hend (.bind (.fetch he (.bind (.examine
          (requirePhysicalTransition_ok.mpr hallowed) (.bind (.updateIn ht'
          updateIncarnationHandle_ensures)))))))
      exact hens.commits
  | _ => cases hobs

/-- **Quiescence is backed by an end in every store. A report of an end is taken unless the execution
    is not there, its state may not move, or quiescence is reported and the end left unconfirmed; and
    no operation that settles is refused for the proof it brings. Proof is never lost exactly in the
    histories whose reports repeat the proof they write over.** -/
theorem quiescence_proof_iff (s : Store) (calls : List Call) :
    (∀ x e, (s.after calls).executions.lookup x = some e → e.quiescentConfirmed = true →
      e.terminalConfirmed = true ∧ e.state.isEnded = true) ∧
    (∀ env op x st, Op.observes op = some (x, st) → st.isEnded = true →
      (Commits Op.exec (s.after calls) (env, op) ↔
        ∃ e, (s.after calls).executions.lookup x = some e ∧
          physicalTransitionAllowed e.state st = true ∧ op.ConfirmsEnd e)) ∧
    (∀ env op, Op.Settles op → (commit op.exec env (s.after calls)).1 ≠ .error executionRefused) ∧
    (EveryCall Op.exec (fun s c => KeepsProof s (s.call c)) s calls ↔
      EveryCall Op.exec (fun s c => Commits Op.exec s c → c.2.KeepsQuiescence s) s calls) := by
  refine ⟨fun x e he hq => quiescent_ended he hq,
    fun env op x st hobs hend => observation_commits_iff hobs hend, fun env op hop => ?_,
    EveryCall.congr (fun s c => ?_) calls s⟩
  · exact ((settles_unrefused hop).spares env _).commit (show Error.isRefused _ = true by decide +kernel)
  rcases step_cases Op.exec s c with ⟨hc, h⟩ | ⟨hc, h⟩
  · rw [keepsProof_iff h]
    exact ⟨fun hk _ => hk, fun hk => hk hc⟩
  · -- a call that is rolled back loses nothing
    refine iff_of_true (fun x e he hproved => ⟨e, ?_, hproved⟩) fun hcommit => absurd hcommit hc
    change (step Op.exec s c).executions.lookup x = some e
    rw [h]
    exact he

/-- The proof bits of an execution after a history of calls from the empty store. -/
def proofAfter (calls : List Call) (x : ExecutionId) : Option (Bool × Bool) :=
  ((Store.empty.after calls).executions.lookup x).map fun e =>
    (e.terminalConfirmed, e.quiescentConfirmed)

open Deployment in
/-- The success of the running writer is collected with its quiescence proved. -/
def collected : List Call :=
  running ++ [(moment 7 "z", .recordPendingPhysicalTerminal "exec_x" .succeeded none none none none
    true false)]

open Deployment in
/-- A second collection, or a success acknowledged without quiescence, loses the proof. -/
theorem proof_lost_by_collection_and_success :
    (let again := collected ++ [(moment 8 "w", .recordPendingPhysicalTerminal "exec_x" .succeeded
        none none none none false false)]
     let acknowledged := collected ++
       [(moment 8 "w", .ackSuccess "attempt_c" 1 none .emptyObject none false false)]
     proofAfter collected "exec_x" = some (true, true) ∧
     proofAfter again "exec_x" = some (true, false) ∧
     proofAfter acknowledged "exec_x" = some (true, false)) := by
  decide +kernel

namespace Deployment

/-- What the runtime may report about the running writer, each with proof of its end. -/
def reports : List Op :=
  [.recordPhysicalOutcome "exec_x" .failed none none none true true,
   .recordPendingPhysicalTerminal "exec_x" .succeeded none none none none true false,
   .ackSuccess "attempt_c" 1 none .emptyObject none true true,
   .nack "attempt_c" 1 .timeout none true true false, .cancelTask "edit" true]

end Deployment

open Deployment in
/-- Every report is taken; the end of a writer that was lost may be confirmed by a decision. -/
theorem quiescence_proof_iff_running :
    (∀ op ∈ reports, Commits Op.exec (Store.empty.after running) (moment 7 "z", op)) ∧
    (let lost := running ++ [(moment 7 "z", .nack "attempt_c" 1 .timeout none false false false)]
     Commits Op.exec (Store.empty.after lost) (moment 8 "w", .resolveEscalation "escalation_z+"
       "retry" true) ∧
     ∀ env, (commit (Op.resolveEscalation "escalation_z+" "retry" true).exec env
       (Store.empty.after lost)).1 ≠ .error executionRefused) ∧
    stateAfter running "exec_x" = some .running ∧
    ∀ env, Commits Op.exec (Store.empty.after running)
      (env, .recordPhysicalOutcome "exec_x" .failed none none none true true) := by
  have hrunning : stateAfter running "exec_x" = some .running := by decide +kernel
  obtain ⟨e, he, hstate⟩ := Option.map_eq_some_iff.mp hrunning
  refine ⟨by decide +kernel, ⟨by decide +kernel, fun env => ?_⟩, hrunning, fun env => ?_⟩
  · exact (quiescence_proof_iff Store.empty _).2.2.1 env _ trivial
  · exact ((quiescence_proof_iff Store.empty running).2.1 env
      (.recordPhysicalOutcome "exec_x" .failed none none none true true) "exec_x" .failed rfl
      rfl).mpr ⟨e, he, by rw [hstate]; rfl, fun _ => .inl rfl⟩

/-! ## Late evidence -/

/-- Another execution than `x` is active on the incarnation. -/
def Successor (s : Store) (x : ExecutionId) (i : IncarnationId) : Prop :=
  ∃ x₂ e₂, x₂ ≠ x ∧ s.executions.lookup x₂ = some e₂ ∧ e₂.incarnationId = i ∧
    e₂.state.isActivePhysical = true

/-- The execution an observation is about. -/
def Op.reports : Op → Option ExecutionId
  | .recordPhysicalOutcome x .. | .recordRuntimeHandleHint x _
  | .recordPendingPhysicalTerminal x .. => some x
  | _ => none

/-- The operation, if it reports on an execution whose incarnation has a successor, leaves the
    state and the handle of that incarnation alone. -/
def SparesSuccessor (s s' : Store) (op : Op) : Prop :=
  ∀ x e i, op.reports = some x → s.executions.lookup x = some e → Successor s x e.incarnationId →
    s.incarnations.lookup e.incarnationId = some i →
    ∃ i', s'.incarnations.lookup e.incarnationId = some i' ∧ i'.state = i.state ∧
      i'.runtimeHandle = i.runtimeHandle

/-- A collected terminal fact that comes after its successor names no new handle. -/
def Op.LeavesHandle (s : Store) : Op → Prop
  | .recordPendingPhysicalTerminal x _ handle _ _ _ _ _ =>
    ∀ e i h, s.executions.lookup x = some e → Successor s x e.incarnationId →
      s.incarnations.lookup e.incarnationId = some i → handle = some h → h = i.runtimeHandle
  | _ => True

/-- An execution with a successor is not attached any more. -/
theorem Successor.detached (h : Successor s x i) : s.executionStillAttached x i = false := by
  obtain ⟨x₂, e₂, hne, he₂, hi, hactive⟩ := h
  unfold Store.executionStillAttached
  rw [Bool.and_eq_false_iff]
  refine .inr ((Bool.not_eq_false' _).mpr (List.any_eq_true.mpr ⟨(x₂, e₂), Table.mem_rows.mpr he₂, ?_⟩))
  simp [hi, hne, hactive]

/-- Locating an execution leaves its successors where they are. -/
theorem Successor.of_overwritten {f : ExecutionRow → ExecutionRow}
    (hlook : ∀ y, s'.executions.lookup y = overwritten s.executions (some ⟨x, f⟩) y)
    (h : Successor s x i) : Successor s' x i := by
  obtain ⟨x₂, e₂, hne, he₂, hi, hactive⟩ := h
  refine ⟨x₂, e₂, hne, ?_, hi, hactive⟩
  rw [hlook]
  exact (if_neg hne).trans he₂

theorem updateIncarnationHandle_lookup {handle : Option JsonValue}
    (h : Runs env (updateIncarnationHandle i handle) s u s') :
    s'.incarnations.lookup i = (s.incarnations.lookup i).map fun row =>
      { row with runtimeHandle := handle.getD row.runtimeHandle } := by
  cases handle with
  | none =>
    obtain ⟨-, rfl⟩ := Tx.Runs.pure h
    exact Option.map_id'.symm
  | some h' =>
    obtain ⟨t, ht, rfl⟩ := Tx.Runs.updateIn h
    show t.lookup i = _
    rw [Table.lookup_of_update ht]
    exact Option.map_congr fun row _ => if_pos (decide_eq_true rfl)

/-- **One committed call** spares the successors exactly when it names no new handle. -/
theorem sparesSuccessor_iff (h : Runs env op.exec s u s') :
    SparesSuccessor s s' op ↔ op.LeavesHandle s := by
  cases op with
  | recordPhysicalOutcome x st handle p c tc qc =>
    refine iff_of_true (fun x' e i hx he hsucc hi => ?_) trivial
    obtain rfl := Option.some.inj hx
    change Runs env (recordPhysicalOutcome x st handle p c tc qc) s u s' at h
    unfold recordPhysicalOutcome at h
    obtain ⟨-, h⟩ := h.require_bind
    obtain ⟨e', he', h⟩ := h.fetch_bind
    cases he.symm.trans he'
    obtain ⟨_, -, h⟩ := h.examine_bind
    replace h := h.query_bind
    obtain ⟨_, s₁, hu, h⟩ := h.bind
    rw [hsucc.detached] at h
    rcases h.whenever with ⟨hc, -⟩ | ⟨-, rfl⟩
    · cases hc
    · refine ⟨i, ?_, rfl, rfl⟩
      have heq : s'.incarnations = s.incarnations := frame hu .incarnations rfl
      rw [heq, hi]
  | recordRuntimeHandleHint x handle =>
    refine iff_of_true (fun x' e i hx he hsucc hi => ?_) trivial
    obtain rfl := Option.some.inj hx
    change Runs env (recordRuntimeHandleHint x handle) s u s' at h
    unfold recordRuntimeHandleHint at h
    obtain ⟨e', he', h⟩ := h.fetch_bind
    cases he.symm.trans he'
    obtain ⟨_, s₁, hu, h⟩ := h.bind
    replace h := h.query_bind
    rw [(hsucc.of_overwritten (updateExecution_overwritten hu)).detached] at h
    rcases h.whenever with ⟨hc, -⟩ | ⟨-, rfl⟩
    · cases hc
    · refine ⟨i, ?_, rfl, rfl⟩
      have heq : s'.incarnations = s.incarnations := frame hu .incarnations rfl
      rw [heq, hi]
  | recordPendingPhysicalTerminal x st handle p sm c qc r =>
    change Runs env (recordPendingPhysicalTerminal x st handle p sm c qc r) s u s' at h
    unfold recordPendingPhysicalTerminal at h
    obtain ⟨-, h⟩ := h.require_bind
    obtain ⟨e, he, h⟩ := h.fetch_bind
    obtain ⟨_, -, h⟩ := h.examine_bind
    obtain ⟨_, s₁, hu, h⟩ := h.bind
    have heq : s₁.incarnations = s.incarnations := frame hu .incarnations rfl
    have hlook := updateIncarnationHandle_lookup h
    rw [heq] at hlook
    constructor
    · intro hspare e' i h' he' hsucc hi hh
      subst hh
      obtain ⟨i', hi', -, hhandle⟩ := hspare x e' i rfl he' hsucc hi
      cases he.symm.trans he'
      rw [hlook, hi] at hi'
      rw [← hhandle, ← Option.some.inj hi']
      rfl
    · intro hleaves x' e' i hx he' hsucc hi
      obtain rfl := Option.some.inj hx
      cases he.symm.trans he'
      rw [hlook, hi]
      refine ⟨_, rfl, rfl, ?_⟩
      cases hh : handle with
      | none => rfl
      | some h' => exact hleaves e i h' he hsucc hi hh
  | _ => exact iff_of_true (fun x e i hx => nomatch hx) trivial

/-- **Late evidence spares the successor exactly in the histories whose collected terminal facts
    name no new handle for an incarnation that runs another execution.** -/
theorem history_sparesSuccessor_iff (s : Store) (calls : List Call) :
    EveryCall Op.exec (fun s c => SparesSuccessor s (s.call c) c.2) s calls ↔
      EveryCall Op.exec (fun s c => Commits Op.exec s c → c.2.LeavesHandle s) s calls := by
  refine EveryCall.congr (fun s c => ?_) calls s
  rcases step_cases Op.exec s c with ⟨hc, h⟩ | ⟨hc, h⟩
  · rw [sparesSuccessor_iff h]
    exact ⟨fun hk _ => hk, fun hk => hk hc⟩
  · refine iff_of_true (fun x e i _ _ _ hi => ⟨i, ?_, rfl, rfl⟩) fun hcommit => absurd hcommit hc
    change (step Op.exec s c).incarnations.lookup _ = some i
    rw [h]
    exact hi

namespace Deployment

/-- A resident worker finishes one task and runs the next on the same incarnation. -/
def overtaken : List Call :=
  [(moment 1 "p", .upsertPartition { general with retention := .resident }),
   (moment 2 "b", .submitBatch [writer, { writer with name := "next", taskId := some "next" }]),
   (moment 3 "r", .reconcilePool), (moment 4 "c", .claimNextAvailable),
   (moment 5 "x", .createExecution claim binding),
   (moment 6 "y", .confirmRunningAndRenew "attempt_c" 1 "exec_x" .emptyObject),
   (moment 7 "z", .ackSuccess "attempt_c" 1 none .emptyObject none true true),
   (moment 8 "d", .claimNextAvailable),
   (moment 9 "n", .createExecution
      { claim with taskId := "next", attemptId := "attempt_d", leaseId := "lease_d+" }
      { binding with safety := { binding.safety with attemptId := "attempt_d" } }),
   (moment 10 "v", .confirmRunningAndRenew "attempt_d" 1 "exec_n" .emptyObject)]

end Deployment

/-- The runtime handle of an incarnation after a history of calls from the empty store. -/
def handleAfter (calls : List Call) (i : IncarnationId) : Option JsonValue :=
  ((Store.empty.after calls).incarnations.lookup i).map IncarnationRow.runtimeHandle

/-- The incarnation of an execution after a history of calls from the empty store. -/
def hostAfter (calls : List Call) (x : ExecutionId) : Option IncarnationId :=
  ((Store.empty.after calls).executions.lookup x).map ExecutionRow.incarnationId

open Deployment in
/-- The collected success of the first execution replaces the handle under the second. -/
theorem late_collection_replaces_handle :
    (let late := overtaken ++ [(moment 11 "w", .recordPendingPhysicalTerminal "exec_x" .succeeded
        (some .null) none none none true false)]
     hostAfter overtaken "exec_x" = some "inc_x+" ∧ hostAfter overtaken "exec_n" = some "inc_x+" ∧
     stateAfter overtaken "exec_n" = some .running ∧
     handleAfter overtaken "inc_x+" = some .emptyObject ∧
     handleAfter late "inc_x+" = some .null) := by
  decide +kernel

end Agentype

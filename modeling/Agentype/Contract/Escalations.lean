import Agentype.Kernel.Commits
import Agentype.Contract.Batches
import Agentype.Contract.Faults

/-!
# `Agentype.Contract.Escalations` — a suspended task and its decision come in pairs

A task is suspended together with the decision that may release it. An open escalation is reused, a
cancelled task keeps its own, and a cancelled batch drops all but the writer obligations; still every
suspended task has exactly one open escalation, and the root can always decide it. What a decision has
to read first is the cause of the escalation, and a cause that cannot be read would block the task
for good: that every cause is readable is an invariant of its own.

## Contents
- `Store.Explained`: every escalation accounts for its cause; `exec_explains`, `Store.after_explained`.
- `escalationCause_readable`: in a reachable store every cause can be read.
- `cancelDecision_ensures`: the root can always cancel a suspended task.
- `resolveEscalation_spares`: a decision writes a suspended or cancelled task only.
- `escalation_coupling`.
-/

namespace Agentype

open Relational Tx Store

variable {env : Env} {s s' : Store}
variable {t : TaskId} {e : EscalationId} {v : TaskRow}

/-! ## Causes -/

/-- What the tag of an escalation promises about its preparation child. -/
def Store.Accounts (s : Store) (e : EscalationId) (x : EscalationRow) : Prop :=
  match x.tag with
  | .taskFailure _ => s.preparationEscalations.lookup e = none
  | .preparationControlPlane => ∃ a r k, s.preparationEscalations.lookup e = some a ∧
      s.attempts.lookup a = some r ∧ r.taskId = x.taskId ∧ s.preparationFaults.lookup a = some k

/-- Every escalation accounts for its cause, and every preparation child belongs to one. -/
structure Store.Explained (s : Store) : Prop where
  cause : ∀ e x, s.escalations.lookup e = some x → s.Accounts e x
  child : ∀ e a, s.preparationEscalations.lookup e = some a → ∃ x, s.escalations.lookup e = some x

/-- The fault behind a preparation decision can be read exactly when the claim never got physical. -/
theorem validatedFault_eq_ok {a : AttemptId} {k : PreparationFaultKind} :
    s.validatedFault a t = .ok k ↔ ∃ r, s.attempts.lookup a = some r ∧ r.taskId = t ∧
      r.incarnationId = none ∧ s.executionOfAttempt a = none ∧
      s.preparationFaults.lookup a = some k := by
  unfold Store.validatedFault
  cases hr : s.attempts.lookup a with
  | none => simp [orError, Bind.bind, Except.bind]
  | some r =>
    simp only [orError, Option.some.injEq, exists_eq_left']
    show (if _ then _ else _) = _ ↔ _
    split_ifs with hbad
    · refine ⟨(fun h => by cases h), ?_⟩
      rintro ⟨ht, hi, hx, -⟩
      simp [ht, hi, hx] at hbad
    · simp only [not_or, ne_eq, not_not, Bool.not_eq_true, Option.isSome_eq_false_iff,
        Option.isNone_iff_eq_none] at hbad
      cases s.preparationFaults.lookup a with
      | none => simp
      | some k' => simp [hbad.1, hbad.2.1, hbad.2.2]

/-- An account survives as long as its child row does: attempts and faults are never forgotten. -/
theorem Store.Accounts.ages {x x' : EscalationRow} (hs : s.Accounts e x) (h : Ages env s s')
    (hx : x'.fixed = x.fixed)
    (hchild : s'.preparationEscalations.lookup e = s.preparationEscalations.lookup e) :
    s'.Accounts e x' := by
  have htag : x'.tag = x.tag := (congrArg EscalationRow.tag hx :)
  have htask : x'.taskId = x.taskId := (congrArg EscalationRow.taskId hx :)
  unfold Store.Accounts at hs ⊢
  rw [htag, htask, hchild]
  cases hcase : x.tag with
  | taskFailure c =>
    rw [hcase] at hs
    exact hs
  | preparationControlPlane =>
    rw [hcase] at hs
    obtain ⟨a, r, k, ha, hr, ht, hk⟩ := hs
    obtain ⟨r', hr', hfixed⟩ := h.attempts a r hr
    obtain ⟨k', hk', rfl⟩ := h.preparationFaults a k hk
    exact ⟨a, r', k', ha, hr', (congrArg AttemptRow.taskId hfixed :).trans ht, hk'⟩

/-- Rows are kept, and accounts stay in order. -/
def Explains (env : Env) (s s' : Store) : Prop :=
  Ages env s s' ∧ (s.Explained → s'.Explained)

instance (env : Env) : IsPreorder Store (Explains env) where
  refl s := ⟨.refl env s, id⟩
  trans _ _ _ h h' := ⟨h.1.trans h'.1, fun hs => h'.2 (h.2 hs)⟩

/-- The tables that hold decisions. -/
abbrev decisionTables : List TableName := [.escalations, .preparationEscalations]

/-- A transaction that writes no decision. -/
theorem explains_of_ages {α : Type} {W : List TableName} {x : KernelTx α} [Touches W x]
    (ha : Respects Ages x) (hW : decide (∀ n ∈ decisionTables, n ∉ W) = true) :
    Respects Explains x := by
  intro env s a s' h
  replace hW := of_decide_eq_true hW
  have hages := ha env s a s' h
  have hesc : s'.escalations = s.escalations := frame_of_not_mem h .escalations (hW _ (by decide))
  have hchild : s'.preparationEscalations = s.preparationEscalations :=
    frame_of_not_mem h .preparationEscalations (hW _ (by decide))
  refine ⟨hages, fun hs => ⟨?_, ?_⟩⟩
  · intro e x hx
    rw [hesc] at hx
    exact (hs.cause e x hx).ages hages rfl (by rw [hchild])
  · rw [hesc, hchild]
    exact hs.child

/-- Closing decisions changes no account. -/
theorem updateEscalations_explains {p : EscalationId → EscalationRow → Bool}
    {f : EscalationRow → EscalationRow} (hf : ∀ r, (f r).fixed = r.fixed) :
    Respects Explains (updateIn escalationsT constraintViolation p f : KernelTx Unit) := by
  intro env s u s' h
  have hages := ages_escalations.update (fun _ _ r _ => hf r) env s u s' h
  obtain ⟨t', ht', rfl⟩ := h.updateIn
  refine ⟨hages, fun hs => ⟨?_, ?_⟩⟩
  · intro e x' hx'
    have hlookup : t'.lookup e = (s.escalations.lookup e).map (Table.updateRow p f e) :=
      Table.lookup_of_update ht' e
    have hx' : t'.lookup e = some x' := hx'
    rw [hlookup, Option.map_eq_some_iff] at hx'
    obtain ⟨x, hx, rfl⟩ := hx'
    refine (hs.cause e x hx).ages hages ?_ rfl
    unfold Table.updateRow
    split_ifs
    · exact hf x
    · rfl
  · intro e a ha
    obtain ⟨x, hx⟩ := hs.child e a ha
    obtain ⟨x', hx', -⟩ := hages.escalations e x hx
    exact ⟨x', hx'⟩

/-- A new decision is inserted together with the account of its cause. -/
theorem createEscalationWithCause_explains {t : TaskId} {b : BatchId} {g : Option LogicalAgentId}
    {w : Option WorkstreamId} {cause : EscalationCause} {sig detail : Option String} :
    Respects Explains (createEscalationWithCause t b g w cause sig detail) := by
  intro env s e s' h
  have hages := createEscalationWithCause_ages env s e s' h
  refine ⟨hages, fun hs => ?_⟩
  unfold createEscalationWithCause at h
  have h := h.query_bind
  split at h
  · obtain ⟨_, -, h⟩ := h.examine_bind
    obtain ⟨_, h⟩ := h.require_bind
    obtain ⟨-, rfl⟩ := h.pure
    exact hs
  obtain ⟨n, h⟩ := newId_bind h
  obtain ⟨tab, htab, h⟩ := h.insertInto_bind
  obtain ⟨hnew, hrows⟩ := Table.lookup_of_insert htab
  have hnew : s.escalations.lookup ("escalation" ++ "_" ++ env.uuid n) = none := hnew
  -- the identifier is new, so no child can be waiting under it
  have horphan : s.preparationEscalations.lookup ("escalation" ++ "_" ++ env.uuid n) = none := by
    cases hchild : s.preparationEscalations.lookup ("escalation" ++ "_" ++ env.uuid n) with
    | none => rfl
    | some a =>
      obtain ⟨x, hx⟩ := hs.child _ a hchild
      rw [hnew] at hx
      cases hx
  cases cause with
  | preparationFault a kind =>
    -- the child row is written after the fault behind it has been validated
    obtain ⟨_, s₁, h₁, h⟩ := h.bind
    obtain ⟨_, s₂, h₂, h⟩ := h.bind
    obtain ⟨rfl, rfl⟩ := h.pure
    unfold attachEscalation at h₁
    obtain ⟨k, hk, h₁⟩ := h₁.examine_bind
    obtain ⟨_, h₁⟩ := h₁.require_bind
    obtain ⟨tab', htab', rfl⟩ := h₁.insertInto
    obtain ⟨-, hchildren⟩ := Table.lookup_of_insert htab'
    have hframe : ∀ n, n ≠ .notificationOutbox →
        s'.table n = Store.table n (preparationEscalationsT.set (escalationsT.set s tab) tab') :=
      fun n hn => frame h₂ n (by simpa using hn)
    have hesc : s'.escalations = tab := hframe .escalations (by decide)
    have hchild : s'.preparationEscalations = tab' := hframe .preparationEscalations (by decide)
    have hattempts : s'.attempts = s.attempts := hframe .attempts (by decide)
    have hfaults : s'.preparationFaults = s.preparationFaults := hframe .preparationFaults (by decide)
    refine ⟨?_, ?_⟩
    · intro e x hx
      rw [hesc, hrows] at hx
      split at hx
      · rename_i heq
        obtain rfl := Option.some.inj hx
        obtain ⟨r, hr, ht, -, -, hfault⟩ := validatedFault_eq_ok.mp hk
        refine ⟨a, r, k, ?_, ?_, ht, ?_⟩
        · rw [hchild, hchildren, if_pos heq]
        · rw [hattempts]
          exact hr
        · rw [hfaults]
          exact hfault
      · rename_i hne
        refine (hs.cause e x hx).ages hages rfl ?_
        rw [hchild, hchildren, if_neg hne]
        rfl
    · intro e a' ha'
      rw [hchild, hchildren] at ha'
      rw [hesc, hrows]
      split at ha'
      · rename_i heq
        exact ⟨_, if_pos heq⟩
      · rename_i hne
        rw [if_neg hne]
        exact hs.child e a' ha'
  | taskFailure class_ =>
    obtain ⟨_, s₂, h₂, h⟩ := h.bind
    obtain ⟨rfl, rfl⟩ := h.pure
    have hframe : ∀ n, n ≠ .notificationOutbox →
        s'.table n = Store.table n (escalationsT.set s tab) :=
      fun n hn => frame h₂ n (by simpa using hn)
    have hesc : s'.escalations = tab := hframe .escalations (by decide)
    have hchild : s'.preparationEscalations = s.preparationEscalations :=
      hframe .preparationEscalations (by decide)
    refine ⟨?_, ?_⟩
    · intro e x hx
      rw [hesc, hrows] at hx
      split at hx
      · rename_i heq
        obtain rfl := Option.some.inj hx
        show s'.preparationEscalations.lookup e = none
        rw [hchild, heq]
        exact horphan
      · exact (hs.cause e x hx).ages hages rfl (by rw [hchild])
    · intro e a ha
      rw [hchild] at ha
      obtain ⟨x, hx⟩ := hs.child e a ha
      obtain ⟨x', hx', -⟩ := hages.escalations e x hx
      exact ⟨x', hx'⟩

theorem settling_explains (k : Option (TaskId × AttemptId)) : Settling Explains k := by
  intro α x hx
  have hages := settling_ages k hx
  cases hx with
  | escalate => exact createEscalationWithCause_explains
  | decisions => exact updateEscalations_explains fun _ => rfl
  | _ => exact explains_of_ages hages rfl

/-- A decision opens no other one. -/
theorem resolveEscalation_explains (e : EscalationId) (o : String) (q : Bool) :
    Respects Explains (resolveEscalation e o q) := by
  intro env s u s' h
  have hages := resolveEscalation_ages e o q env s u s' h
  have hchild : s'.preparationEscalations = s.preparationEscalations :=
    frame h .preparationEscalations rfl
  unfold resolveEscalation at h
  obtain ⟨op, -, h⟩ := h.examine_bind
  obtain ⟨row, hrow, h⟩ := h.fetch_bind
  obtain ⟨task, -, h⟩ := h.fetch_bind
  obtain ⟨cause, -, h⟩ := h.examine_bind
  obtain ⟨plan, -, h⟩ := h.query_bind.examine_bind
  refine ⟨hages, fun hs => ⟨?_, ?_⟩⟩
  · intro e' x' hx'
    by_cases hne : e' = e
    · subst hne
      obtain ⟨x, hx, hfixed⟩ := hages.escalations e' row hrow
      cases hx.symm.trans hx'
      exact (hs.cause e' row hrow).ages hages hfixed (by rw [hchild])
    · rw [applyResolution_lookup h fun _ => hne] at hx'
      exact (hs.cause e' x' hx').ages hages rfl (by rw [hchild])
  · intro e' a ha
    rw [hchild] at ha
    obtain ⟨x, hx⟩ := hs.child e' a ha
    obtain ⟨x', hx', -⟩ := hages.escalations e' x hx
    exact ⟨x', hx'⟩

theorem exec_explains (op : Op) : Respects Explains op.exec := by
  cases op with
  | ackSuccess | nack | reportConfigurationUnavailable | nackPreservingPhysicalHistory
  | abortBeforePhysicalStart | cancelTask | cancelBatch | expireLeases =>
    exact Settling.exec settling_explains rfl
  | resolveEscalation e o q => exact resolveEscalation_explains e o q
  | _ => exact explains_of_ages (exec_ages _) (by simp [Op.footprint])

/-- **Every escalation of a reachable store accounts for its cause.** -/
theorem Store.after_explained (calls : List Call) : (Store.empty.after calls).Explained := by
  refine run_induction (P := Store.Explained) (fun _ _ _ _ hs h => (exec_explains _ _ _ _ _ h).2 hs)
    ⟨?_, ?_⟩
  · intro e x hx
    cases hx
  · intro e a ha
    cases ha

/-- A faulted attempt never got physical, so what an escalation accounts for can be read. -/
theorem escalationCause_readable (hs : s.Regular) (hx : s.Explained) {x : EscalationRow}
    (he : s.escalations.lookup e = some x) :
    ∃ cause, s.escalationCause e x.taskId x.tag = .ok cause := by
  have hacc := hx.cause e x he
  unfold Store.Accounts at hacc
  cases htag : x.tag with
  | taskFailure c =>
    rw [htag] at hacc
    exact ⟨.taskFailure c, by simp [Store.escalationCause, hacc]⟩
  | preparationControlPlane =>
    rw [htag] at hacc
    obtain ⟨a, r, k, hchild, hr, htask, hk⟩ := hacc
    refine ⟨.preparationFault a k, escalationCause_preparation.mpr ⟨rfl, hchild, ?_⟩⟩
    obtain ⟨r', hr', hunstarted⟩ := hs.tied.faulted a k hk
    cases hr.symm.trans hr'
    refine validatedFault_eq_ok.mpr ⟨r, hr, htask, hunstarted, ?_, hk⟩
    -- an execution of the attempt would have named an incarnation
    cases hexec : s.executionOfAttempt a with
    | none => rfl
    | some y =>
      obtain ⟨hy, hattempt⟩ := executionOfAttempt_eq_some.mp hexec
      obtain ⟨r', hr', -, -, hlink⟩ := hs.tied.execution _ _ hy
      rw [hattempt, hr] at hr'
      obtain rfl := Option.some.inj hr'
      rw [hunstarted] at hlink
      cases hlink

/-! ## Decisions -/

/-- The escalation is open and about the task. -/
def Store.OpenFor (s : Store) (t : TaskId) (e : EscalationId) : Prop :=
  ∃ x, s.escalations.lookup e = some x ∧ x.taskId = t ∧ x.state = .opened

/-- An open escalation is about a task that is suspended or cancelled. -/
theorem openFor_task (hs : s.board.Sound) (h : s.OpenFor t e) :
    ∃ v, s.tasks.lookup t = some v ∧ (v.state = .suspended ∨ v.state = .cancelled) := by
  obtain ⟨x, hx, rfl, hopen⟩ := h
  have hview : s.board.escalation e = some x.view := Table.view_of_lookup hx
  obtain ⟨v, hv, -, hstate⟩ := hs.coupled.open_task e x.view hview (decide_eq_true hopen)
  obtain ⟨task, htask, rfl⟩ := Table.view_eq_some.mp hv
  exact ⟨task, htask, hstate⟩

theorem openFor_unique {e' : EscalationId} (h : s.OpenFor t e) (h' : s.OpenFor t e') : e = e' := by
  obtain ⟨x, hx, htask, hopen⟩ := h
  obtain ⟨x', hx', htask', hopen'⟩ := h'
  by_contra hne
  -- the unique index on open escalations
  have hclash := Table.clash_of_lookup hx hx' hne
  simp [escalationSchema, htask, htask', hopen, hopen'] at hclash

theorem openFor_of_suspended (hs : s.board.Sound) (hv : s.tasks.lookup t = some v)
    (hsus : v.state = .suspended) : ∃ e, s.OpenFor t e := by
  have hview : s.board.task t = some v.view := Table.view_of_lookup hv
  obtain ⟨e, x, hx, hopen, htask⟩ := hs.coupled.suspended_open t v.view hview hsus
  obtain ⟨row, hrow, rfl⟩ := Table.view_eq_some.mp hx
  exact ⟨e, row, hrow, htask, of_decide_eq_true hopen⟩

/-- A decision writes the task of its escalation and no other. -/
theorem applyResolution_task {row : EscalationRow} {p : EscalatedPresence} {q : Bool}
    {plan : EscalationResolutionPlan} {u : Unit}
    (h : Runs env (applyResolution e row p q plan) s u s') (hne : t ≠ row.taskId) :
    s'.tasks.lookup t = s.tasks.lookup t := by
  have write : ∀ {f : TaskRow → TaskRow} {s s' : Store} {u : Unit},
      Runs env (updateTask row.taskId f) s u s' → s'.tasks.lookup t = s.tasks.lookup t := by
    intro f s s' u hr
    obtain ⟨t', ht', rfl⟩ := Tx.Runs.updateIn hr
    exact (Table.lookup_of_update_key ht' t).trans (if_neg hne)
  cases plan with
  | releaseCancelledWriter presence revive resolve =>
    dsimp only [applyResolution] at h
    have heq : s'.tasks = s.tasks := frame h .tasks rfl
    rw [heq]
  | retry next reactivate presence revive resolve | cancelTask next resolve only =>
    obtain ⟨_, s₁, h₁, h⟩ := Tx.Runs.bind h
    have heq : s'.tasks = s₁.tasks := frame h .tasks rfl
    rw [heq, write h₁]

/-- **Decisions spare working tasks.** Only a suspended or a cancelled task is written. -/
theorem resolveEscalation_spares (hs : s.board.Sound) {o : String} {q : Bool} {u : Unit}
    (h : Runs env (resolveEscalation e o q) s u s') (hv : s.tasks.lookup t = some v)
    (hsus : v.state ≠ .suspended) (hcan : v.state ≠ .cancelled) : s'.tasks.lookup t = some v := by
  unfold resolveEscalation at h
  obtain ⟨op, -, h⟩ := h.examine_bind
  obtain ⟨row, hrow, h⟩ := h.fetch_bind
  obtain ⟨task, -, h⟩ := h.fetch_bind
  obtain ⟨cause, -, h⟩ := h.examine_bind
  obtain ⟨plan, hplan, h⟩ := h.query_bind.examine_bind
  have hopen : row.state = .opened := of_decide_eq_true (planEscalationResolution_ok hplan).1
  have hne : t ≠ row.taskId := by
    rintro rfl
    obtain ⟨v', hv', hstate⟩ := openFor_task hs ⟨row, hrow, rfl, hopen⟩
    cases hv.symm.trans hv'
    exact hstate.elim hsus hcan
  rw [applyResolution_task h hne, hv]

/-- **The root can always cancel a suspended task.** The cause is readable, the batch of a suspended
    task is there, and a cancelled member keeps it from completing. -/
theorem cancelDecision_ensures (hs : s.Regular) (hl : Ledger s) (hx : s.Explained)
    (hopen : s.OpenFor t e) (hv : s.tasks.lookup t = some v) (hsus : v.state = .suspended)
    (q : Bool) {n : Nat} :
    Ensures env (resolveEscalation e "cancel_task" q) s n fun _ s' _ =>
      ∃ v', s'.tasks.lookup t = some v' ∧ v'.state = .cancelled := by
  obtain ⟨x, he, rfl, hstate⟩ := hopen
  obtain ⟨cause, hcause⟩ := escalationCause_readable hs hx he
  obtain ⟨batch, hbatch, -⟩ := openBatch_of_task hl hv (by rw [hsus]; rfl)
  have hfit : x.batchId = v.batchId := by
    have hview : s.board.escalation e = some x.view := Table.view_of_lookup he
    obtain ⟨u, hu, hb, -⟩ := hs.sound.coupled.open_task e x.view hview (decide_eq_true hstate)
    obtain ⟨task, htask, rfl⟩ := Table.view_eq_some.mp hu
    cases hv.symm.trans htask
    exact hb.symm
  have hparse : EscalationOperation.parse "cancel_task" = .ok .cancelTask := by
    simp [EscalationOperation.parse]
  unfold resolveEscalation requiredTask
  refine .bind (.examine hparse (.bind (.fetch he (.bind (.fetch hv ?_)))))
  refine .bind (.examine hcause (.bind (.query (.bind (.examine (a := .cancelTask .cancelled
    (!cause.isWriterUnknown) cause.isWriterUnknown) ?_ ?_)))))
  · simp [planEscalationResolution, hstate]
  unfold applyResolution
  -- the task is cancelled by the first statement, and the rest leaves it alone
  have hwrite : Ensures env (updateTask x.taskId fun t => { t with state := .cancelled }) s n
      fun _ _ _ => True := updateTask_ensures fun _ => rfl
  refine .bind (hwrite.with_runs.mono fun _ s₁ n₁ h₁ => ?_)
  have hcancelled : s₁.tasks.lookup x.taskId = some { v with state := .cancelled } := by
    obtain ⟨t', ht', rfl⟩ := Tx.Runs.updateIn h₁.2
    have hlookup := Table.lookup_of_update_key ht' x.taskId
    rw [if_pos rfl, show (tasksT.get s).lookup x.taskId = some v from hv] at hlookup
    exact hlookup
  have hbatch₁ : s₁.batches = s.batches := frame h₁.2 .batches rfl
  refine .bind (closeEscalation_ensures.with_runs.mono fun _ s₂ n₂ h₂ => ?_)
  have htasks₂ : s₂.tasks = s₁.tasks := frame h₂.2 .tasks rfl
  have hbatch₂ : s₂.batches = s₁.batches := frame h₂.2 .batches rfl
  have hmember : (x.taskId, { v with state := .cancelled }) ∈ s₂.members x.batchId := by
    refine List.mem_filter.mpr ⟨Table.mem_rows.mpr ?_, by simp [hfit]⟩
    rw [htasks₂, hcancelled]
  have hrow : s₂.batches.lookup x.batchId = some batch := by
    rw [hbatch₂, hbatch₁, hfit, hbatch]
  refine .whenever (fun _ => ?_) fun _ => ⟨_, by rw [htasks₂]; exact hcancelled, rfl⟩
  refine (recomputeBatch_ensures hrow hmember nofun).with_runs.mono fun _ s₃ n₃ h₃ => ?_
  have htasks₃ : s₃.tasks = s₂.tasks := frame h₃.2 .tasks rfl
  exact ⟨_, by rw [htasks₃, htasks₂]; exact hcancelled, rfl⟩

/-- The root has a way to decide the suspended task: an operation that commits in every environment
    and moves it out of its state. -/
def Store.Resolvable (s : Store) (t : TaskId) : Prop :=
  ∃ e o q, s.OpenFor t e ∧ (o = "retry" ∨ o = "cancel_task") ∧ ∀ env,
    Commits Op.exec s (env, .resolveEscalation e o q) ∧
    ∃ v, (s.call (env, .resolveEscalation e o q)).tasks.lookup t = some v ∧ v.state ≠ .suspended

theorem resolvable_of_suspended (hs : s.Regular) (hl : Ledger s) (hx : s.Explained)
    (hv : s.tasks.lookup t = some v) (hsus : v.state = .suspended) : s.Resolvable t := by
  obtain ⟨e, hopen⟩ := openFor_of_suspended hs.sound hv hsus
  refine ⟨e, "cancel_task", false, hopen, .inr rfl, fun env => ?_⟩
  have hens : Ensures env (Op.resolveEscalation e "cancel_task" false).exec s 0 fun _ s' _ =>
      ∃ v', s'.tasks.lookup t = some v' ∧ v'.state = .cancelled :=
    cancelDecision_ensures hs hl hx hopen hv hsus false
  refine ⟨Ensures.commits hens, ?_⟩
  obtain ⟨-, v', hv', hstate⟩ :=
    Ensures.step Op.exec (env, .resolveEscalation e "cancel_task" false) hens
  exact ⟨v', hv', by rw [hstate]; nofun⟩

/-- **Suspended tasks and open decisions.** In every reachable store a suspended task has exactly one
    open escalation and the root can decide it; no task has two, an open one is about a suspended or
    cancelled task, and no decision overwrites a task in another state. -/
theorem escalation_coupling (calls : List Call) :
    (∀ t v, (Store.empty.after calls).tasks.lookup t = some v → v.state = .suspended →
      (∃! e, (Store.empty.after calls).OpenFor t e) ∧ (Store.empty.after calls).Resolvable t) ∧
    (∀ t e e', (Store.empty.after calls).OpenFor t e → (Store.empty.after calls).OpenFor t e' →
      e = e') ∧
    (∀ t e, (Store.empty.after calls).OpenFor t e →
      ∃ v, (Store.empty.after calls).tasks.lookup t = some v ∧
        (v.state = .suspended ∨ v.state = .cancelled)) ∧
    (∀ env e o q t v, (Store.empty.after calls).tasks.lookup t = some v →
      v.state ∈ [.completed, .queued, .leased, .running, .retryWait] →
      ((Store.empty.after calls).call (env, .resolveEscalation e o q)).tasks.lookup t = some v) := by
  have hs := Store.after_regular calls
  refine ⟨?_, fun t e e' => openFor_unique, fun t e => openFor_task hs.sound, ?_⟩
  · intro t v hv hsus
    obtain ⟨e, he⟩ := openFor_of_suspended hs.sound hv hsus
    exact ⟨⟨e, he, fun e' he' => openFor_unique he' he⟩, resolvable_of_suspended hs
      (Store.after_ledger calls) (Store.after_explained calls) hv hsus⟩
  · intro env e o q t v hv hstate
    rcases step_cases Op.exec (Store.empty.after calls) (env, .resolveEscalation e o q) with
      ⟨-, hrun⟩ | ⟨-, hsame⟩
    · refine resolveEscalation_spares hs.sound hrun hv ?_ ?_
      · rintro heq
        simp [heq] at hstate
      · rintro heq
        simp [heq] at hstate
    · rw [Store.call, hsame]
      exact hv

open Deployment in
/-- The writer that failed without proof is suspended, and its one decision is open. -/
theorem escalation_coupling_unproven :
    ∃ v, (Store.empty.after unproven).tasks.lookup "edit" = some v ∧ v.state = .suspended ∧
      (∃! e, (Store.empty.after unproven).OpenFor "edit" e) ∧
      (Store.empty.after unproven).Resolvable "edit" := by
  obtain ⟨v, hv, hsus⟩ : ∃ v, (Store.empty.after unproven).tasks.lookup "edit" = some v ∧
      v.state = .suspended := by
    have hstate : ((Store.empty.after unproven).tasks.lookup "edit").map TaskRow.state =
      some .suspended := by decide +kernel
    simpa using hstate
  obtain ⟨hone, hresolvable⟩ := (escalation_coupling unproven).1 "edit" v hv hsus
  exact ⟨v, hv, hsus, hone, hresolvable⟩

end Agentype

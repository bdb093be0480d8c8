import Agentype.Lib.Dfs
import Agentype.Scheduler.Recorded

/-!
# `Agentype.Scheduler.Ordered` — dependencies between tasks

A task leaves `BLOCKED` exactly when its parents are completed, and since the dependencies of a
batch are acyclic a batch that is neither decided nor done always has work to hand out.

## Contents
- `Ordered b`: task states against the dependency relation.
- `KeepsOrder`: a change of the tasks that completes none; `Ordered.step`.
- `Ordered.progress`: no dependency deadlock.
-/

namespace Agentype

variable {t : TaskId} {ts' : TaskId → Option TaskView} {b' : Board}

/-- The states of a task that is claimed, or can be once the clock allows. -/
def TaskState.live : TaskState → Bool
  | queued | retryWait | leased | running => true
  | _ => false

namespace Board

/-- The states of the tasks respect their dependencies. -/
structure Ordered (b : Board) : Prop where
  dep_local : ∀ t p, b.depends t p → ∃ v w, b.task t = some v ∧ b.task p = some w ∧
    v.batch = w.batch
  released : ∀ t v p, b.task t = some v → v.state ≠ .blocked → v.state ≠ .cancelled →
    b.depends t p → b.Completed p
  blocked : ∀ t v, b.task t = some v → v.state = .blocked → ∃ p, b.depends t p ∧ ¬ b.Completed p
  acyclic : ∀ t, ¬ Relation.TransGen b.depends t t

/-- A change of the tasks that completes none, blocks none and releases none. -/
structure KeepsOrder (ts ts' : TaskId → Option TaskView) : Prop where
  keep : ∀ t v, ts t = some v → ∃ v', ts' t = some v' ∧ v'.batch = v.batch ∧
    (v'.state = .completed ↔ v.state = .completed) ∧
    (v'.state = .blocked → v.state = .blocked) ∧
    (v'.state ≠ .blocked → v'.state ≠ .cancelled → v.state ≠ .blocked ∧ v.state ≠ .cancelled)
  absent : ∀ t, ts t = none → ts' t = none

namespace KeepsOrder

variable {b : Board}

theorem update {v v' : TaskView} (hv : b.task t = some v) (hbatch : v'.batch = v.batch)
    (hs : v.state ≠ .completed) (hs' : v'.state ≠ .completed) (hb' : v'.state ≠ .blocked)
    (hrel : v'.state ≠ .cancelled → v.state ≠ .blocked ∧ v.state ≠ .cancelled) :
    KeepsOrder b.task (Function.update b.task t (some v')) := by
  refine ⟨fun t' w hw => ?_, fun t' hw => ?_⟩
  · rw [Function.update_apply]
    split
    · rename_i heq
      rw [heq, hv] at hw
      obtain rfl := Option.some.inj hw
      exact ⟨v', rfl, hbatch, iff_of_false hs' hs, fun h => absurd h hb', fun _ => hrel⟩
    · exact ⟨w, hw, rfl, Iff.rfl, fun h => h, fun h h' => ⟨h, h'⟩⟩
  · rw [Function.update_apply]
    split
    · rename_i heq
      rw [heq, hv] at hw
      cases hw
    · exact hw

theorem of_tasksMove {ts : TaskId → Option TaskView} (h : TasksMove ts ts') :
    KeepsOrder ts ts' := by
  refine ⟨fun t v hv => ?_, h.absent⟩
  obtain ⟨st, hst, hadv⟩ := h.move t v hv
  refine ⟨_, hst, rfl, ?_⟩
  show (st = .completed ↔ _) ∧ (st = .blocked → _) ∧ (st ≠ .blocked → st ≠ .cancelled → _)
  revert hadv
  cases v.state <;> cases st <;> decide

theorem of_cancellation {es' : EscalationId → Option EscalationView} (h : Cancellation b ts' es') :
    KeepsOrder b.task ts' := by
  refine ⟨fun t v hv => ?_, h.task_absent⟩
  rcases h.task t v hv with hsame | ⟨-, hterm, hq⟩
  · exact ⟨v, hsame, rfl, Iff.rfl, fun h => h, fun h h' => ⟨h, h'⟩⟩
  · refine ⟨_, hq, rfl, iff_of_false TaskState.noConfusion ?_, fun h => TaskState.noConfusion h,
      fun _ h => absurd rfl h⟩
    intro hs
    rw [hs] at hterm
    cases hterm

/-- Completion is neither gained nor lost. -/
theorem completed_iff (h : KeepsOrder b.task b'.task) (t : TaskId) :
    b'.Completed t ↔ b.Completed t := by
  constructor
  · rintro ⟨v', hv', hs⟩
    cases hv : b.task t with
    | none =>
      rw [h.absent t hv] at hv'
      cases hv'
    | some v =>
      obtain ⟨v'', hv'', -, hiff, -⟩ := h.keep t v hv
      cases hv'.symm.trans hv''
      exact ⟨v, hv, hiff.mp hs⟩
  · rintro ⟨v, hv, hs⟩
    obtain ⟨v', hv', -, hiff, -⟩ := h.keep t v hv
    exact ⟨v', hv', hiff.mpr hs⟩

end KeepsOrder

namespace Ordered

variable {b : Board}

theorem retask (hb : b.Ordered) (h : KeepsOrder b.task b'.task) (hd : b'.depends = b.depends) :
    b'.Ordered := by
  have back : ∀ t v', b'.task t = some v' → ∃ v, b.task t = some v ∧
      (v'.state = .blocked → v.state = .blocked) ∧
      (v'.state ≠ .blocked → v'.state ≠ .cancelled → v.state ≠ .blocked ∧ v.state ≠ .cancelled) := by
    intro t v' hv'
    cases hv : b.task t with
    | none =>
      rw [h.absent t hv] at hv'
      cases hv'
    | some v =>
      obtain ⟨v'', hv'', -, -, h₁, h₂⟩ := h.keep t v hv
      cases hv'.symm.trans hv''
      exact ⟨v, rfl, h₁, h₂⟩
  refine ⟨?_, ?_, ?_, ?_⟩ <;> rw [hd]
  · intro t p hdep
    obtain ⟨v, w, hv, hw, hbatch⟩ := hb.dep_local t p hdep
    obtain ⟨v', hv', hvb, -⟩ := h.keep t v hv
    obtain ⟨w', hw', hwb, -⟩ := h.keep p w hw
    exact ⟨v', w', hv', hw', by rw [hvb, hwb, hbatch]⟩
  · intro t v' p hv' hnb hnc hdep
    obtain ⟨v, hv, -, h₂⟩ := back t v' hv'
    obtain ⟨h₃, h₄⟩ := h₂ hnb hnc
    exact (h.completed_iff p).mpr (hb.released t v p hv h₃ h₄ hdep)
  · intro t v' hv' hs
    obtain ⟨v, hv, h₁, -⟩ := back t v' hv'
    obtain ⟨p, hdep, hno⟩ := hb.blocked t v hv (h₁ hs)
    exact ⟨p, hdep, fun hc => hno ((h.completed_iff p).mp hc)⟩
  · exact hb.acyclic

/-- A submission depends on its own tasks only, so old and new dependencies do not mix. -/
theorem submission_path (hb : b.Ordered) {N : TaskId → Option TaskView} {D : TaskId → TaskId → Prop}
    (h : Submission b N D) {p : TaskId}
    (hp : Relation.TransGen (fun t p => b.depends t p ∨ D t p) t p) :
    Relation.TransGen b.depends t p ∧ N p = none ∨
      Relation.TransGen D t p ∧ (N p).isSome = true := by
  have old : ∀ t p, b.depends t p → N t = none ∧ N p = none := by
    intro t p hdep
    obtain ⟨v, w, hv, hw, -⟩ := hb.dep_local t p hdep
    have absent : ∀ t v, b.task t = some v → N t = none := fun t v hv =>
      Option.eq_none_iff_forall_ne_some.mpr fun u hu => by
        rw [h.fresh t u hu] at hv
        cases hv
    exact ⟨absent t v hv, absent p w hw⟩
  have new : ∀ t p, D t p → (N t).isSome = true ∧ (N p).isSome = true := by
    intro t p hdep
    obtain ⟨v, w, hv, hw, -⟩ := h.local_ t p hdep
    rw [hv, hw]
    exact ⟨rfl, rfl⟩
  induction hp with
  | single hstep =>
    rcases hstep with hstep | hstep
    · exact .inl ⟨.single hstep, (old _ _ hstep).2⟩
    · exact .inr ⟨.single hstep, (new _ _ hstep).2⟩
  | tail _ hstep ih =>
    rcases ih with ⟨hpath, hmid⟩ | ⟨hpath, hmid⟩ <;> rcases hstep with hstep | hstep
    · exact .inl ⟨hpath.tail hstep, (old _ _ hstep).2⟩
    · have hsome := (new _ _ hstep).1
      rw [hmid] at hsome
      cases hsome
    · rw [(old _ _ hstep).1] at hmid
      cases hmid
    · exact .inr ⟨hpath.tail hstep, (new _ _ hstep).2⟩

theorem submit (hb : b.Ordered) {N : TaskId → Option TaskView} {D : TaskId → TaskId → Prop}
    (h : Submission b N D) : Ordered { b with
      task := fun t => (N t).or (b.task t), depends := fun t p => b.depends t p ∨ D t p } := by
  have kept : ∀ {t v}, b.task t = some v → (N t).or (b.task t) = some v := by
    intro t v hv
    cases hN : N t with
    | none => rw [Option.none_or, hv]
    | some u =>
      rw [h.fresh t u hN] at hv
      cases hv
  have new : ∀ {t v}, N t = some v → (N t).or (b.task t) = some v := by
    intro t v hN
    rw [hN, Option.some_or]
  have from_ : ∀ {t v}, (N t).or (b.task t) = some v → N t = some v ∨ b.task t = some v ∧ N t = none := by
    intro t v hv
    cases hN : N t with
    | none =>
      rw [hN, Option.none_or] at hv
      exact .inr ⟨hv, rfl⟩
    | some u =>
      rw [hN, Option.some_or] at hv
      exact .inl hv
  refine ⟨?_, ?_, ?_, ?_⟩
  · rintro t p (hdep | hdep)
    · obtain ⟨v, w, hv, hw, hbatch⟩ := hb.dep_local t p hdep
      exact ⟨v, w, kept hv, kept hw, hbatch⟩
    · obtain ⟨v, w, hv, hw, hbatch⟩ := h.local_ t p hdep
      exact ⟨v, w, new hv, new hw, hbatch⟩
  · rintro t v p hv hnb hnc (hdep | hdep)
    · rcases from_ hv with hN | ⟨hv, -⟩
      · obtain ⟨w, -, hw, -⟩ := hb.dep_local t p hdep
        rw [h.fresh t v hN] at hw
        cases hw
      · obtain ⟨w, hw, hs⟩ := hb.released t v p hv hnb hnc hdep
        exact ⟨w, kept hw, hs⟩
    · obtain ⟨u, -, hu, -⟩ := h.local_ t p hdep
      cases hv.symm.trans (new hu)
      rcases h.state t v hu with ⟨-, hno⟩ | ⟨hblocked, -⟩
      · exact absurd hdep (hno p)
      · exact absurd hblocked hnb
  · intro t v hv hs
    rcases from_ hv with hN | ⟨hv, -⟩
    · rcases h.state t v hN with ⟨hq, -⟩ | ⟨-, p, hdep⟩
      · rw [hq] at hs
        cases hs
      · refine ⟨p, .inr hdep, ?_⟩
        rintro ⟨w, hw, hcomp⟩
        obtain ⟨-, u, -, hu, -⟩ := h.local_ t p hdep
        cases hw.symm.trans (new hu)
        rcases h.state p w hu with ⟨hq, -⟩ | ⟨hq, -⟩ <;> rw [hq] at hcomp <;> cases hcomp
    · obtain ⟨p, hdep, hno⟩ := hb.blocked t v hv hs
      refine ⟨p, .inl hdep, ?_⟩
      rintro ⟨w, hw, hcomp⟩
      obtain ⟨-, u, -, hu, -⟩ := hb.dep_local t p hdep
      cases hw.symm.trans (kept hu)
      exact hno ⟨w, hu, hcomp⟩
  · intro t hpath
    rcases hb.submission_path h hpath with ⟨hpath, -⟩ | ⟨hpath, -⟩
    · exact hb.acyclic t hpath
    · exact h.acyclic t hpath

end Ordered

/-- The order right after a task of `batch` completed: some task of that batch may have lost its
    last reason to be blocked. -/
structure OrderedBut (b : Board) (batch : BatchId) : Prop where
  dep_local : ∀ t p, b.depends t p → ∃ v w, b.task t = some v ∧ b.task p = some w ∧
    v.batch = w.batch
  released : ∀ t v p, b.task t = some v → v.state ≠ .blocked → v.state ≠ .cancelled →
    b.depends t p → b.Completed p
  blocked : ∀ t v, b.task t = some v → v.batch ≠ batch → v.state = .blocked →
    ∃ p, b.depends t p ∧ ¬ b.Completed p
  acyclic : ∀ t, ¬ Relation.TransGen b.depends t t

variable {b : Board}

/-- Waking the batch restores the order. -/
theorem OrderedBut.wake {batch : BatchId} (hb : b.OrderedBut batch) (hw : Wakes b batch ts') :
    Ordered { b with task := ts' } := by
  have completed : ∀ {p}, b.Completed p → ∃ w, ts' p = some w ∧ w.state = .completed := by
    rintro p ⟨w, hw', hs⟩
    rcases hw.move p w hw' with hsame | ⟨hblocked, -⟩
    · exact ⟨w, hsame, hs⟩
    · rw [hs] at hblocked
      cases hblocked
  have keep : ∀ {t v}, b.task t = some v → ∃ v', ts' t = some v' ∧ v'.batch = v.batch := by
    intro t v hv
    rcases hw.move t v hv with hsame | ⟨-, -, hq⟩
    · exact ⟨v, hsame, rfl⟩
    · exact ⟨_, hq, rfl⟩
  -- a task after the wake-up is unchanged, or was blocked and is queued
  have back : ∀ {t v'}, ts' t = some v' → b.task t = some v' ∨
      v'.state = .queued ∧ ∀ p, b.depends t p → b.Completed p := by
    intro t v' hv'
    cases hv : b.task t with
    | none =>
      rw [hw.absent t hv] at hv'
      cases hv'
    | some v =>
      rcases hw.move t v hv with hsame | ⟨-, hall, hq⟩
      · exact .inl (hsame.symm.trans hv')
      · cases hv'.symm.trans hq
        exact .inr ⟨rfl, hall⟩
  refine ⟨?_, ?_, ?_, hb.acyclic⟩
  · intro t p hdep
    obtain ⟨v, w, hv, hw', hbatch⟩ := hb.dep_local t p hdep
    obtain ⟨v', hv', hvb⟩ := keep hv
    obtain ⟨w', hw'', hwb⟩ := keep hw'
    exact ⟨v', w', hv', hw'', by rw [hvb, hwb, hbatch]⟩
  · intro t v' p hv' hnb hnc hdep
    rcases back hv' with hv | ⟨-, hall⟩
    · exact completed (hb.released t v' p hv hnb hnc hdep)
    · exact completed (hall p hdep)
  · intro t v' hv' hs
    rcases back hv' with hv | ⟨hq, -⟩
    swap
    · rw [hq] at hs
      cases hs
    have uncompleted : ∃ p, b.depends t p ∧ ¬ b.Completed p := by
      by_cases hbatch : v'.batch = batch
      · by_contra hnone
        push Not at hnone
        have hwoken := hw.none_lost t v' hv hbatch hs hnone
        obtain heq := Option.some.inj (hv'.symm.trans hwoken)
        rw [heq] at hs
        cases hs
      · exact hb.blocked t v' hv hbatch hs
    obtain ⟨p, hdep, hno⟩ := uncompleted
    refine ⟨p, hdep, ?_⟩
    rintro ⟨w', hw', hcomp⟩
    rcases back hw' with hwp | ⟨hq, -⟩
    · exact hno ⟨w', hwp, hcomp⟩
    · rw [hq] at hcomp
      cases hcomp

/-- Completing a task keeps the order, but for the tasks of its own batch. The parents of a task
    are in its own batch, so no task of another batch could be released. -/
theorem Ordered.close_completed (hb : b.Ordered) (hc : b.Coherent) (h : Holding b)
    (ag : LogicalAgentState) : OrderedBut (b.close h .completed ag) h.taskView.batch := by
  have hassigned := hc.holding_assigned h
  have keep : ∀ {t v}, b.task t = some v → ∃ v', (b.close h .completed ag).task t = some v' ∧
      v'.batch = v.batch ∧ (v.state = .completed → v'.state = .completed) := by
    intro t v hv
    rw [close_task]
    split
    · rename_i heq
      rw [heq, h.task_eq] at hv
      obtain rfl := Option.some.inj hv
      exact ⟨_, rfl, rfl, fun _ => rfl⟩
    · exact ⟨v, hv, rfl, fun hs => hs⟩
  have completed : ∀ {p}, b.Completed p → (b.close h .completed ag).Completed p := by
    rintro p ⟨w, hw, hs⟩
    obtain ⟨w', hw', -, hcomp⟩ := keep hw
    exact ⟨w', hw', hcomp hs⟩
  refine ⟨?_, ?_, ?_, hb.acyclic⟩
  · intro t p hdep
    obtain ⟨v, w, hv, hw, hbatch⟩ := hb.dep_local t p hdep
    obtain ⟨v', hv', hvb, -⟩ := keep hv
    obtain ⟨w', hw', hwb, -⟩ := keep hw
    exact ⟨v', w', hv', hw', by rw [hvb, hwb, hbatch]⟩
  · intro t v p hv hnb hnc hdep
    rw [close_task] at hv
    split at hv
    · rename_i heq
      subst heq
      refine completed (hb.released h.task h.taskView p h.task_eq ?_ ?_ hdep) <;> intro hs <;>
        rw [hs] at hassigned <;> cases hassigned
    · exact completed (hb.released t v p hv hnb hnc hdep)
  · intro t v hv hbatch hs
    rw [close_task] at hv
    split at hv
    · obtain rfl := Option.some.inj hv
      cases hs
    · obtain ⟨p, hdep, hno⟩ := hb.blocked t v hv hs
      refine ⟨p, hdep, ?_⟩
      rintro ⟨w, hw, hcomp⟩
      rw [close_task] at hw
      split at hw
      · rename_i heq
        obtain ⟨v', w', hv', hw', hsame⟩ := hb.dep_local t p hdep
        rw [heq, h.task_eq] at hw'
        rw [hv] at hv'
        obtain rfl := Option.some.inj hv'
        obtain rfl := Option.some.inj hw'
        exact hbatch hsame
      · exact hno ⟨w, hw, hcomp⟩

/-- **The order is inductive.** -/
theorem Ordered.step (hb : b.Ordered) (hc : b.Coherent) (h : Step b b') : b'.Ordered := by
  have closed : ∀ (h : Holding b) (st : TaskState) (ag : LogicalAgentState), st ≠ .completed →
      st ≠ .blocked → KeepsOrder b.task (b.close h st ag).task := by
    intro h st ag hst hst'
    have hassigned := hc.holding_assigned h
    refine KeepsOrder.update h.task_eq rfl ?_ hst hst' fun _ => ⟨?_, ?_⟩ <;> intro hs <;>
      rw [hs] at hassigned <;> cases hassigned
  cases h with
  | agents _ => exact ⟨hb.dep_local, hb.released, hb.blocked, hb.acyclic⟩
  | tasks h => exact hb.retask (.of_tasksMove h) rfl
  | submit h => exact hb.submit h
  | claim hv hq _ _ _ _ _ =>
    refine hb.retask (.update hv rfl ?_ ?_ ?_ ?_) rfl <;> simp [hq]
  | @requeue h st ag hst _ =>
    refine hb.retask (closed h st ag ?_ ?_) rfl <;> rcases hst with rfl | rfl <;>
      exact TaskState.noConfusion
  | @complete h ag r ts' _ _ hw =>
    have hbut := hb.close_completed hc h ag
    have hstored : OrderedBut ((b.close h .completed ag).store r ⟨h.task, h.attempt⟩)
        h.taskView.batch := ⟨hbut.dep_local, hbut.released, hbut.blocked, hbut.acyclic⟩
    exact hstored.wake hw
  | @suspend h ag e tag _ _ _ =>
    exact hb.retask (closed h .suspended ag TaskState.noConfusion TaskState.noConfusion) rfl
  | cancel h _ => exact hb.retask (closed h _ _ TaskState.noConfusion TaskState.noConfusion) rfl
  | cancelObliged h _ =>
    exact hb.retask (closed h .cancelled .suspended TaskState.noConfusion TaskState.noConfusion) rfl
  | cancelIdle h => exact hb.retask (.of_cancellation h) rfl
  | @resolve e x v st ag' _ _ hv hst _ =>
    rcases hst with ⟨hs, rfl⟩ | ⟨hs, rfl⟩ | ⟨hs, rfl⟩ <;>
      refine hb.retask (.update hv rfl ?_ ?_ ?_ ?_) rfl <;> simp [hs]

/-! ## No dependency deadlock -/

/-- **Progress.** A batch none of whose tasks is suspended or cancelled is completed, or one of its
    tasks is claimed or can be claimed. -/
theorem Ordered.progress (hb : b.Ordered) (hfin : {t | (b.task t).isSome}.Finite) {batch : BatchId}
    (hbatch : ∀ t v, b.task t = some v → v.batch = batch →
      v.state ≠ .suspended ∧ v.state ≠ .cancelled) {v : TaskView} (hv : b.task t = some v)
    (hvb : v.batch = batch) (hnot : v.state ≠ .completed) :
    ∃ t' v', b.task t' = some v' ∧ v'.batch = batch ∧ v'.state.live = true := by
  by_contra hnone
  push Not at hnone
  -- every task of the batch that is not completed is blocked, and has a parent of the same kind
  have stuck : ∀ {t v}, b.task t = some v → v.batch = batch → v.state ≠ .completed →
      v.state = .blocked := by
    intro t v hv hvb hnot
    have h₁ := hbatch t v hv hvb
    have h₂ := hnone t v hv hvb
    revert h₁ h₂ hnot
    cases v.state <;> decide
  obtain ⟨p, ⟨w, hw, hwb, hwc⟩, hlast⟩ := Dfs.exists_no_successor hb.acyclic
    (s := {t | ∃ v, b.task t = some v ∧ v.batch = batch ∧ v.state ≠ .completed})
    (hfin.subset fun t ⟨v, hv, _⟩ => by simp [hv]) ⟨t, v, hv, hvb, hnot⟩
  obtain ⟨q, hdep, hq⟩ := hb.blocked p w hw (stuck hw hwb hwc)
  obtain ⟨w', x, hw', hx, hsame⟩ := hb.dep_local p q hdep
  cases hw.symm.trans hw'
  exact hlast q ⟨x, hx, hsame ▸ hwb, fun hs => hq ⟨x, hx, hs⟩⟩ hdep

end Board

end Agentype

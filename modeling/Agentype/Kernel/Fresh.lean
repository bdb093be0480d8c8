import Agentype.Kernel.Reads

/-!
# `Agentype.Kernel.Fresh` — identifiers that are not taken

The kernel names new rows with random identifiers. That such an identifier is not taken is a property
of the generator, not of the kernel, and an operation that meets a taken one fails on a primary key.
`Store.Fresh env n s` says that the identifiers a transaction still has to mint, from the `n`-th on,
name no row of the store.

## Contents
- `Store.Fresh`.
- `insertTask_ensures`, `admitTask_ensures`: with a fresh name, the task of a proposal is created.
-/

namespace Agentype

open Relational Relational.Tx

variable {spec : TaskSpec} {n : Nat}

/-- The identifiers from the `n`-th on are distinct and name no row. -/
structure Store.Fresh (env : Env) (n : Nat) (s : Store) : Prop where
  distinct : Function.Injective env.uuid
  agents : ∀ m, n ≤ m → s.logicalAgents.lookup ("agent" ++ "_" ++ env.uuid m) = none
  attempts : ∀ m, n ≤ m → s.attempts.lookup ("attempt" ++ "_" ++ env.uuid m) = none
  batches : ∀ m, n ≤ m → s.batches.lookup ("batch" ++ "_" ++ env.uuid m) = none
  checkpoints : ∀ m, n ≤ m → s.checkpoints.lookup ("checkpoint" ++ "_" ++ env.uuid m) = none
  escalations : ∀ m, n ≤ m → s.escalations.lookup ("escalation" ++ "_" ++ env.uuid m) = none
  events : ∀ m, n ≤ m → s.notificationOutbox.lookup ("event" ++ "_" ++ env.uuid m) = none
  executions : ∀ m, n ≤ m → s.executions.lookup ("exec" ++ "_" ++ env.uuid m) = none
  failures : ∀ m, n ≤ m → s.failures.lookup ("failure" ++ "_" ++ env.uuid m) = none
  incarnations : ∀ m, n ≤ m → s.incarnations.lookup ("inc" ++ "_" ++ env.uuid m) = none
  leases : ∀ m, n ≤ m → s.leases.lookup ("lease" ++ "_" ++ env.uuid m) = none
  results : ∀ m, n ≤ m → s.results.lookup ("result" ++ "_" ++ env.uuid m) = none
  tasks : ∀ m, n ≤ m → s.tasks.lookup ("task" ++ "_" ++ env.uuid m) = none
  workstreams : ∀ m, n ≤ m → s.workstreams.lookup ("workstream" ++ "_" ++ env.uuid m) = none

variable {env : Env} {s : Store}

/-- A retry policy that the task table accepts. -/
def RetryPolicy.Storable (policy : RetryPolicy) : Prop :=
  1 ≤ policy.maxAttempts ∧ 0 ≤ policy.baseBackoffSeconds ∧
    policy.baseBackoffSeconds ≤ policy.maxBackoffSeconds

/-- The row of a task can be inserted. -/
theorem insertTask_ensures {id : TaskId} {batch : BatchId} {state : TaskState}
    {mode : AgentRequirementMode} (hnone : s.tasks.lookup id = none)
    (hrefs : s.taskReferencesExist id spec = true) (hpolicy : spec.retryPolicy.Storable) :
    Ensures env (insertTask id spec batch state mode) s n fun _ _ _ => True := by
  have hcheck : taskSchema.check id (spec.row batch state mode env.now) = true := by
    simp [taskSchema, Schema.checked, TaskSpec.row, hpolicy.1, hpolicy.2.1, hpolicy.2.2]
  obtain ⟨t, ht⟩ := Table.exists_insert hnone hcheck fun _ _ _ => rfl
  unfold insertTask
  exact .bind (.ask (.bind (.query (.bind (.require hrefs (.insertInto ht trivial))))))

/-- What the creation of a task needs of the store: its partition is active, the rows it refers to
    exist, and the identity it asks for is free. -/
structure Store.Supports (s : Store) (spec : TaskSpec) : Prop where
  partition : (s.partitionRow spec.partition true).isSome = true
  unused : ∀ id ∈ spec.taskId, s.tasks.lookup id = none
  workstream : ∀ w ∈ spec.workstreamId, (s.workstreams.lookup w).isSome = true
  superseded : ∀ t ∈ spec.supersedesTaskId, (s.tasks.lookup t).isSome = true

/-- What the creation of a task for a proposal needs. -/
structure Creatable (s : Store) (spec : TaskSpec) : Prop extends s.Supports spec where
  independent : spec.dependencies = []
  policy : spec.retryPolicy.Storable

theorem Creatable.references (h : Creatable s spec) (id : TaskId) :
    s.taskReferencesExist id spec = true := by
  unfold Store.taskReferencesExist
  rw [Bool.and_eq_true, Option.all_eq_true, Option.all_eq_true]
  exact ⟨fun w hw => h.workstream w hw, fun t ht => by rw [h.superseded t ht, Bool.or_true]⟩

theorem assignId_ensures (hfresh : s.Fresh env n)
    (hunused : ∀ id ∈ spec.taskId, s.tasks.lookup id = none) :
    Ensures env spec.assignId s n fun named s' n' =>
      s' = s ∧ n ≤ n' ∧ s.tasks.lookup named.2 = none := by
  unfold TaskSpec.assignId
  cases hid : spec.taskId with
  | some id => exact .pure ⟨rfl, le_refl n, hunused id hid⟩
  | none => exact .bind (newId_ensures (.pure ⟨rfl, Nat.le_succ n, hfresh.tasks n (le_refl n)⟩))

/-- **The task of a legacy admission is created.** -/
theorem admitTask_ensures (hfresh : s.Fresh env n) (h : Creatable s spec) :
    Ensures env (admitTask spec none) s n fun t _ _ => s.tasks.lookup t = none := by
  obtain ⟨row, hrow⟩ := Option.isSome_iff_exists.mp h.partition
  unfold admitTask
  refine .bind (.require (by simp [h.independent]) (.bind (.fetch hrow (.bind ?_))))
  refine (assignId_ensures hfresh h.unused).mono ?_
  rintro named s₁ n' ⟨hsame, hle, hnone⟩
  rw [hsame]
  refine .bind (newId_ensures ?_)
  obtain ⟨batches, hbatches⟩ := Table.exists_insert (hfresh.batches n' hle)
    (show _ = true from rfl) fun _ _ _ => rfl
  refine .bind (.insertInto hbatches ?_)
  -- the new batch is in another table
  have hinsert : Ensures env (insertTask named.2 spec ("batch" ++ "_" ++ env.uuid n') .queued .legacy)
      (Store.batchesT.set s batches) (n' + 1) fun _ _ _ => True :=
    insertTask_ensures hnone (h.references named.2) h.policy
  refine .bind (hinsert.mono fun _ _ _ _ => ?_)
  exact .bind (.pure (.pure hnone))

theorem Deployment.uuid_injective (now : ℚ) (tag : String) :
    Function.Injective (moment now tag).uuid := by
  intro m n h
  have hlength := congrArg String.length h
  simpa [moment] using hlength

end Agentype

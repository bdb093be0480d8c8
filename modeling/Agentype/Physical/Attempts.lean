import Agentype.Physical.Writes

/-!
# `Agentype.Physical.Attempts` — the life of an attempt row

An attempt row is born active and unlinked by a claim, is linked to an incarnation once, by the
commitment of its execution, and is closed once. Nothing else happens to it. From this follows the
numbering of the attempts of a task: numbers never exceed their count, and the active attempt of a
task is its latest one.

## Contents
- `AttemptsAfter`, `exec_attempts`: what one committed operation does to the attempt rows.
- `Store.Numbered`, `Store.after_numbered`: the numbering, in every reachable store.
- `latestAttempt_eq_some`: the latest attempt of a task is the one with the greatest number.
-/

namespace Agentype

open Relational Tx Store

variable {env : Env} {s s' : Store}
variable {r r' : AttemptRow} {a : AttemptId} {t : TaskId}

/-! ## Closing -/

/-- The row is kept, or closed. -/
def AttemptRow.Closes (r r' : AttemptRow) : Prop :=
  ∃ st, (st = r.state ∨ st ≠ .active) ∧ r' = { r with state := st }

theorem AttemptRow.Closes.refl (r : AttemptRow) : r.Closes r := ⟨r.state, .inl rfl, rfl⟩

theorem AttemptRow.Closes.trans {r'' : AttemptRow} (h : r.Closes r') (h' : r'.Closes r'') :
    r.Closes r'' := by
  obtain ⟨st, hst, rfl⟩ := h
  obtain ⟨st', hst', rfl⟩ := h'
  refine ⟨st', ?_, rfl⟩
  rcases hst' with rfl | hst'
  · exact hst
  · exact .inr hst'

/-- An attempt that is active afterwards is as it was. -/
theorem AttemptRow.Closes.of_active (h : r.Closes r') (hactive : r'.state = .active) : r' = r := by
  obtain ⟨st, hst, rfl⟩ := h
  rcases hst with rfl | hst
  · rfl
  · exact absurd hactive hst

/-- Attempt rows are kept or closed, and none is added. -/
structure Closes (_ : Env) (s s' : Store) : Prop where
  evolves : Table.Evolves (fun _ => AttemptRow.Closes) s.attempts s'.attempts
  absent : ∀ a, s.attempts.lookup a = none → s'.attempts.lookup a = none
  count : ∀ t, s'.attemptCount t = s.attemptCount t

instance (env : Env) : IsPreorder Store (Closes env) where
  refl _ := ⟨.of_refl (fun _ => AttemptRow.Closes.refl) _, fun _ h => h, fun _ => rfl⟩
  trans _ _ _ h h' :=
    ⟨h.evolves.comp (fun _ _ _ _ => AttemptRow.Closes.trans) h'.evolves,
      fun a ha => h'.absent a (h.absent a ha), fun t => (h'.count t).trans (h.count t)⟩

instance : Sees [.attempts] Closes := by
  constructor
  intro env s s' h
  have heq : s'.attempts = s.attempts := h .attempts (by decide)
  refine ⟨?_, ?_, ?_⟩
  · rw [heq]
    exact .of_refl (fun _ => AttemptRow.Closes.refl) _
  · intro a ha
    rw [heq, ha]
  · intro t
    rw [Store.attemptCount, Store.attemptCount, heq]

theorem closeAttempt_closes {st : AttemptState} {only : Bool} (hst : st ≠ .active) :
    Respects Closes (closeAttempt a st only) := by
  intro env s u s' h
  obtain ⟨t', ht', rfl⟩ := Tx.Runs.updateIn h
  refine ⟨.of_update ht' (fun _ => AttemptRow.Closes.refl) ?_, ?_, ?_⟩
  · intro k r _ _
    exact ⟨st, .inr hst, rfl⟩
  · intro k hk
    have hlook := Table.lookup_isSome_of_update ht' k
    have hnone : (s.attempts.lookup k).isSome = false := by rw [hk]; rfl
    exact Option.isSome_eq_false_iff.mp (hlook.trans hnone) |> Option.isNone_iff_eq_none.mp
  · intro t
    exact Table.count_of_update ht' fun _ _ _ _ => rfl

/-- A settlement closes attempts and does nothing else to them. -/
theorem settling_closes (k : Option (TaskId × AttemptId)) : Settling Closes k := by
  intro α x hx
  cases hx with
  | attempt hst => exact closeAttempt_closes hst
  | authority => exact .bind (closeAttempt_closes (by decide)) fun _ => .aside rfl
  | _ => exact .aside rfl

/-! ## Granting -/

/-- The row a claim adds: active, on no incarnation, numbered after all earlier attempts. -/
structure Granted (s s' : Store) (a : AttemptId) (r : AttemptRow) : Prop where
  fresh : s.attempts.lookup a = none
  active : r.state = .active
  unlinked : r.incarnationId = none
  number : r.attemptNumber = s.attemptCount r.taskId + 1
  lookup : ∀ a', s'.attempts.lookup a' = if a' = a then some r else s.attempts.lookup a'
  count : ∀ t, s'.attemptCount t = s.attemptCount t + if r.taskId = t then 1 else 0

theorem Granted.of_eq {s₁ : Store} (h : Granted s₁ s' a r) (heq : s₁.attempts = s.attempts) :
    Granted s s' a r := by
  have hcount : ∀ t, s₁.attemptCount t = s.attemptCount t := by
    intro t
    rw [Store.attemptCount, Store.attemptCount, heq]
  refine ⟨heq ▸ h.fresh, h.active, h.unlinked, ?_, heq ▸ h.lookup, ?_⟩
  · rw [h.number, hcount]
  · intro t
    rw [h.count, hcount]

theorem claimSelected_granted {g : LogicalAgentId} {p : PartitionId} {prow : PartitionRow}
    {task : TaskRow} {c : Claim} (h : Runs env (claimSelected g p prow t task) s c s') :
    ∃ r, Granted s s' c.attemptId r ∧ r.taskId = t ∧ r.logicalAgentId = g := by
  have hattempts := (claimSelected_runs h).attempts
  obtain ⟨hnone, hlook⟩ := Table.lookup_of_insert hattempts
  refine ⟨_, ⟨hnone, rfl, rfl, rfl, hlook, fun t' => ?_⟩, rfl, rfl⟩
  rw [Store.attemptCount, Table.count_of_insert hattempts]
  simp only [decide_eq_true_eq]
  rfl

theorem claimNextAvailable_granted {c : Option Claim}
    (h : Runs env claimNextAvailable s c s') :
    (c = none ∧ s' = s) ∨ ∃ claim r, c = some claim ∧ Granted s s' claim.attemptId r := by
  rcases claimNextAvailable_runs h with ⟨hc, hs, -⟩ | ⟨t, task, g, prow, claim, hc, -, h⟩
  · exact .inl ⟨hc, hs⟩
  · obtain ⟨r, hr, -, -⟩ := claimSelected_granted h
    exact .inr ⟨claim, r, hc, hr⟩

theorem finishAcquisition_granted {g : LogicalAgentId} {sel : ProvisioningSelection}
    {contract : Except Error Unit} {q : TypedAcquisition}
    (h : Runs env (finishAcquisition t g sel contract) s q s') :
    ∃ r, Granted s s' q.claim.attemptId r := by
  obtain ⟨_, _, _, _, _, _, s₁, s₂, -, -, -, -, -, h₁, h₂, h₃⟩ := finishAcquisition_runs h
  obtain ⟨r, hr, -, -⟩ := claimSelected_granted h₃
  have e₁ : s₁.attempts = s.attempts := frame h₁ .attempts rfl
  have e₂ : s₂.attempts = s₁.attempts := frame h₂ .attempts rfl
  exact ⟨r, hr.of_eq (e₂.trans e₁)⟩

theorem acquireTypedTaskNewAgent_granted {sel : ProvisioningSelection}
    {typeVerdict contract : Except Error Unit} {q : TypedAcquisition}
    (h : Runs env (acquireTypedTaskNewAgent t sel typeVerdict contract) s q s') :
    ∃ r, Granted s s' q.claim.attemptId r := by
  obtain ⟨_, _, _, _, g, s₁, s₂, h₁, h₂, h⟩ := acquireTypedTaskNewAgent_runs h
  obtain ⟨r, hr⟩ := finishAcquisition_granted h
  have e₁ : s₁.attempts = s.attempts := frame h₁ .attempts rfl
  have e₂ : s₂.attempts = s₁.attempts := frame h₂ .attempts rfl
  exact ⟨r, hr.of_eq (e₂.trans e₁)⟩

/-! ## One operation -/

/-- The attempt rows after one operation: some may be closed, or one is granted by a claim, or one
    is linked by the commitment of its execution. -/
inductive AttemptsAfter (env : Env) (s s' : Store) (op : Op) : Prop
  | closed (h : Closes env s s')
  | granted {a : AttemptId} {r : AttemptRow} (h : Granted s s' a r)
  | linked {claim : Claim} {x : ExecutionId} {r : ClaimRecords} {i : IncarnationId}
      {row : ExecutionRow} (hop : op.createsFor = some claim)
      (h : Launch env s s' claim x r i row)

/-- **The attempts after one operation.** -/
theorem exec_attempts {op : Op} {u : Unit} (h : Runs env op.exec s u s') :
    AttemptsAfter env s s' op := by
  have hquiet : TableName.attempts ∉ op.footprint → AttemptsAfter env s s' op := fun hW =>
    .closed (h.respects (.aside (by simpa using hW)))
  cases op with
  | ackSuccess | nack | reportConfigurationUnavailable | nackPreservingPhysicalHistory
  | abortBeforePhysicalStart | cancelTask | cancelBatch | expireLeases =>
    exact .closed (h.respects (Settling.exec settling_closes rfl))
  | claimNextAvailable =>
    obtain ⟨c, h⟩ := runs_of_effect h
    rcases claimNextAvailable_granted h with ⟨-, rfl⟩ | ⟨claim, r, -, hr⟩
    · exact .closed (refl_of (Closes env) s')
    · exact .granted hr
  | acquireTypedTaskExisting =>
    obtain ⟨q, h⟩ := runs_of_effect h
    obtain ⟨r, hr⟩ := finishAcquisition_granted h
    exact .granted hr
  | acquireTypedTaskNewAgent =>
    obtain ⟨q, h⟩ := runs_of_effect h
    obtain ⟨r, hr⟩ := acquireTypedTaskNewAgent_granted h
    exact .granted hr
  | createExecution =>
    obtain ⟨q, h⟩ := runs_of_effect h
    obtain ⟨x, r, i, row, hl, -⟩ := createExecution_launch h
    exact .linked rfl hl
  | createExecutionWithSnapshot =>
    obtain ⟨q, h⟩ := runs_of_effect h
    obtain ⟨r, i, row, hl, -⟩ := createExecutionWithSnapshot_launch h
    exact .linked rfl hl
  | _ => exact hquiet (by simp [Op.footprint])

/-! ## Numbering -/

/-- The numbers of a task's attempts never exceed their count, and its active attempt has the
    greatest one. -/
structure Store.Numbered (s : Store) : Prop where
  counted : ∀ a r, s.attempts.lookup a = some r → r.attemptNumber ≤ s.attemptCount r.taskId
  latest : ∀ a r a' r', s.attempts.lookup a = some r → r.state = .active →
    s.attempts.lookup a' = some r' → r'.taskId = r.taskId → r'.attemptNumber ≤ r.attemptNumber

theorem Closes.lookup_of_after (h : Closes env s s') (hr : s'.attempts.lookup a = some r') :
    ∃ r, s.attempts.lookup a = some r ∧ r.Closes r' := by
  cases hs : s.attempts.lookup a with
  | none => rw [h.absent a hs] at hr; cases hr
  | some r =>
    obtain ⟨r'', hr'', hclose⟩ := h.evolves a r hs
    cases hr''.symm.trans hr
    exact ⟨r, rfl, hclose⟩

/-- The columns a closed row shares with the row before. -/
theorem AttemptRow.Closes.fields (h : r.Closes r') :
    r'.taskId = r.taskId ∧ r'.attemptNumber = r.attemptNumber ∧
      r'.logicalAgentId = r.logicalAgentId ∧ r'.incarnationId = r.incarnationId ∧
      r'.executionTarget = r.executionTarget := by
  obtain ⟨st, -, rfl⟩ := h
  exact ⟨rfl, rfl, rfl, rfl, rfl⟩

theorem Store.Numbered.closes (hs : s.Numbered) (h : Closes env s s') : s'.Numbered where
  counted a r' hr' := by
    obtain ⟨r, hr, hclose⟩ := h.lookup_of_after hr'
    obtain ⟨htask, hnumber, -⟩ := hclose.fields
    rw [htask, hnumber, h.count]
    exact hs.counted a r hr
  latest a r' b w' hr' hactive hw' htask := by
    obtain ⟨r, hr, hclose⟩ := h.lookup_of_after hr'
    obtain ⟨w, hw, hclosew⟩ := h.lookup_of_after hw'
    obtain rfl := hclose.of_active hactive
    obtain ⟨htaskw, hnumberw, -⟩ := hclosew.fields
    rw [hnumberw]
    exact hs.latest a r' b w hr hactive hw (htaskw.symm.trans htask)

theorem Store.Numbered.granted (hs : s.Numbered) (h : Granted s s' a r) : s'.Numbered where
  counted b w hw := by
    rw [h.lookup] at hw
    rw [h.count]
    split at hw
    · obtain rfl := Option.some.inj hw
      rw [if_pos rfl, h.number]
    · exact (hs.counted b w hw).trans (Nat.le_add_right _ _)
  latest b w b' w' hw hactive hw' htask := by
    by_cases hb : b = a
    · have hrow : r = w := by
        rw [h.lookup, if_pos hb] at hw
        exact Option.some.inj hw
      subst hrow
      rw [h.number]
      -- every earlier attempt is counted, and the new one is numbered after the count
      rw [h.lookup] at hw'
      split at hw'
      · obtain rfl := Option.some.inj hw'
        exact h.number.le
      · have hcount := hs.counted b' w' hw'
        rw [htask] at hcount
        omega
    · have hold := hw
      rw [h.lookup, if_neg hb] at hold
      by_cases hb' : b' = a
      · -- two active attempts of one task clash
        have hrow : r = w' := by
          have hnew := hw'
          rw [h.lookup, if_pos hb'] at hnew
          exact Option.some.inj hnew
        subst hrow
        have hclash := Table.clash_of_lookup hw hw' (hb' ▸ hb)
        simp [attemptSchema, hactive, h.active, htask] at hclash
      · rw [h.lookup, if_neg hb'] at hw'
        exact hs.latest b w b' w' hold hactive hw' htask

theorem Store.Numbered.linked (hs : s.Numbered) {claim : Claim} {x : ExecutionId}
    {r : ClaimRecords} {i : IncarnationId} {row : ExecutionRow}
    (h : Launch env s s' claim x r i row) : s'.Numbered := by
  -- the linked row keeps its task, its number and its state
  have hback : ∀ a w', s'.attempts.lookup a = some w' → ∃ w, s.attempts.lookup a = some w ∧
      w'.taskId = w.taskId ∧ w'.attemptNumber = w.attemptNumber ∧ w'.state = w.state := by
    intro a w' hw'
    rw [h.attempts] at hw'
    split at hw'
    · rename_i ha
      obtain rfl := Option.some.inj hw'
      exact ⟨r.attempt, ha ▸ h.authorized.attempt, rfl, rfl, rfl⟩
    · exact ⟨w', hw', rfl, rfl, rfl⟩
  refine ⟨?_, ?_⟩
  · intro a w' hw'
    obtain ⟨w, hw, htask, hnumber, -⟩ := hback a w' hw'
    rw [htask, hnumber, h.count]
    exact hs.counted a w hw
  · intro a w' b v' hw' hactive hv' htask
    obtain ⟨w, hw, htaskw, hnumberw, hstatew⟩ := hback a w' hw'
    obtain ⟨v, hv, htaskv, hnumberv, -⟩ := hback b v' hv'
    rw [hnumberw, hnumberv]
    refine hs.latest a w b v hw (hstatew ▸ hactive) hv ?_
    rw [← htaskv, ← htaskw, htask]

theorem Store.Numbered.exec (hs : s.Numbered) {op : Op} {u : Unit} (h : Runs env op.exec s u s') :
    s'.Numbered := by
  cases exec_attempts h with
  | closed h => exact hs.closes h
  | granted h => exact hs.granted h
  | linked _ h => exact hs.linked h

/-- **Numbering.** In every reachable store the attempts of a task are numbered in the order of
    their claims. -/
theorem Store.after_numbered (calls : List Call) : (Store.empty.after calls).Numbered := by
  refine run_induction (P := Store.Numbered) ?_ ⟨?_, ?_⟩
  · intro c _ s₁ s₂ hs h
    exact hs.exec h
  · intro a r hr
    cases hr
  · intro a r a' r' hr
    cases hr

/-! ## The latest attempt -/

/-- The running best of a search for the greatest value is not exceeded by what was searched. -/
theorem minBy_max {α : Type} {f : α → Nat} {xs : List α} {a : α}
    (h : minBy (fun x y => decide (f y < f x)) xs = some a) {y : α} (hy : y ∈ xs) : f y ≤ f a := by
  cases xs with
  | nil => cases hy
  | cons x xs =>
    obtain rfl := Option.some.inj h
    have hfold : ∀ (ys : List α) (b : α), f b ≤ f (ys.foldl
        (fun best y => if decide (f best < f y) then y else best) b) ∧
        ∀ y ∈ ys, f y ≤ f (ys.foldl
          (fun best y => if decide (f best < f y) then y else best) b) := by
      intro ys
      induction ys with
      | nil => intro b; simp
      | cons z zs ih =>
        intro b
        obtain ⟨hb, hrest⟩ := ih (if decide (f b < f z) then z else b)
        have hstep : f b ≤ f (if decide (f b < f z) then z else b) ∧
            f z ≤ f (if decide (f b < f z) then z else b) := by
          by_cases hlt : f b < f z
          · simp [hlt, hlt.le]
          · simp [hlt, Nat.le_of_not_lt hlt]
        refine ⟨hstep.1.trans hb, ?_⟩
        intro y hy
        rcases List.mem_cons.mp hy with rfl | hy
        · exact hstep.2.trans hb
        · exact hrest y hy
    rcases List.mem_cons.mp hy with rfl | hy
    · exact (hfold xs y).1
    · exact (hfold xs x).2 y hy

/-- The latest attempt of a task is the one with the greatest number. -/
theorem latestAttempt_eq_some :
    s.latestAttempt t = some (a, r) ↔ s.attempts.lookup a = some r ∧ r.taskId = t ∧
      ∀ a' r', s.attempts.lookup a' = some r' → r'.taskId = t →
        r'.attemptNumber ≤ r.attemptNumber := by
  have hmem : ∀ a r, (a, r) ∈ s.attempts.rows.filter (fun x => decide (x.2.taskId = t)) ↔
      s.attempts.lookup a = some r ∧ r.taskId = t := by
    intro a r
    simp [Table.mem_rows]
  constructor
  · intro h
    obtain ⟨hr, ht⟩ := (hmem a r).mp (minBy_mem h)
    refine ⟨hr, ht, fun a' r' hr' ht' => ?_⟩
    exact minBy_max (f := fun x : AttemptId × AttemptRow => x.2.attemptNumber) h
      ((hmem a' r').mpr ⟨hr', ht'⟩)
  · rintro ⟨hr, ht, hmax⟩
    cases hlatest : s.latestAttempt t with
    | none =>
      unfold Store.latestAttempt at hlatest
      have hin := (hmem a r).mpr ⟨hr, ht⟩
      generalize s.attempts.rows.filter _ = rows at hlatest hin
      cases rows with
      | nil => cases hin
      | cons => cases hlatest
    | some x =>
      obtain ⟨a', r'⟩ := x
      obtain ⟨hr', ht'⟩ := (hmem a' r').mp (minBy_mem hlatest)
      have hle := minBy_max (f := fun x : AttemptId × AttemptRow => x.2.attemptNumber) hlatest
        ((hmem a r).mpr ⟨hr, ht⟩)
      -- numbers are unique within a task
      by_cases hne : a' = a
      · subst hne
        rw [Option.some.inj (hr'.symm.trans hr)]
      · have hclash := Table.clash_of_lookup hr' hr hne
        have heq : r'.attemptNumber = r.attemptNumber := Nat.le_antisymm (hmax a' r' hr' ht') hle
        simp [attemptSchema, ht, ht', heq] at hclash

end Agentype

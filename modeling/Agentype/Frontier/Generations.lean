import Agentype.Frontier.Change

/-!
# `Agentype.Frontier.Generations` — the life of a generation

A generation is opened, frozen and closed, in this order, and its revision counts the moves. It
numbers its admissions. A proposal that is admitted has one binding, which names its task; the
proposals that a generation no longer admits are not pending in it. A closed generation has only
tasks that are over, and these are over for good.

The facts of one state are `System.Regular`, kept by every `Change`, field by field. What moves
between two states of a run is `System.Onward`.

## Contents
- `GenerationState.rank`, `GenerationState.Next`, `System.sequences`.
- `System.Regular`, `Regular.change`, `run_regular`.
- `System.Onward`, `Change.onward`, `run_onward`.
- `System.Governed`, `System.Accounted`, `Regular.view_settled`: what one state says.
- **`generation_frontier`**: the invariants over whole runs.
-/

namespace Agentype.Frontier

open Check Relational Relational.Tx

variable {t : TaskId}

/-- How many moves lead to a state. -/
def GenerationState.rank : GenerationState → Nat
  | opened => 0
  | frozen => 1
  | closed => 2

/-- The moves of a generation. -/
inductive GenerationState.Next : GenerationState → GenerationState → Prop
  | freeze : Next opened frozen
  | close : Next frozen closed

theorem GenerationState.Next.rank {a b : GenerationState} (h : a.Next b) :
    b.rank = a.rank + 1 := by
  cases h <;> rfl

@[simp] theorem generationAllowsAdmit_opened (f : InformationFunction) :
    generationAllowsAdmit .opened f = true := rfl

@[simp] theorem generationAllowsAdmit_closed (f : InformationFunction) :
    generationAllowsAdmit .closed f = false := rfl

@[simp] theorem generationAllowsAdmit_frozen (f : InformationFunction) :
    generationAllowsAdmit .frozen f = decide (f ≠ .expand) := by
  cases f <;> rfl

section Regular

variable {T D : Type} {W : Wire T D} {s s' : System T D}

/-- The numbers of the admissions of a generation, in no particular order. -/
def System.sequences (s : System T D) (g : GenerationId) : List Nat :=
  (s.bindings.entries.filter fun x => decide (x.2.generationId = g)).map fun x => x.2.admissionSeq

/-- A task row suits the generation it is bound in. -/
def GenerationRow.Suits (row : GenerationRow T) (task : TaskRow) : Prop :=
  (row.hasPolicy = true → task.agentRequirementMode = .typed) ∧
    (row.state = .closed → task.state.isTerminal = true)

/-- **The invariant of the frontier.** -/
structure System.Regular (s : System T D) : Prop where
  machine : s.kernel.board.Sound
  revision : ∀ g row, s.generations.lookup g = some row → row.revision = row.state.rank
  numbered : ∀ g row, s.generations.lookup g = some row →
    (s.sequences g).Perm (List.range' 1 row.admissionSeq)
  named : ∀ t b, s.bindings.lookup t = some b → ∃ p, s.proposals.lookup b.proposalId = some p ∧
    p.state = .admitted ∧ p.admittedTaskId = some t ∧ p.generationId = b.generationId
  bound : ∀ id p, s.proposals.lookup id = some p → p.state = .admitted →
    ∃ t b, s.bindings.lookup t = some b ∧ b.proposalId = id
  placed : ∀ id p, s.proposals.lookup id = some p →
    ∃ row, s.generations.lookup p.generationId = some row ∧
      (p.state = .pending → generationAllowsAdmit row.state p.informationFunction = true)
  suited : ∀ t b row, s.bindings.lookup t = some b →
    s.generations.lookup b.generationId = some row →
    ∃ task, s.kernel.tasks.lookup t = some task ∧ row.Suits task

theorem System.regular_empty : (System.empty : System T D).Regular where
  machine := by
    show Store.empty.board.Sound
    rw [Store.empty_board]
    exact Board.Sound.empty
  revision _ _ h := by cases h
  numbered _ _ h := by cases h
  named _ _ h := by cases h
  bound _ _ h := by cases h
  placed _ _ h := by cases h
  suited _ _ _ h := by cases h

namespace System.Regular

/-- Every binding is in a generation. -/
theorem generation_of_binding (hs : s.Regular) {b : BindingRow T}
    (hb : s.bindings.lookup t = some b) :
    ∃ row, s.generations.lookup b.generationId = some row := by
  obtain ⟨p, hp, -, -, hgen⟩ := hs.named t b hb
  obtain ⟨row, hrow, -⟩ := hs.placed _ p hp
  exact ⟨row, hgen ▸ hrow⟩

/-- A generation that does not exist has no bindings. -/
theorem sequences_of_fresh (hs : s.Regular) {g : GenerationId}
    (hg : s.generations.lookup g = none) : s.sequences g = [] := by
  unfold sequences
  rw [List.map_eq_nil_iff, List.filter_eq_nil_iff]
  rintro ⟨t, b⟩ hmem
  rw [SortedMap.mem_entries] at hmem
  obtain ⟨row, hrow⟩ := hs.generation_of_binding hmem
  simp only [decide_eq_true_eq]
  rintro rfl
  rw [hg] at hrow
  cases hrow

end System.Regular

/-! ## Tables -/

/-- The gate of compilation is the gate of admission. -/
theorem allowsCompile_ok {g : GenerationId} {f : InformationFunction} {u : Unit} :
    s.allowsCompile g f = .ok u ↔
      ∃ row, s.generations.lookup g = some row ∧ generationAllowsAdmit row.state f = true := by
  simp only [System.allowsCompile, bind_ok, present_ok, ensure_ok, exists_const]
  refine exists_congr fun row => and_congr_right fun _ => ?_
  cases row.state <;> simp

/-- **Expiry.** A proposal after an expiry was there, and either it is as it was or it was pending
    and selected. -/
theorem expireProposals_cases {g : GenerationId} {which : InformationFunction → Bool}
    {reason : ExpirationReason} {id : ProposalId} {p' : ProposalRow T}
    (h : (s.expireProposals g which reason).lookup id = some p') :
    ∃ p, s.proposals.lookup id = some p ∧
      ((p' = p ∧ (p.generationId = g → p.state = .pending → which p.informationFunction = false)) ∨
        (p.state = .pending ∧ p' = { p with state := .expired, expirationReason := some reason })) := by
  simp only [System.expireProposals, SortedMap.lookup_mapValues, Option.map_eq_some_iff] at h
  obtain ⟨p, hp, rfl⟩ := h
  refine ⟨p, hp, ?_⟩
  split_ifs with hselected
  · simp only [Bool.and_eq_true, decide_eq_true_eq] at hselected
    exact .inr ⟨hselected.1.2, rfl⟩
  · refine .inl ⟨rfl, fun hg hpending => ?_⟩
    simpa [hg, hpending] using hselected

/-- An expiry leaves the proposals that are not pending. -/
theorem expireProposals_settled {g : GenerationId} {which : InformationFunction → Bool}
    {reason : ExpirationReason} {id : ProposalId} {p : ProposalRow T}
    (hp : s.proposals.lookup id = some p) (hstate : p.state ≠ .pending) :
    (s.expireProposals g which reason).lookup id = some p := by
  simp [System.expireProposals, SortedMap.lookup_mapValues, hp, hstate]

theorem terminalState_eq (state : TaskState) : terminalState state = state.isTerminal := by
  cases state <;> rfl

theorem mem_bindingsOf {g : GenerationId} {b : BindingRow T} :
    (t, b) ∈ s.bindingsOf g ↔ s.bindings.lookup t = some b ∧ b.generationId = g := by
  simp [System.bindingsOf, List.mem_insertionSort, SortedMap.mem_entries]

/-- What the gate of closing looks at. -/
theorem terminals_all {g : GenerationId} :
    (s.terminals g).all id = true ↔ ∀ t b task, s.bindings.lookup t = some b →
      b.generationId = g → s.kernel.tasks.lookup t = some task → task.state.isTerminal = true := by
  simp only [System.terminals, System.boundTasks, List.all_map, List.all_eq_true,
    List.mem_filterMap, Option.map_eq_some_iff, Prod.exists, mem_bindingsOf]
  constructor
  · intro h t b task hb hg htask
    rw [← terminalState_eq]
    exact h (t, b, task) ⟨t, b, ⟨hb, hg⟩, task, htask, rfl⟩
  · rintro h _ ⟨t, b, ⟨hb, hg⟩, task, htask, rfl⟩
    simpa [terminalState_eq] using h t b task hb hg htask

/-! ## Two states -/

/-- What a change does to the row of a generation that exists. It closes when its tasks are over, and
    the kernel is not touched then. -/
structure System.Moves (s s' : System T D) (g : GenerationId) (row row' : GenerationRow T) :
    Prop where
  policy : row'.hasPolicy = row.hasPolicy
  seed : row'.seedPayloadJson = row.seedPayloadJson
  sequence : row.admissionSeq ≤ row'.admissionSeq
  state : (row'.state = row.state ∧ row'.revision = row.revision) ∨
    (row.state.Next row'.state ∧ row'.revision = row.revision + 1)
  closing : row.state ≠ .closed → row'.state = .closed →
    s'.kernel.tasks = s.kernel.tasks ∧ (s.terminals g).all id = true

/-- A generation that admits a function has admitted it in every earlier state. -/
theorem generationAllowsAdmit_anti {a b : GenerationState} (hle : a.rank ≤ b.rank)
    {f : InformationFunction} (h : generationAllowsAdmit b f = true) :
    generationAllowsAdmit a f = true := by
  cases a with
  | opened => rfl
  | frozen =>
    cases b with
    | opened => cases hle
    | frozen => exact h
    | closed => cases h
  | closed =>
    cases b with
    | opened => cases hle
    | frozen => simp [GenerationState.rank] at hle
    | closed => cases h

/-- **What a run keeps, and what it adds.** Generations move forward; bindings stay; a new binding of
    a generation has a higher number and a function that the generation admitted before; a task that
    is over stays as it is. -/
structure System.Onward (s s' : System T D) : Prop where
  generations : ∀ g row, s.generations.lookup g = some row →
    ∃ row', s'.generations.lookup g = some row' ∧ row.state.rank ≤ row'.state.rank ∧
      row.admissionSeq ≤ row'.admissionSeq ∧ row'.hasPolicy = row.hasPolicy
  bindings : ∀ t b, s.bindings.lookup t = some b → s'.bindings.lookup t = some b
  later : ∀ t b row, s'.bindings.lookup t = some b → s.bindings.lookup t = none →
    s.generations.lookup b.generationId = some row →
    row.admissionSeq < b.admissionSeq ∧
      generationAllowsAdmit row.state b.informationFunction = true
  finished : ∀ t task, s.kernel.tasks.lookup t = some task → task.state.isTerminal = true →
    ∃ task', s'.kernel.tasks.lookup t = some task' ∧ task'.state = task.state

namespace System.Onward

theorem refl (s : System T D) : s.Onward s where
  generations g row h := ⟨row, h, le_rfl, le_rfl, rfl⟩
  bindings _ _ h := h
  later t b row hb hnone _ := by
    rw [hnone] at hb
    cases hb
  finished t task h _ := ⟨task, h, rfl⟩

theorem trans {s₁ s₂ : System T D} (h : s.Onward s₁) (h' : s₁.Onward s₂) : s.Onward s₂ where
  generations g row hrow := by
    obtain ⟨row₁, hrow₁, hrank₁, hseq₁, hpolicy₁⟩ := h.generations g row hrow
    obtain ⟨row₂, hrow₂, hrank₂, hseq₂, hpolicy₂⟩ := h'.generations g row₁ hrow₁
    exact ⟨row₂, hrow₂, by omega, by omega, hpolicy₂.trans hpolicy₁⟩
  bindings t b hb := h'.bindings t b (h.bindings t b hb)
  later t b row hb hnone hrow := by
    cases hmiddle : s₁.bindings.lookup t with
    | some b₁ =>
      have hb₁ := h'.bindings t b₁ hmiddle
      cases hb.symm.trans hb₁
      exact h.later t b row hmiddle hnone hrow
    | none =>
      obtain ⟨row₁, hrow₁, hrank₁, hseq₁, -⟩ := h.generations _ row hrow
      obtain ⟨hseq, hallowed⟩ := h'.later t b row₁ hb hmiddle hrow₁
      exact ⟨by omega, generationAllowsAdmit_anti hrank₁ hallowed⟩
  finished t task htask hover := by
    obtain ⟨task₁, htask₁, hsame₁⟩ := h.finished t task htask hover
    obtain ⟨task₂, htask₂, hsame₂⟩ := h'.finished t task₁ htask₁ (hsame₁ ▸ hover)
    exact ⟨task₂, htask₂, hsame₂.trans hsame₁⟩

end System.Onward

/-! ## What one state says -/

/-- A task is COMPLETED or CANCELLED. -/
def System.Over (s : System T D) (t : TaskId) : Prop :=
  ∃ task, s.kernel.tasks.lookup t = some task ∧ (task.state = .completed ∨ task.state = .cancelled)

/-- The state of one generation: its revision and its numbers, the proposals that are not pending in
    it, its tasks, and what its view says. -/
structure System.Governed (W : Wire T D) (s : System T D) (g : GenerationId)
    (row : GenerationRow T) : Prop where
  revision : row.revision = row.state.rank
  count : row.admissionSeq = (s.bindingsOf g).length
  numbered : (s.bindingsOf g).map (fun x => x.2.admissionSeq) = List.range' 1 row.admissionSeq
  frozen : row.state ≠ .opened → ∀ id p, s.proposals.lookup id = some p → p.generationId = g →
    p.informationFunction = .expand → p.state ≠ .pending
  closed : row.state = .closed → ∀ id p, s.proposals.lookup id = some p → p.generationId = g →
    p.state ≠ .pending
  finished : row.state = .closed → ∀ t b, s.bindings.lookup t = some b → b.generationId = g →
    s.Over t
  typed : row.hasPolicy = true → ∀ t b, s.bindings.lookup t = some b → b.generationId = g →
    s.taskAgentRequirementMode t = .ok .typed
  view : (∀ view, s.getGenerationView W g = .ok view → (view.isSettled = true ↔
      row.state ≠ .opened ∧
        ∀ t b, s.bindings.lookup t = some b → b.generationId = g → s.Over t)) ∧
    ∀ seed, W.parse row.seedPayloadJson = .ok seed → ∃ view, s.getGenerationView W g = .ok view

/-- The state of one proposal: admitted exactly when one binding names it, and then the binding is
    that of its task. -/
structure System.Accounted (s : System T D) (id : ProposalId) (p : ProposalRow T) : Prop where
  admitted : p.state = .admitted ↔ ∃! t, ∃ b, s.bindings.lookup t = some b ∧ b.proposalId = id
  task : ∀ t b, s.bindings.lookup t = some b → b.proposalId = id → p.admittedTaskId = some t

theorem over_iff {task : TaskRow} (htask : s.kernel.tasks.lookup t = some task) :
    s.Over t ↔ task.state.isTerminal = true := by
  simp only [System.Over, htask, Option.some.injEq, exists_eq_left']
  cases task.state <;> simp [TaskState.isTerminal]

namespace System.Regular

variable (hs : s.Regular) {g : GenerationId} {row : GenerationRow T}
  (hrow : s.generations.lookup g = some row)
include hs hrow

/-- Sorted by their numbers, the admissions count up from one. -/
theorem bindingsOf_numbered :
    (s.bindingsOf g).map (fun x => x.2.admissionSeq) = List.range' 1 row.admissionSeq := by
  have hsorted := sortBy_pairwise (fun x : TaskId × BindingRow T => x.2.admissionSeq)
    (s.bindings.entries.filter fun x => decide (x.2.generationId = g))
  have hperm : ((s.bindingsOf g).map fun x => x.2.admissionSeq).Perm (s.sequences g) :=
    (List.perm_insertionSort _ _).map _
  exact List.Perm.eq_of_pairwise (fun _ _ _ _ => le_antisymm) (hsorted.map _ fun _ _ h => h)
    ((List.pairwise_lt_range' 1).imp le_of_lt) (hperm.trans (hs.numbered g row hrow))

theorem bound_task {b : BindingRow T} (hb : s.bindings.lookup t = some b)
    (hg : b.generationId = g) : ∃ task, s.kernel.tasks.lookup t = some task ∧ row.Suits task :=
  hs.suited t b row hb (hg ▸ hrow)

/-- The terminal flags of the view are those of all bound tasks. -/
theorem terminals_iff : (s.terminals g).all id = true ↔
    ∀ t b, s.bindings.lookup t = some b → b.generationId = g → s.Over t := by
  rw [terminals_all]
  constructor
  · intro h t b hb hg
    obtain ⟨task, htask, -⟩ := hs.bound_task hrow hb hg
    exact (over_iff htask).mpr (h t b task hb hg htask)
  · intro h t b task hb hg htask
    exact (over_iff htask).mp (h t b hb hg)

theorem over_of_closed (hclosed : row.state = .closed) {b : BindingRow T}
    (hb : s.bindings.lookup t = some b) (hg : b.generationId = g) : s.Over t := by
  obtain ⟨task, htask, -, hover⟩ := hs.bound_task hrow hb hg
  exact (over_iff htask).mpr (hover hclosed)

/-- **The view.** It is returned if the seed can be read, and says settled exactly when the
    generation has left the open state and its tasks are over. -/
theorem view_settled : (∀ view, s.getGenerationView W g = .ok view → (view.isSettled = true ↔
      row.state ≠ .opened ∧
        ∀ t b, s.bindings.lookup t = some b → b.generationId = g → s.Over t)) ∧
    ∀ seed, W.parse row.seedPayloadJson = .ok seed →
      ∃ view, s.getGenerationView W g = .ok view := by
  simp only [getGenerationView, hrow, present_some, ok_bind, bind_ok, pure_ok]
  refine ⟨?_, fun seed hseed => ⟨_, seed, by simp [Wire.parseText, hseed], rfl⟩⟩
  rintro view ⟨seed, -, rfl⟩
  simp only [isGenerationViewSettled, isGenerationSettled, Bool.or_eq_true, Bool.and_eq_true,
    decide_eq_true_eq, hs.terminals_iff hrow]
  cases hstate : row.state with
  | opened => simp
  | frozen => simp
  | closed =>
    simp only [true_or, true_iff]
    exact ⟨by simp, fun t b hb hg => hs.over_of_closed hrow hstate hb hg⟩

theorem not_pending {id : ProposalId} {p : ProposalRow T} (hp : s.proposals.lookup id = some p)
    (hg : p.generationId = g) (hrefused : generationAllowsAdmit row.state p.informationFunction = false) :
    p.state ≠ .pending := by
  intro hpending
  obtain ⟨row₁, hrow₁, hallowed⟩ := hs.placed id p hp
  rw [hg, hrow] at hrow₁
  cases hrow₁
  rw [hallowed hpending] at hrefused
  cases hrefused

theorem governed : s.Governed W g row where
  revision := hs.revision g row hrow
  count := by
    have hlength := congrArg List.length (hs.bindingsOf_numbered hrow)
    rw [List.length_map, List.length_range'] at hlength
    exact hlength.symm
  numbered := hs.bindingsOf_numbered hrow
  frozen hstate id p hp hg hexpand := by
    apply hs.not_pending hrow hp hg
    rw [hexpand]
    cases hrow' : row.state with
    | opened => exact absurd hrow' hstate
    | frozen | closed => rfl
  closed hstate id p hp hg := by
    apply hs.not_pending hrow hp hg
    rw [hstate, generationAllowsAdmit_closed]
  finished hstate t b hb hg := hs.over_of_closed hrow hstate hb hg
  typed hpolicy t b hb hg := by
    obtain ⟨task, htask, hmode, -⟩ := hs.bound_task hrow hb hg
    simp [taskAgentRequirementMode, htask, hmode hpolicy]
  view := hs.view_settled hrow

omit hrow in
theorem accounted {id : ProposalId} {p : ProposalRow T} (hp : s.proposals.lookup id = some p) :
    s.Accounted id p := by
  have htask : ∀ t b, s.bindings.lookup t = some b → b.proposalId = id →
      p.state = .admitted ∧ p.admittedTaskId = some t := by
    rintro t b hb rfl
    obtain ⟨p₁, hp₁, hstate, htask, -⟩ := hs.named t b hb
    cases hp.symm.trans hp₁
    exact ⟨hstate, htask⟩
  refine ⟨⟨fun hstate => ?_, ?_⟩, fun t b hb hid => (htask t b hb hid).2⟩
  · obtain ⟨t, b, hb, hid⟩ := hs.bound id p hp hstate
    refine ⟨t, ⟨b, hb, hid⟩, ?_⟩
    rintro t' ⟨b', hb', hid'⟩
    have h := (htask t b hb hid).2
    rw [(htask t' b' hb' hid').2] at h
    exact Option.some.inj h
  · rintro ⟨t, ⟨b, hb, hid⟩, -⟩
    exact (htask t b hb hid).1

end System.Regular

end Regular

/-! ## Each change keeps it -/

section Changes

variable {T D : Type} [DecidableEq T] [DecidableEq D] {W : Wire T D} {s s' : System T D}

/-- Reading a generation without a policy. -/
theorem getGenerationPolicy_none {g : GenerationId} (h : s.getGenerationPolicy W g = .ok none)
    {row : GenerationRow T} (hrow : s.generations.lookup g = some row) : row.hasPolicy = false := by
  simp only [System.getGenerationPolicy, hrow, present_some, ok_bind] at h
  split at h
  · next hpolicy _ => exact hpolicy
  · cases h
  · cases h
  · simp [map_ok] at h

section Admission

variable {env : Env} {id : ProposalId} {p : ProposalRow T} {revision : Nat}
  {overrideSpec : Option TaskSpec} {draft : Option Agent.AgentRequirementDraft}
  {generation : GenerationRow T} {spec : TaskSpec} {t : TaskId} {kernel : Store} {json : Value}
  {pinned : Option Agent.TaskAgentRequirement}
  (h : Admission W env s id p revision overrideSpec draft generation spec t kernel json pinned)
include h

theorem Admission.newTask :
    NewTask env (spec.toKernel W) (pinned.map fun r => kernelRef r.requiredType) t s.kernel
      kernel :=
  admitTask_newTask h.created

theorem Admission.generation_row :
    s.generations.lookup p.generationId = some generation :=
  (allowsAdmission_ok.mp h.admitting).1

theorem Admission.allowed :
    generationAllowsAdmit generation.state p.informationFunction = true :=
  (allowsAdmission_ok.mp h.admitting).2.2.1

/-- A generation with a policy admits typed tasks only. -/
theorem Admission.typed (hpolicy : generation.hasPolicy = true) : pinned.isSome = true := by
  rcases h.pinned with ⟨rfl, -⟩ | ⟨d, r, -, rfl, -⟩
  · have hnone := (allowsAdmission_ok.mp h.admitting).2.2.2 rfl
    rw [getGenerationPolicy_none hnone h.generation_row] at hpolicy
    cases hpolicy
  · rfl

end Admission

/-- **Rows of generations.** A row of the changed store is new, open and at the start, or it was
    there and has moved. -/
theorem Change.generation_cases (h : Change W s s') {g : GenerationId} {row' : GenerationRow T}
    (hrow : s'.generations.lookup g = some row') :
    (s.generations.lookup g = none ∧ ∃ hasPolicy seed,
        row' = ⟨.opened, 0, 0, hasPolicy, W.print seed⟩ ∧
        (s.policies.lookup g = none → hasPolicy = (s'.policies.lookup g).isSome)) ∨
      ∃ row, s.generations.lookup g = some row ∧ s.Moves s' g row row' := by
  have hkept (hrow : s.generations.lookup g = some row') :
      ∃ row, s.generations.lookup g = some row ∧ s.Moves s' g row row' :=
    ⟨row', hrow, rfl, rfl, le_rfl, .inl ⟨rfl, rfl⟩, fun hopen hclosed => absurd hclosed hopen⟩
  cases h with
  | same | kernel | catalog | compile | reject => exact .inr (hkept hrow)
  | create hfresh | createWithPolicy hfresh =>
    rcases SortedMap.lookup_insert_cases hrow with ⟨rfl, rfl⟩ | ⟨-, hrow⟩
    · exact .inl ⟨hfresh, _, _, rfl, fun hnone => by simp [hnone]⟩
    · exact .inr (hkept hrow)
  | admission hadmission =>
    rcases SortedMap.lookup_insert_cases hrow with ⟨rfl, rfl⟩ | ⟨-, hrow⟩
    · exact .inr ⟨_, hadmission.generation_row, rfl, rfl, Nat.le_succ _, .inl ⟨rfl, rfl⟩,
        fun hopen hclosed => absurd hclosed hopen⟩
    · exact .inr (hkept hrow)
  | freeze hg hstate =>
    rcases SortedMap.lookup_insert_cases hrow with ⟨rfl, rfl⟩ | ⟨-, hrow⟩
    · exact .inr ⟨_, hg, rfl, rfl, le_rfl, .inr ⟨hstate ▸ .freeze, rfl⟩, fun _ => nofun⟩
    · exact .inr (hkept hrow)
  | close hg hstate hsettled =>
    rcases SortedMap.lookup_insert_cases hrow with ⟨rfl, rfl⟩ | ⟨-, hrow⟩
    · exact .inr ⟨_, hg, rfl, rfl, le_rfl, .inr ⟨hstate ▸ .close, rfl⟩,
        fun _ _ => ⟨rfl, by simpa [isGenerationSettled] using hsettled⟩⟩
    · exact .inr (hkept hrow)

/-- A generation stays. -/
theorem Change.generation_kept (h : Change W s s') {g : GenerationId} {row : GenerationRow T}
    (hrow : s.generations.lookup g = some row) :
    ∃ row', s'.generations.lookup g = some row' ∧ s.Moves s' g row row' := by
  have hsome : ∃ row', s'.generations.lookup g = some row' := by
    cases h with
    | same | kernel | catalog | compile | reject => exact ⟨row, hrow⟩
    | create | createWithPolicy | admission | freeze | close =>
      simp only [System.recordAdmission, SortedMap.lookup_insert]
      split_ifs <;> simp [hrow]
  obtain ⟨row', hrow'⟩ := hsome
  rcases h.generation_cases hrow' with ⟨hnone, -⟩ | ⟨row₁, hrow₁, hmoves⟩
  · cases hnone.symm.trans hrow
  · cases hrow.symm.trans hrow₁
    exact ⟨row', hrow', hmoves⟩

/-- A proposal that is no longer pending stays as it is. -/
theorem Change.settled_kept (h : Change W s s') {id : ProposalId} {p : ProposalRow T}
    (hp : s.proposals.lookup id = some p) (hstate : p.state ≠ .pending) :
    s'.proposals.lookup id = some p := by
  have hother {id₁ : ProposalId} {p₁ p' : ProposalRow T} (hp₁ : s.proposals.lookup id₁ = some p₁)
      (hpending : p₁.state = .pending) : (s.proposals.insert id₁ p').lookup id = some p := by
    rw [SortedMap.lookup_insert, if_neg, hp]
    rintro rfl
    cases hp.symm.trans hp₁
    exact hstate hpending
  cases h with
  | same | kernel | catalog | create | createWithPolicy => exact hp
  | compile hcompile => exact SortedMap.lookup_insert_fresh hcompile.fresh hp
  | admission hadmission => exact hother hadmission.proposal hadmission.pending
  | reject hp₁ hpending => exact hother hp₁ hpending
  | freeze | close => exact expireProposals_settled hp hstate

/-! ### The fields of the invariant -/

namespace System.Regular

variable (hs : s.Regular) (h : Change W s s')
include hs h

theorem revision_change (g : GenerationId) (row' : GenerationRow T)
    (hrow : s'.generations.lookup g = some row') : row'.revision = row'.state.rank := by
  rcases h.generation_cases hrow with ⟨-, _, _, rfl, -⟩ | ⟨row, hrow, hmoves⟩
  · rfl
  · have hrevision := hs.revision g row hrow
    rcases hmoves.state with ⟨hstate, hsame⟩ | ⟨hnext, hmore⟩
    · rw [hsame, hstate, hrevision]
    · rw [hmore, hrevision, hnext.rank]

theorem numbered_change (g : GenerationId) (row' : GenerationRow T)
    (hrow : s'.generations.lookup g = some row') :
    (s'.sequences g).Perm (List.range' 1 row'.admissionSeq) := by
  cases h with
  | same | kernel | catalog | compile | reject => exact hs.numbered g row' hrow
  | create hfresh | createWithPolicy hfresh =>
    rcases SortedMap.lookup_insert_cases hrow with ⟨rfl, rfl⟩ | ⟨-, hrow⟩
    · show (s.sequences _).Perm []
      rw [hs.sequences_of_fresh hfresh]
    · exact hs.numbered g row' hrow
  | @freeze g₁ row _ hg hstate | @close g₁ row _ hg hstate hsettled =>
    rcases SortedMap.lookup_insert_cases hrow with ⟨rfl, rfl⟩ | ⟨-, hrow⟩
    · exact hs.numbered g row hg
    · exact hs.numbered g row' hrow
  | @admission env id p revision overrideSpec draft row spec t kernel json pinned hadmission =>
    have hperm := SortedMap.entries_insert_perm (m := s.bindings)
      (⟨p.generationId, id, p.informationFunction, row.admissionSeq + 1, W.print json,
        p.semanticInputSetJson⟩ : BindingRow T) hadmission.unbound
    have hseq := (hperm.filter fun x => decide (x.2.generationId = g)).map
      fun x => x.2.admissionSeq
    rcases SortedMap.lookup_insert_cases hrow with ⟨rfl, rfl⟩ | ⟨heq, hrow⟩
    · -- the new number is the next one
      have hold := hs.numbered _ row hadmission.generation_row
      simp only [List.filter_cons, decide_true, if_true, List.map_cons] at hseq
      rw [List.range'_1_concat, Nat.add_comm 1]
      exact hseq.trans ((hold.cons _).trans (List.perm_append_singleton _ _).symm)
    · -- another generation
      have hother : ¬ p.generationId = g := fun h => heq h.symm
      simp only [List.filter_cons, hother, decide_false, Bool.false_eq_true, if_false] at hseq
      exact hseq.trans (hs.numbered g row' hrow)

theorem named_change (t : TaskId) (b : BindingRow T) (hb : s'.bindings.lookup t = some b) :
    ∃ p, s'.proposals.lookup b.proposalId = some p ∧ p.state = .admitted ∧
      p.admittedTaskId = some t ∧ p.generationId = b.generationId := by
  have hkept : s.bindings.lookup t = some b → ∃ p, s'.proposals.lookup b.proposalId = some p ∧
      p.state = .admitted ∧ p.admittedTaskId = some t ∧ p.generationId = b.generationId := by
    intro hb
    obtain ⟨p, hp, hstate, htask, hgen⟩ := hs.named t b hb
    exact ⟨p, h.settled_kept hp (by simp [hstate]), hstate, htask, hgen⟩
  cases h with
  | admission hadmission =>
    rcases SortedMap.lookup_insert_cases hb with ⟨rfl, rfl⟩ | ⟨-, hb⟩
    · simp [recordAdmission]
    · exact hkept hb
  | _ => exact hkept hb

theorem bound_change (id : ProposalId) (p : ProposalRow T)
    (hp : s'.proposals.lookup id = some p) (hstate : p.state = .admitted) :
    ∃ t b, s'.bindings.lookup t = some b ∧ b.proposalId = id := by
  cases h with
  | same | kernel | catalog | create | createWithPolicy => exact hs.bound id p hp hstate
  | compile | reject =>
    rcases SortedMap.lookup_insert_cases hp with ⟨-, rfl⟩ | ⟨-, hp⟩
    · cases hstate
    · exact hs.bound id p hp hstate
  | freeze | close =>
    obtain ⟨p₁, hp₁, ⟨rfl, -⟩ | ⟨-, rfl⟩⟩ := expireProposals_cases hp
    · exact hs.bound id p hp₁ hstate
    · cases hstate
  | @admission _ id₁ p₁ _ _ _ _ _ t _ _ _ hadmission =>
    rcases SortedMap.lookup_insert_cases hp with ⟨rfl, -⟩ | ⟨-, hp⟩
    · exact ⟨t, _, (SortedMap.lookup_insert ..).trans (if_pos rfl), rfl⟩
    · obtain ⟨t', b, hb, hid⟩ := hs.bound id p hp hstate
      exact ⟨t', b, SortedMap.lookup_insert_fresh hadmission.unbound hb, hid⟩

theorem suited_change (t : TaskId) (b : BindingRow T) (row' : GenerationRow T)
    (hb : s'.bindings.lookup t = some b) (hrow' : s'.generations.lookup b.generationId = some row') :
    ∃ task, s'.kernel.tasks.lookup t = some task ∧ row'.Suits task := by
  have hkept : s.bindings.lookup t = some b →
      ∃ task, s'.kernel.tasks.lookup t = some task ∧ row'.Suits task := by
    intro hb
    obtain ⟨row, hrow⟩ := hs.generation_of_binding hb
    obtain ⟨row₁, hrow₁, hmoves⟩ := h.generation_kept hrow
    cases hrow'.symm.trans hrow₁
    obtain ⟨task, htask, hmode, hover⟩ := hs.suited t b row hb hrow
    obtain ⟨task', htask', hfixed⟩ := h.tasks_kept t task htask
    refine ⟨task', htask', fun hpolicy => ?_, fun hclosed => ?_⟩
    · rw [hmoves.policy] at hpolicy
      exact (congrArg TaskRow.agentRequirementMode hfixed).trans (hmode hpolicy)
    · by_cases hstate : row.state = .closed
      · -- what is over stays over
        obtain ⟨task₁, htask₁, hsame⟩ := h.over_kept hs.machine htask (hover hstate)
        cases htask'.symm.trans htask₁
        rw [hsame]
        exact hover hstate
      · obtain ⟨htasks, hsettled⟩ := hmoves.closing hstate hclosed
        rw [htasks] at htask'
        exact terminals_all.mp hsettled t b task' hb rfl htask'
  cases h with
  | admission hadmission =>
    have hnew := hadmission.newTask
    rcases SortedMap.lookup_insert_cases hb with ⟨rfl, rfl⟩ | ⟨-, hb⟩
    · obtain ⟨batch, htask⟩ := hnew.row
      simp only [recordAdmission, SortedMap.lookup_insert, if_true] at hrow'
      cases hrow'
      refine ⟨_, htask, fun hpolicy => ?_, fun hclosed => ?_⟩
      · simp [TaskSpec.row, hadmission.typed hpolicy]
      · have hallowed := hadmission.allowed
        rw [show _ = GenerationState.closed from hclosed, generationAllowsAdmit_closed] at hallowed
        cases hallowed
    · exact hkept hb
  | _ => exact hkept hb

theorem placed_change (id : ProposalId) (p : ProposalRow T)
    (hp : s'.proposals.lookup id = some p) :
    ∃ row', s'.generations.lookup p.generationId = some row' ∧
      (p.state = .pending → generationAllowsAdmit row'.state p.informationFunction = true) := by
  cases h with
  | same | kernel | catalog => exact hs.placed id p hp
  | create hfresh | createWithPolicy hfresh =>
    obtain ⟨row, hrow, hallowed⟩ := hs.placed id p hp
    exact ⟨row, SortedMap.lookup_insert_fresh hfresh hrow, hallowed⟩
  | compile hcompile =>
    rcases SortedMap.lookup_insert_cases hp with ⟨-, rfl⟩ | ⟨-, hp⟩
    · obtain ⟨row, hrow, hallowed⟩ := allowsCompile_ok.mp hcompile.compiling
      exact ⟨row, hrow, fun _ => hallowed⟩
    · exact hs.placed id p hp
  | @admission _ id₁ p₁ _ _ _ row _ _ _ _ _ hadmission =>
    simp only [recordAdmission, SortedMap.lookup_insert] at hp ⊢
    split_ifs at hp
    · cases hp
      exact ⟨_, if_pos rfl, fun hpending => by cases hpending⟩
    · obtain ⟨row₁, hrow₁, hallowed⟩ := hs.placed id p hp
      split_ifs with heq
      · rw [heq, hadmission.generation_row] at hrow₁
        cases hrow₁
        exact ⟨_, rfl, hallowed⟩
      · exact ⟨row₁, hrow₁, hallowed⟩
  | @reject id₁ p₁ reason hp₁ hpending =>
    rcases SortedMap.lookup_insert_cases hp with ⟨-, rfl⟩ | ⟨-, hp⟩
    · obtain ⟨row, hrow, -⟩ := hs.placed id₁ p₁ hp₁
      exact ⟨row, hrow, fun hpending => by cases hpending⟩
    · exact hs.placed id p hp
  | @freeze g row _ hg hstate | @close g row _ hg hstate hsettled =>
    obtain ⟨p₁, hp₁, hcase⟩ := expireProposals_cases hp
    obtain ⟨row₁, hrow₁, hallowed⟩ := hs.placed id p₁ hp₁
    have hgen : p.generationId = p₁.generationId := by
      rcases hcase with ⟨rfl, -⟩ | ⟨-, rfl⟩ <;> rfl
    rw [hgen, SortedMap.lookup_insert]
    split_ifs with heq
    · -- what is left of the generation's proposals is what the new state admits
      refine ⟨_, rfl, fun hpending => ?_⟩
      rcases hcase with ⟨rfl, hleft⟩ | ⟨-, rfl⟩
      · simpa using hleft heq hpending
      · cases hpending
    · refine ⟨row₁, hrow₁, fun hpending => ?_⟩
      rcases hcase with ⟨rfl, -⟩ | ⟨-, rfl⟩
      · exact hallowed hpending
      · cases hpending

/-- **The step.** Every change keeps the invariant. -/
theorem change : s'.Regular where
  machine := hs.machine.steps (h.refines hs.machine)
  revision := hs.revision_change h
  numbered := hs.numbered_change h
  named := hs.named_change h
  bound := hs.bound_change h
  placed := hs.placed_change h
  suited := hs.suited_change h

end System.Regular

theorem run_regular (hs : s.Regular) (calls : List (Env × FrontierOp)) :
    (s.run W calls).Regular :=
  run_change (P := fun s => s.Regular) (fun _ _ hs h => hs.change h) calls hs

/-! ## Between two states of a run -/

/-- Bindings are only added, with a fresh task. -/
theorem Change.bindings_kept (h : Change W s s') {b : BindingRow T}
    (hb : s.bindings.lookup t = some b) : s'.bindings.lookup t = some b := by
  cases h with
  | admission hadmission => exact SortedMap.lookup_insert_fresh hadmission.unbound hb
  | _ => exact hb

theorem Change.onward (h : Change W s s') (hs : s.Regular) : s.Onward s' where
  generations g row hrow := by
    obtain ⟨row', hrow', hmoves⟩ := h.generation_kept hrow
    refine ⟨row', hrow', ?_, hmoves.sequence, hmoves.policy⟩
    rcases hmoves.state with ⟨hsame, -⟩ | ⟨hnext, -⟩
    · rw [hsame]
    · rw [hnext.rank]
      exact Nat.le_succ _
  bindings _ _ hb := h.bindings_kept hb
  later t b row hb hnone hrow := by
    cases h with
    | admission hadmission =>
      rcases SortedMap.lookup_insert_cases hb with ⟨-, rfl⟩ | ⟨-, hb⟩
      · cases hrow.symm.trans hadmission.generation_row
        exact ⟨Nat.lt_succ_self _, hadmission.allowed⟩
      · cases hnone.symm.trans hb
    | _ =>
      cases hnone.symm.trans hb
  finished t task htask hover := h.over_kept hs.machine htask hover

theorem run_onward (hs : s.Regular) (calls : List (Env × FrontierOp)) :
    s.Onward (s.run W calls) := by
  have hrun : (s.run W calls).Regular ∧ s.Onward (s.run W calls) :=
    run_change (P := fun s' => s'.Regular ∧ s.Onward s')
      (fun _ _ hs h => ⟨hs.1.change h, hs.2.trans (h.onward hs.1)⟩) calls ⟨hs, .refl s⟩
  exact hrun.2

/-- **The frontier's invariants.** In every state that a run reaches, every generation and every
    proposal is in order; one more command leaves a generation in its state or moves it one state on;
    and whatever run follows, bindings stay, new ones are numbered higher and are of a function that
    the generation admits, and tasks that are over stay as they are. -/
theorem generation_frontier (W : Wire T D) (calls more : List (Env × FrontierOp)) :
    (∀ g row, (System.empty.run W calls).generations.lookup g = some row →
      (System.empty.run W calls).Governed W g row) ∧
    (∀ id p, (System.empty.run W calls).proposals.lookup id = some p →
      (System.empty.run W calls).Accounted id p) ∧
    (∀ c g row, (System.empty.run W calls).generations.lookup g = some row →
      ∃ row', ((System.empty.run W calls).step W c).generations.lookup g = some row' ∧
        (row'.state = row.state ∨ row.state.Next row'.state)) ∧
    (System.empty.run W calls).Onward ((System.empty.run W calls).run W more) := by
  have hs : (System.empty.run W calls).Regular := run_regular System.regular_empty calls
  refine ⟨fun g row hrow => hs.governed hrow, fun id p hp => hs.accounted hp, ?_,
    run_onward hs more⟩
  intro c g row hrow
  obtain ⟨row', hrow', hmoves⟩ := (step_change (W := W) _ c).generation_kept hrow
  exact ⟨row', hrow', hmoves.state.imp And.left And.left⟩

end Changes

/-- The generation and the proposal of a small run. -/
theorem generation_frontier_admitted :
    (System.empty.run Wire.verbatim admitted).Governed Wire.verbatim "gen_g"
        ⟨.opened, 0, 1, false, .object []⟩ ∧
      ∃ p, p.admittedTaskId = some "task_a" ∧
        (System.empty.run Wire.verbatim admitted).Accounted "prop_q" p := by
  have hproposal : ((System.empty.run Wire.verbatim admitted).proposals.lookup "prop_q").map
      ProposalRow.admittedTaskId = some (some "task_a") := by
    decide +kernel
  obtain ⟨p, hp, htask⟩ := Option.map_eq_some_iff.mp hproposal
  have hfrontier := generation_frontier Wire.verbatim admitted []
  exact ⟨hfrontier.1 _ _ (by decide +kernel), p, htask, hfrontier.2.1 _ p hp⟩

end Agentype.Frontier

import Agentype.Catalog.History
import Agentype.Frontier.Admission
import Agentype.Kernel.Ages
import Agentype.Scheduler.Refine

/-!
# `Agentype.Frontier.Change` — what a command can do to the store

Every operation of the frontier is a chain of checks with one write at its end. `Change` says once,
with the checks that guard it, what that write can be; `exec_change` reads it off the operations. The
invariants of the frontier are proved about `Change` and never open an operation again.

An admission is the only change that touches two layers: it runs `admitTask` in the kernel and
records the task in the tables of the frontier. `Admission` collects what it has established by then.

## Contents
- `runKernel_ok`, `NewTask`, `admitTask_newTask`: the kernel's part.
- `Admission`, `admitProposalCore_ok`: a replay, or a new admission.
- `compileIntentInner_ok`: a replay, or a new proposal.
- `Change`, `exec_change`, `step_change`, `run_change`.
- `Change.kernel_run`: the kernel's part of a change is an operation of the kernel.
-/

namespace Agentype.Frontier

open Check Relational Relational.Tx

variable {t : TaskId} {revision : Nat} {id : ProposalId} {overrideSpec : Option TaskSpec}
  {draft : Option Agent.AgentRequirementDraft} {g : GenerationId}

/-! ## The kernel inside the frontier -/

theorem runKernel_ok {α : Type} {x : KernelTx α} {env : Env} {s s' : Store} {a : α}
    (h : runKernel x env s = .ok (a, s')) : Runs env x s a s' := by
  unfold runKernel at h
  split at h
  · next hcommit =>
    cases h
    exact runs_of_commit hcommit
  · cases h

/-- An event touches nothing but the outbox. -/
theorem announce_outbox {env : Env} {s s' : Store} {eventType : OutboxEventType}
    {event : OutboxEventId} (h : Runs env (announce eventType g) s event s') :
    ∃ outbox, s' = { s with notificationOutbox := outbox } := by
  unfold announce enqueueEvent at h
  obtain ⟨_, h⟩ := h.mint_bind
  obtain ⟨_, h⟩ := newId_bind h.ask_bind
  obtain ⟨outbox, -, h⟩ := h.insertInto_bind
  exact ⟨outbox, h.pure.2⟩

/-- What `admitTask` leaves: one new row, and the pin of a typed task. -/
structure NewTask (env : Env) (spec : Agentype.TaskSpec) (pin : Option AgentTypeRef) (t : TaskId)
    (s k : Store) : Prop where
  independent : spec.dependencies = []
  fresh : s.tasks.lookup t = none
  row : ∃ batch, k.tasks.lookup t =
    some (spec.row batch .queued (if pin.isSome then .typed else .legacy) env.now)
  others : ∀ t', t' ≠ t → k.tasks.lookup t' = s.tasks.lookup t'
  results : k.results = s.results
  pinned : ∀ t', k.taskAgentRequirements.lookup t' =
    if t' = t then pin.or (s.taskAgentRequirements.lookup t) else s.taskAgentRequirements.lookup t'
  unpinned : pin.isSome → s.taskAgentRequirements.lookup t = none

section NewTask

variable {env : Env} {s s' : Store}

theorem assignId_same {spec : Agentype.TaskSpec} {named : String × TaskId}
    (h : Runs env spec.assignId s named s') : s' = s := by
  unfold TaskSpec.assignId at h
  split at h
  · exact h.pure.2
  · obtain ⟨n, h⟩ := newId_bind h
    exact h.pure.2

/-- The last statement of an admission: the pin, if the task is typed. -/
theorem pinTask_tables {pin : Option AgentTypeRef} {u : Unit}
    (h : Runs env ((pin.map Except.ok).toList.forM (insertTaskAgentRequirement t)) s u s') :
    s'.tasks = s.tasks ∧ s'.results = s.results ∧
      (∀ t', s'.taskAgentRequirements.lookup t' =
        if t' = t then pin.or (s.taskAgentRequirements.lookup t)
        else s.taskAgentRequirements.lookup t') ∧
      (pin.isSome → s.taskAgentRequirements.lookup t = none) := by
  cases pin with
  | none =>
    obtain ⟨-, rfl⟩ := h.pure
    simp only [Option.none_or, Option.isSome_none, Bool.false_eq_true, false_implies, and_true,
      true_and]
    intro t'
    split
    · next heq => rw [heq]
    · rfl
  | some ref =>
    obtain ⟨_, s₁, h₁, h⟩ := h.bind
    obtain ⟨-, rfl⟩ := h.pure
    unfold insertTaskAgentRequirement at h₁
    obtain ⟨_, hok, h₁⟩ := h₁.examine_bind
    cases hok
    obtain ⟨-, h₁⟩ := h₁.query_bind.require_bind
    obtain ⟨pins, hpins, rfl⟩ := h₁.insertInto
    obtain ⟨hnone, hlook⟩ := Table.lookup_of_insert hpins
    exact ⟨rfl, rfl, hlook, fun _ => hnone⟩

/-- **The new task.** What a committed `admitTask` has written. -/
theorem admitTask_newTask {spec : Agentype.TaskSpec} {pin : Option AgentTypeRef} {k : Store}
    (h : Runs env (admitTask spec (pin.map .ok)) s t k) : NewTask env spec pin t s k := by
  unfold admitTask at h
  obtain ⟨hdeps, h⟩ := h.require_bind
  obtain ⟨-, -, h⟩ := h.fetch_bind
  obtain ⟨named, s₁, h₁, h⟩ := h.bind
  rw [assignId_same h₁] at h
  obtain ⟨n, h⟩ := newId_bind h
  obtain ⟨batches, -, h⟩ := h.insertInto_bind
  obtain ⟨_, s₂, h₂, h⟩ := h.bind
  obtain ⟨_, s₃, h₃, h⟩ := h.bind
  obtain ⟨rfl, rfl⟩ := h.pure
  unfold insertTask at h₂
  obtain ⟨-, h₂⟩ := h₂.ask_bind.query_bind.require_bind
  obtain ⟨tasks, htasks, rfl⟩ := h₂.insertInto
  obtain ⟨hnone, hlook⟩ := Table.lookup_of_insert htasks
  obtain ⟨htasks', hresults, hpins, hfree⟩ := pinTask_tables h₃
  constructor
  · exact List.isEmpty_iff.mp hdeps
  · exact hnone
  · refine ⟨"batch_" ++ env.uuid n, ?_⟩
    rw [htasks', ← Option.isSome_map (f := Except.ok (ε := Error))]
    exact (hlook _).trans (if_pos rfl)
  · intro t' hne
    rw [htasks']
    exact (hlook t').trans (if_neg hne)
  · exact hresults
  · exact hpins
  · exact hfree

end NewTask

/-! ## Admission -/

section Changes

variable {T D : Type} [DecidableEq T] [DecidableEq D] {W : Wire T D} {env : Env}
  {s s' : System T D}

/-- What an admission has established when it writes: the checks on the proposal and its generation,
    the specification, the kernel's part, and the requirement of a typed task. -/
structure Admission (W : Wire T D) (env : Env) (s : System T D) (id : ProposalId)
    (p : ProposalRow T) (revision : Nat) (overrideSpec : Option TaskSpec)
    (draft : Option Agent.AgentRequirementDraft) (generation : GenerationRow T) (spec : TaskSpec)
    (t : TaskId) (kernel : Store) (json : Value) (pinned : Option Agent.TaskAgentRequirement) :
    Prop where
  proposal : s.proposals.lookup id = some p
  pending : p.state = .pending
  admitting : s.allowsAdmission W p revision draft.isSome = .ok generation
  inputs : ∃ set, (W.parseText p.semanticInputSetJson >>= semanticInputSetFromJson) = .ok set ∧
    s.validateSemanticInputSet W p.generationId set = .ok ()
  specified : ∃ compiled,
    (p.normalizedTaskSpecJson.mapM fun text => W.parseText text >>= taskSpecFromJson) =
      .ok compiled ∧ resolveSpec compiled overrideSpec = .ok spec
  created : Runs env
    (admitTask (spec.toKernel W) ((pinned.map fun r => kernelRef r.requiredType).map .ok))
    s.kernel t kernel
  written : spec.canonicalJson = .ok json
  unbound : s.bindings.lookup t = none
  unnamed : s.bindingOf id = none
  pinned : (draft = none ∧ pinned = none) ∨
    ∃ d r, draft = some d ∧ pinned = some r ∧ s.admittedRequirement W p spec d = .ok r

theorem allowsAdmission_ok {p : ProposalRow T} {typed : Bool} {generation : GenerationRow T} :
    s.allowsAdmission W p revision typed = .ok generation ↔
      s.generations.lookup p.generationId = some generation ∧ generation.revision = revision ∧
      generationAllowsAdmit generation.state p.informationFunction = true ∧
      (typed = false → s.getGenerationPolicy W p.generationId = .ok none) := by
  unfold System.allowsAdmission
  simp only [bind_ok, present_ok, ensure_ok]
  constructor
  · rintro ⟨g, hg, _, hrevision, _, hallows, h⟩
    cases typed with
    | true =>
      simp only [if_true, pure_ok] at h
      exact ⟨h ▸ hg, h ▸ of_decide_eq_true hrevision, h ▸ hallows, by simp⟩
    | false =>
      simp only [Bool.false_eq_true, if_false, bind_ok, ensure_ok, pure_ok] at h
      obtain ⟨policy, hpolicy, _, hnone, rfl⟩ := h
      rw [Option.isNone_iff_eq_none.mp hnone] at hpolicy
      exact ⟨hg, of_decide_eq_true hrevision, hallows, fun _ => hpolicy⟩
  · rintro ⟨hg, hrevision, hallows, hlegacy⟩
    refine ⟨generation, hg, (), decide_eq_true hrevision, (), hallows, ?_⟩
    cases typed with
    | true => rfl
    | false => simp [hlegacy rfl]

theorem admitNew_ok {p : ProposalRow T} (hp : s.proposals.lookup id = some p)
    (hpending : p.state = .pending)
    (h : s.admitNew W env id p revision overrideSpec draft = .ok (t, s')) :
    ∃ generation spec kernel json pinned,
      Admission W env s id p revision overrideSpec draft generation spec t kernel json pinned ∧
      s' = s.recordAdmission W kernel id p generation t (W.print json) pinned := by
  simp only [System.admitNew, bind_ok, ensure_ok, pure_ok, Prod.mk.injEq] at h
  obtain ⟨generation, hgeneration, text, htext, set, hset, _, hvalid, compiled, hcompiled, spec,
    hspec, ⟨t', kernel⟩, hkernel, json, hjson, _, hunbound, _, hunnamed, pinned, hpinned, rfl,
    rfl⟩ := h
  have hcreated := runKernel_ok hkernel
  have hchosen : (draft = none ∧ pinned = none) ∨ ∃ d r, draft = some d ∧ pinned = some r ∧
      s.admittedRequirement W p spec d = .ok r := by
    cases draft with
    | none => exact .inl ⟨rfl, by cases hpinned; rfl⟩
    | some d =>
      cases hr : s.admittedRequirement W p spec d with
      | error e => simp [hr] at hpinned
      | ok r => exact .inr ⟨d, r, rfl, by simpa [hr] using hpinned.symm, hr⟩
  refine ⟨generation, spec, kernel, json, pinned, ?_, rfl⟩
  exact
    { proposal := hp
      pending := hpending
      admitting := hgeneration
      inputs := ⟨set, bind_ok.mpr ⟨text, htext, hset⟩, hvalid⟩
      specified := ⟨compiled, hcompiled, hspec⟩
      created := by
        rcases hchosen with ⟨rfl, rfl⟩ | ⟨d, r, rfl, rfl, hr⟩
        · exact hcreated
        · simpa [hr, Except.map] using hcreated
      written := hjson
      unbound := Option.isNone_iff_eq_none.mp hunbound
      unnamed := Option.isNone_iff_eq_none.mp hunnamed
      pinned := hchosen }

/-- **Admission.** A command that admits a proposal repeats an admission and changes nothing, or it
    makes a new one. -/
theorem admitProposalCore_ok
    (h : s.admitProposalCore W env id revision overrideSpec draft = .ok (t, s')) :
    ∃ p, s.proposals.lookup id = some p ∧
      ((p.state = .admitted ∧ p.admittedTaskId = some t ∧
          s.replayAdmission W id p t overrideSpec draft = .ok () ∧ s' = s) ∨
        ∃ generation spec kernel json pinned,
          Admission W env s id p revision overrideSpec draft generation spec t kernel json pinned ∧
          s' = s.recordAdmission W kernel id p generation t (W.print json) pinned) := by
  unfold System.admitProposalCore at h
  obtain ⟨p, hp, h⟩ := bind_ok.mp h
  rw [present_ok] at hp
  refine ⟨p, hp, ?_⟩
  split at h
  · next t' hstate htask =>
    simp only [bind_ok, pure_ok, Prod.mk.injEq] at h
    obtain ⟨_, hreplay, rfl, rfl⟩ := h
    exact .inl ⟨hstate, htask, hreplay, rfl⟩
  · next hstate => exact .inr (admitNew_ok hp hstate h)
  · simp at h

/-! ## Compilation -/

/-- What a new compilation has established when it writes. -/
structure Compilation (W : Wire T D) (env : Env) (s : System T D) (key : CompileKey)
    (intent : RawWorkIntent) (fingerprint : T) (spec : Option Value) : Prop where
  keyed : key.rawIntentKey = intent.rawIntentKey
  printed : intent.fingerprint W.toDocFormat = .ok fingerprint
  first : s.compiled key = none
  compiling : s.allowsCompile key.generationId intent.informationFunction = .ok ()
  inputs : s.validateSemanticInputSet W key.generationId intent.semanticInputSet = .ok ()
  independent : ∀ spec, intent.suggestedTaskSpec = some spec → spec.dependencies = []
  written : specDocument intent.suggestedTaskSpec = .ok spec
  fresh : s.proposals.lookup (firstId "prop" env) = none

omit [DecidableEq D] in
/-- **Compilation.** A command that compiles an intent finds the proposal it has compiled before, or
    it makes a new one. -/
theorem compileIntentInner_ok {intent : RawWorkIntent} {kind : SourceKind} {ref : String}
    {version : U32} {record : ProposalRecord T}
    (h : s.compileIntentInner W env g intent kind ref version = .ok (record, s')) :
    ∃ fingerprint, intent.fingerprint W.toDocFormat = .ok fingerprint ∧
      ((∃ id p, s.compiled ⟨g, kind, ref, intent.rawIntentKey, version⟩ = some (id, p) ∧
          p.intentFingerprint = fingerprint ∧ readProposal W id p = .ok record ∧ s' = s) ∨
        ∃ spec, Compilation W env s ⟨g, kind, ref, intent.rawIntentKey, version⟩ intent
            fingerprint spec ∧
          (∃ outbox, s' = { s with
            kernel := { s.kernel with notificationOutbox := outbox }
            proposals := s.proposals.insert (firstId "prop" env)
              (compiledRow W ⟨g, kind, ref, intent.rawIntentKey, version⟩ intent fingerprint spec
                env.now) }) ∧
          record.proposalId = firstId "prop" env) := by
  unfold System.compileIntentInner at h
  obtain ⟨fingerprint, hprint, h⟩ := bind_ok.mp h
  refine ⟨fingerprint, hprint, ?_⟩
  dsimp only at h
  split at h
  · next id p hfound =>
    simp only [bind_ok, ensure_ok, pure_ok, Prod.mk.injEq] at h
    obtain ⟨_, hsame, _, hread, rfl, rfl⟩ := h
    exact .inl ⟨id, p, hfound, of_decide_eq_true hsame, hread, rfl⟩
  · next hfirst =>
    simp only [bind_ok, ensure_ok, pure_ok, Prod.mk.injEq] at h
    obtain ⟨_, hallows, _, hvalid, _, hdeps, spec, hspec, _, hfresh, _, hevent, rfl, rfl⟩ := h
    obtain ⟨outbox, hkernel⟩ := announce_outbox (runKernel_ok hevent)
    refine .inr ⟨spec, ?_, ⟨outbox, by rw [hkernel]⟩, rfl⟩
    exact
      { keyed := rfl
        printed := hprint
        first := hfirst
        compiling := hallows
        inputs := hvalid
        independent := fun x hx => List.isEmpty_iff.mp (by simpa [hx] using hdeps)
        written := hspec
        fresh := Option.isNone_iff_eq_none.mp hfresh }

/-! ## Generations -/

/-- The document of a generation's policy. -/
def policyDoc (W : Wire T D) (policy : Agent.GenerationPolicy) : Doc T D :=
  let json := Agent.toBytes W.toDocFormat (Agent.canonicalGenerationPolicyDocument policy)
  ⟨json, Agent.contentDigest W.toDocFormat json⟩

theorem insertGenerationPolicy_ok {policy : Agent.GenerationPolicy}
    (h : s.insertGenerationPolicy W g policy = .ok s') :
    ∃ catalog canonical, s.catalog.loadCapabilityCatalog W.toDocFormat = .ok catalog ∧
      Agent.canonicalizeGenerationPolicy policy catalog = .ok canonical ∧
      s.policies.lookup g = none ∧
      s' = { s with policies := s.policies.insert g (policyDoc W canonical) } := by
  simp only [System.insertGenerationPolicy, rejecting, bind_ok, mapError_ok, ensure_ok,
    pure_ok] at h
  obtain ⟨catalog, hcatalog, canonical, hcanonical, _, hnone, rfl⟩ := h
  exact ⟨catalog, canonical, hcatalog, hcanonical, Option.isNone_iff_eq_none.mp hnone, rfl⟩

omit [DecidableEq T] [DecidableEq D] in
theorem leaving_ok {state : GenerationState} {verb : String} {generation : GenerationRow T} :
    s.leaving g revision state verb = .ok generation ↔
      s.generations.lookup g = some generation ∧ generation.state = state ∧
        generation.revision = revision := by
  simp only [System.leaving, bind_ok, present_ok, ensure_ok, pure_ok, decide_eq_true_eq]
  constructor
  · rintro ⟨g', hg, _, hstate, _, hrevision, rfl⟩
    exact ⟨hg, hstate, hrevision⟩
  · rintro ⟨hg, hstate, hrevision⟩
    exact ⟨generation, hg, (), hstate, (), hrevision, rfl⟩

/-! ## The relation -/

/-- **What a command can do.** One constructor for each way in which a committed command changes the
    store, with the checks that it has passed. -/
inductive Change (W : Wire T D) (s : System T D) : System T D → Prop
  /-- A replay. -/
  | same : Change W s s
  | kernel {env : Env} {op : Op} {k : Store} (hop : isAdmission op = false)
      (hrun : Runs env op.exec s.kernel () k) : Change W s { s with kernel := k }
  | catalog {op : Agent.CatalogOp} {c : Agent.Catalog T D}
      (hexec : s.catalog.exec W.toDocFormat op = .ok c) : Change W s { s with catalog := c }
  | create {g : GenerationId} {seed : Value} (hfresh : s.generations.lookup g = none) :
      Change W s { s with
        generations := s.generations.insert g ⟨.opened, 0, 0, false, W.print seed⟩ }
  | createWithPolicy {g : GenerationId} {seed : Value} {catalog : Agent.CapabilityCatalog}
      {policy canonical : Agent.GenerationPolicy} (hfresh : s.generations.lookup g = none)
      (hcatalog : s.catalog.loadCapabilityCatalog W.toDocFormat = .ok catalog)
      (hcanonical : Agent.canonicalizeGenerationPolicy policy catalog = .ok canonical)
      (hnone : s.policies.lookup g = none) :
      Change W s { s with
        generations := s.generations.insert g ⟨.opened, 0, 0, true, W.print seed⟩
        policies := s.policies.insert g (policyDoc W canonical) }
  | compile {env : Env} {key : CompileKey} {intent : RawWorkIntent} {fingerprint : T}
      {spec : Option Value} {outbox : Table (.free OutboxEventId OutboxRow)}
      (hcompile : Compilation W env s key intent fingerprint spec) :
      Change W s { s with
        kernel := { s.kernel with notificationOutbox := outbox }
        proposals := s.proposals.insert (firstId "prop" env)
          (compiledRow W key intent fingerprint spec env.now) }
  | admission {env : Env} {id : ProposalId} {p : ProposalRow T} {revision : Nat}
      {overrideSpec : Option TaskSpec} {draft : Option Agent.AgentRequirementDraft}
      {generation : GenerationRow T} {spec : TaskSpec} {t : TaskId} {kernel : Store} {json : Value}
      {pinned : Option Agent.TaskAgentRequirement}
      (hadmission : Admission W env s id p revision overrideSpec draft generation spec t kernel json
        pinned) :
      Change W s (s.recordAdmission W kernel id p generation t (W.print json) pinned)
  | reject {id : ProposalId} {p : ProposalRow T} {reason : String}
      (hp : s.proposals.lookup id = some p) (hpending : p.state = .pending) :
      Change W s { s with
        proposals := s.proposals.insert id
          { p with state := .rejected, rejectionReason := some reason } }
  | freeze {g : GenerationId} {generation : GenerationRow T}
      {outbox : Table (.free OutboxEventId OutboxRow)}
      (hg : s.generations.lookup g = some generation) (hstate : generation.state = .opened) :
      Change W s { s with
        kernel := { s.kernel with notificationOutbox := outbox }
        generations := s.generations.insert g
          { generation with state := .frozen, revision := generation.revision + 1 }
        proposals := s.expireProposals g (fun f => decide (f = .expand)) .generationFrozen }
  | close {g : GenerationId} {generation : GenerationRow T}
      {outbox : Table (.free OutboxEventId OutboxRow)}
      (hg : s.generations.lookup g = some generation) (hstate : generation.state = .frozen)
      (hsettled : isGenerationSettled .frozen (s.terminals g) = true) :
      Change W s { s with
        kernel := { s.kernel with notificationOutbox := outbox }
        generations := s.generations.insert g
          { generation with state := .closed, revision := generation.revision + 1 }
        proposals := s.expireProposals g (fun _ => true) .generationClosed }

theorem createGenerationWithPolicy_change {seed : Value} {policy : Option Agent.GenerationPolicy}
    (h : s.createGenerationWithPolicy W env seed policy = .ok (g, s')) : Change W s s' := by
  unfold System.createGenerationWithPolicy at h
  obtain ⟨_, hfresh, h⟩ := bind_ok.mp h
  rw [ensure_ok, Option.isNone_iff_eq_none] at hfresh
  cases policy with
  | none =>
    simp only [pure_ok, Prod.mk.injEq] at h
    obtain ⟨rfl, rfl⟩ := h
    exact .create hfresh
  | some policy =>
    simp only [bind_ok, pure_ok, Prod.mk.injEq] at h
    obtain ⟨s₁, hinsert, rfl, rfl⟩ := h
    obtain ⟨catalog, canonical, hcatalog, hcanonical, hnone, rfl⟩ :=
      insertGenerationPolicy_ok hinsert
    exact .createWithPolicy hfresh hcatalog hcanonical hnone

theorem compileIntentInner_change {intent : RawWorkIntent} {kind : SourceKind} {ref : String}
    {version : U32} {record : ProposalRecord T}
    (h : s.compileIntentInner W env g intent kind ref version = .ok (record, s')) :
    Change W s s' := by
  obtain ⟨fingerprint, -, ⟨id, p, -, -, -, rfl⟩ | ⟨spec, hcompile, ⟨outbox, rfl⟩, -⟩⟩ :=
    compileIntentInner_ok h
  · exact .same
  · exact .compile hcompile

theorem admitProposalCore_change
    (h : s.admitProposalCore W env id revision overrideSpec draft = .ok (t, s')) :
    Change W s s' := by
  obtain ⟨p, -, ⟨-, -, -, rfl⟩ | ⟨generation, spec, kernel, json, pinned, hadmission, rfl⟩⟩ :=
    admitProposalCore_ok h
  · exact .same
  · exact .admission hadmission

/-- **Commands.** A command that commits makes one change. -/
theorem exec_change {op : FrontierOp} (h : s.exec W env op = .ok s') : Change W s s' := by
  cases op with
  | kernel op =>
    simp only [System.exec, bind_ok, ensure_ok, pure_ok] at h
    obtain ⟨_, hop, ⟨u, k⟩, hrun, rfl⟩ := h
    exact .kernel (by simpa using hop) (runKernel_ok hrun)
  | catalog op =>
    simp only [System.exec, bind_ok, pure_ok] at h
    obtain ⟨c, hexec, rfl⟩ := h
    exact .catalog hexec
  | createGeneration seed policy =>
    simp only [System.exec, map_ok] at h
    obtain ⟨⟨g, _⟩, h, rfl⟩ := h
    exact createGenerationWithPolicy_change h
  | compileRootIntent g intent ref version =>
    simp only [System.exec, map_ok, System.compileRootIntent, bind_ok] at h
    obtain ⟨⟨record, _⟩, ⟨_, -, h⟩, rfl⟩ := h
    exact compileIntentInner_change h
  | compileResultIntent g result key version =>
    simp only [System.exec, map_ok, System.compileResultIntent, bind_ok] at h
    obtain ⟨⟨record, _⟩, ⟨_, -, intent, -, h⟩, rfl⟩ := h
    exact compileIntentInner_change h
  | admitProposal id revision spec =>
    simp only [System.exec, map_ok] at h
    obtain ⟨⟨t, _⟩, h, rfl⟩ := h
    exact admitProposalCore_change h
  | admitTypedProposal id revision spec draft =>
    simp only [System.exec, map_ok] at h
    obtain ⟨⟨t, _⟩, h, rfl⟩ := h
    exact admitProposalCore_change h
  | rejectProposal id reason =>
    simp only [System.exec, System.rejectProposal, bind_ok, present_ok, ensure_ok, pure_ok] at h
    obtain ⟨p, hp, _, hpending, rfl⟩ := h
    exact .reject hp (of_decide_eq_true hpending)
  | freezeGeneration g revision =>
    simp only [System.exec, System.freezeGeneration, bind_ok, leaving_ok, pure_ok] at h
    obtain ⟨generation, ⟨hg, hstate, -⟩, ⟨_, kernel⟩, hevent, rfl⟩ := h
    obtain ⟨outbox, rfl⟩ := announce_outbox (runKernel_ok hevent)
    exact .freeze hg hstate
  | closeGeneration g revision =>
    simp only [System.exec, System.closeGeneration, bind_ok, leaving_ok, ensure_ok, pure_ok] at h
    obtain ⟨generation, ⟨hg, hstate, -⟩, _, hsettled, ⟨_, kernel⟩, hevent, rfl⟩ := h
    obtain ⟨outbox, rfl⟩ := announce_outbox (runKernel_ok hevent)
    exact .close hg hstate hsettled

theorem step_change (s : System T D) (c : Env × FrontierOp) : Change W s (s.step W c) := by
  unfold System.step
  split
  · next h => exact exec_change h
  · exact .same

/-- **Runs.** What every change keeps holds after every run. -/
theorem run_change {P : System T D → Prop} (hstep : ∀ s s', P s → Change W s s' → P s')
    (calls : List (Env × FrontierOp)) (h : P s) : P (s.run W calls) := by
  induction calls generalizing s with
  | nil => exact h
  | cons c calls ih => exact ih (hstep _ _ h (step_change s c))

/-! ## The kernel under a change -/

/-- **One operation.** What a change does to the kernel is at most an event, or one operation of the
    kernel: an admission is `admitProposal` with its checks passed. -/
theorem Change.kernel_run (h : Change W s s') :
    (∃ outbox, s'.kernel = { s.kernel with notificationOutbox := outbox }) ∨
      ∃ (env : Env) (op : Op), Runs env op.exec s.kernel () s'.kernel := by
  cases h with
  | @kernel env op k hop hrun => exact .inr ⟨env, op, hrun⟩
  | @admission env id p revision overrideSpec draft generation spec t kernel json pinned hadmission =>
    refine .inr ⟨env, .admitProposal (.ok none) (spec.toKernel W)
      ((pinned.map fun r => kernelRef r.requiredType).map .ok), ?_⟩
    have hadmitted : Runs env (admitProposal (.ok none) (spec.toKernel W)
        ((pinned.map fun r => kernelRef r.requiredType).map .ok)) s.kernel t kernel :=
      hadmission.created
    exact runs_effect hadmitted
  | _ => exact .inl ⟨_, rfl⟩

theorem Change.tasks_kept (h : Change W s s') :
    Table.Evolves (fun _ r r' => r'.fixed = r.fixed) s.kernel.tasks s'.kernel.tasks := by
  rcases h.kernel_run with ⟨_, heq⟩ | ⟨env, op, hrun⟩
  · rw [heq]
    exact fun t r hr => ⟨r, hr, rfl⟩
  · exact (exec_ages op _ _ _ _ hrun).tasks

theorem Change.results_kept (h : Change W s s') :
    Table.Evolves (fun _ r r' => r'.fixed = r.fixed) s.kernel.results s'.kernel.results := by
  rcases h.kernel_run with ⟨_, heq⟩ | ⟨env, op, hrun⟩
  · rw [heq]
    exact fun t r hr => ⟨r, hr, rfl⟩
  · exact (exec_ages op _ _ _ _ hrun).results

theorem Change.refines (h : Change W s s') (hs : s.kernel.board.Sound) :
    Steps s.kernel.board s'.kernel.board := by
  rcases h.kernel_run with ⟨_, heq⟩ | ⟨env, op, hrun⟩
  · rw [heq]
    exact .refl
  · exact exec_refines op hs hrun

/-- A task that is over stays over. -/
theorem Change.over_kept (h : Change W s s') (hs : s.kernel.board.Sound) {task : TaskRow}
    (htask : s.kernel.tasks.lookup t = some task) (hover : task.state.isTerminal = true) :
    ∃ task', s'.kernel.tasks.lookup t = some task' ∧ task'.state = task.state := by
  have hview : s.kernel.board.task t = some task.view := Table.view_eq_some.mpr ⟨task, htask, rfl⟩
  obtain ⟨v, hv, hsame⟩ := hs.terminal_steps (h.refines hs) hview hover
  obtain ⟨task', htask', rfl⟩ := Table.view_eq_some.mp hv
  exact ⟨task', htask', hsame⟩

end Changes

end Agentype.Frontier

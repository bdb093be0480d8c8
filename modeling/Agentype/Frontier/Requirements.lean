import Agentype.Frontier.Generations

/-!
# `Agentype.Frontier.Requirements` — what a typed task demands stays readable

A typed admission derives the requirement of its task from the draft of the caller, the task itself
and the policy of the generation, and stores it with its digest. Every later read repeats the checks:
the digest, the canonical form against the catalog of the moment, the copies of the task's own
dimensions, and that folding the policy of the generation once more changes nothing.

`derivedRequirement` says what the derivation gives, without the checks; `derive_ok` that it gives this
whenever it succeeds. It is a fixed point of the policy's fold, and none of what the checks look at
changes: the catalog only grows, policies and bindings stay, and a task keeps the columns concerned.
What remains is whether the stored texts can be read at all (`System.Legible`): a number that the format
reads as another one makes the read report corruption (`requirement_misread`).

## Contents
- `derivedRequirement`, `deriveTaskAgentRequirement_ok`, `derived_fixed`.
- `System.Typed`: the invariant of the catalog, the policies and the requirements; `Typed.change`.
- `getTaskAgentRequirement_demands`: the read succeeds on texts that can be read.
-/

namespace Agentype.Frontier

open Check Relational Relational.Tx Agent

variable {r : TaskAgentRequirement} {g : GenerationId} {draft : AgentRequirementDraft}
  {f : InformationFunction} {spec : TaskSpec} {ty : Agent.AgentTypeRef} {t : TaskId}
  {task : TaskRow} {selector : AgentTypeSelector}

/-! ## Derivation -/

/-- What a draft demands for a task, before the policy. -/
def draftHard (draft : AgentRequirementDraft) (f : InformationFunction) (spec : TaskSpec) :
    TaskRequirement where
  informationFunction := f
  requiredCapabilities := presentEntries draft.requiredCapabilities
  requiredAffinity := .ofList spec.affinityTags
  requiredWorkspace := spec.workspaceMode
  requiredNetwork := draft.requiredNetwork
  requiredAttemptIsolation := draft.requiredAttemptIsolation
  requiredContinuity := hardContinuity spec.continuity
  sandboxPolicy := draft.sandboxPolicy
  requiredAnchor := draft.requiredAnchor
  budget := draft.budget

/-- The requirement that a draft derives: what it demands, tightened by the policy. -/
def derivedRequirement (policy : Option GenerationPolicy) (draft : AgentRequirementDraft)
    (requiredType : Agent.AgentTypeRef) (f : InformationFunction) (spec : TaskSpec) :
    TaskAgentRequirement where
  requiredType := requiredType
  hard := match policy with
    | some policy => policy.tighten (draftHard draft f spec)
    | none => draftHard draft f spec

section Derivation

variable {T D : Type} [DecidableEq T] [DecidableEq D] {W : Wire T D} {s s' : System T D}

theorem rejecting_ok {α : Type} {x : Except ContractError α} {a : α} :
    rejecting x = .ok a ↔ x = .ok a := mapError_ok

theorem normalize_ok {r' : TaskAgentRequirement} {catalog : CapabilityCatalog} :
    r.normalize catalog = .ok r' ↔ ShapedBy catalog r.hard.requiredCapabilities ∧
      { r with hard :=
        { r.hard with requiredCapabilities := presentEntries r.hard.requiredCapabilities } } = r' := by
  simp only [TaskAgentRequirement.normalize, TaskAgentRequirement.validate, bind_ok, pure_ok,
    checkShapes_ok, exists_const]

/-- The second normalization finds nothing to do. -/
theorem derived_normal (policy : Option GenerationPolicy) (draft : AgentRequirementDraft)
    (ty : Agent.AgentTypeRef) (f : InformationFunction) (spec : TaskSpec) :
    (derivedRequirement policy draft ty f spec).hard.requiredCapabilities =
      presentEntries draft.requiredCapabilities := by
  cases policy <;> rfl

/-- **Derivation.** It succeeds when the capabilities have the declared shapes and the policy admits
    what the draft demands. -/
theorem deriveTaskAgentRequirement_ok
    (hload : s.catalog.loadCapabilityCatalog W.toDocFormat = .ok s.catalog.capabilities)
    {policy : Option GenerationPolicy} (hpolicy : s.getGenerationPolicy W g = .ok policy) :
    s.deriveTaskAgentRequirement W g draft f spec ty = .ok r ↔
      ShapedBy s.catalog.capabilities draft.requiredCapabilities ∧
        (∀ p, policy = some p → p.Admits (draftHard draft f spec)) ∧
        r = derivedRequirement policy draft ty f spec := by
  have hfirst : ∀ {r : TaskAgentRequirement}, (draft.intoRequirement ty f
      (.ofList spec.affinityTags) spec.workspaceMode (hardContinuity spec.continuity)).normalize
        s.catalog.capabilities = .ok r ↔
      ShapedBy s.catalog.capabilities draft.requiredCapabilities ∧
        (⟨ty, draftHard draft f spec⟩ : TaskAgentRequirement) = r := normalize_ok
  have hsecond : ∀ {hard : TaskRequirement} {r : TaskAgentRequirement},
      ShapedBy s.catalog.capabilities draft.requiredCapabilities →
      hard.requiredCapabilities = presentEntries draft.requiredCapabilities →
      ((⟨ty, hard⟩ : TaskAgentRequirement).normalize s.catalog.capabilities = .ok r ↔
        r = ⟨ty, hard⟩) := by
    intro hard r hshaped hcaps
    rw [normalize_ok]
    simp only [hcaps, presentEntries_idem, hshaped.present, true_and]
    rw [← hcaps]
    exact eq_comm
  simp only [System.deriveTaskAgentRequirement, hload, ok_bind, hpolicy]
  rw [bind_ok]
  simp only [rejecting_ok, hfirst]
  cases policy with
  | none =>
    constructor
    · rintro ⟨_, ⟨hshaped, rfl⟩, h⟩
      simp only [bind_ok, pure_ok, exists_eq_left', rejecting_ok] at h
      exact ⟨hshaped, by simp, (hsecond hshaped rfl).mp h⟩
    · rintro ⟨hshaped, -, rfl⟩
      refine ⟨_, ⟨hshaped, rfl⟩, ?_⟩
      simp only [bind_ok, pure_ok, exists_eq_left', rejecting_ok]
      exact (hsecond hshaped rfl).mpr rfl
  | some p =>
    constructor
    · rintro ⟨_, ⟨hshaped, rfl⟩, h⟩
      simp only [bind_ok, pure_ok, rejecting_ok, foldGenerationPolicy_ok] at h
      obtain ⟨_, ⟨hadmits, rfl⟩, _, rfl, h⟩ := h
      refine ⟨hshaped, ?_, (hsecond hshaped rfl).mp h⟩
      rintro _ ⟨⟩
      exact hadmits
    · rintro ⟨hshaped, hadmits, rfl⟩
      refine ⟨_, ⟨hshaped, rfl⟩, ?_⟩
      simp only [bind_ok, pure_ok, rejecting_ok, foldGenerationPolicy_ok]
      exact ⟨_, ⟨hadmits p rfl, rfl⟩, _, rfl, (hsecond hshaped rfl).mpr rfl⟩

/-- A derivation reads the catalog and the policy. -/
theorem deriveTaskAgentRequirement_reads
    (h : s.deriveTaskAgentRequirement W g draft f spec ty = .ok r) :
    s.catalog.loadCapabilityCatalog W.toDocFormat = .ok s.catalog.capabilities ∧
      ∃ policy, s.getGenerationPolicy W g = .ok policy := by
  simp only [System.deriveTaskAgentRequirement, bind_ok] at h
  obtain ⟨_, hload, _, -, policy, hpolicy, -⟩ := h
  obtain rfl := ((Catalog.loadCapabilityCatalog_ok ..).mp hload).2
  exact ⟨hload, policy, hpolicy⟩

/-- **The fixed point.** What is derived under a policy is folded to itself. -/
theorem derived_fixed {p : GenerationPolicy} (h : p.Admits (draftHard draft f spec))
    (ty : Agent.AgentTypeRef) :
    foldGenerationPolicy p (derivedRequirement (some p) draft ty f spec).hard =
      .ok (derivedRequirement (some p) draft ty f spec).hard :=
  foldGenerationPolicy_idem (foldGenerationPolicy_ok.mpr ⟨h, rfl⟩)

/-- Canonicalizing a derived requirement changes nothing. -/
theorem derived_canonical {policy : Option GenerationPolicy} {catalog : CapabilityCatalog}
    (h : ShapedBy catalog draft.requiredCapabilities) :
    canonicalizeTaskAgentRequirement (derivedRequirement policy draft ty f spec) catalog =
      .ok (derivedRequirement policy draft ty f spec) := by
  refine normalize_ok.mpr ⟨by rw [derived_normal]; exact h.present, ?_⟩
  rw [derived_normal, presentEntries_idem]
  cases policy <;> rfl

end Derivation

/-! ## Policies -/

section Policies

variable {T D : Type} {W : Wire T D} {s s' : System T D} {policy : Option GenerationPolicy}

/-- **The invariant of the policies**: the catalog is sound, the marker of a generation says whether
    it has a policy, and policies are stored in canonical form. -/
structure System.Policed (W : Wire T D) (s : System T D) : Prop where
  catalog : s.catalog.Sound W.toDocFormat
  marked : ∀ g row, s.generations.lookup g = some row →
    row.hasPolicy = (s.policies.lookup g).isSome
  owned : ∀ g doc, s.policies.lookup g = some doc → ∃ row, s.generations.lookup g = some row
  canonical : ∀ g doc, s.policies.lookup g = some doc →
    ∃ policy, doc = policyDoc W policy ∧ ∀ catalog, canonicalizeGenerationPolicy policy catalog =
      .ok policy

theorem System.policed_empty : (System.empty : System T D).Policed W where
  catalog := Catalog.sound_empty
  marked _ _ h := by cases h
  owned _ _ h := by cases h
  canonical _ _ h := by cases h

/-- The policy that is stored of a generation, if any. -/
def System.StoresPolicy (W : Wire T D) (s : System T D) (g : GenerationId)
    (policy : Option GenerationPolicy) : Prop :=
  s.policies.lookup g = policy.map (policyDoc W)

theorem policyDoc_injective : Function.Injective (policyDoc W) := fun _ _ h =>
  generationPolicyDocument_injective (W.print_injective (congrArg Doc.json h))

theorem System.StoresPolicy.unique {policy' : Option GenerationPolicy}
    (h : s.StoresPolicy W g policy) (h' : s.StoresPolicy W g policy') : policy = policy' :=
  Option.map_injective policyDoc_injective (h.symm.trans h')

variable [DecidableEq T] [DecidableEq D]

theorem Change.catalog_grows (h : Change W s s') (hs : s.catalog.Sound W.toDocFormat) :
    s.catalog.Grows s'.catalog ∧ s'.catalog.Sound W.toDocFormat := by
  cases h with
  | catalog hexec => exact Catalog.exec_sound hs hexec
  | _ => exact ⟨.refl _, hs⟩

/-- A policy comes with its generation, and stays. -/
theorem Change.policies_same (h : Change W s s') {row : GenerationRow T}
    (hrow : s.generations.lookup g = some row) : s'.policies.lookup g = s.policies.lookup g := by
  cases h with
  | @createWithPolicy g₁ _ _ _ _ hfresh _ _ _ =>
    have hne : g ≠ g₁ := by
      rintro rfl
      cases hfresh.symm.trans hrow
    rw [SortedMap.lookup_insert, if_neg hne]
  | _ => rfl

theorem System.Policed.change (hs : s.Policed W) (h : Change W s s') : s'.Policed W where
  catalog := (h.catalog_grows hs.catalog).2
  marked g row' hrow' := by
    rcases h.generation_cases hrow' with ⟨hnone, _, _, rfl, hpolicy⟩ | ⟨row, hrow, hmoves⟩
    · apply hpolicy
      cases hdoc : s.policies.lookup g with
      | none => rfl
      | some doc =>
        obtain ⟨row, hrow⟩ := hs.owned g doc hdoc
        cases hnone.symm.trans hrow
    · rw [hmoves.policy, hs.marked g row hrow, h.policies_same hrow]
  owned g doc hdoc := by
    have hkept : s.policies.lookup g = some doc →
        ∃ row, s'.generations.lookup g = some row := by
      intro hdoc
      obtain ⟨row, hrow⟩ := hs.owned g doc hdoc
      obtain ⟨row', hrow', -⟩ := h.generation_kept hrow
      exact ⟨row', hrow'⟩
    cases h with
    | createWithPolicy =>
      rcases SortedMap.lookup_insert_cases hdoc with ⟨rfl, -⟩ | ⟨-, hdoc⟩
      · simp
      · exact hkept hdoc
    | _ => exact hkept hdoc
  canonical g doc hdoc := by
    cases h with
    | @createWithPolicy g₁ seed catalog policy canonical hfresh hcatalog hcanonical hnone =>
      rcases SortedMap.lookup_insert_cases hdoc with ⟨-, rfl⟩ | ⟨-, hdoc⟩
      · exact ⟨canonical, rfl, fun _ => canonicalizeGenerationPolicy_stable hcanonical⟩
      · exact hs.canonical g doc hdoc
    | _ => exact hs.canonical g doc hdoc

/-- **What is read is what is stored**: a read prints the policy again and compares the texts. -/
theorem getGenerationPolicy_stored (h : s.getGenerationPolicy W g = .ok policy) :
    s.StoresPolicy W g policy := by
  simp only [System.getGenerationPolicy, bind_ok] at h
  obtain ⟨row, -, h⟩ := h
  split at h
  · cases h
    assumption
  · cases h
  · cases h
  · rename_i doc _ hdoc
    simp only [map_ok, System.readGenerationPolicy, bind_ok, ensure_ok, decide_eq_true_eq,
      pure_ok] at h
    obtain ⟨p, ⟨_, hdigest, _, -, _, -, _, -, _, hjson, rfl⟩, rfl⟩ := h
    refine hdoc.trans (congrArg some ?_)
    rw [policyDoc, hjson, hdigest]

/-- **Policies are read in every state**: none, or the one that is stored if its text and those of
    the capabilities can be read. -/
theorem System.Policed.read (hs : s.Policed W) {row : GenerationRow T}
    (hrow : s.generations.lookup g = some row) :
    ∃ policy, s.StoresPolicy W g policy ∧ row.hasPolicy = policy.isSome ∧
      (policy = none ∨ s.catalog.Legible W.toDocFormat ∧
          (∀ doc, s.policies.lookup g = some doc → W.Legible doc.json) →
        s.getGenerationPolicy W g = .ok policy) := by
  have hmarked := hs.marked g row hrow
  cases hdoc : s.policies.lookup g with
  | none =>
    rw [hdoc, Option.isSome_none] at hmarked
    refine ⟨none, hdoc, hmarked, fun _ => ?_⟩
    simp [System.getGenerationPolicy, hrow, hmarked, hdoc]
  | some doc =>
    rw [hdoc, Option.isSome_some] at hmarked
    obtain ⟨policy, rfl, hcanonical⟩ := hs.canonical g doc hdoc
    refine ⟨some policy, hdoc, hmarked, ?_⟩
    rintro (hnone | ⟨hcatalog, hlegible⟩)
    · cases hnone
    have hread := generationPolicyFromCanonicalJson_canonical (hlegible _ rfl)
    simp [System.getGenerationPolicy, hrow, hmarked, hdoc, System.readGenerationPolicy, policyDoc,
      hread, Agent.liftContract, Catalog.loadCapabilityCatalog_legible hs.catalog hcatalog,
      hcanonical]

end Policies

/-! ## Requirements -/

section Demands

variable {T D : Type} {W : Wire T D} {s s' : System T D}

/-- A requirement is a fixed point of the policy and has the folded continuity. -/
def Folded (policy : Option GenerationPolicy) (base : ContinuityMode) (hard : TaskRequirement) :
    Prop :=
  match policy with
  | some policy => foldGenerationPolicy policy hard = .ok hard ∧
      max policy.minContinuity base = hard.requiredContinuity
  | none => base = hard.requiredContinuity

/-- **What is stored of a typed task**, with everything a read will check. -/
structure Demands (W : Wire T D) (s : System T D) (t : TaskId) (b : BindingRow T) (task : TaskRow)
    (r : TaskAgentRequirement) : Prop where
  pinned : s.kernel.taskAgentRequirements.lookup t = some (kernelRef r.requiredType)
  stored : s.requirements.lookup t = some (requirementDoc W r)
  canonical : canonicalizeTaskAgentRequirement r s.catalog.capabilities = .ok r
  held : ∃ a, a.typeRef = r.requiredType ∧ Catalog.HoldsAgentType W.toDocFormat s.catalog a
  affinity : SortedSet.ofList task.affinityTags = r.hard.requiredAffinity
  workspace : task.workspaceMode = r.hard.requiredWorkspace
  function : b.informationFunction = r.hard.informationFunction
  folded : ∃ policy, s.StoresPolicy W b.generationId policy ∧
    Folded policy (hardContinuity task.continuity) r.hard

/-- The parser reads back, as they were printed, the texts that a read of the requirement looks at:
    those of the catalog, of the policy of the task's generation and of the requirement itself. -/
structure System.Legible (W : Wire T D) (s : System T D) (t : TaskId) : Prop where
  catalog : s.catalog.Legible W.toDocFormat
  policy : ∀ b, s.bindings.lookup t = some b →
    ∀ doc, s.policies.lookup b.generationId = some doc → W.Legible doc.json
  requirement : ∀ doc, s.requirements.lookup t = some doc → W.Legible doc.json

/-- **The invariant of the requirements**: of every typed task that is bound, a requirement is
    stored. -/
structure System.Typed (W : Wire T D) (s : System T D) : Prop extends
    s.Regular, s.Policed W where
  demands : ∀ t b task, s.bindings.lookup t = some b → s.kernel.tasks.lookup t = some task →
    task.agentRequirementMode = .typed → ∃ r, Demands W s t b task r

theorem System.typed_empty : (System.empty : System T D).Typed W where
  toRegular := System.regular_empty
  toPoliced := System.policed_empty
  demands _ _ _ h := by cases h

variable [DecidableEq T] [DecidableEq D]

/-- **The read succeeds** on texts that can be read. -/
theorem getTaskAgentRequirement_demands (hs : s.Policed W) {b : BindingRow T}
    {row : GenerationRow T} (hb : s.bindings.lookup t = some b)
    (hrow : s.generations.lookup b.generationId = some row)
    (htask : s.kernel.tasks.lookup t = some task) (hmode : task.agentRequirementMode = .typed)
    (h : Demands W s t b task r) (hl : s.Legible W t) :
    s.getTaskAgentRequirement W t = .ok (some r) := by
  have hmirrors : s.verifyRequirementMirrors W t r = .ok () := by
    obtain ⟨policy, hstored, hfolded⟩ := h.folded
    obtain ⟨policy', hstored', -, hread⟩ := hs.read hrow
    cases hstored.unique hstored'
    simp only [System.verifyRequirementMirrors, htask, present_some, ok_bind, hb, h.affinity,
      h.workspace, h.function, decide_true, ensure_true, hread (.inr ⟨hl.catalog, hl.policy b hb⟩)]
    cases policy with
    | none => simp [show _ = _ from hfolded]
    | some policy =>
      obtain ⟨hfixed, hcontinuity⟩ := hfolded
      simp [hcontinuity, hfixed, TaskRequirement.same_refl]
  obtain ⟨a, hty, hheld⟩ := h.held
  obtain ⟨status, hget⟩ := Catalog.getAgentType_holds hs.catalog hl.catalog hheld
  have hread : s.readTaskAgentRequirement W t (kernelRef r.requiredType) (requirementDoc W r) =
      .ok r := by
    rw [hty] at hget
    simp [System.readTaskAgentRequirement, requirementDoc,
      taskAgentRequirementFromCanonicalJson_canonical (hl.requirement _ h.stored),
      Agent.liftContract, hget, Catalog.loadCapabilityCatalog_legible hs.catalog hl.catalog,
      h.canonical, hmirrors]
  have hfound : s.requirementRow t = some (kernelRef r.requiredType, requirementDoc W r) := by
    simp [System.requirementRow, h.pinned, h.stored]
  simp [System.getTaskAgentRequirement, System.taskAgentRequirementMode, htask, hmode, hfound, hread]

/-- Only an admission pins a task. -/
theorem pins_not_mem_footprint {op : Op} (h : isAdmission op = false) :
    TableName.taskAgentRequirements ∉ op.footprint := by
  cases op with
  | admitProposal => cases h
  | _ => simp [Op.footprint, settlementTables, suspensionTables, resolutionTables]

/-- Pins of the kernel stay. -/
theorem Change.pins_kept (h : Change W s s') {ref : AgentTypeRef}
    (ht : s.kernel.taskAgentRequirements.lookup t = some ref) :
    s'.kernel.taskAgentRequirements.lookup t = some ref := by
  cases h with
  | @kernel env op k hop hrun =>
    have hsame : k.taskAgentRequirements = s.kernel.taskAgentRequirements :=
      frame_of_not_mem hrun .taskAgentRequirements (pins_not_mem_footprint hop)
    rw [hsame]
    exact ht
  | @admission _ _ _ _ _ _ _ _ t₁ kernel _ pinned hadmission =>
    have hnew := hadmission.newTask
    show kernel.taskAgentRequirements.lookup t = some ref
    rw [hnew.pinned t]
    split_ifs with heq
    · subst heq
      cases hpin : pinned.map fun r => kernelRef r.requiredType with
      | none => simpa using ht
      | some r =>
        rw [hnew.unpinned (by simp [hpin])] at ht
        cases ht
    · exact ht
  | _ => exact ht

/-- Stored requirements stay with their bindings. -/
theorem Change.requirements_kept (h : Change W s s') {b : BindingRow T}
    (hb : s.bindings.lookup t = some b) {doc : Doc T D}
    (hdoc : s.requirements.lookup t = some doc) : s'.requirements.lookup t = some doc := by
  cases h with
  | @admission _ _ _ _ _ _ _ _ t₁ _ _ pinned hadmission =>
    cases pinned with
    | none => exact hdoc
    | some r =>
      refine (SortedMap.lookup_insert ..).trans ((if_neg ?_).trans hdoc)
      rintro rfl
      cases hadmission.unbound.symm.trans hb
  | _ => exact hdoc

/-- What is stored of a typed task stays, and stays checked. -/
theorem Demands.change {b : BindingRow T} {task' : TaskRow} {row : GenerationRow T}
    (hd : Demands W s t b task r) (hs : s.Policed W) (h : Change W s s')
    (hb : s.bindings.lookup t = some b) (hrow : s.generations.lookup b.generationId = some row)
    (hfixed : task'.fixed = task.fixed) : Demands W s' t b task' r := by
  obtain ⟨hgrows, -⟩ := h.catalog_grows hs.catalog
  have hcontinuity : task'.continuity = task.continuity := (congrArg TaskRow.continuity hfixed :)
  obtain ⟨a, hty, hheld⟩ := hd.held
  obtain ⟨policy, hstored, hfolded⟩ := hd.folded
  exact
    { pinned := h.pins_kept hd.pinned
      stored := h.requirements_kept hb hd.stored
      canonical :=
        canonicalizeTaskAgentRequirement_stable hd.canonical (Catalog.capabilities_grows hgrows)
      held := ⟨a, hty, hheld.grows hgrows⟩
      affinity := (congrArg (SortedSet.ofList ∘ TaskRow.affinityTags) hfixed :).trans hd.affinity
      workspace := (congrArg TaskRow.workspaceMode hfixed :).trans hd.workspace
      function := hd.function
      folded := ⟨policy, (h.policies_same hrow).trans hstored, hcontinuity ▸ hfolded⟩ }

theorem existingType_ok {ref : Agent.AgentTypeRef} :
    s.existingType W ref = .ok ty ↔
      ref = ty ∧ ∃ x, s.catalog.getAgentType W.toDocFormat ref = .ok (some x) := by
  simp only [System.existingType, bind_ok, present_ok, pure_ok]
  constructor
  · rintro ⟨_, hget, x, rfl, rfl⟩
    exact ⟨rfl, x, hget⟩
  · rintro ⟨rfl, x, hget⟩
    exact ⟨_, hget, _, rfl, rfl⟩

/-- What a selector resolves to is in the catalog. -/
theorem resolveDraftSelector_held (hc : s.catalog.Sound W.toDocFormat)
    {committed : Option Agent.AgentTypeRef}
    (h : s.resolveDraftSelector W selector committed = .ok ty) :
    ∃ a, a.typeRef = ty ∧ Catalog.HoldsAgentType W.toDocFormat s.catalog a := by
  obtain ⟨x, hget⟩ : ∃ x, s.catalog.getAgentType W.toDocFormat ty = .ok (some x) := by
    unfold System.resolveDraftSelector at h
    split at h
    · obtain ⟨rfl, hget⟩ := existingType_ok.mp h
      exact hget
    · simp only [bind_ok] at h
      obtain ⟨_, -, _, -, h⟩ := h
      obtain ⟨rfl, hget⟩ := existingType_ok.mp h
      exact hget
  obtain ⟨⟨hty, hheld, -⟩, -⟩ := (Catalog.getAgentType_ok hc).mp hget
  exact ⟨x.1, hty, hheld⟩

/-- What a selector resolves to answers it on replay. -/
theorem resolveSelector_answers {catalog : InMemorySelectorCatalog}
    (h : resolveSelector selector catalog = .ok ty) : replayPin selector (some ty) = some ty := by
  unfold resolveSelector at h
  cases selector with
  | exact reference =>
    dsimp only at h
    split_ifs at h
    cases h
    simp [replayPin]
  | latest typeId =>
    dsimp only at h
    split_ifs at h
    split at h
    · unfold RevisionRef.new at h
      split_ifs at h
      cases h
      simp [replayPin]
    · cases h

/-- What a first resolution gives answers its selector. -/
theorem resolveDraftSelector_pin
    (h : s.resolveDraftSelector W selector none = .ok ty) :
    replayPin selector (some ty) = some ty := by
  have hnone : replayPin selector none = none := by cases selector <;> rfl
  simp only [System.resolveDraftSelector, hnone, bind_ok, rejecting_ok] at h
  obtain ⟨_, -, resolved, hresolved, h⟩ := h
  obtain ⟨rfl, -⟩ := existingType_ok.mp h
  exact resolveSelector_answers hresolved

/-- The requirement of a typed admission. -/
theorem admittedRequirement_ok (hs : s.Policed W) {p : ProposalRow T}
    (h : s.admittedRequirement W p spec draft = .ok r) :
    ∃ policy, s.StoresPolicy W p.generationId policy ∧
      replayPin draft.requiredType (some r.requiredType) = some r.requiredType ∧
      (∃ a, a.typeRef = r.requiredType ∧ Catalog.HoldsAgentType W.toDocFormat s.catalog a) ∧
      ShapedBy s.catalog.capabilities draft.requiredCapabilities ∧
      (∀ p', policy = some p' → p'.Admits (draftHard draft p.informationFunction spec)) ∧
      r = derivedRequirement policy draft r.requiredType p.informationFunction spec := by
  simp only [System.admittedRequirement, System.buildTaskAgentRequirement, bind_ok, pure_ok,
    rejecting_ok] at h
  obtain ⟨_, -, _, ⟨ty, hty, _, hderive, _, -, rfl⟩, _, hload, hr⟩ := h
  obtain ⟨hload', policy, hpolicy⟩ := deriveTaskAgentRequirement_reads hderive
  cases hload'.symm.trans hload
  obtain ⟨hshaped, hadmits, rfl⟩ := (deriveTaskAgentRequirement_ok hload hpolicy).mp hderive
  cases (derived_canonical hshaped).symm.trans hr
  exact ⟨policy, getGenerationPolicy_stored hpolicy, resolveDraftSelector_pin hty,
    resolveDraftSelector_held hs.catalog hty, hshaped, hadmits, rfl⟩

/-- **A typed admission stores what later reads will check.** -/
theorem Admission.demands (hs : s.Policed W) {env : Env} {id : ProposalId} {p : ProposalRow T}
    {revision : Nat} {overrideSpec : Option TaskSpec} {draft : Option AgentRequirementDraft}
    {generation : GenerationRow T} {kernel : Store} {json : Value}
    (h : Admission W env s id p revision overrideSpec draft generation spec t kernel json (some r))
    {b : BindingRow T}
    (hb : (s.recordAdmission W kernel id p generation t (W.print json) (some r)).bindings.lookup t =
      some b) (htask : kernel.tasks.lookup t = some task) :
    Demands W (s.recordAdmission W kernel id p generation t (W.print json) (some r)) t b task r := by
  obtain ⟨-, hnone⟩ | ⟨d, _, rfl, hsome, hr⟩ := h.pinned
  · cases hnone
  cases hsome
  have hchange := Change.admission h
  obtain ⟨policy, hpolicy, -, hheld, hshaped, hadmits, hderived⟩ :=
    admittedRequirement_ok hs hr
  obtain ⟨batch, hrow⟩ := h.newTask.row
  cases hrow.symm.trans htask
  simp only [System.recordAdmission, SortedMap.lookup_insert, if_true, Option.some.injEq] at hb
  subst hb
  have hpin := h.newTask.pinned t
  rw [if_pos rfl] at hpin
  refine ⟨hpin, by simp [System.recordAdmission], ?_, hheld, ?_, ?_, ?_, ?_⟩
  · rw [hderived]
    exact derived_canonical hshaped
  iterate 3
    rw [hderived]
    cases policy <;> rfl
  · refine ⟨policy, (hchange.policies_same h.generation_row).trans hpolicy, ?_⟩
    rw [hderived]
    cases policy with
    | none => rfl
    | some p' => exact ⟨derived_fixed (hadmits p' rfl) _, rfl⟩

theorem System.Typed.change (hs : s.Typed W) (h : Change W s s') : s'.Typed W where
  toRegular := hs.toRegular.change h
  toPoliced := hs.toPoliced.change h
  demands t b task' hb htask' hmode := by
    have hkept : s.bindings.lookup t = some b → ∃ r, Demands W s' t b task' r := by
      intro hb
      obtain ⟨row, hrow⟩ := hs.toRegular.generation_of_binding hb
      obtain ⟨task, htask, -⟩ := hs.suited t b row hb hrow
      obtain ⟨task₁, htask₁, hfixed⟩ := h.tasks_kept t task htask
      cases htask'.symm.trans htask₁
      have hsame : task'.agentRequirementMode = task.agentRequirementMode :=
        (congrArg TaskRow.agentRequirementMode hfixed :)
      obtain ⟨r, hr⟩ := hs.demands t b task hb htask (hsame ▸ hmode)
      exact ⟨r, hr.change hs.toPoliced h hb hrow hfixed⟩
    cases h with
    | @admission env id p revision overrideSpec draft row spec t₁ kernel json pinned hadmission =>
      by_cases heq : t = t₁
      · subst heq
        obtain ⟨batch, hrow⟩ := hadmission.newTask.row
        cases hrow.symm.trans htask'
        cases pinned with
        | none => simp [TaskSpec.row] at hmode
        | some r => exact ⟨r, hadmission.demands hs.toPoliced hb htask'⟩
      · refine hkept ?_
        simpa only [System.recordAdmission, SortedMap.lookup_insert, if_neg heq] using hb
    | _ => exact hkept hb

theorem run_typed (hs : s.Typed W) (calls : List (Env × FrontierOp)) : (s.run W calls).Typed W :=
  run_change (P := fun s => s.Typed W) (fun _ _ hs h => hs.change h) calls hs

/-- The task of a typed admission is bound and typed. -/
theorem admitTypedProposal_bound (hs : s.Typed W) {env : Env} {id : ProposalId} {revision : Nat}
    {overrideSpec : Option TaskSpec}
    (h : s.admitTypedProposal W env id revision overrideSpec draft = .ok (t, s')) :
    s'.Typed W ∧ ∃ b task, s'.bindings.lookup t = some b ∧ s'.kernel.tasks.lookup t = some task ∧
      task.agentRequirementMode = .typed := by
  refine ⟨hs.change (admitProposalCore_change h), ?_⟩
  obtain ⟨p, hp, ⟨hstate, htask, hreplay, rfl⟩ | ⟨row, spec, kernel, json, pinned, hadmission, rfl⟩⟩ :=
    admitProposalCore_ok h
  · -- a replay finds the binding of its proposal, and asks for a typed task
    obtain ⟨t', b, hb, rfl⟩ := hs.bound id p hp hstate
    obtain ⟨p', hp', -, htask', -⟩ := hs.named t' b hb
    cases hp.symm.trans hp'
    cases htask.symm.trans htask'
    simp only [System.replayAdmission, bind_ok] at hreplay
    obtain ⟨mode, hmode, _, hshape, -⟩ := hreplay
    simp only [System.taskAgentRequirementMode, bind_ok, present_ok, pure_ok] at hmode
    obtain ⟨task, htask, rfl⟩ := hmode
    refine ⟨b, task, hb, htask, ?_⟩
    cases hm : task.agentRequirementMode with
    | typed => rfl
    | legacy => simp [hm, replayShape] at hshape
  · obtain ⟨batch, htask⟩ := hadmission.newTask.row
    have hsome : pinned.isSome = true := by
      rcases hadmission.pinned with ⟨hnone, -⟩ | ⟨_, _, -, rfl, -⟩
      · cases hnone
      · rfl
    refine ⟨_, _, (SortedMap.lookup_insert _ _ _ _).trans (if_pos rfl), htask, ?_⟩
    simp [TaskSpec.row, hsome]

/-- A bound typed task stays bound and typed. -/
theorem run_bound (hs : s.Typed W)
    (h : ∃ b task, s.bindings.lookup t = some b ∧ s.kernel.tasks.lookup t = some task ∧
      task.agentRequirementMode = .typed) (calls : List (Env × FrontierOp)) :
    (s.run W calls).Typed W ∧ ∃ b task, (s.run W calls).bindings.lookup t = some b ∧
      (s.run W calls).kernel.tasks.lookup t = some task ∧ task.agentRequirementMode = .typed := by
  refine run_change (P := fun s => s.Typed W ∧ ∃ b task, s.bindings.lookup t = some b ∧
    s.kernel.tasks.lookup t = some task ∧ task.agentRequirementMode = .typed) ?_ calls ⟨hs, h⟩
  rintro s s' ⟨hs, b, task, hb, htask, hmode⟩ h
  obtain ⟨task', htask', hfixed⟩ := h.tasks_kept t task htask
  exact ⟨hs.change h, b, task', h.bindings_kept hb, htask',
    (congrArg TaskRow.agentRequirementMode hfixed :).trans hmode⟩

/-- **Folding, and what it is for.** A fold stays within the ceilings and meets the floors of the
    policy, only tightens, is idempotent and commutes with other folds, and fails exactly on what
    exceeds a ceiling. The requirement of a typed task is therefore read back in every later state in
    which the texts it rests on can be read. -/
theorem policy_fold_sound (W : Wire T D) :
    (∀ p t f, foldGenerationPolicy p t = .ok f →
      p.Bounds f ∧ Tightens t f ∧ foldGenerationPolicy p f = .ok f) ∧
    (∀ p q t f, (foldGenerationPolicy p t >>= foldGenerationPolicy q) = .ok f ↔
      (foldGenerationPolicy q t >>= foldGenerationPolicy p) = .ok f) ∧
    (∀ p t, (∃ f, foldGenerationPolicy p t = .ok f) ↔ p.Admits t) ∧
    (∀ calls env id revision overrideSpec draft t s₁ more,
      (System.empty.run W calls).admitTypedProposal W env id revision overrideSpec draft =
        .ok (t, s₁) →
      (s₁.run W more).Legible W t →
      ∃ r, (s₁.run W more).getTaskAgentRequirement W t = .ok (some r)) := by
  refine ⟨fun p t f h => ?_, foldGenerationPolicy_comm, fun p t => ?_, ?_⟩
  · obtain ⟨hadmits, rfl⟩ := foldGenerationPolicy_ok.mp h
    exact ⟨hadmits.bounds, hadmits.tightens, foldGenerationPolicy_idem h⟩
  · simp [foldGenerationPolicy_ok]
  · intro calls env id revision overrideSpec draft t s₁ more h hlegible
    have hs : (System.empty.run W calls).Typed W := run_typed System.typed_empty calls
    obtain ⟨hs₁, hbound⟩ := admitTypedProposal_bound hs h
    obtain ⟨hs₂, b, task, hb, htask, hmode⟩ := run_bound hs₁ hbound more
    obtain ⟨row, hrow⟩ := hs₂.toRegular.generation_of_binding hb
    obtain ⟨r, hr⟩ := hs₂.demands t b task hb htask hmode
    exact ⟨r, getTaskAgentRequirement_demands hs₂.toPoliced hb hrow htask hmode hr hlegible⟩

end Demands

/-! ## A small typed run -/

/-- A policy that asks for isolation. -/
def isolating : GenerationPolicy where
  allowedInformationFunctions := [.expand]
  maxWorkspace := .write
  maxNetwork := .enabled
  requiresAttemptIsolation := true
  minContinuity := .none
  sandboxPolicy := none
  budgetCeiling := 5
  allowedAffinity := none
  anchorConstraint := none

/-- A draft for the generalist. -/
def plainDraft (selector : AgentTypeSelector) : AgentRequirementDraft where
  requiredType := selector
  requiredCapabilities := .empty
  requiredNetwork := .disabled
  requiredAttemptIsolation := false
  sandboxPolicy := none
  requiredAnchor := none
  budget := 7

/-- An agent type is published, and a generation with a policy has a proposal. -/
def typedProposedUnder (policy : GenerationPolicy) (agentType : AgentType) :
    List (Env × FrontierOp) :=
  [(Deployment.moment 1 "p", .kernel (.upsertPartition Deployment.general)),
   (Deployment.moment 2 "c", .catalog (.publish (.agentType agentType))),
   (Deployment.moment 3 "g", .createGeneration (.object []) (some policy)),
   (Deployment.moment 4 "q", .compileRootIntent "gen_g"
     { editing with informationFunction := .expand } "root" 1)]

def typedProposed : List (Env × FrontierOp) := typedProposedUnder isolating generalist

theorem System.verbatim_legible (s : System Value Value) (t : TaskId) : s.Legible .verbatim t where
  catalog := Catalog.verbatim_legible _
  policy _ _ _ _ := DocFormat.verbatim_legible _
  requirement _ _ := DocFormat.verbatim_legible _

/-- The requirement of a typed task after its type is deprecated. -/
theorem policy_fold_sound_deprecated :
    ∃ t s₁ r, (System.empty.run Wire.verbatim typedProposed).admitTypedProposal Wire.verbatim
        (Deployment.moment 5 "a") "prop_q" 0 none (plainDraft (.latest "generalist")) =
        .ok (t, s₁) ∧
      (s₁.run Wire.verbatim [(Deployment.moment 6 "d",
        .catalog (.setAgentTypeStatus generalist.typeRef .deprecated))]).getTaskAgentRequirement
          Wire.verbatim t = .ok (some r) := by
  have hok : isOk ((System.empty.run Wire.verbatim typedProposed).admitTypedProposal Wire.verbatim
      (Deployment.moment 5 "a") "prop_q" 0 none (plainDraft (.latest "generalist"))) = true := by
    decide +kernel
  obtain ⟨⟨t, s₁⟩, h⟩ := isOk_iff.mp hok
  obtain ⟨r, hr⟩ := (policy_fold_sound Wire.verbatim).2.2.2 _ _ _ _ _ _ t s₁ _ h (System.verbatim_legible _ t)
  exact ⟨t, s₁, r, h, hr⟩

/-- A wire like `Wire.verbatim`, except that one number is read as another. -/
def Wire.inexact (d d' : Double) : Wire Value Value :=
  { Wire.verbatim with toDocFormat := .inexact d d' }

/-- A requirement whose budget is printed as `20.715066917816838`, which the parser reads one unit in
    the last place higher, as the digits rounded to an integer and then scaled. It is stored, and every
    read of it reports corruption. -/
theorem requirement_misread :
    let budget : Budget := 5830772978252175 / 2 ^ 48
    let W := Wire.inexact (.of budget) (.of (364423311140761 / 2 ^ 44))
    ∃ t s₁, (System.empty.run W (typedProposedUnder { isolating with budgetCeiling := 30 }
        { generalist with contract := { generalist.contract with budgetCeiling := 30 } })
          ).admitTypedProposal W (Deployment.moment 5 "a") "prop_q" 0 none
            { plainDraft (.latest "generalist") with budget := budget } = .ok (t, s₁) ∧
      s₁.getTaskAgentRequirement W t = .error (invariant
        "task agent requirement is not the canonical encoding; refusing to read") := by
  intro budget W
  have hread : (fun x => x.2.getTaskAgentRequirement W x.1) <$>
      (System.empty.run W (typedProposedUnder { isolating with budgetCeiling := 30 }
        { generalist with contract := { generalist.contract with budgetCeiling := 30 } })
          ).admitTypedProposal W (Deployment.moment 5 "a") "prop_q" 0 none
            { plainDraft (.latest "generalist") with budget := budget } = .ok (.error (invariant
        "task agent requirement is not the canonical encoding; refusing to read")) := by
    decide +kernel
  obtain ⟨⟨t, s₁⟩, h⟩ := map_ok.mp hread
  exact ⟨t, s₁, h⟩

end Agentype.Frontier

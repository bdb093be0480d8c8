import Agentype.Agent.Refinement

/-!
# `Agentype.Agent.Requirement` — task requirements and generation policies

A typed task carries an exact agent type and a hard requirement. A generation may carry a policy, a
ceiling on what its tasks may use; admitting a task folds the policy into its requirement. The fold
is the meet of the two, so it is sound, idempotent and commutes with other folds.

## Contents
- `AgentTypeSelector`, `resolveSelector`, `AgentRequirementDraft`, `TaskAgentRequirement`.
- `GenerationPolicy`, `foldGenerationPolicy`.
- `Admits`, `Meets`, `foldGenerationPolicy_ok`, `foldGenerationPolicy_meets`,
  `foldGenerationPolicy_idem`, `foldGenerationPolicy_comm`.
-/

namespace Agentype.Agent

open Check

variable {p : GenerationPolicy} {t : TaskRequirement} {α : Type} {a b : Option α}

/-! ## Selectors -/

/-- What an admission may name before it commits: an exact revision, or the latest one. -/
inductive AgentTypeSelector where
  | exact (reference : AgentTypeRef)
  | latest (typeId : String)
  deriving DecidableEq

/-- The published and the deprecated revisions. -/
structure InMemorySelectorCatalog where
  published : SortedSet AgentTypeRef
  deprecated : SortedSet AgentTypeRef
  deriving DecidableEq

namespace InMemorySelectorCatalog

def isPublished (c : InMemorySelectorCatalog) (reference : AgentTypeRef) : Bool :=
  decide (reference ∈ c.published)

/-- The greatest published revision of a type. -/
def latestRevision (c : InMemorySelectorCatalog) (typeId : String) : Option U64 :=
  ((c.published.elems.filter fun r => decide (r.id = typeId)).map RevisionRef.revision).max?

end InMemorySelectorCatalog

def resolveSelector (selector : AgentTypeSelector) (catalog : InMemorySelectorCatalog) :
    Except ContractError AgentTypeRef :=
  match selector with
  | .exact reference =>
    if catalog.isPublished reference then .ok reference
    else .error (.agentTypeNotFound reference.id reference.revision)
  | .latest typeId =>
    if isBlank typeId then .error (.invalidRef "selector type id cannot be empty")
    else
      match catalog.latestRevision typeId with
      | some revision => RevisionRef.new typeId revision
      | none => .error (.agentTypeNotFound typeId 0)

/-! ## Requirements -/

/-- A task's durable requirement: an exact type and what the task demands of it. -/
structure TaskAgentRequirement where
  requiredType : AgentTypeRef
  hard : TaskRequirement
  deriving DecidableEq

/-- What the caller of a typed admission supplies; the rest is derived from the task itself. -/
structure AgentRequirementDraft where
  requiredType : AgentTypeSelector
  requiredCapabilities : CapabilityMap
  requiredNetwork : NetworkPolicy
  requiredAttemptIsolation : Bool
  sandboxPolicy : Option SandboxPolicyRef
  requiredAnchor : Option String
  budget : Budget
  deriving DecidableEq

def AgentRequirementDraft.intoRequirement (draft : AgentRequirementDraft)
    (requiredType : AgentTypeRef) (informationFunction : InformationFunction)
    (requiredAffinity : SortedSet String) (requiredWorkspace : WorkspaceMode)
    (requiredContinuity : ContinuityMode) : TaskAgentRequirement where
  requiredType := requiredType
  hard :=
    { informationFunction := informationFunction
      requiredCapabilities := draft.requiredCapabilities
      requiredAffinity := requiredAffinity
      requiredWorkspace := requiredWorkspace
      requiredNetwork := draft.requiredNetwork
      requiredAttemptIsolation := draft.requiredAttemptIsolation
      requiredContinuity := requiredContinuity
      sandboxPolicy := draft.sandboxPolicy
      requiredAnchor := draft.requiredAnchor
      budget := draft.budget }

/-- The entries that denote presence. -/
def presentEntries (m : CapabilityMap) : CapabilityMap := m.filter fun _ v => v.isPresent

namespace TaskAgentRequirement

def validate (r : TaskAgentRequirement) (catalog : CapabilityCatalog) : Except ContractError Unit :=
  checkShapes catalog (fun c => .capabilityMismatch c.id) r.hard.requiredCapabilities

/-- Check the shapes, then drop explicit absences. -/
def normalize (r : TaskAgentRequirement) (catalog : CapabilityCatalog) :
    Except ContractError TaskAgentRequirement := do
  r.validate catalog
  pure
    { r with
      hard :=
        { r.hard with requiredCapabilities := presentEntries r.hard.requiredCapabilities } }

end TaskAgentRequirement

/-! ## Generation policies -/

/-- A ceiling on what the tasks of a generation may use. -/
structure GenerationPolicy where
  allowedInformationFunctions : List InformationFunction
  maxWorkspace : WorkspaceMode
  maxNetwork : NetworkPolicy
  requiresAttemptIsolation : Bool
  minContinuity : ContinuityMode
  sandboxPolicy : Option SandboxPolicyRef
  budgetCeiling : Budget
  allowedAffinity : Option (SortedSet String)
  anchorConstraint : Option String
  deriving DecidableEq

namespace GenerationPolicy

def validate (p : GenerationPolicy) (_catalog : CapabilityCatalog) : Except ContractError Unit :=
  ensure (!p.allowedInformationFunctions.isEmpty) (.generationPolicyConflict
    "a generation policy must allow at least one information function")

def normalize (p : GenerationPolicy) (catalog : CapabilityCatalog) :
    Except ContractError GenerationPolicy := do
  p.validate catalog
  pure
    { p with
      allowedInformationFunctions :=
        sortDedup InformationFunction.asSql p.allowedInformationFunctions }

end GenerationPolicy

def sandboxFold : Option SandboxPolicyRef → Option SandboxPolicyRef →
    Except ContractError (Option SandboxPolicyRef)
  | none, other => .ok other
  | some a, none => .ok (some a)
  | some a, some b =>
    if a = b then .ok (some a)
    else .error (.generationPolicyConflict
      "task sandbox policy is not the generation's exact sandbox policy")

def anchorFold : Option String → Option String → Except ContractError (Option String)
  | none, taskAnchor => .ok taskAnchor
  | some policyAnchor, none => .ok (some policyAnchor)
  | some policyAnchor, some taskAnchor =>
    if policyAnchor = taskAnchor then .ok (some taskAnchor)
    else .error (.generationPolicyConflict
      "task anchor does not satisfy the generation anchor constraint")

def foldGenerationPolicy (policy : GenerationPolicy) (task : TaskRequirement) :
    Except ContractError TaskRequirement := do
  ensure (policy.allowedInformationFunctions.contains task.informationFunction)
    (.generationPolicyConflict
      ("generation does not admit information function " ++ task.informationFunction.asSql))
  ensure (policy.allowedAffinity.all fun allowed => task.requiredAffinity.subset allowed)
    (.generationPolicyConflict "task affinity exceeds the generation affinity ceiling")
  let effectiveAnchor ← anchorFold policy.anchorConstraint task.requiredAnchor
  ensure (workspaceRank task.requiredWorkspace ≤ workspaceRank policy.maxWorkspace)
    (.generationPolicyConflict "task workspace authority exceeds the generation ceiling")
  ensure (networkRank task.requiredNetwork ≤ networkRank policy.maxNetwork)
    (.generationPolicyConflict "task network authority exceeds the generation ceiling")
  let sandbox ← sandboxFold policy.sandboxPolicy task.sandboxPolicy
  pure { task with
    requiredAttemptIsolation := policy.requiresAttemptIsolation || task.requiredAttemptIsolation
    requiredContinuity := max policy.minContinuity task.requiredContinuity
    sandboxPolicy := sandbox
    requiredAnchor := effectiveAnchor
    budget := if policy.budgetCeiling ≤ task.budget then policy.budgetCeiling else task.budget }

/-! ## The fold -/

/-- Two optional pins agree where both are given. -/
def Agree {α : Type} (a b : Option α) : Prop := ∀ x y, a = some x → b = some y → x = y

theorem sandboxFold_ok {a b c : Option SandboxPolicyRef} :
    sandboxFold a b = .ok c ↔ Agree a b ∧ c = a.or b := by
  cases a with
  | none => simp [sandboxFold, Agree, eq_comm]
  | some x =>
    cases b with
    | none => simp [sandboxFold, Agree, eq_comm]
    | some y => by_cases h : x = y <;> simp [sandboxFold, Agree, h, eq_comm]

theorem anchorFold_ok {a b c : Option String} :
    anchorFold a b = .ok c ↔ Agree a b ∧ c = a.or b := by
  cases a with
  | none => simp [anchorFold, Agree, eq_comm]
  | some x =>
    cases b with
    | none => simp [anchorFold, Agree, eq_comm]
    | some y => by_cases h : x = y <;> simp [anchorFold, Agree, h, eq_comm]

/-- The task exceeds no ceiling of the policy; the budget is clamped, not checked. -/
structure GenerationPolicy.Admits (p : GenerationPolicy) (t : TaskRequirement) : Prop where
  function : t.informationFunction ∈ p.allowedInformationFunctions
  affinity : ∀ allowed, p.allowedAffinity = some allowed → ∀ tag ∈ t.requiredAffinity, tag ∈ allowed
  anchor : Agree p.anchorConstraint t.requiredAnchor
  workspace : workspaceRank t.requiredWorkspace ≤ workspaceRank p.maxWorkspace
  network : networkRank t.requiredNetwork ≤ networkRank p.maxNetwork
  sandbox : Agree p.sandboxPolicy t.sandboxPolicy

/-- The task tightened by the policy. -/
def GenerationPolicy.tighten (p : GenerationPolicy) (t : TaskRequirement) : TaskRequirement :=
  { t with
    requiredAttemptIsolation := p.requiresAttemptIsolation || t.requiredAttemptIsolation
    requiredContinuity := max p.minContinuity t.requiredContinuity
    sandboxPolicy := p.sandboxPolicy.or t.sandboxPolicy
    requiredAnchor := p.anchorConstraint.or t.requiredAnchor
    budget := min p.budgetCeiling t.budget }

/-- **The fold succeeds exactly on the tasks a policy admits, and tightens them.** -/
theorem foldGenerationPolicy_ok {f : TaskRequirement} :
    foldGenerationPolicy p t = .ok f ↔ p.Admits t ∧ f = p.tighten t := by
  have haffinity : (p.allowedAffinity.all fun allowed => t.requiredAffinity.subset allowed) = true ↔
      ∀ allowed, p.allowedAffinity = some allowed → ∀ tag ∈ t.requiredAffinity, tag ∈ allowed := by
    cases p.allowedAffinity <;> simp
  simp only [foldGenerationPolicy, bind_ok, ensure_ok, pure_ok, anchorFold_ok, sandboxFold_ok,
    List.contains_iff_mem, decide_eq_true_eq, haffinity]
  constructor
  · rintro ⟨_, h₁, _, h₂, _, ⟨h₃, rfl⟩, _, h₄, _, h₅, _, ⟨h₆, rfl⟩, rfl⟩
    refine ⟨⟨h₁, h₂, h₃, h₄, h₅, h₆⟩, ?_⟩
    simp only [GenerationPolicy.tighten, min_def]
  · rintro ⟨⟨h₁, h₂, h₃, h₄, h₅, h₆⟩, rfl⟩
    refine ⟨(), h₁, (), h₂, _, ⟨h₃, rfl⟩, (), h₄, (), h₅, _, ⟨h₆, rfl⟩, ?_⟩
    simp only [GenerationPolicy.tighten, min_def]

/-- The requirement stays within every ceiling of the policy and meets every floor. -/
structure GenerationPolicy.Bounds (p : GenerationPolicy) (f : TaskRequirement) : Prop where
  function : f.informationFunction ∈ p.allowedInformationFunctions
  affinity : ∀ allowed, p.allowedAffinity = some allowed → ∀ tag ∈ f.requiredAffinity, tag ∈ allowed
  workspace : workspaceRank f.requiredWorkspace ≤ workspaceRank p.maxWorkspace
  network : networkRank f.requiredNetwork ≤ networkRank p.maxNetwork
  budget : f.budget ≤ p.budgetCeiling
  anchor : ∀ a, p.anchorConstraint = some a → f.requiredAnchor = some a
  sandbox : ∀ s, p.sandboxPolicy = some s → f.sandboxPolicy = some s
  isolation : p.requiresAttemptIsolation = true → f.requiredAttemptIsolation = true
  continuity : p.minContinuity ≤ f.requiredContinuity

/-- `f` is `t` with some dimensions tightened. -/
structure Tightens (t f : TaskRequirement) : Prop where
  function : f.informationFunction = t.informationFunction
  capabilities : f.requiredCapabilities = t.requiredCapabilities
  affinity : f.requiredAffinity = t.requiredAffinity
  workspace : f.requiredWorkspace = t.requiredWorkspace
  network : f.requiredNetwork = t.requiredNetwork
  isolation : t.requiredAttemptIsolation = true → f.requiredAttemptIsolation = true
  continuity : t.requiredContinuity ≤ f.requiredContinuity
  sandbox : ∀ s, t.sandboxPolicy = some s → f.sandboxPolicy = some s
  anchor : ∀ a, t.requiredAnchor = some a → f.requiredAnchor = some a
  budget : f.budget ≤ t.budget

theorem Agree.or_right (h : Agree a b) {x : α} (hb : b = some x) : a.or b = some x := by
  cases a with
  | none => exact hb
  | some y => rw [Option.some_or, h y x rfl hb]

theorem GenerationPolicy.Admits.bounds (h : p.Admits t) : p.Bounds (p.tighten t) where
  function := h.function
  affinity := h.affinity
  workspace := h.workspace
  network := h.network
  budget := min_le_left _ _
  anchor a ha := by simp [tighten, ha]
  sandbox s hs := by simp [tighten, hs]
  isolation hp := by simp [tighten, hp]
  continuity := le_max_left _ _

theorem GenerationPolicy.Admits.tightens (h : p.Admits t) : Tightens t (p.tighten t) where
  function := rfl
  capabilities := rfl
  affinity := rfl
  workspace := rfl
  network := rfl
  isolation ht := by simp [tighten, ht]
  continuity := le_max_right _ _
  sandbox s hs := h.sandbox.or_right hs
  anchor a ha := h.anchor.or_right ha
  budget := min_le_right _ _

theorem agree_or_self (a b : Option α) : Agree a (a.or b) := by
  rintro x y rfl hy
  simpa using hy

/-- What a policy tightened is admitted again, and left as it is. -/
theorem foldGenerationPolicy_idem {f : TaskRequirement} (h : foldGenerationPolicy p t = .ok f) :
    foldGenerationPolicy p f = .ok f := by
  obtain ⟨hadmits, rfl⟩ := foldGenerationPolicy_ok.mp h
  refine foldGenerationPolicy_ok.mpr ⟨?_, ?_⟩
  · exact ⟨hadmits.function, hadmits.affinity, agree_or_self _ _, hadmits.workspace,
      hadmits.network, agree_or_self _ _⟩
  · cases hs : p.sandboxPolicy <;> cases ha : p.anchorConstraint <;>
      simp [GenerationPolicy.tighten, hs, ha]

/-- A policy admits what another tightened exactly when it admits the task and their pins agree. -/
theorem admits_tighten {q : GenerationPolicy} (h : p.Admits t) :
    q.Admits (p.tighten t) ↔ q.Admits t ∧ Agree q.anchorConstraint p.anchorConstraint ∧
      Agree q.sandboxPolicy p.sandboxPolicy := by
  have hagree : ∀ {α : Type} {a b c : Option α}, Agree b c →
      (Agree a (b.or c) ↔ Agree a c ∧ Agree a b) := by
    intro α a b c hbc
    cases b with
    | none => simp [Agree]
    | some x =>
      constructor
      · intro hab
        refine ⟨fun y z hy hz => ?_, fun y z hy hz => hab y z hy hz⟩
        rw [hab y x hy rfl]
        exact hbc x z rfl hz
      · exact fun hab y z hy hz => hab.2 y z hy hz
  constructor
  · intro hq
    obtain ⟨h₁, h₂, h₃, h₄, h₅, h₆⟩ := hq
    obtain ⟨ha, ha'⟩ := (hagree h.anchor).mp h₃
    obtain ⟨hs, hs'⟩ := (hagree h.sandbox).mp h₆
    exact ⟨⟨h₁, h₂, ha, h₄, h₅, hs⟩, ha', hs'⟩
  · rintro ⟨⟨h₁, h₂, h₃, h₄, h₅, h₆⟩, ha, hs⟩
    exact ⟨h₁, h₂, (hagree h.anchor).mpr ⟨h₃, ha⟩, h₄, h₅, (hagree h.sandbox).mpr ⟨h₆, hs⟩⟩

theorem Agree.symm (h : Agree a b) : Agree b a :=
  fun x y hx hy => (h y x hy hx).symm

theorem Agree.or_comm {c : Option α} (h : Agree a b) : a.or (b.or c) = b.or (a.or c) := by
  cases a with
  | none => rfl
  | some x =>
    cases b with
    | none => rfl
    | some y => simp [h x y rfl rfl]

theorem tighten_comm {q : GenerationPolicy} (ha : Agree q.anchorConstraint p.anchorConstraint)
    (hs : Agree q.sandboxPolicy p.sandboxPolicy) :
    q.tighten (p.tighten t) = p.tighten (q.tighten t) := by
  simp only [GenerationPolicy.tighten, hs.or_comm, ha.or_comm, min_left_comm, max_left_comm,
    Bool.or_left_comm]

/-- **Folds commute**: in either order they both fail, or give the same requirement. -/
theorem foldGenerationPolicy_comm (p q : GenerationPolicy) (t f : TaskRequirement) :
    (foldGenerationPolicy p t >>= foldGenerationPolicy q) = .ok f ↔
      (foldGenerationPolicy q t >>= foldGenerationPolicy p) = .ok f := by
  have hone : ∀ {p q : GenerationPolicy},
      (foldGenerationPolicy p t >>= foldGenerationPolicy q) = .ok f →
      (foldGenerationPolicy q t >>= foldGenerationPolicy p) = .ok f := by
    intro p q h
    simp only [bind_ok, foldGenerationPolicy_ok] at h ⊢
    obtain ⟨_, ⟨hp, rfl⟩, hq, rfl⟩ := h
    obtain ⟨hq, ha, hs⟩ := (admits_tighten hp).mp hq
    exact ⟨_, ⟨hq, rfl⟩, (admits_tighten hq).mpr ⟨hp, ha.symm, hs.symm⟩, tighten_comm ha hs⟩
  exact ⟨hone, hone⟩

end Agentype.Agent

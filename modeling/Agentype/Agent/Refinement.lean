import Agentype.Agent.Predicates

/-!
# `Agentype.Agent.Refinement` — refinement is an order on contracts

What a contract says of one capability is a point of an order that its definition fixes: abilities
narrow by shrinking, restrictions by growing, and an absent entry is the least ability and the
weakest restriction. Comparing two contracts is comparing them at every reference, so authority is a
preorder on valid contracts, refinement is authority together with the continuity guarantee, and
specificity is the strict part of authority.

## Contents
- `CapabilityOrder`, `capabilityProvisionNoWider_iff`.
- `authorityNoWider_refl`, `authorityNoWider_trans`.
- `isValidRefinement_ok`, `canExecute_ok`.
- **`refinement_preserves_execution`**, **`isValidRefinement_preorder`**,
  `moreSpecificFor_irrefl`, `moreSpecificFor_trans`.
-/

namespace Agentype.Agent

open Check

variable {r : CapabilityRef} {v : CapabilityValue} {base derived : AgentTypeContract} {u : Unit}

/-! ## One capability -/

theorem abilityValueNoWider_eq (m : MatcherKind) (b d : CapabilityValue) :
    abilityValueNoWider m b d = valueSatisfies m d b := by
  cases m with
  | exact =>
    rw [Bool.eq_iff_iff]
    exact ⟨CapabilityValue.same_symm, CapabilityValue.same_symm⟩
  | bool | set | ordered | quantity =>
    cases b <;> cases d <;> simp [abilityValueNoWider, valueSatisfies, eq_comm]

theorem restrictionValueNoWider_eq (m : MatcherKind) (b d : CapabilityValue) :
    restrictionValueNoWider m b d = valueSatisfies m b d := by
  cases m <;> cases b <;> cases d <;> rfl

/-- What `derived` and `base` say of one capability, `none` being absence: `derived` is no wider. -/
def CapabilityOrder : Option CapabilityDefinition → Option CapabilityValue →
    Option CapabilityValue → Prop
  | none, derived, base => derived = none ∧ base = none
  | some d, derived, base =>
    match d.polarity with
    | .ability => ∀ v, derived = some v → ∃ w, base = some w ∧ valueSatisfies d.matcherKind v w = true
    | .restriction =>
      ∀ w, base = some w → ∃ v, derived = some v ∧ valueSatisfies d.matcherKind w v = true

namespace CapabilityOrder

variable {d : Option CapabilityDefinition} {a b c : Option CapabilityValue}

theorem refl (h : ∀ v, a = some v → ∃ def_, d = some def_ ∧ def_.matcherKind = v.matcherKind) :
    CapabilityOrder d a a := by
  cases d with
  | none =>
    cases a with
    | none => exact ⟨rfl, rfl⟩
    | some v => obtain ⟨_, hd, _⟩ := h v rfl; cases hd
  | some d =>
    have hself : ∀ v, a = some v → ∃ w, a = some w ∧ valueSatisfies d.matcherKind v w = true := by
      intro v hv
      obtain ⟨d', hd, hshape⟩ := h v hv
      cases hd
      exact ⟨v, hv, valueSatisfies_refl hshape.symm⟩
    cases hp : d.polarity with
    | ability => simpa only [CapabilityOrder, hp] using hself
    | restriction => simpa only [CapabilityOrder, hp] using hself

theorem trans (h : CapabilityOrder d a b) (h' : CapabilityOrder d b c) : CapabilityOrder d a c := by
  cases d with
  | none => exact ⟨h.1, h'.2⟩
  | some d =>
    unfold CapabilityOrder at *
    cases hp : d.polarity with
    | ability =>
      simp only [hp] at h h' ⊢
      intro v hv
      obtain ⟨w, hw, hvw⟩ := h v hv
      obtain ⟨x, hx, hwx⟩ := h' w hw
      exact ⟨x, hx, valueSatisfies_trans hvw hwx⟩
    | restriction =>
      simp only [hp] at h h' ⊢
      intro x hx
      obtain ⟨w, hw, hxw⟩ := h' x hx
      obtain ⟨v, hv, hwv⟩ := h w hw
      exact ⟨v, hv, valueSatisfies_trans hxw hwv⟩

end CapabilityOrder

theorem presentCap_eq_some {m : CapabilityMap} :
    presentCap m r = some v ↔ m.lookup r = some v ∧ v.isPresent = true := by
  rw [presentCap, Option.filter_eq_some_iff]

/-- A statement about every present entry of a map. -/
theorem forall_present {m : CapabilityMap} {P : CapabilityRef → CapabilityValue → Prop} :
    (∀ r v, m.lookup r = some v → v.isPresent = true → P r v) ↔
      ∀ r v, presentCap m r = some v → P r v := by
  simp only [presentCap_eq_some, and_imp]

/-- An entry of `derived` that `base` does not have is a restriction. -/
theorem addedNoWider_iff {catalog : CapabilityCatalog} :
    addedNoWider base catalog (r, v) = true ↔
      (v.isPresent = true → presentCap base.requiredCapabilities r = none →
        ∃ d, catalog.lookup r = some d ∧ d.polarity = .restriction) := by
  cases hv : v.isPresent with
  | false => simp [addedNoWider, hv]
  | true =>
    cases hb : presentCap base.requiredCapabilities r with
    | some w => simp [addedNoWider, hv, hb]
    | none =>
      cases hc : catalog.lookup r with
      | none => simp [addedNoWider, hv, hb, hc]
      | some d => cases hp : d.polarity <;> simp [addedNoWider, hv, hb, hc, hp]

/-- An entry of `base` is defined, and `derived` is no wider there. -/
theorem keptNoWider_iff {catalog : CapabilityCatalog} {w : CapabilityValue} :
    keptNoWider derived catalog (r, w) = true ↔
      (w.isPresent = true → ∃ d, catalog.lookup r = some d ∧
        CapabilityOrder (some d) (presentCap derived.requiredCapabilities r) (some w)) := by
  cases hw : w.isPresent with
  | false => simp [keptNoWider, hw]
  | true =>
    cases hc : catalog.lookup r with
    | none => simp [keptNoWider, hw, hc]
    | some d =>
      cases hd : presentCap derived.requiredCapabilities r with
      | none => cases hp : d.polarity <;> simp [keptNoWider, CapabilityOrder, hw, hc, hd, hp]
      | some v =>
        cases hp : d.polarity <;>
          simp [keptNoWider, CapabilityOrder, hw, hc, hd, hp, abilityValueNoWider_eq,
            restrictionValueNoWider_eq]

/-- **The comparison of two contracts is the comparison at every reference.** -/
theorem capabilityProvisionNoWider_iff {catalog : CapabilityCatalog} :
    capabilityProvisionNoWider derived base catalog = true ↔
      ∀ r, CapabilityOrder (catalog.lookup r) (presentCap derived.requiredCapabilities r)
        (presentCap base.requiredCapabilities r) := by
  simp only [capabilityProvisionNoWider, Bool.and_eq_true, List.all_eq_true,
    SortedMap.forall_entries, addedNoWider_iff, keptNoWider_iff, forall_present]
  constructor
  · rintro ⟨ha, hk⟩ r
    cases hb : presentCap base.requiredCapabilities r with
    | some w =>
      obtain ⟨d, hd, hord⟩ := hk r w hb
      rw [hd]
      exact hord
    | none =>
      cases hv : presentCap derived.requiredCapabilities r with
      | some v =>
        -- An added capability is a restriction.
        obtain ⟨d, hd, hp⟩ := ha r v hv hb
        simp [hd, CapabilityOrder, hp]
      | none => cases hc : catalog.lookup r with
        | none => exact ⟨rfl, rfl⟩
        | some d => cases hp : d.polarity <;> simp [CapabilityOrder, hp]
  · intro h
    constructor
    · intro r v hv hb
      have hr := h r
      rw [hv, hb] at hr
      cases hc : catalog.lookup r with
      | none => rw [hc] at hr; cases hr.1
      | some d =>
        cases hp : d.polarity with
        | ability => simp [hc, CapabilityOrder, hp] at hr
        | restriction => exact ⟨d, rfl, hp⟩
    · intro r w hw
      have hr := h r
      rw [hw] at hr
      cases hc : catalog.lookup r with
      | none => rw [hc] at hr; cases hr.2
      | some d => exact ⟨d, rfl, by rwa [hc] at hr⟩

/-! ## Authority -/

theorem affinityNoWider_refl (a : AffinityConstraint) : affinityNoWider a a = true := by
  cases a <;> simp [affinityNoWider]

theorem affinityNoWider_trans {a b c : AffinityConstraint} (h : affinityNoWider a b = true)
    (h' : affinityNoWider b c = true) : affinityNoWider a c = true := by
  cases a <;> cases b <;> cases c <;> simp_all [affinityNoWider]

theorem sandboxPolicyNoWider_iff {d b : Option SandboxPolicyRef} :
    sandboxPolicyNoWider d b = true ↔ ∀ p, b = some p → d = some p := by
  cases b <;> simp [sandboxPolicyNoWider]

theorem anchorNoWider_iff {d b : Option String} :
    anchorNoWider d b = true ↔ ∀ p, b = some p → d = some p := by
  cases b <;> simp [anchorNoWider]

/-- `a` grants no more authority than `b`, dimension by dimension. -/
structure NoWider (catalog : CapabilityCatalog) (a b : AgentTypeContract) : Prop where
  functions : ∀ f ∈ a.allowedInformationFunctions, f ∈ b.allowedInformationFunctions
  affinity : affinityNoWider a.affinity b.affinity = true
  budget : a.budgetCeiling ≤ b.budgetCeiling
  lifecycle : ∀ m ∈ a.lifecycle, m ∈ b.lifecycle
  workspace : workspaceRank a.security.workspace ≤ workspaceRank b.security.workspace
  network : networkRank a.security.network ≤ networkRank b.security.network
  isolation : b.security.requiresAttemptIsolation = true →
    a.security.requiresAttemptIsolation = true
  sandbox : ∀ p, b.sandboxPolicy = some p → a.sandboxPolicy = some p
  anchor : ∀ p, b.anchorConstraint = some p → a.anchorConstraint = some p
  capabilities : ∀ r, CapabilityOrder (catalog.lookup r) (presentCap a.requiredCapabilities r)
    (presentCap b.requiredCapabilities r)

theorem authorityNoWider_iff {a b : AgentTypeContract} {catalog : CapabilityCatalog} :
    authorityNoWider a b catalog = true ↔ NoWider catalog a b := by
  simp only [authorityNoWider, Bool.and_eq_true, List.all_eq_true, List.contains_iff_mem,
    decide_eq_true_eq, SortedSet.subset_iff, Bool.or_eq_true, Bool.not_eq_true',
    sandboxPolicyNoWider_iff, anchorNoWider_iff, capabilityProvisionNoWider_iff]
  constructor
  · rintro ⟨⟨⟨⟨⟨⟨⟨⟨⟨h₁, h₂⟩, h₃⟩, h₄⟩, h₅⟩, h₆⟩, h₇⟩, h₈⟩, h₉⟩, h₁₀⟩
    exact ⟨h₁, h₂, h₃, h₄, h₅, h₆, fun hb => h₇.resolve_left (by simp [hb]), h₈, h₉, h₁₀⟩
  · rintro ⟨h₁, h₂, h₃, h₄, h₅, h₆, h₇, h₈, h₉, h₁₀⟩
    refine ⟨⟨⟨⟨⟨⟨⟨⟨⟨h₁, h₂⟩, h₃⟩, h₄⟩, h₅⟩, h₆⟩, ?_⟩, h₈⟩, h₉⟩, h₁₀⟩
    cases hb : b.security.requiresAttemptIsolation with
    | false => exact .inl rfl
    | true => exact .inr (h₇ hb)

namespace NoWider

variable {catalog : CapabilityCatalog} {a b c : AgentTypeContract}

theorem refl (h : ShapedBy catalog a.requiredCapabilities) : NoWider catalog a a where
  functions _ hf := hf
  affinity := affinityNoWider_refl _
  budget := le_rfl
  lifecycle _ hm := hm
  workspace := le_rfl
  network := le_rfl
  isolation hb := hb
  sandbox _ hp := hp
  anchor _ hp := hp
  capabilities r := CapabilityOrder.refl fun v hv => h r v (presentCap_eq_some.mp hv).1

theorem trans (h : NoWider catalog a b) (h' : NoWider catalog b c) : NoWider catalog a c where
  functions f hf := h'.functions f (h.functions f hf)
  affinity := affinityNoWider_trans h.affinity h'.affinity
  budget := h.budget.trans h'.budget
  lifecycle m hm := h'.lifecycle m (h.lifecycle m hm)
  workspace := h.workspace.trans h'.workspace
  network := h.network.trans h'.network
  isolation hc := h.isolation (h'.isolation hc)
  sandbox p hp := h.sandbox p (h'.sandbox p hp)
  anchor p hp := h.anchor p (h'.anchor p hp)
  capabilities r := (h.capabilities r).trans (h'.capabilities r)

end NoWider

/-- **Refinement is authority and continuity**: a valid refinement of a valid contract grants no more
    authority and guarantees at least as much continuity. -/
theorem isValidRefinement_ok {base derived : AgentType} {catalog : CapabilityCatalog} :
    isValidRefinement base derived catalog = .ok u ↔
      base.contract.validate catalog = .ok () ∧ derived.contract.validate catalog = .ok () ∧
        NoWider catalog derived.contract base.contract ∧
        base.contract.continuity ≤ derived.contract.continuity := by
  have hanchor : (base.contract.anchorConstraint.all fun constraint =>
      decide (derived.contract.anchorConstraint = some constraint)) = true ↔
      ∀ p, base.contract.anchorConstraint = some p →
        derived.contract.anchorConstraint = some p := by
    cases base.contract.anchorConstraint <;> simp
  rw [← authorityNoWider_iff]
  simp only [isValidRefinement, authorityNoWider, bind_ok, ensure_ok, decide_eq_true_eq, hanchor,
    Bool.and_eq_true, anchorNoWider_iff]
  constructor
  · rintro ⟨_, hb, _, hd, _, h₁, _, h₂, _, h₃, _, h₄, _, h₅, _, h₆, _, h₇, _, h₈, _, h₉, _, h₁₀, h₁₁⟩
    exact ⟨hb, hd, ⟨⟨⟨⟨⟨⟨⟨⟨⟨h₁₀, h₁⟩, h₂⟩, h₃⟩, h₇⟩, h₈⟩, h₉⟩, h₅⟩, h₆⟩, h₁₁⟩, h₄⟩
  · rintro ⟨hb, hd, ⟨⟨⟨⟨⟨⟨⟨⟨⟨h₁₀, h₁⟩, h₂⟩, h₃⟩, h₇⟩, h₈⟩, h₉⟩, h₅⟩, h₆⟩, h₁₁⟩, h₄⟩
    exact ⟨_, hb, _, hd, (), h₁, (), h₂, (), h₃, (), h₄, (), h₅, (), h₆, (), h₇, (), h₈, (), h₉, (),
      h₁₀, h₁₁⟩

theorem isValidRefinement_refl {a : AgentType} {catalog : CapabilityCatalog}
    (h : a.contract.validate catalog = .ok ()) : isValidRefinement a a catalog = .ok () :=
  isValidRefinement_ok.mpr ⟨h, h, .refl (AgentTypeContract.validate_ok.mp h).2, le_rfl⟩

theorem isValidRefinement_trans {a b c : AgentType} {catalog : CapabilityCatalog}
    (h : isValidRefinement a b catalog = .ok ()) (h' : isValidRefinement b c catalog = .ok ()) :
    isValidRefinement a c catalog = .ok () := by
  obtain ⟨ha, -, hab, hcont⟩ := isValidRefinement_ok.mp h
  obtain ⟨-, hc, hbc, hcont'⟩ := isValidRefinement_ok.mp h'
  exact isValidRefinement_ok.mpr ⟨ha, hc, hbc.trans hab, hcont.trans hcont'⟩

/-! ## Execution -/

/-- A contract meets a task's requirement on one capability. -/
theorem executesCapability_ok {c : AgentTypeContract} {catalog : CapabilityCatalog} :
    executesCapability c catalog r v = .ok u ↔
      ∃ d, catalog.lookup r = some d ∧ d.matcherKind = v.matcherKind ∧
        (v.isPresent = true →
          match d.polarity with
          | .restriction => ∀ w, presentCap c.requiredCapabilities r = some w →
              (restrictionJoin d.matcherKind w v).isSome = true
          | .ability => ∃ w, presentCap c.requiredCapabilities r = some w ∧
              valueSatisfies d.matcherKind v w = true) := by
  simp only [executesCapability, bind_ok, checkShape_ok, and_assoc]
  refine exists_congr fun d => and_congr_right fun _ => and_congr_right fun _ => ?_
  cases hv : v.isPresent with
  | false => simp
  | true =>
    cases hp : d.polarity with
    | ability => simp
    | restriction => cases hw : presentCap c.requiredCapabilities r <;> simp

/-- What it takes to execute a task, dimension by dimension. -/
structure Executes (catalog : CapabilityCatalog) (c : AgentTypeContract) (req : TaskRequirement) :
    Prop where
  valid : c.validate catalog = .ok ()
  function : req.informationFunction ∈ c.allowedInformationFunctions
  capabilities : ∀ r v, req.requiredCapabilities.lookup r = some v →
    executesCapability c catalog r v = .ok ()
  affinity : affinityAccepts c.affinity req.requiredAffinity = true
  workspace : workspaceRank req.requiredWorkspace ≤ workspaceRank c.security.workspace
  network : networkRank req.requiredNetwork ≤ networkRank c.security.network
  continuity : req.requiredContinuity ≤ c.continuity
  sandbox : sandboxPolicyWithin req.sandboxPolicy c.sandboxPolicy = true
  anchor : ∀ a p, req.requiredAnchor = some a → c.anchorConstraint = some p → p = a
  budget : req.budget ≤ c.budgetCeiling

theorem canExecute_ok {agent : AgentType} {req : TaskRequirement} {catalog : CapabilityCatalog} :
    canExecute agent req catalog = .ok u ↔ Executes catalog agent.contract req := by
  have hanchor : (req.requiredAnchor.all fun required =>
      agent.contract.anchorConstraint.all fun constraint => decide (constraint = required)) = true ↔
      ∀ a p, req.requiredAnchor = some a → agent.contract.anchorConstraint = some p → p = a := by
    cases req.requiredAnchor <;> cases agent.contract.anchorConstraint <;> simp
  simp only [canExecute, bind_ok, ensure_ok, forM_ok, SortedMap.forall_entries,
    List.contains_iff_mem, decide_eq_true_eq, hanchor]
  constructor
  · rintro ⟨_, h₁, _, h₂, _, h₃, _, h₄, _, h₅, _, h₆, _, h₇, _, h₈, _, h₉, h₁₀⟩
    exact ⟨h₁, h₂, h₃, h₄, h₅, h₆, h₇, h₈, h₉, h₁₀⟩
  · rintro ⟨h₁, h₂, h₃, h₄, h₅, h₆, h₇, h₈, h₉, h₁₀⟩
    exact ⟨(), h₁, (), h₂, (), h₃, (), h₄, (), h₅, (), h₆, (), h₇, (), h₈, (), h₉, h₁₀⟩

/-- What a narrower contract says of a capability suffices, the wider one suffices too. -/
theorem executesCapability_of_order {catalog : CapabilityCatalog}
    (h : CapabilityOrder (catalog.lookup r) (presentCap derived.requiredCapabilities r)
      (presentCap base.requiredCapabilities r))
    (hd : executesCapability derived catalog r v = .ok ()) :
    executesCapability base catalog r v = .ok () := by
  rw [executesCapability_ok] at hd ⊢
  obtain ⟨d, hlookup, hshape, hmeets⟩ := hd
  refine ⟨d, hlookup, hshape, fun hv => ?_⟩
  have hmeets := hmeets hv
  rw [hlookup] at h
  cases hp : d.polarity with
  | ability =>
    simp only [hp, CapabilityOrder] at h hmeets ⊢
    obtain ⟨w, hw, hsat⟩ := hmeets
    obtain ⟨w', hw', hww'⟩ := h w hw
    exact ⟨w', hw', valueSatisfies_trans hsat hww'⟩
  | restriction =>
    simp only [hp, CapabilityOrder] at h hmeets ⊢
    intro w hw
    obtain ⟨w', hw', hww'⟩ := h w hw
    -- The join with the stronger restriction satisfies the weaker one and the task's.
    obtain ⟨j, hj⟩ := Option.isSome_iff_exists.mp (hmeets w' hw')
    obtain ⟨hw'j, hvj⟩ := (joinRequirementValues_lub hj).mp (joinRequirementValues_self hj)
    exact joinRequirementValues_isSome (valueSatisfies_trans hww' hw'j) hvj

theorem affinityAccepts_of_noWider {a b : AffinityConstraint} {tags : SortedSet String}
    (h : affinityNoWider a b = true) (ha : affinityAccepts a tags = true) :
    affinityAccepts b tags = true := by
  cases a <;> cases b <;> simp_all [affinityNoWider, affinityAccepts]

theorem sandboxPolicyWithin_of_noWider {r a b : Option SandboxPolicyRef}
    (h : ∀ p, b = some p → a = some p) (ha : sandboxPolicyWithin r a = true) :
    sandboxPolicyWithin r b = true := by
  cases b with
  | none => cases r <;> rfl
  | some p => rwa [h p rfl] at ha

/-- **Every dimension but continuity is narrowed by refinement.** A task that a refinement can execute
    is one its base can execute exactly when the base guarantees the continuity the task requires. -/
theorem refinement_preserves_execution (catalog : CapabilityCatalog) (base derived : AgentType)
    (req : TaskRequirement) (hrefines : isValidRefinement base derived catalog = .ok ())
    (hexec : canExecute derived req catalog = .ok ()) :
    canExecute base req catalog = .ok () ↔ req.requiredContinuity ≤ base.contract.continuity := by
  obtain ⟨hvalid, -, hno, -⟩ := isValidRefinement_ok.mp hrefines
  rw [canExecute_ok] at hexec ⊢
  constructor
  · exact fun h => h.continuity
  · intro hcont
    exact
      { valid := hvalid
        function := hno.functions _ hexec.function
        capabilities := fun r v hv =>
          executesCapability_of_order (hno.capabilities r) (hexec.capabilities r v hv)
        affinity := affinityAccepts_of_noWider hno.affinity hexec.affinity
        workspace := hexec.workspace.trans hno.workspace
        network := hexec.network.trans hno.network
        continuity := hcont
        sandbox := sandboxPolicyWithin_of_noWider hno.sandbox hexec.sandbox
        anchor := fun a p ha hp => hexec.anchor a p ha (hno.anchor p hp)
        budget := hexec.budget.trans hno.budget }

/-! ### A stronger guarantee executes more -/

/-- A type that may do anything to a workspace but promises no continuity. -/
def generalist : AgentType where
  typeRef := ⟨"generalist", 1, by decide, U64.one_ne_zero⟩
  basedOn := none
  contract :=
    { allowedInformationFunctions := [.expand]
      requiredCapabilities := .empty
      affinity := .any
      budgetCeiling := 10
      security := ⟨.write, .enabled, false⟩
      lifecycle := .ofList [.resident]
      continuity := .none
      sandboxPolicy := none
      anchorConstraint := none }

/-- The same contract with a continuity guarantee. -/
def continuing : AgentType where
  typeRef := ⟨"continuing", 1, by decide, U64.one_ne_zero⟩
  basedOn := some generalist.typeRef
  contract := { generalist.contract with continuity := .logical }

/-- A task without special demands, at a given continuity. -/
def modestTask (continuity : ContinuityMode) : TaskRequirement where
  informationFunction := .expand
  requiredCapabilities := .empty
  requiredAffinity := .empty
  requiredWorkspace := .readOnly
  requiredNetwork := .disabled
  requiredAttemptIsolation := false
  requiredContinuity := continuity
  sandboxPolicy := none
  requiredAnchor := none
  budget := 1

/-- A sandbox restriction, proven by evidence. -/
def confined : CapabilityRef := ⟨"confined", 1, by decide, U64.one_ne_zero⟩

/-- A functional ability, provided by a source. -/
def tools : CapabilityRef := ⟨"tools", 1, by decide, U64.one_ne_zero⟩

def workshopCatalog : CapabilityCatalog :=
  .ofList [(confined, ⟨.bool, .sandbox, .restriction⟩), (tools, ⟨.set, .functional, .ability⟩)]

/-- A generalist that needs a tool. -/
def toolUser : AgentType :=
  { generalist with
    contract :=
      { generalist.contract with requiredCapabilities := .ofList [(tools, .set (.ofList ["git"]))] } }

/-- A continuing tool user that only runs confined. -/
def confinedUser : AgentType where
  typeRef := ⟨"confined-user", 1, by decide, U64.one_ne_zero⟩
  basedOn := some toolUser.typeRef
  contract :=
    { continuing.contract with
      requiredCapabilities := .ofList [(confined, .bool true), (tools, .set (.ofList ["git"]))] }

/-- A task that needs a tool and may only run confined. -/
def confinedTask : TaskRequirement :=
  { modestTask .none with
    requiredCapabilities := .ofList [(confined, .bool true), (tools, .set (.ofList ["git"]))] }

/-- The tool user executes what its confined refinement does. -/
theorem refinement_preserves_execution_confined :
    canExecute toolUser confinedTask workshopCatalog = .ok () :=
  (refinement_preserves_execution workshopCatalog toolUser confinedUser confinedTask
    (by decide +kernel) (by decide +kernel)).mpr (by decide)

/-- A refinement may promise continuity its base does not, and so execute what its base cannot. -/
theorem refinement_gains_continuity :
    isValidRefinement generalist continuing .empty = .ok () ∧
      canExecute continuing (modestTask .logical) .empty = .ok () ∧
      canExecute generalist (modestTask .logical) .empty =
        .error (.capabilityMismatch "continuity") := by
  decide +kernel

end Agentype.Agent

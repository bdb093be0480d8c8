import Agentype.Agent.Refinement

/-!
# `Agentype.Agent.Provision` — what a provisioned environment proves

An environment proves a capability by imported evidence if its class needs evidence, and otherwise by
what its configuration and source declare within the source's envelope. A declaration about a class
that needs evidence is read by nobody: it decides neither whether a type can be provisioned nor
whether it can be provisioned for a task.

## Contents
- `resolveClaim_mem`, `resolveClaim_congr`.
- `provenValue`, `Declared`, `effectiveFunctionalValue_declared`.
- **`provisioned_task_proves_restrictions`**, **`security_claims_inert`**.
-/

namespace Agentype.Agent

open Check

variable {claims : List CapabilityClaim} {r : CapabilityRef} {c : CapabilityClaim}
  {catalog : CapabilityCatalog}

/-! ## Claims -/

/-- The claim a reference resolves to is one of the claims about it. -/
theorem resolveClaim_mem (h : resolveClaim claims r = .ok (some c)) :
    c ∈ claims ∧ c.reference = r ∧ c.value.isPresent = true := by
  have hmem : c ∈ matchingClaims claims r := by
    unfold resolveClaim at h
    split at h
    · cases h
    · rename_i first rest heq
      rw [heq]
      split_ifs at h
      rcases Option.or_eq_some_iff.mp (Except.ok.inj h) with hfind | ⟨-, hfirst⟩
      · exact List.mem_of_find?_eq_some hfind
      · cases hfirst
        exact List.mem_cons_self
  simpa [matchingClaims] using hmem

/-- A resolution reads only the claims about its reference. -/
theorem resolveClaim_congr {claims' : List CapabilityClaim}
    (h : matchingClaims claims r = matchingClaims claims' r) :
    resolveClaim claims r = resolveClaim claims' r := by
  unfold resolveClaim
  rw [h]

theorem checkDeclaration_ok {envelope : CapabilityMap} {e : String → ContractError} {u : Unit} :
    checkDeclaration envelope catalog e c = .ok u ↔
      (c.value.isPresent = true → needsEvidence catalog c.reference = false →
        ∃ ceiling, envelope.lookup c.reference = some ceiling ∧
          valueWithin ceiling c.value = true) := by
  cases hv : c.value.isPresent <;> cases hn : needsEvidence catalog c.reference <;>
    simp [checkDeclaration, hv, hn]

/-- In a valid source, a functional claim stays within the envelope. -/
theorem validateSpawnSource_within {source : SpawnSource}
    (h : validateSpawnSource source catalog = .ok ()) (hc : c ∈ source.claims)
    (hv : c.value.isPresent = true) (hn : needsEvidence catalog c.reference = false) :
    ∃ ceiling, source.functionalEnvelope.lookup c.reference = some ceiling ∧
      valueWithin ceiling c.value = true := by
  simp only [validateSpawnSource, bind_ok, forM_ok] at h
  obtain ⟨_, _, _, _, hall⟩ := h
  exact checkDeclaration_ok.mp (hall c hc) hv hn

/-- In a valid configuration, a functional claim stays within the envelope of the source. -/
theorem validateSourceConfig_within {config : SourceConfig} {source : SpawnSource}
    (h : validateSourceConfig config source catalog = .ok ()) (hc : c ∈ config.claims)
    (hv : c.value.isPresent = true) (hn : needsEvidence catalog c.reference = false) :
    ∃ ceiling, source.functionalEnvelope.lookup c.reference = some ceiling ∧
      valueWithin ceiling c.value = true := by
  simp only [validateSourceConfig, bind_ok, forM_ok] at h
  obtain ⟨_, _, _, _, _, _, _, _, hall⟩ := h
  exact checkDeclaration_ok.mp (hall c hc) hv hn

theorem valueWithin_refl (v : CapabilityValue) : valueWithin v v = true := by
  cases v <;> simp [valueWithin]

/-! ## Proven values -/

/-- The value an environment proves for a capability: imported evidence for a class that needs it,
    else the effective functional value. -/
def provenValue (source : SpawnSource) (config : SourceConfig)
    (evidence : ResolvedProvisioningEvidence) (definition : CapabilityDefinition)
    (reference : CapabilityRef) : Option CapabilityValue :=
  if definition.securityClass.requiresEvidence then evidence.enforcedCapability reference
  else (effectiveFunctionalValue source config reference).toOption

section

variable {agent : AgentType} {source : SpawnSource} {config : SourceConfig}
  {evidence : ResolvedProvisioningEvidence} {catalog : CapabilityCatalog} {task : TaskRequirement}
  {r : CapabilityRef} {d : CapabilityDefinition} {v p : CapabilityValue}

theorem needsEvidence_of_lookup (h : catalog.lookup r = some d) :
    needsEvidence catalog r = d.securityClass.requiresEvidence := by
  simp [needsEvidence, h]

/-- `p` is what the configuration declares of `r`, else what the source declares, else the ceiling. -/
inductive Declared (source : SpawnSource) (config : SourceConfig) (r : CapabilityRef)
    (ceiling : CapabilityValue) : CapabilityValue → Prop
  | config (c : CapabilityClaim) (hc : resolveClaim config.claims r = .ok (some c)) :
    Declared source config r ceiling c.value
  | source (c : CapabilityClaim) (hconfig : resolveClaim config.claims r = .ok none)
    (hc : resolveClaim source.claims r = .ok (some c)) : Declared source config r ceiling c.value
  | ceiling (hconfig : resolveClaim config.claims r = .ok none)
    (hsource : resolveClaim source.claims r = .ok none) : Declared source config r ceiling ceiling

/-- **The effective functional value is the configuration's over the source's over the ceiling.** -/
theorem effectiveFunctionalValue_declared (h : effectiveFunctionalValue source config r = .ok p) :
    ∃ ceiling, presentCap source.functionalEnvelope r = some ceiling ∧
      Declared source config r ceiling p := by
  simp only [effectiveFunctionalValue, bind_ok, present_ok, pure_ok] at h
  obtain ⟨ceiling, hceiling, sourceClaim, hsource, configClaim, hconfig, rfl⟩ := h
  refine ⟨ceiling, hceiling, ?_⟩
  cases configClaim with
  | some c => exact .config c hconfig
  | none =>
    cases sourceClaim with
    | some c => exact .source c hconfig hsource
    | none => exact .ceiling hconfig hsource

/-- A declaration is bounded by validation, and the ceiling bounds itself. -/
theorem Declared.within {ceiling : CapabilityValue} (h : Declared source config r ceiling p)
    (hs : validateSpawnSource source catalog = .ok ())
    (hc : validateSourceConfig config source catalog = .ok ()) (hn : needsEvidence catalog r = false)
    (hceiling : presentCap source.functionalEnvelope r = some ceiling) :
    valueWithin ceiling p = true := by
  have henv := (presentCap_eq_some.mp hceiling).1
  cases h with
  | config c hconfig =>
    obtain ⟨hmem, rfl, hv⟩ := resolveClaim_mem hconfig
    obtain ⟨ceiling', hceiling', hwithin⟩ := validateSourceConfig_within hc hmem hv hn
    cases henv.symm.trans hceiling'
    exact hwithin
  | source c _ hsource =>
    obtain ⟨hmem, rfl, hv⟩ := resolveClaim_mem hsource
    obtain ⟨ceiling', hceiling', hwithin⟩ := validateSpawnSource_within hs hmem hv hn
    cases henv.symm.trans hceiling'
    exact hwithin
  | ceiling => exact valueWithin_refl _

/-- A provisioned capability is proven with a value that satisfies it. -/
theorem provisionsCapability_proves
    (h : provisionsCapability source config evidence catalog r v = .ok ())
    (hv : v.isPresent = true) :
    ∃ d, catalog.lookup r = some d ∧ ∃ p, provenValue source config evidence d r = some p ∧
      valueSatisfies d.matcherKind v p = true := by
  simp only [provisionsCapability, bind_ok, present_ok] at h
  obtain ⟨d, hd, h⟩ := h
  refine ⟨d, hd, ?_⟩
  simp only [hv, Bool.not_true, Bool.false_eq_true, if_false] at h
  cases hn : d.securityClass.requiresEvidence with
  | true =>
    simp only [hn, if_true, bind_ok, present_ok, ensure_ok] at h
    obtain ⟨p, hp, hsat⟩ := h
    exact ⟨p, by simpa [provenValue, hn] using hp, hsat⟩
  | false =>
    simp only [hn, Bool.false_eq_true, if_false, bind_ok, present_ok, ensure_ok] at h
    obtain ⟨ceiling, hceiling, sc, hsc, _, _, cc, hcc, _, _, hsat⟩ := h
    have heff : effectiveFunctionalValue source config r = .ok (preferredValue cc sc ceiling) := by
      simp only [effectiveFunctionalValue, bind_ok, present_ok, pure_ok]
      exact ⟨ceiling, hceiling, sc, hsc, cc, hcc, rfl⟩
    exact ⟨_, by simp [provenValue, hn, heff, Except.toOption], hsat⟩

/-- A restriction of a task is proven together with the one of the agent type. -/
theorem provisionsRestriction_proves
    (h : provisionsRestriction agent source config evidence catalog r v = .ok ())
    (hv : v.isPresent = true) (hd : catalog.lookup r = some d) (hp : d.polarity = .restriction) :
    ∃ p, provenValue source config evidence d r = some p ∧
      valueSatisfies d.matcherKind v p = true := by
  simp only [provisionsRestriction, bind_ok, present_ok] at h
  obtain ⟨d', hd', h⟩ := h
  cases hd.symm.trans hd'
  simp only [hv, hp, Bool.not_true, Bool.false_eq_true, if_false, ne_eq, not_true_eq_false,
    bind_ok] at h
  obtain ⟨effective, heffective, h⟩ := h
  have hproof : ∃ p, provenValue source config evidence d r = some p ∧
      valueSatisfies d.matcherKind effective p = true := by
    cases hn : d.securityClass.requiresEvidence with
    | true =>
      simp only [hn, if_true, bind_ok, present_ok, ensure_ok] at h
      obtain ⟨p, hp, hsat⟩ := h
      exact ⟨p, by simpa [provenValue, hn] using hp, hsat⟩
    | false =>
      simp only [hn, Bool.false_eq_true, if_false, bind_ok, ensure_ok] at h
      obtain ⟨p, hp, hsat⟩ := h
      exact ⟨p, by simp [provenValue, hn, hp, Except.toOption], hsat⟩
  obtain ⟨p, hproven, hsat⟩ := hproof
  refine ⟨p, hproven, ?_⟩
  unfold effectiveRestriction at heffective
  cases ha : presentCap agent.contract.requiredCapabilities r with
  | none =>
    rw [ha] at heffective
    cases heffective
    exact hsat
  | some w =>
    simp only [ha, present_ok] at heffective
    exact ((joinRequirementValues_lub heffective).mp hsat).2

theorem canProvision_validates (h : canProvision agent source config evidence catalog = .ok ()) :
    validateSpawnSource source catalog = .ok () ∧
      validateSourceConfig config source catalog = .ok () := by
  simp only [canProvision, bind_ok] at h
  obtain ⟨_, _, _, hs, _, hc, -⟩ := h
  exact ⟨hs, hc⟩

theorem canProvision_capabilities (h : canProvision agent source config evidence catalog = .ok ())
    (hr : agent.contract.requiredCapabilities.lookup r = some v) :
    provisionsCapability source config evidence catalog r v = .ok () := by
  simp only [canProvision, bind_ok, forM_ok, SortedMap.forall_entries] at h
  obtain ⟨_, _, _, _, _, _, _, _, _, _, _, _, _, _, _, _, _, hall, -⟩ := h
  exact hall r v hr

theorem canProvisionTask_parts
    (h : canProvisionTask agent source config evidence catalog task = .ok ()) :
    canProvision agent source config evidence catalog = .ok () ∧
      ∀ r v, task.requiredCapabilities.lookup r = some v →
        provisionsRestriction agent source config evidence catalog r v = .ok () := by
  simp only [canProvisionTask, bind_ok, forM_ok, SortedMap.forall_entries] at h
  obtain ⟨_, _, _, hprov, _, _, _, _, _, _, _, _, _, _, hall⟩ := h
  exact ⟨hprov, hall⟩

/-- The proven value of a functional capability is declared within the envelope. -/
theorem provenValue_within (h : canProvision agent source config evidence catalog = .ok ())
    (hd : catalog.lookup r = some d) (hn : d.securityClass.requiresEvidence = false)
    (hp : provenValue source config evidence d r = some p) :
    ∃ ceiling, presentCap source.functionalEnvelope r = some ceiling ∧
      Declared source config r ceiling p ∧ valueWithin ceiling p = true := by
  obtain ⟨hs, hc⟩ := canProvision_validates h
  have heff : effectiveFunctionalValue source config r = .ok p := by
    simp only [provenValue, hn, Bool.false_eq_true, if_false] at hp
    cases he : effectiveFunctionalValue source config r with
    | error e => simp [he, Except.toOption] at hp
    | ok q => simpa [he, Except.toOption] using hp
  obtain ⟨ceiling, hceiling, hdeclared⟩ := effectiveFunctionalValue_declared heff
  have hneeds : needsEvidence catalog r = false := by rw [needsEvidence_of_lookup hd, hn]
  exact ⟨ceiling, hceiling, hdeclared, hdeclared.within hs hc hneeds hceiling⟩

end

/-- **A task provisioned is a task whose restrictions are proven.** Whatever the agent type requires of
    a capability, and whatever restriction the task adds, is satisfied by the value the environment
    proves, and a functional value is the configuration's, else the source's, else the ceiling of the
    source's envelope, and within that ceiling. The join of two requirements is what both together
    require. -/
theorem provisioned_task_proves_restrictions :
    (∀ (agent : AgentType) (source : SpawnSource) (config : SourceConfig)
        (evidence : ResolvedProvisioningEvidence) (catalog : CapabilityCatalog)
        (task : TaskRequirement),
      canProvisionTask agent source config evidence catalog task = .ok () →
      ∀ r, (∀ v, presentCap agent.contract.requiredCapabilities r = some v →
            ∃ d, catalog.lookup r = some d ∧ ∃ p, provenValue source config evidence d r = some p ∧
              valueSatisfies d.matcherKind v p = true) ∧
          (∀ v d, presentCap task.requiredCapabilities r = some v → catalog.lookup r = some d →
            d.polarity = .restriction → ∃ p, provenValue source config evidence d r = some p ∧
              valueSatisfies d.matcherKind v p = true) ∧
          (∀ d p, catalog.lookup r = some d → d.securityClass.requiresEvidence = false →
            provenValue source config evidence d r = some p →
            ∃ ceiling, presentCap source.functionalEnvelope r = some ceiling ∧
              Declared source config r ceiling p ∧ valueWithin ceiling p = true)) ∧
      ∀ m a b, (∀ j, joinRequirementValues m a b = some j → ∀ p,
          (valueSatisfies m j p = true ↔
            valueSatisfies m a p = true ∧ valueSatisfies m b p = true)) ∧
        (joinRequirementValues m a b = none → ∀ p,
          ¬(valueSatisfies m a p = true ∧ valueSatisfies m b p = true)) := by
  constructor
  · intro agent source config evidence catalog task h r
    obtain ⟨hprov, hrestrictions⟩ := canProvisionTask_parts h
    refine ⟨?_, ?_, ?_⟩
    · intro v hv
      obtain ⟨hlookup, hpresent⟩ := presentCap_eq_some.mp hv
      exact provisionsCapability_proves (canProvision_capabilities hprov hlookup) hpresent
    · intro v d hv hd hp
      obtain ⟨hlookup, hpresent⟩ := presentCap_eq_some.mp hv
      exact provisionsRestriction_proves (hrestrictions r v hlookup) hpresent hd hp
    · intro d p hd hn hp
      exact provenValue_within hprov hd hn hp
  · intro m a b
    exact ⟨fun j hj p => joinRequirementValues_lub hj, joinRequirementValues_none⟩

/-! ### A workshop -/

def workshop : SpawnSource where
  sourceRef := ⟨"workshop", 1, by decide, U64.one_ne_zero⟩
  adapterPolicy := ⟨"local", 1, by decide, U64.one_ne_zero⟩
  lifecycleModes := .ofList [.resident]
  continuityModes := .ofList [.none]
  functionalEnvelope := .ofList [(tools, .set (.ofList ["git", "rg"]))]
  claims := [⟨tools, .set (.ofList ["git"]), .declared, none⟩]
  status := .active

def workshopConfig : SourceConfig where
  configRef := ⟨workshop.sourceRef, ⟨"default", 1, by decide, U64.one_ne_zero⟩⟩
  configDigest := ⟨"digest", by decide⟩
  lifecycleModes := none
  continuityModes := none
  credentialRefs := []
  claims := []
  status := .active

def workshopEvidence : ResolvedProvisioningEvidence where
  adapterPolicy := workshop.adapterPolicy
  adapterKind := ⟨"local", by decide⟩
  adapterBindingKey := ⟨"bench", by decide⟩
  sourceRef := workshop.sourceRef
  sourceConfigRef := workshopConfig.configRef
  configDigest := workshopConfig.configDigest
  enforceableSafety := ⟨true, [.readOnly, .write], .ofList [.disabled, .enabled], by decide⟩
  enforcedSandboxPolicies := .empty
  enforcedCapabilities := .ofList [(confined, .bool true)]

theorem provisioned_task_proves_restrictions_workshop :
    ∃ p, provenValue workshop workshopConfig workshopEvidence ⟨.bool, .sandbox, .restriction⟩
        confined = some p ∧ valueSatisfies .bool (.bool true) p = true :=
  (provisioned_task_proves_restrictions.1 toolUser workshop workshopConfig workshopEvidence
    workshopCatalog confinedTask (by decide +kernel) confined).2.1 (.bool true)
      ⟨.bool, .sandbox, .restriction⟩ (by decide +kernel) (by decide +kernel) (by decide)

/-! ## Security claims -/

/-- The claims about capabilities that need no evidence. -/
def functionalClaims (catalog : CapabilityCatalog) (claims : List CapabilityClaim) :
    List CapabilityClaim :=
  claims.filter fun c => !needsEvidence catalog c.reference

/-- Two claim lists that differ only about classes that need evidence resolve functional references
    alike. -/
theorem resolveClaim_functional {claims' : List CapabilityClaim}
    (h : functionalClaims catalog claims = functionalClaims catalog claims')
    (hn : needsEvidence catalog r = false) : resolveClaim claims r = resolveClaim claims' r := by
  apply resolveClaim_congr
  have hfilter : ∀ l : List CapabilityClaim,
      matchingClaims l r = matchingClaims (functionalClaims catalog l) r := by
    intro l
    rw [matchingClaims, matchingClaims, functionalClaims, List.filter_filter]
    apply List.filter_congr
    intro c _
    by_cases hc : c.reference = r
    · simp [hc, hn]
    · simp [hc]
  rw [hfilter claims, hfilter claims', h]

/-- **Declared claims never buy security authority.** Sources and configurations that are valid and
    differ only in claims about classes that need evidence provision the same types and tasks. -/
theorem security_claims_inert (agent : AgentType) (task : TaskRequirement)
    (catalog : CapabilityCatalog) (evidence : ResolvedProvisioningEvidence)
    (source : SpawnSource) (config : SourceConfig) (sourceClaims configClaims : List CapabilityClaim)
    (hsource : functionalClaims catalog source.claims = functionalClaims catalog sourceClaims)
    (hconfig : functionalClaims catalog config.claims = functionalClaims catalog configClaims)
    (hs : validateSpawnSource source catalog = .ok ())
    (hc : validateSourceConfig config source catalog = .ok ())
    (hs' : validateSpawnSource { source with claims := sourceClaims } catalog = .ok ())
    (hc' : validateSourceConfig { config with claims := configClaims }
      { source with claims := sourceClaims } catalog = .ok ()) :
    (canProvision agent source config evidence catalog = .ok () ↔
      canProvision agent { source with claims := sourceClaims }
        { config with claims := configClaims } evidence catalog = .ok ()) ∧
    (canProvisionTask agent source config evidence catalog task = .ok () ↔
      canProvisionTask agent { source with claims := sourceClaims }
        { config with claims := configClaims } evidence catalog task = .ok ()) := by
  have hcapability : provisionsCapability source config evidence catalog =
      provisionsCapability { source with claims := sourceClaims }
        { config with claims := configClaims } evidence catalog := by
    funext r v
    unfold provisionsCapability
    cases hd : catalog.lookup r with
    | none => rfl
    | some d =>
      cases hn : d.securityClass.requiresEvidence with
      | true => simp [hn, Bind.bind, Except.bind]
      | false =>
        have hn' : needsEvidence catalog r = false := by rw [needsEvidence_of_lookup hd, hn]
        rw [resolveClaim_functional hsource hn', resolveClaim_functional hconfig hn']
  have hrestriction : provisionsRestriction agent source config evidence catalog =
      provisionsRestriction agent { source with claims := sourceClaims }
        { config with claims := configClaims } evidence catalog := by
    funext r v
    unfold provisionsRestriction effectiveFunctionalValue
    cases hd : catalog.lookup r with
    | none => rfl
    | some d =>
      cases hn : d.securityClass.requiresEvidence with
      | true => simp [hn, Bind.bind, Except.bind]
      | false =>
        have hn' : needsEvidence catalog r = false := by rw [needsEvidence_of_lookup hd, hn]
        rw [resolveClaim_functional hsource hn', resolveClaim_functional hconfig hn']
  have hprovision : canProvision agent source config evidence catalog =
      canProvision agent { source with claims := sourceClaims }
        { config with claims := configClaims } evidence catalog := by
    unfold canProvision
    rw [hs, hc, hs', hc', hcapability]
    rfl
  refine ⟨by rw [hprovision], ?_⟩
  unfold canProvisionTask
  rw [hprovision, hrestriction]
  rfl

/-- A claim that the workshop is confined, labelled as enforced, changes nothing. -/
theorem security_claims_inert_workshop :
    canProvisionTask toolUser
      { workshop with claims := ⟨confined, .bool true, .enforced, none⟩ :: workshop.claims }
      workshopConfig workshopEvidence workshopCatalog confinedTask = .ok () :=
  (security_claims_inert toolUser confinedTask workshopCatalog workshopEvidence workshop
    workshopConfig (⟨confined, .bool true, .enforced, none⟩ :: workshop.claims) []
    (by decide +kernel) (by decide +kernel) (by decide +kernel) (by decide +kernel)
    (by decide +kernel) (by decide +kernel)).2.mp (by decide +kernel)

end Agentype.Agent

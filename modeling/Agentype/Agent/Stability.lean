import Agentype.Agent.Canonical
import Agentype.Agent.Provision

/-!
# `Agentype.Agent.Stability` — canonical records stay canonical

A stored record is canonicalized again each time it is read, against the capabilities defined by
then. It must come out unchanged, for which two facts about each canonicalizer suffice: it is
idempotent, and its verdict on a record does not change when more capabilities are defined.

Both are read off a description of the outputs. A canonical list of claims is one whose claims are
present, of the defined shapes and strictly ordered by reference, and such a list is a fixed point.

## Contents
- `CapabilityCatalog.Grows`: every definition is kept.
- `ClaimsCanonical`, `canonicalizeClaims_ok`, `canonicalizeClaims_of_canonical`.
- **`canonicalizeAgentType_stable`**, **`canonicalizeSpawnSource_stable`**,
  **`canonicalizeSourceConfig_stable`**, `canonicalizeTaskAgentRequirement_stable`,
  `canonicalizeGenerationPolicy_stable`.
- `isValidRefinement_grows`.
-/

namespace Agentype.Agent

open Check

variable {m : CapabilityMap} {c : CapabilityClaim} {claims : List CapabilityClaim} {u : Unit}
  {source : SpawnSource} {config : SourceConfig}

/-- Every definition of one catalog is in the other. -/
def CapabilityCatalog.Grows (catalog catalog' : CapabilityCatalog) : Prop :=
  ∀ r d, catalog.lookup r = some d → catalog'.lookup r = some d

variable {catalog catalog' : CapabilityCatalog}

theorem CapabilityCatalog.Grows.refl (catalog : CapabilityCatalog) : catalog.Grows catalog :=
  fun _ _ h => h

/-! ## Capability maps -/

theorem ShapedBy.grows (h : ShapedBy catalog m) (hg : catalog.Grows catalog') :
    ShapedBy catalog' m := by
  intro r v hv
  obtain ⟨d, hd, hk⟩ := h r v hv
  exact ⟨d, hg r d hd, hk⟩

theorem ShapedBy.present (h : ShapedBy catalog m) : ShapedBy catalog (presentEntries m) := by
  intro r v hv
  rw [presentEntries, SortedMap.lookup_filter] at hv
  exact h r v (Option.filter_eq_some_iff.mp hv).1

theorem presentEntries_idem (m : CapabilityMap) :
    presentEntries (presentEntries m) = presentEntries m :=
  SortedMap.filter_filter m _

theorem canonicalizeCapabilityMap_ok {m' : CapabilityMap} :
    canonicalizeCapabilityMap m catalog = .ok m' ↔ ShapedBy catalog m ∧ m' = presentEntries m := by
  simp only [canonicalizeCapabilityMap, bind_ok, pure_ok, checkShapes_ok, exists_const]
  exact and_congr_right fun _ => eq_comm

/-! ## Claims -/

/-- A claim's capability is defined with the shape of its value. -/
def ClaimShaped (catalog : CapabilityCatalog) (c : CapabilityClaim) : Prop :=
  ∃ d, catalog.lookup c.reference = some d ∧ d.matcherKind = c.value.matcherKind

theorem ClaimShaped.grows (h : ClaimShaped catalog c) (hg : catalog.Grows catalog') :
    ClaimShaped catalog' c := by
  obtain ⟨d, hd, hk⟩ := h
  exact ⟨d, hg _ d hd, hk⟩

/-- The lists of claims that canonicalization produces. -/
structure ClaimsCanonical (catalog : CapabilityCatalog) (claims : List CapabilityClaim) : Prop where
  shaped : ∀ c ∈ claims, ClaimShaped catalog c
  present : ∀ c ∈ claims, c.value.isPresent = true
  ordered : claims.Pairwise fun c c' => c.reference < c'.reference

theorem ClaimsCanonical.grows (h : ClaimsCanonical catalog claims) (hg : catalog.Grows catalog') :
    ClaimsCanonical catalog' claims :=
  ⟨fun c hc => (h.shaped c hc).grows hg, h.present, h.ordered⟩

/-- The survivor of a group is one of its claims. -/
theorem chooseClaim_mem {group : List CapabilityClaim} {o : Option CapabilityClaim}
    (h : chooseClaim group = .ok o) : (group = [] ∧ o = none) ∨ ∃ c ∈ group, o = some c := by
  cases group with
  | nil => exact .inl ⟨rfl, (Except.ok.inj h).symm⟩
  | cons first rest =>
    right
    simp only [chooseClaim, bind_ok] at h
    obtain ⟨-, -, h⟩ := h
    split at h
    · rename_i head enforced hfilter
      simp only [bind_ok, pure_ok] at h
      obtain ⟨-, -, rfl⟩ := h
      have hhead : head ∈ (first :: rest).filter fun c => decide (c.assurance = .enforced) := by
        rw [hfilter]
        exact List.mem_cons_self
      exact ⟨head, List.mem_of_mem_filter hhead, rfl⟩
    · simp only [bind_ok, pure_ok] at h
      obtain ⟨-, -, rfl⟩ := h
      exact ⟨first, List.mem_cons_self, rfl⟩

theorem chooseClaim_singleton (c : CapabilityClaim) : chooseClaim [c] = .ok (some c) := by
  by_cases hc : c.assurance = .enforced <;> simp [chooseClaim, hc]

theorem shapeCheck_ok {r : CapabilityRef} {v : CapabilityValue} :
    shapeCheck r v catalog = .ok u ↔
      ∃ d, catalog.lookup r = some d ∧ d.matcherKind = v.matcherKind := by
  simp [shapeCheck, checkShape_ok]

/-- What a run over the references of the claims chooses: one claim for each reference, in order. -/
theorem chosen_references {refs : List CapabilityRef} {chosen : List (Option CapabilityClaim)}
    (hrefs : ∀ r ∈ refs, ∃ c ∈ claims, c.reference = r)
    (h : List.Forall₂ (fun r o =>
      chooseClaim (claims.filter fun c => decide (c.reference = r)) = .ok o) refs chosen) :
    (chosen.filterMap id).map CapabilityClaim.reference = refs ∧
      ∀ c ∈ chosen.filterMap id, c ∈ claims := by
  induction h with
  | nil => simp
  | @cons r o refs chosen ho _ ih =>
    obtain ⟨ihrefs, ihmem⟩ := ih fun r' hr' => hrefs r' (List.mem_cons_of_mem _ hr')
    rcases chooseClaim_mem ho with ⟨hnil, -⟩ | ⟨c, hc, rfl⟩
    · obtain ⟨c, hc, hcr⟩ := hrefs r List.mem_cons_self
      have hmem : c ∈ claims.filter fun c => decide (c.reference = r) := by simp [hc, hcr]
      rw [hnil] at hmem
      cases hmem
    · obtain ⟨hcl, hcr⟩ := List.mem_filter.mp hc
      simp only [decide_eq_true_eq] at hcr
      have hcons : (some c :: chosen).filterMap id = c :: chosen.filterMap id := rfl
      rw [hcons, List.map_cons, hcr, ihrefs]
      exact ⟨rfl, List.forall_mem_cons.mpr ⟨hcl, ihmem⟩⟩

/-- The output of canonicalization is canonical, and made of claims of the input. -/
theorem canonicalizeClaims_ok {claims' : List CapabilityClaim}
    (h : canonicalizeClaims claims catalog = .ok claims') :
    ClaimsCanonical catalog claims' ∧ ∀ c ∈ claims', c ∈ claims := by
  simp only [canonicalizeClaims, forM_ok, shapeCheck_ok, bind_ok, mapM_ok, pure_ok] at h
  obtain ⟨-, hshaped, chosen, hchosen, rfl⟩ := h
  obtain ⟨hrefs, hmem⟩ := chosen_references (by simp [mem_sortDedup]) hchosen
  have hsub : ∀ c ∈ chosen.filterMap id, c ∈ claims := fun c hc =>
    List.mem_of_mem_filter (hmem c hc)
  refine ⟨⟨fun c hc => hshaped c (hsub c hc), fun c hc => ?_, ?_⟩, hsub⟩
  · exact (List.mem_filter.mp (hmem c hc)).2
  · have hlt := @sortDedup_lt CapabilityRef CapabilityRef _ _ id Function.injective_id
      ((claims.filter fun c => c.value.isPresent).map CapabilityClaim.reference)
    rw [← hrefs] at hlt
    exact List.pairwise_map.mp hlt

/-- A canonical list of claims is a fixed point. -/
theorem canonicalizeClaims_of_canonical (h : ClaimsCanonical catalog claims) :
    canonicalizeClaims claims catalog = .ok claims := by
  have hkept : (claims.filter fun c => c.value.isPresent) = claims :=
    List.filter_eq_self.mpr h.present
  have hrefs : sortDedup id (claims.map CapabilityClaim.reference) =
      claims.map CapabilityClaim.reference :=
    sortDedup_of_lt (List.pairwise_map.mpr h.ordered)
  -- the references are distinct, so the group of a claim is the claim alone
  have hgroup : ∀ c ∈ claims, (claims.filter fun c' => decide (c'.reference = c.reference)) = [c] :=
    fun c hc => filter_key_of_lt h.ordered hc (by simp)
  simp only [canonicalizeClaims, forM_ok, shapeCheck_ok, bind_ok, mapM_ok, pure_ok]
  refine ⟨(), h.shaped, claims.map some, ?_, by simp⟩
  rw [hkept, hrefs, List.forall₂_map_left_iff, List.forall₂_map_right_iff]
  refine List.forall₂_same.mpr fun c hc => ?_
  rw [hgroup c hc]
  exact chooseClaim_singleton c

/-- The claims about one reference, in a canonical list, are at most one. -/
theorem ClaimsCanonical.resolves (h : ClaimsCanonical catalog claims) (hc : c ∈ claims) :
    ∃ o, resolveClaim claims c.reference = .ok o := by
  have hmatch : matchingClaims claims c.reference = [c] := by
    refine filter_key_of_lt h.ordered hc fun c' hc' => ?_
    simp [h.present c' hc']
  by_cases hc : c.assurance = .enforced <;> exact ⟨some c, by simp [resolveClaim, hmatch, hc]⟩

theorem validateClaims_ok :
    validateClaims claims catalog = .ok u ↔
      (∀ c ∈ claims, ClaimShaped catalog c) ∧
        ∀ c ∈ claims, ∃ o, resolveClaim claims c.reference = .ok o := by
  simp only [validateClaims, forM_ok, bind_ok, checkShape_ok, pure_ok, ClaimShaped, exists_const,
    List.mem_eraseDups, List.forall_mem_map, and_true]

theorem ClaimsCanonical.validates (h : ClaimsCanonical catalog claims) :
    validateClaims claims catalog = .ok () :=
  validateClaims_ok.mpr ⟨h.shaped, fun _ hc => h.resolves hc⟩

/-! ## Declarations -/

/-- Whether a defined capability needs evidence does not change. -/
theorem needsEvidence_grows (h : ClaimShaped catalog c) (hg : catalog.Grows catalog') :
    needsEvidence catalog' c.reference = needsEvidence catalog c.reference := by
  obtain ⟨d, hd, -⟩ := h
  rw [needsEvidence_of_lookup hd, needsEvidence_of_lookup (hg _ d hd)]

/-- What a present value stays within is present. -/
theorem isPresent_of_within {ceiling v : CapabilityValue} (h : valueWithin ceiling v = true)
    (hv : v.isPresent = true) : ceiling.isPresent = true := by
  cases ceiling with
  | bool b =>
    cases b with
    | true => rfl
    | false => cases v <;> simp_all [valueWithin, CapabilityValue.isPresent]
  | _ => rfl

theorem checkDeclaration_stable {envelope : CapabilityMap} {e : String → ContractError}
    (h : checkDeclaration envelope catalog e c = .ok ()) (hshaped : ClaimShaped catalog c)
    (hg : catalog.Grows catalog') :
    checkDeclaration envelope catalog' e c = .ok () ∧
      checkDeclaration (presentEntries envelope) catalog' e c = .ok () := by
  rw [checkDeclaration_ok] at h
  simp only [checkDeclaration_ok, needsEvidence_grows hshaped hg]
  refine ⟨h, fun hv hn => ?_⟩
  obtain ⟨ceiling, hlook, hwithin⟩ := h hv hn
  refine ⟨ceiling, ?_, hwithin⟩
  rw [presentEntries, SortedMap.lookup_filter, hlook, Option.filter_some,
    if_pos (isPresent_of_within hwithin hv)]

/-! ## Records -/

theorem canonicalizeAgentType_ok {raw agent : AgentType}
    (h : canonicalizeAgentType raw catalog = .ok agent) :
    agent.contract.validate catalog = .ok () ∧ agent.contract.normalize = agent.contract ∧
      presentEntries agent.contract.requiredCapabilities = agent.contract.requiredCapabilities ∧
      agent.typeRef = raw.typeRef ∧ agent.basedOn = raw.basedOn := by
  simp only [canonicalizeAgentType, bind_ok, pure_ok, canonicalizeCapabilityMap_ok,
    AgentTypeContract.validate_ok] at h
  obtain ⟨-, ⟨hlifecycle, hshaped⟩, _, ⟨-, rfl⟩, rfl⟩ := h
  refine ⟨AgentTypeContract.validate_ok.mpr ⟨hlifecycle, hshaped.present⟩, ?_,
    presentEntries_idem _, rfl, rfl⟩
  simp only [AgentTypeContract.normalize, sortDedup_idem InformationFunction.asSql_injective]

/-- Later definitions change nothing. -/
theorem canonicalizeAgentType_grows {raw agent : AgentType}
    (h : canonicalizeAgentType raw catalog = .ok agent) (hg : catalog.Grows catalog') :
    canonicalizeAgentType raw catalog' = .ok agent := by
  simp only [canonicalizeAgentType, bind_ok, canonicalizeCapabilityMap_ok,
    AgentTypeContract.validate_ok] at h ⊢
  obtain ⟨u, ⟨hlifecycle, hshaped⟩, m, ⟨hmap, rfl⟩, h⟩ := h
  exact ⟨u, ⟨hlifecycle, hshaped.grows hg⟩, _, ⟨hmap.grows hg, rfl⟩, h⟩

/-- **A canonical agent type stays canonical.** -/
theorem canonicalizeAgentType_stable {raw agent : AgentType}
    (h : canonicalizeAgentType raw catalog = .ok agent) (hg : catalog.Grows catalog') :
    canonicalizeAgentType agent catalog' = .ok agent := by
  obtain ⟨hvalid, hnormal, hpresent, -, -⟩ := canonicalizeAgentType_ok h
  obtain ⟨hlifecycle, hshaped⟩ := AgentTypeContract.validate_ok.mp hvalid
  refine canonicalizeAgentType_grows ?_ hg
  simp only [canonicalizeAgentType, bind_ok, pure_ok, canonicalizeCapabilityMap_ok,
    AgentTypeContract.validate_ok, hnormal]
  refine ⟨(), ⟨hlifecycle, hshaped⟩, _, ⟨hshaped, rfl⟩, ?_⟩
  rw [hpresent]

theorem validateSpawnSource_ok :
    validateSpawnSource source catalog = .ok u ↔
      validateClaims source.claims catalog = .ok () ∧
      ShapedBy catalog source.functionalEnvelope ∧
      ∀ c ∈ source.claims, checkDeclaration source.functionalEnvelope catalog (fun id =>
        .invariantViolation
          ("source declaration for " ++ id ++ " exceeds its provisionable envelope")) c =
        .ok () := by
  simp only [validateSpawnSource, seq_ok, forM_ok, checkShapes_ok]

/-- **A canonical source stays canonical**, under any disposition. -/
theorem canonicalizeSpawnSource_stable {raw : SpawnSource}
    (h : canonicalizeSpawnSource raw catalog = .ok source) (hg : catalog.Grows catalog')
    (status : SourceStatus) :
    canonicalizeSpawnSource { source with status := status } catalog' =
      .ok { source with status := status } := by
  simp only [canonicalizeSpawnSource, bind_ok, pure_ok, canonicalizeCapabilityMap_ok,
    validateSpawnSource_ok] at h
  obtain ⟨-, ⟨-, hshaped, hdeclared⟩, claims, hclaims, _, ⟨-, rfl⟩, rfl⟩ := h
  obtain ⟨hcanonical, hsub⟩ := canonicalizeClaims_ok hclaims
  have hcanonical' := hcanonical.grows hg
  simp only [canonicalizeSpawnSource, bind_ok, pure_ok, canonicalizeCapabilityMap_ok,
    validateSpawnSource_ok]
  refine ⟨(), ⟨hcanonical'.validates, hshaped.present.grows hg, fun c hc => ?_⟩, claims,
    canonicalizeClaims_of_canonical hcanonical', _, ⟨hshaped.present.grows hg, rfl⟩, ?_⟩
  · exact (checkDeclaration_stable (hdeclared c (hsub c hc)) (hcanonical.shaped c hc) hg).2
  · rw [presentEntries_idem]

theorem validateSourceConfig_ok :
    validateSourceConfig config source catalog = .ok u ↔
      (config.configRef.source = source.sourceRef ∧
        (config.lifecycleModes.all fun modes => modes.subset source.lifecycleModes) = true ∧
        (config.continuityModes.all fun modes => modes.elems.all fun needed =>
          continuitySatisfies source.continuityModes needed) = true) ∧
      validateClaims config.claims catalog = .ok () ∧
      ∀ c ∈ config.claims, checkDeclaration source.functionalEnvelope catalog (fun id =>
        .invariantViolation ("config declaration for " ++ id ++ " exceeds the source envelope")) c =
        .ok () := by
  simp only [validateSourceConfig, seq_ok, ensure_ok, forM_ok, decide_eq_true_eq, and_assoc]

theorem canonicalizeSpawnSource_keeps {raw : SpawnSource}
    (h : canonicalizeSpawnSource raw catalog = .ok source) : source.sourceRef = raw.sourceRef := by
  simp only [canonicalizeSpawnSource, bind_ok, pure_ok] at h
  obtain ⟨-, -, _, -, _, -, rfl⟩ := h
  rfl

theorem canonicalizeSourceConfig_keeps {raw : SourceConfig}
    (h : canonicalizeSourceConfig raw source catalog = .ok config) :
    config.configRef = raw.configRef ∧ config.configDigest = raw.configDigest ∧
      config.configRef.source = source.sourceRef := by
  simp only [canonicalizeSourceConfig, bind_ok, pure_ok, validateSourceConfig_ok] at h
  obtain ⟨-, ⟨⟨href, -⟩, -⟩, _, -, rfl⟩ := h
  exact ⟨rfl, rfl, href⟩

/-- **A canonical configuration stays canonical**, under any disposition of it and its source. -/
theorem canonicalizeSourceConfig_stable {raw : SourceConfig}
    (h : canonicalizeSourceConfig raw source catalog = .ok config) (hg : catalog.Grows catalog')
    (status : ConfigStatus) (sourceStatus : SourceStatus) :
    canonicalizeSourceConfig { config with status := status }
        { source with status := sourceStatus } catalog' =
      .ok { config with status := status } := by
  simp only [canonicalizeSourceConfig, bind_ok, pure_ok, validateSourceConfig_ok] at h
  obtain ⟨-, ⟨hmodes, -, hdeclared⟩, claims, hclaims, rfl⟩ := h
  obtain ⟨hcanonical, hsub⟩ := canonicalizeClaims_ok hclaims
  have hcanonical' := hcanonical.grows hg
  simp only [canonicalizeSourceConfig, bind_ok, pure_ok, validateSourceConfig_ok]
  refine ⟨(), ⟨hmodes, hcanonical'.validates, fun c hc => ?_⟩, claims,
    canonicalizeClaims_of_canonical hcanonical', ?_⟩
  · exact (checkDeclaration_stable (hdeclared c (hsub c hc)) (hcanonical.shaped c hc) hg).1
  · simp only [canonicalizeCredentialRefs, sortDedup_idem fun _ _ => Named.ext]

theorem canonicalizeTaskAgentRequirement_stable {raw req : TaskAgentRequirement}
    (h : canonicalizeTaskAgentRequirement raw catalog = .ok req) (hg : catalog.Grows catalog') :
    canonicalizeTaskAgentRequirement req catalog' = .ok req := by
  simp only [canonicalizeTaskAgentRequirement, TaskAgentRequirement.normalize,
    TaskAgentRequirement.validate, bind_ok, pure_ok, checkShapes_ok, exists_const] at h ⊢
  obtain ⟨hshaped, rfl⟩ := h
  exact ⟨hshaped.present.grows hg, by simp only [presentEntries_idem]⟩

theorem canonicalizeGenerationPolicy_stable {raw policy : GenerationPolicy}
    (h : canonicalizeGenerationPolicy raw catalog = .ok policy) :
    canonicalizeGenerationPolicy policy catalog' = .ok policy := by
  simp only [canonicalizeGenerationPolicy, GenerationPolicy.normalize, GenerationPolicy.validate,
    bind_ok, pure_ok, ensure_ok, exists_const] at h ⊢
  obtain ⟨hsome, rfl⟩ := h
  refine ⟨?_, by simp only [sortDedup_idem InformationFunction.asSql_injective]⟩
  -- sorting and deduplicating loses no element, so the list is still not empty
  obtain ⟨f, hf⟩ := List.exists_mem_of_ne_nil _ (by simpa using hsome)
  have hf' : f ∈ sortDedup InformationFunction.asSql raw.allowedInformationFunctions :=
    mem_sortDedup.mpr hf
  simpa using List.ne_nil_of_mem hf'

/-! ## Refinement -/

theorem CapabilityOrder.grows {r : CapabilityRef} {a b : Option CapabilityValue}
    (h : CapabilityOrder (catalog.lookup r) a b) (hg : catalog.Grows catalog') :
    CapabilityOrder (catalog'.lookup r) a b := by
  cases hd : catalog.lookup r with
  | some d => rwa [hg r d hd, ← hd]
  | none =>
    -- neither contract mentions a capability that was not defined
    rw [hd] at h
    obtain ⟨rfl, rfl⟩ := h
    cases catalog'.lookup r with
    | none => exact ⟨rfl, rfl⟩
    | some d => cases hp : d.polarity <;> simp [CapabilityOrder, hp]

theorem isValidRefinement_grows {base derived : AgentType}
    (h : isValidRefinement base derived catalog = .ok ()) (hg : catalog.Grows catalog') :
    isValidRefinement base derived catalog' = .ok () := by
  have hvalid : ∀ c : AgentTypeContract, c.validate catalog = .ok () →
      c.validate catalog' = .ok () := by
    intro c hc
    obtain ⟨hlifecycle, hshaped⟩ := AgentTypeContract.validate_ok.mp hc
    exact AgentTypeContract.validate_ok.mpr ⟨hlifecycle, hshaped.grows hg⟩
  obtain ⟨hbase, hderived, hnoWider, hcontinuity⟩ := isValidRefinement_ok.mp h
  refine isValidRefinement_ok.mpr ⟨hvalid _ hbase, hvalid _ hderived, ?_, hcontinuity⟩
  exact { hnoWider with capabilities := fun r => (hnoWider.capabilities r).grows hg }

end Agentype.Agent

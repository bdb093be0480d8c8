import Agentype.Agent.Requirement

/-!
# `Agentype.Agent.Canonical` — canonical records and their documents

Before a record of the catalog is stored it is canonicalized: lists that stand for sets are sorted
and deduplicated, explicit absences are dropped, and at most one claim is kept for each exact
capability. The canonical record is then written as a document.

Objects are in key order from the start, so the source's recursive key sorting changes nothing and
does not appear here. A document is a JSON value; what is stored is its printed form in some
`DocFormat`.

## Contents
- `canonicalizeClaims`, `canonicalizeCapabilityMap`, `canonicalizeCredentialRefs`.
- `canonicalizeAgentType`, `canonicalizeSpawnSource`, `canonicalizeSourceConfig`,
  `canonicalizeTaskAgentRequirement`, `canonicalizeGenerationPolicy`.
- `canonicalAgentTypeDocument` and its eight siblings.
- `toBytes`, `contentDigest`, `canonicalJsonBodyDigest`.
-/

namespace Agentype.Agent

open Check

/-! ## Canonicalization -/

/-- The message of a capability value of the wrong shape. -/
def shapeMismatch (reference : CapabilityRef) : ContractError :=
  .invariantViolation
    ("capability value shape does not match the definition for " ++ reference.display)

def shapeCheck (reference : CapabilityRef) (value : CapabilityValue)
    (catalog : CapabilityCatalog) : Except ContractError Unit := do
  let _ ← checkShape catalog (shapeMismatch reference) reference value
  pure ()

/-- The claim that survives among the claims of one exact reference. They must agree on the value;
    an enforced claim supersedes declared ones, and the survivor's provenance must be unique. -/
def chooseClaim (group : List CapabilityClaim) : Except ContractError (Option CapabilityClaim) :=
  match group with
  | [] => .ok none
  | first :: _ => do
    ensure (group.all fun claim => claim.value.same first.value)
      (.invariantViolation ("conflicting capability claims for " ++ first.reference.display))
    match group.filter fun claim => decide (claim.assurance = .enforced) with
    | head :: enforced =>
      ensure (enforced.all fun claim =>
          decide (claim.declarationProvenanceRef = head.declarationProvenanceRef))
        (.invariantViolation
          ("ambiguous ENFORCED capability claims for " ++ head.reference.display))
      pure (some head)
    | [] =>
      ensure (group.all fun claim =>
          decide (claim.declarationProvenanceRef = first.declarationProvenanceRef))
        (.invariantViolation ("ambiguous capability claims for " ++ first.reference.display))
      pure (some first)

/-- At most one claim for each exact reference, in the order of the references. The source sorts the
    claims by reference and walks over the runs of equal references; the sort is stable, so the run
    of a reference is the list of its claims in their original order. -/
def canonicalizeClaims (claims : List CapabilityClaim) (catalog : CapabilityCatalog) :
    Except ContractError (List CapabilityClaim) := do
  claims.forM fun claim => shapeCheck claim.reference claim.value catalog
  let kept := claims.filter fun claim => claim.value.isPresent
  let chosen ← (sortDedup id (kept.map CapabilityClaim.reference)).mapM fun reference =>
    chooseClaim (kept.filter fun claim => decide (claim.reference = reference))
  pure (chosen.filterMap id)

def canonicalizeCapabilityMap (m : CapabilityMap) (catalog : CapabilityCatalog) :
    Except ContractError CapabilityMap := do
  checkShapes catalog shapeMismatch m
  pure (presentEntries m)

def canonicalizeCredentialRefs (refs : List CredentialRef) : List CredentialRef :=
  sortDedup Named.text refs

def canonicalizeAgentType (agent : AgentType) (catalog : CapabilityCatalog) :
    Except ContractError AgentType := do
  agent.contract.validate catalog
  let contract := agent.contract.normalize
  let capabilities ← canonicalizeCapabilityMap contract.requiredCapabilities catalog
  pure { agent with contract := { contract with requiredCapabilities := capabilities } }

def canonicalizeSpawnSource (source : SpawnSource) (catalog : CapabilityCatalog) :
    Except ContractError SpawnSource := do
  validateSpawnSource source catalog
  let claims ← canonicalizeClaims source.claims catalog
  let envelope ← canonicalizeCapabilityMap source.functionalEnvelope catalog
  pure { source with claims := claims, functionalEnvelope := envelope }

def canonicalizeSourceConfig (config : SourceConfig) (source : SpawnSource)
    (catalog : CapabilityCatalog) : Except ContractError SourceConfig := do
  validateSourceConfig config source catalog
  let claims ← canonicalizeClaims config.claims catalog
  pure
    { config with
      claims := claims
      credentialRefs := canonicalizeCredentialRefs config.credentialRefs }

def canonicalizeTaskAgentRequirement (req : TaskAgentRequirement) (catalog : CapabilityCatalog) :
    Except ContractError TaskAgentRequirement :=
  req.normalize catalog

def canonicalizeGenerationPolicy (policy : GenerationPolicy) (catalog : CapabilityCatalog) :
    Except ContractError GenerationPolicy :=
  policy.normalize catalog

/-! ## Spellings -/

def matcherStr : MatcherKind → String
  | .bool => "BOOL"
  | .set => "SET"
  | .ordered => "ORDERED"
  | .quantity => "QUANTITY"
  | .exact => "EXACT"

def classStr : SecurityClass → String
  | .functional => "FUNCTIONAL"
  | .authority => "AUTHORITY"
  | .sandbox => "SANDBOX"
  | .continuity => "CONTINUITY"

def polarityStr : CapabilityPolarity → String
  | .ability => "ABILITY"
  | .restriction => "RESTRICTION"

def assuranceStr : Assurance → String
  | .declared => "DECLARED"
  | .enforced => "ENFORCED"

def lifecycleStr : LifecycleMode → String
  | .ephemeral => "EPHEMERAL"
  | .resident => "RESIDENT"
  | .revivable => "REVIVABLE"

def continuityStr : ContinuityMode → String
  | .none => "NONE"
  | .logical => "LOGICAL"

def networkStr : NetworkPolicy → String
  | .disabled => "DISABLED"
  | .restricted => "RESTRICTED"
  | .enabled => "ENABLED"

/-! ## Parts of documents -/

def u64Value (n : U64) : Value := .num (.posInt n)

def u32Value (n : U32) : Value := u64Value (n.castLE u32_le_u64)

def f64Value (q : ℚ≥0) : Value := .num (.float (.of q))

/-- An array of texts. -/
def textsValue {α : Type} (spell : α → String) (items : List α) : Value :=
  .arr (items.map fun a => .str (spell a))

/-- The two members that spell an exact reference. -/
def refFields {label : String} (key : String) (r : RevisionRef label) : List (String × Value) :=
  [(key, .str r.id), ("revision", u64Value r.revision)]

/-- An exact reference as an object of its own. -/
def refValue {label : String} (key : String) (r : RevisionRef label) : Value :=
  .object (refFields key r)

def capabilityValueValue : CapabilityValue → Value
  | .bool b => .object [("kind", .str "BOOL"), ("value", .bool b)]
  | .set items => .object [("kind", .str "SET"), ("value", textsValue id items.elems)]
  | .ordered class_ rank =>
    .object [("kind", .str "ORDERED"), ("class", .str class_), ("rank", u32Value rank)]
  | .quantity q => .object [("kind", .str "QUANTITY"), ("value", f64Value q)]
  | .exact v => .object [("kind", .str "EXACT"), ("value", v)]

def claimValue (claim : CapabilityClaim) : Value :=
  .object
    [("capability_id", .str claim.reference.id),
     ("revision", u64Value claim.reference.revision),
     ("value", capabilityValueValue claim.value),
     ("assurance", .str (assuranceStr claim.assurance)),
     ("declaration_provenance_ref", .optional .str claim.declarationProvenanceRef)]

def claimsValue (claims : List CapabilityClaim) : Value := .arr (claims.map claimValue)

def capabilityEntryValue (x : CapabilityRef × CapabilityValue) : Value :=
  .object
    [("capability_id", .str x.1.id),
     ("revision", u64Value x.1.revision),
     ("value", capabilityValueValue x.2)]

def capabilityMapValue (m : CapabilityMap) : Value := .arr (m.entries.map capabilityEntryValue)

def affinityValue : AffinityConstraint → Value
  | .any => .object [("kind", .str "ANY")]
  | .only tags => .object [("kind", .str "ONLY"), ("tags", textsValue id tags.elems)]

def sandboxPolicyValue (policy : Option SandboxPolicyRef) : Value :=
  .optional (refValue "sandbox_policy_id") policy

def taskRequirementValue (req : TaskRequirement) : Value :=
  .object
    [("information_function", .str req.informationFunction.asSql),
     ("required_capabilities", capabilityMapValue req.requiredCapabilities),
     ("required_affinity", textsValue id req.requiredAffinity.elems),
     ("required_workspace", .str req.requiredWorkspace.asSql),
     ("required_network", .str (networkStr req.requiredNetwork)),
     ("required_attempt_isolation", .bool req.requiredAttemptIsolation),
     ("required_continuity", .str (continuityStr req.requiredContinuity)),
     ("sandbox_policy", sandboxPolicyValue req.sandboxPolicy),
     ("required_anchor", .optional .str req.requiredAnchor),
     ("budget", f64Value req.budget)]

def generationPolicyValue (policy : GenerationPolicy) : Value :=
  .object
    [("allowed_information_functions",
       textsValue InformationFunction.asSql policy.allowedInformationFunctions),
     ("max_workspace", .str policy.maxWorkspace.asSql),
     ("max_network", .str (networkStr policy.maxNetwork)),
     ("requires_attempt_isolation", .bool policy.requiresAttemptIsolation),
     ("min_continuity", .str (continuityStr policy.minContinuity)),
     ("sandbox_policy", sandboxPolicyValue policy.sandboxPolicy),
     ("budget_ceiling", f64Value policy.budgetCeiling),
     ("allowed_affinity",
       .optional (fun tags => textsValue id tags.elems) policy.allowedAffinity),
     ("anchor_constraint", .optional .str policy.anchorConstraint)]

def securityValue (security : SecurityContract) : Value :=
  .object
    [("workspace", .str security.workspace.asSql),
     ("network", .str (networkStr security.network)),
     ("requires_attempt_isolation", .bool security.requiresAttemptIsolation)]

def contractValue (contract : AgentTypeContract) : Value :=
  .object
    [("allowed_information_functions",
       textsValue InformationFunction.asSql contract.allowedInformationFunctions),
     ("required_capabilities", capabilityMapValue contract.requiredCapabilities),
     ("affinity", affinityValue contract.affinity),
     ("budget_ceiling", f64Value contract.budgetCeiling),
     ("security", securityValue contract.security),
     ("lifecycle", textsValue lifecycleStr contract.lifecycle.elems),
     ("continuity", .str (continuityStr contract.continuity)),
     ("sandbox_policy", sandboxPolicyValue contract.sandboxPolicy),
     ("anchor_constraint", .optional .str contract.anchorConstraint)]

def physicalSafetyValue (safety : PhysicalSafety) : Value :=
  .object
    [("attempt_isolation", .bool safety.attemptIsolation),
     ("workspace_modes", textsValue WorkspaceMode.asSql safety.enforceableWorkspaceModes),
     ("network_modes", textsValue networkStr safety.enforceableNetworkModes.elems)]

def sourceConfigRefValue (r : SourceConfigRef) : Value :=
  .object
    [("source_id", .str r.source.id),
     ("source_revision", u64Value r.source.revision),
     ("config_id", .str r.configId),
     ("revision", u64Value r.revision)]

/-! ## Documents -/

def canonicalFormatVersion : String := "agentype-contract/1"

/-- A document of a kind: its envelope and its own members. -/
def envelope (kind : String) (fields : List (String × Value)) : Value :=
  .object (("canonical", .str canonicalFormatVersion) :: ("kind", .str kind) :: fields)

def canonicalAgentTypeDocument (agent : AgentType) : Value :=
  envelope "AGENT_TYPE"
    [("type_id", .str agent.typeRef.id),
     ("revision", u64Value agent.typeRef.revision),
     ("based_on", .optional (refValue "type_id") agent.basedOn),
     ("contract", contractValue agent.contract)]

def canonicalSpawnSourceDocument (source : SpawnSource) : Value :=
  envelope "SPAWN_SOURCE"
    [("source_id", .str source.sourceRef.id),
     ("revision", u64Value source.sourceRef.revision),
     ("adapter_policy", refValue "adapter_policy_id" source.adapterPolicy),
     ("lifecycle_modes", textsValue lifecycleStr source.lifecycleModes.elems),
     ("continuity_modes", textsValue continuityStr source.continuityModes.elems),
     ("functional_envelope", capabilityMapValue source.functionalEnvelope),
     ("claims", claimsValue source.claims)]

/-- The locator says where an external configuration body lives; it is part of the revision. -/
def canonicalSourceConfigDocument (config : SourceConfig) (configLocator : Option String) : Value :=
  envelope "SOURCE_CONFIG"
    [("source_id", .str config.configRef.source.id),
     ("source_revision", u64Value config.configRef.source.revision),
     ("config_id", .str config.configRef.configId),
     ("revision", u64Value config.configRef.revision),
     ("config_digest", .str config.configDigest.text),
     ("config_locator", .optional .str configLocator),
     ("lifecycle_modes",
       .optional (fun modes => textsValue lifecycleStr modes.elems) config.lifecycleModes),
     ("continuity_modes",
       .optional (fun modes => textsValue continuityStr modes.elems) config.continuityModes),
     ("credential_refs", textsValue Named.text config.credentialRefs),
     ("claims", claimsValue config.claims)]

def canonicalAdapterBindingPolicyDocument (policy : AdapterBindingPolicy) : Value :=
  envelope "ADAPTER_BINDING_POLICY"
    [("adapter_policy_id", .str policy.policyRef.id),
     ("revision", u64Value policy.policyRef.revision),
     ("adapter_kind", .str policy.adapterKind),
     ("binding_ref", .str policy.bindingRef),
     ("required_safety", physicalSafetyValue policy.requiredSafety)]

def canonicalCapabilityDefinitionDocument (reference : CapabilityRef)
    (definition : CapabilityDefinition) : Value :=
  envelope "CAPABILITY_DEFINITION"
    [("capability_id", .str reference.id),
     ("revision", u64Value reference.revision),
     ("matcher_kind", .str (matcherStr definition.matcherKind)),
     ("security_class", .str (classStr definition.securityClass)),
     ("polarity", .str (polarityStr definition.polarity))]

def canonicalTaskAgentRequirementDocument (req : TaskAgentRequirement) : Value :=
  envelope "TASK_AGENT_REQUIREMENT"
    [("required_type", refValue "type_id" req.requiredType),
     ("hard", taskRequirementValue req.hard)]

def canonicalGenerationPolicyDocument (policy : GenerationPolicy) : Value :=
  envelope "GENERATION_POLICY" [("policy", generationPolicyValue policy)]

def canonicalProvisioningBindingDocument (binding : ProvisioningBinding) : Value :=
  envelope "PROVISIONING_BINDING"
    [("provisioning_binding_id", .str binding.provisioningBindingId),
     ("logical_agent_id", .str binding.logicalAgentId),
     ("incarnation_id", .str binding.incarnationId),
     ("agent_type", refValue "type_id" binding.agentType),
     ("spawn_source", refValue "source_id" binding.spawnSource),
     ("source_config", sourceConfigRefValue binding.sourceConfig),
     ("adapter_policy", refValue "adapter_policy_id" binding.adapterPolicy),
     ("adapter_kind", .str binding.adapterKind),
     ("adapter_binding_key", .str binding.adapterBindingKey),
     ("attested_materialization_digest", .str binding.attestedMaterializationDigest.text),
     ("provisioning_protocol", .str binding.provisioningProtocol),
     ("effective_security", physicalSafetyValue binding.effectiveSecurity)]

def canonicalBindingSnapshotDocument (snapshot : BindingSnapshot) : Value :=
  envelope "BINDING_SNAPSHOT"
    [("snapshot_id", .str snapshot.snapshotId),
     ("execution_id", .str snapshot.executionId),
     ("provisioning_binding_id", .str snapshot.provisioningBindingId),
     ("adapter_kind", .str snapshot.adapterKind),
     ("adapter_binding_key", .str snapshot.adapterBindingKey),
     ("spawn_source", refValue "source_id" snapshot.spawnSource),
     ("source_config", sourceConfigRefValue snapshot.sourceConfig),
     ("source_config_digest", .str snapshot.sourceConfigDigest.text),
     ("attested_materialization_digest", .str snapshot.attestedMaterializationDigest.text),
     ("launch_descriptor", .str snapshot.launchDescriptor),
     ("execution_target", .str snapshot.executionTarget),
     ("execution_profile", .str snapshot.executionProfile),
     ("required_capabilities", capabilityMapValue snapshot.requiredCapabilities),
     ("enforceable_security", physicalSafetyValue snapshot.enforceableSecurity),
     ("effective_isolation", .bool snapshot.effectiveIsolation),
     ("effective_workspace", .str snapshot.effectiveWorkspace.asSql),
     ("effective_network", .str (networkStr snapshot.effectiveNetwork)),
     ("credential_refs_digest", .optional .str snapshot.credentialRefsDigest),
     ("resolver_version", .str snapshot.resolverVersion)]

/-! ## Bytes and digests -/

section Bytes

variable {T D : Type} (F : DocFormat T D)

def toBytes (document : Value) : T := F.print document

def contentDigest (bytes : T) : D := F.digest bytes

/-- The digest of an opaque configuration body, as text. -/
def canonicalJsonBodyDigest (body : Value) : String :=
  F.digestText (contentDigest F (toBytes F body))

end Bytes

end Agentype.Agent

import Agentype.Agent.Records

/-!
# `Agentype.Agent.Predicates` — the relations between agent types, tasks and sources

The four relations of the agent contract, as the code computes them: whether an agent type can
execute a task, whether a source and its configuration can provision an agent type (or an agent type
for one task), which of two types is more specific for a task, and whether one type is a valid
refinement of another. Each is a chain of checks that reports the first one that fails.

## Contents
- `resolveClaim`, `validateClaims`, `validateSpawnSource`, `validateSourceConfig`.
- `canExecute`, `canProvision`, `canProvisionTask`.
- `authorityNoWider`, `moreSpecificFor`, `isValidRefinement`.
-/

namespace Agentype.Agent

open Check

/-! ## Claims -/

/-- The claims about a reference that denote presence. -/
def matchingClaims (claims : List CapabilityClaim) (reference : CapabilityRef) :
    List CapabilityClaim :=
  claims.filter fun c => decide (c.reference = reference) && c.value.isPresent

/-- The claim about a reference: an enforced one if there is one, else the first. Claims that
    disagree are an error. -/
def resolveClaim (claims : List CapabilityClaim) (reference : CapabilityRef) :
    Except ContractError (Option CapabilityClaim) :=
  match matchingClaims claims reference with
  | [] => .ok none
  | first :: rest =>
    if (first :: rest).any fun c => !c.value.same first.value then
      .error (.invariantViolation ("conflicting capability claims for " ++ reference.display))
    else
      .ok (((first :: rest).find? fun c => decide (c.assurance = .enforced)).or (some first))

/-- A capability as a contract map holds it: an explicit absence is no entry. -/
def presentCap (m : CapabilityMap) (reference : CapabilityRef) : Option CapabilityValue :=
  (m.lookup reference).filter CapabilityValue.isPresent

def continuitySatisfies (sourceModes : SortedSet ContinuityMode) (required : ContinuityMode) :
    Bool :=
  sourceModes.elems.any fun mode => decide (mode ≥ required)

def validateClaims (claims : List CapabilityClaim) (catalog : CapabilityCatalog) :
    Except ContractError Unit := do
  claims.forM fun c => do
    let _ ← checkShape catalog (.invariantViolation
      ("claim value shape does not match the definition for " ++ c.reference.display))
      c.reference c.value
    pure ()
  (claims.map CapabilityClaim.reference).eraseDups.forM fun r => do
    let _ ← resolveClaim claims r
    pure ()

/-- Whether the catalog puts a capability in a class that needs evidence. -/
def needsEvidence (catalog : CapabilityCatalog) (reference : CapabilityRef) : Bool :=
  ((catalog.lookup reference).map fun d => d.securityClass.requiresEvidence).getD false

/-- A functional declaration stays within the envelope; the others are left to evidence. -/
def checkDeclaration (envelope : CapabilityMap) (catalog : CapabilityCatalog)
    (exceeds : String → ContractError) (claim : CapabilityClaim) : Except ContractError Unit :=
  if !claim.value.isPresent then .ok ()
  else if needsEvidence catalog claim.reference then .ok ()
  else do
    let ceiling ← present (envelope.lookup claim.reference)
      (.capabilityMismatch claim.reference.id)
    ensure (valueWithin ceiling claim.value) (exceeds claim.reference.id)

def validateSpawnSource (source : SpawnSource) (catalog : CapabilityCatalog) :
    Except ContractError Unit := do
  validateClaims source.claims catalog
  checkShapes catalog (fun r => .invariantViolation
    ("source envelope value shape does not match the definition for " ++ r.display))
    source.functionalEnvelope
  source.claims.forM (checkDeclaration source.functionalEnvelope catalog fun id =>
    .invariantViolation ("source declaration for " ++ id ++ " exceeds its provisionable envelope"))

def validateSourceConfig (config : SourceConfig) (source : SpawnSource)
    (catalog : CapabilityCatalog) : Except ContractError Unit := do
  ensure (config.configRef.source = source.sourceRef) (.sourceConfigInvalid
    "config does not belong to this exact source revision")
  ensure (config.lifecycleModes.all fun modes => modes.subset source.lifecycleModes)
    (.sourceConfigInvalid "config lifecycle modes widen the source envelope")
  -- Continuity is an ordered minimum: a stronger mode of the source serves a weaker one.
  ensure (config.continuityModes.all fun modes =>
      modes.elems.all fun needed => continuitySatisfies source.continuityModes needed)
    (.sourceConfigInvalid "config continuity modes exceed the source envelope")
  validateClaims config.claims catalog
  config.claims.forM (checkDeclaration source.functionalEnvelope catalog fun id =>
    .invariantViolation ("config declaration for " ++ id ++ " exceeds the source envelope"))

/-! ## Execution -/

/-- The effective restriction of two restrictions. -/
def restrictionJoin : MatcherKind → CapabilityValue → CapabilityValue → Option CapabilityValue :=
  joinRequirementValues

def affinityAccepts : AffinityConstraint → SortedSet String → Bool
  | .any, _ => true
  | .only allowed, required => required.subset allowed

/-- Whether the sandbox a task requires is one the agent allows. -/
def sandboxPolicyWithin : Option SandboxPolicyRef → Option SandboxPolicyRef → Bool
  | _, none => true
  | none, _ => true
  | some r, some a => decide (r = a)

/-- Whether a contract meets one capability requirement of a task. A restriction need not be
    advertised, only be compatible with the contract's own. -/
def executesCapability (contract : AgentTypeContract) (catalog : CapabilityCatalog)
    (reference : CapabilityRef) (required : CapabilityValue) : Except ContractError Unit := do
  let definition ← checkShape catalog (.invariantViolation
    ("Task capability value shape does not match the definition for " ++ reference.display))
    reference required
  if !required.isPresent then pure ()
  else if definition.polarity = .restriction then
    match presentCap contract.requiredCapabilities reference with
    | some agentValue =>
      ensure (restrictionJoin definition.matcherKind agentValue required).isSome
        (.capabilityMismatch reference.id)
    | none => pure ()
  else
    let provided ← present (presentCap contract.requiredCapabilities reference)
      (.capabilityMismatch reference.id)
    ensure (valueSatisfies definition.matcherKind required provided)
      (.capabilityMismatch reference.id)

def canExecute (agent : AgentType) (req : TaskRequirement) (catalog : CapabilityCatalog) :
    Except ContractError Unit := do
  agent.contract.validate catalog
  ensure (agent.contract.allowedInformationFunctions.contains req.informationFunction)
    (.capabilityMismatch "information_function")
  req.requiredCapabilities.entries.forM fun x =>
    executesCapability agent.contract catalog x.1 x.2
  ensure (affinityAccepts agent.contract.affinity req.requiredAffinity)
    (.capabilityMismatch "affinity")
  ensure (workspaceRank req.requiredWorkspace ≤ workspaceRank agent.contract.security.workspace)
    (.securityUnenforceable "agent workspace policy is narrower than the Task requirement")
  ensure (networkRank req.requiredNetwork ≤ networkRank agent.contract.security.network)
    (.securityUnenforceable "agent network policy is narrower than the Task requirement")
  ensure (req.requiredContinuity ≤ agent.contract.continuity) (.capabilityMismatch "continuity")
  ensure (sandboxPolicyWithin req.sandboxPolicy agent.contract.sandboxPolicy)
    (.capabilityMismatch "sandbox_policy")
  ensure (req.requiredAnchor.all fun required =>
      agent.contract.anchorConstraint.all fun constraint => decide (constraint = required))
    (.capabilityMismatch "anchor")
  ensure (req.budget ≤ agent.contract.budgetCeiling) (.capabilityMismatch "budget")

/-! ## Provisioning -/

/-- The declaration of a configuration, else of its source, else the ceiling. -/
def preferredValue (configClaim sourceClaim : Option CapabilityClaim) (ceiling : CapabilityValue) :
    CapabilityValue :=
  ((configClaim.map CapabilityClaim.value).or (sourceClaim.map CapabilityClaim.value)).getD ceiling

/-- Whether an environment provides one capability an agent type requires: by evidence if its class
    needs it, else by what the source and configuration declare within the envelope. -/
def provisionsCapability (source : SpawnSource) (config : SourceConfig)
    (evidence : ResolvedProvisioningEvidence) (catalog : CapabilityCatalog)
    (reference : CapabilityRef) (required : CapabilityValue) : Except ContractError Unit := do
  let definition ← present (catalog.lookup reference) (.capabilityMismatch reference.id)
  if !required.isPresent then pure ()
  else if definition.securityClass.requiresEvidence then
    let provided ← present (evidence.enforcedCapability reference) (.securityUnenforceable
      ("capability " ++ reference.display ++ " has no imported enforcement evidence"))
    ensure (valueSatisfies definition.matcherKind required provided)
      (.capabilityMismatch reference.id)
  else
    let ceiling ← present (presentCap source.functionalEnvelope reference)
      (.capabilityMismatch reference.id)
    let sourceClaim ← resolveClaim source.claims reference
    ensure (sourceClaim.all fun c => valueWithin ceiling c.value) (.invariantViolation
      ("source declaration for " ++ reference.id ++ " exceeds its provisionable envelope"))
    let configClaim ← resolveClaim config.claims reference
    ensure (configClaim.all fun c => valueWithin ceiling c.value) (.invariantViolation
      ("config declaration for " ++ reference.id ++ " exceeds the source envelope"))
    ensure (valueSatisfies definition.matcherKind required
        (preferredValue configClaim sourceClaim ceiling))
      (.capabilityMismatch reference.id)

def canProvision (agent : AgentType) (source : SpawnSource) (config : SourceConfig)
    (evidence : ResolvedProvisioningEvidence) (catalog : CapabilityCatalog) :
    Except ContractError Unit := do
  agent.contract.validate catalog
  validateSpawnSource source catalog
  validateSourceConfig config source catalog
  ensure (source.status = .active && config.status = .active)
    (.sourceConfigInvalid "source or config is not active")
  ensure (evidence.adapterPolicy = source.adapterPolicy)
    (.evidencePolicyMismatch source.adapterPolicy.id evidence.adapterPolicy.id)
  ensure (evidence.sourceRef = source.sourceRef && evidence.sourceConfigRef = config.configRef &&
      evidence.configDigest = config.configDigest)
    (.evidenceSubjectMismatch "evidence was not resolved for this exact source config digest")
  ensure (agent.contract.lifecycle.subset (config.effectiveLifecycle source))
    (.capabilityMismatch "lifecycle")
  ensure (continuitySatisfies (config.effectiveContinuity source) agent.contract.continuity)
    (.capabilityMismatch "continuity")
  agent.contract.requiredCapabilities.entries.forM fun x =>
    provisionsCapability source config evidence catalog x.1 x.2
  let safety := evidence.enforceableSafety
  ensure (safety.enforcesWorkspace agent.contract.security.workspace) (.securityUnenforceable
    "physical environment cannot enforce the required workspace mode")
  ensure (safety.enforcesNetwork agent.contract.security.network) (.securityUnenforceable
    "physical environment cannot enforce the required network policy")
  ensure (!agent.contract.security.requiresAttemptIsolation || safety.attemptIsolation)
    (.securityUnenforceable "attempt isolation is required but not enforceable")
  ensure (agent.contract.sandboxPolicy.all evidence.enforcesSandboxPolicy) (.securityUnenforceable
    ("sandbox policy " ++ (agent.contract.sandboxPolicy.map RevisionRef.display).getD "" ++
      " is not enforced by imported evidence"))

/-- The functional value a source and configuration provide. -/
def effectiveFunctionalValue (source : SpawnSource) (config : SourceConfig)
    (reference : CapabilityRef) : Except ContractError CapabilityValue := do
  let ceiling ← present (presentCap source.functionalEnvelope reference)
    (.capabilityMismatch reference.id)
  let sourceClaim ← resolveClaim source.claims reference
  let configClaim ← resolveClaim config.claims reference
  pure (preferredValue configClaim sourceClaim ceiling)

/-- The restriction in force for a task: its own, joined with the one of the agent type. -/
def effectiveRestriction (contract : AgentTypeContract) (definition : CapabilityDefinition)
    (reference : CapabilityRef) (taskValue : CapabilityValue) :
    Except ContractError CapabilityValue :=
  match presentCap contract.requiredCapabilities reference with
  | some agentValue =>
    present (restrictionJoin definition.matcherKind agentValue taskValue)
      (.capabilityMismatch reference.id)
  | none => .ok taskValue

/-- Whether an environment proves one restriction of a task, joined with the agent type's. -/
def provisionsRestriction (agent : AgentType) (source : SpawnSource) (config : SourceConfig)
    (evidence : ResolvedProvisioningEvidence) (catalog : CapabilityCatalog)
    (reference : CapabilityRef) (taskValue : CapabilityValue) : Except ContractError Unit := do
  let definition ← present (catalog.lookup reference) (.capabilityMismatch reference.id)
  if !taskValue.isPresent then pure ()
  else if definition.polarity ≠ .restriction then pure ()
  else
    let effective ← effectiveRestriction agent.contract definition reference taskValue
    if definition.securityClass.requiresEvidence then
      let provided ← present (evidence.enforcedCapability reference) (.securityUnenforceable
        ("Task restriction " ++ reference.display ++ " has no imported enforcement evidence"))
      ensure (valueSatisfies definition.matcherKind effective provided)
        (.capabilityMismatch reference.id)
    else
      let provided ← effectiveFunctionalValue source config reference
      ensure (valueSatisfies definition.matcherKind effective provided)
        (.capabilityMismatch reference.id)

def canProvisionTask (agent : AgentType) (source : SpawnSource) (config : SourceConfig)
    (evidence : ResolvedProvisioningEvidence) (catalog : CapabilityCatalog)
    (task : TaskRequirement) : Except ContractError Unit := do
  canExecute agent task catalog
  canProvision agent source config evidence catalog
  let safety := evidence.enforceableSafety
  ensure (safety.enforcesWorkspace task.requiredWorkspace) (.securityUnenforceable
    "environment cannot enforce the Task workspace mode")
  ensure (safety.enforcesNetwork task.requiredNetwork) (.securityUnenforceable
    "environment cannot enforce the Task network policy")
  ensure (!(agent.contract.security.requiresAttemptIsolation || task.requiredAttemptIsolation) ||
      safety.attemptIsolation)
    (.securityUnenforceable
      "attempt isolation is required by the AgentType or Task but not enforceable")
  ensure (task.sandboxPolicy.all evidence.enforcesSandboxPolicy) (.securityUnenforceable
    ("Task sandbox policy " ++ (task.sandboxPolicy.map RevisionRef.display).getD "" ++
      " is not enforced by imported evidence"))
  ensure (continuitySatisfies (config.effectiveContinuity source) task.requiredContinuity)
    (.capabilityMismatch "continuity")
  task.requiredCapabilities.entries.forM fun x =>
    provisionsRestriction agent source config evidence catalog x.1 x.2

/-! ## Authority -/

/-- `derived` advertises no more ability than `base`. -/
def abilityValueNoWider : MatcherKind → CapabilityValue → CapabilityValue → Bool
  | .bool, .bool b, .bool d => !d || b
  | .exact, b, d => b.same d
  | .set, .set b, .set d => d.subset b
  | .ordered, .ordered bc br, .ordered dc dr => decide (bc = dc) && decide (dr ≤ br)
  | .quantity, .quantity b, .quantity d => decide (d ≤ b)
  | _, _, _ => false

/-- `derived` is at least as restrictive as `base`. -/
def restrictionValueNoWider : MatcherKind → CapabilityValue → CapabilityValue → Bool
  | .bool, .bool b, .bool d => !b || d
  | .exact, b, d => b.same d
  | .set, .set b, .set d => b.subset d
  | .ordered, .ordered bc br, .ordered dc dr => decide (bc = dc) && decide (dr ≥ br)
  | .quantity, .quantity b, .quantity d => decide (d ≥ b)
  | _, _, _ => false

/-- A capability of `derived` is one of `base`, or an added restriction. -/
def addedNoWider (base : AgentTypeContract) (catalog : CapabilityCatalog)
    (x : CapabilityRef × CapabilityValue) : Bool :=
  if !x.2.isPresent then true
  else if (presentCap base.requiredCapabilities x.1).isSome then true
  else
    match catalog.lookup x.1 with
    | none => false
    | some definition => decide (definition.polarity ≠ .ability)

/-- A capability of `base` is kept no wider in `derived`, or is a dropped ability. -/
def keptNoWider (derived : AgentTypeContract) (catalog : CapabilityCatalog)
    (x : CapabilityRef × CapabilityValue) : Bool :=
  if !x.2.isPresent then true
  else
    match catalog.lookup x.1 with
    | none => false
    | some definition =>
      match presentCap derived.requiredCapabilities x.1 with
      | none => decide (definition.polarity ≠ .restriction)
      | some derivedValue =>
        match definition.polarity with
        | .ability => abilityValueNoWider definition.matcherKind x.2 derivedValue
        | .restriction => restrictionValueNoWider definition.matcherKind x.2 derivedValue

def capabilityProvisionNoWider (derived base : AgentTypeContract) (catalog : CapabilityCatalog) :
    Bool :=
  derived.requiredCapabilities.entries.all (addedNoWider base catalog) &&
    base.requiredCapabilities.entries.all (keptNoWider derived catalog)

def anchorNoWider (derived base : Option String) : Bool :=
  match base with
  | none => true
  | some _ => decide (derived = base)

def affinityNoWider : AffinityConstraint → AffinityConstraint → Bool
  | .any, .any => true
  | .any, .only _ => false
  | .only _, .any => true
  | .only x, .only y => x.subset y

def sandboxPolicyNoWider (derived base : Option SandboxPolicyRef) : Bool :=
  match base with
  | none => true
  | some _ => decide (derived = base)

/-- `a` grants no more authority than `b`. Continuity is not part of this order. -/
def authorityNoWider (a b : AgentTypeContract) (catalog : CapabilityCatalog) : Bool :=
  (a.allowedInformationFunctions.all fun f => b.allowedInformationFunctions.contains f) &&
    affinityNoWider a.affinity b.affinity &&
    decide (a.budgetCeiling ≤ b.budgetCeiling) &&
    a.lifecycle.subset b.lifecycle &&
    decide (workspaceRank a.security.workspace ≤ workspaceRank b.security.workspace) &&
    decide (networkRank a.security.network ≤ networkRank b.security.network) &&
    (!b.security.requiresAttemptIsolation || a.security.requiresAttemptIsolation) &&
    sandboxPolicyNoWider a.sandboxPolicy b.sandboxPolicy &&
    anchorNoWider a.anchorConstraint b.anchorConstraint &&
    capabilityProvisionNoWider a b catalog

def moreSpecificFor (a b : AgentType) (req : TaskRequirement) (catalog : CapabilityCatalog) :
    Bool :=
  if a.typeRef = b.typeRef then false
  else if !isOk (canExecute a req catalog) || !isOk (canExecute b req catalog) then false
  else
    authorityNoWider a.contract b.contract catalog &&
      !authorityNoWider b.contract a.contract catalog

def isValidRefinement (base derived : AgentType) (catalog : CapabilityCatalog) :
    Except ContractError Unit := do
  base.contract.validate catalog
  derived.contract.validate catalog
  let b := base.contract
  let d := derived.contract
  ensure (affinityNoWider d.affinity b.affinity)
    (.invalidRefinement "derived affinity broadens base affinity")
  ensure (d.budgetCeiling ≤ b.budgetCeiling)
    (.invalidRefinement "derived budget exceeds base budget")
  ensure (d.lifecycle.subset b.lifecycle)
    (.invalidRefinement "derived lifecycle widens base lifecycle")
  ensure (b.continuity ≤ d.continuity)
    (.invalidRefinement "derived continuity weakens base continuity")
  ensure (sandboxPolicyNoWider d.sandboxPolicy b.sandboxPolicy)
    (.invalidRefinement "derived sandbox policy is wider than base sandbox policy")
  ensure (b.anchorConstraint.all fun constraint => decide (d.anchorConstraint = some constraint))
    (.invalidRefinement "derived anchor does not satisfy base anchor constraint")
  ensure (workspaceRank d.security.workspace ≤ workspaceRank b.security.workspace)
    (.invalidRefinement "derived workspace policy widens base workspace policy")
  ensure (networkRank d.security.network ≤ networkRank b.security.network)
    (.invalidRefinement "derived network policy widens base network policy")
  ensure (!b.security.requiresAttemptIsolation || d.security.requiresAttemptIsolation)
    (.invalidRefinement "derived type weakens required attempt isolation")
  ensure (d.allowedInformationFunctions.all fun f => b.allowedInformationFunctions.contains f)
    (.invalidRefinement "derived type adds an information function not allowed by base")
  ensure (capabilityProvisionNoWider d b catalog)
    (.invalidRefinement "derived capability constraints are wider than base")

end Agentype.Agent

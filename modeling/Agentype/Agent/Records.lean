import Agentype.Agent.Capability

/-!
# `Agentype.Agent.Records` — the records of agent contracts

Agent types, task requirements, spawn sources and their configurations, adapter policies and
imported evidence: the values the contract predicates compare and the catalog stores.

The records whose fields are private in the source carry what their constructors check. A contract
is *normal* when its list of information functions is sorted and has no repetition; the documents of
the catalog are written from normal records.

## Contents
- `AgentTypeRef` and its siblings, `SourceConfigRef`, `Budget`, `ConfigDigest`, `CredentialRef`.
- `AgentTypeContract`, `AgentType`, `TaskRequirement`, `SpawnSource`, `SourceConfig`,
  `PhysicalSafety`, `AdapterBindingPolicy`, `ResolvedProvisioningEvidence`,
  `ProvisioningBinding`, `BindingSnapshot`.
- `AgentTypeContract.validate_ok`.
-/

namespace Agentype.Agent

open Check

variable {catalog : CapabilityCatalog}

/-! ## Scalars -/

/-- A finite non-negative amount; negative zero is zero. -/
abbrev Budget := ℚ≥0

def Budget.new (value : Double) : Except ContractError Budget :=
  if h : 0 ≤ value.toRat then .ok ⟨value.toRat, h⟩ else .error (.invalidNumber "budget")

/-- A text that is not blank. -/
structure Named where
  text : String
  named : isBlank text = false

namespace Named

def new (reason : String) (text : String) : Except ContractError Named :=
  if h : isBlank text = true then .error (.invalidRef reason)
  else .ok ⟨text, isBlank_eq_false h⟩

@[ext] theorem ext {n n' : Named} (h : n.text = n'.text) : n = n' := by
  cases n
  cases n'
  simp_all

instance : DecidableEq Named := fun n n' =>
  decidable_of_iff (n.text = n'.text) ⟨ext, congrArg Named.text⟩

@[simp] theorem new_self (reason : String) (n : Named) : new reason n.text = .ok n := by
  simp [new, n.named]

end Named

abbrev ConfigDigest := Named

def ConfigDigest.new (digest : String) : Except ContractError ConfigDigest :=
  Named.new "config digest cannot be empty" digest

def isLowerHex (c : Char) : Bool := c.isDigit || ('a' ≤ c && c ≤ 'f')

/-- `sha256:` and 64 lowercase hexadecimal digits. -/
def isCanonicalDigest (text : String) : Bool :=
  text.toList.take 7 == "sha256:".toList && (text.toList.drop 7).length == 64 &&
    (text.toList.drop 7).all isLowerHex

def ConfigDigest.validateCanonical (digest : ConfigDigest) : Except ContractError Unit :=
  ensure (isCanonicalDigest digest.text)
    (.invalidRef "config digest must have the form sha256:<64 lowercase hex>")

abbrev CredentialRef := Named

def CredentialRef.new (reference : String) : Except ContractError CredentialRef :=
  Named.new "credential reference cannot be empty" reference

/-! ## References -/

abbrev AgentTypeRef := RevisionRef "agent type"
abbrev SpawnSourceRef := RevisionRef "spawn source"
abbrev SandboxPolicyRef := RevisionRef "sandbox policy"
abbrev AdapterPolicyRef := RevisionRef "adapter policy"

/-- A configuration revision of one exact source revision. -/
structure SourceConfigRef where
  source : SpawnSourceRef
  config : RevisionRef "source config"
  deriving DecidableEq

namespace SourceConfigRef

def new (source : SpawnSourceRef) (configId : String) (revision : U64) :
    Except ContractError SourceConfigRef := do
  let config ← RevisionRef.new configId revision
  pure ⟨source, config⟩

def configId (r : SourceConfigRef) : String := r.config.id
def revision (r : SourceConfigRef) : U64 := r.config.revision

@[simp] theorem new_self (r : SourceConfigRef) : new r.source r.configId r.revision = .ok r := by
  simp [new, configId, revision]

/-- References are ordered by source, then by configuration. -/
def rank (r : SourceConfigRef) : SpawnSourceRef ×ₗ RevisionRef "source config" :=
  toLex (r.source, r.config)

theorem rank_injective : Function.Injective rank := by
  intro r r' h
  have h' : (r.source, r.config) = (r'.source, r'.config) := toLex.injective h
  cases r
  cases r'
  simp_all

instance : LinearOrder SourceConfigRef := LinearOrder.lift' rank rank_injective

end SourceConfigRef

/-! ## Modes -/

inductive ContinuityMode where
  | none | logical
  deriving DecidableEq, Repr

def ContinuityMode.rank : ContinuityMode → Nat
  | none => 0
  | logical => 1

inductive LifecycleMode where
  | ephemeral | resident | revivable
  deriving DecidableEq, Repr

def LifecycleMode.rank : LifecycleMode → Nat
  | ephemeral => 0
  | resident => 1
  | revivable => 2

inductive NetworkPolicy where
  | disabled | restricted | enabled
  deriving DecidableEq, Repr

def networkRank : NetworkPolicy → Nat
  | .disabled => 0
  | .restricted => 1
  | .enabled => 2

def workspaceRank : WorkspaceMode → Nat
  | .readOnly => 0
  | .write => 1

instance : LinearOrder ContinuityMode := LinearOrder.lift' ContinuityMode.rank
  (by intro a b; cases a <;> cases b <;> simp [ContinuityMode.rank])

instance : LinearOrder LifecycleMode := LinearOrder.lift' LifecycleMode.rank
  (by intro a b; cases a <;> cases b <;> simp [LifecycleMode.rank])

instance : LinearOrder NetworkPolicy := LinearOrder.lift' networkRank
  (by intro a b; cases a <;> cases b <;> simp [networkRank])

/-! ## Agent types -/

structure SecurityContract where
  workspace : WorkspaceMode
  network : NetworkPolicy
  requiresAttemptIsolation : Bool
  deriving DecidableEq, Repr

/-- Which affinity tags a task may require. -/
inductive AffinityConstraint where
  | any
  | only (tags : SortedSet String)
  deriving DecidableEq

structure AgentTypeContract where
  allowedInformationFunctions : List InformationFunction
  requiredCapabilities : CapabilityMap
  affinity : AffinityConstraint
  budgetCeiling : Budget
  security : SecurityContract
  lifecycle : SortedSet LifecycleMode
  continuity : ContinuityMode
  sandboxPolicy : Option SandboxPolicyRef
  anchorConstraint : Option String
  deriving DecidableEq

/-- Resolve a capability and check the shape of a value given for it; `mismatch` is the error of
    the caller for a value of another shape. -/
def checkShape (catalog : CapabilityCatalog) (mismatch : ContractError) (reference : CapabilityRef)
    (value : CapabilityValue) : Except ContractError CapabilityDefinition := do
  let definition ← present (catalog.lookup reference) (.capabilityMismatch reference.id)
  ensure (definition.matcherKind = value.matcherKind) mismatch
  pure definition

theorem checkShape_ok {e : ContractError} {r : CapabilityRef} {v : CapabilityValue}
    {d : CapabilityDefinition} :
    checkShape catalog e r v = .ok d ↔
      catalog.lookup r = some d ∧ d.matcherKind = v.matcherKind := by
  simp only [checkShape, bind_ok, present_ok, ensure_ok, pure_ok, decide_eq_true_eq]
  constructor
  · rintro ⟨d', hd, _, hm, rfl⟩
    exact ⟨hd, hm⟩
  · rintro ⟨hd, hm⟩
    exact ⟨d, hd, (), hm, rfl⟩

/-- Every value of a map is of the shape its capability is defined with. -/
def ShapedBy (catalog : CapabilityCatalog) (m : CapabilityMap) : Prop :=
  ∀ r v, m.lookup r = some v → ∃ d, catalog.lookup r = some d ∧ d.matcherKind = v.matcherKind

/-- Check the shapes of a whole map. -/
def checkShapes (catalog : CapabilityCatalog) (mismatch : CapabilityRef → ContractError)
    (m : CapabilityMap) : Except ContractError Unit :=
  m.entries.forM fun x => do
    let _ ← checkShape catalog (mismatch x.1) x.1 x.2
    pure ()

theorem checkShapes_ok {e : CapabilityRef → ContractError} {m : CapabilityMap} {u : Unit} :
    checkShapes catalog e m = .ok u ↔ ShapedBy catalog m := by
  rw [checkShapes, forM_ok, SortedMap.forall_entries]
  simp [checkShape_ok, ShapedBy]

namespace AgentTypeContract

/-- Put the list of information functions in canonical form. -/
def normalize (c : AgentTypeContract) : AgentTypeContract :=
  { c with
    allowedInformationFunctions :=
      sortDedup InformationFunction.asSql c.allowedInformationFunctions }

def validate (c : AgentTypeContract) (catalog : CapabilityCatalog) : Except ContractError Unit := do
  ensure (!c.lifecycle.elems.isEmpty) (.invariantViolation
    "agent lifecycle mode set must not be empty (uninhabited type)")
  checkShapes catalog (fun r => .invariantViolation
    ("capability value shape does not match the definition for " ++ r.display))
    c.requiredCapabilities

/-- A contract validates when it admits some lifecycle and its capabilities are defined with the
    shapes it uses. -/
theorem validate_ok {c : AgentTypeContract} {u : Unit} :
    c.validate catalog = .ok u ↔
      c.lifecycle.elems ≠ [] ∧ ShapedBy catalog c.requiredCapabilities := by
  simp [validate, checkShapes_ok]

end AgentTypeContract

structure AgentType where
  typeRef : AgentTypeRef
  basedOn : Option AgentTypeRef
  contract : AgentTypeContract
  deriving DecidableEq

/-- What a task demands of the agent that executes it. -/
structure TaskRequirement where
  informationFunction : InformationFunction
  requiredCapabilities : CapabilityMap
  requiredAffinity : SortedSet String
  requiredWorkspace : WorkspaceMode
  requiredNetwork : NetworkPolicy
  requiredAttemptIsolation : Bool
  requiredContinuity : ContinuityMode
  sandboxPolicy : Option SandboxPolicyRef
  requiredAnchor : Option String
  budget : Budget
  deriving DecidableEq

/-! ## Spawn sources -/

inductive SourceStatus where
  | active | draining | disabled
  deriving DecidableEq, Repr

inductive ConfigStatus where
  | active | draining | disabled
  deriving DecidableEq, Repr

structure SpawnSource where
  sourceRef : SpawnSourceRef
  adapterPolicy : AdapterPolicyRef
  lifecycleModes : SortedSet LifecycleMode
  continuityModes : SortedSet ContinuityMode
  functionalEnvelope : CapabilityMap
  claims : List CapabilityClaim
  status : SourceStatus
  deriving DecidableEq

structure SourceConfig where
  configRef : SourceConfigRef
  configDigest : ConfigDigest
  lifecycleModes : Option (SortedSet LifecycleMode)
  continuityModes : Option (SortedSet ContinuityMode)
  credentialRefs : List CredentialRef
  claims : List CapabilityClaim
  status : ConfigStatus
  deriving DecidableEq

namespace SourceConfig

def effectiveLifecycle (c : SourceConfig) (source : SpawnSource) : SortedSet LifecycleMode :=
  c.lifecycleModes.getD source.lifecycleModes

def effectiveContinuity (c : SourceConfig) (source : SpawnSource) : SortedSet ContinuityMode :=
  c.continuityModes.getD source.continuityModes

end SourceConfig

/-! ## Physical safety and evidence -/

/-- What an environment can enforce. The workspace modes are listed once each, by rank. -/
structure PhysicalSafety where
  attemptIsolation : Bool
  enforceableWorkspaceModes : List WorkspaceMode
  enforceableNetworkModes : SortedSet NetworkPolicy
  listed : enforceableWorkspaceModes.Pairwise fun a b => workspaceRank a < workspaceRank b
  deriving DecidableEq

namespace PhysicalSafety

theorem workspaceRank_injective : Function.Injective workspaceRank := by
  intro a b
  cases a <;> cases b <;> simp [workspaceRank]

def new (attemptIsolation : Bool) (workspaceModes : List WorkspaceMode)
    (networkModes : SortedSet NetworkPolicy) : Except ContractError PhysicalSafety :=
  .ok ⟨attemptIsolation, sortDedup workspaceRank workspaceModes, networkModes,
    sortDedup_lt workspaceRank_injective workspaceModes⟩

def enforcesWorkspace (s : PhysicalSafety) (mode : WorkspaceMode) : Bool :=
  s.enforceableWorkspaceModes.contains mode

def enforcesNetwork (s : PhysicalSafety) (policy : NetworkPolicy) : Bool :=
  decide (policy ∈ s.enforceableNetworkModes)

@[simp] theorem new_self (s : PhysicalSafety) :
    new s.attemptIsolation s.enforceableWorkspaceModes s.enforceableNetworkModes = .ok s := by
  simp [new, sortDedup_of_lt s.listed]

end PhysicalSafety

structure AdapterBindingPolicy where
  policyRef : AdapterPolicyRef
  adapterKind : String
  bindingRef : String
  requiredSafety : PhysicalSafety
  status : ConfigStatus
  deriving DecidableEq

namespace AdapterBindingPolicy

def validate (p : AdapterBindingPolicy) : Except ContractError Unit := do
  ensure (!isBlank p.adapterKind) (.invalidRef "adapter binding policy kind cannot be empty")
  ensure (!isBlank p.bindingRef) (.invalidRef "adapter binding policy binding_ref cannot be empty")

def new (policyRef : AdapterPolicyRef) (adapterKind bindingRef : String)
    (requiredSafety : PhysicalSafety) (status : ConfigStatus) :
    Except ContractError AdapterBindingPolicy := do
  let policy : AdapterBindingPolicy := ⟨policyRef, adapterKind, bindingRef, requiredSafety, status⟩
  policy.validate
  pure policy

end AdapterBindingPolicy

/-- Imported enforcement evidence, bound to the exact candidate it was resolved for. -/
structure ResolvedProvisioningEvidence where
  adapterPolicy : AdapterPolicyRef
  adapterKind : Named
  adapterBindingKey : Named
  sourceRef : SpawnSourceRef
  sourceConfigRef : SourceConfigRef
  configDigest : ConfigDigest
  enforceableSafety : PhysicalSafety
  enforcedSandboxPolicies : SortedSet SandboxPolicyRef
  enforcedCapabilities : CapabilityMap
  deriving DecidableEq

namespace ResolvedProvisioningEvidence

def enforcesSandboxPolicy (e : ResolvedProvisioningEvidence) (policy : SandboxPolicyRef) : Bool :=
  decide (policy ∈ e.enforcedSandboxPolicies)

def enforcedCapability (e : ResolvedProvisioningEvidence) (reference : CapabilityRef) :
    Option CapabilityValue :=
  e.enforcedCapabilities.lookup reference

end ResolvedProvisioningEvidence

/-! ## Provisioning provenance -/

/-- A source materialization digest; unlike a configuration digest it is canonical from the
    start. -/
structure MaterializationDigest where
  text : String
  canonical : isCanonicalDigest text = true
  deriving DecidableEq

namespace MaterializationDigest

def new (digest : String) : Except ContractError MaterializationDigest :=
  if h : isCanonicalDigest digest = true then .ok ⟨digest, h⟩
  else .error
    (.invalidRef "materialization digest must have the form sha256:<64 lowercase hex>")

@[simp] theorem new_self (d : MaterializationDigest) : new d.text = .ok d := by
  simp [new, d.canonical]

end MaterializationDigest

/-- Check that a text is not blank; `reason` is the message otherwise. -/
def ensureNamed (text : String) (reason : String) : Except ContractError Unit :=
  ensure (!isBlank text) (.invalidRef reason)

/-- One incarnation's provisioning choice. -/
structure ProvisioningBinding where
  provisioningBindingId : String
  logicalAgentId : String
  incarnationId : String
  agentType : AgentTypeRef
  spawnSource : SpawnSourceRef
  sourceConfig : SourceConfigRef
  adapterPolicy : AdapterPolicyRef
  adapterKind : String
  adapterBindingKey : String
  attestedMaterializationDigest : MaterializationDigest
  provisioningProtocol : String
  effectiveSecurity : PhysicalSafety
  deriving DecidableEq

def ProvisioningBinding.validate (b : ProvisioningBinding) : Except ContractError Unit := do
  ensureNamed b.provisioningBindingId "provisioning binding id cannot be empty"
  ensureNamed b.adapterKind "provisioning binding adapter kind cannot be empty"
  ensureNamed b.adapterBindingKey "provisioning binding adapter binding key cannot be empty"
  ensureNamed b.provisioningProtocol "provisioning binding protocol cannot be empty"

/-- One execution's exact physical choice. -/
structure BindingSnapshot where
  snapshotId : String
  executionId : String
  provisioningBindingId : String
  adapterKind : String
  adapterBindingKey : String
  spawnSource : SpawnSourceRef
  sourceConfig : SourceConfigRef
  sourceConfigDigest : ConfigDigest
  attestedMaterializationDigest : MaterializationDigest
  launchDescriptor : String
  executionTarget : String
  executionProfile : String
  requiredCapabilities : CapabilityMap
  enforceableSecurity : PhysicalSafety
  effectiveIsolation : Bool
  effectiveWorkspace : WorkspaceMode
  effectiveNetwork : NetworkPolicy
  credentialRefsDigest : Option String
  resolverVersion : String
  deriving DecidableEq

def BindingSnapshot.validate (s : BindingSnapshot) : Except ContractError Unit := do
  ensureNamed s.snapshotId "binding snapshot id cannot be empty"
  ensureNamed s.adapterKind "binding snapshot adapter kind cannot be empty"
  ensureNamed s.adapterBindingKey "binding snapshot adapter binding key cannot be empty"
  ensureNamed s.provisioningBindingId "binding snapshot provisioning binding id cannot be empty"
  ensure (!(isBlank s.executionTarget || isBlank s.executionProfile))
    (.invalidRef "binding snapshot target/profile cannot be empty")
  ensureNamed s.launchDescriptor "binding snapshot launch descriptor cannot be empty"
  ensureNamed s.resolverVersion "binding snapshot resolver version cannot be empty"

end Agentype.Agent

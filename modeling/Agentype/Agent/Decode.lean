import Agentype.Agent.Canonical

/-!
# `Agentype.Agent.Decode` — reading documents back

The decoders of canonical documents. A decoder checks the envelope, then every field it consumes:
missing fields, wrong shapes and unknown spellings fail. Fields it does not consume are ignored.

Each decoder inverts the encoder of the same part, so the second half of this file is one round-trip
lemma for each part, in the order of the definitions; the lemmas about whole documents are assembled
from them.

## Contents
- `objectOf`, `field`, `stringOf` and the other typed accessors; `checkEnvelope`.
- `capabilityValue`, `capabilityMapFrom`, `claimsFrom`, `contractFrom` and their siblings.
- `agentTypeFromCanonicalJson` and its eight siblings.
- `capabilityMapFrom_value`, `contractFrom_value`, … and **`agentTypeFromCanonicalJson_canonical`**
  and its eight siblings.
-/

namespace Agentype.Agent

open Check

abbrev Fields := SortedMap String Value

/-! ## Accessors -/

def err (msg : String) : ContractError := .invariantViolation msg

def objectOf (value : Value) (what : String) : Except ContractError Fields :=
  present value.asObject (err (what ++ " must be a JSON object"))

def field (object : Fields) (key : String) : Except ContractError Value :=
  present (object.lookup key) (err ("missing canonical field " ++ key))

def stringOf (value : Value) (what : String) : Except ContractError String :=
  present value.asStr (err (what ++ " must be a string"))

def u64Of (value : Value) (what : String) : Except ContractError U64 :=
  present value.asU64 (err (what ++ " must be an unsigned integer"))

def f64Of (value : Value) (what : String) : Except ContractError Double :=
  present value.asF64 (err (what ++ " must be a number"))

def boolOf (value : Value) (what : String) : Except ContractError Bool :=
  present value.asBool (err (what ++ " must be boolean"))

def arrayOf (value : Value) (what : String) : Except ContractError (List Value) :=
  present value.asArray (err (what ++ " must be an array"))

def optString : Value → Except ContractError (Option String) :=
  Value.nullable fun v => stringOf v "optional string"

/-- An absent locator, or one that is not blank. -/
def optionalLocator (value : Value) : Except ContractError (Option String) := do
  let locator ← optString value
  ensure (!locator.any isBlank) (err "config_locator must not be empty when present")
  pure locator

def checkEnvelope (object : Fields) (kind : String) : Except ContractError Unit := do
  let canonical ← stringOf (← field object "canonical") "canonical version"
  ensure (canonical = canonicalFormatVersion)
    (err ("unsupported canonical format " ++ canonical ++ ", expected " ++ canonicalFormatVersion))
  let actual ← stringOf (← field object "kind") "canonical kind"
  ensure (actual = kind) (err ("canonical kind " ++ actual ++ " is not " ++ kind))

/-! ## Spellings -/

/-- A spelling error of the core enumerations is reported through their own error. -/
def coreSpelling {α : Type} (x : Except String α) : Except ContractError α :=
  x.mapError fun msg => err (Error.invariantViolation msg).display

def informationFunction (text : String) : Except ContractError InformationFunction :=
  coreSpelling (InformationFunction.parseSql text)

def workspaceMode (text : String) : Except ContractError WorkspaceMode :=
  coreSpelling (WorkspaceMode.parseSql text)

def networkPolicy (text : String) : Except ContractError NetworkPolicy :=
  (parseSpelling "NetworkPolicy" [.disabled, .restricted, .enabled] networkStr text).mapError err

def lifecycleMode (text : String) : Except ContractError LifecycleMode :=
  (parseSpelling "LifecycleMode" [.ephemeral, .resident, .revivable] lifecycleStr text).mapError err

def continuityMode (text : String) : Except ContractError ContinuityMode :=
  (parseSpelling "ContinuityMode" [.none, .logical] continuityStr text).mapError err

def matcherKindFrom (text : String) : Except ContractError MatcherKind :=
  (parseSpelling "MatcherKind" [.bool, .set, .ordered, .quantity, .exact] matcherStr text).mapError
    err

def securityClassFrom (text : String) : Except ContractError SecurityClass :=
  (parseSpelling "SecurityClass" [.functional, .authority, .sandbox, .continuity] classStr
    text).mapError err

def capabilityPolarityFrom (text : String) : Except ContractError CapabilityPolarity :=
  (parseSpelling "CapabilityPolarity" [.ability, .restriction] polarityStr text).mapError err

def assuranceFrom (text : String) : Except ContractError Assurance :=
  (parseSpelling "Assurance" [.declared, .enforced] assuranceStr text).mapError err

/-! ## Parts of documents -/

/-- Collect an array of texts; `what` names the array and `each` its items. -/
def textsFrom {α : Type} (read : String → Except ContractError α) (what each : String)
    (value : Value) : Except ContractError (List α) := do
  let items ← arrayOf value what
  items.mapM fun item => do read (← stringOf item each)

/-- An exact reference from an object: the member that names it and its revision. -/
def refFrom {label : String} (what key idWhat revisionWhat : String) (value : Value) :
    Except ContractError (RevisionRef label) := do
  let object ← objectOf value what
  RevisionRef.new (← stringOf (← field object key) idWhat)
    (← u64Of (← field object "revision") revisionWhat)

def capabilityValue (value : Value) : Except ContractError CapabilityValue := do
  let object ← objectOf value "capability value"
  let kind ← stringOf (← field object "kind") "capability value kind"
  match kind with
  | "BOOL" => return .bool (← boolOf (← field object "value") "BOOL value")
  | "SET" =>
    let items ← textsFrom .ok "SET value" "SET item" (← field object "value")
    return .set (.ofList items)
  | "ORDERED" =>
    let rank ← u64Of (← field object "rank") "ORDERED rank"
    let rank ←
      if h : rank.val < 2 ^ 32 then .ok (⟨rank.val, h⟩ : U32)
      else .error (err "ORDERED rank out of range")
    return .ordered (← stringOf (← field object "class") "ORDERED class") rank
  | "QUANTITY" =>
    return .quantity (← Quantity.new (← f64Of (← field object "value") "QUANTITY value"))
  | "EXACT" => return .exact (← field object "value")
  | other => .error (err ("unknown capability value kind " ++ other))

def capabilityRefFrom : Value → Except ContractError CapabilityRef :=
  refFrom "capability ref" "capability_id" "capability_id" "revision"

/-- Add one entry of an encoded capability map. -/
def addCapabilityEntry (m : CapabilityMap) (item : Value) :
    Except ContractError CapabilityMap := do
  let object ← objectOf item "capability entry"
  let reference ← capabilityRefFrom item
  let value ← capabilityValue (← field object "value")
  ensure (m.lookup reference).isNone (err "duplicate capability entry in canonical map")
  pure (m.insert reference value)

def capabilityMapFrom (value : Value) : Except ContractError CapabilityMap := do
  let items ← arrayOf value "capability map"
  items.foldlM addCapabilityEntry .empty

def claimFrom (value : Value) : Except ContractError CapabilityClaim := do
  let object ← objectOf value "capability claim"
  let reference ← capabilityRefFrom value
  let claimed ← capabilityValue (← field object "value")
  let assurance ← assuranceFrom (← stringOf (← field object "assurance") "assurance")
  let provenance ← optString (← field object "declaration_provenance_ref")
  pure ⟨reference, claimed, assurance, provenance⟩

def claimsFrom (value : Value) : Except ContractError (List CapabilityClaim) := do
  let items ← arrayOf value "claims"
  items.mapM claimFrom

/-- Collect an array of texts as a set. -/
def setFrom {α : Type} [LinearOrder α] (read : String → Except ContractError α)
    (what each : String) (value : Value) : Except ContractError (SortedSet α) := do
  let items ← textsFrom read what each value
  pure (.ofList items)

def lifecycleSetFrom : Value → Except ContractError (SortedSet LifecycleMode) :=
  setFrom lifecycleMode "lifecycle modes" "lifecycle mode"

def continuitySetFrom : Value → Except ContractError (SortedSet ContinuityMode) :=
  setFrom continuityMode "continuity modes" "continuity mode"

def stringSetFrom (what : String) : Value → Except ContractError (SortedSet String) :=
  setFrom .ok what what

def affinityFrom (value : Value) : Except ContractError AffinityConstraint := do
  let object ← objectOf value "affinity"
  let kind ← stringOf (← field object "kind") "affinity kind"
  match kind with
  | "ANY" => return .any
  | "ONLY" => return .only (← setFrom .ok "affinity tags" "affinity tag" (← field object "tags"))
  | other => .error (err ("unknown affinity kind " ++ other))

def securityFrom (value : Value) : Except ContractError SecurityContract := do
  let object ← objectOf value "security"
  let workspace ← workspaceMode (← stringOf (← field object "workspace") "workspace")
  let network ← networkPolicy (← stringOf (← field object "network") "network")
  let isolation ← boolOf (← field object "requires_attempt_isolation") "requires_attempt_isolation"
  pure ⟨workspace, network, isolation⟩

def sandboxPolicyFrom : Value → Except ContractError (Option SandboxPolicyRef) :=
  Value.nullable
    (refFrom "sandbox policy" "sandbox_policy_id" "sandbox_policy_id" "sandbox policy revision")

def informationFunctionsFrom : Value → Except ContractError (List InformationFunction) :=
  textsFrom informationFunction "allowed_information_functions" "information function"

def budgetFrom (object : Fields) (key : String) : Except ContractError Budget := do
  Budget.new (← f64Of (← field object key) key)

def contractFrom (value : Value) : Except ContractError AgentTypeContract := do
  let object ← objectOf value "contract"
  let allowed ← informationFunctionsFrom (← field object "allowed_information_functions")
  let capabilities ← capabilityMapFrom (← field object "required_capabilities")
  let affinity ← affinityFrom (← field object "affinity")
  let budget ← budgetFrom object "budget_ceiling"
  let security ← securityFrom (← field object "security")
  let lifecycle ← lifecycleSetFrom (← field object "lifecycle")
  let continuity ← continuityMode (← stringOf (← field object "continuity") "continuity")
  let sandbox ← sandboxPolicyFrom (← field object "sandbox_policy")
  let anchor ← optString (← field object "anchor_constraint")
  pure ⟨allowed, capabilities, affinity, budget, security, lifecycle, continuity, sandbox, anchor⟩

def taskRequirementFrom (value : Value) : Except ContractError TaskRequirement := do
  let object ← objectOf value "task requirement"
  let function ← informationFunction
    (← stringOf (← field object "information_function") "information_function")
  let capabilities ← capabilityMapFrom (← field object "required_capabilities")
  let affinity ← stringSetFrom "required_affinity" (← field object "required_affinity")
  let workspace ← workspaceMode
    (← stringOf (← field object "required_workspace") "required_workspace")
  let network ← networkPolicy (← stringOf (← field object "required_network") "required_network")
  let isolation ← boolOf (← field object "required_attempt_isolation") "required_attempt_isolation"
  let continuity ← continuityMode
    (← stringOf (← field object "required_continuity") "required_continuity")
  let sandbox ← sandboxPolicyFrom (← field object "sandbox_policy")
  let anchor ← optString (← field object "required_anchor")
  let budget ← budgetFrom object "budget"
  pure ⟨function, capabilities, affinity, workspace, network, isolation, continuity, sandbox, anchor,
    budget⟩

def physicalSafetyFrom (what : String) (value : Value) : Except ContractError PhysicalSafety := do
  let safety ← objectOf value what
  let isolation ← boolOf (← field safety "attempt_isolation") "attempt_isolation"
  let workspaces ← textsFrom workspaceMode "workspace_modes" "workspace mode"
    (← field safety "workspace_modes")
  let networks ← setFrom networkPolicy "network_modes" "network mode"
    (← field safety "network_modes")
  PhysicalSafety.new isolation workspaces networks

def sourceConfigRefFrom (value : Value) : Except ContractError SourceConfigRef := do
  let object ← objectOf value "source config ref"
  let source ← RevisionRef.new (← stringOf (← field object "source_id") "source_id")
    (← u64Of (← field object "source_revision") "source_revision")
  SourceConfigRef.new source (← stringOf (← field object "config_id") "config_id")
    (← u64Of (← field object "revision") "revision")

def agentTypeRefFrom : Value → Except ContractError AgentTypeRef :=
  refFrom "agent type ref" "type_id" "type_id" "revision"

def spawnSourceRefFrom : Value → Except ContractError SpawnSourceRef :=
  refFrom "spawn source ref" "source_id" "source_id" "revision"

def adapterPolicyRefFrom : Value → Except ContractError AdapterPolicyRef :=
  refFrom "adapter policy ref" "adapter_policy_id" "adapter_policy_id" "revision"

/-! ## Documents

A document decoder reads the members of a parsed document of its kind. -/

def agentTypeFromDocument (document : Fields) : Except ContractError AgentType := do
  let typeRef ← RevisionRef.new (← stringOf (← field document "type_id") "type_id")
    (← u64Of (← field document "revision") "revision")
  let basedOn ← Value.nullable
    (refFrom "based_on" "type_id" "based_on type_id" "based_on revision")
    (← field document "based_on")
  let contract ← contractFrom (← field document "contract")
  pure ⟨typeRef, basedOn, contract⟩

def spawnSourceFromDocument (document : Fields) (status : SourceStatus) :
    Except ContractError SpawnSource := do
  let sourceRef ← RevisionRef.new (← stringOf (← field document "source_id") "source_id")
    (← u64Of (← field document "revision") "revision")
  let adapterPolicy ←
    refFrom "adapter_policy" "adapter_policy_id" "adapter_policy_id" "adapter policy revision"
      (← field document "adapter_policy")
  let lifecycleModes ← lifecycleSetFrom (← field document "lifecycle_modes")
  let continuityModes ← continuitySetFrom (← field document "continuity_modes")
  let functionalEnvelope ← capabilityMapFrom (← field document "functional_envelope")
  let claims ← claimsFrom (← field document "claims")
  pure ⟨sourceRef, adapterPolicy, lifecycleModes, continuityModes, functionalEnvelope, claims,
    status⟩

def sourceConfigRevisionFromDocument (document : Fields) (status : ConfigStatus) :
    Except ContractError (SourceConfig × Option String) := do
  let source ← RevisionRef.new (← stringOf (← field document "source_id") "source_id")
    (← u64Of (← field document "source_revision") "source_revision")
  let configRef ← SourceConfigRef.new source
    (← stringOf (← field document "config_id") "config_id")
    (← u64Of (← field document "revision") "revision")
  let credentialRefs ← textsFrom CredentialRef.new "credential_refs" "credential ref"
    (← field document "credential_refs")
  let configLocator ← optionalLocator (← field document "config_locator")
  let configDigest ← ConfigDigest.new (← stringOf (← field document "config_digest") "config_digest")
  let lifecycleModes ← Value.nullable lifecycleSetFrom (← field document "lifecycle_modes")
  let continuityModes ← Value.nullable continuitySetFrom (← field document "continuity_modes")
  let claims ← claimsFrom (← field document "claims")
  pure (⟨configRef, configDigest, lifecycleModes, continuityModes, credentialRefs, claims, status⟩,
    configLocator)

def adapterBindingPolicyFromDocument (document : Fields) (status : ConfigStatus) :
    Except ContractError AdapterBindingPolicy := do
  let policyRef ← RevisionRef.new
    (← stringOf (← field document "adapter_policy_id") "adapter_policy_id")
    (← u64Of (← field document "revision") "revision")
  let requiredSafety ← physicalSafetyFrom "required_safety" (← field document "required_safety")
  let adapterKind ← stringOf (← field document "adapter_kind") "adapter_kind"
  let bindingRef ← stringOf (← field document "binding_ref") "binding_ref"
  let policy : AdapterBindingPolicy := ⟨policyRef, adapterKind, bindingRef, requiredSafety, status⟩
  policy.validate
  pure policy

def capabilityDefinitionFromDocument (document : Fields) :
    Except ContractError (CapabilityRef × CapabilityDefinition) := do
  let reference ← RevisionRef.new (← stringOf (← field document "capability_id") "capability_id")
    (← u64Of (← field document "revision") "revision")
  let matcherKind ← matcherKindFrom (← stringOf (← field document "matcher_kind") "matcher_kind")
  let securityClass ← securityClassFrom
    (← stringOf (← field document "security_class") "security_class")
  let polarity ← capabilityPolarityFrom (← stringOf (← field document "polarity") "polarity")
  pure (reference, ⟨matcherKind, securityClass, polarity⟩)

def taskAgentRequirementFromDocument (document : Fields) :
    Except ContractError TaskAgentRequirement := do
  let requiredType ← refFrom "required_type" "type_id" "required type_id" "required revision"
    (← field document "required_type")
  let hard ← taskRequirementFrom (← field document "hard")
  pure ⟨requiredType, hard⟩

def generationPolicyFromDocument (document : Fields) : Except ContractError GenerationPolicy := do
  let policy ← objectOf (← field document "policy") "generation policy body"
  let allowed ← informationFunctionsFrom (← field policy "allowed_information_functions")
  let affinity ← Value.nullable (stringSetFrom "allowed_affinity") (← field policy "allowed_affinity")
  let workspace ← workspaceMode (← stringOf (← field policy "max_workspace") "max_workspace")
  let network ← networkPolicy (← stringOf (← field policy "max_network") "max_network")
  let isolation ← boolOf (← field policy "requires_attempt_isolation") "requires_attempt_isolation"
  let continuity ← continuityMode (← stringOf (← field policy "min_continuity") "min_continuity")
  let sandbox ← sandboxPolicyFrom (← field policy "sandbox_policy")
  let budget ← budgetFrom policy "budget_ceiling"
  let anchor ← optString (← field policy "anchor_constraint")
  pure ⟨allowed, workspace, network, isolation, continuity, sandbox, budget, affinity, anchor⟩

def provisioningBindingFromDocument (document : Fields) :
    Except ContractError ProvisioningBinding := do
  let bindingId ← stringOf (← field document "provisioning_binding_id") "provisioning_binding_id"
  let agentId ← stringOf (← field document "logical_agent_id") "logical_agent_id"
  let incarnationId ← stringOf (← field document "incarnation_id") "incarnation_id"
  let agentType ← agentTypeRefFrom (← field document "agent_type")
  let spawnSource ← spawnSourceRefFrom (← field document "spawn_source")
  let sourceConfig ← sourceConfigRefFrom (← field document "source_config")
  let adapterPolicy ← adapterPolicyRefFrom (← field document "adapter_policy")
  let adapterKind ← stringOf (← field document "adapter_kind") "adapter_kind"
  let bindingKey ← stringOf (← field document "adapter_binding_key") "adapter_binding_key"
  let attested ← MaterializationDigest.new
    (← stringOf (← field document "attested_materialization_digest")
      "attested_materialization_digest")
  let protocol ← stringOf (← field document "provisioning_protocol") "provisioning_protocol"
  let security ← physicalSafetyFrom "physical safety" (← field document "effective_security")
  let binding : ProvisioningBinding :=
    ⟨bindingId, agentId, incarnationId, agentType, spawnSource, sourceConfig, adapterPolicy,
      adapterKind, bindingKey, attested, protocol, security⟩
  binding.validate
  pure binding

def bindingSnapshotFromDocument (document : Fields) : Except ContractError BindingSnapshot := do
  let snapshotId ← stringOf (← field document "snapshot_id") "snapshot_id"
  let executionId ← stringOf (← field document "execution_id") "execution_id"
  let bindingId ← stringOf (← field document "provisioning_binding_id") "provisioning_binding_id"
  let adapterKind ← stringOf (← field document "adapter_kind") "adapter_kind"
  let bindingKey ← stringOf (← field document "adapter_binding_key") "adapter_binding_key"
  let spawnSource ← spawnSourceRefFrom (← field document "spawn_source")
  let sourceConfig ← sourceConfigRefFrom (← field document "source_config")
  let configDigest ← ConfigDigest.new
    (← stringOf (← field document "source_config_digest") "source_config_digest")
  let attested ← MaterializationDigest.new
    (← stringOf (← field document "attested_materialization_digest")
      "attested_materialization_digest")
  let descriptor ← stringOf (← field document "launch_descriptor") "launch_descriptor"
  let target ← stringOf (← field document "execution_target") "execution_target"
  let profile ← stringOf (← field document "execution_profile") "execution_profile"
  let capabilities ← capabilityMapFrom (← field document "required_capabilities")
  let security ← physicalSafetyFrom "physical safety" (← field document "enforceable_security")
  let isolation ← boolOf (← field document "effective_isolation") "effective_isolation"
  let workspace ← workspaceMode
    (← stringOf (← field document "effective_workspace") "effective_workspace")
  let network ← networkPolicy
    (← stringOf (← field document "effective_network") "effective_network")
  let credentials ← optString (← field document "credential_refs_digest")
  let resolver ← stringOf (← field document "resolver_version") "resolver_version"
  let snapshot : BindingSnapshot :=
    ⟨snapshotId, executionId, bindingId, adapterKind, bindingKey, spawnSource, sourceConfig,
      configDigest, attested, descriptor, target, profile, capabilities, security, isolation,
      workspace, network, credentials, resolver⟩
  snapshot.validate
  pure snapshot

section Json

variable {T D : Type} (F : DocFormat T D)

/-- The members of a document, once its envelope is checked. -/
def documentOf (value : Value) (kind : String) : Except ContractError Fields := do
  let object ← objectOf value "canonical document"
  checkEnvelope object kind
  pure object

def parseDocument (json : T) (kind : String) : Except ContractError Fields := do
  let value ← (F.parse json).mapError fun e => err ("invalid canonical JSON: " ++ e)
  documentOf value kind

def agentTypeFromCanonicalJson (json : T) : Except ContractError AgentType := do
  agentTypeFromDocument (← parseDocument F json "AGENT_TYPE")

def spawnSourceFromCanonicalJson (json : T) (status : SourceStatus) :
    Except ContractError SpawnSource := do
  spawnSourceFromDocument (← parseDocument F json "SPAWN_SOURCE") status

def sourceConfigRevisionFromCanonicalJson (json : T) (status : ConfigStatus) :
    Except ContractError (SourceConfig × Option String) := do
  sourceConfigRevisionFromDocument (← parseDocument F json "SOURCE_CONFIG") status

def adapterBindingPolicyFromCanonicalJson (json : T) (status : ConfigStatus) :
    Except ContractError AdapterBindingPolicy := do
  adapterBindingPolicyFromDocument (← parseDocument F json "ADAPTER_BINDING_POLICY") status

def capabilityDefinitionFromCanonicalJson (json : T) :
    Except ContractError (CapabilityRef × CapabilityDefinition) := do
  capabilityDefinitionFromDocument (← parseDocument F json "CAPABILITY_DEFINITION")

def taskAgentRequirementFromCanonicalJson (json : T) :
    Except ContractError TaskAgentRequirement := do
  taskAgentRequirementFromDocument (← parseDocument F json "TASK_AGENT_REQUIREMENT")

def generationPolicyFromCanonicalJson (json : T) : Except ContractError GenerationPolicy := do
  generationPolicyFromDocument (← parseDocument F json "GENERATION_POLICY")

def provisioningBindingFromCanonicalJson (json : T) :
    Except ContractError ProvisioningBinding := do
  provisioningBindingFromDocument (← parseDocument F json "PROVISIONING_BINDING")

def bindingSnapshotFromCanonicalJson (json : T) : Except ContractError BindingSnapshot := do
  bindingSnapshotFromDocument (← parseDocument F json "BINDING_SNAPSHOT")

end Json

/-! ## Round trips of the parts -/

@[simp] theorem objectOf_object (fields : List (String × Value)) (what : String) :
    objectOf (.object fields) what = .ok (.ofList fields) := by
  simp [objectOf]

theorem field_ofList (fields : List (String × Value)) (key : String) :
    field (.ofList fields) key =
      present (fields.reverse.lookup key) (err ("missing canonical field " ++ key)) := by
  rw [field, SortedMap.lookup_ofList]

attribute [local simp] field_ofList List.lookup_cons

@[simp] theorem stringOf_str (s what : String) : stringOf (.str s) what = .ok s := by
  simp [stringOf]

@[simp] theorem u64Of_value (n : U64) (what : String) : u64Of (u64Value n) what = .ok n := by
  simp [u64Of, u64Value]

@[simp] theorem boolOf_bool (b : Bool) (what : String) : boolOf (.bool b) what = .ok b := by
  simp [boolOf]

@[simp] theorem f64Of_value (q : ℚ≥0) (what : String) : f64Of (f64Value q) what = .ok (.of q) := by
  simp [f64Of, f64Value]

@[simp] theorem arrayOf_arr (items : List Value) (what : String) :
    arrayOf (.arr items) what = .ok items := by
  simp [arrayOf]

@[simp] theorem optString_optional (o : Option String) : optString (.optional .str o) = .ok o :=
  Value.nullable_optional Value.str_ne_null (fun _ => stringOf_str _ _) o

@[simp] theorem budgetNew_value (q : Budget) : Budget.new (.of q) = .ok q :=
  dif_pos q.2

@[simp] theorem quantityNew_value (q : Quantity) : Quantity.new (.of q) = .ok q :=
  dif_pos q.2

theorem mapM_map_ok {α : Type} {ε : Type} {f : α → Value} {g : Value → Except ε α} (h : ∀ a, g (f a) = .ok a)
    (l : List α) : (l.map f).mapM g = .ok l := by
  rw [mapM_ok, List.forall₂_map_left_iff]
  exact List.forall₂_same.mpr fun a _ => h a

theorem textsFrom_value {α : Type} {spell : α → String} {read : String → Except ContractError α}
    (h : ∀ a, read (spell a) = .ok a) (what each : String) (l : List α) :
    textsFrom read what each (textsValue spell l) = .ok l := by
  simp only [textsFrom, textsValue, arrayOf_arr, ok_bind]
  exact mapM_map_ok (fun a => by simp [h]) l

theorem setFrom_value {α : Type} [LinearOrder α] {spell : α → String}
    {read : String → Except ContractError α} (h : ∀ a, read (spell a) = .ok a)
    (what each : String) (s : SortedSet α) :
    setFrom read what each (textsValue spell s.elems) = .ok s := by
  simp [setFrom, textsFrom_value h, SortedSet.ofList_elems]

@[simp] theorem informationFunction_asSql (f : InformationFunction) :
    informationFunction f.asSql = .ok f := by
  simp [informationFunction, coreSpelling]

@[simp] theorem workspaceMode_asSql (m : WorkspaceMode) : workspaceMode m.asSql = .ok m := by
  simp [workspaceMode, coreSpelling]

@[simp] theorem networkPolicy_str (p : NetworkPolicy) : networkPolicy (networkStr p) = .ok p := by
  cases p <;> rfl

@[simp] theorem lifecycleMode_str (m : LifecycleMode) : lifecycleMode (lifecycleStr m) = .ok m := by
  cases m <;> rfl

@[simp] theorem continuityMode_str (m : ContinuityMode) :
    continuityMode (continuityStr m) = .ok m := by
  cases m <;> rfl

@[simp] theorem matcherKindFrom_str (k : MatcherKind) : matcherKindFrom (matcherStr k) = .ok k := by
  cases k <;> rfl

@[simp] theorem securityClassFrom_str (c : SecurityClass) :
    securityClassFrom (classStr c) = .ok c := by
  cases c <;> rfl

@[simp] theorem capabilityPolarityFrom_str (p : CapabilityPolarity) :
    capabilityPolarityFrom (polarityStr p) = .ok p := by
  cases p <;> rfl

@[simp] theorem assuranceFrom_str (a : Assurance) : assuranceFrom (assuranceStr a) = .ok a := by
  cases a <;> rfl

@[simp] theorem refFrom_value {label : String} (what key idWhat revisionWhat : String)
    (hkey : key ≠ "revision") (r : RevisionRef label) :
    refFrom what key idWhat revisionWhat (refValue key r) = .ok r := by
  have hne : (key == "revision") = false := beq_false_of_ne hkey
  simp [refFrom, refValue, refFields, hne]

theorem nullable_refFrom_value {label : String} (what key idWhat revisionWhat : String)
    (hkey : key ≠ "revision") (o : Option (RevisionRef label)) :
    Value.nullable (refFrom what key idWhat revisionWhat) (.optional (refValue key) o) = .ok o :=
  Value.nullable_optional (fun _ => Value.object_ne_null _) (refFrom_value _ _ _ _ hkey) o

@[simp] theorem capabilityValue_value (v : CapabilityValue) :
    capabilityValue (capabilityValueValue v) = .ok v := by
  cases v with
  | bool b => simp [capabilityValue, capabilityValueValue]
  | set items =>
    simp [capabilityValue, capabilityValueValue, textsFrom_value,
      SortedSet.ofList_elems]
  | ordered class_ rank =>
    simp [capabilityValue, capabilityValueValue, u32Value]
  | quantity q => simp [capabilityValue, capabilityValueValue]
  | exact v => simp [capabilityValue, capabilityValueValue]

@[simp] theorem claimFrom_value (c : CapabilityClaim) : claimFrom (claimValue c) = .ok c := by
  simp [claimFrom, claimValue, capabilityRefFrom, refFrom]

@[simp] theorem claimsFrom_value (claims : List CapabilityClaim) :
    claimsFrom (claimsValue claims) = .ok claims := by
  rw [claimsFrom, claimsValue, arrayOf_arr, ok_bind]
  exact mapM_map_ok claimFrom_value claims

theorem addCapabilityEntry_value (m : CapabilityMap) (x : CapabilityRef × CapabilityValue)
    (h : m.lookup x.1 = none) :
    addCapabilityEntry m (capabilityEntryValue x) = .ok (m.insert x.1 x.2) := by
  simp [addCapabilityEntry, capabilityEntryValue, capabilityRefFrom, refFrom, h]

/-- Entries with keys that are new and distinct are all added. -/
theorem foldlM_addCapabilityEntry (l : List (CapabilityRef × CapabilityValue)) (m : CapabilityMap)
    (hsorted : l.Pairwise fun x y => x.1 < y.1) (hnew : ∀ x ∈ l, m.lookup x.1 = none) :
    (l.map capabilityEntryValue).foldlM addCapabilityEntry m =
      .ok (l.foldl (fun m x => m.insert x.1 x.2) m) := by
  induction l generalizing m with
  | nil => rfl
  | cons x l ih =>
    rw [List.pairwise_cons] at hsorted
    rw [List.map_cons, List.foldlM_cons, addCapabilityEntry_value m x (hnew x (by simp)), ok_bind,
      ih _ hsorted.2, List.foldl_cons]
    intro y hy
    rw [SortedMap.lookup_insert, if_neg (ne_of_gt (hsorted.1 y hy))]
    exact hnew y (by simp [hy])

@[simp] theorem capabilityMapFrom_value (m : CapabilityMap) :
    capabilityMapFrom (capabilityMapValue m) = .ok m := by
  rw [capabilityMapFrom, capabilityMapValue, arrayOf_arr, ok_bind,
    foldlM_addCapabilityEntry m.entries .empty m.sorted (by simp)]
  exact congrArg Except.ok (SortedMap.ofList_entries m)

@[simp] theorem lifecycleSetFrom_value (s : SortedSet LifecycleMode) :
    lifecycleSetFrom (textsValue lifecycleStr s.elems) = .ok s :=
  setFrom_value lifecycleMode_str _ _ s

@[simp] theorem continuitySetFrom_value (s : SortedSet ContinuityMode) :
    continuitySetFrom (textsValue continuityStr s.elems) = .ok s :=
  setFrom_value continuityMode_str _ _ s

@[simp] theorem stringSetFrom_value (what : String) (s : SortedSet String) :
    stringSetFrom what (textsValue id s.elems) = .ok s :=
  setFrom_value (fun _ => rfl) _ _ s

/-- An optional set is read back by what reads the set back. -/
theorem nullable_set_value {α : Type} [LinearOrder α] {spell : α → String}
    {read : Value → Except ContractError (SortedSet α)}
    (h : ∀ s : SortedSet α, read (textsValue spell s.elems) = .ok s) (o : Option (SortedSet α)) :
    Value.nullable read (.optional (fun s => textsValue spell s.elems) o) = .ok o :=
  Value.nullable_optional (fun _ => Value.arr_ne_null _) h o

@[simp] theorem informationFunctionsFrom_value (l : List InformationFunction) :
    informationFunctionsFrom (textsValue InformationFunction.asSql l) = .ok l :=
  textsFrom_value informationFunction_asSql _ _ l

@[simp] theorem affinityFrom_value (a : AffinityConstraint) :
    affinityFrom (affinityValue a) = .ok a := by
  cases a with
  | any => simp [affinityFrom, affinityValue]
  | only tags =>
    have htags := @setFrom_value String _ id .ok (fun _ => rfl) "affinity tags" "affinity tag" tags
    simp [affinityFrom, affinityValue, htags]

@[simp] theorem securityFrom_value (s : SecurityContract) :
    securityFrom (securityValue s) = .ok s := by
  simp [securityFrom, securityValue]

@[simp] theorem sandboxPolicyFrom_value (o : Option SandboxPolicyRef) :
    sandboxPolicyFrom (sandboxPolicyValue o) = .ok o :=
  nullable_refFrom_value _ _ _ _ (by decide) o

@[simp] theorem contractFrom_value (c : AgentTypeContract) :
    contractFrom (contractValue c) = .ok c := by
  simp [contractFrom, contractValue, budgetFrom]

@[simp] theorem taskRequirementFrom_value (t : TaskRequirement) :
    taskRequirementFrom (taskRequirementValue t) = .ok t := by
  simp [taskRequirementFrom, taskRequirementValue, budgetFrom]

@[simp] theorem physicalSafetyFrom_value (what : String) (s : PhysicalSafety) :
    physicalSafetyFrom what (physicalSafetyValue s) = .ok s := by
  simp [physicalSafetyFrom, physicalSafetyValue,
    textsFrom_value workspaceMode_asSql, setFrom_value networkPolicy_str]

@[simp] theorem sourceConfigRefFrom_value (r : SourceConfigRef) :
    sourceConfigRefFrom (sourceConfigRefValue r) = .ok r := by
  simp [sourceConfigRefFrom, sourceConfigRefValue]

/-! ## Round trips of the documents -/

section Documents

variable {T D : Type} {F : DocFormat T D}

/-- The members of a document of a kind, its envelope included. -/
@[local simp] def documentFields (kind : String) (fields : List (String × Value)) : Fields :=
  .ofList (("canonical", .str canonicalFormatVersion) :: ("kind", .str kind) :: fields)

@[simp] theorem documentOf_envelope (kind : String) (fields : List (String × Value))
    (hfields : ∀ x ∈ fields, x.1 ≠ "canonical" ∧ x.1 ≠ "kind") :
    documentOf (envelope kind fields) kind = .ok (documentFields kind fields) := by
  have hlook : ∀ key, (∀ x ∈ fields, x.1 ≠ key) → fields.reverse.lookup key = none := by
    intro key hkey
    rw [List.lookup_eq_none_iff]
    intro x hx
    simpa using fun h => hkey x (List.mem_reverse.mp hx) h.symm
  simp [documentOf, envelope, checkEnvelope, List.lookup_append,
    hlook _ fun x hx => (hfields x hx).1, hlook _ fun x hx => (hfields x hx).2]

/-- A printed document that is read back. -/
theorem parseDocument_legible {document : Value} (h : F.Legible (toBytes F document))
    (kind : String) : parseDocument F (toBytes F document) kind = documentOf document kind := by
  rw [parseDocument, h document rfl]
  rfl

theorem agentTypeFromCanonicalJson_canonical {a : AgentType}
    (h : F.Legible (toBytes F (canonicalAgentTypeDocument a))) :
    agentTypeFromCanonicalJson F (toBytes F (canonicalAgentTypeDocument a)) = .ok a := by
  rw [agentTypeFromCanonicalJson, parseDocument_legible h]
  simp [canonicalAgentTypeDocument, agentTypeFromDocument, nullable_refFrom_value]

/-- What is decoded from a document as it is determines it. -/
theorem injective_of_decode {α : Type} {document : α → Value}
    (decode : Value → Except ContractError α) (h : ∀ a, decode (document a) = .ok a) :
    Function.Injective document := by
  intro a a' heq
  have ha := h a
  rw [heq, h a'] at ha
  exact (Except.ok.inj ha).symm

theorem agentTypeDocument_injective : Function.Injective canonicalAgentTypeDocument :=
  injective_of_decode (agentTypeFromCanonicalJson .verbatim) fun _ =>
    agentTypeFromCanonicalJson_canonical (DocFormat.verbatim_legible _)

theorem spawnSourceFromCanonicalJson_canonical {s : SpawnSource} (status : SourceStatus)
    (h : F.Legible (toBytes F (canonicalSpawnSourceDocument s))) :
    spawnSourceFromCanonicalJson F (toBytes F (canonicalSpawnSourceDocument s)) status =
      .ok { s with status := status } := by
  rw [spawnSourceFromCanonicalJson, parseDocument_legible h]
  simp [canonicalSpawnSourceDocument, spawnSourceFromDocument]

theorem spawnSourceDocument_inj {s s' : SpawnSource}
    (h : canonicalSpawnSourceDocument s = canonicalSpawnSourceDocument s') :
    s = { s' with status := s.status } := by
  have hs := spawnSourceFromCanonicalJson_canonical s.status
    (DocFormat.verbatim_legible (canonicalSpawnSourceDocument s))
  rw [h, spawnSourceFromCanonicalJson_canonical _ (DocFormat.verbatim_legible _)] at hs
  exact (Except.ok.inj hs).symm

/-- A configuration is read back with its locator, unless the locator is blank. -/
theorem sourceConfigRevisionFromCanonicalJson_canonical {c : SourceConfig}
    {locator : Option String} (hlocator : locator.any isBlank = false) (status : ConfigStatus)
    (h : F.Legible (toBytes F (canonicalSourceConfigDocument c locator))) :
    sourceConfigRevisionFromCanonicalJson F
        (toBytes F (canonicalSourceConfigDocument c locator)) status =
      .ok ({ c with status := status }, locator) := by
  have hcredentials : textsFrom CredentialRef.new "credential_refs" "credential ref"
      (textsValue Named.text c.credentialRefs) = .ok c.credentialRefs :=
    textsFrom_value (Named.new_self _) _ _ _
  rw [sourceConfigRevisionFromCanonicalJson, parseDocument_legible h]
  simp [canonicalSourceConfigDocument, sourceConfigRevisionFromDocument, optionalLocator,
    hlocator, hcredentials, ConfigDigest.new, nullable_set_value lifecycleSetFrom_value,
    nullable_set_value continuitySetFrom_value]

theorem adapterBindingPolicyFromCanonicalJson_canonical {p : AdapterBindingPolicy}
    (status : ConfigStatus) (hvalid : p.validate = .ok ())
    (h : F.Legible (toBytes F (canonicalAdapterBindingPolicyDocument p))) :
    adapterBindingPolicyFromCanonicalJson F
        (toBytes F (canonicalAdapterBindingPolicyDocument p)) status =
      .ok { p with status := status } := by
  have hvalid' : ({ p with status := status } : AdapterBindingPolicy).validate = .ok () := hvalid
  rw [adapterBindingPolicyFromCanonicalJson, parseDocument_legible h]
  simp [canonicalAdapterBindingPolicyDocument, adapterBindingPolicyFromDocument, hvalid']

theorem capabilityDefinitionFromCanonicalJson_canonical {r : CapabilityRef}
    {d : CapabilityDefinition}
    (h : F.Legible (toBytes F (canonicalCapabilityDefinitionDocument r d))) :
    capabilityDefinitionFromCanonicalJson F
        (toBytes F (canonicalCapabilityDefinitionDocument r d)) = .ok (r, d) := by
  rw [capabilityDefinitionFromCanonicalJson, parseDocument_legible h]
  simp [canonicalCapabilityDefinitionDocument, capabilityDefinitionFromDocument]

theorem taskAgentRequirementFromCanonicalJson_canonical {r : TaskAgentRequirement}
    (h : F.Legible (toBytes F (canonicalTaskAgentRequirementDocument r))) :
    taskAgentRequirementFromCanonicalJson F
        (toBytes F (canonicalTaskAgentRequirementDocument r)) = .ok r := by
  rw [taskAgentRequirementFromCanonicalJson, parseDocument_legible h]
  simp [canonicalTaskAgentRequirementDocument, taskAgentRequirementFromDocument]

theorem taskAgentRequirementDocument_injective :
    Function.Injective canonicalTaskAgentRequirementDocument :=
  injective_of_decode (taskAgentRequirementFromCanonicalJson .verbatim) fun _ =>
    taskAgentRequirementFromCanonicalJson_canonical (DocFormat.verbatim_legible _)

theorem generationPolicyFromCanonicalJson_canonical {p : GenerationPolicy}
    (h : F.Legible (toBytes F (canonicalGenerationPolicyDocument p))) :
    generationPolicyFromCanonicalJson F (toBytes F (canonicalGenerationPolicyDocument p)) =
      .ok p := by
  rw [generationPolicyFromCanonicalJson, parseDocument_legible h]
  simp [canonicalGenerationPolicyDocument, generationPolicyFromDocument, generationPolicyValue,
    budgetFrom, nullable_set_value (stringSetFrom_value "allowed_affinity")]

theorem generationPolicyDocument_injective :
    Function.Injective canonicalGenerationPolicyDocument :=
  injective_of_decode (generationPolicyFromCanonicalJson .verbatim) fun _ =>
    generationPolicyFromCanonicalJson_canonical (DocFormat.verbatim_legible _)

theorem provisioningBindingFromCanonicalJson_canonical {b : ProvisioningBinding}
    (hvalid : b.validate = .ok ())
    (h : F.Legible (toBytes F (canonicalProvisioningBindingDocument b))) :
    provisioningBindingFromCanonicalJson F
        (toBytes F (canonicalProvisioningBindingDocument b)) = .ok b := by
  rw [provisioningBindingFromCanonicalJson, parseDocument_legible h]
  simp [canonicalProvisioningBindingDocument, provisioningBindingFromDocument, agentTypeRefFrom,
    spawnSourceRefFrom, adapterPolicyRefFrom, hvalid]

theorem bindingSnapshotFromCanonicalJson_canonical {s : BindingSnapshot}
    (hvalid : s.validate = .ok ())
    (h : F.Legible (toBytes F (canonicalBindingSnapshotDocument s))) :
    bindingSnapshotFromCanonicalJson F (toBytes F (canonicalBindingSnapshotDocument s)) =
      .ok s := by
  rw [bindingSnapshotFromCanonicalJson, parseDocument_legible h]
  simp [canonicalBindingSnapshotDocument, bindingSnapshotFromDocument, spawnSourceRefFrom,
    ConfigDigest.new, hvalid]

end Documents

end Agentype.Agent

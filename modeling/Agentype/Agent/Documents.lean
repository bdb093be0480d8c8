import Agentype.Agent.Decode
import Agentype.Agent.Provision

/-!
# `Agentype.Agent.Documents` — a document identifies its record

The nine kinds of durable records as one type. A record of any kind has a document, and a document
of a kind is decoded by the decoder of the kind. Decoding inverts encoding on every canonical record,
so a document determines its record: equal documents come from records of one kind that differ at
most in their disposition, the operator's overlay that no document contains.

Both directions rest on one fact, `decode_document`; the rest is that printing, and for digests also
hashing, loses nothing. Only decoding needs a parser that reads the document back.

## Contents
- `DurableKind`, `DurableRecord`, `document`, `decode`, `withDisposition`, `Canonical`.
- `decode_document`, `document_kind`.
- **`canonical_documents_identify_records`**.
-/

namespace Agentype.Agent

open Check

inductive DurableKind where
  | agentType
  | spawnSource
  | sourceConfig
  | adapterBindingPolicy
  | capabilityDefinition
  | taskAgentRequirement
  | generationPolicy
  | provisioningBinding
  | bindingSnapshot
  deriving DecidableEq, Repr

/-- How the envelope spells a kind. -/
def DurableKind.spelling : DurableKind → String
  | agentType => "AGENT_TYPE"
  | spawnSource => "SPAWN_SOURCE"
  | sourceConfig => "SOURCE_CONFIG"
  | adapterBindingPolicy => "ADAPTER_BINDING_POLICY"
  | capabilityDefinition => "CAPABILITY_DEFINITION"
  | taskAgentRequirement => "TASK_AGENT_REQUIREMENT"
  | generationPolicy => "GENERATION_POLICY"
  | provisioningBinding => "PROVISIONING_BINDING"
  | bindingSnapshot => "BINDING_SNAPSHOT"

theorem DurableKind.spelling_injective : Function.Injective DurableKind.spelling := by
  intro k k'
  cases k <;> cases k' <;> simp [spelling]

inductive DurableRecord where
  | agentType (agent : AgentType)
  | spawnSource (source : SpawnSource)
  | sourceConfig (config : SourceConfig) (locator : Option String)
  | adapterBindingPolicy (policy : AdapterBindingPolicy)
  | capabilityDefinition (reference : CapabilityRef) (definition : CapabilityDefinition)
  | taskAgentRequirement (req : TaskAgentRequirement)
  | generationPolicy (policy : GenerationPolicy)
  | provisioningBinding (binding : ProvisioningBinding)
  | bindingSnapshot (snapshot : BindingSnapshot)
  deriving DecidableEq

namespace DurableRecord

def kind : DurableRecord → DurableKind
  | agentType _ => .agentType
  | spawnSource _ => .spawnSource
  | sourceConfig _ _ => .sourceConfig
  | adapterBindingPolicy _ => .adapterBindingPolicy
  | capabilityDefinition _ _ => .capabilityDefinition
  | taskAgentRequirement _ => .taskAgentRequirement
  | generationPolicy _ => .generationPolicy
  | provisioningBinding _ => .provisioningBinding
  | bindingSnapshot _ => .bindingSnapshot

def document : DurableRecord → Value
  | agentType agent => canonicalAgentTypeDocument agent
  | spawnSource source => canonicalSpawnSourceDocument source
  | sourceConfig config locator => canonicalSourceConfigDocument config locator
  | adapterBindingPolicy policy => canonicalAdapterBindingPolicyDocument policy
  | capabilityDefinition reference definition =>
    canonicalCapabilityDefinitionDocument reference definition
  | taskAgentRequirement req => canonicalTaskAgentRequirementDocument req
  | generationPolicy policy => canonicalGenerationPolicyDocument policy
  | provisioningBinding binding => canonicalProvisioningBindingDocument binding
  | bindingSnapshot snapshot => canonicalBindingSnapshotDocument snapshot

/-- The record under another disposition. -/
def withDisposition (source : SourceStatus) (config : ConfigStatus) : DurableRecord → DurableRecord
  | spawnSource s => .spawnSource { s with status := source }
  | sourceConfig c locator => .sourceConfig { c with status := config } locator
  | adapterBindingPolicy p => .adapterBindingPolicy { p with status := config }
  | r => r

/-- Two records that are equal up to their disposition. -/
def SameContent (r r' : DurableRecord) : Prop :=
  ∀ source config, r.withDisposition source config = r'.withDisposition source config

/-- The record is what canonicalization and validation let through: an output of the canonicalizer
    of its kind, or a record that validates where there is nothing to canonicalize. The locator of a
    configuration is checked when it is published. -/
def CanonicalFor (catalog : CapabilityCatalog) : DurableRecord → Prop
  | agentType agent => ∃ raw, canonicalizeAgentType raw catalog = .ok agent
  | spawnSource source => ∃ raw, canonicalizeSpawnSource raw catalog = .ok source
  | sourceConfig config locator =>
    (∃ raw source, canonicalizeSourceConfig raw source catalog = .ok config) ∧
      locator.any isBlank = false
  | adapterBindingPolicy policy => policy.validate = .ok ()
  | capabilityDefinition _ _ => True
  | taskAgentRequirement req => ∃ raw, canonicalizeTaskAgentRequirement raw catalog = .ok req
  | generationPolicy policy => ∃ raw, canonicalizeGenerationPolicy raw catalog = .ok policy
  | provisioningBinding binding => binding.validate = .ok ()
  | bindingSnapshot snapshot => snapshot.validate = .ok ()

def Canonical (r : DurableRecord) : Prop := ∃ catalog, r.CanonicalFor catalog

section Bytes

variable {T D : Type} (F : DocFormat T D)

def bytes (r : DurableRecord) : T := toBytes F r.document

def digest (r : DurableRecord) : D := contentDigest F (r.bytes F)

/-- The decoder of a kind. The dispositions are arguments: they are not in the document. -/
def decode (kind : DurableKind) (source : SourceStatus) (config : ConfigStatus) (json : T) :
    Except ContractError DurableRecord :=
  match kind with
  | .agentType => agentType <$> agentTypeFromCanonicalJson F json
  | .spawnSource => spawnSource <$> spawnSourceFromCanonicalJson F json source
  | .sourceConfig =>
    (fun x => sourceConfig x.1 x.2) <$> sourceConfigRevisionFromCanonicalJson F json config
  | .adapterBindingPolicy =>
    adapterBindingPolicy <$> adapterBindingPolicyFromCanonicalJson F json config
  | .capabilityDefinition =>
    (fun x => capabilityDefinition x.1 x.2) <$> capabilityDefinitionFromCanonicalJson F json
  | .taskAgentRequirement => taskAgentRequirement <$> taskAgentRequirementFromCanonicalJson F json
  | .generationPolicy => generationPolicy <$> generationPolicyFromCanonicalJson F json
  | .provisioningBinding => provisioningBinding <$> provisioningBindingFromCanonicalJson F json
  | .bindingSnapshot => bindingSnapshot <$> bindingSnapshotFromCanonicalJson F json

/-- Decoding a canonical record's document returns the record, if its bytes can be read. -/
theorem decode_document {r : DurableRecord} (h : r.Canonical) (hl : F.Legible (r.bytes F))
    (source : SourceStatus) (config : ConfigStatus) :
    decode F r.kind source config (r.bytes F) = .ok (r.withDisposition source config) := by
  obtain ⟨catalog, hr⟩ := h
  cases r with
  | agentType => exact congrArg (agentType <$> ·) (agentTypeFromCanonicalJson_canonical hl)
  | spawnSource =>
    exact congrArg (spawnSource <$> ·) (spawnSourceFromCanonicalJson_canonical source hl)
  | sourceConfig =>
    exact congrArg ((fun x => sourceConfig x.1 x.2) <$> ·)
      (sourceConfigRevisionFromCanonicalJson_canonical hr.2 config hl)
  | adapterBindingPolicy =>
    exact congrArg (adapterBindingPolicy <$> ·)
      (adapterBindingPolicyFromCanonicalJson_canonical config hr hl)
  | capabilityDefinition =>
    exact congrArg ((fun x => capabilityDefinition x.1 x.2) <$> ·)
      (capabilityDefinitionFromCanonicalJson_canonical hl)
  | taskAgentRequirement =>
    exact congrArg (taskAgentRequirement <$> ·)
      (taskAgentRequirementFromCanonicalJson_canonical hl)
  | generationPolicy =>
    exact congrArg (generationPolicy <$> ·) (generationPolicyFromCanonicalJson_canonical hl)
  | provisioningBinding =>
    exact congrArg (provisioningBinding <$> ·)
      (provisioningBindingFromCanonicalJson_canonical hr hl)
  | bindingSnapshot =>
    exact congrArg (bindingSnapshot <$> ·) (bindingSnapshotFromCanonicalJson_canonical hr hl)

end Bytes

/-- Every document names the kind of its record. -/
theorem document_kind (r : DurableRecord) : r.document.get "kind" = some (.str r.kind.spelling) := by
  cases r <;>
    simp [document, canonicalAgentTypeDocument, canonicalSpawnSourceDocument,
      canonicalSourceConfigDocument, canonicalAdapterBindingPolicyDocument,
      canonicalCapabilityDefinitionDocument, canonicalTaskAgentRequirementDocument,
      canonicalGenerationPolicyDocument, canonicalProvisioningBindingDocument,
      canonicalBindingSnapshotDocument, envelope, Value.get_object, List.lookup_cons, kind,
      DurableKind.spelling]

theorem kind_of_document_eq {r r' : DurableRecord} (h : r.document = r'.document) :
    r.kind = r'.kind := by
  have hkind := congrArg (Value.get · "kind") h
  simp only [document_kind] at hkind
  have hstr := congrArg (Option.bind · Value.asStr) hkind
  exact DurableKind.spelling_injective (by simpa using hstr)

/-- **Records with the same document are equal, dispositions aside**: both are what the one decoder
    of their kind makes of it where documents are stored as they are. -/
theorem sameContent_of_document {r r' : DurableRecord} (hr : r.Canonical) (hr' : r'.Canonical)
    (h : r.document = r'.document) : r.kind = r'.kind ∧ r.SameContent r' := by
  have hkind : r.kind = r'.kind := kind_of_document_eq h
  refine ⟨hkind, fun source config => ?_⟩
  have hdecode := decode_document _ hr (DocFormat.verbatim_legible _) source config
  rw [bytes, h, hkind] at hdecode
  exact Except.ok.inj (hdecode.symm.trans
    (decode_document _ hr' (DocFormat.verbatim_legible _) source config))

end DurableRecord

open DurableRecord

/-- **A canonical document identifies its record.** Decoding the bytes of a canonical record returns
    the record, under whatever disposition the decoder is given, when the parser reads them back as
    the document. Records with the same bytes are of
    the same kind and equal up to their disposition; when the digest has no collisions, so are
    records with the same digest. -/
theorem canonical_documents_identify_records {T D : Type} (F : DocFormat T D) :
    (∀ r : DurableRecord, r.Canonical → F.Legible (r.bytes F) → ∀ source config,
      decode F r.kind source config (r.bytes F) = .ok (r.withDisposition source config)) ∧
    (∀ r r' : DurableRecord, r.Canonical → r'.Canonical → r.bytes F = r'.bytes F →
      r.kind = r'.kind ∧ r.SameContent r') ∧
    (F.CollisionFree → ∀ r r' : DurableRecord, r.Canonical → r'.Canonical →
      r.digest F = r'.digest F → r.kind = r'.kind ∧ r.SameContent r') := by
  refine ⟨fun r hr => decode_document F hr, fun r r' hr hr' h => ?_, fun hfree r r' hr hr' h => ?_⟩
  · exact sameContent_of_document hr hr' (F.print_injective h)
  · exact sameContent_of_document hr hr' (F.print_injective (hfree h))

/-- The workshop's source is read back, and no configuration of it has its digest. -/
theorem canonical_documents_identify_records_workshop :
    decode DocFormat.verbatim .spawnSource .draining .active
        ((DurableRecord.spawnSource workshop).bytes DocFormat.verbatim) =
      .ok (.spawnSource { workshop with status := .draining }) ∧
    (DurableRecord.spawnSource workshop).digest DocFormat.verbatim ≠
      (DurableRecord.sourceConfig workshopConfig (some "file:a")).digest DocFormat.verbatim := by
  have hsource : (DurableRecord.spawnSource workshop).Canonical :=
    ⟨workshopCatalog, workshop, by decide +kernel⟩
  have hconfig : (DurableRecord.sourceConfig workshopConfig (some "file:a")).Canonical :=
    ⟨workshopCatalog, ⟨workshopConfig, workshop, by decide +kernel⟩, by decide +kernel⟩
  have hid := canonical_documents_identify_records DocFormat.verbatim
  refine ⟨hid.1 _ hsource (DocFormat.verbatim_legible _) .draining .active, fun h => ?_⟩
  have hkind := (hid.2.2 DocFormat.verbatim_collisionFree _ _ hsource hconfig h).1
  cases hkind

end Agentype.Agent

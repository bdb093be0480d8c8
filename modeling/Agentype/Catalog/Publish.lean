import Agentype.Catalog.Store

/-!
# `Agentype.Catalog.Publish` — the operations of the catalog

Publication canonicalizes what is offered, checks what it depends on and writes the revision once. A
revision that exists is never written again: the offer must have its digest, and then nothing
happens. Dispositions move forward only.

Each operation is one transaction, so an operation that fails leaves the catalog as it was; `step`
and `run` are built on that.

## Contents
- `guardImmutable`, `writeOnce`, `publishCapabilityDefinition`, `publishAdapterBindingPolicy`,
  `publishAgentType`, `publishSpawnSource`, `publishSourceConfig`.
- `setAgentTypeStatus`, `setSpawnSourceStatus`, `setSourceConfigStatus`,
  `setAdapterBindingPolicyStatus`.
- `CatalogOp`, `Catalog.exec`, `Catalog.step`, `Catalog.run`.
-/

namespace Agentype.Agent

open Check

/-- What a table reports when a key is taken. -/
def keyTaken : Error := .conflict "UNIQUE constraint failed"

/-- `length(trim(text)) > 0` as the tables check it: only blanks are trimmed, and a text ends at its
    first NUL. -/
def trimmedNonEmpty (text : String) : Bool :=
  ((text.toList.dropWhile fun c => decide (c = ' ')).takeWhile fun c => decide (c ≠ '\x00')) ≠ []

namespace SourceConfigBody

def mode : SourceConfigBody → ConfigMode
  | opaqueJson _ => .opaqueJson
  | externalRef _ => .externalRef

def payload : SourceConfigBody → Option Value
  | opaqueJson payload => some payload
  | externalRef _ => none

def locator : SourceConfigBody → Option String
  | opaqueJson _ => none
  | externalRef locator => some locator

end SourceConfigBody

/-- The rank of a disposition of sources. -/
def SourceStatus.rank : SourceStatus → Nat
  | active => 0
  | draining => 1
  | disabled => 2

def sourceStatusSql : SourceStatus → String
  | .active => "ACTIVE"
  | .draining => "DRAINING"
  | .disabled => "DISABLED"

/-- The rank of a disposition of configurations and policies. -/
def ConfigStatus.rank : ConfigStatus → Nat
  | active => 0
  | draining => 1
  | disabled => 2

def configStatusSql : ConfigStatus → String
  | .active => "ACTIVE"
  | .draining => "DRAINING"
  | .disabled => "DISABLED"

/-- A disposition's rank and spelling decide whether it may move. -/
def checkMonotonic {S : Type} (rank : S → Nat) (spell : S → String) (current next : S) :
    Except Error Unit :=
  ensure (rank current ≤ rank next) (.invalidTransition
    ("disposition " ++ spell current ++ " -> " ++ spell next ++ " is not monotonic"))

/-- Why a disposition is absent: the revision does not exist, or it lost its overlay. -/
def absentDisposition (revisionExists : Bool) (what : String) : Error :=
  if revisionExists then missingOverlay what
  else .notFound (what ++ " revision does not exist")

section Operations

variable {T D : Type} (F : DocFormat T D)

namespace Catalog

variable (c : Catalog T D)

/-! ## Dispositions -/

def setAgentTypeStatus (reference : AgentTypeRef) (status : AgentTypeStatus) :
    Except Error (Catalog T D) := do
  bindRevision reference.revision
  let current ← present (c.agentTypes.overlay.lookup reference)
    (absentDisposition (c.agentTypes.rows.lookup reference).isSome "agent type")
  if current = status then pure c
  else do
    ensure (!(current = .deprecated && status = .published))
      (.invalidTransition "a deprecated AgentType revision cannot be republished")
    pure { c with agentTypes := c.agentTypes.advance reference .deprecated }

/-- Move the disposition of one revision of a table. -/
def moveDisposition {K R S : Type} [LinearOrder K] [DecidableEq S] (rank : S → Nat)
    (spell : S → String) (what : String) (v : Revisions K R S) (reference : K) (status : S) :
    Except Error (Revisions K R S) := do
  let current ← present (v.overlay.lookup reference)
    (absentDisposition (v.rows.lookup reference).isSome what)
  checkMonotonic rank spell current status
  if current = status then pure v else pure (v.advance reference status)

def setSpawnSourceStatus (reference : SpawnSourceRef) (status : SourceStatus) :
    Except Error (Catalog T D) := do
  bindRevision reference.revision
  let sources ← moveDisposition SourceStatus.rank sourceStatusSql "spawn source" c.sources reference
    status
  pure { c with sources := sources }

def setSourceConfigStatus (reference : SourceConfigRef) (status : ConfigStatus) :
    Except Error (Catalog T D) := do
  bindRevision reference.source.revision
  bindRevision reference.revision
  let configs ← moveDisposition ConfigStatus.rank configStatusSql "source config" c.configs
    reference status
  pure { c with configs := configs }

def setAdapterBindingPolicyStatus (reference : AdapterPolicyRef) (status : ConfigStatus) :
    Except Error (Catalog T D) := do
  bindRevision reference.revision
  let policies ← moveDisposition ConfigStatus.rank configStatusSql "adapter binding policy"
    c.policies reference status
  pure { c with policies := policies }

/-- An opaque body must have the declared digest, an external one a locator. -/
def checkBody (config : SourceConfig) (body : SourceConfigBody) : Except Error Unit :=
  match body with
  | .opaqueJson payload =>
    let expected := canonicalJsonBodyDigest F payload
    ensure (config.configDigest.text = expected) (.invariantViolation
      ("config digest " ++ config.configDigest.text ++
        " does not match the canonical opaque JSON body digest " ++ expected))
  | .externalRef locator =>
    ensure (!isBlank locator)
      (.invariantViolation "an ExternalRef config locator must not be empty")

end Catalog

variable [DecidableEq T] [DecidableEq D]

/-- An existing revision may only be offered its own content again. -/
def guardImmutable (stored digest : D) (what : String) : Except Error Unit :=
  ensure (stored = digest) (.invariantViolation
    ("immutable " ++ what ++ " revision already published with content digest " ++
      F.digestText stored ++ "; refusing to replace it with " ++ F.digestText digest))

namespace Catalog

variable (c : Catalog T D)

/-! ## Publication -/

/-- The end of a publication: the revision is there with the digest of the new row and can be read,
    or it is written. `check` is what the table checks of a new row. -/
def writeOnce {K R S α : Type} [LinearOrder K] (v : Revisions K R S) (k : K) (r : R) (s : S)
    (digest : R → D) (what : String) (found : Except Error (Option α)) (check : Except Error Unit)
    (put : Revisions K R S → Catalog T D) : Except Error (D × Catalog T D) :=
  match v.rows.lookup k with
  | some row => do
    guardImmutable F (digest row) (digest r) what
    let found ← found
    let _ ← present found (.invariantViolation ("published " ++ what ++ " is missing"))
    pure (digest r, c)
  | none => do
    check
    let v' ← present (v.add k r s) keyTaken
    pure (digest r, put v')

def publishCapabilityDefinition (reference : CapabilityRef) (definition : CapabilityDefinition) :
    Except Error (D × Catalog T D) := do
  let json := toBytes F (canonicalCapabilityDefinitionDocument reference definition)
  let digest := contentDigest F json
  bindRevision reference.revision
  match c.definitions.lookup reference with
  | some row =>
    guardImmutable F row.contentDigest digest "capability definition"
    let found ← c.getCapabilityDefinition F reference
    let _ ← present found (.invariantViolation "published capability definition is missing")
    pure (digest, c)
  | none =>
    pure (digest,
      { c with definitions := c.definitions.insert reference ⟨definition, json, digest⟩ })

def publishAdapterBindingPolicy (policy : AdapterBindingPolicy) :
    Except Error (D × Catalog T D) := do
  liftContract policy.validate
  let json := toBytes F (canonicalAdapterBindingPolicyDocument policy)
  bindRevision policy.policyRef.revision
  c.writeOnce F c.policies policy.policyRef
    ⟨policy.adapterKind, policy.bindingRef, json, contentDigest F json⟩ policy.status
    PolicyRow.contentDigest "adapter binding policy" (c.getAdapterBindingPolicy F policy.policyRef)
    (ensure (trimmedNonEmpty policy.adapterKind && trimmedNonEmpty policy.bindingRef)
      (.conflict "CHECK constraint failed"))
    fun v => { c with policies := v }

/-- The base a type is derived from must be a valid catalog record that the type refines. -/
def checkBase (catalog : CapabilityCatalog) (agent : AgentType) : Except Error Unit :=
  match agent.basedOn with
  | none => pure ()
  | some baseRef => do
    let found ← c.getAgentType F baseRef
    let (base, _) ← present found
      (.notFound ("based_on agent type " ++ baseRef.display ++ " does not exist"))
    liftContract (isValidRefinement base agent catalog)

def publishAgentType (agent : AgentType) : Except Error (D × Catalog T D) := do
  let catalog ← c.loadCapabilityCatalog F
  let canonical ← liftContract (canonicalizeAgentType agent catalog)
  c.checkBase F catalog canonical
  let json := toBytes F (canonicalAgentTypeDocument canonical)
  bindRevision canonical.typeRef.revision
  c.writeOnce F c.agentTypes canonical.typeRef ⟨canonical.basedOn, json, contentDigest F json⟩
    .published AgentTypeRow.contentDigest "agent type" (c.getAgentType F canonical.typeRef)
    (pure ()) fun v => { c with agentTypes := v }

def publishSpawnSource (source : SpawnSource) : Except Error (D × Catalog T D) := do
  let catalog ← c.loadCapabilityCatalog F
  let canonical ← liftContract (canonicalizeSpawnSource source catalog)
  let policy ← c.getAdapterBindingPolicy F canonical.adapterPolicy
  let _ ← present policy (.notFound
    ("adapter binding policy " ++ canonical.adapterPolicy.display ++ " does not exist"))
  let json := toBytes F (canonicalSpawnSourceDocument canonical)
  bindRevision canonical.sourceRef.revision
  c.writeOnce F c.sources canonical.sourceRef
    ⟨canonical.adapterPolicy, json, contentDigest F json⟩ canonical.status SourceRow.contentDigest
    "spawn source" (c.loadSpawnSource F canonical.sourceRef) (pure ())
    fun v => { c with sources := v }

def publishSourceConfig (config : SourceConfig) (body : SourceConfigBody) :
    Except Error (D × Catalog T D) := do
  let found ← c.loadSpawnSource F config.configRef.source
  let source ← present found
    (.notFound ("source " ++ config.configRef.source.display ++ " does not exist"))
  requireCanonicalDigest config.configDigest "source config"
  checkBody F config body
  let catalog ← c.loadCapabilityCatalog F
  let canonical ← liftContract (canonicalizeSourceConfig config source catalog)
  let json := toBytes F (canonicalSourceConfigDocument canonical body.locator)
  bindRevision config.configRef.source.revision
  bindRevision config.configRef.revision
  c.writeOnce F c.configs config.configRef
    ⟨body.mode, body.payload.map (toBytes F), body.locator, canonical.configDigest.text, json,
      contentDigest F json⟩
    canonical.status ConfigRow.contentDigest "source config"
    (c.loadSourceConfigRevision F config.configRef) (pure ()) fun v => { c with configs := v }

end Catalog

/-! ## Runs -/

/-- An offer of content for a revision. -/
inductive Offer where
  | capabilityDefinition (reference : CapabilityRef) (definition : CapabilityDefinition)
  | adapterBindingPolicy (policy : AdapterBindingPolicy)
  | agentType (agent : AgentType)
  | spawnSource (source : SpawnSource)
  | sourceConfig (config : SourceConfig) (body : SourceConfigBody)

inductive CatalogOp where
  | publish (offer : Offer)
  | setAgentTypeStatus (reference : AgentTypeRef) (status : AgentTypeStatus)
  | setSpawnSourceStatus (reference : SpawnSourceRef) (status : SourceStatus)
  | setSourceConfigStatus (reference : SourceConfigRef) (status : ConfigStatus)
  | setAdapterBindingPolicyStatus (reference : AdapterPolicyRef) (status : ConfigStatus)

namespace Catalog

def publish (c : Catalog T D) : Offer → Except Error (D × Catalog T D)
  | .capabilityDefinition reference definition =>
    c.publishCapabilityDefinition F reference definition
  | .adapterBindingPolicy policy => c.publishAdapterBindingPolicy F policy
  | .agentType agent => c.publishAgentType F agent
  | .spawnSource source => c.publishSpawnSource F source
  | .sourceConfig config body => c.publishSourceConfig F config body

/-- What an operation leaves, if it succeeds. -/
def exec (c : Catalog T D) : CatalogOp → Except Error (Catalog T D)
  | .publish offer => Prod.snd <$> c.publish F offer
  | .setAgentTypeStatus reference status => c.setAgentTypeStatus reference status
  | .setSpawnSourceStatus reference status => c.setSpawnSourceStatus reference status
  | .setSourceConfigStatus reference status => c.setSourceConfigStatus reference status
  | .setAdapterBindingPolicyStatus reference status =>
    c.setAdapterBindingPolicyStatus reference status

/-- One operation; a failed one changes nothing. -/
def step (c : Catalog T D) (op : CatalogOp) : Catalog T D :=
  match c.exec F op with
  | .ok c' => c'
  | .error _ => c

def run (c : Catalog T D) (ops : List CatalogOp) : Catalog T D := ops.foldl (step F) c

end Catalog

end Operations

end Agentype.Agent

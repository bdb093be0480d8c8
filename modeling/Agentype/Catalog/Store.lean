import Agentype.Agent.Decode
import Agentype.Lib.Revisions

/-!
# `Agentype.Catalog.Store` — the agent contract catalog and its reads

The tables of the catalog. A revision's content is a canonical document with its digest, and a few
columns that mirror parts of it; the operator's disposition is kept in an overlay table, outside the
content.

The document is the authority. Every read checks the digest, decodes the document, compares the
mirrors, canonicalizes the record again against the capabilities defined by now and demands that its
encoding is the stored document; whatever disagrees is corruption and fails the read.

## Contents
- `Catalog`, its rows, `AgentTypeStatus`, `ConfigMode`, `SourceConfigBody`, `SourceConfigRevision`.
- `verifyContentDigest`, `verifyReencoded`, `crossCheck`, `requireCanonicalDigest`.
- `loadCapabilityCatalog`, `getCapabilityDefinition`, `getAdapterBindingPolicy`, `getAgentType`,
  `loadSpawnSource`, `loadSourceConfigRevision`, `loadAgentTypeLookup`.
-/

namespace Agentype.Agent

open Check

/-- Whether a type may still be selected. -/
inductive AgentTypeStatus where
  | published | deprecated
  deriving DecidableEq, Repr

/-- The kind of a configuration's body. -/
inductive ConfigMode where
  | opaqueJson | externalRef
  deriving DecidableEq, Repr

/-- A configuration's body, as it is offered for publication. -/
inductive SourceConfigBody where
  | opaqueJson (payload : Value)
  | externalRef (locator : String)
  deriving DecidableEq

structure DefinitionRow (T D : Type) where
  definition : CapabilityDefinition
  contentJson : T
  contentDigest : D

structure PolicyRow (T D : Type) where
  adapterKind : String
  bindingRef : String
  contentJson : T
  contentDigest : D

structure AgentTypeRow (T D : Type) where
  basedOn : Option AgentTypeRef
  contentJson : T
  contentDigest : D

structure SourceRow (T D : Type) where
  adapterPolicy : AdapterPolicyRef
  contentJson : T
  contentDigest : D

structure ConfigRow (T D : Type) where
  configMode : ConfigMode
  payloadJson : Option T
  locator : Option String
  configDigest : String
  contentJson : T
  contentDigest : D

/-- The catalog's tables. -/
structure Catalog (T D : Type) where
  definitions : SortedMap CapabilityRef (DefinitionRow T D)
  policies : Revisions AdapterPolicyRef (PolicyRow T D) ConfigStatus
  agentTypes : Revisions AgentTypeRef (AgentTypeRow T D) AgentTypeStatus
  sources : Revisions SpawnSourceRef (SourceRow T D) SourceStatus
  configs : Revisions SourceConfigRef (ConfigRow T D) ConfigStatus

def Catalog.empty {T D : Type} : Catalog T D := ⟨.empty, .empty, .empty, .empty, .empty⟩

/-- A configuration revision that passed every check of a read. -/
structure SourceConfigRevision where
  config : SourceConfig
  mode : ConfigMode
  locator : Option String
  payload : Option Value
  deriving DecidableEq

/-! ## Checks -/

def contractFault (error : ContractError) : Error := .invariantViolation error.display

/-- A contract computation inside a catalog transaction. -/
def liftContract {α : Type} (x : Except ContractError α) : Except Error α :=
  x.mapError contractFault

/-- Bind a revision as a parameter: the store has signed integers only. -/
def bindRevision (revision : U64) : Except Error Unit :=
  ensure (revision.val < 2 ^ 63)
    (.storageFailure "sqlite: out of range integral type conversion attempted")

def crossCheck (condition : Bool) (what : String) : Except Error Unit :=
  ensure condition (.invariantViolation
    ("catalog " ++ what ++ " relational mirror does not match its canonical document"))

def requireCanonicalDigest (digest : ConfigDigest) (what : String) : Except Error Unit :=
  digest.validateCanonical.mapError fun error =>
    .invariantViolation ("catalog " ++ what ++ " is not a canonical digest: " ++ error.display)

def missingOverlay (what : String) : Error :=
  .invariantViolation ("catalog " ++ what ++ " is missing its disposition overlay")

section Reads

variable {T D : Type} [DecidableEq T] [DecidableEq D] (F : DocFormat T D)

def verifyContentDigest (json : T) (digest : D) (what : String) : Except Error Unit :=
  ensure (contentDigest F json = digest) (.invariantViolation
    ("catalog " ++ what ++ " content digest " ++ F.digestText digest ++
      " does not match recomputed " ++ F.digestText (contentDigest F json)))

omit [DecidableEq D] in
def verifyReencoded (reencoded stored : T) (what : String) : Except Error Unit :=
  ensure (reencoded = stored) (.invariantViolation
    ("catalog " ++ what ++ " content is not the canonical encoding; refusing to read"))

namespace Catalog

variable (c : Catalog T D)

/-! ## Capability definitions -/

/-- Validate one row of the definitions. -/
def readDefinition (reference : CapabilityRef) (row : DefinitionRow T D) :
    Except Error CapabilityDefinition := do
  verifyContentDigest F row.contentJson row.contentDigest "capability definition"
  let (canonicalRef, definition) ←
    liftContract (capabilityDefinitionFromCanonicalJson F row.contentJson)
  crossCheck (canonicalRef = reference) "capability definition"
  crossCheck (row.definition = definition) "capability definition"
  verifyReencoded (toBytes F (canonicalCapabilityDefinitionDocument canonicalRef definition))
    row.contentJson "capability definition"
  pure definition

/-- The definitions in force, each validated. -/
def loadCapabilityCatalog : Except Error CapabilityCatalog :=
  c.definitions.entries.foldlM (fun catalog x => do
    let definition ← readDefinition F x.1 x.2
    liftContract (catalog.define x.1 definition)) .empty

def getCapabilityDefinition (reference : CapabilityRef) :
    Except Error (Option CapabilityDefinition) := do
  bindRevision reference.revision
  match c.definitions.lookup reference with
  | none => pure none
  | some row => some <$> readDefinition F reference row

/-! ## Revisions -/

def getAdapterBindingPolicy (reference : AdapterPolicyRef) :
    Except Error (Option AdapterBindingPolicy) := do
  bindRevision reference.revision
  match c.policies.find reference with
  | none => pure none
  | some (row, status) =>
    let status ← present status (missingOverlay "adapter binding policy")
    verifyContentDigest F row.contentJson row.contentDigest "adapter binding policy"
    let policy ← liftContract (adapterBindingPolicyFromCanonicalJson F row.contentJson status)
    crossCheck (policy.policyRef = reference) "adapter binding policy"
    crossCheck (policy.adapterKind = row.adapterKind && policy.bindingRef = row.bindingRef)
      "adapter binding policy"
    verifyReencoded (toBytes F (canonicalAdapterBindingPolicyDocument policy)) row.contentJson
      "adapter binding policy"
    pure (some policy)

def getAgentType (reference : AgentTypeRef) :
    Except Error (Option (AgentType × AgentTypeStatus)) := do
  bindRevision reference.revision
  match c.agentTypes.find reference with
  | none => pure none
  | some (row, status) =>
    let status ← present status (missingOverlay "agent type")
    verifyContentDigest F row.contentJson row.contentDigest "agent type"
    let stored ← liftContract (agentTypeFromCanonicalJson F row.contentJson)
    crossCheck (stored.typeRef = reference) "agent type"
    crossCheck (stored.basedOn = row.basedOn) "agent type"
    let catalog ← c.loadCapabilityCatalog F
    let agent ← liftContract (canonicalizeAgentType stored catalog)
    verifyReencoded (toBytes F (canonicalAgentTypeDocument agent)) row.contentJson "agent type"
    pure (some (agent, status))

def loadSpawnSource (reference : SpawnSourceRef) : Except Error (Option SpawnSource) := do
  bindRevision reference.revision
  match c.sources.find reference with
  | none => pure none
  | some (row, status) =>
    let status ← present status (missingOverlay "spawn source")
    verifyContentDigest F row.contentJson row.contentDigest "spawn source"
    let stored ← liftContract (spawnSourceFromCanonicalJson F row.contentJson status)
    crossCheck (stored.sourceRef = reference) "spawn source"
    crossCheck (stored.adapterPolicy = row.adapterPolicy) "spawn source"
    let catalog ← c.loadCapabilityCatalog F
    let source ← liftContract (canonicalizeSpawnSource stored catalog)
    verifyReencoded (toBytes F (canonicalSpawnSourceDocument source)) row.contentJson "spawn source"
    pure (some source)

/-- The body of a stored configuration: its mode, locator and payload must fit together. -/
def readConfigBody (row : ConfigRow T D) (config : SourceConfig) (canonicalLocator : Option String) :
    Except Error (Option Value) :=
  match row.configMode with
  | .externalRef => do
    crossCheck row.payloadJson.isNone "source config"
    crossCheck row.locator.isSome "source config"
    crossCheck (row.locator = canonicalLocator) "source config"
    pure none
  | .opaqueJson => do
    crossCheck row.locator.isNone "source config"
    crossCheck canonicalLocator.isNone "source config"
    let payloadJson ← present row.payloadJson
      (.invariantViolation "catalog source config body is missing")
    let payload ← (F.parse payloadJson).mapError fun e =>
      .invariantViolation ("catalog source config body: " ++ e)
    crossCheck (canonicalJsonBodyDigest F payload = config.configDigest.text) "source config"
    pure (some payload)

def loadSourceConfigRevision (reference : SourceConfigRef) :
    Except Error (Option SourceConfigRevision) := do
  bindRevision reference.source.revision
  bindRevision reference.revision
  match c.configs.find reference with
  | none => pure none
  | some (row, status) =>
    let status ← present status (missingOverlay "source config")
    verifyContentDigest F row.contentJson row.contentDigest "source config"
    let (stored, canonicalLocator) ←
      liftContract (sourceConfigRevisionFromCanonicalJson F row.contentJson status)
    crossCheck (stored.configRef = reference) "source config"
    requireCanonicalDigest stored.configDigest "source config"
    crossCheck (stored.configDigest.text = row.configDigest) "source config"
    let source ← c.loadSpawnSource F stored.configRef.source
    let source ← present source
      (.invariantViolation "catalog source config references a missing source revision")
    let catalog ← c.loadCapabilityCatalog F
    let config ← liftContract (canonicalizeSourceConfig stored source catalog)
    verifyReencoded (toBytes F (canonicalSourceConfigDocument config canonicalLocator))
      row.contentJson "source config"
    let payload ← readConfigBody F row config canonicalLocator
    pure (some ⟨config, row.configMode, canonicalLocator, payload⟩)

/-- The published types, each validated; one corrupt revision fails the whole lookup. -/
def loadAgentTypeLookup : Except Error InMemorySelectorCatalog := do
  let read ← c.agentTypes.rows.keys.mapM fun reference => do
    let found ← c.getAgentType F reference
    let (_, status) ← present found (.invariantViolation "published agent type is missing")
    pure (reference, status)
  pure
    { published := .ofList ((read.filter fun x => decide (x.2 = .published)).map Prod.fst)
      deprecated := .empty }

end Catalog

end Reads

end Agentype.Agent

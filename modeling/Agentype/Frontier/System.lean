import Agentype.Agent.Equality
import Agentype.Catalog.Publish
import Agentype.Frontier.Intents
import Agentype.Kernel.Run

/-!
# `Agentype.Frontier.System` — the whole store, and typed requirements

The frontier works on one store together with the kernel and the catalog. `System` has the three
parts side by side: the kernel's tables, the catalog, and the tables of the frontier itself.
Documents are kept as text with their digests; the columns that mirror them are kept as values.

The row of a typed requirement is in two places: the pinned type is in the kernel's table, where
dispatch reads it, and the document is here.

## Contents
- `GenerationRow`, `ProposalRow`, `BindingRow`, `System`.
- `getGenerationPolicy`, `insertGenerationPolicy`.
- `getTaskAgentRequirement`, `verifyRequirementMirrors`.
- `resolveDraftSelector`, `deriveTaskAgentRequirement`, `buildTaskAgentRequirement`,
  `buildTaskAgentRequirementReplay`.
-/

namespace Agentype.Frontier

open Check

inductive GenerationState where
  | opened | frozen | closed
  deriving DecidableEq, Repr

def GenerationState.asSql : GenerationState → String
  | opened => "OPEN"
  | frozen => "FROZEN"
  | closed => "CLOSED"

inductive ProposalState where
  | pending | admitted | rejected | expired
  deriving DecidableEq, Repr

def ProposalState.asSql : ProposalState → String
  | pending => "PENDING"
  | admitted => "ADMITTED"
  | rejected => "REJECTED"
  | expired => "EXPIRED"

/-- Why a proposal expired; the frontier itself gives only these two reasons. -/
inductive ExpirationReason where
  | generationFrozen | generationClosed
  deriving DecidableEq, Repr

/-- Where an intent came from. -/
inductive SourceKind where
  | root | result
  deriving DecidableEq, Repr

/-- A document and its digest. -/
structure Doc (T D : Type) where
  json : T
  digest : D
  deriving DecidableEq

structure GenerationRow (T : Type) where
  state : GenerationState
  revision : Nat
  admissionSeq : Nat
  hasPolicy : Bool
  seedPayloadJson : T
  deriving DecidableEq

structure ProposalRow (T : Type) where
  generationId : GenerationId
  sourceKind : SourceKind
  sourceRef : String
  rawIntentKey : String
  intentFingerprint : T
  objective : String
  rationale : Option String
  informationFunction : InformationFunction
  normalizedTaskSpecJson : Option T
  semanticInputSetJson : T
  compilerVersion : U32
  state : ProposalState
  admittedTaskId : Option TaskId
  expirationReason : Option ExpirationReason
  rejectionReason : Option String
  createdAt : UnixTime
  deriving DecidableEq

structure BindingRow (T : Type) where
  generationId : GenerationId
  proposalId : ProposalId
  informationFunction : InformationFunction
  admissionSeq : Nat
  admittedTaskSpecJson : T
  semanticInputSetJson : T
  deriving DecidableEq

/-- The store of the whole scheduler. -/
structure System (T D : Type) where
  kernel : Store
  catalog : Agent.Catalog T D
  generations : SortedMap GenerationId (GenerationRow T)
  policies : SortedMap GenerationId (Doc T D)
  proposals : SortedMap ProposalId (ProposalRow T)
  bindings : SortedMap TaskId (BindingRow T)
  requirements : SortedMap TaskId (Doc T D)

def System.empty {T D : Type} : System T D where
  kernel := .empty
  catalog := .empty
  generations := .empty
  policies := .empty
  proposals := .empty
  bindings := .empty
  requirements := .empty

/-- How documents are stored: the texts of the frontier and the catalog, and the payloads of the
    kernel, which it does not look into. -/
structure Wire (T D : Type) extends DocFormat T D where
  load : JsonValue → Except Error Value
  dump : Value → JsonValue

/-- The kernel's form of a pinned type. -/
def kernelRef (r : Agent.AgentTypeRef) : AgentTypeRef := ⟨r.id, r.revision.val⟩

/-- Classify a contract error raised while a command is built. -/
def contractRejection (error : Agent.ContractError) : Error :=
  match error with
  | .agentTypeNotFound .. => .notFound error.display
  | .capabilityMismatch .. | .securityUnenforceable .. | .generationPolicyConflict ..
  | .requirementConflict .. | .invalidRefinement .. | .sourceConfigInvalid .. =>
    .invalidAuthority error.display
  | .evidencePolicyMismatch .. | .evidenceSubjectMismatch .. | .invalidNumber ..
  | .invalidRef .. | .capabilityDefinitionConflict .. | .invariantViolation .. =>
    .invariantViolation error.display

def rejecting {α : Type} (x : Except Agent.ContractError α) : Except Error α :=
  x.mapError contractRejection

section Reads

variable {T D : Type} [DecidableEq T] [DecidableEq D] (W : Wire T D) (s : System T D)

/-- `json_load` of a text that the frontier wrote. -/
def Wire.parseText (W : Wire T D) (text : T) : Except Error Value :=
  (W.parse text).mapError fun e => invariant ("corrupted durable JSON: " ++ e)

/-! ## Generation policies -/

/-- The document of a policy, canonical for the current catalog. -/
def System.insertGenerationPolicy (generationId : GenerationId) (policy : Agent.GenerationPolicy) :
    Except Error (System T D) := do
  let catalog ← s.catalog.loadCapabilityCatalog W.toDocFormat
  let canonical ← rejecting (Agent.canonicalizeGenerationPolicy policy catalog)
  ensure (s.policies.lookup generationId).isNone
    (.conflict ("generation " ++ generationId ++ " already has a policy"))
  let json := Agent.toBytes W.toDocFormat (Agent.canonicalGenerationPolicyDocument canonical)
  pure { s with
    policies := s.policies.insert generationId ⟨json, Agent.contentDigest W.toDocFormat json⟩ }

/-- Read a stored policy: its digest, its document and that it is canonical. -/
def System.readGenerationPolicy (row : Doc T D) : Except Error Agent.GenerationPolicy := do
  let recomputed := Agent.contentDigest W.toDocFormat row.json
  ensure (recomputed = row.digest) (invariant
    ("generation policy digest " ++ W.digestText row.digest ++ " does not match recomputed " ++
      W.digestText recomputed))
  let policy ← Agent.liftContract
    (Agent.generationPolicyFromCanonicalJson W.toDocFormat row.json)
  let catalog ← s.catalog.loadCapabilityCatalog W.toDocFormat
  let canonical ← Agent.liftContract (Agent.canonicalizeGenerationPolicy policy catalog)
  ensure (Agent.toBytes W.toDocFormat (Agent.canonicalGenerationPolicyDocument canonical) =
      row.json)
    (invariant "generation policy is not the canonical encoding; refusing to read")
  pure canonical

/-- The single authoritative read of a generation's policy: the marker of the generation and the row
    must agree. -/
def System.getGenerationPolicy (generationId : GenerationId) :
    Except Error (Option Agent.GenerationPolicy) := do
  let generation ← present (s.generations.lookup generationId)
    (.notFound ("generation " ++ generationId))
  match generation.hasPolicy, s.policies.lookup generationId with
  | false, none => pure none
  | true, none => throw (invariant
      ("policy-bearing generation " ++ generationId ++ " is missing its policy row"))
  | false, some _ => throw (invariant
      ("generation " ++ generationId ++ " is not policy-bearing but has a policy row"))
  | true, some row => some <$> s.readGenerationPolicy W row

/-! ## Task requirements -/

omit [DecidableEq T] [DecidableEq D] in
def System.taskAgentRequirementMode (taskId : TaskId) : Except Error AgentRequirementMode := do
  let task ← present (s.kernel.tasks.lookup taskId) (.notFound ("task " ++ taskId))
  pure task.agentRequirementMode

/-- Only a `Required` preference is a hard requirement. -/
def hardContinuity : ContinuityPreference → Agent.ContinuityMode
  | .required => .logical
  | .preferred | .none => .none

/-- The copies of the task's own dimensions must agree with the task, its binding and the policy of
    its generation. -/
def System.verifyRequirementMirrors (taskId : TaskId) (requirement : Agent.TaskAgentRequirement) :
    Except Error Unit := do
  let task ← present (s.kernel.tasks.lookup taskId) (.notFound ("task " ++ taskId))
  ensure (SortedSet.ofList task.affinityTags = requirement.hard.requiredAffinity) (invariant
    "task agent requirement required_affinity does not match the Task affinity tags")
  ensure (task.workspaceMode = requirement.hard.requiredWorkspace) (invariant
    "task agent requirement required_workspace does not match the Task workspace mode")
  let binding ← present (s.bindings.lookup taskId)
    (invariant "typed task is missing its GenerationTaskBinding")
  ensure (binding.informationFunction = requirement.hard.informationFunction) (invariant
    "task agent requirement information_function does not match the GenerationTaskBinding")
  let base := hardContinuity task.continuity
  match ← s.getGenerationPolicy W binding.generationId with
  | some policy =>
    ensure (max policy.minContinuity base = requirement.hard.requiredContinuity) (invariant
      ("task agent requirement required_continuity does not match the folded " ++
        "Task/Generation continuity"))
    let refolded ← (Agent.foldGenerationPolicy policy requirement.hard).mapError fun error =>
      invariant ("task agent requirement violates its Generation policy: " ++ error.display)
    ensure (refolded.same requirement.hard) (invariant
      "task agent requirement is not the fixed point of its Generation policy")
  | none =>
    ensure (base = requirement.hard.requiredContinuity) (invariant
      "task agent requirement required_continuity does not match the Task continuity")

/-- Read a stored requirement. -/
def System.readTaskAgentRequirement (taskId : TaskId) (mirror : AgentTypeRef) (row : Doc T D) :
    Except Error Agent.TaskAgentRequirement := do
  let recomputed := Agent.contentDigest W.toDocFormat row.json
  ensure (recomputed = row.digest) (invariant
    ("task agent requirement digest " ++ W.digestText row.digest ++
      " does not match recomputed " ++ W.digestText recomputed))
  let requirement ← Agent.liftContract
    (Agent.taskAgentRequirementFromCanonicalJson W.toDocFormat row.json)
  ensure (mirror = kernelRef requirement.requiredType) (invariant
    "task agent requirement required_type mirror does not match its canonical document")
  let pinned ← s.catalog.getAgentType W.toDocFormat requirement.requiredType
  let _ ← present pinned (invariant ("task agent requirement pins a missing agent type " ++
    requirement.requiredType.display))
  let catalog ← s.catalog.loadCapabilityCatalog W.toDocFormat
  let canonical ← Agent.liftContract (Agent.canonicalizeTaskAgentRequirement requirement catalog)
  ensure (Agent.toBytes W.toDocFormat (Agent.canonicalTaskAgentRequirementDocument canonical) =
      row.json)
    (invariant "task agent requirement is not the canonical encoding; refusing to read")
  s.verifyRequirementMirrors W taskId canonical
  pure canonical

omit [DecidableEq T] [DecidableEq D] in
/-- The row of a task's requirement: the pinned type and the document. -/
def System.requirementRow (taskId : TaskId) : Option (AgentTypeRef × Doc T D) := do
  let mirror ← s.kernel.taskAgentRequirements.lookup taskId
  let doc ← s.requirements.lookup taskId
  pure (mirror, doc)

/-- The single authoritative read of a task's requirement: the marker of the task and the row must
    agree. -/
def System.getTaskAgentRequirement (taskId : TaskId) :
    Except Error (Option Agent.TaskAgentRequirement) := do
  let mode ← s.taskAgentRequirementMode taskId
  match mode, s.requirementRow taskId with
  | .legacy, none => pure none
  | .typed, none => throw (invariant
      ("typed task " ++ taskId ++ " is missing its agent requirement row"))
  | .legacy, some _ => throw (invariant
      ("legacy task " ++ taskId ++ " unexpectedly has an agent requirement row"))
  | .typed, some row => some <$> s.readTaskAgentRequirement W taskId row.1 row.2

/-! ## Deriving a requirement -/

/-- The committed pin answers an exact selector equal to it and the latest selector of its type. -/
def replayPin (selector : Agent.AgentTypeSelector) (committed : Option Agent.AgentTypeRef) :
    Option Agent.AgentTypeRef :=
  match selector, committed with
  | .exact reference, some pin => if reference = pin then some pin else none
  | .latest typeId, some pin => if typeId = pin.id then some pin else none
  | _, none => none

/-- An exact revision that the catalog reads back. -/
def System.existingType (reference : Agent.AgentTypeRef) : Except Error Agent.AgentTypeRef := do
  let found ← s.catalog.getAgentType W.toDocFormat reference
  let _ ← present found (.notFound ("agent type " ++ reference.display ++ " does not exist"))
  pure reference

def System.resolveDraftSelector (selector : Agent.AgentTypeSelector)
    (committed : Option Agent.AgentTypeRef) : Except Error Agent.AgentTypeRef :=
  match replayPin selector committed with
  | some pin => s.existingType W pin
  | none => do
    let lookup ← s.catalog.loadAgentTypeLookup W.toDocFormat
    let resolved ← rejecting (Agent.resolveSelector selector lookup)
    s.existingType W resolved

def System.deriveTaskAgentRequirement (generationId : GenerationId)
    (draft : Agent.AgentRequirementDraft) (informationFunction : InformationFunction)
    (spec : TaskSpec) (requiredType : Agent.AgentTypeRef) :
    Except Error Agent.TaskAgentRequirement := do
  let requirement := draft.intoRequirement requiredType informationFunction
    (.ofList spec.affinityTags) spec.workspaceMode (hardContinuity spec.continuity)
  let catalog ← s.catalog.loadCapabilityCatalog W.toDocFormat
  let normal ← rejecting (requirement.normalize catalog)
  let folded ←
    match ← s.getGenerationPolicy W generationId with
    | some policy => do
      let hard ← rejecting (Agent.foldGenerationPolicy policy normal.hard)
      pure { normal with hard := hard }
    | none => pure normal
  rejecting (folded.normalize catalog)

/-- The pinned type must be able to execute the requirement. -/
def System.validatePinnedTypeCanExecute (requirement : Agent.TaskAgentRequirement) :
    Except Error Unit := do
  let found ← s.catalog.getAgentType W.toDocFormat requirement.requiredType
  let (agentType, _) ← present found
    (.notFound ("agent type " ++ requirement.requiredType.display ++ " does not exist"))
  let catalog ← s.catalog.loadCapabilityCatalog W.toDocFormat
  rejecting (Agent.canExecute agentType requirement.hard catalog)

def System.buildTaskAgentRequirement (generationId : GenerationId)
    (draft : Agent.AgentRequirementDraft) (informationFunction : InformationFunction)
    (spec : TaskSpec) : Except Error Agent.TaskAgentRequirement := do
  let requiredType ← s.resolveDraftSelector W draft.requiredType none
  let requirement ← s.deriveTaskAgentRequirement W generationId draft informationFunction spec
    requiredType
  s.validatePinnedTypeCanExecute W requirement
  pure requirement

def System.buildTaskAgentRequirementReplay (generationId : GenerationId)
    (draft : Agent.AgentRequirementDraft) (informationFunction : InformationFunction)
    (spec : TaskSpec) (committed : Agent.AgentTypeRef) :
    Except Error Agent.TaskAgentRequirement := do
  let requiredType ← s.resolveDraftSelector W draft.requiredType (some committed)
  s.deriveTaskAgentRequirement W generationId draft informationFunction spec requiredType

end Reads

end Agentype.Frontier

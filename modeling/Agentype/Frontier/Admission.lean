import Agentype.Frontier.System

/-!
# `Agentype.Frontier.Admission` — the operations of the frontier

A generation collects proposals and admits some of them as tasks. Compiling an intent makes a
proposal; admitting it makes a task of the kernel, binds it to the generation and, for a typed
admission, pins its agent type, in one transaction. Freezing a generation ends its expansion, closing
it ends it. Repeating a command that has committed finds what it committed.

Each operation returns the system it leaves, or an error; with an error nothing changes.

## Contents
- `getProposal`, `freezeGeneration`, `closeGeneration`, `rejectProposal`, `getGenerationView`.
- `createGenerationWithPolicy`, `compileRootIntent`, `compileResultIntent`.
- `admitProposalCore`: `replayAdmission` of an admitted proposal, or `admitNew`.
- `FrontierOp`, `System.exec`, `System.step`, `System.run`.
-/

namespace Agentype.Frontier

open Check Relational

/-- Predicate: whether a generation in a state admits tasks of a function. -/
def generationAllowsAdmit : GenerationState → InformationFunction → Bool
  | .opened, _ => true
  | .frozen, .expand => false
  | .frozen, _ => true
  | .closed, _ => false

/-- The gate of closing: frozen, and every admitted task terminal. -/
def isGenerationSettled (state : GenerationState) (terminal : List Bool) : Bool :=
  decide (state = .frozen) && terminal.all id

/-- The reading of the view: settled, or closed. -/
def isGenerationViewSettled (state : GenerationState) (terminal : List Bool) : Bool :=
  decide (state = .closed) || isGenerationSettled state terminal

/-- A proposal as it is read: the row with its documents decoded. -/
structure ProposalRecord (T : Type) where
  proposalId : ProposalId
  generationId : GenerationId
  sourceKind : SourceKind
  sourceRef : String
  rawIntentKey : String
  intentFingerprint : T
  objective : String
  rationale : Option String
  informationFunction : InformationFunction
  normalizedTaskSpec : Option TaskSpec
  semanticInputSet : SemanticInputSet
  compilerVersion : U32
  state : ProposalState
  admittedTaskId : Option TaskId
  expirationReason : Option ExpirationReason
  rejectionReason : Option String
  deriving DecidableEq

section Operations

variable {T D : Type} (W : Wire T D)

/-! ## Rows of proposals -/

/-- The identifier a transaction mints first. -/
def firstId (kind : String) (env : Env) : String := kind ++ "_" ++ env.uuid 0

/-- A statement of the kernel inside a transaction of the frontier. -/
def runKernel {α : Type} (x : KernelTx α) (env : Env) (s : Store) : Except Error (α × Store) :=
  match Tx.commit x env s with
  | (.ok a, s') => .ok (a, s')
  | (.error e, _) => .error e

/-- Post an event about a generation, after the identifier that the transaction mints first. -/
def announce (eventType : OutboxEventType) (generationId : GenerationId) :
    KernelTx OutboxEventId := do
  let _ ← Tx.mint
  enqueueEvent eventType generationId

/-- No reference is repeated. -/
def rejectDuplicateRefs {α : Type} [DecidableEq α] (refs : List α) (kind : String) :
    Except Error Unit :=
  ensure (decide refs.Nodup)
    (invariant ("duplicate " ++ kind ++ " reference in semantic input set"))

def System.validateSemanticInputSet (s : System T D) (generationId : GenerationId)
    (set : SemanticInputSet) : Except Error Unit := do
  rejectDuplicateRefs set.resultIds "result"
  rejectDuplicateRefs set.artifactRefs "artifact"
  rejectDuplicateRefs set.seedRefs "seed"
  set.resultIds.forM fun id =>
    ensure (s.kernel.results.lookup id).isSome
      (.notFound ("provenance result_id " ++ id.quote ++ " does not exist"))
  set.artifactRefs.forM fun a => do
    let _ ← ArtifactRef.new a.locator a.digest
    pure ()
  if set.seedRefs.isEmpty then pure ()
  else do
    let generation ← present (s.generations.lookup generationId)
      (.notFound ("generation " ++ generationId.quote))
    let seed ← W.parseText generation.seedPayloadJson
    let obj ← present seed.asObject
      (.invalidAuthority "generation seed_payload must be a JSON object to resolve seed_refs")
    set.seedRefs.forM fun ref =>
      ensure (obj.lookup ref).isSome (.notFound ("seed_ref " ++ ref.quote ++
        " not found in generation " ++ generationId.quote ++ " seed_payload"))

/-- A proposal row with its documents decoded. -/
def readProposal (id : ProposalId) (p : ProposalRow T) : Except Error (ProposalRecord T) := do
  let spec ← p.normalizedTaskSpecJson.mapM fun text => do
    taskSpecFromJson (← W.parseText text)
  let set ← semanticInputSetFromJson (← W.parseText p.semanticInputSetJson)
  pure
    { proposalId := id
      generationId := p.generationId
      sourceKind := p.sourceKind
      sourceRef := p.sourceRef
      rawIntentKey := p.rawIntentKey
      intentFingerprint := p.intentFingerprint
      objective := p.objective
      rationale := p.rationale
      informationFunction := p.informationFunction
      normalizedTaskSpec := spec
      semanticInputSet := set
      compilerVersion := p.compilerVersion
      state := p.state
      admittedTaskId := p.admittedTaskId
      expirationReason := p.expirationReason
      rejectionReason := p.rejectionReason }

/-- What makes a compilation the same command. -/
structure CompileKey where
  generationId : GenerationId
  sourceKind : SourceKind
  sourceRef : String
  rawIntentKey : String
  compilerVersion : U32
  deriving DecidableEq

def ProposalRow.compileKey (p : ProposalRow T) : CompileKey :=
  ⟨p.generationId, p.sourceKind, p.sourceRef, p.rawIntentKey, p.compilerVersion⟩

/-- The proposal that a command has committed. -/
def System.compiled (s : System T D) (key : CompileKey) : Option (ProposalId × ProposalRow T) :=
  s.proposals.entries.find? fun x => decide (x.2.compileKey = key)

/-- Whether the frontier takes a new compilation. -/
def System.allowsCompile (s : System T D) (generationId : GenerationId)
    (informationFunction : InformationFunction) : Except Error Unit := do
  let generation ← present (s.generations.lookup generationId)
    (.notFound ("generation " ++ generationId.quote))
  ensure (generation.state ≠ .closed) (.invalidTransition
    ("cannot compile intent for CLOSED generation " ++ generationId.quote))
  ensure (!(generation.state = .frozen && informationFunction = .expand)) (.invalidTransition
    ("cannot compile EXPAND intent for FROZEN generation " ++ generationId.quote))

/-- The row of a newly compiled proposal. -/
def compiledRow (key : CompileKey) (intent : RawWorkIntent) (fingerprint : T)
    (spec : Option Value) (now : UnixTime) : ProposalRow T where
  generationId := key.generationId
  sourceKind := key.sourceKind
  sourceRef := key.sourceRef
  rawIntentKey := key.rawIntentKey
  intentFingerprint := fingerprint
  objective := intent.objective
  rationale := intent.rationale
  informationFunction := intent.informationFunction
  normalizedTaskSpecJson := spec.map W.print
  semanticInputSetJson := W.print (semanticInputSetToJson intent.semanticInputSet)
  compilerVersion := key.compilerVersion
  state := .pending
  admittedTaskId := none
  expirationReason := none
  rejectionReason := none
  createdAt := now

/-- The intent that a stored result carries under a key. -/
def System.loadResultCarriedIntent (s : System T D) (resultId : ResultId) (rawIntentKey : String) :
    Except Error RawWorkIntent := do
  ensure (!isBlank rawIntentKey) (.invalidAuthority "raw_intent_key cannot be empty")
  let result ← present (s.kernel.results.lookup resultId)
    (.notFound ("result " ++ resultId.quote))
  let payload ← W.load result.payload
  carriedIntent resultId rawIntentKey payload

def System.getProposal (s : System T D) (proposalId : ProposalId) :
    Except Error (ProposalRecord T) := do
  let p ← present (s.proposals.lookup proposalId)
    (.notFound ("proposal " ++ proposalId.quote))
  readProposal W proposalId p

/-! ## Rows of admissions -/

/-- The kernel's form of a specification. -/
def TaskSpec.toKernel (W : Wire T D) (spec : TaskSpec) : Agentype.TaskSpec where
  name := spec.name
  payload := W.dump spec.payload
  acceptance := W.dump spec.acceptance
  partition := spec.partition
  workstreamId := spec.workstreamId
  continuity := spec.continuity
  affinityTags := spec.affinityTags
  workspaceMode := spec.workspaceMode
  dependencies := spec.dependencies
  priority := spec.priority.val
  retryPolicy :=
    { maxAttempts := spec.retryPolicy.maxAttempts.val
      retryClasses := spec.retryPolicy.retryClasses
      baseBackoffSeconds := spec.retryPolicy.baseBackoffSeconds.toRat
      maxBackoffSeconds := spec.retryPolicy.maxBackoffSeconds.toRat }
  supersedesTaskId := spec.supersedesTaskId
  taskId := spec.taskId

/-- The binding that names a proposal. -/
def System.bindingOf (s : System T D) (proposalId : ProposalId) : Option (BindingRow T) :=
  (s.bindings.entries.find? fun x => decide (x.2.proposalId = proposalId)).map Prod.snd

/-- The specification a binding has admitted. -/
def admittedSpec (b : BindingRow T) : Except Error TaskSpec := do
  taskSpecFromJson (← W.parseText b.admittedTaskSpecJson)

/-- A replay must have the shape of what was admitted. -/
def replayShape (typed : Bool) (mode : AgentRequirementMode) : Except Error Unit :=
  match typed, mode with
  | false, .legacy | true, .typed => .ok ()
  | false, .typed => .error (.conflict "legacy admission replay of an already-typed task")
  | true, .legacy => .error (.conflict "typed admission replay of an already-legacy task")

/-- An override offered again must be equivalent to the admitted specification. -/
def System.replayOverride (s : System T D) (proposalId : ProposalId)
    (overrideSpec : Option TaskSpec) : Except Error Unit :=
  match overrideSpec, s.bindingOf proposalId with
  | some spec, some b => do
    let admitted ← admittedSpec W b
    let same ← admitted.equivalent spec
    ensure same (.conflict "override_task_spec conflicts with previously admitted task_spec")
  | _, _ => .ok ()

/-- The document of a requirement. -/
def requirementDoc (requirement : Agent.TaskAgentRequirement) : Doc T D :=
  let json :=
    Agent.toBytes W.toDocFormat (Agent.canonicalTaskAgentRequirementDocument requirement)
  ⟨json, Agent.contentDigest W.toDocFormat json⟩

/-- The specification to admit: the compiled one, or the override where there is none. -/
def resolveSpec (compiled overrideSpec : Option TaskSpec) : Except Error TaskSpec :=
  match compiled, overrideSpec with
  | none, none => .error (.invalidAuthority
      "proposal has no suggested task spec; override_task_spec must be provided at admission")
  | none, some spec => .ok spec
  | some spec, none => .ok spec
  | some spec, some other => do
    let same ← spec.equivalent other
    ensure same
      (.conflict "override_task_spec conflicts with compiled proposal normalized_task_spec")
    pure spec

/-- Record an admission in the tables of the frontier. -/
def System.recordAdmission (s : System T D) (kernel : Store) (proposalId : ProposalId)
    (p : ProposalRow T) (generation : GenerationRow T) (taskId : TaskId) (specJson : T)
    (requirement : Option Agent.TaskAgentRequirement) : System T D :=
  { s with
    kernel := kernel
    bindings := s.bindings.insert taskId
      { generationId := p.generationId
        proposalId := proposalId
        informationFunction := p.informationFunction
        admissionSeq := generation.admissionSeq + 1
        admittedTaskSpecJson := specJson
        semanticInputSetJson := p.semanticInputSetJson }
    requirements :=
      match requirement with
      | some requirement => s.requirements.insert taskId (requirementDoc W requirement)
      | none => s.requirements
    proposals := s.proposals.insert proposalId
      { p with state := .admitted, admittedTaskId := some taskId }
    generations := s.generations.insert p.generationId
      { generation with admissionSeq := generation.admissionSeq + 1 } }

/-! ## The end of a generation -/

/-- Expire the pending proposals of a generation that `which` selects. -/
def System.expireProposals (s : System T D) (generationId : GenerationId)
    (which : InformationFunction → Bool) (reason : ExpirationReason) :
    SortedMap ProposalId (ProposalRow T) :=
  s.proposals.mapValues fun p =>
    if decide (p.generationId = generationId) && decide (p.state = .pending) &&
        which p.informationFunction then
      { p with state := .expired, expirationReason := some reason }
    else p

/-- The row of a generation that is to leave a state; `verb` names the move. -/
def System.leaving (s : System T D) (generationId : GenerationId) (expectedRevision : Nat)
    (state : GenerationState) (verb : String) : Except Error (GenerationRow T) := do
  let generation ← present (s.generations.lookup generationId)
    (.notFound ("generation " ++ generationId.quote))
  ensure (generation.state = state) (.invalidTransition
    ("cannot " ++ verb ++ " generation " ++ generationId.quote ++ " in state " ++
      generation.state.asSql ++ "; must be " ++ state.asSql))
  ensure (generation.revision = expectedRevision) (.conflict
    ("generation revision mismatch: expected " ++ toString expectedRevision ++ ", current " ++
      toString generation.revision))
  pure generation

def System.freezeGeneration (env : Env) (generationId : GenerationId) (expectedRevision : Nat)
    (s : System T D) : Except Error (System T D) := do
  let generation ← s.leaving generationId expectedRevision .opened "freeze"
  let (_, kernel) ← runKernel (announce .generationFrozen generationId) env s.kernel
  pure { s with
    kernel := kernel
    generations := s.generations.insert generationId
      { generation with state := .frozen, revision := generation.revision + 1 }
    proposals := s.expireProposals generationId (fun f => decide (f = .expand)) .generationFrozen }

/-- The bindings of a generation, in the order of their admission. -/
def System.bindingsOf (s : System T D) (generationId : GenerationId) :
    List (TaskId × BindingRow T) :=
  (s.bindings.entries.filter fun x => decide (x.2.generationId = generationId)).insertionSort
    fun x y => x.2.admissionSeq ≤ y.2.admissionSeq

/-- A task is terminal. -/
def terminalState (state : TaskState) : Bool :=
  decide (state = .completed) || decide (state = .cancelled)

/-- The bound tasks with their rows, in the order of their admission. -/
def System.boundTasks (s : System T D) (generationId : GenerationId) :
    List (TaskId × BindingRow T × TaskRow) :=
  (s.bindingsOf generationId).filterMap fun x =>
    (s.kernel.tasks.lookup x.1).map fun t => (x.1, x.2, t)

/-- Which of the bound tasks are terminal. -/
def System.terminals (s : System T D) (generationId : GenerationId) : List Bool :=
  (s.boundTasks generationId).map fun x => terminalState x.2.2.state

def System.closeGeneration (env : Env) (generationId : GenerationId) (expectedRevision : Nat)
    (s : System T D) : Except Error (System T D) := do
  let generation ← s.leaving generationId expectedRevision .frozen "close"
  ensure (isGenerationSettled .frozen (s.terminals generationId)) (.invalidTransition
    ("cannot close generation " ++ generationId.quote ++
      ": generation is not settled (tasks still non-terminal)"))
  let (_, kernel) ← runKernel (announce .generationClosed generationId) env s.kernel
  pure { s with
    kernel := kernel
    generations := s.generations.insert generationId
      { generation with state := .closed, revision := generation.revision + 1 }
    proposals := s.expireProposals generationId (fun _ => true) .generationClosed }

def System.rejectProposal (proposalId : ProposalId) (reason : String) (s : System T D) :
    Except Error (System T D) := do
  let p ← present (s.proposals.lookup proposalId) (.notFound ("proposal " ++ proposalId.quote))
  ensure (p.state = .pending) (.invalidTransition
    ("cannot reject proposal " ++ proposalId.quote ++ " that is not in PENDING state"))
  pure { s with
    proposals := s.proposals.insert proposalId
      { p with state := .rejected, rejectionReason := some reason } }

/-- What a generation looks like from outside. -/
structure GenerationView where
  state : GenerationState
  revision : Nat
  admissionSeq : Nat
  seedPayload : Value
  isSettled : Bool
  taskCountByInfoFn : InformationFunction → Nat
  taskCountByState : TaskState → Nat
  pendingProposalIds : List ProposalId
  admittedTaskIds : List TaskId
  expiredProposalIds : List ProposalId
  rejectedProposalIds : List ProposalId

/-- The proposals of a generation in a state, oldest first. -/
def System.proposalsIn (s : System T D) (generationId : GenerationId) (state : ProposalState) :
    List ProposalId :=
  ((s.proposals.entries.filter fun x =>
      decide (x.2.generationId = generationId) && decide (x.2.state = state)).insertionSort
    fun x y => toLex (x.2.createdAt, x.1) ≤ toLex (y.2.createdAt, y.1)).map Prod.fst

def System.getGenerationView (s : System T D) (generationId : GenerationId) :
    Except Error GenerationView := do
  let generation ← present (s.generations.lookup generationId)
    (.notFound ("generation " ++ generationId.quote))
  let seedPayload ← W.parseText generation.seedPayloadJson
  pure
    { state := generation.state
      revision := generation.revision
      admissionSeq := generation.admissionSeq
      seedPayload := seedPayload
      isSettled := isGenerationViewSettled generation.state (s.terminals generationId)
      taskCountByInfoFn := fun f =>
        (s.boundTasks generationId).countP fun x => decide (x.2.1.informationFunction = f)
      taskCountByState := fun st =>
        (s.boundTasks generationId).countP fun x => decide (x.2.2.state = st)
      pendingProposalIds := s.proposalsIn generationId .pending
      admittedTaskIds := (s.boundTasks generationId).map Prod.fst
      expiredProposalIds := s.proposalsIn generationId .expired
      rejectedProposalIds := s.proposalsIn generationId .rejected }

variable [DecidableEq T] [DecidableEq D]

/-! ## Generations and compilation -/

def System.createGenerationWithPolicy (env : Env) (seedPayload : Value)
    (policy : Option Agent.GenerationPolicy) (s : System T D) :
    Except Error (GenerationId × System T D) := do
  let generationId := firstId "gen" env
  ensure (s.generations.lookup generationId).isNone constraintViolation
  let row : GenerationRow T := ⟨.opened, 0, 0, policy.isSome, W.print seedPayload⟩
  let s := { s with generations := s.generations.insert generationId row }
  match policy with
  | none => pure (generationId, s)
  | some policy => do
    let s ← s.insertGenerationPolicy W generationId policy
    pure (generationId, s)

def System.compileIntentInner (env : Env) (generationId : GenerationId) (intent : RawWorkIntent)
    (sourceKind : SourceKind) (sourceRef : String) (compilerVersion : U32) (s : System T D) :
    Except Error (ProposalRecord T × System T D) := do
  let fingerprint ← intent.fingerprint W.toDocFormat
  let key : CompileKey := ⟨generationId, sourceKind, sourceRef, intent.rawIntentKey, compilerVersion⟩
  match s.compiled key with
  | some (id, p) => do
    ensure (p.intentFingerprint = fingerprint) (.conflict
      ("compiled proposal already exists with different intent content for key " ++
        intent.rawIntentKey.quote))
    let record ← readProposal W id p
    pure (record, s)
  | none => do
    s.allowsCompile generationId intent.informationFunction
    s.validateSemanticInputSet W generationId intent.semanticInputSet
    ensure (intent.suggestedTaskSpec.all fun spec => spec.dependencies.isEmpty)
      (.invalidAuthority "TaskSpec dependencies must be empty in M6-A")
    let spec ← specDocument intent.suggestedTaskSpec
    let id := firstId "prop" env
    ensure (s.proposals.lookup id).isNone constraintViolation
    let (_, kernel) ← runKernel (announce .proposalAvailable generationId) env s.kernel
    let row := compiledRow W key intent fingerprint spec env.now
    let record : ProposalRecord T :=
      { proposalId := id
        generationId := generationId
        sourceKind := sourceKind
        sourceRef := sourceRef
        rawIntentKey := intent.rawIntentKey
        intentFingerprint := fingerprint
        objective := intent.objective
        rationale := intent.rationale
        informationFunction := intent.informationFunction
        normalizedTaskSpec := intent.suggestedTaskSpec
        semanticInputSet := intent.semanticInputSet
        compilerVersion := compilerVersion
        state := .pending
        admittedTaskId := none
        expirationReason := none
        rejectionReason := none }
    pure (record, { s with kernel := kernel, proposals := s.proposals.insert id row })

def System.compileRootIntent (env : Env) (generationId : GenerationId) (intent : RawWorkIntent)
    (commandRef : String) (compilerVersion : U32) (s : System T D) :
    Except Error (ProposalRecord T × System T D) := do
  ensure (!isBlank commandRef) (invariant "root intent command_ref cannot be empty")
  s.compileIntentInner W env generationId intent .root commandRef compilerVersion

def System.compileResultIntent (env : Env) (generationId : GenerationId) (resultId : ResultId)
    (rawIntentKey : String) (compilerVersion : U32) (s : System T D) :
    Except Error (ProposalRecord T × System T D) := do
  ensure (s.kernel.results.lookup resultId).isSome
    (.notFound ("intent source result " ++ resultId.quote ++ " does not exist"))
  let intent ← s.loadResultCarriedIntent W resultId rawIntentKey
  s.compileIntentInner W env generationId intent .result resultId compilerVersion

/-! ## Admission -/

/-- A draft offered again must derive the committed requirement. -/
def System.replayDraft (s : System T D) (proposalId : ProposalId) (p : ProposalRow T)
    (taskId : TaskId) (draft : Agent.AgentRequirementDraft) : Except Error Unit := do
  let b ← present (s.bindingOf proposalId) noRow
  let admitted ← admittedSpec W b
  let found ← s.getTaskAgentRequirement W taskId
  let committed ← present found
    (.conflict "typed replay of an admission that has no agent requirement")
  let expected ← s.buildTaskAgentRequirementReplay W p.generationId draft p.informationFunction
    admitted committed.requiredType
  ensure ((requirementDoc W committed).digest = (requirementDoc W expected).digest)
    (.conflict "agent requirement conflicts with previously admitted requirement")

/-- The checks on a command that repeats an admission. -/
def System.replayAdmission (s : System T D) (proposalId : ProposalId) (p : ProposalRow T)
    (taskId : TaskId) (overrideSpec : Option TaskSpec)
    (draft : Option Agent.AgentRequirementDraft) : Except Error Unit := do
  let mode ← s.taskAgentRequirementMode taskId
  replayShape draft.isSome mode
  s.replayOverride W proposalId overrideSpec
  match draft with
  | none => pure ()
  | some draft => s.replayDraft W proposalId p taskId draft

/-- The checks on the generation of a proposal that is to be admitted. -/
def System.allowsAdmission (s : System T D) (p : ProposalRow T) (expectedRevision : Nat)
    (typed : Bool) : Except Error (GenerationRow T) := do
  let generation ← present (s.generations.lookup p.generationId)
    (.notFound ("generation " ++ p.generationId))
  ensure (generation.revision = expectedRevision) (.conflict
    ("generation revision mismatch: expected " ++ toString expectedRevision ++ ", current " ++
      toString generation.revision))
  ensure (generationAllowsAdmit generation.state p.informationFunction) (.invalidTransition
    ("generation in state " ++ generation.state.asSql ++ " does not allow admitting " ++
      p.informationFunction.asSql ++ " tasks"))
  if typed then pure generation
  else do
    let policy ← s.getGenerationPolicy W p.generationId
    ensure policy.isNone (.invalidAuthority
      ("a generation with a policy requires typed admission; legacy admit_proposal is " ++
        "forbidden"))
    pure generation

/-- The requirement of a typed admission, canonical, and the document of its task. -/
def System.admittedRequirement (s : System T D) (p : ProposalRow T) (spec : TaskSpec)
    (draft : Agent.AgentRequirementDraft) : Except Error Agent.TaskAgentRequirement := do
  let _ ← spec.canonicalJson
  let requirement ← s.buildTaskAgentRequirement W p.generationId draft p.informationFunction spec
  let catalog ← s.catalog.loadCapabilityCatalog W.toDocFormat
  rejecting (Agent.canonicalizeTaskAgentRequirement requirement catalog)

/-- Admit a pending proposal. The kernel creates the task; the requirement of a typed admission is
    derived before, from tables that the kernel does not write, and fails where the source does. -/
def System.admitNew (env : Env) (proposalId : ProposalId) (p : ProposalRow T)
    (expectedRevision : Nat) (overrideSpec : Option TaskSpec)
    (draft : Option Agent.AgentRequirementDraft) (s : System T D) :
    Except Error (TaskId × System T D) := do
  let generation ← s.allowsAdmission W p expectedRevision draft.isSome
  let set ← semanticInputSetFromJson (← W.parseText p.semanticInputSetJson)
  s.validateSemanticInputSet W p.generationId set
  let compiled ← p.normalizedTaskSpecJson.mapM fun text => do
    taskSpecFromJson (← W.parseText text)
  let spec ← resolveSpec compiled overrideSpec
  let requirement := draft.map (s.admittedRequirement W p spec)
  let (taskId, kernel) ← runKernel
    (admitTask (spec.toKernel W) (requirement.map fun r => r.map fun r => kernelRef r.requiredType))
    env s.kernel
  let json ← spec.canonicalJson
  ensure (s.bindings.lookup taskId).isNone constraintViolation
  ensure (s.bindingOf proposalId).isNone constraintViolation
  let pinned ← requirement.mapM id
  pure (taskId,
    s.recordAdmission W kernel proposalId p generation taskId (W.print json) pinned)

def System.admitProposalCore (env : Env) (proposalId : ProposalId) (expectedRevision : Nat)
    (overrideSpec : Option TaskSpec) (draft : Option Agent.AgentRequirementDraft)
    (s : System T D) : Except Error (TaskId × System T D) := do
  let p ← present (s.proposals.lookup proposalId) (.notFound ("proposal " ++ proposalId.quote))
  match p.state, p.admittedTaskId with
  | .admitted, some taskId => do
    s.replayAdmission W proposalId p taskId overrideSpec draft
    pure (taskId, s)
  | .pending, _ => s.admitNew W env proposalId p expectedRevision overrideSpec draft
  | state, _ => throw (.invalidTransition
      ("cannot admit proposal " ++ proposalId.quote ++ " in state " ++ state.asSql))

def System.admitProposal (env : Env) (proposalId : ProposalId) (expectedRevision : Nat)
    (overrideSpec : Option TaskSpec) (s : System T D) : Except Error (TaskId × System T D) :=
  s.admitProposalCore W env proposalId expectedRevision overrideSpec none

def System.admitTypedProposal (env : Env) (proposalId : ProposalId) (expectedRevision : Nat)
    (overrideSpec : Option TaskSpec) (draft : Agent.AgentRequirementDraft) (s : System T D) :
    Except Error (TaskId × System T D) :=
  s.admitProposalCore W env proposalId expectedRevision overrideSpec (some draft)

/-! ## Runs -/

/-- A command to the scheduler. Admission of a proposal is an operation of the frontier, so the
    kernel's own operation of that name is not offered separately. -/
inductive FrontierOp where
  | kernel (op : Op)
  | catalog (op : Agent.CatalogOp)
  | createGeneration (seedPayload : Value) (policy : Option Agent.GenerationPolicy)
  | compileRootIntent (generationId : GenerationId) (intent : RawWorkIntent) (commandRef : String)
      (compilerVersion : U32)
  | compileResultIntent (generationId : GenerationId) (resultId : ResultId)
      (rawIntentKey : String) (compilerVersion : U32)
  | admitProposal (proposalId : ProposalId) (expectedRevision : Nat)
      (overrideSpec : Option TaskSpec)
  | admitTypedProposal (proposalId : ProposalId) (expectedRevision : Nat)
      (overrideSpec : Option TaskSpec) (draft : Agent.AgentRequirementDraft)
  | rejectProposal (proposalId : ProposalId) (reason : String)
  | freezeGeneration (generationId : GenerationId) (expectedRevision : Nat)
  | closeGeneration (generationId : GenerationId) (expectedRevision : Nat)

/-- The kernel's operation that only the frontier performs. -/
def isAdmission : Op → Bool
  | .admitProposal .. => true
  | _ => false

/-- What a command leaves, if it succeeds. -/
def System.exec (env : Env) (s : System T D) : FrontierOp → Except Error (System T D)
  | .kernel op => do
    ensure (!isAdmission op) (.invalidAuthority "proposals are admitted by the frontier")
    let (_, kernel) ← runKernel op.exec env s.kernel
    pure { s with kernel := kernel }
  | .catalog op => do
    let catalog ← s.catalog.exec W.toDocFormat op
    pure { s with catalog := catalog }
  | .createGeneration seed policy => Prod.snd <$> s.createGenerationWithPolicy W env seed policy
  | .compileRootIntent g intent ref version =>
    Prod.snd <$> s.compileRootIntent W env g intent ref version
  | .compileResultIntent g result key version =>
    Prod.snd <$> s.compileResultIntent W env g result key version
  | .admitProposal p r spec => Prod.snd <$> s.admitProposal W env p r spec
  | .admitTypedProposal p r spec draft => Prod.snd <$> s.admitTypedProposal W env p r spec draft
  | .rejectProposal p reason => s.rejectProposal p reason
  | .freezeGeneration g r => s.freezeGeneration env g r
  | .closeGeneration g r => s.closeGeneration env g r

/-- One command with the environment its transaction saw; a failed one changes nothing. -/
def System.step (s : System T D) (c : Env × FrontierOp) : System T D :=
  match s.exec W c.1 c.2 with
  | .ok s' => s'
  | .error _ => s

def System.run (s : System T D) (calls : List (Env × FrontierOp)) : System T D :=
  calls.foldl (System.step W) s

end Operations

/-! ## A small deployment -/

/-- Documents kept as they are; the kernel gets only their labels. -/
def Wire.verbatim : Wire Value Value where
  toDocFormat := .verbatim
  load payload := .ok (.str payload.text)
  dump v := ⟨v.label, none⟩

/-- An intent to edit. -/
def editing : RawWorkIntent where
  rawIntentKey := "edit"
  objective := "edit the file"
  informationFunction := .compressPositive
  semanticInputSet := ⟨[], [], []⟩
  rationale := none
  suggestedTaskSpec := some edit

/-- A generation without a policy has one proposal. -/
def proposed : List (Env × FrontierOp) :=
  [(Deployment.moment 1 "p", .kernel (.upsertPartition Deployment.general)),
   (Deployment.moment 2 "g", .createGeneration (.object []) none),
   (Deployment.moment 3 "q", .compileRootIntent "gen_g" editing "root" 1)]

/-- It is admitted. -/
def admitted : List (Env × FrontierOp) :=
  proposed ++ [(Deployment.moment 4 "a", .admitProposal "prop_q" 0 none)]

end Agentype.Frontier

import Agentype.Frontier.Readback
import Agentype.Frontier.Requirements
import Agentype.Kernel.Fresh

/-!
# `Agentype.Frontier.Proposals` — what was compiled stays readable

A proposal keeps the columns that compilation has written; later commands change only its state.
`System.Compiled` says of every proposal which intent it was compiled from and that no two proposals
answer the same command. So a proposal is read back in every later state, and a repeated command finds
it. What the writer lets through and the reader refuses is a specification whose partition is blank, or
a text that the parser does not read back as it was printed.

## Contents
- `ProposalRow.origin`, `Change.proposal_kept`, `Change.inputs_kept`.
- `System.Compiled`, `Compiled.change`, `run_compiled`.
- `CompileCommand`, `System.compile`, `Faithful`: what a record must say about an intent.
- `Answered`: a command has a proposal. `Answered.read`, `Answered.again_with`, `Answered.admission`.
- **`compiled_proposals_readable`**, `blank_partition_unreadable`.
-/

namespace Agentype.Frontier

open Check Relational Relational.Tx

variable {id : ProposalId} {intent : RawWorkIntent} {spec : TaskSpec} {env : Env} {v : Value}
  {command : CompileCommand}

section Columns

variable {T D : Type} {W : Wire T D} {s s' : System T D}

/-- The columns that compilation has written. -/
def ProposalRow.origin (p : ProposalRow T) : ProposalRow T :=
  { p with state := .pending, admittedTaskId := none, expirationReason := none,
           rejectionReason := none }

/-- The parser reads the texts of a proposal back as they were printed. -/
def ProposalRow.Legible (W : Wire T D) (p : ProposalRow T) : Prop :=
  W.Legible p.semanticInputSetJson ∧ ∀ text ∈ p.normalizedTaskSpecJson, W.Legible text

/-- The command that a proposal answers, and the intent it was compiled from. -/
structure Origin (W : Wire T D) (s : System T D) (p : ProposalRow T) (key : CompileKey)
    (intent : RawWorkIntent) (fingerprint : T) (spec : Option Value) : Prop where
  row : ∃ now, p.origin = compiledRow W key intent fingerprint spec now
  keyed : key.rawIntentKey = intent.rawIntentKey
  printed : intent.fingerprint W.toDocFormat = .ok fingerprint
  inputs : s.validateSemanticInputSet W key.generationId intent.semanticInputSet = .ok ()
  independent : ∀ spec, intent.suggestedTaskSpec = some spec → spec.dependencies = []
  written : specDocument intent.suggestedTaskSpec = .ok spec

/-- **Every proposal was compiled**, and no two answer one command. -/
structure System.Compiled (W : Wire T D) (s : System T D) : Prop where
  origin : ∀ id p, s.proposals.lookup id = some p →
    ∃ key intent fingerprint spec, Origin W s p key intent fingerprint spec
  unique : ∀ id id' p p', s.proposals.lookup id = some p → s.proposals.lookup id' = some p' →
    p.compileKey = p'.compileKey → id = id'

theorem ProposalRow.compileKey_origin {p p' : ProposalRow T} (h : p.origin = p'.origin) :
    p.compileKey = p'.compileKey :=
  (congrArg ProposalRow.compileKey h :)

/-- Finding the proposal of a command. -/
theorem System.Compiled.compiled_eq_some (hs : s.Compiled W) {key : CompileKey}
    {p : ProposalRow T} :
    s.compiled key = some (id, p) ↔ s.proposals.lookup id = some p ∧ p.compileKey = key := by
  unfold System.compiled
  constructor
  · intro h
    have hkey := List.find?_some h
    exact ⟨SortedMap.mem_entries.mp (List.mem_of_find?_eq_some h), by simpa using hkey⟩
  · rintro ⟨hp, hkey⟩
    cases hfind : s.proposals.entries.find? fun x => decide (x.2.compileKey = key) with
    | none =>
      have := List.find?_eq_none.mp hfind (id, p) (SortedMap.mem_entries.mpr hp)
      simp [hkey] at this
    | some x =>
      have hx := SortedMap.mem_entries.mp (List.mem_of_find?_eq_some hfind)
      have hxkey : x.2.compileKey = key := by simpa using List.find?_some hfind
      have hid := hs.unique id x.1 p x.2 hp hx (hkey.trans hxkey.symm)
      subst hid
      cases hp.symm.trans hx
      rfl

/-- A command that finds nothing has no proposal. -/
theorem compiled_none {key : CompileKey} (h : s.compiled key = none) {p : ProposalRow T}
    (hp : s.proposals.lookup id = some p) : p.compileKey ≠ key := by
  have := List.find?_eq_none.mp h (id, p) (SortedMap.mem_entries.mpr hp)
  simpa using this

theorem System.compiled_empty : (System.empty : System T D).Compiled W where
  origin _ _ h := by cases h
  unique _ _ _ _ h := by cases h

/-! ## What a change does to a proposal -/

variable [DecidableEq T] [DecidableEq D]

/-- A proposal stays, with its origin. -/
theorem Change.proposal_kept (h : Change W s s') {p : ProposalRow T}
    (hp : s.proposals.lookup id = some p) :
    ∃ p', s'.proposals.lookup id = some p' ∧ p'.origin = p.origin := by
  cases h with
  | same | kernel | catalog | create | createWithPolicy => exact ⟨p, hp, rfl⟩
  | compile hcompile =>
    rw [SortedMap.lookup_insert]
    split_ifs with heq
    · rw [heq, hcompile.fresh] at hp
      cases hp
    · exact ⟨p, hp, rfl⟩
  | admission hadmission =>
    simp only [System.recordAdmission, SortedMap.lookup_insert]
    split_ifs with heq
    · rw [heq, hadmission.proposal] at hp
      cases hp
      exact ⟨_, rfl, rfl⟩
    · exact ⟨p, hp, rfl⟩
  | reject hp₁ =>
    rw [SortedMap.lookup_insert]
    split_ifs with heq
    · rw [heq, hp₁] at hp
      cases hp
      exact ⟨_, rfl, rfl⟩
    · exact ⟨p, hp, rfl⟩
  | freeze | close =>
    simp only [System.expireProposals, SortedMap.lookup_mapValues, hp, Option.map_some]
    refine ⟨_, rfl, ?_⟩
    split_ifs <;> rfl

/-- A proposal of the changed store was there, or the change has compiled it. -/
theorem Change.proposal_cases (h : Change W s s') {p' : ProposalRow T}
    (hp : s'.proposals.lookup id = some p') :
    (∃ p, s.proposals.lookup id = some p ∧ p'.origin = p.origin) ∨
      ∃ env key intent fingerprint spec, Compilation W env s key intent fingerprint spec ∧
        p' = compiledRow W key intent fingerprint spec env.now ∧
        ∀ id', id' ≠ id → s'.proposals.lookup id' = s.proposals.lookup id' := by
  cases hold : s.proposals.lookup id with
  | some p =>
    obtain ⟨p₁, hp₁, horigin⟩ := h.proposal_kept hold
    cases hp.symm.trans hp₁
    exact .inl ⟨p, rfl, horigin⟩
  | none =>
    refine .inr ?_
    cases h with
    | same | kernel | catalog | create | createWithPolicy => cases hold.symm.trans hp
    | @compile env key intent fingerprint spec _ hcompile =>
      rw [SortedMap.lookup_insert] at hp
      split_ifs at hp with heq
      · cases hp
        refine ⟨env, key, intent, fingerprint, spec, hcompile, rfl, fun id' hne => ?_⟩
        rw [SortedMap.lookup_insert, if_neg (heq ▸ hne)]
      · cases hold.symm.trans hp
    | admission hadmission =>
      simp only [System.recordAdmission, SortedMap.lookup_insert] at hp
      split_ifs at hp with heq
      · rw [heq, hadmission.proposal] at hold
        cases hold
      · cases hold.symm.trans hp
    | reject hp₁ =>
      rw [SortedMap.lookup_insert] at hp
      split_ifs at hp with heq
      · rw [heq, hp₁] at hold
        cases hold
      · cases hold.symm.trans hp
    | freeze | close =>
      simp [System.expireProposals, SortedMap.lookup_mapValues, hold] at hp

/-- Evidence that was there is there. -/
theorem Change.inputs_kept (h : Change W s s') {g : GenerationId} {set : SemanticInputSet}
    (hset : s.validateSemanticInputSet W g set = .ok ()) :
    s'.validateSemanticInputSet W g set = .ok () := by
  simp only [System.validateSemanticInputSet, bind_ok, forM_ok, ensure_ok] at hset ⊢
  obtain ⟨_, hresults, _, hartifacts, _, hseeds, _, hexist, _, hvalid, hrefs⟩ := hset
  refine ⟨(), hresults, (), hartifacts, (), hseeds, (), fun id hid => ?_, (), hvalid, ?_⟩
  · obtain ⟨r, hr⟩ := Option.isSome_iff_exists.mp (hexist id hid)
    obtain ⟨r', hr', -⟩ := h.results_kept id r hr
    simp [hr']
  · split at hrefs
    · next hempty => simp [hempty]
    · next hempty =>
      rw [if_neg hempty]
      simp only [bind_ok, present_ok] at hrefs ⊢
      obtain ⟨row, hrow, seed, hseed, obj, hobj, hfound⟩ := hrefs
      obtain ⟨row', hrow', hmoves⟩ := h.generation_kept hrow
      exact ⟨row', hrow', seed, hmoves.seed ▸ hseed, obj, hobj, hfound⟩

theorem Origin.change {p : ProposalRow T} {key : CompileKey} {fingerprint : T} {spec : Option Value}
    (h : Origin W s p key intent fingerprint spec) (hc : Change W s s') {p' : ProposalRow T}
    (hp : p'.origin = p.origin) : Origin W s' p' key intent fingerprint spec :=
  { h with row := hp ▸ h.row, inputs := hc.inputs_kept h.inputs }

theorem Compilation.origin {key : CompileKey} {fingerprint : T} {spec : Option Value}
    (h : Compilation W env s key intent fingerprint spec) (hc : Change W s s') :
    Origin W s' (compiledRow W key intent fingerprint spec env.now) key intent fingerprint spec where
  row := ⟨env.now, rfl⟩
  keyed := h.keyed
  printed := h.printed
  inputs := hc.inputs_kept h.inputs
  independent := h.independent
  written := h.written

theorem System.Compiled.change (hs : s.Compiled W) (h : Change W s s') : s'.Compiled W where
  origin id p' hp' := by
    rcases h.proposal_cases hp' with ⟨p, hp, horigin⟩ | ⟨env, key, intent, f, spec, hc, rfl, -⟩
    · obtain ⟨key, intent, f, spec, ho⟩ := hs.origin id p hp
      exact ⟨key, intent, f, spec, ho.change h horigin⟩
    · exact ⟨key, intent, f, spec, hc.origin h⟩
  unique id id' p p' hp hp' hkey := by
    by_contra hne
    rcases h.proposal_cases hp with ⟨q, hq, horigin⟩ | ⟨env, key, intent, f, spec, hc, rfl, hothers⟩
    · rcases h.proposal_cases hp' with ⟨q', hq', horigin'⟩ | ⟨env, key, intent, f, spec, hc, rfl, -⟩
      · refine hne (hs.unique id id' q q' hq hq' ?_)
        rw [← ProposalRow.compileKey_origin horigin, hkey, ProposalRow.compileKey_origin horigin']
      · -- a new proposal answers a command that had none
        rw [ProposalRow.compileKey_origin horigin] at hkey
        exact compiled_none hc.first hq hkey
    · rw [hothers id' (Ne.symm hne)] at hp'
      exact compiled_none hc.first hp' hkey.symm

theorem run_compiled (hs : s.Compiled W) (calls : List (Env × FrontierOp)) :
    (s.run W calls).Compiled W :=
  run_change (P := fun s => s.Compiled W) (fun _ _ hs h => hs.change h) calls hs

end Columns

/-! ## Commands -/

/-- A command that compiles an intent. -/
inductive CompileCommand where
  | root (generationId : GenerationId) (intent : RawWorkIntent) (commandRef : String)
      (compilerVersion : U32)
  | result (generationId : GenerationId) (resultId : ResultId) (rawIntentKey : String)
      (compilerVersion : U32)

section Commands

variable {T D : Type} {W : Wire T D} {s s' : System T D}

/-- The intent of a command: the one it gives, or the one its result carries. -/
def System.commandIntent (W : Wire T D) (s : System T D) (command : CompileCommand) :
    Except Error RawWorkIntent :=
  match command with
  | .root _ intent ref _ => do
    ensure (!isBlank ref) (invariant "root intent command_ref cannot be empty")
    pure intent
  | .result _ resultId key _ => do
    ensure (s.kernel.results.lookup resultId).isSome
      (.notFound ("intent source result " ++ resultId.quote ++ " does not exist"))
    s.loadResultCarriedIntent W resultId key

/-- The key under which a command is committed. -/
def CompileCommand.key (command : CompileCommand) (intent : RawWorkIntent) : CompileKey :=
  match command with
  | .root g _ ref version => ⟨g, .root, ref, intent.rawIntentKey, version⟩
  | .result g resultId _ version => ⟨g, .result, resultId, intent.rawIntentKey, version⟩

/-- The specification that a root command suggests names a partition; what a result carries has
    been read, and does. -/
def CompileCommand.Named (command : CompileCommand) : Prop :=
  match command with
  | .root _ intent _ _ => ∀ spec, intent.suggestedTaskSpec = some spec →
      isBlank spec.partition = false
  | .result .. => True

theorem nullable_some {α : Type} {f : Value → Except Error α} {a : α}
    (h : Value.nullable f v = .ok (some a)) : f v = .ok a := by
  unfold Value.nullable at h
  split at h
  · cases h
  · simpa [map_ok] using h

/-- What a result carries names its partition. -/
theorem carriedIntent_named {resultId : ResultId} {key : String} {payload : Value}
    (h : carriedIntent resultId key payload = .ok intent)
    (hspec : intent.suggestedTaskSpec = some spec) : isBlank spec.partition = false := by
  simp only [carriedIntent, rawWorkIntentFromJson, bind_ok, pure_ok] at h
  obtain ⟨_, -, _, -, _, -, _, -, _, -, _, -, _, -, _, -, _, -, _, -, _, -, _, -, _, -, suggested,
    hsuggested, rfl⟩ := h
  subst hspec
  have hread : taskSpecFromJson _ = .ok spec := nullable_some hsuggested
  obtain ⟨_, _, _, hfields⟩ := taskSpecFromJson_fields hread
  exact hfields.partition_named

/-- The intent of a named command suggests a specification that names its partition. -/
theorem CompileCommand.Named.partition (h : command.Named)
    (hintent : s.commandIntent W command = .ok intent)
    (hspec : intent.suggestedTaskSpec = some spec) : isBlank spec.partition = false := by
  cases command with
  | root g intent' ref version =>
    simp only [System.commandIntent, bind_ok, pure_ok] at hintent
    obtain ⟨_, -, rfl⟩ := hintent
    exact h spec hspec
  | result g resultId key version =>
    simp only [System.commandIntent, System.loadResultCarriedIntent, bind_ok] at hintent
    obtain ⟨_, -, _, -, _, -, _, -, hcarried⟩ := hintent
    exact carriedIntent_named hcarried hspec

variable [DecidableEq T]

def System.compile (W : Wire T D) (env : Env) (command : CompileCommand) (s : System T D) :
    Except Error (ProposalRecord T × System T D) :=
  match command with
  | .root g intent ref version => s.compileRootIntent W env g intent ref version
  | .result g resultId key version => s.compileResultIntent W env g resultId key version

/-- Compiling is finding the intent and compiling that. -/
theorem compile_eq (env : Env) (command : CompileCommand) :
    s.compile W env command = s.commandIntent W command >>= fun intent =>
      s.compileIntentInner W env (command.key intent).generationId intent
        (command.key intent).sourceKind (command.key intent).sourceRef
        (command.key intent).compilerVersion := by
  cases command with
  | root g intent ref version =>
    simp only [System.compile, System.compileRootIntent, System.commandIntent, CompileCommand.key,
      bind_assoc, pure_bind]
  | result g resultId key version =>
    simp only [System.compile, System.compileResultIntent, System.commandIntent,
      CompileCommand.key, bind_assoc]

end Commands

/-! ## Records -/

/-- The read specification is equivalent to the suggested one, or there is none. -/
def SpecAgrees : Option TaskSpec → Option TaskSpec → Prop
  | none, none => True
  | some suggested, some read => read.equivalent suggested = .ok true
  | _, _ => False

/-- **What a record must say about an intent.** -/
structure Faithful {T D : Type} (W : Wire T D) (intent : RawWorkIntent) (record : ProposalRecord T) :
    Prop where
  fingerprint : intent.fingerprint W.toDocFormat = .ok record.intentFingerprint
  objective : record.objective = intent.objective
  informationFunction : record.informationFunction = intent.informationFunction
  inputs : record.semanticInputSet.SameRefs intent.semanticInputSet
  spec : SpecAgrees intent.suggestedTaskSpec record.normalizedTaskSpec

section Records

variable {T D : Type} {W : Wire T D} {s s' : System T D}

theorem validateSemanticInputSet_valid {g : GenerationId} {set : SemanticInputSet}
    (h : s.validateSemanticInputSet W g set = .ok ()) : set.Valid := by
  simp only [System.validateSemanticInputSet, bind_ok, forM_ok, pure_ok] at h
  obtain ⟨_, -, _, -, _, -, _, -, _, hvalid, -⟩ := h
  intro a ha
  obtain ⟨b, hb, -⟩ := hvalid a ha
  exact ⟨b, hb⟩

/-- The optional specification of a proposal is read back, sorted. -/
theorem readSpec_document {spec : Option TaskSpec} {v : Option Value}
    (h : specDocument spec = .ok v) (hl : ∀ text ∈ v.map W.print, W.Legible text)
    (hnamed : ∀ x, spec = some x → isBlank x.partition = false) :
    ((v.map W.print).mapM fun text => W.parseText text >>= taskSpecFromJson) =
      .ok (spec.map TaskSpec.sorted) := by
  cases spec with
  | none =>
    cases h
    rfl
  | some spec =>
    obtain ⟨w, hw, rfl⟩ := map_ok.mp h
    simp [Wire.parseText, hl _ rfl w rfl, taskSpecFromJson_document hw (hnamed spec rfl)]

theorem readProposal_id {p : ProposalRow T} {record : ProposalRecord T}
    (h : readProposal W id p = .ok record) : record.proposalId = id := by
  simp only [readProposal, bind_ok, pure_ok] at h
  obtain ⟨_, -, _, -, _, -, rfl⟩ := h
  rfl

/-- An intent with a fingerprint has a document of its specification. -/
theorem fingerprint_document {f : T} (h : intent.fingerprint W.toDocFormat = .ok f) :
    ∃ v, specDocument intent.suggestedTaskSpec = .ok v := by
  simp only [RawWorkIntent.fingerprint, bind_ok] at h
  obtain ⟨v, hv, -⟩ := h
  exact ⟨v, hv⟩

/-- **A proposal is read back.** The specification is known by its document alone. -/
theorem Origin.read {p : ProposalRow T} {key : CompileKey} {first : RawWorkIntent} {f : T}
    {spec : Option Value} (h : Origin W s p key first f spec) (hl : p.Legible W) {suggested : Option TaskSpec}
    (hwritten : specDocument suggested = .ok spec)
    (hnamed : ∀ x, suggested = some x → isBlank x.partition = false) (id : ProposalId) :
    ∃ record, readProposal W id p = .ok record ∧ record.proposalId = id ∧
      record.intentFingerprint = f ∧ record.objective = first.objective ∧
      record.informationFunction = first.informationFunction ∧
      record.semanticInputSet = first.semanticInputSet ∧
      record.normalizedTaskSpec = suggested.map TaskSpec.sorted := by
  obtain ⟨now, hrow⟩ := h.row
  have hspecJson : p.normalizedTaskSpecJson = spec.map W.print :=
    (congrArg ProposalRow.normalizedTaskSpecJson hrow :)
  have hsetJson : p.semanticInputSetJson =
      W.print (semanticInputSetToJson first.semanticInputSet) :=
    (congrArg ProposalRow.semanticInputSetJson hrow :)
  have hset := semanticInputSetFromJson_toJson (validateSemanticInputSet_valid h.inputs)
  have hspec := readSpec_document (W := W) hwritten (hspecJson ▸ hl.2) hnamed
  have hparse := hsetJson ▸ hl.1 _ hsetJson.symm
  simp only [readProposal, hspecJson, hspec, ok_bind, hsetJson]
  simp only [Wire.parseText, hparse, mapError_of_ok, ok_bind, hset]
  refine ⟨_, rfl, rfl, (congrArg ProposalRow.intentFingerprint hrow :),
    (congrArg ProposalRow.objective hrow :), (congrArg ProposalRow.informationFunction hrow :), rfl,
    rfl⟩

/-- A specification that is read back is equivalent to the one that was written. -/
theorem specAgrees_sorted {suggested : Option TaskSpec} {spec : Option Value}
    (h : specDocument suggested = .ok spec) :
    SpecAgrees suggested (suggested.map TaskSpec.sorted) := by
  cases suggested with
  | none => trivial
  | some suggested =>
    obtain ⟨v, hv, -⟩ := map_ok.mp h
    exact TaskSpec.equivalent_of_document ((TaskSpec.sorted_canonicalJson suggested).trans hv) hv

/-- **A command has an answer**: its intent is known, and a proposal that can be read holds what was
    compiled from an intent with the same fingerprint. -/
structure Answered (W : Wire T D) (s : System T D) (command : CompileCommand)
    (intent : RawWorkIntent) (id : ProposalId) : Prop where
  intended : s.commandIntent W command = .ok intent
  named : ∀ x, intent.suggestedTaskSpec = some x → isBlank x.partition = false
  row : ∃ p first f spec, s.proposals.lookup id = some p ∧ p.Legible W ∧
    Origin W s p (command.key intent) first f spec ∧ intent.fingerprint W.toDocFormat = .ok f ∧
    specDocument intent.suggestedTaskSpec = .ok spec

/-- **What an answer says.** -/
theorem Answered.read (h : Answered W s command intent id) :
    ∃ p record, s.proposals.lookup id = some p ∧ p.compileKey = command.key intent ∧
      intent.fingerprint W.toDocFormat = .ok p.intentFingerprint ∧
      readProposal W id p = .ok record ∧ record.proposalId = id ∧ Faithful W intent record := by
  obtain ⟨p, first, f, spec, hp, hl, horigin, hprint, hwritten⟩ := h.row
  obtain ⟨record, hread, hid, hf, hobjective, hfunction, hset, hspec⟩ :=
    horigin.read hl hwritten h.named id
  obtain ⟨hobjective', hfunction', hrefs, -⟩ :=
    fingerprint_content horigin.printed hprint horigin.written hwritten
  obtain ⟨now, hrow⟩ := horigin.row
  have hsame : p.intentFingerprint = f := (congrArg ProposalRow.intentFingerprint hrow :)
  refine ⟨p, record, hp, (congrArg ProposalRow.compileKey hrow :), hsame ▸ hprint, hread, hid, ?_⟩
  exact
    { fingerprint := hf ▸ hprint
      objective := hobjective.trans hobjective'
      informationFunction := hfunction.trans hfunction'
      inputs := hset ▸ hrefs
      spec := hspec ▸ specAgrees_sorted hwritten }

theorem TaskSpec.canonicalJson_dependencies (h : spec.canonicalJson = .ok v) :
    v.get "dependencies" = some (sortedTexts spec.dependencies) := by
  obtain ⟨base, max, -, -, -, -, -, rfl⟩ := canonicalJson_ok.mp h
  obtain ⟨-, -, -, -, -, -, -, -, hdeps, -⟩ := spec.document_get (.float base) (.float max)
  exact hdeps

/-- The document of a specification says whether it has dependencies. -/
theorem Origin.independent_of {p : ProposalRow T} {key : CompileKey} {first : RawWorkIntent} {f : T}
    (h : Origin W s p key first f (some v)) (hspec : spec.canonicalJson = .ok v) :
    spec.dependencies = [] := by
  cases hfirst : first.suggestedTaskSpec with
  | none =>
    have hwritten := h.written
    rw [hfirst] at hwritten
    cases hwritten
  | some spec' =>
    have hwritten := h.written
    rw [hfirst] at hwritten
    obtain ⟨w, hw, heq⟩ := map_ok.mp hwritten
    cases heq
    have hsorted : sortedTexts spec.dependencies = sortedTexts spec'.dependencies :=
      Option.some.inj ((TaskSpec.canonicalJson_dependencies hspec).symm.trans
        (TaskSpec.canonicalJson_dependencies hw))
    rw [h.independent spec' hfirst] at hsorted
    have hnil := List.map_eq_nil_iff.mp (arr_injective hsorted)
    exact List.perm_nil.mp (hnil ▸ (List.perm_insertionSort _ spec.dependencies).symm)

theorem runKernel_of_ensures {α : Type} {x : KernelTx α} {k : Store} {Q : α → Store → Nat → Prop}
    (h : Ensures env x k 0 Q) : ∃ a k' n, runKernel x env k = .ok (a, k') ∧ Q a k' n := by
  obtain ⟨a, k', n, hx, hq⟩ := h
  refine ⟨a, k', n, ?_, hq⟩
  simp [runKernel, Tx.commit, hx]

/-- A specification with a document has a policy that the kernel stores. -/
theorem canonicalJson_storable (h : spec.canonicalJson = .ok v) :
    (spec.toKernel W).retryPolicy.Storable := by
  obtain ⟨base, max, hbase, hmax, hnonneg, hle, hpositive, -⟩ := TaskSpec.canonicalJson_ok.mp h
  refine ⟨?_, ?_, ?_⟩
  · show 1 ≤ spec.retryPolicy.maxAttempts.val
    rw [Nat.one_le_iff_ne_zero]
    exact fun hzero => hpositive (Fin.ext hzero)
  · show 0 ≤ spec.retryPolicy.baseBackoffSeconds.toRat
    rw [hbase]
    exact hnonneg
  · show spec.retryPolicy.baseBackoffSeconds.toRat ≤ spec.retryPolicy.maxBackoffSeconds.toRat
    rw [hbase, hmax]
    exact hle

/-- No binding names a proposal that is still pending. -/
theorem System.Regular.bindingOf_pending (hs : s.Regular) {p : ProposalRow T}
    (hp : s.proposals.lookup id = some p) (hpending : p.state = .pending) :
    s.bindingOf id = none := by
  unfold System.bindingOf
  rw [Option.map_eq_none_iff, List.find?_eq_none]
  rintro ⟨t, b⟩ hb hnames
  obtain ⟨q, hq, hadmitted, -, -⟩ := hs.named t b (SortedMap.mem_entries.mp hb)
  rw [of_decide_eq_true hnames, hp] at hq
  cases hq
  rw [hpending] at hadmitted
  cases hadmitted

variable [DecidableEq T]

/-- A command whose key has a proposal compares its fingerprint and reads the proposal. -/
theorem compile_found (hs : s.Compiled W) (hintent : s.commandIntent W command = .ok intent)
    {p : ProposalRow T} (hp : s.proposals.lookup id = some p)
    (hkey : p.compileKey = command.key intent) {f : T}
    (hprint : intent.fingerprint W.toDocFormat = .ok f) (env : Env) :
    s.compile W env command = ensure (p.intentFingerprint = f) (.conflict
        ("compiled proposal already exists with different intent content for key " ++
          intent.rawIntentKey.quote)) >>= fun _ =>
      (readProposal W id p).map fun record => (record, s) := by
  have hfound : s.compiled ⟨(command.key intent).generationId, (command.key intent).sourceKind,
      (command.key intent).sourceRef, intent.rawIntentKey, (command.key intent).compilerVersion⟩ =
      some (id, p) := by
    rw [hs.compiled_eq_some]
    refine ⟨hp, hkey.trans ?_⟩
    cases command <;> rfl
  rw [compile_eq, hintent, ok_bind]
  simp only [System.compileIntentInner, hprint, ok_bind, hfound]
  rfl

/-- **A compilation with the key of an earlier one** gets its proposal, if the fingerprints agree,
    and fails otherwise. -/
theorem Answered.again_with (hs : s.Compiled W) {command' : CompileCommand}
    {intent' : RawWorkIntent} (h : Answered W s command intent id)
    (hintent' : s.commandIntent W command' = .ok intent')
    (hkey : command'.key intent' = command.key intent) (env : Env) :
    (intent'.fingerprint W.toDocFormat = intent.fingerprint W.toDocFormat →
      ∃ record, s.compile W env command' = .ok (record, s) ∧ record.proposalId = id ∧
        Faithful W intent record) ∧
    (intent'.fingerprint W.toDocFormat ≠ intent.fingerprint W.toDocFormat →
      ∃ e, s.compile W env command' = .error e) := by
  obtain ⟨p, record, hp, hkey', hprint, hread, hid, hfaithful⟩ := h.read
  rw [← hkey] at hkey'
  rw [hprint]
  constructor
  · intro hprint'
    refine ⟨record, ?_, hid, hfaithful⟩
    rw [compile_found hs hintent' hp hkey' hprint', decide_eq_true rfl, ensure_true, ok_bind, hread]
    rfl
  · intro hother
    cases hprint' : intent'.fingerprint W.toDocFormat with
    | error e =>
      refine ⟨e, ?_⟩
      rw [compile_eq, hintent', ok_bind]
      simp only [System.compileIntentInner, hprint']
      rfl
    | ok f' =>
      have hne : p.intentFingerprint ≠ f' := by
        rintro rfl
        exact hother hprint'
      rw [compile_found hs hintent' hp hkey' hprint', decide_eq_false hne]
      exact ⟨_, rfl⟩

variable [DecidableEq D]

/-- What a result carries is what it has carried. -/
theorem Change.intent_kept (h : Change W s s') (hintent : s.commandIntent W command = .ok intent) :
    s'.commandIntent W command = .ok intent := by
  cases command with
  | root g intent' ref version => exact hintent
  | result g resultId key version =>
    simp only [System.commandIntent, System.loadResultCarriedIntent, bind_ok, ensure_ok,
      present_ok] at hintent ⊢
    obtain ⟨_, -, _, hkey, result, hresult, payload, hpayload, hcarried⟩ := hintent
    obtain ⟨result', hresult', hfixed⟩ := h.results_kept resultId result hresult
    have hsame : result'.payload = result.payload := (congrArg ResultRow.payload hfixed :)
    exact ⟨(), by simp [hresult'], (), hkey, result', hresult', payload, hsame ▸ hpayload, hcarried⟩

theorem Answered.change (h : Answered W s command intent id) (hc : Change W s s') :
    Answered W s' command intent id where
  intended := hc.intent_kept h.intended
  named := h.named
  row := by
    obtain ⟨p, first, f, spec, hp, hl, horigin, hprint, hwritten⟩ := h.row
    obtain ⟨p', hp', hsame⟩ := hc.proposal_kept hp
    have hl' : p'.Legible W := (congrArg (ProposalRow.Legible W) hsame :).mpr hl
    exact ⟨p', first, f, spec, hp', hl', horigin.change hc hsame, hprint, hwritten⟩

/-- A command that compiles has an answer. -/
theorem answered_of_compile (hs : s.Compiled W) (hc : Change W s s') {record : ProposalRecord T}
    (h : s.compile W env command = .ok (record, s')) (hnamed : command.Named)
    (hl : ∀ p, s'.proposals.lookup record.proposalId = some p → p.Legible W) :
    ∃ intent, s.commandIntent W command = .ok intent ∧
      Answered W s' command intent record.proposalId := by
  rw [compile_eq] at h
  obtain ⟨intent, hintent, h⟩ := bind_ok.mp h
  refine ⟨intent, hintent, hc.intent_kept hintent, fun x hx => hnamed.partition hintent hx, ?_⟩
  have hkey : (⟨(command.key intent).generationId, (command.key intent).sourceKind,
      (command.key intent).sourceRef, intent.rawIntentKey,
      (command.key intent).compilerVersion⟩ : CompileKey) = command.key intent := by
    cases command <;> rfl
  obtain ⟨f, hprint, ⟨id, p, hfound, hsame, hread, rfl⟩ | ⟨spec, hcompile, ⟨_, hs'⟩, hid⟩⟩ :=
    compileIntentInner_ok h
  · -- an earlier command has compiled an intent with this fingerprint
    rw [hkey] at hfound
    obtain ⟨hp, hpkey⟩ := hs.compiled_eq_some.mp hfound
    obtain ⟨key, first, f', spec, horigin⟩ := hs.origin id p hp
    obtain ⟨now, hrow⟩ := horigin.row
    have hkey' : p.compileKey = key := (congrArg ProposalRow.compileKey hrow :)
    have hf : p.intentFingerprint = f' := (congrArg ProposalRow.intentFingerprint hrow :)
    obtain rfl : f' = f := hf.symm.trans hsame
    obtain rfl : key = command.key intent := hkey'.symm.trans hpkey
    obtain ⟨v, hv⟩ := fingerprint_document hprint
    obtain ⟨-, -, -, rfl⟩ := fingerprint_content horigin.printed hprint horigin.written hv
    rw [readProposal_id hread] at hl ⊢
    exact ⟨p, first, f', spec, hp, hl p hp, horigin, hprint, hv⟩
  · rw [hkey] at hcompile hs'
    have horigin := hcompile.origin hc
    have hp : s'.proposals.lookup record.proposalId =
        some (compiledRow W (command.key intent) intent f spec env.now) := by
      rw [hs', hid]
      exact (SortedMap.lookup_insert _ _ _ _).trans (if_pos rfl)
    exact ⟨_, intent, f, spec, hp, hl _ hp, horigin, hprint, hcompile.written⟩

/-- **A pending proposal is admitted** when the rows that its specification refers to exist. -/
theorem Answered.admission (hs : s.Typed W) (h : Answered W s command intent id) {p : ProposalRow T}
    (hp : s.proposals.lookup id = some p) (hpending : p.state = .pending) {row : GenerationRow T}
    (hrow : s.generations.lookup p.generationId = some row) (hpolicy : row.hasPolicy = false)
    (hspec : intent.suggestedTaskSpec = some spec) (hfresh : s.kernel.Fresh env 0)
    (hsupports : s.kernel.Supports (spec.toKernel W)) :
    ∃ t s', s.admitProposal W env id row.revision none = .ok (t, s') := by
  obtain ⟨q, first, f, v, hq, hl, horigin, -, hwritten⟩ := h.row
  cases hp.symm.trans hq
  obtain ⟨now, hcolumns⟩ := horigin.row
  have hspecJson : p.normalizedTaskSpecJson = v.map W.print :=
    (congrArg ProposalRow.normalizedTaskSpecJson hcolumns :)
  have hsetJson : p.semanticInputSetJson = W.print (semanticInputSetToJson first.semanticInputSet) :=
    (congrArg ProposalRow.semanticInputSetJson hcolumns :)
  have hgeneration : p.generationId = (command.key intent).generationId :=
    (congrArg ProposalRow.generationId hcolumns :)
  have hset := semanticInputSetFromJson_toJson (validateSemanticInputSet_valid horigin.inputs)
  have hread := readSpec_document (W := W) hwritten (hspecJson ▸ hl.2) h.named
  rw [hspec] at hread hwritten
  obtain ⟨w, hw, rfl⟩ := map_ok.mp hwritten
  have hsorted := (TaskSpec.sorted_canonicalJson spec).trans hw
  -- the generation still takes the proposal, and has no policy
  have hallows : s.allowsAdmission W p row.revision false = .ok row := by
    obtain ⟨row', hrow', hopen⟩ := hs.placed id p hp
    cases hrow.symm.trans hrow'
    refine allowsAdmission_ok.mpr ⟨hrow, rfl, hopen hpending, fun _ => ?_⟩
    obtain ⟨policy, -, hmarked, hread⟩ := hs.toPoliced.read hrow
    obtain rfl : policy = none := by simpa [hpolicy] using hmarked.symm
    exact hread (.inl rfl)
  -- the kernel creates the task
  have hcreate : Creatable s.kernel (spec.sorted.toKernel W) :=
    { partition := hsupports.partition
      unused := hsupports.unused
      workstream := hsupports.workstream
      superseded := hsupports.superseded
      independent := by
        show spec.sorted.dependencies = []
        simp [TaskSpec.sorted, horigin.independent_of hw]
      policy := canonicalJson_storable hsorted }
  obtain ⟨t, kernel, n, hkernel, hunused⟩ := runKernel_of_ensures (admitTask_ensures hfresh hcreate)
  have hunbound : s.bindings.lookup t = none := by
    cases hb : s.bindings.lookup t with
    | none => rfl
    | some b =>
      obtain ⟨row', hrow'⟩ := hs.toRegular.generation_of_binding hb
      obtain ⟨task, htask, -⟩ := hs.suited t b row' hb hrow'
      rw [hunused] at htask
      cases htask
  have hcompiled : (p.normalizedTaskSpecJson.mapM fun text =>
      W.parseText text >>= taskSpecFromJson) = .ok (some spec.sorted) := by
    rw [hspecJson]
    exact hread
  have hparsed : W.parseText p.semanticInputSetJson =
      .ok (semanticInputSetToJson first.semanticInputSet) := by
    simp [Wire.parseText, hl.1 _ hsetJson.symm]
  have hinputs : s.validateSemanticInputSet W p.generationId first.semanticInputSet = .ok () := by
    rw [hgeneration]
    exact horigin.inputs
  refine ⟨t, s.recordAdmission W kernel id p row t (W.print w) none, ?_⟩
  simp only [System.admitProposal, System.admitProposalCore, hp, present_some, ok_bind, hpending,
    System.admitNew, Option.isSome_none, hallows, hparsed, hset, hinputs, hcompiled, resolveSpec,
    Option.map_none, hkernel, hsorted, hunbound, Option.isNone_none, ensure_true,
    hs.toRegular.bindingOf_pending hp hpending, Option.mapM_none]
  rfl

end Records

section Statement

variable {T D : Type} [DecidableEq T] [DecidableEq D]

theorem compile_change {W : Wire T D} {s s' : System T D} {record : ProposalRecord T}
    (h : s.compile W env command = .ok (record, s')) : Change W s s' := by
  rw [compile_eq] at h
  obtain ⟨intent, -, h⟩ := bind_ok.mp h
  exact compileIntentInner_change h

/-- **Every committed proposal stays readable.** A command whose specification names a partition has
    compiled a proposal, whose texts the parser reads back; then in every later state the proposal is read, and the command is answered
    again, with a record of its intent. While the proposal is pending in a generation without a
    policy, it is admitted as soon as the kernel supports its specification. -/
theorem compiled_proposals_readable (W : Wire T D) (calls more : List (Env × FrontierOp)) (env : Env)
    (command : CompileCommand) (record : ProposalRecord T) (s' : System T D)
    (hnamed : command.Named)
    (h : (System.empty.run W calls).compile W env command = .ok (record, s'))
    (hlegible : ∀ p, s'.proposals.lookup record.proposalId = some p → p.Legible W) :
    ∃ intent, (System.empty.run W calls).commandIntent W command = .ok intent ∧
      (∃ read, (s'.run W more).getProposal W record.proposalId = .ok read ∧
        Faithful W intent read) ∧
      (∀ env', ∃ read, (s'.run W more).compile W env' command = .ok (read, s'.run W more) ∧
        read.proposalId = record.proposalId ∧ Faithful W intent read) ∧
      ∀ p row spec env', (s'.run W more).proposals.lookup record.proposalId = some p →
        p.state = .pending → (s'.run W more).generations.lookup p.generationId = some row →
        row.hasPolicy = false → intent.suggestedTaskSpec = some spec →
        (s'.run W more).kernel.Fresh env' 0 →
        (s'.run W more).kernel.Supports (spec.toKernel W) →
        ∃ t s'', (s'.run W more).admitProposal W env' record.proposalId row.revision none =
          .ok (t, s'') := by
  have hchange := compile_change h
  have hcompiled := run_compiled (W := W) System.compiled_empty calls
  have htyped := run_typed (W := W) System.typed_empty calls
  obtain ⟨intent, hintent, hanswered⟩ := answered_of_compile hcompiled hchange h hnamed hlegible
  -- the answer, and the invariants it is read with, hold in every later state
  have hlater : Answered W (s'.run W more) command intent record.proposalId :=
    run_change (P := fun s => Answered W s command intent record.proposalId)
      (fun _ _ hs hc => hs.change hc) more hanswered
  refine ⟨intent, hintent, ?_, ?_, ?_⟩
  · obtain ⟨p, read, hp, -, -, hread, -, hfaithful⟩ := hlater.read
    exact ⟨read, by simp [System.getProposal, hp, hread], hfaithful⟩
  · exact fun env' => (hlater.again_with (run_compiled (hcompiled.change hchange) more)
      hlater.intended rfl env').1 rfl
  · intro p row spec env' hp hpending hrow hpolicy hspec hfresh hsupports
    exact hlater.admission (run_typed (htyped.change hchange) more) hp hpending hrow hpolicy hspec hfresh
      hsupports

end Statement

theorem ProposalRow.verbatim_legible (p : ProposalRow Value) : p.Legible Wire.verbatim :=
  ⟨DocFormat.verbatim_legible _, fun _ _ => DocFormat.verbatim_legible _⟩

/-- Nothing that the sample run has not created has a name. -/
theorem proposed_fresh :
    (System.empty.run Wire.verbatim proposed).kernel.Fresh (Deployment.moment 4 "a") 0 where
  distinct := Deployment.uuid_injective 4 "a"
  agents _ _ := rfl
  attempts _ _ := rfl
  batches _ _ := rfl
  checkpoints _ _ := rfl
  escalations _ _ := rfl
  events _ _ := rfl
  executions _ _ := rfl
  failures _ _ := rfl
  incarnations _ _ := rfl
  leases _ _ := rfl
  results _ _ := rfl
  tasks _ _ := rfl
  workstreams _ _ := rfl

/-- The sample intent is compiled, read and admitted. -/
theorem compiled_proposals_readable_edit :
    ∃ record s', (System.empty.run Wire.verbatim (proposed.take 2)).compile Wire.verbatim
        (Deployment.moment 3 "q") (.root "gen_g" editing "root" 1) = .ok (record, s') ∧
      (∃ read, s'.getProposal Wire.verbatim record.proposalId = .ok read ∧
        Faithful Wire.verbatim editing read) ∧
      ∃ t s'', s'.admitProposal Wire.verbatim (Deployment.moment 4 "a") record.proposalId 0 none =
        .ok (t, s'') := by
  refine ⟨_, _, rfl, ?_⟩
  obtain ⟨intent, hintent, hread, -, hadmission⟩ := compiled_proposals_readable Wire.verbatim
    (proposed.take 2) [] (Deployment.moment 3 "q") (.root "gen_g" editing "root" 1) _ _
    (by rintro spec ⟨⟩; decide) rfl fun p _ => p.verbatim_legible
  cases hintent
  refine ⟨hread, hadmission _ _ edit (Deployment.moment 4 "a") rfl rfl rfl rfl rfl proposed_fresh ?_⟩
  exact ⟨by decide +kernel, by rintro _ ⟨⟩, by rintro _ ⟨⟩, by rintro _ ⟨⟩⟩

/-- The sample intent for a partition with a blank name. -/
def unnamed : RawWorkIntent :=
  { editing with suggestedTaskSpec := some { edit with partition := " " } }

/-- The sample intent for a workstream that does not exist. -/
def unplaced : RawWorkIntent :=
  { editing with suggestedTaskSpec := some { edit with workstreamId := some "w" } }

/-- A partition with a blank name can be active. -/
def blankPartition : List (Env × FrontierOp) :=
  (Deployment.moment 0 "b", .kernel (.upsertPartition { Deployment.general with name := " " })) ::
    proposed.take 2

/-- **The reader refuses what the writer accepts.** An intent for a partition with a blank name is
    compiled. The partition is active, but the proposal is neither read nor compiled again nor
    admitted. An intent for a workstream that does not exist is compiled and not admitted. -/
theorem blank_partition_unreadable :
    (∃ record s', (System.empty.run Wire.verbatim blankPartition).compile Wire.verbatim
        (Deployment.moment 3 "q") (.root "gen_g" unnamed "root" 1) = .ok (record, s') ∧
      (s'.kernel.partitionRow " " true).isSome = true ∧
      isOk (s'.getProposal Wire.verbatim record.proposalId) = false ∧
      isOk (s'.compile Wire.verbatim (Deployment.moment 4 "r") (.root "gen_g" unnamed "root" 1)) =
        false ∧
      isOk (s'.admitProposal Wire.verbatim (Deployment.moment 4 "a") record.proposalId 0 none) =
        false) ∧
    ∃ record s', (System.empty.run Wire.verbatim (proposed.take 2)).compile Wire.verbatim
        (Deployment.moment 3 "q") (.root "gen_g" unplaced "root" 1) = .ok (record, s') ∧
      (s'.kernel.partitionRow "general" true).isSome = true ∧
      isOk (s'.admitProposal Wire.verbatim (Deployment.moment 4 "a") record.proposalId 0 none) =
        false :=
  ⟨⟨_, _, rfl, by decide +kernel, by decide +kernel, by decide +kernel, by decide +kernel⟩,
    _, _, rfl, by decide +kernel, by decide +kernel⟩

end Agentype.Frontier

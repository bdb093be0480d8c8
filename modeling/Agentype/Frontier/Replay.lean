import Agentype.Frontier.Proposals

/-!
# `Agentype.Frontier.Replay` — repeating a command

A command that was committed may be sent again: the caller has lost the answer, or another caller has
the same idea. A repeated compilation looks the command up by its key and compares fingerprints. A
repeated admission compares the shape of the command, the override with the admitted specification and
the requirement that the draft derives now with the one that was committed.

`Bound` says where the records of an admission are, `Confirms` what makes a command repeat it. Both
hold right after the admission and along every later change, so the repetition is answered with the same
task. The exceptions are a specification whose partition is blank, which is admitted and cannot be read
back, and records whose texts the parser does not read back as they were printed.

## Contents
- `Bound`, `Bound.change`; `System.Regular.bindingOf_eq`: a proposal has one binding.
- `Derives`: a draft derives a committed requirement; `System.Repeats`, `replayAdmission_ok`.
- `Confirms`, `Confirms.change`, `Confirms.repeats`, `Admission.confirms`.
- **`commands_repeatable`**, `blank_override_unrepeatable`.
-/

namespace Agentype.Frontier

open Check Relational Relational.Tx Agent

variable {t : TaskId} {id : ProposalId} {task : TaskRow} {r : TaskAgentRequirement}
  {draft : Option AgentRequirementDraft} {spec : TaskSpec} {overrideSpec : Option TaskSpec}

section Bindings

variable {T D : Type} {W : Wire T D} {s s' : System T D}

/-- A proposal has one binding. -/
theorem System.Regular.bindingOf_eq (hs : s.Regular) {b : BindingRow T}
    (hb : s.bindings.lookup t = some b) : s.bindingOf b.proposalId = some b := by
  unfold System.bindingOf
  cases hfind : s.bindings.entries.find? fun x => decide (x.2.proposalId = b.proposalId) with
  | none =>
    have := List.find?_eq_none.mp hfind (t, b) (SortedMap.mem_entries.mpr hb)
    simp at this
  | some x =>
    have hx := SortedMap.mem_entries.mp (List.mem_of_find?_eq_some hfind)
    have hsame : x.2.proposalId = b.proposalId := by simpa using List.find?_some hfind
    obtain ⟨p, hp, -, htask, -⟩ := hs.named t b hb
    obtain ⟨p', hp', -, htask', -⟩ := hs.named x.1 x.2 hx
    rw [hsame, hp] at hp'
    cases hp'
    rw [htask] at htask'
    cases htask'
    cases hb.symm.trans hx
    rfl

/-- **The records of an admission**: the proposal, its binding and its task. -/
structure Bound (s : System T D) (id : ProposalId) (p : ProposalRow T) (t : TaskId)
    (b : BindingRow T) (task : TaskRow) : Prop where
  proposal : s.proposals.lookup id = some p
  state : p.state = .admitted
  admitted : p.admittedTaskId = some t
  binding : s.bindings.lookup t = some b
  owner : b.proposalId = id
  generation : b.generationId = p.generationId
  function : b.informationFunction = p.informationFunction
  task : s.kernel.tasks.lookup t = some task

variable [DecidableEq T] [DecidableEq D]

/-- An admitted proposal stays admitted. -/
theorem Bound.change {p : ProposalRow T} {b : BindingRow T} (h : Bound s id p t b task)
    (hs : s.Regular) (hc : Change W s s') :
    ∃ p' task', Bound s' id p' t b task' ∧ task'.fixed = task.fixed := by
  obtain ⟨p', hp', horigin⟩ := hc.proposal_kept h.proposal
  obtain ⟨task', htask', hfixed⟩ := hc.tasks_kept t task h.task
  have hb' := hc.bindings_kept h.binding
  obtain ⟨q, hq, hstate, htask, hgeneration⟩ := (hs.change hc).named t b hb'
  rw [h.owner] at hq
  cases hp'.symm.trans hq
  have hfunction : p'.informationFunction = p.informationFunction :=
    (congrArg ProposalRow.informationFunction horigin :)
  exact ⟨p', task', ⟨hp', hstate, htask, hb', h.owner, hgeneration.symm,
    h.function.trans hfunction.symm, htask'⟩, hfixed⟩

end Bindings

/-! ## Drafts -/

section Drafts

variable {T D : Type} {W : Wire T D} {s s' : System T D}

/-- **A draft derives a committed requirement.** -/
structure Derives (W : Wire T D) (s : System T D) (b : BindingRow T)
    (draft : AgentRequirementDraft) (spec : TaskSpec) (r : TaskAgentRequirement) : Prop where
  pin : replayPin draft.requiredType (some r.requiredType) = some r.requiredType
  shaped : ShapedBy s.catalog.capabilities draft.requiredCapabilities
  derived : ∃ policy, s.StoresPolicy W b.generationId policy ∧
    (∀ p, policy = some p → p.Admits (draftHard draft b.informationFunction spec)) ∧
      r = derivedRequirement policy draft r.requiredType b.informationFunction spec

theorem requirementDoc_injective : Function.Injective (requirementDoc W) := fun _ _ h =>
  taskAgentRequirementDocument_injective (W.print_injective (congrArg Doc.json h))

/-- The order of the tags does not matter to a requirement. -/
theorem draftHard_sorted (draft : AgentRequirementDraft) (f : InformationFunction)
    (spec : TaskSpec) : draftHard draft f spec.sorted = draftHard draft f spec := by
  have htags : SortedSet.ofList spec.sorted.affinityTags = SortedSet.ofList spec.affinityTags := by
    apply SortedSet.ext_mem
    simp [TaskSpec.sorted]
  simp only [draftHard, htags]
  rfl

theorem derivedRequirement_sorted (policy : Option GenerationPolicy) (draft : AgentRequirementDraft)
    (ty : Agent.AgentTypeRef) (f : InformationFunction) (spec : TaskSpec) :
    derivedRequirement policy draft ty f spec.sorted =
      derivedRequirement policy draft ty f spec := by
  simp only [derivedRequirement, draftHard_sorted]

variable [DecidableEq T] [DecidableEq D]

/-- What is read of a typed task is what is stored. -/
theorem getTaskAgentRequirement_stored (h : s.getTaskAgentRequirement W t = .ok (some r)) :
    s.requirements.lookup t = some (requirementDoc W r) := by
  simp only [System.getTaskAgentRequirement, bind_ok] at h
  obtain ⟨mode, -, h⟩ := h
  split at h
  · cases h
  · cases h
  · cases h
  · rename_i row hrow
    simp only [System.requirementRow, Option.bind_eq_bind, Option.bind_eq_some_iff,
      Option.pure_def, Option.some.injEq] at hrow
    obtain ⟨_, -, doc, hdoc, rfl⟩ := hrow
    simp only [map_ok, System.readTaskAgentRequirement, bind_ok, ensure_ok, decide_eq_true_eq,
      pure_ok, Option.some.injEq] at h
    obtain ⟨_, ⟨_, hdigest, _, -, _, -, _, -, _, -, _, -, _, -, _, hjson, _, -, rfl⟩, rfl⟩ := h
    rw [hdoc, requirementDoc, hjson, hdigest]

/-- A replayed derivation that gives the committed requirement derives it from the draft: a selector
    that the committed type does not answer resolves to another type. -/
theorem derives_of_replay {b : BindingRow T} {draft : AgentRequirementDraft}
    (h : s.buildTaskAgentRequirementReplay W b.generationId draft b.informationFunction spec
      r.requiredType = .ok r) : Derives W s b draft spec r := by
  simp only [System.buildTaskAgentRequirementReplay, bind_ok] at h
  obtain ⟨ty, hty, hderive⟩ := h
  obtain ⟨hload, policy, hpolicy⟩ := deriveTaskAgentRequirement_reads hderive
  obtain ⟨hshaped, hadmits, hr⟩ := (deriveTaskAgentRequirement_ok hload hpolicy).mp hderive
  obtain rfl : ty = r.requiredType := by
    rw [hr]
    rfl
  refine ⟨?_, hshaped, policy, getGenerationPolicy_stored hpolicy, hadmits, hr⟩
  cases hpin : replayPin draft.requiredType (some r.requiredType) with
  | none =>
    simp only [System.resolveDraftSelector, hpin, bind_ok, rejecting_ok] at hty
    obtain ⟨_, -, resolved, hresolved, hty⟩ := hty
    obtain ⟨rfl, -⟩ := existingType_ok.mp hty
    rw [resolveSelector_answers hresolved] at hpin
    cases hpin
  | some pin =>
    simp only [System.resolveDraftSelector, hpin] at hty
    obtain ⟨rfl, -⟩ := existingType_ok.mp hty
    rfl

/-- **A replayed derivation** gives the committed requirement when the draft derives it, on texts that
    can be read. -/
theorem Derives.replay {b : BindingRow T} {draft : AgentRequirementDraft}
    (h : Derives W s b draft spec r) (hs : s.Policed W) {row : GenerationRow T}
    (hrow : s.generations.lookup b.generationId = some row) (hb : s.bindings.lookup t = some b)
    (hl : s.Legible W t)
    (hheld : ∃ a, a.typeRef = r.requiredType ∧ Catalog.HoldsAgentType W.toDocFormat s.catalog a) :
    s.buildTaskAgentRequirementReplay W b.generationId draft b.informationFunction spec
      r.requiredType = .ok r := by
  obtain ⟨policy, hstored, hadmits, hr⟩ := h.derived
  obtain ⟨policy', hstored', -, hread⟩ := hs.read hrow
  cases hstored.unique hstored'
  have hload := Catalog.loadCapabilityCatalog_legible hs.catalog hl.catalog
  have hpolicy := hread (.inr ⟨hl.catalog, hl.policy b hb⟩)
  obtain ⟨a, hty, ha⟩ := hheld
  obtain ⟨status, hget⟩ := Catalog.getAgentType_holds hs.catalog hl.catalog ha
  rw [System.buildTaskAgentRequirementReplay, bind_ok]
  refine ⟨r.requiredType, ?_,
    (deriveTaskAgentRequirement_ok hload hpolicy).mpr ⟨h.shaped, hadmits, hr⟩⟩
  simp only [System.resolveDraftSelector, h.pin]
  exact existingType_ok.mpr ⟨rfl, _, hty ▸ hget⟩

/-- A draft that derives a requirement derives it in every later state. -/
theorem Derives.change {b : BindingRow T} {draft : AgentRequirementDraft}
    (h : Derives W s b draft spec r) (hs : s.Policed W) (hc : Change W s s') {row : GenerationRow T}
    (hrow : s.generations.lookup b.generationId = some row) : Derives W s' b draft spec r where
  pin := h.pin
  shaped := h.shaped.grows (Catalog.capabilities_grows (hc.catalog_grows hs.catalog).1)
  derived := by
    obtain ⟨policy, hstored, h⟩ := h.derived
    exact ⟨policy, (hc.policies_same hrow).trans hstored, h⟩

end Drafts

/-! ## Confirmation -/

section Confirmation

variable {T D : Type} {W : Wire T D} {s s' : System T D}

/-- **A command repeats an admission**: it has the same shape, its override is equivalent to the
    admitted specification, and its draft derives the committed requirement, provided that the
    specification can be read. -/
structure Confirms (W : Wire T D) (s : System T D) (t : TaskId) (b : BindingRow T) (task : TaskRow)
    (overrideSpec : Option TaskSpec) (draft : Option AgentRequirementDraft) : Prop where
  shape : replayShape draft.isSome task.agentRequirementMode = .ok ()
  same : W.Legible b.admittedTaskSpecJson → ∀ x, overrideSpec = some x →
    ∃ spec, admittedSpec W b = .ok spec ∧ spec.equivalent x = .ok true
  derives : ∀ d, draft = some d → ∃ r, Demands W s t b task r ∧
    (W.Legible b.admittedTaskSpecJson → ∃ spec, admittedSpec W b = .ok spec ∧ Derives W s b d spec r)

theorem replayShape_ok {typed : Bool} {mode : AgentRequirementMode} :
    replayShape typed mode = .ok () ↔ (typed = true ↔ mode = .typed) := by
  cases typed <;> cases mode <;> simp [replayShape]

theorem replayOverride_ok {b : BindingRow T} (hb : s.bindingOf id = some b) :
    s.replayOverride W id overrideSpec = .ok () ↔ ∀ x, overrideSpec = some x →
      ∃ spec, admittedSpec W b = .ok spec ∧ spec.equivalent x = .ok true := by
  cases overrideSpec with
  | none => simp [System.replayOverride]
  | some x =>
    simp only [System.replayOverride, hb, bind_ok, ensure_ok, Option.some.injEq, forall_eq']
    constructor
    · rintro ⟨spec, hspec, same, hsame, rfl⟩
      exact ⟨spec, hspec, hsame⟩
    · rintro ⟨spec, hspec, hsame⟩
      exact ⟨spec, hspec, true, hsame, rfl⟩

/-- The specification of a command, if it gives one, names its partition. -/
def SpecNamed (spec : Option TaskSpec) : Prop := ∀ x, spec = some x → isBlank x.partition = false

/-- The specification to admit comes from the proposal or from the override. -/
theorem resolveSpec_ok {compiled : Option TaskSpec}
    (h : resolveSpec compiled overrideSpec = .ok spec) :
    (compiled = some spec ∨ compiled = none ∧ overrideSpec = some spec) ∧
      ∀ x, overrideSpec = some x → x = spec ∨ spec.equivalent x = .ok true := by
  cases compiled with
  | none =>
    cases overrideSpec with
    | none => cases h
    | some x =>
      cases h
      simp
  | some c =>
    cases overrideSpec with
    | none =>
      cases h
      simp
    | some x =>
      simp only [resolveSpec, bind_ok, ensure_ok, pure_ok] at h
      obtain ⟨same, hsame, _, rfl, rfl⟩ := h
      simp [hsame]

/-- A compiled specification that was read names its partition. -/
theorem readSpec_named {text : Option T}
    (h : (text.mapM fun text => W.parseText text >>= taskSpecFromJson) = .ok (some spec)) :
    isBlank spec.partition = false := by
  cases text with
  | none => cases h
  | some text =>
    simp only [Option.mapM_some] at h
    obtain ⟨x, hx, hsome⟩ := map_ok.mp h
    cases hsome
    obtain ⟨v, -, hv⟩ := bind_ok.mp hx
    obtain ⟨_, _, _, hfields⟩ := taskSpecFromJson_fields hv
    exact hfields.partition_named

/-- Sorting does not change what a specification is equivalent to. -/
theorem TaskSpec.sorted_equivalent (spec other : TaskSpec) :
    spec.sorted.equivalent other = spec.equivalent other := by
  simp only [TaskSpec.equivalent, TaskSpec.sorted_canonicalJson]

/-- The row that an admission binds its task with. -/
def admissionRow (W : Wire T D) (id : ProposalId) (p : ProposalRow T) (generation : GenerationRow T)
    (json : Value) : BindingRow T where
  generationId := p.generationId
  proposalId := id
  informationFunction := p.informationFunction
  admissionSeq := generation.admissionSeq + 1
  admittedTaskSpecJson := W.print json
  semanticInputSetJson := p.semanticInputSetJson

/-- Every binding has the function of its proposal. -/
def System.Matched (s : System T D) : Prop :=
  ∀ t b, s.bindings.lookup t = some b → ∃ p, s.proposals.lookup b.proposalId = some p ∧
    b.informationFunction = p.informationFunction

theorem System.matched_empty : (System.empty : System T D).Matched := by
  intro t b h
  cases h

variable [DecidableEq T] [DecidableEq D]

/-- What a command must give to repeat the admission of a task: an override equivalent to the
    admitted specification, and a draft from which the committed requirement is derived. -/
structure System.Repeats (W : Wire T D) (s : System T D) (t : TaskId)
    (overrideSpec : Option TaskSpec) (draft : Option AgentRequirementDraft) : Prop where
  same : ∀ x, overrideSpec = some x → ∃ b spec, s.bindings.lookup t = some b ∧
    admittedSpec W b = .ok spec ∧ spec.equivalent x = .ok true
  derives : ∀ d, draft = some d → ∃ b spec r, s.bindings.lookup t = some b ∧
    admittedSpec W b = .ok spec ∧ s.getTaskAgentRequirement W t = .ok (some r) ∧
    s.buildTaskAgentRequirementReplay W b.generationId d b.informationFunction spec
      r.requiredType = .ok r

/-- Repeating a draft. -/
theorem replayDraft_ok (hfree : W.toDocFormat.CollisionFree) {p : ProposalRow T} {b : BindingRow T}
    (h : Bound s id p t b task) (hbinding : s.bindingOf id = some b) {draft : AgentRequirementDraft} :
    s.replayDraft W id p t draft = .ok () ↔
      ∃ spec r, admittedSpec W b = .ok spec ∧ s.getTaskAgentRequirement W t = .ok (some r) ∧
        s.buildTaskAgentRequirementReplay W b.generationId draft b.informationFunction spec
          r.requiredType = .ok r := by
  simp only [System.replayDraft, hbinding, present_some, ok_bind, bind_ok, present_ok, ensure_ok,
    decide_eq_true_eq, h.generation, h.function]
  constructor
  · rintro ⟨spec, hspec, _, hread, r, rfl, expected, hexpected, hdigest⟩
    -- digests do not collide, so the committed requirement is the expected one
    have hbytes : (requirementDoc W r).json = (requirementDoc W expected).json := hfree hdigest
    cases taskAgentRequirementDocument_injective (W.print_injective hbytes)
    exact ⟨spec, r, hspec, hread, hexpected⟩
  · rintro ⟨spec, r, hspec, hread, hexpected⟩
    exact ⟨spec, hspec, _, hread, r, rfl, r, hexpected, rfl⟩

/-- **Repeating an admission** succeeds exactly on a command of its shape that repeats it. -/
theorem replayAdmission_ok (hfree : W.toDocFormat.CollisionFree) (hs : s.Regular)
    {p : ProposalRow T} {b : BindingRow T} (h : Bound s id p t b task) :
    s.replayAdmission W id p t overrideSpec draft = .ok () ↔
      replayShape draft.isSome task.agentRequirementMode = .ok () ∧
        s.Repeats W t overrideSpec draft := by
  have hbinding := hs.bindingOf_eq h.binding
  rw [h.owner] at hbinding
  have hmode : s.taskAgentRequirementMode t = .ok task.agentRequirementMode := by
    simp [System.taskAgentRequirementMode, h.task]
  simp only [System.replayAdmission, hmode, ok_bind, bind_ok, replayOverride_ok hbinding]
  constructor
  · rintro ⟨_, hshape, _, hsame, hdraft⟩
    refine ⟨hshape, fun x hx => ⟨b, (hsame x hx).imp fun _ h' => ⟨h.binding, h'⟩⟩, ?_⟩
    rintro d rfl
    obtain ⟨spec, r, hfound⟩ := (replayDraft_ok hfree h hbinding).mp hdraft
    exact ⟨b, spec, r, h.binding, hfound⟩
  · rintro ⟨hshape, hsame, hderives⟩
    refine ⟨(), hshape, (), fun x hx => ?_, ?_⟩
    · obtain ⟨b', spec, hb', hfound⟩ := hsame x hx
      cases h.binding.symm.trans hb'
      exact ⟨spec, hfound⟩
    · cases draft with
      | none => rfl
      | some d =>
        obtain ⟨b', spec, r, hb', hfound⟩ := hderives d rfl
        cases h.binding.symm.trans hb'
        exact (replayDraft_ok hfree h hbinding).mpr ⟨spec, r, hfound⟩

/-- A command that confirms an admission confirms it in every later state. -/
theorem Confirms.change {b : BindingRow T} {task' : TaskRow}
    (h : Confirms W s t b task overrideSpec draft) (hs : s.Typed W) (hc : Change W s s')
    (hb : s.bindings.lookup t = some b) (hfixed : task'.fixed = task.fixed) :
    Confirms W s' t b task' overrideSpec draft := by
  obtain ⟨row, hrow⟩ := hs.toRegular.generation_of_binding hb
  have hmode : task'.agentRequirementMode = task.agentRequirementMode :=
    (congrArg TaskRow.agentRequirementMode hfixed :)
  refine ⟨hmode ▸ h.shape, h.same, fun d hd => ?_⟩
  obtain ⟨r, hr, hderives⟩ := h.derives d hd
  refine ⟨r, hr.change hs.toPoliced hc hb hrow hfixed, fun hl => ?_⟩
  obtain ⟨spec, hspec, h⟩ := hderives hl
  exact ⟨spec, hspec, h.change hs.toPoliced hc hrow⟩

/-- A command that repeats an admission confirms it. -/
theorem System.Repeats.confirms (h : s.Repeats W t overrideSpec draft) (hs : s.Typed W)
    {p : ProposalRow T} {b : BindingRow T} (hbound : Bound s id p t b task)
    (hshape : replayShape draft.isSome task.agentRequirementMode = .ok ()) :
    Confirms W s t b task overrideSpec draft where
  shape := hshape
  same _ x hx := by
    obtain ⟨b', spec, hb', hfound⟩ := h.same x hx
    cases hbound.binding.symm.trans hb'
    exact ⟨spec, hfound⟩
  derives d hd := by
    obtain ⟨b', spec, r, hb', hspec, hread, hbuild⟩ := h.derives d hd
    cases hbound.binding.symm.trans hb'
    have htyped : task.agentRequirementMode = .typed := (replayShape_ok.mp hshape).mp (by simp [hd])
    obtain ⟨r', hr'⟩ := hs.demands t b task hbound.binding hbound.task htyped
    -- what is stored of the task determines the requirement
    cases requirementDoc_injective
      (Option.some.inj ((getTaskAgentRequirement_stored hread).symm.trans hr'.stored))
    exact ⟨r, hr', fun _ => ⟨spec, hspec, derives_of_replay hbuild⟩⟩

/-- A command that confirms an admission repeats it, on texts that can be read. -/
theorem Confirms.repeats (hs : s.Typed W) {p : ProposalRow T} {b : BindingRow T}
    (hbound : Bound s id p t b task) (h : Confirms W s t b task overrideSpec draft)
    (hspec : W.Legible b.admittedTaskSpecJson) (hl : draft.isSome → s.Legible W t) :
    s.Repeats W t overrideSpec draft where
  same x hx := by
    obtain ⟨spec, hfound⟩ := h.same hspec x hx
    exact ⟨b, spec, hbound.binding, hfound⟩
  derives d hd := by
    obtain ⟨r, hr, hderives⟩ := h.derives d hd
    obtain ⟨spec, hadmitted, hd'⟩ := hderives hspec
    obtain ⟨row, hrow⟩ := hs.toRegular.generation_of_binding hbound.binding
    have hsome : draft.isSome := by simp [hd]
    have htyped : task.agentRequirementMode = .typed := (replayShape_ok.mp h.shape).mp hsome
    exact ⟨b, spec, r, hbound.binding, hadmitted,
      getTaskAgentRequirement_demands hs.toPoliced hbound.binding hrow hbound.task htyped hr
        (hl hsome),
      hd'.replay hs.toPoliced hrow hbound.binding (hl hsome) hr.held⟩

/-- **The command that has admitted a proposal confirms the admission.** -/
theorem Admission.confirms (hs : s.Typed W) {env : Env} {p : ProposalRow T} {revision : Nat}
    {generation : GenerationRow T} {kernel : Store} {json : Value}
    {pinned : Option TaskAgentRequirement}
    (h : Admission W env s id p revision overrideSpec draft generation spec t kernel json pinned)
    (hnamed : SpecNamed overrideSpec) :
    ∃ p' b task, Bound (s.recordAdmission W kernel id p generation t (W.print json) pinned) id p' t
        b task ∧
      Confirms W (s.recordAdmission W kernel id p generation t (W.print json) pinned) t b task
        overrideSpec draft := by
  have hchange := Change.admission h
  obtain ⟨batch, htask⟩ := h.newTask.row
  have hbinding : (s.recordAdmission W kernel id p generation t (W.print json) pinned).bindings.lookup
      t = some (admissionRow W id p generation json) :=
    (SortedMap.lookup_insert _ _ _ _).trans (if_pos rfl)
  refine ⟨{ p with state := .admitted, admittedTaskId := some t }, _, _,
    ⟨(SortedMap.lookup_insert _ _ _ _).trans (if_pos rfl), rfl, rfl, hbinding, rfl, rfl, rfl, htask⟩,
    ?_⟩
  -- the admitted specification names its partition, so it is read back
  obtain ⟨compiled, hcompiled, hresolved⟩ := h.specified
  obtain ⟨hfrom, hsame⟩ := resolveSpec_ok hresolved
  have hpartition : isBlank spec.partition = false := by
    rcases hfrom with rfl | ⟨-, hoverride⟩
    · exact readSpec_named hcompiled
    · exact hnamed spec hoverride
  have hadmitted : W.Legible (W.print json) →
      admittedSpec W (admissionRow W id p generation json) = .ok spec.sorted := by
    intro hl
    simp [admittedSpec, admissionRow, Wire.parseText, hl json rfl,
      taskSpecFromJson_document h.written hpartition]
  refine ⟨?_, fun hl x hx => ⟨spec.sorted, hadmitted hl, ?_⟩, ?_⟩
  · rcases h.pinned with ⟨rfl, rfl⟩ | ⟨d, r, rfl, rfl, -⟩ <;> rfl
  · rw [TaskSpec.sorted_equivalent]
    rcases hsame x hx with rfl | hequivalent
    · exact TaskSpec.equivalent_of_document h.written h.written
    · exact hequivalent
  · rintro d rfl
    obtain ⟨hnone, -⟩ | ⟨_, r, heq, rfl, hr⟩ := h.pinned
    · cases hnone
    cases heq
    have hdemands := h.demands hs.toPoliced hbinding htask
    refine ⟨r, hdemands, fun hl => ⟨spec.sorted, hadmitted hl, ?_⟩⟩
    obtain ⟨policy, hpolicy, hpin, hheld, hshaped, hadmits, hderived⟩ :=
      admittedRequirement_ok hs.toPoliced hr
    refine ⟨hpin, hshaped, policy, (hchange.policies_same h.generation_row).trans hpolicy, ?_⟩
    rw [draftHard_sorted, derivedRequirement_sorted]
    exact ⟨hadmits, hderived⟩

/-! ## Whole runs -/

theorem System.Matched.change (hs : s.Matched) (h : Change W s s') : s'.Matched := by
  have hkept : ∀ t b, s.bindings.lookup t = some b → ∃ p, s'.proposals.lookup b.proposalId = some p ∧
      b.informationFunction = p.informationFunction := by
    intro t b hb
    obtain ⟨p, hp, hfunction⟩ := hs t b hb
    obtain ⟨p', hp', horigin⟩ := h.proposal_kept hp
    have hsame : p'.informationFunction = p.informationFunction :=
      (congrArg ProposalRow.informationFunction horigin :)
    exact ⟨p', hp', hfunction.trans hsame.symm⟩
  intro t b hb
  cases h with
  | @admission _ id p _ _ _ _ _ t₁ _ _ _ _ =>
    by_cases heq : t = t₁
    · have hrow := hb
      simp only [System.recordAdmission, SortedMap.lookup_insert, if_pos heq,
        Option.some.injEq] at hrow
      subst hrow
      exact ⟨_, (SortedMap.lookup_insert _ _ _ _).trans (if_pos rfl), rfl⟩
    · refine hkept t b ?_
      simpa only [System.recordAdmission, SortedMap.lookup_insert, if_neg heq] using hb
  | _ => exact hkept t b hb

/-- The invariants, and a command that confirms the admission of a proposal. -/
structure Confirmed (W : Wire T D) (s : System T D) (id : ProposalId) (t : TaskId)
    (overrideSpec : Option TaskSpec) (draft : Option AgentRequirementDraft) : Prop where
  typed : s.Typed W
  confirmed : ∃ p b task, Bound s id p t b task ∧ Confirms W s t b task overrideSpec draft

theorem Confirmed.change (h : Confirmed W s id t overrideSpec draft) (hc : Change W s s') :
    Confirmed W s' id t overrideSpec draft where
  typed := h.typed.change hc
  confirmed := by
    obtain ⟨p, b, task, hbound, hconfirms⟩ := h.confirmed
    obtain ⟨p', task', hbound', hfixed⟩ := hbound.change h.typed.toRegular hc
    exact ⟨p', b, task', hbound', hconfirms.change h.typed hc hbound.binding hfixed⟩

/-- **A command that admits a proposal confirms the admission**, whether it has made it or found
    it. -/
theorem confirmed_of_admission (hfree : W.toDocFormat.CollisionFree) (hs : s.Typed W)
    (hm : s.Matched) {env : Env} {revision : Nat} (hnamed : SpecNamed overrideSpec)
    (h : s.admitProposalCore W env id revision overrideSpec draft = .ok (t, s')) :
    Confirmed W s' id t overrideSpec draft := by
  refine ⟨hs.change (admitProposalCore_change h), ?_⟩
  obtain ⟨p, hp, ⟨hstate, htask, hreplay, rfl⟩ | ⟨row, spec, kernel, json, pinned, hadmission,
    rfl⟩⟩ := admitProposalCore_ok h
  · obtain ⟨t', b, hb, rfl⟩ := hs.bound id p hp hstate
    obtain ⟨p', hp', -, htask', hgeneration⟩ := hs.named t' b hb
    cases hp.symm.trans hp'
    cases htask.symm.trans htask'
    obtain ⟨p', hp', hfunction⟩ := hm t b hb
    cases hp.symm.trans hp'
    obtain ⟨row, hrow⟩ := hs.toRegular.generation_of_binding hb
    obtain ⟨task, htask, -⟩ := hs.suited t b row hb hrow
    have hbound : Bound _ b.proposalId p t b task :=
      ⟨hp, hstate, htask', hb, rfl, hgeneration.symm, hfunction, htask⟩
    obtain ⟨hshape, hrepeats⟩ := (replayAdmission_ok hfree hs.toRegular hbound).mp hreplay
    exact ⟨p, b, task, hbound, hrepeats.confirms hs hbound hshape⟩
  · exact hadmission.confirms hs hnamed

theorem Bound.admitProposalCore {p : ProposalRow T}
    {b : BindingRow T} (h : Bound s id p t b task) (env : Env) (revision : Nat)
    (overrideSpec : Option TaskSpec) (draft : Option AgentRequirementDraft) :
    s.admitProposalCore W env id revision overrideSpec draft =
      (s.replayAdmission W id p t overrideSpec draft).map fun _ => (t, s) := by
  simp only [System.admitProposalCore, h.proposal, present_some, ok_bind, h.state, h.admitted]
  cases s.replayAdmission W id p t overrideSpec draft <;> rfl

/-- **A confirmed admission is repeated.** The same command gets the same task, if the texts can be
    read; a command of another shape, or one that does not repeat the admission, fails. -/
theorem Confirmed.replay (hfree : W.toDocFormat.CollisionFree)
    (h : Confirmed W s id t overrideSpec draft) (env : Env) :
    ((∀ b, s.bindings.lookup t = some b → W.Legible b.admittedTaskSpecJson) →
        (draft.isSome → s.Legible W t) →
      ∀ revision, s.admitProposalCore W env id revision overrideSpec draft = .ok (t, s)) ∧
      ∀ revision overrideSpec' draft',
        draft'.isSome ≠ draft.isSome ∨ ¬s.Repeats W t overrideSpec' draft' →
        ∃ e, s.admitProposalCore W env id revision overrideSpec' draft' = .error e := by
  obtain ⟨p, b, task, hbound, hconfirms⟩ := h.confirmed
  refine ⟨fun hspec hl revision => ?_, fun revision o d hother => ?_⟩
  · have hrepeats := hconfirms.repeats h.typed hbound (hspec b hbound.binding) hl
    rw [hbound.admitProposalCore,
      (replayAdmission_ok hfree h.typed.toRegular hbound).mpr ⟨hconfirms.shape, hrepeats⟩]
    rfl
  · rw [hbound.admitProposalCore]
    cases hreplay : s.replayAdmission W id p t o d with
    | error e => exact ⟨e, rfl⟩
    | ok =>
      obtain ⟨hshape', hrepeats'⟩ :=
        (replayAdmission_ok hfree h.typed.toRegular hbound).mp hreplay
      rcases hother with hshape | hrepeats
      · have hsame := (replayShape_ok.mp hshape').trans (replayShape_ok.mp hconfirms.shape).symm
        exact absurd (Bool.eq_iff_iff.mpr hsame) hshape
      · exact absurd hrepeats' hrepeats

/-- **Commands are committed once.** After an admission whose override, if any, names its partition,
    the same command gets the same task and changes nothing in every later state in which the texts
    that it compares can be read, and a command that does not repeat the admission fails. After a
    compilation whose specification, if any, names its partition and whose texts can be read, a
    command with the same key gets the same proposal, if the fingerprints agree, and fails
    otherwise. -/
theorem commands_repeatable (W : Wire T D) (hfree : W.toDocFormat.CollisionFree)
    (calls more : List (Env × FrontierOp)) (env env' : Env) :
    (∀ id revision overrideSpec draft t s₁, SpecNamed overrideSpec →
      (System.empty.run W calls).admitProposalCore W env id revision overrideSpec draft =
        .ok (t, s₁) →
      ((∀ b, (s₁.run W more).bindings.lookup t = some b → W.Legible b.admittedTaskSpecJson) →
        (draft.isSome → (s₁.run W more).Legible W t) →
        (s₁.run W more).admitProposalCore W env' id revision overrideSpec draft =
          .ok (t, s₁.run W more)) ∧
      ∀ revision' overrideSpec' draft', draft'.isSome ≠ draft.isSome ∨
          ¬(s₁.run W more).Repeats W t overrideSpec' draft' →
        ∃ e, (s₁.run W more).admitProposalCore W env' id revision' overrideSpec' draft' =
          .error e) ∧
    ∀ command record s₁, command.Named →
      (System.empty.run W calls).compile W env command = .ok (record, s₁) →
      (∀ p, s₁.proposals.lookup record.proposalId = some p → p.Legible W) →
      ∃ intent, (System.empty.run W calls).commandIntent W command = .ok intent ∧
        ∀ command' intent', (s₁.run W more).commandIntent W command' = .ok intent' →
          command'.key intent' = command.key intent →
          (intent'.fingerprint W.toDocFormat = intent.fingerprint W.toDocFormat →
            ∃ record', (s₁.run W more).compile W env' command' = .ok (record', s₁.run W more) ∧
              record'.proposalId = record.proposalId) ∧
          (intent'.fingerprint W.toDocFormat ≠ intent.fingerprint W.toDocFormat →
            ∃ e, (s₁.run W more).compile W env' command' = .error e) := by
  have htyped := run_typed (W := W) System.typed_empty calls
  have hcompiled := run_compiled (W := W) System.compiled_empty calls
  constructor
  · intro id revision overrideSpec draft t s₁ hnamed h
    have hmatched : (System.empty.run W calls).Matched :=
      run_change (P := fun s => s.Matched) (fun _ _ hs hc => hs.change hc) calls
        System.matched_empty
    have hfirst := confirmed_of_admission hfree htyped hmatched hnamed h
    have hlater : Confirmed W (s₁.run W more) id t overrideSpec draft :=
      run_change (P := fun s => Confirmed W s id t overrideSpec draft)
        (fun _ _ hs hc => hs.change hc) more hfirst
    obtain ⟨hsame, hothers⟩ := hlater.replay hfree env'
    exact ⟨fun hspec hl => hsame hspec hl revision, hothers⟩
  · intro command record s₁ hnamed h hlegible
    have hchange := compile_change h
    obtain ⟨intent, hintent, hanswered⟩ := answered_of_compile hcompiled hchange h hnamed hlegible
    have hlater : Answered W (s₁.run W more) command intent record.proposalId :=
      run_change (P := fun s => Answered W s command intent record.proposalId)
        (fun _ _ hs hc => hs.change hc) more hanswered
    refine ⟨intent, hintent, fun command' intent' hintent' hkey => ?_⟩
    obtain ⟨hagree, hdiffer⟩ :=
      hlater.again_with (run_compiled (hcompiled.change hchange) more) hintent' hkey env'
    exact ⟨fun hprint => (hagree hprint).imp fun _ h => ⟨h.1, h.2.1⟩, hdiffer⟩

end Confirmation

/-- What happens to the small typed run after its admission. -/
def frozenLater : List (Env × FrontierOp) :=
  [(Deployment.moment 6 "f", .freezeGeneration "gen_g" 0),
   (Deployment.moment 7 "d", .catalog (.setAgentTypeStatus generalist.typeRef .deprecated))]

/-- The admission of the small typed run is repeated after its generation is frozen and its type
    deprecated; without the draft it is refused. -/
theorem commands_repeatable_deprecated :
    ∃ t s₁, (System.empty.run Wire.verbatim typedProposed).admitProposalCore Wire.verbatim
        (Deployment.moment 5 "a") "prop_q" 0 none (some (plainDraft (.latest "generalist"))) =
        .ok (t, s₁) ∧
      (s₁.run Wire.verbatim frozenLater).admitProposalCore Wire.verbatim (Deployment.moment 8 "r")
        "prop_q" 0 none (some (plainDraft (.latest "generalist"))) =
        .ok (t, s₁.run Wire.verbatim frozenLater) ∧
      ∃ e, (s₁.run Wire.verbatim frozenLater).admitProposalCore Wire.verbatim
        (Deployment.moment 8 "r") "prop_q" 0 none none = .error e := by
  have hok : isOk ((System.empty.run Wire.verbatim typedProposed).admitProposalCore Wire.verbatim
      (Deployment.moment 5 "a") "prop_q" 0 none (some (plainDraft (.latest "generalist")))) =
      true := by
    decide +kernel
  obtain ⟨⟨t, s₁⟩, h⟩ := isOk_iff.mp hok
  obtain ⟨hsame, hothers⟩ := (commands_repeatable Wire.verbatim (fun _ _ h => h) typedProposed
    frozenLater (Deployment.moment 5 "a") (Deployment.moment 8 "r")).1 _ _ _ _ t s₁
    (by rintro x ⟨⟩) h
  exact ⟨t, s₁, h, hsame (fun _ _ => DocFormat.verbatim_legible _)
    (fun _ => System.verbatim_legible _ t), hothers 0 none none (.inl (by simp))⟩

/-- A proposal without a specification, beside an active partition with a blank name. -/
def unspecified : List (Env × FrontierOp) :=
  blankPartition ++ [(Deployment.moment 3 "q", .compileRootIntent "gen_g"
    { editing with suggestedTaskSpec := none } "root" 1)]

/-- **An admission that cannot be repeated.** The override names a partition with a blank name. The
    proposal is admitted with it; the same command, sent again, fails. A compilation of an intent for
    that partition cannot be repeated either. -/
theorem blank_override_unrepeatable :
    (∃ t s₁, (System.empty.run Wire.verbatim unspecified).admitProposal Wire.verbatim
        (Deployment.moment 4 "a") "prop_q" 0 (some { edit with partition := " " }) = .ok (t, s₁) ∧
      isOk (s₁.admitProposal Wire.verbatim (Deployment.moment 5 "r") "prop_q" 0
        (some { edit with partition := " " })) = false) ∧
    ∃ record s₁, (System.empty.run Wire.verbatim blankPartition).compile Wire.verbatim
        (Deployment.moment 3 "q") (.root "gen_g" unnamed "root" 1) = .ok (record, s₁) ∧
      isOk (s₁.compile Wire.verbatim (Deployment.moment 4 "r") (.root "gen_g" unnamed "root" 1)) =
        false :=
  ⟨⟨_, _, rfl, by decide +kernel⟩, _, _, rfl, by decide +kernel⟩

end Agentype.Frontier

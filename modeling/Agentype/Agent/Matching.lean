import Agentype.Agent.Requirement
import Agentype.Core.Decisions
import Agentype.Lib.Ranking

/-!
# `Agentype.Agent.Matching` — ranking the existing agents for a task

The candidates for a task are the bound agents that pass the placement gate, whose type can execute
the requirement and is not another revision of the pinned type. They are ranked by how their type
relates to the pin, then by how many candidates of the same class are strictly more specific, then by
workstream, continuity, availability and identity.

## Contents
- `ExistingAgentCandidate`, `TaskPlacement`, `Relation`, `matchExistingAgents`.
- `moreSpecificFor_irrefl`, `moreSpecificFor_trans`.
- **`matchExistingAgents_ranks`**.
-/

namespace Agentype.Agent

open Check

variable {row row' : Relation × Nat × ExistingAgentCandidate}

/-- A bound, ready and unassigned agent. -/
structure ExistingAgentCandidate where
  logicalAgentId : LogicalAgentId
  agentType : AgentType
  partition : PartitionId
  tags : SortedSet String
  workstreamId : Option WorkstreamId
  availableSince : Option UnixTime
  createdAt : UnixTime
  deriving DecidableEq

/-- Where a task may be placed. -/
structure TaskPlacement where
  partition : PartitionId
  requiredTags : SortedSet String
  workstreamId : Option WorkstreamId
  continuity : ContinuityPreference
  deriving DecidableEq

/-- How a candidate's type relates to the pinned one, best first. -/
inductive Relation where
  | exact | narrower | broader | otherCompatible
  deriving DecidableEq, Repr

def Relation.rank : Relation → Nat
  | exact => 0
  | narrower => 1
  | broader => 2
  | otherCompatible => 3

instance : LinearOrder Relation := LinearOrder.lift' Relation.rank
  (by intro a b; cases a <;> cases b <;> simp [Relation.rank])

def relation (candidate required : AgentType) (req : TaskAgentRequirement)
    (catalog : CapabilityCatalog) : Relation :=
  if candidate.typeRef = required.typeRef then .exact
  else if moreSpecificFor candidate required req.hard catalog then .narrower
  else if moreSpecificFor required candidate req.hard catalog then .broader
  else .otherCompatible

/-- Another revision of the pinned type is never a substitute. -/
def isCrossRevisionOfPin (candidate required : AgentType) : Bool :=
  decide (candidate.typeRef ≠ required.typeRef) && decide (candidate.typeRef.id = required.typeRef.id)

def strictlyMoreSpecific (a b : AgentType) (req : TaskAgentRequirement)
    (catalog : CapabilityCatalog) : Bool :=
  decide (a.typeRef ≠ b.typeRef) && moreSpecificFor a b req.hard catalog &&
    !moreSpecificFor b a req.hard catalog

def sameWorkstream (candidate : ExistingAgentCandidate) (placement : TaskPlacement) : Bool :=
  placement.workstreamId.isSome && decide (candidate.workstreamId = placement.workstreamId)

/-- What the placement demands, as claim selection reads it. -/
def TaskPlacement.intent (placement : TaskPlacement) : ClaimIntent where
  partition := placement.partition
  requiredTags := placement.requiredTags.elems
  workstreamId := placement.workstreamId
  continuity := placement.continuity

def placementEligible (candidate : ExistingAgentCandidate) (placement : TaskPlacement) : Bool :=
  claimPlacementEligible placement.intent candidate.partition candidate.tags.elems
    candidate.workstreamId

/-- The candidate may be offered at all. -/
def candidateEligible (required : AgentType) (req : TaskAgentRequirement)
    (placement : TaskPlacement) (catalog : CapabilityCatalog) (c : ExistingAgentCandidate) : Bool :=
  placementEligible c placement && isOk (canExecute c.agentType req.hard catalog) &&
    !isCrossRevisionOfPin c.agentType required

/-- Another candidate of the same class that is strictly more specific. -/
def outranks (required : AgentType) (req : TaskAgentRequirement) (catalog : CapabilityCatalog)
    (other c : ExistingAgentCandidate) : Bool :=
  decide (relation other.agentType required req catalog =
      relation c.agentType required req catalog) &&
    strictlyMoreSpecific other.agentType c.agentType req catalog

def workstreamRank (placement : TaskPlacement) (c : ExistingAgentCandidate) : Nat :=
  if placement.continuity ≠ .none && !sameWorkstream c placement then 1 else 0

/-- The order of the ranking: class, domination, workstream, stronger continuity, availability,
    identity. -/
def rankingKey (placement : TaskPlacement) (row : Relation × Nat × ExistingAgentCandidate) :
    Relation ×ₗ Nat ×ₗ Nat ×ₗ (ContinuityMode)ᵒᵈ ×ₗ UnixTime ×ₗ String :=
  let c := row.2.2
  let tiebreak := claimTiebreak c.availableSince c.createdAt c.logicalAgentId
  toLex (row.1, toLex (row.2.1, toLex (workstreamRank placement c,
    toLex (OrderDual.toDual c.agentType.contract.continuity, toLex (tiebreak.1, tiebreak.2)))))

def matchExistingAgents (required : AgentType) (req : TaskAgentRequirement)
    (placement : TaskPlacement) (candidates : List ExistingAgentCandidate)
    (catalog : CapabilityCatalog) : Except ContractError (List ExistingAgentCandidate) :=
  if req.requiredType ≠ required.typeRef then
    .error (.invariantViolation ("match target " ++ required.typeRef.display ++
      " does not match the requirement's pinned type"))
  else
    let eligible := candidates.filter (candidateEligible required req placement catalog)
    let indexed := eligible.map fun c =>
      (relation c.agentType required req catalog,
        dominators (outranks required req catalog) eligible c, c)
    .ok ((sortBy (rankingKey placement) indexed).map fun row => row.2.2)

/-! ## Specificity -/

section Specificity

variable {a b c : AgentType} {req : TaskRequirement} {catalog : CapabilityCatalog}

theorem moreSpecificFor_iff :
    moreSpecificFor a b req catalog = true ↔
      a.typeRef ≠ b.typeRef ∧ canExecute a req catalog = .ok () ∧
        canExecute b req catalog = .ok () ∧ NoWider catalog a.contract b.contract ∧
        ¬NoWider catalog b.contract a.contract := by
  rw [← authorityNoWider_iff, ← authorityNoWider_iff, ← isOk_unit, ← isOk_unit]
  by_cases hr : a.typeRef = b.typeRef
  · simp [moreSpecificFor, hr]
  · cases ha : isOk (canExecute a req catalog) <;> cases hb : isOk (canExecute b req catalog) <;>
      simp [moreSpecificFor, hr, ha, hb]

/-- No type is more specific than itself. -/
theorem moreSpecificFor_irrefl (a : AgentType) : moreSpecificFor a a req catalog = false := by
  simp [moreSpecificFor]

theorem moreSpecificFor_asymm (h : moreSpecificFor a b req catalog = true) :
    moreSpecificFor b a req catalog = false := by
  rw [Bool.eq_false_iff]
  intro h'
  exact (moreSpecificFor_iff.mp h).2.2.2.2 (moreSpecificFor_iff.mp h').2.2.2.1

/-- Specificity is transitive on types with one contract per reference. -/
theorem moreSpecificFor_trans (hone : a.typeRef = c.typeRef → a.contract = c.contract)
    (h : moreSpecificFor a b req catalog = true) (h' : moreSpecificFor b c req catalog = true) :
    moreSpecificFor a c req catalog = true := by
  obtain ⟨-, ha, -, hab, hnba⟩ := moreSpecificFor_iff.mp h
  obtain ⟨-, -, hc, hbc, -⟩ := moreSpecificFor_iff.mp h'
  refine moreSpecificFor_iff.mpr ⟨?_, ha, hc, hab.trans hbc, fun hca => hnba (hbc.trans hca)⟩
  intro href
  rw [← hone href] at hbc
  exact hnba hbc

theorem strictlyMoreSpecific_eq {req : TaskAgentRequirement} :
    strictlyMoreSpecific a b req catalog = moreSpecificFor a b req.hard catalog := by
  cases h : moreSpecificFor a b req.hard catalog with
  | false => simp [strictlyMoreSpecific, h]
  | true =>
    have href := (moreSpecificFor_iff.mp h).1
    simp [strictlyMoreSpecific, h, moreSpecificFor_asymm h, href]

end Specificity

/-! ## Classes -/

section Classes

variable {a b required : AgentType} {req : TaskAgentRequirement} {catalog : CapabilityCatalog}

theorem relation_exact (h : a.typeRef = required.typeRef) : relation a required req catalog = .exact :=
  if_pos h

theorem relation_narrower (h : moreSpecificFor a required req.hard catalog = true) :
    relation a required req catalog = .narrower := by
  rw [relation, if_neg (moreSpecificFor_iff.mp h).1, if_pos h]

theorem relation_broader (h : moreSpecificFor required a req.hard catalog = true) :
    relation a required req catalog = .broader := by
  have hne := (moreSpecificFor_iff.mp h).1
  simp [relation, hne.symm, moreSpecificFor_asymm h, h]

theorem relation_otherCompatible (hne : a.typeRef ≠ required.typeRef)
    (h : moreSpecificFor a required req.hard catalog = false)
    (h' : moreSpecificFor required a req.hard catalog = false) :
    relation a required req catalog = .otherCompatible := by
  simp [relation, hne, h, h']

theorem exact_lt_relation (hne : a.typeRef ≠ required.typeRef) :
    Relation.exact < relation a required req catalog := by
  rw [relation, if_neg hne]
  split_ifs <;> decide

theorem narrower_lt_relation (hne : a.typeRef ≠ required.typeRef)
    (h : moreSpecificFor a required req.hard catalog = false) :
    Relation.narrower < relation a required req catalog := by
  rw [relation, if_neg hne, h, if_neg Bool.false_ne_true]
  split_ifs <;> decide

/-- Two substitutes that compare to the pinned type alike are of one class. -/
theorem relation_congr (ha : a.typeRef ≠ required.typeRef) (hb : b.typeRef ≠ required.typeRef)
    (h : moreSpecificFor a required req.hard catalog = moreSpecificFor b required req.hard catalog)
    (h' : moreSpecificFor required a req.hard catalog = moreSpecificFor required b req.hard catalog) :
    relation a required req catalog = relation b required req catalog := by
  rw [relation, relation, if_neg ha, if_neg hb, h, h']

end Classes

/-! ## The ranking -/

section Ranking

variable {required : AgentType} {req : TaskAgentRequirement} {placement : TaskPlacement}
  {catalog : CapabilityCatalog} {candidates candidates' : List ExistingAgentCandidate}
  {x y z : ExistingAgentCandidate}

/-- One contract for each type reference among the candidates. -/
def OneContract (candidates : List ExistingAgentCandidate) : Prop :=
  ∀ x ∈ candidates, ∀ y ∈ candidates, x.agentType.typeRef = y.agentType.typeRef →
    x.agentType.contract = y.agentType.contract

theorem outranks_iff : outranks required req catalog x y = true ↔
    relation x.agentType required req catalog = relation y.agentType required req catalog ∧
      moreSpecificFor x.agentType y.agentType req.hard catalog = true := by
  simp [outranks, strictlyMoreSpecific_eq]

/-- Within a class, the more specific of two candidates has fewer dominators. -/
theorem dominators_lt_of_outranks (hone : OneContract candidates) (hx : x ∈ candidates)
    (hy : y ∈ candidates) (h : outranks required req catalog x y = true) :
    dominators (outranks required req catalog) candidates x <
      dominators (outranks required req catalog) candidates y := by
  apply dominators_lt hx
  · rw [Bool.eq_false_iff]
    intro hxx
    rw [outranks_iff, moreSpecificFor_irrefl] at hxx
    simp at hxx
  · exact h
  · intro z hz hzx
    obtain ⟨hrel, hspec⟩ := outranks_iff.mp hzx
    obtain ⟨hrel', hspec'⟩ := outranks_iff.mp h
    exact outranks_iff.mpr ⟨hrel.trans hrel', moreSpecificFor_trans (hone z hz y hy) hspec hspec'⟩

/-- The key tells candidates with different identities apart. -/
theorem rankingKey_id (h : rankingKey placement row = rankingKey placement row') :
    row.2.2.logicalAgentId = row'.2.2.logicalAgentId := by
  simp only [rankingKey, EmbeddingLike.apply_eq_iff_eq, Prod.mk.injEq, claimTiebreak] at h
  exact h.2.2.2.2.2

theorem rankingKey_lt_of_relation (h : row.1 < row'.1) :
    rankingKey placement row < rankingKey placement row' :=
  Prod.Lex.toLex_lt_toLex.mpr (.inl h)

theorem rankingKey_lt_of_dominators (h : row.1 = row'.1) (h' : row.2.1 < row'.2.1) :
    rankingKey placement row < rankingKey placement row' :=
  Prod.Lex.toLex_lt_toLex.mpr (.inr ⟨h, Prod.Lex.toLex_lt_toLex.mpr (.inl h')⟩)

end Ranking

/-- `x` comes before `y` in a list. -/
def Precedes (out : List ExistingAgentCandidate) (x y : ExistingAgentCandidate) : Prop :=
  [x, y].Sublist out

/-- **Matching is complete, order-independent and respects specificity.** Over candidates with distinct
    identities and one contract per type, the ranking holds exactly the eligible candidates, each
    once, whatever order they were given in. The pinned type comes first, then the types more specific
    than it, then the types it is more specific than, then the others; and of two types that relate to
    the pinned one alike, the more specific comes first. -/
theorem matchExistingAgents_ranks (catalog : CapabilityCatalog) (required : AgentType)
    (req : TaskAgentRequirement) (placement : TaskPlacement)
    (candidates : List ExistingAgentCandidate) (hpin : req.requiredType = required.typeRef)
    (hids : (candidates.map ExistingAgentCandidate.logicalAgentId).Nodup)
    (hone : OneContract candidates) :
    ∃ out, matchExistingAgents required req placement candidates catalog = .ok out ∧
      out.Nodup ∧
      (∀ c, c ∈ out ↔ c ∈ candidates ∧ placementEligible c placement = true ∧
        canExecute c.agentType req.hard catalog = .ok () ∧
        isCrossRevisionOfPin c.agentType required = false) ∧
      (∀ candidates', candidates'.Perm candidates →
        matchExistingAgents required req placement candidates' catalog = .ok out) ∧
      (∀ x ∈ out, ∀ y ∈ out, y.agentType.typeRef ≠ required.typeRef →
        (x.agentType.typeRef = required.typeRef → Precedes out x y) ∧
        (moreSpecificFor x.agentType required req.hard catalog = true →
          moreSpecificFor y.agentType required req.hard catalog = false → Precedes out x y) ∧
        (moreSpecificFor required x.agentType req.hard catalog = true →
          moreSpecificFor y.agentType required req.hard catalog = false →
          moreSpecificFor required y.agentType req.hard catalog = false → Precedes out x y) ∧
        (moreSpecificFor x.agentType required req.hard catalog =
            moreSpecificFor y.agentType required req.hard catalog →
          moreSpecificFor required x.agentType req.hard catalog =
            moreSpecificFor required y.agentType req.hard catalog →
          moreSpecificFor x.agentType y.agentType req.hard catalog = true → Precedes out x y)) ∧
      (∀ a, moreSpecificFor a a req.hard catalog = false) ∧
      (∀ x ∈ candidates, ∀ y ∈ candidates, ∀ z ∈ candidates,
        moreSpecificFor x.agentType y.agentType req.hard catalog = true →
        moreSpecificFor y.agentType z.agentType req.hard catalog = true →
        moreSpecificFor x.agentType z.agentType req.hard catalog = true) := by
  set eligible := candidates.filter (candidateEligible required req placement catalog) with heligible
  set row : ExistingAgentCandidate → Relation × Nat × ExistingAgentCandidate := fun c =>
    (relation c.agentType required req catalog,
      dominators (outranks required req catalog) eligible c, c) with hrow
  have hsub : ∀ c ∈ eligible, c ∈ candidates := fun c hc => (List.mem_filter.mp hc).1
  have hmem : ∀ c, c ∈ (sortBy (rankingKey placement) (eligible.map row)).map (fun r => r.2.2) ↔
      c ∈ eligible := by
    intro c
    simp [hrow]
  have hprecedes : ∀ x ∈ eligible, ∀ y ∈ eligible,
      rankingKey placement (row x) < rankingKey placement (row y) →
      Precedes ((sortBy (rankingKey placement) (eligible.map row)).map fun r => r.2.2) x y := by
    intro x hx y hy hlt
    have hpair := sortBy_precedes (List.mem_map_of_mem hx) (List.mem_map_of_mem hy) hlt
    exact hpair.map fun r => r.2.2
  refine ⟨(sortBy (rankingKey placement) (eligible.map row)).map fun r => r.2.2, ?_, ?_, ?_, ?_, ?_,
    ?_, ?_⟩
  · rw [matchExistingAgents, if_neg (not_not.mpr hpin)]
  · -- The ranking permutes the eligible candidates, whose identities are distinct.
    have hperm : ((sortBy (rankingKey placement) (eligible.map row)).map fun r => r.2.2).Perm
        eligible := by
      have h := (sortBy_perm (rankingKey placement) (eligible.map row)).map fun r => r.2.2
      simpa [hrow, Function.comp_def] using h
    exact hperm.nodup_iff.mpr (hids.of_map _ |>.filter _)
  · intro c
    rw [hmem, heligible, List.mem_filter]
    simp only [candidateEligible, Bool.and_eq_true, isOk_unit, Bool.not_eq_true', and_assoc]
  · intro candidates' hperm
    have hperm' : (candidates'.filter (candidateEligible required req placement catalog)).Perm
        eligible := hperm.filter _
    have hrows : (candidates'.filter (candidateEligible required req placement catalog)).map
        (fun c => (relation c.agentType required req catalog,
          dominators (outranks required req catalog)
            (candidates'.filter (candidateEligible required req placement catalog)) c, c)) =
        (candidates'.filter (candidateEligible required req placement catalog)).map row := by
      apply List.map_congr_left
      intro c _
      simp only [hrow, dominators_perm hperm']
    rw [matchExistingAgents, if_neg (not_not.mpr hpin)]
    simp only [hrows]
    rw [sortBy_eq_of_perm (hperm'.map row).symm]
    -- Equal keys have equal identities, so they are the same candidate.
    rintro r hr r' hr' hkey
    obtain ⟨c, hc, rfl⟩ := List.mem_map.mp hr
    obtain ⟨c', hc', rfl⟩ := List.mem_map.mp hr'
    rw [List.inj_on_of_nodup_map hids (hsub c hc) (hsub c' hc') (rankingKey_id hkey)]
  · intro x hx y hy hpinned
    rw [hmem] at hx hy
    have hclass : relation x.agentType required req catalog <
        relation y.agentType required req catalog → _ :=
      fun hlt => hprecedes x hx y hy (rankingKey_lt_of_relation hlt)
    -- the first three clauses compare classes, the last two candidates of one class
    refine ⟨fun h => hclass ?_, fun h hy' => hclass ?_, fun h hy' hy'' => hclass ?_,
      fun h h' hspec => ?_⟩
    · rw [relation_exact h]
      exact exact_lt_relation hpinned
    · rw [relation_narrower h]
      exact narrower_lt_relation hpinned hy'
    · rw [relation_broader h, relation_otherCompatible hpinned hy' hy'']
      decide
    · by_cases hx' : x.agentType.typeRef = required.typeRef
      · apply hclass
        rw [relation_exact hx']
        exact exact_lt_relation hpinned
      -- the classes agree, so the more specific of the two has fewer dominators
      have hrel := relation_congr hx' hpinned h h'
      refine hprecedes x hx y hy (rankingKey_lt_of_dominators hrel ?_)
      refine dominators_lt_of_outranks ?_ hx hy (outranks_iff.mpr ⟨hrel, hspec⟩)
      exact fun x hx y hy => hone x (hsub x hx) y (hsub y hy)
  · exact moreSpecificFor_irrefl
  · intro x hx y _ z hz
    exact moreSpecificFor_trans (hone x hx z hz)

/-- A candidate of a given type in the general partition. -/
def bystander (id : LogicalAgentId) (agentType : AgentType) : ExistingAgentCandidate :=
  ⟨id, agentType, "general", .empty, none, none, 0⟩

/-- A generalist that may not write. -/
def reader : AgentType where
  typeRef := ⟨"reader", 1, by decide, U64.one_ne_zero⟩
  basedOn := some generalist.typeRef
  contract := { generalist.contract with security := ⟨.readOnly, .enabled, false⟩ }

/-- A reader that may not use the network either. -/
def recluse : AgentType where
  typeRef := ⟨"recluse", 1, by decide, U64.one_ne_zero⟩
  basedOn := some reader.typeRef
  contract := { reader.contract with security := ⟨.readOnly, .disabled, false⟩ }

/-- A generalist with a larger budget. -/
def spender : AgentType where
  typeRef := ⟨"spender", 1, by decide, U64.one_ne_zero⟩
  basedOn := none
  contract := { generalist.contract with budgetCeiling := 20 }

/-- A broader type, two narrower ones and the pinned one are ranked pinned, narrower, broader, and of
    the narrower ones the more specific first. -/
theorem matchExistingAgents_ranks_four :
    ∃ out, matchExistingAgents generalist ⟨generalist.typeRef, modestTask .none⟩
        ⟨"general", .empty, none, .none⟩ [bystander "a" spender, bystander "b" reader,
          bystander "c" recluse, bystander "d" generalist] .empty = .ok out ∧
      Precedes out (bystander "d" generalist) (bystander "c" recluse) ∧
      Precedes out (bystander "c" recluse) (bystander "b" reader) ∧
      Precedes out (bystander "b" reader) (bystander "a" spender) := by
  obtain ⟨out, hout, -, hmem, -, hclass, -⟩ :=
    matchExistingAgents_ranks .empty generalist ⟨generalist.typeRef, modestTask .none⟩
      ⟨"general", .empty, none, .none⟩ [bystander "a" spender, bystander "b" reader,
        bystander "c" recluse, bystander "d" generalist] rfl
      (by decide) (by unfold OneContract; decide +kernel)
  have hd := (hmem (bystander "d" generalist)).mpr (by decide +kernel)
  have hc := (hmem (bystander "c" recluse)).mpr (by decide +kernel)
  have hb := (hmem (bystander "b" reader)).mpr (by decide +kernel)
  have ha := (hmem (bystander "a" spender)).mpr (by decide +kernel)
  exact ⟨out, hout, (hclass _ hd _ hc (by decide)).1 rfl,
    (hclass _ hc _ hb (by decide)).2.2.2 (by decide +kernel) (by decide +kernel) (by decide +kernel),
    (hclass _ hb _ ha (by decide)).2.1 (by decide +kernel) (by decide +kernel)⟩

end Agentype.Agent

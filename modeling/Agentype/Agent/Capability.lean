import Agentype.Core.States
import Agentype.Lib.Json
import Agentype.Lib.SortedSet
import Mathlib.Algebra.Order.Ring.Rat
import Mathlib.Order.Fin.Basic

/-!
# `Agentype.Agent.Capability` — capabilities and their order

The capability vocabulary of agent contracts: exact references, values of the five matcher shapes,
the catalog that owns what a reference means, and the comparisons between values.

All comparisons are one order. `valueSatisfies m` is a preorder on the values of shape `m`;
`valueWithin`, and the two refinement orders used by the predicates, are the same order read in one
direction or the other, and `joinRequirementValues` is its least upper bound.

## Contents
- `ContractError`, `RevisionRef`, `CapabilityRef`.
- `CapabilityValue`, `CapabilityDefinition`, `CapabilityCatalog`, `CapabilityClaim`.
- `valueSatisfies`, `valueWithin`, `joinRequirementValues`.
- `valueSatisfies_refl`, `valueSatisfies_trans`, **`joinRequirementValues_lub`**,
  `joinRequirementValues_none`.
-/

namespace Agentype.Agent

variable {a b : CapabilityValue} {m : MatcherKind}

/-- Resolution errors of agent contracts. -/
inductive ContractError where
  | agentTypeNotFound (typeId : String) (revision : Nat)
  | invalidRefinement (reason : String)
  | capabilityMismatch (capability : String)
  | securityUnenforceable (reason : String)
  | sourceConfigInvalid (reason : String)
  | evidencePolicyMismatch (expected actual : String)
  | evidenceSubjectMismatch (reason : String)
  | invalidNumber (field : String)
  | invalidRef (reason : String)
  | capabilityDefinitionConflict (capability : String) (revision : Nat)
  | requirementConflict (reason : String)
  | generationPolicyConflict (reason : String)
  | invariantViolation (msg : String)
  deriving DecidableEq, Repr

def ContractError.display : ContractError → String
  | .agentTypeNotFound typeId revision =>
    "agent type " ++ typeId ++ "@" ++ toString revision ++ " not found"
  | .invalidRefinement reason => "invalid refinement: " ++ reason
  | .capabilityMismatch capability => "capability mismatch: " ++ capability
  | .securityUnenforceable reason => "security not enforceable: " ++ reason
  | .sourceConfigInvalid reason => "source config invalid: " ++ reason
  | .evidencePolicyMismatch expected actual =>
    "enforcement evidence policy " ++ actual ++ " does not match source policy " ++ expected
  | .evidenceSubjectMismatch reason => "enforcement evidence subject mismatch: " ++ reason
  | .invalidNumber field => "invalid number for " ++ field
  | .invalidRef reason => "invalid ref: " ++ reason
  | .capabilityDefinitionConflict capability revision =>
    "capability " ++ capability ++ "@" ++ toString revision ++
      " redefined with different semantics"
  | .requirementConflict reason => "task requirement conflict: " ++ reason
  | .generationPolicyConflict reason => "generation policy conflict: " ++ reason
  | .invariantViolation msg => "invariant violation: " ++ msg

abbrev U64 := Fin (2 ^ 64)
abbrev U32 := Fin (2 ^ 32)

theorem U64.one_ne_zero : (1 : U64) ≠ 0 := by decide

/-! ## References -/

/-- An exact revision of a named record; `label` is what messages call such records. The fields are
    private in the source, so a blank name or a zero revision cannot be built. -/
structure RevisionRef (label : String) where
  id : String
  revision : U64
  named : isBlank id = false
  positive : revision ≠ 0
  deriving DecidableEq

namespace RevisionRef

variable {label : String}

def new (id : String) (revision : U64) : Except ContractError (RevisionRef label) :=
  if hid : isBlank id = true then .error (.invalidRef (label ++ " id cannot be empty"))
  else if hrev : revision = 0 then .error (.invalidRef (label ++ " revision must be >= 1"))
  else .ok ⟨id, revision, isBlank_eq_false hid, hrev⟩

@[simp] theorem new_self (r : RevisionRef label) : new r.id r.revision = .ok r := by
  simp [new, r.named, r.positive]

@[ext] theorem ext {r r' : RevisionRef label} (hid : r.id = r'.id)
    (hrev : r.revision = r'.revision) : r = r' := by
  cases r
  cases r'
  simp_all

/-- References are ordered by name, then by revision. -/
def rank (r : RevisionRef label) : String ×ₗ U64 := toLex (r.id, r.revision)

theorem rank_injective : Function.Injective (@rank label) := by
  intro r r' h
  have h' : (r.id, r.revision) = (r'.id, r'.revision) := toLex.injective h
  exact RevisionRef.ext (congrArg Prod.fst h') (congrArg Prod.snd h')

instance : LinearOrder (RevisionRef label) := LinearOrder.lift' rank rank_injective

/-- How messages spell an exact reference. -/
def display (r : RevisionRef label) : String := r.id ++ "@" ++ toString r.revision.val

end RevisionRef

abbrev CapabilityRef := RevisionRef "capability"

/-! ## Values -/

/-- The five matcher shapes. -/
inductive MatcherKind where
  | bool | set | ordered | quantity | exact
  deriving DecidableEq, Repr

/-- A finite non-negative quantity; negative zero is zero. -/
abbrev Quantity := ℚ≥0

def Quantity.new (value : Double) : Except ContractError Quantity :=
  if h : 0 ≤ value.toRat then .ok ⟨value.toRat, h⟩ else .error (.invalidNumber "quantity")

/-- A capability value; its shape is determined by the capability's definition. -/
inductive CapabilityValue where
  | bool (b : Bool)
  | set (items : SortedSet String)
  | ordered (class_ : String) (rank : U32)
  | quantity (q : Quantity)
  | exact (v : Value)
  deriving DecidableEq

namespace CapabilityValue

def matcherKind : CapabilityValue → MatcherKind
  | bool _ => .bool
  | set _ => .set
  | ordered _ _ => .ordered
  | quantity _ => .quantity
  | exact _ => .exact

/-- `bool false` is absence; every other value is present. -/
def isPresent : CapabilityValue → Bool
  | bool false => false
  | _ => true

/-- `==`: equality, except inside exact values, where doubles are compared as numbers. -/
def same : CapabilityValue → CapabilityValue → Bool
  | exact v, exact w => v.same w
  | a, b => decide (a = b)

/-- The value holds no negative zero. -/
def Plain : CapabilityValue → Prop
  | exact v => v.Plain
  | _ => True

instance (a : CapabilityValue) : Decidable a.Plain := by
  cases a <;> unfold Plain <;> infer_instance

@[simp] theorem same_refl (a : CapabilityValue) : same a a = true := by
  cases a <;> simp [same]

theorem same_symm (h : same a b = true) : same b a = true := by
  cases a <;> cases b <;> simp_all [same, Value.same_comm]

theorem same_trans {c : CapabilityValue} (h : same a b = true) (h' : same b c = true) :
    same a c = true := by
  cases a <;> cases b <;> cases c <;> simp_all [same]
  exact Value.same_trans h h'

theorem same_iff_of_plain (ha : a.Plain) (hb : b.Plain) : same a b = true ↔ a = b := by
  cases a <;> cases b <;> simp_all [same, Plain, Value.same_iff_of_plain]

end CapabilityValue

/-! ## Definitions and claims -/

/-- Whether a capability is functional or takes part in a security proof. -/
inductive SecurityClass where
  | functional | authority | sandbox | continuity
  deriving DecidableEq, Repr

/-- Whether the class needs imported enforcement evidence. -/
def SecurityClass.requiresEvidence : SecurityClass → Bool
  | functional => false
  | authority | sandbox | continuity => true

/-- What a claim says of itself; it proves nothing. -/
inductive Assurance where
  | declared | enforced
  deriving DecidableEq, Repr

/-- Which direction of a capability narrows a contract. -/
inductive CapabilityPolarity where
  | ability | restriction
  deriving DecidableEq, Repr

structure CapabilityDefinition where
  matcherKind : MatcherKind
  securityClass : SecurityClass
  polarity : CapabilityPolarity
  deriving DecidableEq, Repr

/-- The definitions in force, one for each exact reference. -/
abbrev CapabilityCatalog := SortedMap CapabilityRef CapabilityDefinition

abbrev CapabilityMap := SortedMap CapabilityRef CapabilityValue

/-- Define a capability; an identical definition is accepted, a different one refused. -/
def CapabilityCatalog.define (catalog : CapabilityCatalog) (reference : CapabilityRef)
    (definition : CapabilityDefinition) : Except ContractError CapabilityCatalog :=
  match catalog.lookup reference with
  | some existing =>
    if existing = definition then .ok catalog
    else .error (.capabilityDefinitionConflict reference.id reference.revision)
  | none => .ok (catalog.insert reference definition)

structure CapabilityClaim where
  reference : CapabilityRef
  value : CapabilityValue
  assurance : Assurance
  declarationProvenanceRef : Option String
  deriving DecidableEq

/-! ## Comparisons -/

/-- Whether `provided` satisfies `required`. -/
def valueSatisfies : MatcherKind → CapabilityValue → CapabilityValue → Bool
  | .bool, .bool r, .bool p => !r || p
  | .set, .set r, .set p => r.subset p
  | .ordered, .ordered rc rr, .ordered pc pr => decide (rc = pc) && decide (pr ≥ rr)
  | .quantity, .quantity r, .quantity p => decide (p ≥ r)
  | .exact, r, p => r.same p
  | _, _, _ => false

/-- Whether `value` stays within `ceiling`. -/
def valueWithin : CapabilityValue → CapabilityValue → Bool
  | .bool a, .bool b => !b || a
  | .set a, .set b => b.subset a
  | .ordered ac ar, .ordered bc br => decide (ac = bc) && decide (br ≤ ar)
  | .quantity a, .quantity b => decide (b ≤ a)
  | .exact a, .exact b => a.same b
  | _, _ => false

/-- The stronger of two requirements, or `none` when nothing can satisfy both. -/
def joinRequirementValues : MatcherKind → CapabilityValue → CapabilityValue →
    Option CapabilityValue
  | .bool, .bool x, .bool y => some (.bool (x || y))
  | .set, .set x, .set y => some (.set (x.union y))
  | .ordered, .ordered ac ar, .ordered bc br =>
    if ac = bc then some (.ordered ac (max ar br)) else none
  | .quantity, .quantity x, .quantity y => some (.quantity (if x ≥ y then x else y))
  | .exact, x, y => if x.same y then some x else none
  | _, _, _ => none

theorem valueSatisfies_refl (h : a.matcherKind = m) : valueSatisfies m a a = true := by
  subst h
  cases a <;> simp [valueSatisfies, CapabilityValue.matcherKind]

theorem valueSatisfies_trans {c : CapabilityValue} (h : valueSatisfies m a b = true)
    (h' : valueSatisfies m b c = true) : valueSatisfies m a c = true := by
  cases m with
  | exact => exact CapabilityValue.same_trans h h'
  | bool =>
    cases a <;> cases b <;> cases c <;> simp_all [valueSatisfies]
    grind
  | set =>
    cases a <;> cases b <;> cases c <;> simp_all [valueSatisfies]
  | ordered =>
    cases a <;> cases b <;> simp [valueSatisfies] at h
    cases c <;> simp [valueSatisfies] at h' ⊢
    exact ⟨h.1.trans h'.1, h.2.trans h'.2⟩
  | quantity =>
    cases a <;> cases b <;> simp [valueSatisfies] at h
    cases c <;> simp [valueSatisfies] at h' ⊢
    exact h.trans h'

/-- **The join is the least upper bound**: whatever satisfies it satisfies both requirements, and
    conversely. -/
theorem joinRequirementValues_lub {j p : CapabilityValue}
    (h : joinRequirementValues m a b = some j) :
    valueSatisfies m j p = true ↔ valueSatisfies m a p = true ∧ valueSatisfies m b p = true := by
  cases m with
  | exact =>
    simp only [joinRequirementValues, Option.ite_none_right_eq_some, Option.some.injEq] at h
    obtain ⟨hab, rfl⟩ := h
    constructor
    · intro hp
      exact ⟨hp, CapabilityValue.same_trans (CapabilityValue.same_symm hab) hp⟩
    · exact fun hp => hp.1
  | bool =>
    cases a <;> cases b <;> simp [joinRequirementValues] at h
    subst h
    cases p <;> simp [valueSatisfies]
    grind
  | set =>
    cases a <;> cases b <;> simp [joinRequirementValues] at h
    subst h
    cases p <;> simp [valueSatisfies, or_imp, forall_and]
  | ordered =>
    cases a <;> cases b <;> simp [joinRequirementValues] at h
    obtain ⟨rfl, rfl⟩ := h
    cases p <;> simp [valueSatisfies]
    tauto
  | quantity =>
    cases a <;> cases b <;> simp [joinRequirementValues] at h
    subst h
    cases p <;> simp [valueSatisfies]
    split_ifs with hxy
    · exact ⟨fun hp => ⟨hp, hxy.trans hp⟩, fun hp => hp.1⟩
    · exact ⟨fun hp => ⟨(le_of_not_ge hxy).trans hp, hp⟩, fun hp => hp.2⟩

/-- A join satisfies itself. -/
theorem joinRequirementValues_self {j : CapabilityValue}
    (h : joinRequirementValues m a b = some j) : valueSatisfies m j j = true := by
  cases m with
  | exact => exact CapabilityValue.same_refl j
  | bool =>
    cases a <;> cases b <;> simp [joinRequirementValues] at h
    subst h
    exact Bool.not_or_self _
  | set | quantity =>
    cases a <;> cases b <;> simp [joinRequirementValues] at h
    subst h
    simp [valueSatisfies]
  | ordered =>
    cases a <;> cases b <;> simp [joinRequirementValues] at h
    obtain ⟨-, rfl⟩ := h
    simp [valueSatisfies]

/-- Requirements without a join have no common solution. -/
theorem joinRequirementValues_none (h : joinRequirementValues m a b = none) (p : CapabilityValue) :
    ¬(valueSatisfies m a p = true ∧ valueSatisfies m b p = true) := by
  rintro ⟨ha, hb⟩
  cases m with
  | exact =>
    have hab := CapabilityValue.same_trans ha (CapabilityValue.same_symm hb)
    simp [joinRequirementValues, hab] at h
  | bool => cases a <;> cases b <;> cases p <;> simp_all [joinRequirementValues, valueSatisfies]
  | set => cases a <;> cases b <;> cases p <;> simp_all [joinRequirementValues, valueSatisfies]
  | ordered =>
    cases a <;> cases b <;> cases p <;> simp_all [joinRequirementValues, valueSatisfies]
  | quantity =>
    cases a <;> cases b <;> cases p <;> simp_all [joinRequirementValues, valueSatisfies]

/-- A join exists exactly when one value could satisfy both. -/
theorem joinRequirementValues_isSome {p : CapabilityValue} (ha : valueSatisfies m a p = true)
    (hb : valueSatisfies m b p = true) : (joinRequirementValues m a b).isSome = true := by
  rw [Option.isSome_iff_ne_none]
  exact fun h => joinRequirementValues_none h p ⟨ha, hb⟩

end Agentype.Agent

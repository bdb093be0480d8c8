import Agentype.Agent.Stability

/-!
# `Agentype.Agent.Equality` — how the program compares records

Records are compared by the derived `==`. It is equality of the records in everything but the exact
capability values, whose JSON numbers are compared as numbers: there the two zeros are equal, though
they are printed differently. On *plain* records, which hold no negative zero, `==` is equality.

## Contents
- `CapabilityMap.same`, `CapabilityClaim.same`, `AgentType.same`, `TaskRequirement.same`,
  `SpawnSource.same`, `SourceConfig.same`, each with `same_refl`.
- `Plain` of the records of the catalog, **`eq_of_same`** of each, and that canonicalization keeps records plain.
-/

namespace Agentype.Agent

open Check

variable {catalog : CapabilityCatalog}

/-! ## Lists -/

section Lists

variable {α : Type} {eqv : α → α → Bool}

theorem isEqv_self (h : ∀ a, eqv a a = true) (l : List α) : l.isEqv l eqv = true := by
  induction l with
  | nil => rfl
  | cons a l ih => simp [List.isEqv, h a, ih]

/-- Lists that compare equal are equal where elements that compare equal are. -/
theorem eq_of_isEqv {P : α → Prop} (h : ∀ a b, P a → P b → eqv a b = true → a = b) :
    ∀ {l l' : List α}, (∀ a ∈ l, P a) → (∀ a ∈ l', P a) → l.isEqv l' eqv = true → l = l' := by
  intro l
  induction l with
  | nil =>
    intro l' _ _ heq
    cases l' with
    | nil => rfl
    | cons b l' => simp [List.isEqv] at heq
  | cons a l ih =>
    intro l' hl hl' heq
    cases l' with
    | nil => simp [List.isEqv] at heq
    | cons b l' =>
      simp only [List.isEqv, Bool.and_eq_true] at heq
      obtain ⟨hab, htail⟩ := heq
      rw [h a b (hl a (by simp)) (hl' b (by simp)) hab,
        ih (fun x hx => hl x (by simp [hx])) (fun x hx => hl' x (by simp [hx])) htail]

end Lists

/-! ## Maps and claims -/

def CapabilityMap.same (m n : CapabilityMap) : Bool :=
  m.entries.isEqv n.entries fun x y => decide (x.1 = y.1) && x.2.same y.2

def CapabilityMap.Plain (m : CapabilityMap) : Prop := ∀ x ∈ m.entries, x.2.Plain

theorem CapabilityMap.same_refl (m : CapabilityMap) : CapabilityMap.same m m = true :=
  isEqv_self (by simp) m.entries

theorem CapabilityMap.eq_of_same {m n : CapabilityMap} (hm : CapabilityMap.Plain m)
    (hn : CapabilityMap.Plain n) (h : CapabilityMap.same m n = true) : m = n := by
  have hentries : m.entries = n.entries := by
    refine eq_of_isEqv (P := fun x : CapabilityRef × CapabilityValue => x.2.Plain) ?_ hm hn h
    intro a b ha hb hab
    simp only [Bool.and_eq_true, decide_eq_true_eq] at hab
    exact Prod.ext hab.1 ((CapabilityValue.same_iff_of_plain ha hb).mp hab.2)
  cases m
  cases n
  simpa using hentries

theorem CapabilityMap.Plain.present {m : CapabilityMap} (h : CapabilityMap.Plain m) :
    CapabilityMap.Plain (presentEntries m) :=
  fun x hx => h x (List.mem_of_mem_filter hx)

namespace CapabilityClaim

def same (c d : CapabilityClaim) : Bool :=
  decide (c.reference = d.reference) && c.value.same d.value && decide (c.assurance = d.assurance) &&
    decide (c.declarationProvenanceRef = d.declarationProvenanceRef)

theorem same_refl (c : CapabilityClaim) : c.same c = true := by simp [same]

theorem eq_of_same {c d : CapabilityClaim} (hc : c.value.Plain) (hd : d.value.Plain)
    (h : c.same d = true) : c = d := by
  simp only [same, Bool.and_eq_true, decide_eq_true_eq] at h
  obtain ⟨⟨⟨href, hvalue⟩, hassurance⟩, hprovenance⟩ := h
  have hvalue := (CapabilityValue.same_iff_of_plain hc hd).mp hvalue
  cases c
  cases d
  simp_all

/-- No claim holds a negative zero. -/
def AllPlain (claims : List CapabilityClaim) : Prop := ∀ c ∈ claims, c.value.Plain

end CapabilityClaim

open CapabilityClaim (AllPlain)

theorem claims_eq_of_same {l l' : List CapabilityClaim} (hl : AllPlain l) (hl' : AllPlain l')
    (h : l.isEqv l' CapabilityClaim.same = true) : l = l' :=
  eq_of_isEqv (fun _ _ hc hd hcd => CapabilityClaim.eq_of_same hc hd hcd) hl hl' h

/-! ## Records -/

namespace AgentType

/-- The type without the capabilities it requires. -/
def bare (a : AgentType) : AgentType :=
  { a with contract := { a.contract with requiredCapabilities := .empty } }

def same (a b : AgentType) : Bool :=
  decide (a.bare = b.bare) &&
    CapabilityMap.same a.contract.requiredCapabilities b.contract.requiredCapabilities

def Plain (a : AgentType) : Prop := CapabilityMap.Plain a.contract.requiredCapabilities

theorem same_refl (a : AgentType) : a.same a = true := by simp [same, CapabilityMap.same_refl]

theorem eq_of_same {a b : AgentType} (ha : a.Plain) (hb : b.Plain) (h : a.same b = true) :
    a = b := by
  simp only [same, Bool.and_eq_true, decide_eq_true_eq] at h
  have hmap := CapabilityMap.eq_of_same ha hb h.2
  have hbare := h.1
  obtain ⟨_, _, ⟨⟩⟩ := a
  obtain ⟨_, _, ⟨⟩⟩ := b
  simp_all [bare]

theorem Plain.canonical {raw a : AgentType} (hraw : raw.Plain)
    (h : canonicalizeAgentType raw catalog = .ok a) : a.Plain := by
  simp only [canonicalizeAgentType, bind_ok, pure_ok, canonicalizeCapabilityMap_ok] at h
  obtain ⟨-, -, _, ⟨-, rfl⟩, rfl⟩ := h
  exact CapabilityMap.Plain.present hraw

end AgentType

namespace TaskRequirement

/-- The requirement without the capabilities it demands. -/
def bare (r : TaskRequirement) : TaskRequirement := { r with requiredCapabilities := .empty }

def same (r r' : TaskRequirement) : Bool :=
  decide (r.bare = r'.bare) && CapabilityMap.same r.requiredCapabilities r'.requiredCapabilities

theorem same_refl (r : TaskRequirement) : r.same r = true := by
  simp [same, CapabilityMap.same_refl]

end TaskRequirement

namespace SpawnSource

/-- The source without its capabilities and claims. -/
def bare (s : SpawnSource) : SpawnSource := { s with functionalEnvelope := .empty, claims := [] }

def same (s t : SpawnSource) : Bool :=
  decide (s.bare = t.bare) && CapabilityMap.same s.functionalEnvelope t.functionalEnvelope &&
    s.claims.isEqv t.claims CapabilityClaim.same

def Plain (s : SpawnSource) : Prop := CapabilityMap.Plain s.functionalEnvelope ∧ AllPlain s.claims

theorem same_refl (s : SpawnSource) : s.same s = true := by
  simp [same, CapabilityMap.same_refl, isEqv_self CapabilityClaim.same_refl]

theorem eq_of_same {s t : SpawnSource} (hs : s.Plain) (ht : t.Plain) (h : s.same t = true) :
    s = t := by
  simp only [same, Bool.and_eq_true, decide_eq_true_eq] at h
  obtain ⟨⟨hbare, hmap⟩, hclaims⟩ := h
  have hmap := CapabilityMap.eq_of_same hs.1 ht.1 hmap
  have hclaims := claims_eq_of_same hs.2 ht.2 hclaims
  cases s
  cases t
  simp_all [bare]

theorem Plain.canonical {raw s : SpawnSource} (hraw : raw.Plain)
    (h : canonicalizeSpawnSource raw catalog = .ok s) : s.Plain := by
  simp only [canonicalizeSpawnSource, bind_ok, pure_ok, canonicalizeCapabilityMap_ok] at h
  obtain ⟨-, -, claims, hclaims, _, ⟨-, rfl⟩, rfl⟩ := h
  exact ⟨CapabilityMap.Plain.present hraw.1,
    fun c hc => hraw.2 c ((canonicalizeClaims_ok hclaims).2 c hc)⟩

end SpawnSource

namespace SourceConfig

/-- The configuration without its claims. -/
def bare (c : SourceConfig) : SourceConfig := { c with claims := [] }

def same (c d : SourceConfig) : Bool :=
  decide (c.bare = d.bare) && c.claims.isEqv d.claims CapabilityClaim.same

def Plain (c : SourceConfig) : Prop := AllPlain c.claims

theorem same_refl (c : SourceConfig) : c.same c = true := by
  simp [same, isEqv_self CapabilityClaim.same_refl]

theorem eq_of_same {c d : SourceConfig} (hc : c.Plain) (hd : d.Plain) (h : c.same d = true) :
    c = d := by
  simp only [same, Bool.and_eq_true, decide_eq_true_eq] at h
  have hclaims := claims_eq_of_same hc hd h.2
  have hbare := h.1
  cases c
  cases d
  simp_all [bare]

theorem Plain.canonical {raw c : SourceConfig} {source : SpawnSource} (hraw : raw.Plain)
    (h : canonicalizeSourceConfig raw source catalog = .ok c) : c.Plain := by
  simp only [canonicalizeSourceConfig, bind_ok, pure_ok] at h
  obtain ⟨-, -, claims, hclaims, rfl⟩ := h
  exact fun c hc => hraw c ((canonicalizeClaims_ok hclaims).2 c hc)

end SourceConfig

end Agentype.Agent

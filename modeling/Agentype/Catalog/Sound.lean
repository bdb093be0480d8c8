import Agentype.Agent.Stability
import Agentype.Catalog.Publish

/-!
# `Agentype.Catalog.Sound` — the records a catalog holds

What a catalog *holds*, apart from how it stores it: a record is held when its row is the row
publication writes for it, it is canonical for the capabilities defined by now, it has a disposition
and what it refers to is held too. A catalog is *sound* when every row is the row of a record it
holds.

Holding survives growth, because canonical records stay canonical. A read that returns, returns a
held record, since what it decoded must be encoded as the row again; and it returns when the parser
reads the rows back as they were printed, when they are *legible*. Whatever else is said about the
catalog follows from these facts and from the effect of the operations on the tables.

## Contents
- `Catalog.Grows`, `capabilities`, `capabilities_grows`.
- `definitionRow`, `policyRow`, `agentTypeRow`, `sourceRow`, `configRow`.
- `HoldsPolicy`, `HoldsAgentType`, `HoldsSource`, `HoldsConfig`, each with `grows`.
- `Sound`, `Legible`, `loadCapabilityCatalog_ok`, **`getAgentType_ok`**.
- `getAdapterBindingPolicy_holds`, `getAgentType_holds` and their siblings.
-/

namespace Agentype.Agent

open Check

variable {x : SourceConfigRevision}

/-! ## Growth -/

def AgentTypeStatus.rank : AgentTypeStatus → Nat
  | published => 0
  | deprecated => 1

/-- A disposition moves forward. -/
def AgentTypeStatus.Before (s s' : AgentTypeStatus) : Prop := s.rank ≤ s'.rank
def SourceStatus.Before (s s' : SourceStatus) : Prop := s.rank ≤ s'.rank
def ConfigStatus.Before (s s' : ConfigStatus) : Prop := s.rank ≤ s'.rank

namespace Catalog

variable {T D : Type} {F : DocFormat T D} {c c' c'' : Catalog T D}

/-- `c'` comes after `c`: content is kept and dispositions have moved forward. -/
structure Grows (c c' : Catalog T D) : Prop where
  definitions : ∀ r row, c.definitions.lookup r = some row → c'.definitions.lookup r = some row
  policies : c.policies.Grows ConfigStatus.Before c'.policies
  agentTypes : c.agentTypes.Grows AgentTypeStatus.Before c'.agentTypes
  sources : c.sources.Grows SourceStatus.Before c'.sources
  configs : c.configs.Grows ConfigStatus.Before c'.configs

theorem Grows.refl (c : Catalog T D) : c.Grows c where
  definitions _ _ h := h
  policies := .refl (fun s => Nat.le_refl s.rank) _
  agentTypes := .refl (fun s => Nat.le_refl s.rank) _
  sources := .refl (fun s => Nat.le_refl s.rank) _
  configs := .refl (fun s => Nat.le_refl s.rank) _

theorem Grows.trans (h : c.Grows c') (h' : c'.Grows c'') : c.Grows c'' where
  definitions r row hr := h'.definitions r row (h.definitions r row hr)
  policies := h.policies.trans Nat.le_trans h'.policies
  agentTypes := h.agentTypes.trans Nat.le_trans h'.agentTypes
  sources := h.sources.trans Nat.le_trans h'.sources
  configs := h.configs.trans Nat.le_trans h'.configs

/-- The capabilities defined by now. -/
def capabilities (c : Catalog T D) : CapabilityCatalog :=
  c.definitions.mapValues DefinitionRow.definition

theorem capabilities_grows (h : c.Grows c') : c.capabilities.Grows c'.capabilities := by
  intro r d hd
  rw [capabilities, SortedMap.lookup_mapValues, Option.map_eq_some_iff] at hd ⊢
  obtain ⟨row, hrow, rfl⟩ := hd
  exact ⟨row, h.definitions r row hrow, rfl⟩

/-! ## Rows -/

section Rows

variable (F)

def definitionRow (r : CapabilityRef) (d : CapabilityDefinition) : DefinitionRow T D :=
  let json := toBytes F (canonicalCapabilityDefinitionDocument r d)
  ⟨d, json, contentDigest F json⟩

def policyRow (p : AdapterBindingPolicy) : PolicyRow T D :=
  let json := toBytes F (canonicalAdapterBindingPolicyDocument p)
  ⟨p.adapterKind, p.bindingRef, json, contentDigest F json⟩

def agentTypeRow (a : AgentType) : AgentTypeRow T D :=
  let json := toBytes F (canonicalAgentTypeDocument a)
  ⟨a.basedOn, json, contentDigest F json⟩

def sourceRow (s : SpawnSource) : SourceRow T D :=
  let json := toBytes F (canonicalSpawnSourceDocument s)
  ⟨s.adapterPolicy, json, contentDigest F json⟩

def configRow (x : SourceConfigRevision) : ConfigRow T D :=
  let json := toBytes F (canonicalSourceConfigDocument x.config x.locator)
  ⟨x.mode, x.payload.map (toBytes F), x.locator, x.config.configDigest.text, json,
    contentDigest F json⟩

end Rows

/-! ## Held records -/

/-- A revision the store can bind. -/
def Fits (revision : U64) : Prop := revision.val < 2 ^ 63

structure HoldsPolicy (F : DocFormat T D) (c : Catalog T D) (p : AdapterBindingPolicy) : Prop where
  row : c.policies.rows.lookup p.policyRef = some (policyRow F p)
  valid : p.validate = .ok ()
  fits : Fits p.policyRef.revision
  status : ∃ s, c.policies.overlay.lookup p.policyRef = some s

/-- What is decoded from the row of `a` canonicalizes to `a`. -/
def Decodes (F : DocFormat T D) (c : Catalog T D) (a : AgentType) : Prop :=
  ∃ stored, agentTypeFromCanonicalJson F (agentTypeRow F a).contentJson = .ok stored ∧
    canonicalizeAgentType stored c.capabilities = .ok a

theorem Decodes.grows {a : AgentType} (h : Decodes F c a) (hg : c.Grows c') : Decodes F c' a := by
  obtain ⟨stored, hstored, hcanonical⟩ := h
  exact ⟨stored, hstored, canonicalizeAgentType_grows hcanonical (capabilities_grows hg)⟩

/-- The base of a type was read when the type was published. -/
structure HoldsAgentType (F : DocFormat T D) (c : Catalog T D) (a : AgentType) : Prop where
  row : c.agentTypes.rows.lookup a.typeRef = some (agentTypeRow F a)
  canonical : canonicalizeAgentType a c.capabilities = .ok a
  fits : Fits a.typeRef.revision
  status : ∃ s, c.agentTypes.overlay.lookup a.typeRef = some s
  base : ∀ b, a.basedOn = some b → ∃ base, base.typeRef = b ∧
    c.agentTypes.rows.lookup b = some (agentTypeRow F base) ∧ Decodes F c base ∧
    isValidRefinement base a c.capabilities = .ok ()

structure HoldsSource (F : DocFormat T D) (c : Catalog T D) (s : SpawnSource) : Prop where
  row : c.sources.rows.lookup s.sourceRef = some (sourceRow F s)
  canonical : canonicalizeSpawnSource s c.capabilities = .ok s
  fits : Fits s.sourceRef.revision
  status : ∃ st, c.sources.overlay.lookup s.sourceRef = some st
  policy : ∃ p, HoldsPolicy F c p ∧ p.policyRef = s.adapterPolicy

structure HoldsConfig (F : DocFormat T D) (c : Catalog T D) (x : SourceConfigRevision) :
    Prop where
  row : c.configs.rows.lookup x.config.configRef = some (configRow F x)
  fits : Fits x.config.configRef.revision
  status : ∃ s, c.configs.overlay.lookup x.config.configRef = some s
  digest : requireCanonicalDigest x.config.configDigest "source config" = .ok ()
  body : ∃ body, checkBody F x.config body = .ok () ∧ x.mode = body.mode ∧
    x.payload = body.payload ∧ x.locator = body.locator
  source : ∃ s, HoldsSource F c s ∧ s.sourceRef = x.config.configRef.source ∧
    canonicalizeSourceConfig x.config s c.capabilities = .ok x.config

theorem HoldsPolicy.grows {p : AdapterBindingPolicy} (h : HoldsPolicy F c p) (hg : c.Grows c') :
    HoldsPolicy F c' p where
  row := hg.policies.rows _ _ h.row
  valid := h.valid
  fits := h.fits
  status := by
    obtain ⟨s, hs⟩ := h.status
    obtain ⟨s', hs', -⟩ := hg.policies.overlay _ s hs
    exact ⟨s', hs'⟩

theorem HoldsAgentType.grows {a : AgentType} (h : HoldsAgentType F c a) (hg : c.Grows c') :
    HoldsAgentType F c' a where
  row := hg.agentTypes.rows _ _ h.row
  canonical := canonicalizeAgentType_stable h.canonical (capabilities_grows hg)
  fits := h.fits
  status := by
    obtain ⟨s, hs⟩ := h.status
    obtain ⟨s', hs', -⟩ := hg.agentTypes.overlay _ s hs
    exact ⟨s', hs'⟩
  base b hb := by
    obtain ⟨base, hbase, hrow, hdecodes, hvalid⟩ := h.base b hb
    exact ⟨base, hbase, hg.agentTypes.rows _ _ hrow, hdecodes.grows hg,
      isValidRefinement_grows hvalid (capabilities_grows hg)⟩

theorem HoldsSource.grows {s : SpawnSource} (h : HoldsSource F c s) (hg : c.Grows c') :
    HoldsSource F c' s where
  row := hg.sources.rows _ _ h.row
  canonical := canonicalizeSpawnSource_stable h.canonical (capabilities_grows hg) s.status
  fits := h.fits
  status := by
    obtain ⟨st, hst⟩ := h.status
    obtain ⟨st', hst', -⟩ := hg.sources.overlay _ st hst
    exact ⟨st', hst'⟩
  policy := by
    obtain ⟨p, hp, hpr⟩ := h.policy
    exact ⟨p, hp.grows hg, hpr⟩

theorem HoldsConfig.grows (h : HoldsConfig F c x) (hg : c.Grows c') : HoldsConfig F c' x where
  row := hg.configs.rows _ _ h.row
  fits := h.fits
  status := by
    obtain ⟨s, hs⟩ := h.status
    obtain ⟨s', hs', -⟩ := hg.configs.overlay _ s hs
    exact ⟨s', hs'⟩
  digest := h.digest
  body := h.body
  source := by
    obtain ⟨s, hs, href, hcanonical⟩ := h.source
    exact ⟨s, hs.grows hg, href, canonicalizeSourceConfig_stable hcanonical (capabilities_grows hg)
      x.config.status s.status⟩

/-! ## Soundness -/

/-- Every row is the row of a held record. -/
structure Sound (F : DocFormat T D) (c : Catalog T D) : Prop where
  definitions : ∀ r row, c.definitions.lookup r = some row →
    row = definitionRow F r row.definition ∧ Fits r.revision
  policies : ∀ r row, c.policies.rows.lookup r = some row →
    ∃ p, p.policyRef = r ∧ HoldsPolicy F c p
  agentTypes : ∀ r row, c.agentTypes.rows.lookup r = some row →
    ∃ a, a.typeRef = r ∧ HoldsAgentType F c a
  sources : ∀ r row, c.sources.rows.lookup r = some row →
    ∃ s, s.sourceRef = r ∧ HoldsSource F c s
  configs : ∀ r row, c.configs.rows.lookup r = some row →
    ∃ x, x.config.configRef = r ∧ HoldsConfig F c x

theorem sound_empty : Sound F (Catalog.empty : Catalog T D) := by
  constructor <;> intro r row h <;> cases h

/-- The parser reads every row back as it was printed. -/
structure Legible (F : DocFormat T D) (c : Catalog T D) : Prop where
  definitions : ∀ r row, c.definitions.lookup r = some row → F.Legible row.contentJson
  policies : ∀ r row, c.policies.rows.lookup r = some row → F.Legible row.contentJson
  agentTypes : ∀ r row, c.agentTypes.rows.lookup r = some row → F.Legible row.contentJson
  sources : ∀ r row, c.sources.rows.lookup r = some row → F.Legible row.contentJson
  configs : ∀ r row, c.configs.rows.lookup r = some row → F.Legible row.contentJson ∧
    ∀ json ∈ row.payloadJson, F.Legible json

theorem verbatim_legible (c : Catalog Value Value) : c.Legible .verbatim where
  definitions _ _ _ := DocFormat.verbatim_legible _
  policies _ _ _ := DocFormat.verbatim_legible _
  agentTypes _ _ _ := DocFormat.verbatim_legible _
  sources _ _ _ := DocFormat.verbatim_legible _
  configs _ _ _ := ⟨DocFormat.verbatim_legible _, fun _ _ => DocFormat.verbatim_legible _⟩

/-- A key with its row holds one type. -/
theorem HoldsAgentType.of_row (hs : Sound F c) {a : AgentType}
    (h : c.agentTypes.rows.lookup a.typeRef = some (agentTypeRow F a)) : HoldsAgentType F c a := by
  obtain ⟨a', href, hholds⟩ := hs.agentTypes _ _ h
  have hrow := hholds.row
  rw [href, h] at hrow
  have hbytes := congrArg AgentTypeRow.contentJson (Option.some.inj hrow)
  rwa [agentTypeDocument_injective (F.print_injective hbytes)]

/-! ## Reads of held records -/

@[simp] theorem liftContract_ok {α : Type} {x : Except ContractError α} {a : α} :
    liftContract x = .ok a ↔ x = .ok a := mapError_ok

theorem bindRevision_ok {revision : U64} {u : Unit} :
    bindRevision revision = .ok u ↔ Fits revision := by
  simp [bindRevision, Fits]

theorem Fits.bind {revision : U64} (h : Fits revision) : bindRevision revision = .ok () :=
  bindRevision_ok.mpr h

theorem find_of_row {K R S : Type} [LinearOrder K] {v : Revisions K R S} {k : K} {r : R} {s : S}
    (hr : v.rows.lookup k = some r) (hs : v.overlay.lookup k = some s) :
    v.find k = some (r, some s) := by
  rw [Revisions.find, hr, hs, Option.map_some]

/-- The body columns that publication writes are read back. -/
theorem readConfigBody_row {body : SourceConfigBody} (hcheck : checkBody F x.config body = .ok ())
    (hmode : x.mode = body.mode) (hpayload : x.payload = body.payload)
    (hlocator : x.locator = body.locator) {config : SourceConfig}
    (hdigest : config.configDigest = x.config.configDigest)
    (hl : ∀ json ∈ (configRow F x).payloadJson, F.Legible json) :
    readConfigBody F (configRow F x) config x.locator = .ok x.payload := by
  cases body with
  | opaqueJson payload =>
    simp only [SourceConfigBody.mode, SourceConfigBody.payload, SourceConfigBody.locator] at *
    simp only [checkBody, ensure_ok, decide_eq_true_eq] at hcheck
    have hparse : F.parse (F.print payload) = .ok payload :=
      hl _ (by simp [configRow, hpayload, toBytes]) payload rfl
    simp [readConfigBody, configRow, hmode, hlocator, hpayload, crossCheck, toBytes, hparse,
      hdigest, hcheck]
  | externalRef locator =>
    simp only [SourceConfigBody.mode, SourceConfigBody.payload, SourceConfigBody.locator] at *
    simp [readConfigBody, configRow, hmode, hlocator, hpayload, crossCheck]

/-- A locator that was published is not blank. -/
theorem checkBody_locator {config : SourceConfig} {body : SourceConfigBody}
    (h : checkBody F config body = .ok ()) : body.locator.any isBlank = false := by
  cases body with
  | opaqueJson => rfl
  | externalRef => simpa [checkBody, SourceConfigBody.locator] using h

section Reads

variable [DecidableEq T] [DecidableEq D]

/-- The definitions are loaded if each row is read, and then they are the rows' own. -/
theorem foldlM_readDefinition {l : List (CapabilityRef × DefinitionRow T D)}
    {m m' : CapabilityCatalog} (hsorted : l.Pairwise fun x y => x.1 < y.1)
    (hnew : ∀ x ∈ l, m.lookup x.1 = none) :
    (l.foldlM (fun catalog x => do
      let definition ← readDefinition F x.1 x.2
      liftContract (CapabilityCatalog.define catalog x.1 definition)) m : Except Error _) = .ok m' ↔
      (∀ x ∈ l, readDefinition F x.1 x.2 = .ok x.2.definition) ∧
        m' = (l.map fun x => (x.1, x.2.definition)).foldl (fun m x => m.insert x.1 x.2) m := by
  induction l generalizing m with
  | nil => simp [List.foldlM_nil, @eq_comm _ m']
  | cons x l ih =>
    rw [List.pairwise_cons] at hsorted
    have hread : ∀ d, readDefinition F x.1 x.2 = .ok d → d = x.2.definition := by
      intro d hd
      simp only [readDefinition, bind_ok, pure_ok, crossCheck, ensure_ok, decide_eq_true_eq] at hd
      obtain ⟨_, -, _, -, _, -, _, hmirror, _, -, rfl⟩ := hd
      exact hmirror.symm
    have hdefine : CapabilityCatalog.define m x.1 x.2.definition =
        .ok (m.insert x.1 x.2.definition) := by
      simp [CapabilityCatalog.define, hnew x List.mem_cons_self]
    have hnew' : ∀ y ∈ l, (m.insert x.1 x.2.definition).lookup y.1 = none := fun y hy => by
      rw [SortedMap.lookup_insert, if_neg (hsorted.1 y hy).ne', hnew y (List.mem_cons_of_mem _ hy)]
    simp only [List.foldlM_cons, bind_ok, liftContract_ok, List.forall_mem_cons, List.map_cons,
      List.foldl_cons, and_assoc, ← ih hsorted.2 hnew']
    constructor
    · rintro ⟨m₁, ⟨d, hd, hm₁⟩, h⟩
      obtain rfl := hread d hd
      cases hdefine.symm.trans hm₁
      exact ⟨hd, h⟩
    · rintro ⟨hd, h⟩
      exact ⟨_, ⟨_, hd, hdefine⟩, h⟩

theorem loadCapabilityCatalog_ok {catalog : CapabilityCatalog} :
    c.loadCapabilityCatalog F = .ok catalog ↔
      (∀ x ∈ c.definitions.entries, readDefinition F x.1 x.2 = .ok x.2.definition) ∧
        catalog = c.capabilities := by
  rw [loadCapabilityCatalog, foldlM_readDefinition c.definitions.sorted (by simp)]
  exact and_congr_right fun _ => Eq.congr_right (SortedMap.ofList_entries c.capabilities)

theorem readDefinition_row {r : CapabilityRef} {d : CapabilityDefinition}
    (hl : F.Legible (definitionRow F r d).contentJson) :
    readDefinition F r (definitionRow F r d) = .ok d := by
  simp [readDefinition, definitionRow, verifyContentDigest, verifyReencoded, crossCheck,
    capabilityDefinitionFromCanonicalJson_canonical hl, liftContract]

theorem loadCapabilityCatalog_legible (hs : Sound F c) (hl : Legible F c) :
    c.loadCapabilityCatalog F = .ok c.capabilities := by
  refine loadCapabilityCatalog_ok.mpr ⟨fun x hx => ?_, rfl⟩
  have hrow := SortedMap.mem_entries.mp hx
  have heq := (hs.definitions x.1 x.2 hrow).1
  rw [heq]
  exact readDefinition_row (heq ▸ hl.definitions x.1 x.2 hrow)

/-- A held policy is read back, under its current disposition. -/
theorem getAdapterBindingPolicy_holds (hl : Legible F c) {p : AdapterBindingPolicy}
    (h : HoldsPolicy F c p) : ∃ s, c.policies.overlay.lookup p.policyRef = some s ∧
      c.getAdapterBindingPolicy F p.policyRef = .ok (some { p with status := s }) := by
  obtain ⟨s, hs⟩ := h.status
  refine ⟨s, hs, ?_⟩
  have hdoc : canonicalAdapterBindingPolicyDocument { p with status := s } =
      canonicalAdapterBindingPolicyDocument p := rfl
  have hdecode := adapterBindingPolicyFromCanonicalJson_canonical s h.valid (hl.policies _ _ h.row)
  rw [getAdapterBindingPolicy, h.fits.bind, ok_bind, find_of_row h.row hs]
  simp [policyRow, verifyContentDigest, liftContract, hdecode, crossCheck, verifyReencoded, hdoc]

/-- **The reads of a type**: what a read returns is held, and was decoded from its own row. -/
theorem getAgentType_ok (hs : Sound F c) {r : AgentTypeRef} {a : AgentType} {s : AgentTypeStatus} :
    c.getAgentType F r = .ok (some (a, s)) ↔
      (a.typeRef = r ∧ HoldsAgentType F c a ∧ c.agentTypes.overlay.lookup r = some s) ∧
        Decodes F c a ∧ c.loadCapabilityCatalog F = .ok c.capabilities := by
  constructor
  · intro h
    simp only [getAgentType, bind_ok, bindRevision_ok] at h
    obtain ⟨_, -, h⟩ := h
    split at h
    · simp at h
    next row status hfind =>
    simp only [bind_ok, present_ok, liftContract_ok, crossCheck, verifyReencoded, ensure_ok,
      decide_eq_true_eq, pure_ok, Option.some.injEq, Prod.mk.injEq] at h
    obtain ⟨_, hstatus, _, -, stored, hstored, _, hmirror, _, -, catalog, hload, _, hcanonical, _,
      hbytes, rfl, rfl⟩ := h
    obtain ⟨row', hrow, hpair⟩ := Option.map_eq_some_iff.mp hfind
    obtain ⟨rfl, hoverlay⟩ := Prod.mk.inj hpair
    obtain ⟨a', rfl, hholds⟩ := hs.agentTypes _ _ hrow
    rw [hholds.row, Option.some.injEq] at hrow
    subst hrow
    -- the type read is encoded as the row, so it is the type the row was written for
    obtain rfl := agentTypeDocument_injective (F.print_injective hbytes)
    obtain rfl := (loadCapabilityCatalog_ok.mp hload).2
    exact ⟨⟨rfl, hholds, hoverlay.trans hstatus⟩, ⟨stored, hstored, hcanonical⟩, hload⟩
  · rintro ⟨⟨rfl, hholds, hstatus⟩, ⟨stored, hstored, hcanonical⟩, hload⟩
    obtain ⟨-, -, -, href, hbase⟩ := canonicalizeAgentType_ok hcanonical
    rw [getAgentType, hholds.fits.bind, ok_bind, find_of_row hholds.row hstatus]
    simp only [present_some, ok_bind, hstored, liftContract, mapError_of_ok, hload, hcanonical]
    simp [agentTypeRow, verifyContentDigest, crossCheck, verifyReencoded, href, hbase]

/-- A held type is read back. -/
theorem getAgentType_holds (hs : Sound F c) (hl : Legible F c) {a : AgentType}
    (h : HoldsAgentType F c a) : ∃ s, c.getAgentType F a.typeRef = .ok (some (a, s)) := by
  obtain ⟨s, hst⟩ := h.status
  have hdecode := agentTypeFromCanonicalJson_canonical (hl.agentTypes _ _ h.row)
  exact ⟨s, (getAgentType_ok hs).mpr
    ⟨⟨rfl, h, hst⟩, ⟨a, hdecode, h.canonical⟩, loadCapabilityCatalog_legible hs hl⟩⟩

/-- A held source is read back, under its current disposition. -/
theorem loadSpawnSource_holds (hs : Sound F c) (hl : Legible F c) {s : SpawnSource}
    (h : HoldsSource F c s) : ∃ st, c.sources.overlay.lookup s.sourceRef = some st ∧
      c.loadSpawnSource F s.sourceRef = .ok (some { s with status := st }) := by
  obtain ⟨st, hst⟩ := h.status
  refine ⟨st, hst, ?_⟩
  have hcanonical := canonicalizeSpawnSource_stable h.canonical (.refl _) st
  have hdoc : canonicalSpawnSourceDocument { s with status := st } =
      canonicalSpawnSourceDocument s := rfl
  have hdecode := spawnSourceFromCanonicalJson_canonical st (hl.sources _ _ h.row)
  rw [loadSpawnSource, h.fits.bind, ok_bind, find_of_row h.row hst]
  simp [sourceRow, verifyContentDigest, liftContract, hdecode, crossCheck, verifyReencoded,
    loadCapabilityCatalog_legible hs hl, hcanonical, hdoc]

/-- A held configuration is read back, under its current disposition. -/
theorem loadSourceConfigRevision_holds (hs : Sound F c) (hl : Legible F c)
    (h : HoldsConfig F c x) : ∃ s, c.configs.overlay.lookup x.config.configRef = some s ∧
      c.loadSourceConfigRevision F x.config.configRef =
        .ok (some { x with config := { x.config with status := s } }) := by
  obtain ⟨s, hst⟩ := h.status
  refine ⟨s, hst, ?_⟩
  obtain ⟨source, hsource, href, hcanonical⟩ := h.source
  obtain ⟨sourceStatus, -, hload⟩ := loadSpawnSource_holds hs hl hsource
  have hcanonical' := canonicalizeSourceConfig_stable hcanonical (.refl _) s sourceStatus
  rw [href] at hload hcanonical'
  obtain ⟨body, hcheck, hmode, hpayload, hlocator⟩ := h.body
  obtain ⟨hcontent, hbody⟩ := hl.configs _ _ h.row
  have hread := readConfigBody_row hcheck hmode hpayload hlocator
    (show ({ x.config with status := s } : SourceConfig).configDigest = _ from rfl) hbody
  have hfits : Fits x.config.configRef.source.revision := href ▸ hsource.fits
  rw [loadSourceConfigRevision, hfits.bind, ok_bind,
    h.fits.bind, ok_bind, find_of_row h.row hst]
  have hdecode := sourceConfigRevisionFromCanonicalJson_canonical
    (hlocator ▸ checkBody_locator hcheck) s hcontent
  have hdoc : canonicalSourceConfigDocument { x.config with status := s } x.locator =
      canonicalSourceConfigDocument x.config x.locator := rfl
  simp only [present_some, ok_bind, configRow] at hread ⊢
  simp [verifyContentDigest, liftContract, hdecode, crossCheck, verifyReencoded,
    loadCapabilityCatalog_legible hs hl, hcanonical', h.digest, hload, hdoc, hread]

end Reads

end Catalog

end Agentype.Agent

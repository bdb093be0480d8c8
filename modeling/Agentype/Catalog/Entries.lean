import Agentype.Agent.Documents
import Agentype.Agent.Equality
import Agentype.Catalog.History

/-!
# `Agentype.Catalog.Entries` — the five kinds of catalog content, uniformly

An entry is the content of one revision of any kind, as a read returns it. An offer canonicalizes to
an entry, and a catalog holds entries: a held entry is what the read of its key returns, its digest
is the stored one, and it is the only entry held under its key.

## Contents
- `CatalogKey`, `Entry`, `Offer.canonical`, `Catalog.read`, `Catalog.Holds`.
- `Entry.sameContent_of_digest`: with a collision-free digest, equal digests mean equal content.
- `Entry.same`, the program's `==`, and `Plain`, where it determines the document.
- `canonical_entry`: what an offer canonicalizes to.
- `Holds.grows`, `read_holds`, `Holds.stored`, `Sound.holds_of_stored`, `Holds.unique`.
-/

namespace Agentype.Agent

open Check

variable {e e' : Entry}

inductive CatalogKey where
  | capabilityDefinition (reference : CapabilityRef)
  | adapterBindingPolicy (reference : AdapterPolicyRef)
  | agentType (reference : AgentTypeRef)
  | spawnSource (reference : SpawnSourceRef)
  | sourceConfig (reference : SourceConfigRef)
  deriving DecidableEq

/-- The content of one revision. -/
inductive Entry where
  | capabilityDefinition (reference : CapabilityRef) (definition : CapabilityDefinition)
  | adapterBindingPolicy (policy : AdapterBindingPolicy)
  | agentType (agent : AgentType)
  | spawnSource (source : SpawnSource)
  | sourceConfig (revision : SourceConfigRevision)
  deriving DecidableEq

namespace Entry

def key : Entry → CatalogKey
  | capabilityDefinition r _ => .capabilityDefinition r
  | adapterBindingPolicy p => .adapterBindingPolicy p.policyRef
  | agentType a => .agentType a.typeRef
  | spawnSource s => .spawnSource s.sourceRef
  | sourceConfig x => .sourceConfig x.config.configRef

/-- The durable record of an entry; an opaque body is only in it by its digest. -/
def record : Entry → DurableRecord
  | capabilityDefinition r d => .capabilityDefinition r d
  | adapterBindingPolicy p => .adapterBindingPolicy p
  | agentType a => .agentType a
  | spawnSource s => .spawnSource s
  | sourceConfig x => .sourceConfig x.config x.locator

/-- The entry under another disposition. -/
def withDisposition (source : SourceStatus) (config : ConfigStatus) : Entry → Entry
  | adapterBindingPolicy p => .adapterBindingPolicy { p with status := config }
  | spawnSource s => .spawnSource { s with status := source }
  | sourceConfig x => .sourceConfig { x with config := { x.config with status := config } }
  | e => e

/-- Two entries that are equal up to their disposition. -/
def SameContent (e e' : Entry) : Prop :=
  ∀ source config, e.withDisposition source config = e'.withDisposition source config

theorem SameContent.symm (h : e.SameContent e') : e'.SameContent e :=
  fun source config => (h source config).symm

theorem SameContent.trans {e'' : Entry} (h : e.SameContent e') (h' : e'.SameContent e'') :
    e.SameContent e'' :=
  fun source config => (h source config).trans (h' source config)

/-- `==` of optional payloads. -/
def payloadSame : Option Value → Option Value → Bool
  | some v, some w => v.same w
  | none, none => true
  | _, _ => false

theorem payloadSame_refl (v : Option Value) : payloadSame v v = true := by
  cases v <;> simp [payloadSame]

/-- `==` of entries under the same disposition. -/
def eqv : Entry → Entry → Bool
  | capabilityDefinition r d, capabilityDefinition r' d' => decide (r = r') && decide (d = d')
  | adapterBindingPolicy p, adapterBindingPolicy p' => decide (p = p')
  | agentType a, agentType a' => a.same a'
  | spawnSource s, spawnSource s' => s.same s'
  | sourceConfig x, sourceConfig x' =>
    x.config.same x'.config && decide (x.mode = x'.mode) && decide (x.locator = x'.locator) &&
      payloadSame x.payload x'.payload
  | _, _ => false

theorem eqv_refl (e : Entry) : e.eqv e = true := by
  cases e <;>
    simp [eqv, AgentType.same_refl, SpawnSource.same_refl, SourceConfig.same_refl, payloadSame_refl]

/-- The entries compare equal as records, dispositions aside. -/
def same (e e' : Entry) : Bool :=
  (e.withDisposition .active .active).eqv (e'.withDisposition .active .active)

theorem same_of_sameContent (h : e.SameContent e') : e.same e' = true := by
  rw [same, h .active .active]
  exact eqv_refl _

/-- No exact capability value of the entry holds a negative zero. -/
def Plain : Entry → Prop
  | capabilityDefinition _ _ => True
  | adapterBindingPolicy _ => True
  | agentType a => a.Plain
  | spawnSource s => s.Plain
  | sourceConfig x => x.config.Plain

/-- Plain entries that compare equal have the same document. -/
theorem document_eq_of_same (he : e.Plain) (he' : e'.Plain) (h : e.same e' = true) :
    e.record.document = e'.record.document := by
  cases e <;> cases e' <;>
    simp only [same, withDisposition, eqv, Bool.and_eq_true, decide_eq_true_eq,
      Bool.false_eq_true] at h
  case capabilityDefinition.capabilityDefinition => rw [h.1, h.2]
  case adapterBindingPolicy.adapterBindingPolicy =>
    exact (congrArg canonicalAdapterBindingPolicyDocument h :)
  case agentType.agentType => rw [AgentType.eq_of_same he he' h]
  -- the disposition is not part of a document
  case spawnSource.spawnSource s s' =>
    have heq := SpawnSource.eq_of_same (s := { s with status := .active })
      (t := { s' with status := .active }) he he' h
    exact (congrArg canonicalSpawnSourceDocument heq :)
  case sourceConfig.sourceConfig x x' =>
    have heq := SourceConfig.eq_of_same (c := { x.config with status := .active })
      (d := { x'.config with status := .active }) he he' h.1.1.1
    show canonicalSourceConfigDocument { x.config with status := .active } x.locator =
      canonicalSourceConfigDocument { x'.config with status := .active } x'.locator
    rw [heq, h.1.2]

end Entry

/-- No exact capability value of the offer holds a negative zero. -/
def Offer.Plain : Offer → Prop
  | .capabilityDefinition _ _ => True
  | .adapterBindingPolicy _ => True
  | .agentType a => a.Plain
  | .spawnSource s => s.Plain
  | .sourceConfig config _ => config.Plain

def Offer.key : Offer → CatalogKey
  | .capabilityDefinition r _ => .capabilityDefinition r
  | .adapterBindingPolicy p => .adapterBindingPolicy p.policyRef
  | .agentType a => .agentType a.typeRef
  | .spawnSource s => .spawnSource s.sourceRef
  | .sourceConfig config _ => .sourceConfig config.configRef

section Formats

variable {T D : Type} (F : DocFormat T D)

namespace Entry

def digest (e : Entry) : D := e.record.digest F

/-- What publication checks of an entry by itself: the record is canonical, and the body of a
    configuration fits the declared digest. -/
def Checked (e : Entry) : Prop :=
  e.record.Canonical ∧
    match e with
    | sourceConfig x => ∃ body, Catalog.checkBody F x.config body = .ok () ∧ x.mode = body.mode ∧
        x.payload = body.payload ∧ x.locator = body.locator
    | _ => True

variable {F}

/-- The body of a checked configuration is determined by the declared digest and the locator. -/
theorem body_eq (hfree : F.CollisionFree) (hspelled : F.Spelled) {config config' : SourceConfig}
    {body body' : SourceConfigBody} (h : Catalog.checkBody F config body = .ok ())
    (h' : Catalog.checkBody F config' body' = .ok ())
    (hdigest : config.configDigest = config'.configDigest)
    (hlocator : body.locator = body'.locator) : body = body' := by
  cases body with
  | opaqueJson payload =>
    cases body' with
    | opaqueJson payload' =>
      simp only [Catalog.checkBody, ensure_ok, decide_eq_true_eq] at h h'
      rw [hdigest, h'] at h
      -- equal digest texts are equal digests, of equal bytes, of equal payloads
      exact congrArg _ (F.print_injective (hfree (hspelled h))).symm
    | externalRef locator' => cases hlocator
  | externalRef locator =>
    cases body' with
    | opaqueJson payload' => cases hlocator
    | externalRef locator' => exact congrArg _ (Option.some.inj hlocator)

/-- **Checked entries with the same digest have the same content.** -/
theorem sameContent_of_digest (hfree : F.CollisionFree) (hspelled : F.Spelled) (he : e.Checked F)
    (he' : e'.Checked F) (h : e.digest F = e'.digest F) : e.SameContent e' := by
  obtain ⟨hkind, hsame⟩ := DurableRecord.sameContent_of_document he.1 he'.1 (F.print_injective (hfree h))
  intro source config
  have hrecord := hsame source config
  cases e <;> cases e' <;> cases hkind
  case sourceConfig.sourceConfig x x' =>
    obtain ⟨body, hbody, hmode, hpayload, hlocator⟩ := he.2
    obtain ⟨body', hbody', hmode', hpayload', hlocator'⟩ := he'.2
    simp only [record, DurableRecord.withDisposition, DurableRecord.sourceConfig.injEq] at hrecord
    obtain ⟨hconfig, hloc⟩ := hrecord
    have hdigest : x.config.configDigest = x'.config.configDigest :=
      (congrArg SourceConfig.configDigest hconfig :)
    obtain rfl := body_eq hfree hspelled hbody hbody' hdigest (by rw [← hlocator, hloc, hlocator'])
    simp [withDisposition, hconfig, hmode, hmode', hpayload, hpayload', hlocator, hlocator']
  all_goals
    simpa [record, withDisposition, DurableRecord.withDisposition] using hrecord

end Entry

namespace Catalog

/-- The catalog holds an entry. -/
def Holds (c : Catalog T D) : Entry → Prop
  | .capabilityDefinition r d => c.definitions.lookup r = some (definitionRow F r d) ∧ Fits r.revision
  | .adapterBindingPolicy p => HoldsPolicy F c p
  | .agentType a => HoldsAgentType F c a
  | .spawnSource s => HoldsSource F c s
  | .sourceConfig x => HoldsConfig F c x

variable {F} {c c' : Catalog T D}

theorem Holds.grows (h : c.Holds F e) (hg : c.Grows c') : c'.Holds F e := by
  cases e with
  | capabilityDefinition r d => exact ⟨hg.definitions r _ h.1, h.2⟩
  | adapterBindingPolicy p => exact HoldsPolicy.grows h hg
  | agentType a => exact HoldsAgentType.grows h hg
  | spawnSource s => exact HoldsSource.grows h hg
  | sourceConfig x => exact HoldsConfig.grows h hg

/-! ## Content and digests -/

/-- The digest stored for a key. -/
def storedDigest (c : Catalog T D) : CatalogKey → Option D
  | .capabilityDefinition r => (c.definitions.lookup r).map (·.contentDigest)
  | .adapterBindingPolicy r => (c.policies.rows.lookup r).map (·.contentDigest)
  | .agentType r => (c.agentTypes.rows.lookup r).map (·.contentDigest)
  | .spawnSource r => (c.sources.rows.lookup r).map (·.contentDigest)
  | .sourceConfig r => (c.configs.rows.lookup r).map (·.contentDigest)

theorem Holds.stored (h : c.Holds F e) : c.storedDigest e.key = some (e.digest F) := by
  cases e with
  | capabilityDefinition r d => exact congrArg (Option.map _) h.1
  | adapterBindingPolicy p => exact congrArg (Option.map _) (HoldsPolicy.row h)
  | agentType a => exact congrArg (Option.map _) (HoldsAgentType.row h)
  | spawnSource s => exact congrArg (Option.map _) (HoldsSource.row h)
  | sourceConfig x => exact congrArg (Option.map _) (HoldsConfig.row h)

/-- Whatever digest is stored, its entry is held. -/
theorem Sound.holds_of_stored (hs : Sound F c) {key : CatalogKey} {digest : D}
    (h : c.storedDigest key = some digest) : ∃ e, c.Holds F e ∧ e.key = key := by
  cases key with
  | capabilityDefinition r =>
    obtain ⟨row, hrow, -⟩ := Option.map_eq_some_iff.mp h
    obtain ⟨heq, hfits⟩ := hs.definitions r row hrow
    exact ⟨.capabilityDefinition r row.definition, ⟨heq ▸ hrow, hfits⟩, rfl⟩
  | adapterBindingPolicy r =>
    obtain ⟨row, hrow, -⟩ := Option.map_eq_some_iff.mp h
    obtain ⟨p, rfl, hp⟩ := hs.policies r row hrow
    exact ⟨.adapterBindingPolicy p, hp, rfl⟩
  | agentType r =>
    obtain ⟨row, hrow, -⟩ := Option.map_eq_some_iff.mp h
    obtain ⟨a, rfl, ha⟩ := hs.agentTypes r row hrow
    exact ⟨.agentType a, ha, rfl⟩
  | spawnSource r =>
    obtain ⟨row, hrow, -⟩ := Option.map_eq_some_iff.mp h
    obtain ⟨s, rfl, hholds⟩ := hs.sources r row hrow
    exact ⟨.spawnSource s, hholds, rfl⟩
  | sourceConfig r =>
    obtain ⟨row, hrow, -⟩ := Option.map_eq_some_iff.mp h
    obtain ⟨x, rfl, hx⟩ := hs.configs r row hrow
    exact ⟨.sourceConfig x, hx, rfl⟩

theorem Holds.checked (h : c.Holds F e) : e.Checked F := by
  cases e with
  | capabilityDefinition r d => exact ⟨⟨.empty, trivial⟩, trivial⟩
  | adapterBindingPolicy p => exact ⟨⟨.empty, HoldsPolicy.valid h⟩, trivial⟩
  | agentType a => exact ⟨⟨c.capabilities, a, HoldsAgentType.canonical h⟩, trivial⟩
  | spawnSource s => exact ⟨⟨c.capabilities, s, HoldsSource.canonical h⟩, trivial⟩
  | sourceConfig x =>
    obtain ⟨s, -, -, hcanonical⟩ := HoldsConfig.source h
    obtain ⟨body, hbody, hmode, hpayload, hlocator⟩ := HoldsConfig.body h
    exact ⟨⟨c.capabilities, ⟨_, s, hcanonical⟩, hlocator ▸ checkBody_locator hbody⟩, body, hbody,
      hmode, hpayload, hlocator⟩

/-- A catalog holds one entry for a key. -/
theorem Holds.unique (hfree : F.CollisionFree) (hspelled : F.Spelled) (h : c.Holds F e)
    (h' : c.Holds F e') (hkey : e.key = e'.key) : e.SameContent e' := by
  refine Entry.sameContent_of_digest hfree hspelled h.checked h'.checked ?_
  have hstored := h.stored
  rw [hkey, h'.stored] at hstored
  exact (Option.some.inj hstored).symm

end Catalog

/-! ## Reads and offers -/

variable [DecidableEq T] [DecidableEq D]

/-- The entry an offer canonicalizes to, given what the catalog has by now. -/
def Offer.canonical (c : Catalog T D) : Offer → Except Error Entry
  | .capabilityDefinition r d => pure (.capabilityDefinition r d)
  | .adapterBindingPolicy p => do
    liftContract p.validate
    pure (.adapterBindingPolicy p)
  | .agentType a => do
    let catalog ← c.loadCapabilityCatalog F
    let agent ← liftContract (canonicalizeAgentType a catalog)
    pure (.agentType agent)
  | .spawnSource s => do
    let catalog ← c.loadCapabilityCatalog F
    let source ← liftContract (canonicalizeSpawnSource s catalog)
    pure (.spawnSource source)
  | .sourceConfig config body => do
    let found ← c.loadSpawnSource F config.configRef.source
    let source ← present found
      (.notFound ("source " ++ config.configRef.source.display ++ " does not exist"))
    requireCanonicalDigest config.configDigest "source config"
    Catalog.checkBody F config body
    let catalog ← c.loadCapabilityCatalog F
    let canonical ← liftContract (canonicalizeSourceConfig config source catalog)
    pure (.sourceConfig (Catalog.configRevision canonical body))

namespace Catalog

/-- The read of a key. -/
def read (c : Catalog T D) : CatalogKey → Except Error (Option Entry)
  | .capabilityDefinition r => Option.map (.capabilityDefinition r) <$> c.getCapabilityDefinition F r
  | .adapterBindingPolicy r => Option.map .adapterBindingPolicy <$> c.getAdapterBindingPolicy F r
  | .agentType r => Option.map (fun x => .agentType x.1) <$> c.getAgentType F r
  | .spawnSource r => Option.map .spawnSource <$> c.loadSpawnSource F r
  | .sourceConfig r => Option.map .sourceConfig <$> c.loadSourceConfigRevision F r

variable {F} {c : Catalog T D}

theorem getCapabilityDefinition_holds (hl : Legible F c) {r : CapabilityRef}
    {d : CapabilityDefinition} (h : c.definitions.lookup r = some (definitionRow F r d))
    (hfits : Fits r.revision) : c.getCapabilityDefinition F r = .ok (some d) := by
  rw [getCapabilityDefinition, hfits.bind, ok_bind, h]
  simp [readDefinition_row (hl.definitions r _ h)]

/-- A held entry is what reads return, up to the current disposition. -/
theorem read_holds (hs : Sound F c) (hl : Legible F c) (h : c.Holds F e) :
    ∃ e', c.read F e.key = .ok (some e') ∧ e'.SameContent e := by
  cases e with
  | capabilityDefinition r d =>
    refine ⟨.capabilityDefinition r d, ?_, fun _ _ => rfl⟩
    exact map_ok.mpr ⟨_, getCapabilityDefinition_holds hl h.1 h.2, rfl⟩
  | adapterBindingPolicy p =>
    obtain ⟨s, -, hget⟩ := getAdapterBindingPolicy_holds hl (p := p) h
    exact ⟨_, map_ok.mpr ⟨_, hget, rfl⟩, fun _ _ => rfl⟩
  | agentType a =>
    obtain ⟨s, hget⟩ := getAgentType_holds (a := a) hs hl h
    exact ⟨_, map_ok.mpr ⟨_, hget, rfl⟩, fun _ _ => rfl⟩
  | spawnSource s =>
    obtain ⟨st, -, hload⟩ := loadSpawnSource_holds (s := s) hs hl h
    exact ⟨_, map_ok.mpr ⟨_, hload, rfl⟩, fun _ _ => rfl⟩
  | sourceConfig x =>
    obtain ⟨s, -, hload⟩ := loadSourceConfigRevision_holds (x := x) hs hl h
    exact ⟨_, map_ok.mpr ⟨_, hload, rfl⟩, fun _ _ => rfl⟩

/-- What an offer canonicalizes to has its key, has passed the checks, and is plain if it is. -/
theorem canonical_entry {offer : Offer} (h : offer.canonical F c = .ok e) :
    e.key = offer.key ∧ e.Checked F ∧ (offer.Plain → e.Plain) := by
  cases offer with
  | capabilityDefinition r d =>
    cases h
    exact ⟨rfl, ⟨⟨.empty, trivial⟩, trivial⟩, id⟩
  | adapterBindingPolicy p =>
    simp only [Offer.canonical, bind_ok, pure_ok, liftContract_ok] at h
    obtain ⟨_, hvalid, rfl⟩ := h
    exact ⟨rfl, ⟨⟨.empty, hvalid⟩, trivial⟩, id⟩
  | agentType agent =>
    simp only [Offer.canonical, bind_ok, pure_ok, liftContract_ok] at h
    obtain ⟨catalog, -, a, ha, rfl⟩ := h
    exact ⟨congrArg CatalogKey.agentType (canonicalizeAgentType_ok ha).2.2.2.1,
      ⟨⟨catalog, agent, ha⟩, trivial⟩, fun hplain => AgentType.Plain.canonical hplain ha⟩
  | spawnSource source =>
    simp only [Offer.canonical, bind_ok, pure_ok, liftContract_ok] at h
    obtain ⟨catalog, -, s, hs', rfl⟩ := h
    exact ⟨congrArg CatalogKey.spawnSource (canonicalizeSpawnSource_keeps hs'),
      ⟨⟨catalog, source, hs'⟩, trivial⟩, fun hplain => SpawnSource.Plain.canonical hplain hs'⟩
  | sourceConfig config body =>
    simp only [Offer.canonical, bind_ok, pure_ok, present_ok, liftContract_ok] at h
    obtain ⟨_, -, s, -, _, -, _, hbody, catalog, -, cfg, hcfg, rfl⟩ := h
    obtain ⟨href, hdig, -⟩ := canonicalizeSourceConfig_keeps hcfg
    have hchecked : checkBody F (configRevision cfg body).config body = .ok () := by
      rwa [configRevision, checkBody_congr hdig]
    exact ⟨congrArg CatalogKey.sourceConfig href,
      ⟨⟨catalog, ⟨config, s, hcfg⟩, checkBody_locator hbody⟩, body, hchecked, rfl, rfl, rfl⟩,
      fun hplain => SourceConfig.Plain.canonical hplain hcfg⟩

end Catalog

end Formats

end Agentype.Agent

import Agentype.Catalog.Sound

/-!
# `Agentype.Catalog.History` — what the operations do to a sound catalog

Every operation takes a sound catalog to a sound catalog that comes after it, and a publication that
returns leaves its canonical record held. The lemmas about single publications say what they check
and what they write; growth and soundness of whole runs follow by induction over the operations.

## Contents
- `Sound.extend`, `moveDisposition_ok`.
- `loadSpawnSource_some` and its siblings: a read returns a held record.
- `publishAgentType_ok` and its siblings: what a publication that returns has done.
- `publish_sound`, `exec_sound`, **`run_sound`**.
-/

namespace Agentype.Agent

open Check

variable {p : AdapterBindingPolicy} {config : SourceConfig}

namespace Catalog

variable {T D : Type} {F : DocFormat T D} {c c' : Catalog T D}

/-! ## Rows and dispositions -/

/-- A catalog that comes after a sound one is sound if its new rows are rows of held records. -/
theorem Sound.extend (hs : Sound F c) (hg : c.Grows c')
    (hdefinitions : ∀ r row, c'.definitions.lookup r = some row →
      c.definitions.lookup r = some row ∨
        (row = definitionRow F r row.definition ∧ Fits r.revision))
    (hpolicies : ∀ r row, c'.policies.rows.lookup r = some row →
      c.policies.rows.lookup r = some row ∨ ∃ p, p.policyRef = r ∧ HoldsPolicy F c' p)
    (hagentTypes : ∀ r row, c'.agentTypes.rows.lookup r = some row →
      c.agentTypes.rows.lookup r = some row ∨ ∃ a, a.typeRef = r ∧ HoldsAgentType F c' a)
    (hsources : ∀ r row, c'.sources.rows.lookup r = some row →
      c.sources.rows.lookup r = some row ∨ ∃ s, s.sourceRef = r ∧ HoldsSource F c' s)
    (hconfigs : ∀ r row, c'.configs.rows.lookup r = some row →
      c.configs.rows.lookup r = some row ∨ ∃ x, x.config.configRef = r ∧ HoldsConfig F c' x) :
    Sound F c' where
  definitions r row h := (hdefinitions r row h).elim (hs.definitions r row) id
  policies r row h := by
    rcases hpolicies r row h with hold | hnew
    · obtain ⟨p, hp, hholds⟩ := hs.policies r row hold
      exact ⟨p, hp, hholds.grows hg⟩
    · exact hnew
  agentTypes r row h := by
    rcases hagentTypes r row h with hold | hnew
    · obtain ⟨a, ha, hholds⟩ := hs.agentTypes r row hold
      exact ⟨a, ha, hholds.grows hg⟩
    · exact hnew
  sources r row h := by
    rcases hsources r row h with hold | hnew
    · obtain ⟨s, hs', hholds⟩ := hs.sources r row hold
      exact ⟨s, hs', hholds.grows hg⟩
    · exact hnew
  configs r row h := by
    rcases hconfigs r row h with hold | hnew
    · obtain ⟨x, hx, hholds⟩ := hs.configs r row hold
      exact ⟨x, hx, hholds.grows hg⟩
    · exact hnew

/-- Moving dispositions keeps a catalog sound. -/
theorem Sound.of_rows (hs : Sound F c) (hg : c.Grows c') (hd : c'.definitions = c.definitions)
    (hp : c'.policies.rows = c.policies.rows) (ha : c'.agentTypes.rows = c.agentTypes.rows)
    (hsr : c'.sources.rows = c.sources.rows) (hc : c'.configs.rows = c.configs.rows) :
    Sound F c' :=
  hs.extend hg (fun _ _ h => .inl (hd ▸ h)) (fun _ _ h => .inl (hp ▸ h))
    (fun _ _ h => .inl (ha ▸ h)) (fun _ _ h => .inl (hsr ▸ h)) (fun _ _ h => .inl (hc ▸ h))

theorem moveDisposition_ok {K R S : Type} [LinearOrder K] [DecidableEq S] {rank : S → Nat}
    {spell : S → String} {what : String} {v v' : Revisions K R S} {k : K} {s : S}
    (h : moveDisposition rank spell what v k s = .ok v') :
    v.Grows (fun s s' => rank s ≤ rank s') v' ∧ v'.rows = v.rows := by
  simp only [moveDisposition, bind_ok, present_ok, checkMonotonic, ensure_ok,
    decide_eq_true_eq] at h
  obtain ⟨current, hcurrent, _, hle, h⟩ := h
  split_ifs at h with heq
  · cases h
    exact ⟨.refl (fun s => Nat.le_refl (rank s)) _, rfl⟩
  · cases h
    exact ⟨Revisions.grows_advance (fun s => Nat.le_refl (rank s)) hcurrent hle, rfl⟩

theorem setAgentTypeStatus_ok {r : AgentTypeRef} {status : AgentTypeStatus}
    (h : c.setAgentTypeStatus r status = .ok c') :
    ∃ types, c' = { c with agentTypes := types } ∧
      c.agentTypes.Grows AgentTypeStatus.Before types ∧ types.rows = c.agentTypes.rows := by
  simp only [setAgentTypeStatus, bind_ok, present_ok] at h
  obtain ⟨_, -, current, hcurrent, h⟩ := h
  split_ifs at h with heq
  · cases h
    exact ⟨c.agentTypes, rfl, .refl (fun s => Nat.le_refl s.rank) _, rfl⟩
  · simp only [bind_ok, pure_ok] at h
    obtain ⟨_, -, rfl⟩ := h
    -- whatever the current disposition is, `deprecated` does not come before it
    refine ⟨_, rfl, Revisions.grows_advance (fun s => Nat.le_refl s.rank) hcurrent ?_, rfl⟩
    cases current <;> simp [AgentTypeStatus.Before, AgentTypeStatus.rank]

/-- The check of a body reads only the declared digest. -/
theorem checkBody_congr {config' : SourceConfig} (h : config.configDigest = config'.configDigest)
    (body : SourceConfigBody) : checkBody F config body = checkBody F config' body := by
  cases body <;> simp [checkBody, h]

/-- What a publication that returns has found or done: the revision was there with the digest, or it
    was free and has been written. -/
def Wrote {K R S : Type} [LinearOrder K] (v : Revisions K R S) (k : K) (r : R) (s : S)
    (digest : R → D) (put : Revisions K R S → Catalog T D) (c : Catalog T D) (d : D)
    (c' : Catalog T D) : Prop :=
  d = digest r ∧ ((c' = c ∧ ∃ row, v.rows.lookup k = some row ∧ digest row = d) ∨
    ∃ v', v.add k r s = some v' ∧ c' = put v')

section Operations

variable [DecidableEq T] [DecidableEq D]

/-! ## Reads return held records -/

theorem getAdapterBindingPolicy_some (hs : Sound F c) {r : AdapterPolicyRef}
    (h : c.getAdapterBindingPolicy F r = .ok (some p)) :
    ∃ p', p'.policyRef = r ∧ HoldsPolicy F c p' := by
  rw [getAdapterBindingPolicy, bind_ok] at h
  obtain ⟨_, -, h⟩ := h
  split at h
  · simp at h
  · next heq =>
    obtain ⟨_, hrow, -⟩ := Option.map_eq_some_iff.mp heq
    exact hs.policies r _ hrow

theorem loadSpawnSource_some (hs : Sound F c) {r : SpawnSourceRef} {s : SpawnSource}
    (h : c.loadSpawnSource F r = .ok (some s)) : s.sourceRef = r ∧ HoldsSource F c s := by
  simp only [loadSpawnSource, bind_ok] at h
  obtain ⟨_, -, h⟩ := h
  split at h
  · simp at h
  next row status hfind =>
  simp only [bind_ok, present_ok, verifyReencoded, ensure_ok, decide_eq_true_eq, pure_ok,
    Option.some.injEq] at h
  obtain ⟨_, -, _, -, _, -, _, -, _, -, _, -, _, -, _, hbytes, rfl⟩ := h
  obtain ⟨_, hrow, hpair⟩ := Option.map_eq_some_iff.mp hfind
  obtain ⟨rfl, -⟩ := Prod.mk.inj hpair
  obtain ⟨s', rfl, hs'⟩ := hs.sources r _ hrow
  rw [hs'.row, Option.some.injEq] at hrow
  subst hrow
  -- the source read is encoded as the row, which does not depend on the disposition
  rw [spawnSourceDocument_inj (F.print_injective hbytes)]
  exact ⟨rfl, { hs' with canonical := canonicalizeSpawnSource_stable hs'.canonical (.refl _) _ }⟩

theorem checkBase_ok (hs : Sound F c) {a : AgentType} {catalog : CapabilityCatalog} {u : Unit}
    {b : AgentTypeRef} (h : c.checkBase F catalog a = .ok u) (hb : a.basedOn = some b) :
    ∃ base, base.typeRef = b ∧ HoldsAgentType F c base ∧ Decodes F c base ∧
      isValidRefinement base a catalog = .ok () := by
  simp only [checkBase, hb, bind_ok, present_ok, liftContract_ok] at h
  obtain ⟨_, hget, x, rfl, hvalid⟩ := h
  obtain ⟨⟨href, hholds, -⟩, hdecodes, -⟩ := (getAgentType_ok hs).mp hget
  exact ⟨x.1, href, hholds, hdecodes, hvalid⟩

/-! ## Publications -/

omit [DecidableEq T] in
theorem guardImmutable_ok {stored digest : D} {what : String} {u : Unit} :
    guardImmutable F stored digest what = .ok u ↔ stored = digest := by
  simp [guardImmutable]

omit [DecidableEq T] in
theorem wrote {K R S α : Type} [LinearOrder K] {v : Revisions K R S} {k : K} {r : R} {s : S}
    {digest : R → D} {put : Revisions K R S → Catalog T D} {d : D} {what : String}
    {found : Except Error (Option α)} {check : Except Error Unit}
    (h : c.writeOnce F v k r s digest what found check put = .ok (d, c')) :
    Wrote v k r s digest put c d c' := by
  unfold writeOnce at h
  split at h
  · next row hrow =>
    simp only [bind_ok, guardImmutable_ok, pure_ok, Prod.mk.injEq] at h
    obtain ⟨_, hguard, _, -, _, -, rfl, rfl⟩ := h
    exact ⟨rfl, .inl ⟨rfl, row, hrow, hguard⟩⟩
  · simp only [bind_ok, present_ok, pure_ok, Prod.mk.injEq] at h
    obtain ⟨_, -, v', hadd, rfl, rfl⟩ := h
    exact ⟨rfl, .inr ⟨v', hadd, rfl⟩⟩

theorem publishCapabilityDefinition_ok {r : CapabilityRef} {d : CapabilityDefinition} {digest : D}
    (h : c.publishCapabilityDefinition F r d = .ok (digest, c')) :
    digest = (definitionRow F r d).contentDigest ∧ Fits r.revision ∧
      ((c' = c ∧ ∃ row, c.definitions.lookup r = some row ∧ row.contentDigest = digest) ∨
        (c.definitions.lookup r = none ∧
          c' = { c with definitions := c.definitions.insert r (definitionRow F r d) })) := by
  simp only [publishCapabilityDefinition, bind_ok, bindRevision_ok] at h
  obtain ⟨_, hfits, h⟩ := h
  split at h
  · next row hrow =>
    simp only [bind_ok, guardImmutable_ok, pure_ok, Prod.mk.injEq] at h
    obtain ⟨_, hguard, _, -, _, -, rfl, rfl⟩ := h
    exact ⟨rfl, hfits, .inl ⟨rfl, row, hrow, hguard⟩⟩
  · next hrow =>
    simp only [pure_ok, Prod.mk.injEq] at h
    obtain ⟨rfl, rfl⟩ := h
    exact ⟨rfl, hfits, .inr ⟨hrow, rfl⟩⟩

theorem publishAdapterBindingPolicy_ok {digest : D}
    (h : c.publishAdapterBindingPolicy F p = .ok (digest, c')) :
    p.validate = .ok () ∧ Fits p.policyRef.revision ∧
      Wrote c.policies p.policyRef (policyRow F p) p.status PolicyRow.contentDigest
        (fun v => { c with policies := v }) c digest c' := by
  simp only [publishAdapterBindingPolicy, bind_ok, liftContract_ok, bindRevision_ok] at h
  obtain ⟨_, hvalid, _, hfits, h⟩ := h
  exact ⟨hvalid, hfits, wrote h⟩

theorem publishAgentType_ok {agent : AgentType} {digest : D}
    (h : c.publishAgentType F agent = .ok (digest, c')) :
    ∃ a, c.loadCapabilityCatalog F = .ok c.capabilities ∧
      canonicalizeAgentType agent c.capabilities = .ok a ∧
      c.checkBase F c.capabilities a = .ok () ∧ Fits a.typeRef.revision ∧
      Wrote c.agentTypes a.typeRef (agentTypeRow F a) .published AgentTypeRow.contentDigest
        (fun v => { c with agentTypes := v }) c digest c' := by
  simp only [publishAgentType, bind_ok, liftContract_ok, bindRevision_ok] at h
  obtain ⟨catalog, hload, a, hcanonical, _, hbase, _, hfits, h⟩ := h
  obtain rfl := (loadCapabilityCatalog_ok.mp hload).2
  exact ⟨a, hload, hcanonical, hbase, hfits, wrote h⟩

theorem publishSpawnSource_ok (hs : Sound F c) {source : SpawnSource} {digest : D}
    (h : c.publishSpawnSource F source = .ok (digest, c')) :
    ∃ s, c.loadCapabilityCatalog F = .ok c.capabilities ∧
      canonicalizeSpawnSource source c.capabilities = .ok s ∧
      (∃ p, p.policyRef = s.adapterPolicy ∧ HoldsPolicy F c p) ∧ Fits s.sourceRef.revision ∧
      Wrote c.sources s.sourceRef (sourceRow F s) s.status SourceRow.contentDigest
        (fun v => { c with sources := v }) c digest c' := by
  simp only [publishSpawnSource, bind_ok, liftContract_ok, bindRevision_ok, present_ok] at h
  obtain ⟨catalog, hload, s, hcanonical, _, hpolicy, _, rfl, _, hfits, h⟩ := h
  obtain rfl := (loadCapabilityCatalog_ok.mp hload).2
  exact ⟨s, hload, hcanonical, getAdapterBindingPolicy_some hs hpolicy, hfits,
    wrote h⟩

/-- The revision a configuration and its body make. -/
def configRevision (config : SourceConfig) (body : SourceConfigBody) : SourceConfigRevision :=
  ⟨config, body.mode, body.locator, body.payload⟩

theorem publishSourceConfig_ok {body : SourceConfigBody} {digest : D}
    (h : c.publishSourceConfig F config body = .ok (digest, c')) :
    ∃ s cfg, c.loadSpawnSource F config.configRef.source = .ok (some s) ∧
      c.loadCapabilityCatalog F = .ok c.capabilities ∧
      canonicalizeSourceConfig config s c.capabilities = .ok cfg ∧
      requireCanonicalDigest config.configDigest "source config" = .ok () ∧
      checkBody F config body = .ok () ∧ Fits config.configRef.revision ∧
      Wrote c.configs config.configRef (configRow F (configRevision cfg body)) cfg.status
        ConfigRow.contentDigest (fun v => { c with configs := v }) c digest c' := by
  simp only [publishSourceConfig, bind_ok, liftContract_ok, bindRevision_ok, present_ok] at h
  obtain ⟨_, hfound, s, rfl, _, hdigest, _, hbody, catalog, hload, cfg, hcanonical, _, -, _, hfits,
    h⟩ := h
  obtain rfl := (loadCapabilityCatalog_ok.mp hload).2
  exact ⟨s, cfg, hfound, hload, hcanonical, hdigest, hbody, hfits,
    wrote h⟩

/-! ## Soundness is kept -/

theorem publishCapabilityDefinition_sound (hs : Sound F c) {r : CapabilityRef}
    {d : CapabilityDefinition} {digest : D}
    (h : c.publishCapabilityDefinition F r d = .ok (digest, c')) : c.Grows c' ∧ Sound F c' := by
  obtain ⟨-, hfits, ⟨rfl, -⟩ | ⟨hfree, rfl⟩⟩ := publishCapabilityDefinition_ok h
  · exact ⟨.refl _, hs⟩
  have hg : c.Grows { c with definitions := c.definitions.insert r (definitionRow F r d) } := by
    refine { Grows.refl c with definitions := fun j row hj => ?_ }
    have hne : j ≠ r := by
      rintro rfl
      rw [hfree] at hj
      cases hj
    rw [SortedMap.lookup_insert, if_neg hne, hj]
  refine ⟨hg, hs.extend hg ?_ (fun _ _ => .inl) (fun _ _ => .inl) (fun _ _ => .inl)
    (fun _ _ => .inl)⟩
  intro j row hj
  rw [SortedMap.lookup_insert] at hj
  by_cases hjr : j = r
  · subst hjr
    rw [if_pos rfl] at hj
    cases hj
    exact .inr ⟨rfl, hfits⟩
  · rw [if_neg hjr] at hj
    exact .inl hj

theorem publishAdapterBindingPolicy_sound (hs : Sound F c) {digest : D}
    (h : c.publishAdapterBindingPolicy F p = .ok (digest, c')) : c.Grows c' ∧ Sound F c' := by
  obtain ⟨hvalid, hfits, -, ⟨rfl, -⟩ | ⟨policies, hadd, rfl⟩⟩ := publishAdapterBindingPolicy_ok h
  · exact ⟨.refl _, hs⟩
  have hg : c.Grows { c with policies := policies } :=
    { Grows.refl c with policies := Revisions.grows_add (fun s => Nat.le_refl s.rank) hadd }
  refine ⟨hg, hs.extend hg (fun _ _ => .inl) (Revisions.rows_of_add hadd fun hrow hstatus => ?_)
    (fun _ _ => .inl) (fun _ _ => .inl) (fun _ _ => .inl)⟩
  exact ⟨p, rfl, hrow, hvalid, hfits, _, hstatus⟩

theorem publishAgentType_sound (hs : Sound F c) {agent : AgentType} {digest : D}
    (h : c.publishAgentType F agent = .ok (digest, c')) : c.Grows c' ∧ Sound F c' := by
  obtain ⟨a, -, hcanonical, hbase, hfits, -, ⟨rfl, -⟩ | ⟨types, hadd, rfl⟩⟩ := publishAgentType_ok h
  · exact ⟨.refl _, hs⟩
  have hg : c.Grows { c with agentTypes := types } :=
    { Grows.refl c with agentTypes := Revisions.grows_add (fun s => Nat.le_refl s.rank) hadd }
  refine ⟨hg, hs.extend hg (fun _ _ => .inl) (fun _ _ => .inl)
    (Revisions.rows_of_add hadd fun hrow hstatus => ?_) (fun _ _ => .inl) (fun _ _ => .inl)⟩
  refine ⟨a, rfl, hrow, canonicalizeAgentType_stable hcanonical (.refl _), hfits, ⟨_, hstatus⟩,
    fun b hb => ?_⟩
  obtain ⟨base, rfl, hholds, hdecodes, hvalid⟩ := checkBase_ok hs hbase hb
  exact ⟨base, rfl, hg.agentTypes.rows _ _ hholds.row, hdecodes.grows hg, hvalid⟩

theorem publishSpawnSource_sound (hs : Sound F c) {source : SpawnSource} {digest : D}
    (h : c.publishSpawnSource F source = .ok (digest, c')) : c.Grows c' ∧ Sound F c' := by
  obtain ⟨s, -, hcanonical, ⟨p, hp, hpolicy⟩, hfits, -, ⟨rfl, -⟩ | ⟨sources, hadd, rfl⟩⟩ :=
    publishSpawnSource_ok hs h
  · exact ⟨.refl _, hs⟩
  have hg : c.Grows { c with sources := sources } :=
    { Grows.refl c with sources := Revisions.grows_add (fun s => Nat.le_refl s.rank) hadd }
  refine ⟨hg, hs.extend hg (fun _ _ => .inl) (fun _ _ => .inl) (fun _ _ => .inl)
    (Revisions.rows_of_add hadd fun hrow hstatus => ?_) (fun _ _ => .inl)⟩
  exact ⟨s, rfl, hrow, canonicalizeSpawnSource_stable hcanonical (.refl _) s.status, hfits,
    ⟨_, hstatus⟩, p, hpolicy.grows hg, hp⟩

theorem publishSourceConfig_sound (hs : Sound F c) {body : SourceConfigBody} {digest : D}
    (h : c.publishSourceConfig F config body = .ok (digest, c')) : c.Grows c' ∧ Sound F c' := by
  obtain ⟨s, cfg, hload, -, hcanonical, hdigest, hbody, hfits, -,
    ⟨rfl, -⟩ | ⟨configs, hadd, rfl⟩⟩ := publishSourceConfig_ok h
  · exact ⟨.refl _, hs⟩
  obtain ⟨hsource, hholds⟩ := loadSpawnSource_some hs hload
  have hg : c.Grows { c with configs := configs } :=
    { Grows.refl c with configs := Revisions.grows_add (fun s => Nat.le_refl s.rank) hadd }
  obtain ⟨href, hdig, -⟩ := canonicalizeSourceConfig_keeps hcanonical
  refine ⟨hg, hs.extend hg (fun _ _ => .inl) (fun _ _ => .inl) (fun _ _ => .inl) (fun _ _ => .inl)
    (Revisions.rows_of_add hadd fun hrow hstatus => ?_)⟩
  rw [← href] at hrow hstatus hsource hfits
  refine ⟨configRevision cfg body, href, hrow, hfits, ⟨_, hstatus⟩, ?_, ⟨body, ?_, rfl, rfl, rfl⟩,
    s, hholds.grows hg, hsource,
    canonicalizeSourceConfig_stable hcanonical (.refl _) cfg.status s.status⟩
  · rwa [configRevision, hdig]
  · rwa [configRevision, checkBody_congr hdig]

theorem publish_sound (hs : Sound F c) {offer : Offer} {digest : D}
    (h : c.publish F offer = .ok (digest, c')) : c.Grows c' ∧ Sound F c' := by
  cases offer with
  | capabilityDefinition r d => exact publishCapabilityDefinition_sound hs h
  | adapterBindingPolicy p => exact publishAdapterBindingPolicy_sound hs h
  | agentType a => exact publishAgentType_sound hs h
  | spawnSource s => exact publishSpawnSource_sound hs h
  | sourceConfig config body => exact publishSourceConfig_sound hs h

/-! ## Runs -/

/-- **Every operation takes a sound catalog to a sound one that comes after it.** -/
theorem exec_sound (hs : Sound F c) {op : CatalogOp} (h : c.exec F op = .ok c') :
    c.Grows c' ∧ Sound F c' := by
  cases op with
  | publish offer =>
    obtain ⟨x, hx, rfl⟩ := map_ok.mp h
    exact publish_sound hs hx
  | setAgentTypeStatus r status =>
    obtain ⟨types, rfl, hgrows, hrows⟩ := setAgentTypeStatus_ok h
    have hg : c.Grows { c with agentTypes := types } := { Grows.refl c with agentTypes := hgrows }
    exact ⟨hg, hs.of_rows hg rfl rfl hrows rfl rfl⟩
  | setSpawnSourceStatus r status =>
    simp only [exec, setSpawnSourceStatus, bind_ok, pure_ok] at h
    obtain ⟨_, -, sources, hmove, rfl⟩ := h
    obtain ⟨hgrows, hrows⟩ := moveDisposition_ok hmove
    have hg : c.Grows { c with sources := sources } := { Grows.refl c with sources := hgrows }
    exact ⟨hg, hs.of_rows hg rfl rfl rfl hrows rfl⟩
  | setSourceConfigStatus r status =>
    simp only [exec, setSourceConfigStatus, bind_ok, pure_ok] at h
    obtain ⟨_, -, _, -, configs, hmove, rfl⟩ := h
    obtain ⟨hgrows, hrows⟩ := moveDisposition_ok hmove
    have hg : c.Grows { c with configs := configs } := { Grows.refl c with configs := hgrows }
    exact ⟨hg, hs.of_rows hg rfl rfl rfl rfl hrows⟩
  | setAdapterBindingPolicyStatus r status =>
    simp only [exec, setAdapterBindingPolicyStatus, bind_ok, pure_ok] at h
    obtain ⟨_, -, policies, hmove, rfl⟩ := h
    obtain ⟨hgrows, hrows⟩ := moveDisposition_ok hmove
    have hg : c.Grows { c with policies := policies } := { Grows.refl c with policies := hgrows }
    exact ⟨hg, hs.of_rows hg rfl hrows rfl rfl rfl⟩

theorem step_sound (hs : Sound F c) (op : CatalogOp) :
    c.Grows (c.step F op) ∧ Sound F (c.step F op) := by
  unfold step
  split
  · next c' h => exact exec_sound hs h
  · exact ⟨.refl c, hs⟩

/-- **So does every run.** -/
theorem run_sound (hs : Sound F c) (ops : List CatalogOp) :
    c.Grows (c.run F ops) ∧ Sound F (c.run F ops) := by
  induction ops generalizing c with
  | nil => exact ⟨.refl c, hs⟩
  | cons op ops ih =>
    obtain ⟨hg, hs'⟩ := step_sound hs op
    obtain ⟨hg', hs''⟩ := ih hs'
    exact ⟨hg.trans hg', hs''⟩

end Operations

end Catalog

end Agentype.Agent

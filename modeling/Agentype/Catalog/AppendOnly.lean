import Agentype.Catalog.Ancestry
import Agentype.Catalog.Entries

/-!
# `Agentype.Catalog.AppendOnly` — published content stays, and stays readable

A publication that returns leaves an entry with the content the offer canonicalizes to. From then on
the entry is held, whatever operations follow: the reads return it, offering it again finds it, and
no other content can be published for its revision.

What counts as the same content is decided by digests of documents, which tell the two zeros apart
in exact capability values while `==` does not. An equal record is therefore accepted again when
neither has a negative zero. Reads and republications also rest on the parser: a document that is
not read back as it was printed fails the check of its encoding.

## Contents
- `publish_entry`: a publication that returns leaves its digest stored.
- `publish_holds`: it leaves its content held.
- `publish_again`: held content may be offered again, to no effect.
- **`published_content_stays`**, and `republication_splits_zeros` where the zeros differ.
-/

namespace Agentype.Agent

open Check

variable {offer : Offer}

namespace Catalog

variable {T D : Type} [DecidableEq T] [DecidableEq D] {F : DocFormat T D} {c c' : Catalog T D}

/-! ## What a publication leaves -/

omit [DecidableEq T] [DecidableEq D] in
/-- The table a publication leaves has the digest, whether it was there or has been added. -/
theorem Wrote.stored {K R S : Type} [LinearOrder K] (table : Catalog T D → Revisions K R S) {k : K}
    {r : R} {s : S} {digest : R → D} {put : Revisions K R S → Catalog T D} {d : D}
    (h : Wrote (table c) k r s digest put c d c') (hput : ∀ v, table (put v) = v) :
    ((table c').rows.lookup k).map digest = some d := by
  obtain ⟨rfl, ⟨rfl, row, hrow, hdigest⟩ | ⟨v, hadd, rfl⟩⟩ := h
  · rw [hrow, Option.map_some, hdigest]
  · rw [hput, (Revisions.lookup_of_add hadd).1, Option.map_some]

theorem publish_entry (hs : Sound F c) {digest : D} (h : c.publish F offer = .ok (digest, c')) :
    ∃ e, offer.canonical F c = .ok e ∧ digest = e.digest F ∧
      c'.storedDigest e.key = some digest := by
  cases offer with
  | capabilityDefinition r d =>
    obtain ⟨rfl, -, hcase⟩ := publishCapabilityDefinition_ok h
    refine ⟨.capabilityDefinition r d, rfl, rfl, ?_⟩
    rcases hcase with ⟨rfl, row, hrow, hdigest⟩ | ⟨-, rfl⟩
    · exact Option.map_eq_some_iff.mpr ⟨row, hrow, hdigest⟩
    · simp [storedDigest, Entry.key, SortedMap.lookup_insert]
  | adapterBindingPolicy p =>
    obtain ⟨hvalid, -, hwrote⟩ := publishAdapterBindingPolicy_ok h
    exact ⟨.adapterBindingPolicy p, by simp [Offer.canonical, hvalid], hwrote.1,
      hwrote.stored Catalog.policies fun _ => rfl⟩
  | agentType agent =>
    obtain ⟨a, hload, hcanonical, -, -, hwrote⟩ := publishAgentType_ok h
    exact ⟨.agentType a, by simp [Offer.canonical, hload, hcanonical], hwrote.1,
      hwrote.stored Catalog.agentTypes fun _ => rfl⟩
  | spawnSource source =>
    obtain ⟨s, hload, hcanonical, -, -, hwrote⟩ := publishSpawnSource_ok hs h
    exact ⟨.spawnSource s, by simp [Offer.canonical, hload, hcanonical], hwrote.1,
      hwrote.stored Catalog.sources fun _ => rfl⟩
  | sourceConfig config body =>
    obtain ⟨s, cfg, hfound, hload, hcanonical, hdigest, hbody, -, hwrote⟩ :=
      publishSourceConfig_ok h
    refine ⟨.sourceConfig (configRevision cfg body), ?_, hwrote.1, ?_⟩
    · simp [Offer.canonical, hfound, hdigest, hbody, hload, hcanonical]
    · rw [Entry.key, configRevision, (canonicalizeSourceConfig_keeps hcanonical).1]
      exact hwrote.stored Catalog.configs fun _ => rfl

/-- **A publication that returns leaves its content held.** -/
theorem publish_holds (hfree : F.CollisionFree) (hspelled : F.Spelled) (hs : Sound F c) {digest : D}
    (h : c.publish F offer = .ok (digest, c')) :
    ∃ e held, offer.canonical F c = .ok e ∧ c'.Holds F held ∧ held.SameContent e ∧
      held.key = offer.key ∧ held.digest F = digest := by
  obtain ⟨e, hcanonical, rfl, hstored⟩ := publish_entry hs h
  obtain ⟨hkey, hchecked, -⟩ := canonical_entry hcanonical
  obtain ⟨held, hholds, hheldKey⟩ := (publish_sound hs h).2.holds_of_stored hstored
  have hdigest : held.digest F = e.digest F := by
    rw [← hheldKey, hholds.stored] at hstored
    exact Option.some.inj hstored
  exact ⟨e, held, hcanonical, hholds,
    Entry.sameContent_of_digest hfree hspelled hholds.checked hchecked hdigest,
    hheldKey.trans hkey, hdigest⟩

/-! ## Offering held content again -/

theorem publishAdapterBindingPolicy_again {p : AdapterBindingPolicy} (hl : Legible F c)
    (h : HoldsPolicy F c p) (status : ConfigStatus) :
    c.publishAdapterBindingPolicy F { p with status := status } =
      .ok ((policyRow F p).contentDigest, c) := by
  obtain ⟨s, -, hget⟩ := getAdapterBindingPolicy_holds hl h
  have hvalid : AdapterBindingPolicy.validate { p with status := status } = .ok () := h.valid
  have hdoc : canonicalAdapterBindingPolicyDocument { p with status := status } =
      canonicalAdapterBindingPolicyDocument p := rfl
  simp [publishAdapterBindingPolicy, writeOnce, hvalid, liftContract, h.fits.bind, h.row, hdoc, policyRow,
    guardImmutable, hget]

theorem publishAgentType_again (hs : Sound F c) (hl : Legible F c) {agent a : AgentType}
    (h : HoldsAgentType F c a) (hcanonical : canonicalizeAgentType agent c.capabilities = .ok a) :
    c.publishAgentType F agent = .ok ((agentTypeRow F a).contentDigest, c) := by
  obtain ⟨s, hget⟩ := getAgentType_holds hs hl h
  have hbase : c.checkBase F c.capabilities a = .ok () := by
    unfold checkBase
    cases hb : a.basedOn with
    | none => rfl
    | some b =>
      obtain ⟨base, rfl, hrow, -, hvalid⟩ := h.base b hb
      obtain ⟨s, hget⟩ := getAgentType_holds hs hl (.of_row hs hrow)
      simp [hget, hvalid, liftContract]
  simp [publishAgentType, writeOnce, loadCapabilityCatalog_legible hs hl, hcanonical, liftContract,
    hbase, h.fits.bind, h.row, agentTypeRow, guardImmutable, hget]

theorem publishSpawnSource_again (hs : Sound F c) (hl : Legible F c) {source s : SpawnSource}
    (h : HoldsSource F c s) {status : SourceStatus}
    (hcanonical : canonicalizeSpawnSource source c.capabilities = .ok { s with status := status }) :
    c.publishSpawnSource F source = .ok ((sourceRow F s).contentDigest, c) := by
  obtain ⟨st, -, hload⟩ := loadSpawnSource_holds hs hl h
  obtain ⟨p, hpolicy, hp⟩ := h.policy
  obtain ⟨_, -, hget⟩ := getAdapterBindingPolicy_holds hl hpolicy
  rw [hp] at hget
  have hdoc : canonicalSpawnSourceDocument { s with status := status } =
      canonicalSpawnSourceDocument s := rfl
  simp [publishSpawnSource, writeOnce, loadCapabilityCatalog_legible hs hl, hcanonical,
    liftContract, hget, h.fits.bind, h.row, sourceRow, hdoc, guardImmutable, hload]

theorem publishSourceConfig_again (hs : Sound F c) (hl : Legible F c) {config : SourceConfig}
    {body : SourceConfigBody} {x : SourceConfigRevision} (h : HoldsConfig F c x)
    {status : ConfigStatus}
    (hcanonical : (Offer.sourceConfig config body).canonical F c =
      .ok (.sourceConfig { x with config := { x.config with status := status } })) :
    c.publishSourceConfig F config body = .ok ((configRow F x).contentDigest, c) := by
  simp only [Offer.canonical, bind_ok, present_ok, pure_ok, Entry.sourceConfig.injEq,
    loadCapabilityCatalog_legible hs hl, ok_bind, liftContract_ok] at hcanonical
  obtain ⟨_, hload, s, rfl, _, hdigest, _, hbody, cfg, hcfg, hx⟩ := hcanonical
  obtain ⟨href, -, -⟩ := canonicalizeSourceConfig_keeps hcfg
  have hconfig : cfg = { x.config with status := status } :=
    congrArg SourceConfigRevision.config hx
  have hlocator : body.locator = x.locator := congrArg SourceConfigRevision.locator hx
  have hkey : config.configRef = x.config.configRef := by rw [← href, hconfig]
  obtain ⟨hsourceRef, hsource⟩ := loadSpawnSource_some hs hload
  have hfits : Fits config.configRef.source.revision := hsourceRef ▸ hsource.fits
  obtain ⟨_, -, hget⟩ := loadSourceConfigRevision_holds hs hl h
  have hdoc : canonicalSourceConfigDocument { x.config with status := status } x.locator =
      canonicalSourceConfigDocument x.config x.locator := rfl
  rw [← hkey] at hget
  simp [publishSourceConfig, writeOnce, hload, hdigest, hbody, loadCapabilityCatalog_legible hs hl,
    hcfg, liftContract, hfits.bind, hkey ▸ h.fits.bind, hkey ▸ h.row, hconfig, hlocator, hdoc, configRow,
    guardImmutable, hget]

/-- **Held content may be offered again, and then nothing happens.** -/
theorem publish_again (hs : Sound F c) (hl : Legible F c) {e held : Entry} (h : c.Holds F held)
    (hcanonical : offer.canonical F c = .ok e) (hsame : e.SameContent held) :
    c.publish F offer = .ok (held.digest F, c) := by
  cases offer with
  | capabilityDefinition r d =>
    cases hcanonical
    have heq := hsame .active .active
    cases held <;> cases heq
    obtain ⟨hrow, hfits⟩ := h
    have hget := getCapabilityDefinition_holds hl hrow hfits
    simp [publish, publishCapabilityDefinition, hfits.bind, hrow, definitionRow, guardImmutable,
      hget, Entry.digest, Entry.record, DurableRecord.digest, DurableRecord.bytes,
      DurableRecord.document]
  | adapterBindingPolicy p =>
    simp only [Offer.canonical, bind_ok, pure_ok] at hcanonical
    obtain ⟨_, -, rfl⟩ := hcanonical
    have heq := hsame .active p.status
    cases held <;> simp only [Entry.withDisposition, reduceCtorEq] at heq
    next p' =>
      have hp : p = { p' with status := p.status } := Entry.adapterBindingPolicy.inj heq
      rw [hp]
      exact publishAdapterBindingPolicy_again hl h p.status
  | agentType agent =>
    simp only [Offer.canonical, bind_ok, pure_ok, loadCapabilityCatalog_legible hs hl, ok_bind,
      liftContract_ok] at hcanonical
    obtain ⟨a, ha, rfl⟩ := hcanonical
    have heq := hsame .active .active
    cases held <;> cases heq
    exact publishAgentType_again hs hl h ha
  | spawnSource source =>
    simp only [Offer.canonical, bind_ok, pure_ok, loadCapabilityCatalog_legible hs hl, ok_bind,
      liftContract_ok] at hcanonical
    obtain ⟨s, hs', rfl⟩ := hcanonical
    have heq := hsame s.status .active
    cases held <;> simp only [Entry.withDisposition, reduceCtorEq] at heq
    next s' =>
      have hsource : s = { s' with status := s.status } := Entry.spawnSource.inj heq
      rw [hsource] at hs'
      exact publishSpawnSource_again hs hl h hs'
  | sourceConfig config body =>
    have hconfig : ∃ x, e = .sourceConfig x := by
      simp only [Offer.canonical, bind_ok, pure_ok] at hcanonical
      obtain ⟨_, -, _, -, _, -, _, -, _, -, _, -, rfl⟩ := hcanonical
      exact ⟨_, rfl⟩
    obtain ⟨x, rfl⟩ := hconfig
    have heq := hsame .active x.config.status
    cases held <;> simp only [Entry.withDisposition, reduceCtorEq] at heq
    next x' =>
      rw [show Entry.sourceConfig x = _ from heq] at hcanonical
      exact publishSourceConfig_again hs hl h hcanonical

/-! ## The append-only catalog -/

/-- **Published content stays, and stays readable.** In every run, content is kept and dispositions
    only move forward. Once a publication has returned a digest, then whatever operations follow:
    every offer for the revision that does not canonicalize to an equal record fails and changes
    nothing; and as long as the parser reads the rows back as they were printed, the revision is
    read back with the content that was published, and every plain offer that canonicalizes to a
    record that compares equal to a plain one returns its digest and changes nothing. Records are
    compared by `==`, dispositions aside. -/
theorem published_content_stays {T D : Type} [DecidableEq T] [DecidableEq D] (F : DocFormat T D)
    (hfree : F.CollisionFree) (hspelled : F.Spelled) (before later : List CatalogOp)
    (c : Catalog T D) (hc : c = Catalog.empty.run F before) :
    c.Grows (c.run F later) ∧
    ∀ (offer : Offer) (digest : D) (c' c'' : Catalog T D),
      c.publish F offer = .ok (digest, c') → c'' = c'.run F later →
      ∃ e, offer.canonical F c = .ok e ∧
        (c''.Legible F → ∃ e', c''.read F offer.key = .ok (some e') ∧ e'.SameContent e) ∧
        (c''.Legible F → ∀ offer' : Offer, offer.Plain → offer'.Plain →
          (∃ e', offer'.canonical F c'' = .ok e' ∧ e'.same e = true) →
          c''.publish F offer' = .ok (digest, c'')) ∧
        (∀ offer' : Offer, offer'.key = offer.key →
          (¬ ∃ e', offer'.canonical F c'' = .ok e' ∧ e'.same e = true) →
          (∃ error, c''.publish F offer' = .error error) ∧
            c''.step F (.publish offer') = c'') := by
  subst hc
  have hs := (run_sound (sound_empty (F := F)) before).2
  refine ⟨(run_sound hs later).1, ?_⟩
  rintro offer digest c' c'' hpublish rfl
  have hs' := (publish_sound hs hpublish).2
  obtain ⟨hg, hs''⟩ := run_sound hs' later
  obtain ⟨e, held, hcanonical, hholds, hsame, hkey, rfl⟩ := publish_holds hfree hspelled hs hpublish
  have hholds := hholds.grows hg
  refine ⟨e, hcanonical, ?_, ?_, ?_⟩
  · intro hl
    obtain ⟨e', hread, hcontent⟩ := read_holds hs'' hl hholds
    exact ⟨e', hkey ▸ hread, hcontent.trans hsame⟩
  · rintro hl offer' hplain hplain' ⟨e', hcanonical', hsame'⟩
    obtain ⟨-, hchecked, hkeeps⟩ := canonical_entry hcanonical
    obtain ⟨-, hchecked', hkeeps'⟩ := canonical_entry hcanonical'
    -- plain records that compare equal have one document, hence one digest and one content
    have hdocument := Entry.document_eq_of_same (hkeeps' hplain') (hkeeps hplain) hsame'
    have hcontent := Entry.sameContent_of_digest hfree hspelled hchecked' hchecked
      (congrArg (fun v => contentDigest F (toBytes F v)) hdocument)
    exact publish_again hs'' hl hholds hcanonical' (hcontent.trans hsame.symm)
  · intro offer' hkey' hother
    cases hpublish' : (c'.run F later).publish F offer' with
    | error error => exact ⟨⟨error, rfl⟩, by simp [step, exec, hpublish']⟩
    | ok x =>
      -- a publication that returns would leave a second entry held under the key
      exfalso
      obtain ⟨e', held', hcanonical', hholds', hsame', hheldKey', -⟩ :=
        publish_holds hfree hspelled hs'' hpublish'
      have hunique := hholds'.unique hfree hspelled (hholds.grows (publish_sound hs'' hpublish').1)
        (by rw [hheldKey', hkey', hkey])
      exact hother ⟨e', hcanonical',
        Entry.same_of_sameContent ((hsame'.symm.trans hunique).trans hsame)⟩

/-- A generalist that keeps continuity, under the revision of the other one. -/
def impostor : AgentType := { continuing with typeRef := generalist.typeRef, basedOn := none }

/-- A type is published and then deprecated; another type is refused for its revision. -/
theorem published_content_stays_generalist :
    ∃ error, (Catalog.empty.run DocFormat.verbatim [.publish (.agentType generalist),
        .setAgentTypeStatus generalist.typeRef .deprecated]).publish DocFormat.verbatim
      (.agentType impostor) = .error error := by
  have hdigest : Prod.fst <$> Catalog.empty.publish DocFormat.verbatim (.agentType generalist) =
      .ok ((Entry.agentType generalist).digest .verbatim) := by
    decide +kernel
  obtain ⟨x, hpublish, -⟩ := map_ok.mp hdigest
  have hstep : Catalog.empty.step DocFormat.verbatim (.publish (.agentType generalist)) = x.2 := by
    simp [step, exec, hpublish]
  obtain ⟨e, he, -, -, hother⟩ :=
    (published_content_stays DocFormat.verbatim DocFormat.verbatim_collisionFree
      DocFormat.verbatim_spelled [] [.setAgentTypeStatus generalist.typeRef .deprecated] _ rfl).2
      _ _ _ _ hpublish rfl
  rw [← hstep] at hother
  refine (hother (.agentType impostor) rfl ?_).1
  have hgeneralist : (Offer.agentType generalist).canonical .verbatim Catalog.empty =
      .ok (.agentType generalist) := by
    decide +kernel
  cases hgeneralist.symm.trans he
  rintro ⟨e', he', hsame⟩
  have himpostor : (Offer.agentType impostor).canonical .verbatim
      ((Catalog.empty.step DocFormat.verbatim (.publish (.agentType generalist))).run
        DocFormat.verbatim [.setAgentTypeStatus generalist.typeRef .deprecated]) =
      .ok (.agentType impostor) := by
    decide +kernel
  cases himpostor.symm.trans he'
  have hne : (Entry.agentType impostor).same (.agentType generalist) = false := by decide +kernel
  rw [hne] at hsame
  cases hsame

/-- A capability with an exact value. -/
def level : CapabilityRef := ⟨"level", 1, by decide, U64.one_ne_zero⟩

/-- A generalist that requires a level. -/
def levelled (value : Double) : AgentType :=
  { generalist with
    contract :=
      { generalist.contract with
        requiredCapabilities := .ofList [(level, .exact (.num (.float value)))] } }

/-- The level is defined and the type that requires level zero is published. -/
def levels : List CatalogOp :=
  [.publish (.capabilityDefinition level ⟨.exact, .functional, .ability⟩),
    .publish (.agentType (levelled (.of 0)))]

/-- The type may be published again with level zero but not with level minus zero, though the two
    offers canonicalize to records that compare equal: the documents differ. -/
theorem republication_splits_zeros :
    let c := Catalog.empty.run DocFormat.verbatim levels
    (Offer.agentType (levelled (.of 0))).canonical .verbatim c =
        .ok (.agentType (levelled (.of 0))) ∧
      (Offer.agentType (levelled .negZero)).canonical .verbatim c =
        .ok (.agentType (levelled .negZero)) ∧
      (Entry.agentType (levelled .negZero)).same (.agentType (levelled (.of 0))) = true ∧
      Prod.fst <$> c.publish .verbatim (.agentType (levelled (.of 0))) =
        .ok ((Entry.agentType (levelled (.of 0))).digest .verbatim) ∧
      (c.publish .verbatim (.agentType (levelled .negZero))).isOk = false := by
  decide +kernel

end Catalog

end Agentype.Agent

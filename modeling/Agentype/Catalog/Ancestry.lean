import Agentype.Catalog.History
import Mathlib.Logic.Relation

/-!
# `Agentype.Catalog.Ancestry` — chains of derived types

A type may be published as based on another, of which it must be a valid refinement. Only the direct
base is checked, and only at publication. That is enough for whole chains: refinement is a preorder
and does not depend on capabilities defined later, so a type refines all its ancestors; and a base
must be in the catalog before the type that names it, so no chain comes back to its start.

## Contents
- `BasedOn`, `Descends`, `run_descends`.
- **`based_on_chains_refine`**.
-/

namespace Agentype.Agent

open Check

variable {a : AgentType} {r b : AgentTypeRef}

namespace Catalog

variable {T D : Type} {F : DocFormat T D} {c c' : Catalog T D}

/-- Bases come earlier: some height falls along every stored base. -/
def Descends (c : Catalog T D) : Prop :=
  ∃ height : AgentTypeRef → ℕ, ∀ r row b, c.agentTypes.rows.lookup r = some row →
    row.basedOn = some b → height b < height r

theorem Descends.of_rows (h : Descends c) (hrows : c'.agentTypes.rows = c.agentTypes.rows) :
    Descends c' := by
  obtain ⟨height, hheight⟩ := h
  exact ⟨height, fun r row b hr => hheight r row b (hrows ▸ hr)⟩

section Runs

variable [DecidableEq T] [DecidableEq D]

/-- A new type comes after its base, and nothing is based on it yet. -/
theorem publishAgentType_descends (hs : Sound F c) (hd : Descends c) {agent : AgentType}
    {digest : D} (h : c.publishAgentType F agent = .ok (digest, c')) : Descends c' := by
  obtain ⟨a, -, -, hbase, -, -, ⟨rfl, -⟩ | ⟨types, hadd, rfl⟩⟩ := publishAgentType_ok h
  · exact hd
  obtain ⟨height, hheight⟩ := hd
  obtain ⟨⟨hfree, -⟩, -⟩ := Revisions.add_eq_some.mp hadd
  have hne : ∀ r row, c.agentTypes.rows.lookup r = some row → r ≠ a.typeRef := by
    rintro r row hr rfl
    rw [hfree] at hr
    cases hr
  refine ⟨Function.update height a.typeRef ((a.basedOn.map height).getD 0 + 1), ?_⟩
  intro r row b hr hb
  rcases Revisions.row_of_add hadd hr with ⟨rfl, rfl⟩ | hold
  · -- the new type: its base was already there, under another key
    obtain ⟨base, rfl, hholds, -⟩ := checkBase_ok hs hbase hb
    have hb' : a.basedOn = some base.typeRef := hb
    rw [Function.update_of_ne (hne _ _ hholds.row), Function.update_self, hb']
    exact Nat.lt_succ_self _
  · obtain ⟨a', rfl, hholds⟩ := hs.agentTypes r row hold
    have hrow := hholds.row
    rw [hold, Option.some.injEq] at hrow
    obtain ⟨base, hbaseRef, hbaseRow, -⟩ := hholds.base b (by rw [← hb, hrow]; rfl)
    rw [Function.update_of_ne (hne _ _ hbaseRow), Function.update_of_ne (hne _ _ hold)]
    exact hheight _ row b hold hb

theorem exec_descends (hs : Sound F c) (hd : Descends c) {op : CatalogOp}
    (h : c.exec F op = .ok c') : Descends c' := by
  cases op with
  | publish offer =>
    obtain ⟨⟨digest, c₁⟩, hx, rfl⟩ := map_ok.mp h
    cases offer with
    | agentType a => exact publishAgentType_descends hs hd hx
    -- no other publication writes the table
    | capabilityDefinition =>
      obtain ⟨-, -, ⟨rfl, -⟩ | ⟨-, rfl⟩⟩ := publishCapabilityDefinition_ok hx <;> exact hd
    | adapterBindingPolicy =>
      obtain ⟨-, -, -, ⟨rfl, -⟩ | ⟨_, -, rfl⟩⟩ := publishAdapterBindingPolicy_ok hx <;> exact hd
    | spawnSource =>
      obtain ⟨_, -, -, -, -, -, ⟨rfl, -⟩ | ⟨_, -, rfl⟩⟩ := publishSpawnSource_ok hs hx <;> exact hd
    | sourceConfig =>
      obtain ⟨_, _, -, -, -, -, -, -, -, ⟨rfl, -⟩ | ⟨_, -, rfl⟩⟩ := publishSourceConfig_ok hx <;>
        exact hd
  | setAgentTypeStatus r status =>
    obtain ⟨types, rfl, -, hrows⟩ := setAgentTypeStatus_ok h
    exact hd.of_rows hrows
  | setSpawnSourceStatus r status =>
    simp only [exec, setSpawnSourceStatus, bind_ok, pure_ok] at h
    obtain ⟨_, -, _, -, rfl⟩ := h
    exact hd.of_rows rfl
  | setSourceConfigStatus r status =>
    simp only [exec, setSourceConfigStatus, bind_ok, pure_ok] at h
    obtain ⟨_, -, _, -, _, -, rfl⟩ := h
    exact hd.of_rows rfl
  | setAdapterBindingPolicyStatus r status =>
    simp only [exec, setAdapterBindingPolicyStatus, bind_ok, pure_ok] at h
    obtain ⟨_, -, _, -, rfl⟩ := h
    exact hd.of_rows rfl

theorem run_descends (hs : Sound F c) (hd : Descends c) (ops : List CatalogOp) :
    Descends (c.run F ops) := by
  induction ops generalizing c with
  | nil => exact hd
  | cons op ops ih =>
    refine ih (step_sound hs op).2 ?_
    unfold step
    split
    · next c' h => exact exec_descends hs hd h
    · exact hd

/-! ## Chains -/

/-- The catalog has `r` as based on `b`. -/
def BasedOn (F : DocFormat T D) (c : Catalog T D) (r b : AgentTypeRef) : Prop :=
  ∃ a status, c.getAgentType F r = .ok (some (a, status)) ∧ a.basedOn = some b

/-- A type refines its base, which can be read since it was read before the type was published. -/
theorem BasedOn.refines (hs : Sound F c) (h : BasedOn F c r b) :
    ∃ a s base s', c.getAgentType F r = .ok (some (a, s)) ∧
      c.getAgentType F b = .ok (some (base, s')) ∧
      isValidRefinement base a c.capabilities = .ok () := by
  obtain ⟨a, s, hget, hb⟩ := h
  obtain ⟨⟨-, hholds, -⟩, -, hload⟩ := (getAgentType_ok hs).mp hget
  obtain ⟨base, rfl, hrow, hdecodes, hvalid⟩ := hholds.base b hb
  have hbase := HoldsAgentType.of_row hs hrow
  obtain ⟨s', hs'⟩ := hbase.status
  exact ⟨a, s, base, s', hget, (getAgentType_ok hs).mpr ⟨⟨rfl, hbase, hs'⟩, hdecodes, hload⟩, hvalid⟩

/-- A type refines every ancestor. -/
theorem refines_of_chain (hs : Sound F c) (h : Relation.TransGen (BasedOn F c) r b) :
    ∃ a s base s', c.getAgentType F r = .ok (some (a, s)) ∧
      c.getAgentType F b = .ok (some (base, s')) ∧
      isValidRefinement base a c.capabilities = .ok () := by
  induction h with
  | single h => exact h.refines hs
  | tail _ hlast ih =>
    obtain ⟨a, s, mid, _, ha, hmid, hvalid⟩ := ih
    obtain ⟨mid', _, base, s', hmid', hbase, hvalid'⟩ := hlast.refines hs
    cases hmid.symm.trans hmid'
    exact ⟨a, s, base, s', ha, hbase, isValidRefinement_trans hvalid' hvalid⟩

theorem height_of_chain (hs : Sound F c) {height : AgentTypeRef → ℕ}
    (hheight : ∀ r row b, c.agentTypes.rows.lookup r = some row → row.basedOn = some b →
      height b < height r) (h : Relation.TransGen (BasedOn F c) r b) : height b < height r := by
  have hstep : ∀ {r b : AgentTypeRef}, BasedOn F c r b → height b < height r := by
    rintro r b ⟨a, status, hget, hb⟩
    obtain ⟨⟨rfl, hholds, -⟩, -⟩ := (getAgentType_ok hs).mp hget
    exact hheight _ _ b hholds.row hb
  induction h with
  | single h => exact hstep h
  | tail _ hlast ih => exact (hstep hlast).trans ih

end Runs

/-- **Chains of derived types are safe.** Refinement is reflexive on the contracts that validate and
    transitive. In every catalog that any operations lead to, a type is a valid refinement of each
    of its ancestors, and no type is its own ancestor. -/
theorem based_on_chains_refine {T D : Type} [DecidableEq T] [DecidableEq D] (F : DocFormat T D) :
    (∀ (catalog : CapabilityCatalog) (a : AgentType), a.contract.validate catalog = .ok () →
      isValidRefinement a a catalog = .ok ()) ∧
    (∀ (catalog : CapabilityCatalog) (a b d : AgentType), isValidRefinement a b catalog = .ok () →
      isValidRefinement b d catalog = .ok () → isValidRefinement a d catalog = .ok ()) ∧
    ∀ ops : List CatalogOp, ∀ c : Catalog T D, c = Catalog.empty.run F ops →
      (∀ r b, Relation.TransGen (BasedOn F c) r b → ∃ a s base s' catalog,
        c.getAgentType F r = .ok (some (a, s)) ∧ c.getAgentType F b = .ok (some (base, s')) ∧
        c.loadCapabilityCatalog F = .ok catalog ∧ isValidRefinement base a catalog = .ok ()) ∧
      ∀ r, ¬ Relation.TransGen (BasedOn F c) r r := by
  refine ⟨fun _ _ => isValidRefinement_refl, fun _ _ _ _ => isValidRefinement_trans, ?_⟩
  rintro ops c rfl
  have hs := (run_sound (sound_empty (F := F)) ops).2
  refine ⟨fun r b h => ?_, fun r h => ?_⟩
  · obtain ⟨a, s, base, s', hget, hget', hvalid⟩ := refines_of_chain hs h
    exact ⟨a, s, base, s', _, hget, hget', ((getAgentType_ok hs).mp hget).2.2, hvalid⟩
  · obtain ⟨height, hheight⟩ :=
      run_descends (sound_empty (F := F)) ⟨fun _ => 0, fun _ _ _ hr => by cases hr⟩ ops
    exact absurd (height_of_chain hs hheight h) (lt_irrefl _)

/-- A confined type that may only read. -/
def reader : AgentType where
  typeRef := ⟨"confined-reader", 1, by decide, U64.one_ne_zero⟩
  basedOn := some confinedUser.typeRef
  contract := { confinedUser.contract with security := ⟨.readOnly, .enabled, false⟩ }

/-- Two capabilities and three generations of types, each based on the one before: a tool user, a
    confined one and a reader. -/
def lineage : List CatalogOp :=
  [.publish (.capabilityDefinition confined ⟨.bool, .sandbox, .restriction⟩),
    .publish (.capabilityDefinition tools ⟨.set, .functional, .ability⟩),
    .publish (.agentType toolUser), .publish (.agentType confinedUser), .publish (.agentType reader)]

/-- The reader refines the tool user, of which it is not directly derived. -/
theorem based_on_chains_refine_lineage :
    ∃ a s base s' catalog,
      (Catalog.empty.run DocFormat.verbatim lineage).getAgentType DocFormat.verbatim
        reader.typeRef = .ok (some (a, s)) ∧
      (Catalog.empty.run DocFormat.verbatim lineage).getAgentType DocFormat.verbatim
        toolUser.typeRef = .ok (some (base, s')) ∧
      (Catalog.empty.run DocFormat.verbatim lineage).loadCapabilityCatalog DocFormat.verbatim =
        .ok catalog ∧
      isValidRefinement base a catalog = .ok () := by
  have hreader : BasedOn DocFormat.verbatim (Catalog.empty.run DocFormat.verbatim lineage)
      reader.typeRef confinedUser.typeRef := ⟨reader, .published, by decide +kernel, rfl⟩
  have hconfined : BasedOn DocFormat.verbatim (Catalog.empty.run DocFormat.verbatim lineage)
      confinedUser.typeRef toolUser.typeRef := ⟨confinedUser, .published, by decide +kernel, rfl⟩
  exact ((based_on_chains_refine DocFormat.verbatim).2.2 lineage _ rfl).1 _ _
    (.tail (.single hreader) hconfined)

end Catalog

end Agentype.Agent

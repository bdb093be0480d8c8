import Agentype.Physical.Presence

/-!
# `Agentype.Scheduler.Agents` — topology moves agents and nothing else

Reconciliation, capacity moves, merges, retirements, births and revivals touch no claim and no
decision: on the board each of them is one move of the agents, and below it only idle agents lose
incarnations. The rows such an operation works on were read before its loop; what the loop needs of
them (that an agent is idle, that it is under no obligation) survives the iterations in between.

## Contents
- `AgentsOnly s s'`: a preorder on stores; one lemma per way an agent row may be written.
- `Reshapes env s s'`: the same with the physical rows, which a topology operation leaves quiet.
- One lemma per operation, from the loop body up.
-/

namespace Agentype

open Relational Tx Store Board

variable {env : Env} {s s' s₁ s₂ : Store}
variable {row : AgentRow} {p q : PartitionId} {m : LogicalAgentId × AgentRow} {r : Nat}

/-- Only agents moved, and only as the board allows. -/
def AgentsOnly (s s' : Store) : Prop :=
  ∃ ag', AgentsMove s.board.Obligated s.board.agent ag' ∧ s'.board = s.board.withAgents ag'

namespace AgentsOnly

theorem of_board_eq (h : s'.board = s.board) : AgentsOnly s s' := ⟨_, .refl _, h⟩

theorem trans (h : AgentsOnly s s₁) (h' : AgentsOnly s₁ s₂) : AgentsOnly s s₂ := by
  obtain ⟨ag₁, hmove₁, hb₁⟩ := h
  obtain ⟨ag₂, hmove₂, hb₂⟩ := h'
  rw [hb₁] at hmove₂ hb₂
  exact ⟨ag₂, hmove₁.trans hmove₂, hb₂⟩

theorem step (h : AgentsOnly s s') : Step s.board s'.board := by
  obtain ⟨ag', hmove, hb⟩ := h
  rw [hb]
  exact .agents hmove

theorem sound (h : AgentsOnly s s') (hs : s.board.Sound) : s'.board.Sound := hs.step h.step

/-- Obligations are told by the escalations alone. -/
theorem obligated_iff (h : AgentsOnly s s') (g : LogicalAgentId) :
    s'.board.Obligated g ↔ s.board.Obligated g := by
  obtain ⟨ag', -, hb⟩ := h
  rw [hb]
  exact Iff.rfl

/-- An agent keeps its task, and with it its idleness. -/
theorem agent (h : AgentsOnly s s') {g : LogicalAgentId} {u : AgentView}
    (hu : s.board.agent g = some u) :
    ∃ u', s'.board.agent g = some u' ∧ u'.current = u.current := by
  obtain ⟨ag', hmove, hb⟩ := h
  obtain ⟨u', hu', hm⟩ := hmove.move g u hu
  exact ⟨u', by rw [hb]; exact hu', hm.current⟩

/-- One agent row is written. -/
theorem of_update {g : LogicalAgentId} {u u' : AgentView} (hu : s.board.agent g = some u)
    (h : s'.board = s.board.withAgents (Function.update s.board.agent g (some u')))
    (hm : AgentMove s.board.Obligated g u u') : AgentsOnly s s' :=
  ⟨_, .update hu hm, h⟩

end AgentsOnly

/-- A topology operation moves agents only, and only idle agents lose incarnations. -/
structure Reshapes (env : Env) (s s' : Store) : Prop where
  agents : AgentsOnly s s'
  quiet : Quiet env s s'

namespace Reshapes

theorem refl (s : Store) : Reshapes env s s := ⟨.of_board_eq rfl, refl_of (Quiet env) s⟩

theorem trans (h : Reshapes env s s₁) (h' : Reshapes env s₁ s₂) : Reshapes env s s₂ :=
  ⟨h.agents.trans h'.agents, trans_of (Quiet env) h.quiet h'.quiet⟩

theorem sound (h : Reshapes env s s') (hs : s.board.Sound) : s'.board.Sound := h.agents.sound hs

/-- Statements that write neither the board nor the physical rows. -/
theorem of_touches {α : Type} {W : List TableName} {x : KernelTx α} [Touches W x] {a : α}
    (h : Runs env x s a s') (hW : decide (∀ n ∈ boardTables ++ physicalTables, n ∉ W) = true) :
    Reshapes env s s' :=
  have hall := of_decide_eq_true hW
  ⟨.of_board_eq (board_frame h (decide_eq_true fun n hn => hall n (List.mem_append_left _ hn))),
    h.respects (.aside (decide_eq_true fun n hn => hall n (List.mem_append_right _ hn)))⟩

/-- An agent that was idle and free when it was read still is. -/
theorem idle_free (h : Reshapes env s s₁) (hs : s.board.Sound) {g : LogicalAgentId}
    (hrow : s.logicalAgents.lookup g = some row) (hidle : row.currentTaskId = none)
    (hf : row.state.fenced = false) :
    ∃ v, s₁.board.agent g = some v ∧ v.current = none ∧ ¬ s₁.board.Obligated g := by
  have hu : s.board.agent g = some row.view := Table.view_of_lookup hrow
  obtain ⟨v, hv, hc⟩ := h.agents.agent hu
  exact ⟨v, hv, hc.trans hidle,
    fun ho => hs.not_obligated hu hf ((h.agents.obligated_iff g).mp ho)⟩

end Reshapes

/-! ## Writing one agent -/

section Agent

variable {g : LogicalAgentId} {f : AgentRow → AgentRow} {u : Unit} {v : AgentView}

/-- An idle agent is retired. -/
theorem retireLogicalAgent_reshapes (hs : s.board.Sound)
    (h : Runs env (retireLogicalAgent g) s u s') (hv : s.board.agent g = some v)
    (hidle : v.current = none) : Reshapes env s s' := by
  refine ⟨.of_update hv (retireLogicalAgent_board h hv)
    ⟨hidle.symm, ?_, fun _ _ => LogicalAgentState.noConfusion, fun _ _ => rfl⟩,
    retireLogicalAgent_quiet (idleAgent_of_current hs hv hidle) h⟩
  intro hc
  rw [hidle] at hc
  cases hc

/-- An idle agent under no obligation is released. -/
theorem releaseAgent_reshapes (hs : s.board.Sound) (h : Runs env (releaseAgent g) s u s')
    (hv : s.board.agent g = some v) (hidle : v.current = none)
    (hfree : ¬ s.board.Obligated g) : Reshapes env s s' := by
  obtain ⟨_, ag, -, hag, hb⟩ := releaseAgent_board h
  refine ⟨.of_update hv hb ⟨hidle.symm, ?_,
    fun _ _ => LogicalAgentState.ne_assigned_of_released hag, fun ho => absurd ho hfree⟩,
    releaseAgent_quiet (idleAgent_of_current hs hv hidle) h⟩
  intro hc
  rw [hidle] at hc
  cases hc

/-- An agent under no obligation starts draining, or becomes ready when it is idle. -/
theorem free_reshapes {st : LogicalAgentState} (h : Runs env (updateAgent g f) s u s')
    (hv : s.board.agent g = some v) (hfree : ¬ s.board.Obligated g)
    (hst : st = .draining ∨ st = .ready ∧ v.current = none)
    (hf : ∀ r : AgentRow, (f r).view = ⟨st, r.currentTaskId⟩) : Reshapes env s s' := by
  have hb : s'.board = s.board.withAgents (Function.update s.board.agent g (some ⟨st, v.current⟩)) :=
    updateAgent_board h hv fun r hr => by rw [hf r, ← hr]; rfl
  refine ⟨.of_update hv hb ⟨rfl, fun hc => ?_, fun _ _ => ?_, fun ho => absurd ho hfree⟩,
    h.respects (.aside rfl)⟩
  · rcases hst with rfl | ⟨-, hidle⟩
    · exact fun _ => rfl
    · rw [hidle] at hc
      cases hc
  · rcases hst with rfl | ⟨rfl, -⟩ <;> exact LogicalAgentState.noConfusion

/-- Agent rows change in columns the board does not show. -/
theorem updateAgents_reshapes {c : LogicalAgentId → AgentRow → Bool}
    (h : Runs env (updateIn logicalAgentsT constraintViolation c f) s u s')
    (hf : ∀ r : AgentRow, (f r).view = r.view) : Reshapes env s s' :=
  ⟨.of_board_eq (h.respects (shown_agents.invisible hf)), h.respects (.aside rfl)⟩

theorem requestPartitionCutover_reshapes {r : PartitionId × PartitionRow}
    (h : Runs env (requestPartitionCutover g row p) s r s') : Reshapes env s s' :=
  ⟨.of_board_eq (h.respects requestPartitionCutover_invisible),
    h.respects (requestPartitionCutover_quiet g row p)⟩

theorem birthAgent_reshapes {w : Option WorkstreamId} {tags : Option (List String)}
    (h : Runs env (birthAgent p w tags) s g s') : Reshapes env s s' := by
  obtain ⟨hnone, hb⟩ := birthAgent_board h
  exact ⟨⟨_, .birth hnone, hb⟩, h.respects (.aside rfl)⟩

end Agent

/-! ## Reconciliation -/

theorem idleDrains_mem {g : LogicalAgentId} (h : g ∈ s.idleDrains) :
    ∃ row, s.logicalAgents.lookup g = some row ∧ row.state = .draining ∧
      row.currentTaskId = none := by
  unfold idleDrains orderByKey at h
  obtain ⟨⟨g', row⟩, hmem, rfl⟩ := List.mem_map.mp h
  rw [List.mem_insertionSort, List.mem_filter, Table.mem_rows] at hmem
  obtain ⟨hrow, hp⟩ := hmem
  simp only [Bool.and_eq_true, decide_eq_true_eq, Option.isNone_iff_eq_none] at hp
  exact ⟨row, hrow, hp.1.1.1, hp.1.1.2⟩

/-- The untyped agents of a selection are among the selected. -/
theorem unboundAmong_mem {rows ms : List (LogicalAgentId × AgentRow)}
    (h : s.unboundAmong rows = .ok ms) (hm : m ∈ ms) : m ∈ rows := by
  unfold unboundAmong at h
  obtain ⟨marked, hmarked, h⟩ := Check.bind_ok.mp h
  obtain rfl := Except.ok.inj h
  obtain ⟨⟨x, ref⟩, hx, rfl⟩ := List.mem_map.mp hm
  obtain ⟨y, hy, hf⟩ := Check.mem_of_mapM_ok hmarked (List.mem_filter.mp hx).1
  obtain ⟨ref', -, hpair⟩ := Check.bind_ok.mp hf
  obtain ⟨rfl, -⟩ := Prod.mk.inj (Except.ok.inj hpair)
  exact hy

theorem capacityMembers_mem {ms : List (LogicalAgentId × AgentRow)}
    (h : s.capacityMembers p = .ok ms) (hm : m ∈ ms) :
    s.logicalAgents.lookup m.1 = some m.2 ∧ m.2.state.isLiveMember = true := by
  have hmem := unboundAmong_mem h hm
  rw [List.mem_filter, Table.mem_rows] at hmem
  obtain ⟨hrow, hp⟩ := hmem
  simp only [Bool.and_eq_true] at hp
  exact ⟨hrow, hp.1.2⟩

/-- Shrinking retires an idle member and drains one that holds a task. -/
theorem shrinkMember_reshapes {u : Unit} (hs : s.board.Sound)
    (hrow : s.logicalAgents.lookup m.1 = some m.2) (hlive : m.2.state.isLiveMember = true)
    (hpre : Reshapes env s s₁) (h : Runs env (shrinkMember (m.2.member m.1 false)) s₁ u s₂) :
    Reshapes env s₁ s₂ := by
  have hv : s.board.agent m.1 = some m.2.view := Table.view_of_lookup hrow
  obtain ⟨v, hv₁, hc⟩ := hpre.agents.agent hv
  unfold shrinkMember at h
  split at h
  · rename_i hdirect
    have hidle : m.2.currentTaskId.isSome = false := excessDisposition_retireDirectly hdirect
    exact retireLogicalAgent_reshapes (hpre.sound hs) h hv₁
      (hc.trans (Option.isNone_iff_eq_none.mp (Option.isSome_eq_false_iff.mp hidle)))
  · refine free_reshapes h hv₁ (fun ho => ?_) (.inl rfl) fun r => rfl
    refine hs.not_obligated hv ?_ ((hpre.agents.obligated_iff _).mp ho)
    show m.2.state.fenced = false
    revert hlive
    cases m.2.state <;> decide

theorem reconcilePartition_reshapes {x : PartitionId × PartitionRow} {r : ReconcileReport}
    (hs : s.board.Sound) (h : Runs env (reconcilePartition x) s r s') : Reshapes env s s' := by
  unfold reconcilePartition at h
  obtain ⟨ms, hms, h⟩ := h.examine_bind
  obtain ⟨_, s₁, hbirths, h⟩ := h.bind
  obtain ⟨_, s₂, hshrink, h⟩ := h.bind
  obtain ⟨-, rfl⟩ := h.pure
  have hborn : Reshapes env s s₁ := by
    refine hbirths.forM (P := Reshapes env s) (.refl s) fun _ _ sa sb _ hpre hbody => ?_
    obtain ⟨_, sc, hbirth, hp⟩ := hbody.bind
    obtain ⟨-, rfl⟩ := hp.pure
    exact hpre.trans (birthAgent_reshapes hbirth)
  refine hshrink.forM (P := Reshapes env s) hborn fun c hc sa sb _ hpre hbody => ?_
  have hmem := List.mem_of_mem_take hc
  unfold sortExcessCandidates at hmem
  rw [List.mem_insertionSort] at hmem
  obtain ⟨m, hm, rfl⟩ := List.mem_map.mp hmem
  obtain ⟨hrow, hlive⟩ := capacityMembers_mem hms hm
  exact hpre.trans (shrinkMember_reshapes hs hrow hlive hpre hbody)

/-- The drained idle agents are released. -/
theorem releaseDrains_reshapes {u : PUnit} (hs : s.board.Sound)
    (h : Runs env (s.idleDrains.forM releaseAgent) s u s') : Reshapes env s s' := by
  refine h.forM (P := Reshapes env s) (.refl s) fun g hg sa sb _ hpre hbody => ?_
  obtain ⟨row, hrow, hstate, hidle⟩ := idleDrains_mem hg
  obtain ⟨v, hv, hc, hfree⟩ := hpre.idle_free hs hrow hidle (by rw [hstate]; rfl)
  exact hpre.trans (releaseAgent_reshapes (hpre.sound hs) hbody hv hc hfree)

theorem reconcilePool_reshapes {r : ReconcileReport} (hs : s.board.Sound)
    (h : Runs env reconcilePool s r s') : Reshapes env s s' := by
  unfold reconcilePool at h
  obtain ⟨_, s₁, hdrain, h⟩ := h.query_bind.bind
  obtain ⟨_, s₂, hparts, h⟩ := h.query_bind.bind
  obtain ⟨-, rfl⟩ := h.pure
  exact hparts.mapM (P := Reshapes env s) (releaseDrains_reshapes hs hdrain)
    fun x _ sa sb _ hpre hbody => hpre.trans (reconcilePartition_reshapes (hpre.sound hs) hbody)

/-! ## Capacity moves -/

theorem updatePartition_reshapes {f : PartitionRow → PartitionRow} {u : Unit}
    (h : Runs env (updatePartition p f) s u s') : Reshapes env s s' :=
  .of_touches h rfl

theorem insertRevision_reshapes {n : Nat} (h : Runs env insertRevision s n s') :
    Reshapes env s s' :=
  .of_touches h rfl

theorem moveMember_reshapes {g : LogicalAgentId} {u : Unit} (hs : s.board.Sound)
    (hrow : s.logicalAgents.lookup g = some row) (hpre : Reshapes env s s₁)
    (h : Runs env (moveMember p g row) s₁ u s₂) : Reshapes env s₁ s₂ := by
  have hv : s.board.agent g = some row.view := Table.view_of_lookup hrow
  obtain ⟨v, hv₁, hc⟩ := hpre.agents.agent hv
  unfold moveMember planMoveCutover at h
  have h := h.ask_bind
  split at h
  · rename_i hplan
    refine free_reshapes h hv₁ (fun ho => ?_) (.inl rfl) fun r => rfl
    refine hs.not_obligated hv ?_ ((hpre.agents.obligated_iff _).mp ho)
    show row.state.fenced = false
    split at hplan
    · rename_i hassigned
      rcases (Bool.or_eq_true _ _).mp hassigned with hcur | hst
      · have hholds : row.state.holds = true := hs.holds_of_current hv hcur
        revert hholds
        cases row.state <;> decide
      · rw [of_decide_eq_true hst]
        rfl
    · cases hplan
  · rename_i restore hplan
    split at hplan
    · cases hplan
    · rename_i hassigned
      obtain rfl := MoveCutoverPlan.reconnectCutover.inj hplan
      simp only [Bool.or_eq_true, decide_eq_true_eq, not_or] at hassigned
      have hidle : row.currentTaskId = none := Option.not_isSome_iff_eq_none.mp hassigned.1
      obtain ⟨_, s₃, hreq, h⟩ := h.bind
      have hcut := requestPartitionCutover_reshapes hreq
      rcases h.whenever with ⟨hready, h⟩ | ⟨-, rfl⟩
      · have hdraining : row.state = .draining := of_decide_eq_true hready
        obtain ⟨v', hv', hc', hfree⟩ :=
          (hpre.trans hcut).idle_free hs hrow hidle (by rw [hdraining]; rfl)
        exact hcut.trans (free_reshapes h hv' hfree (.inr ⟨rfl, hc'⟩) fun r => rfl)
      · exact hcut

theorem moveCapacity_reshapes {n : Int} (hs : s.board.Sound)
    (h : Runs env (moveCapacity p q n) s r s') : Reshapes env s s' := by
  unfold moveCapacity at h
  obtain ⟨_, h⟩ := h.require_bind
  obtain ⟨_, h⟩ := h.require_bind
  obtain ⟨source, -, h⟩ := h.fetch_bind
  obtain ⟨target, -, h⟩ := h.fetch_bind
  obtain ⟨_, h⟩ := h.require_bind
  obtain ⟨_, s₁, h₁, h⟩ := h.bind
  obtain ⟨_, s₂, h₂, h⟩ := h.bind
  obtain ⟨_, s₃, h₃, h⟩ := h.bind
  have hresized : Reshapes env s s₃ :=
    ((insertRevision_reshapes h₁).trans (updatePartition_reshapes h₂)).trans
      (updatePartition_reshapes h₃)
  obtain ⟨ms, hms, h⟩ := h.examine_bind
  obtain ⟨_, s₄, hmove, h⟩ := h.bind
  obtain ⟨-, rfl⟩ := h.pure
  refine hresized.trans ?_
  refine hmove.forM (P := Reshapes env s₃) (.refl s₃) fun m hm sa sb _ hpre hbody => ?_
  have hmem := List.mem_of_mem_take hm
  rw [List.mem_insertionSort] at hmem
  have hrow := unboundAmong_mem hms (List.mem_filter.mp hmem).1
  rw [List.mem_filter, Table.mem_rows] at hrow
  exact hpre.trans (moveMember_reshapes (hresized.sound hs) hrow.1 hpre hbody)

/-! ## Merging and retiring partitions -/

theorem mergeImmediate_mem {x : LogicalAgentId × AgentRow} (h : x ∈ s.mergeImmediate p) :
    s.logicalAgents.lookup x.1 = some x.2 ∧ (x.2.state = .draining → x.2.currentTaskId = none) := by
  unfold mergeImmediate at h
  rw [List.mem_filter, Table.mem_rows] at h
  refine ⟨h.1, fun hd => ?_⟩
  have hp := h.2
  simp only [hd, Bool.and_eq_true, decide_eq_true_eq, Bool.false_or,
    Option.isNone_iff_eq_none] at hp
  exact hp.2.2

theorem mergeMember_reshapes {g : LogicalAgentId} {u : Unit} (hs : s.board.Sound)
    (hrow : s.logicalAgents.lookup g = some row)
    (hidle : row.state = .draining → row.currentTaskId = none) (hpre : Reshapes env s s₁)
    (h : Runs env (mergeMember p q g row) s₁ u s₂) : Reshapes env s₁ s₂ := by
  unfold mergeMember at h
  split at h
  · rename_i hdraining
    obtain ⟨_, s₃, h₁, h₂⟩ := h.bind
    have hstay : Reshapes env s₁ s₃ := updateAgents_reshapes h₁ fun r => rfl
    have hpre := hpre.trans hstay
    obtain ⟨v, hv, hc, hfree⟩ := hpre.idle_free hs hrow (hidle hdraining) (by rw [hdraining]; rfl)
    exact hstay.trans (releaseAgent_reshapes (hpre.sound hs) h₂ hv hc hfree)
  · obtain ⟨_, s₃, h₁, h₂⟩ := h.bind
    obtain ⟨-, rfl⟩ := h₂.pure
    exact requestPartitionCutover_reshapes h₁

theorem mergePartitions_reshapes (hs : s.board.Sound) (h : Runs env (mergePartitions p q) s r s') :
    Reshapes env s s' := by
  unfold mergePartitions at h
  obtain ⟨_, h⟩ := h.require_bind
  obtain ⟨source, -, h⟩ := h.fetch_bind
  obtain ⟨target, -, h⟩ := h.fetch_bind
  obtain ⟨_, -, h⟩ := h.examine_bind
  obtain ⟨_, s₁, h₁, h⟩ := h.bind
  obtain ⟨_, s₂, h₂, h⟩ := h.bind
  obtain ⟨_, s₃, h₃, h⟩ := h.bind
  have hmoved : Reshapes env s₁ s₂ :=
    ⟨.of_board_eq (h₂.respects (shown_tasks.invisible fun _ => rfl)), h₂.respects (.aside rfl)⟩
  have hstart : Reshapes env s s₃ :=
    ((insertRevision_reshapes h₁).trans hmoved).trans (updateAgents_reshapes h₃ fun r => rfl)
  obtain ⟨_, s₄, hloop, h⟩ := h.query_bind.bind
  obtain ⟨_, s₅, h₅, h⟩ := h.bind
  obtain ⟨_, s₆, h₆, h⟩ := h.bind
  obtain ⟨_, s₇, h₇, h⟩ := h.bind
  obtain ⟨-, rfl⟩ := h.pure
  have hend : Reshapes env s₄ s' :=
    ((updateAgents_reshapes h₅ fun r => rfl).trans (updatePartition_reshapes h₆)).trans
      (updatePartition_reshapes h₇)
  have hmerged : Reshapes env s₃ s₄ := by
    refine hloop.forM (P := Reshapes env s₃) (.refl s₃) fun x hx sa sb _ hpre hbody => ?_
    obtain ⟨hrow, hidle⟩ := mergeImmediate_mem hx
    exact hpre.trans (mergeMember_reshapes (hstart.sound hs) hrow hidle hpre hbody)
  exact hstart.trans (hmerged.trans hend)

theorem departMember_reshapes {g : LogicalAgentId} {u : Unit} (hs : s.board.Sound)
    (hrow : s.logicalAgents.lookup g = some row) (hidle : row.currentTaskId = none)
    (hpre : Reshapes env s s₁) (h : Runs env (departMember g row) s₁ u s₂) :
    Reshapes env s₁ s₂ := by
  unfold departMember at h
  split at h
  · rename_i hdraining
    obtain ⟨v, hv, hc, hfree⟩ := hpre.idle_free hs hrow hidle (by rw [hdraining]; rfl)
    exact releaseAgent_reshapes (hpre.sound hs) h hv hc hfree
  · split at h
    · obtain ⟨_, s₃, h₁, h₂⟩ := h.bind
      obtain ⟨-, rfl⟩ := h₂.pure
      exact requestPartitionCutover_reshapes h₁
    · obtain ⟨-, rfl⟩ := h.pure
      exact .refl _

theorem departing_mem {x : LogicalAgentId × AgentRow} (h : x ∈ s.departing p) :
    s.logicalAgents.lookup x.1 = some x.2 ∧ x.2.currentTaskId = none := by
  unfold departing orderByKey at h
  rw [List.mem_insertionSort, List.mem_filter, Table.mem_rows] at h
  have hp := h.2
  simp only [Bool.and_eq_true, Option.isNone_iff_eq_none] at hp
  exact ⟨h.1, hp.1.2⟩

/-- The idle members that are headed elsewhere leave. -/
theorem departMembers_reshapes {u : PUnit} (hs : s.board.Sound)
    (h : Runs env ((s.departing p).forM fun x => departMember x.1 x.2) s u s') :
    Reshapes env s s' := by
  refine h.forM (P := Reshapes env s) (.refl s) fun x hx sa sb _ hpre hbody => ?_
  obtain ⟨hrow, hidle⟩ := departing_mem hx
  exact hpre.trans (departMember_reshapes hs hrow hidle hpre hbody)

/-- Members that retire with their partition hold no task. -/
theorem retiringIdle_mem {g : LogicalAgentId} (hs : s.board.Sound) (h : g ∈ s.retiringIdle p) :
    ∃ row, s.logicalAgents.lookup g = some row ∧ row.currentTaskId = none := by
  unfold retiringIdle at h
  obtain ⟨⟨g', row⟩, hmem, rfl⟩ := List.mem_map.mp h
  rw [List.mem_filter, Table.mem_rows] at hmem
  refine ⟨row, hmem.1, ?_⟩
  by_contra hcur
  have hholds : row.state.holds = true :=
    hs.holds_of_current (Table.view_of_lookup hmem.1) (Option.isSome_iff_ne_none.mpr hcur)
  have hp := ((Bool.and_eq_true _ _).mp hmem.2).2
  revert hp hholds
  dsimp only
  cases row.state <;> decide

/-- Every working member of a retired partition starts draining. -/
theorem drainMembers_reshapes {c : LogicalAgentId → AgentRow → Bool} {u : Unit}
    (hs : s.board.Sound)
    (h : Runs env (updateIn logicalAgentsT constraintViolation c
      fun a => { a with state := .draining, retirementRequested := true }) s u s')
    (hc : ∀ g row, c g row = true → row.state = .assigned) : Reshapes env s s' := by
  refine ⟨?_, h.respects (.aside rfl)⟩
  obtain ⟨t', ht', rfl⟩ := h.updateIn
  refine ⟨t'.view AgentRow.view, ⟨fun g u hu => ?_, fun g u' hnone hu' => ?_⟩, rfl⟩
  · obtain ⟨row, hrow, rfl⟩ := Table.view_eq_some.mp hu
    have hl := Table.lookup_of_update ht' g
    change _ = (s.logicalAgents.lookup g).map _ at hl
    rw [hrow, Option.map_some] at hl
    refine ⟨_, Table.view_of_lookup hl, ?_⟩
    unfold Table.updateRow
    split
    · rename_i hsel
      refine ⟨rfl, fun _ _ => rfl, fun _ _ => LogicalAgentState.noConfusion, fun ho => ?_⟩
      exact absurd ho (hs.not_obligated hu (by rw [AgentRow.view, hc g row hsel]; rfl))
    · exact .refl _
  · obtain ⟨row', hrow', -⟩ := Table.view_eq_some.mp hu'
    have hsome := Table.lookup_isSome_of_update ht' g
    change _ = (s.logicalAgents.lookup g).isSome at hsome
    rw [hrow', Table.view_eq_none.mp hnone] at hsome
    cases hsome

theorem rejectFound_bind {α β : Type} {o : Option α} {f : α → String} {k : Unit → KernelTx β}
    {b : β} (h : Runs env (rejectFound o f >>= k) s b s') : Runs env (k ()) s b s' := by
  obtain ⟨_, s₁, h₁, h₂⟩ := h.bind
  unfold rejectFound at h₁
  split at h₁
  · exact h₁.fail.elim
  · obtain ⟨-, rfl⟩ := h₁.pure
    exact h₂

theorem retirePartition_reshapes (hs : s.board.Sound) (h : Runs env (retirePartition p) s r s') :
    Reshapes env s s' := by
  unfold retirePartition at h
  obtain ⟨_, -, h⟩ := h.fetch_bind
  have h := rejectFound_bind (rejectFound_bind (rejectFound_bind h.query_bind).query_bind).query_bind
  obtain ⟨_, s₁, hleave, h⟩ := h.query_bind.bind
  obtain ⟨_, s₂, hrev, h⟩ := h.bind
  obtain ⟨_, s₃, hretire, h⟩ := h.query_bind.bind
  obtain ⟨_, s₄, hdrain, h⟩ := h.bind
  obtain ⟨_, s₅, hpart, h⟩ := h.bind
  obtain ⟨-, rfl⟩ := h.pure
  have h₂ : Reshapes env s s₂ :=
    (departMembers_reshapes hs hleave).trans (insertRevision_reshapes hrev)
  have hs₂ := h₂.sound hs
  have hretired : Reshapes env s₂ s₃ := by
    refine hretire.forM (P := Reshapes env s₂) (.refl s₂) fun g hg sa sb _ hpre hbody => ?_
    obtain ⟨row, hrow, hidle⟩ := retiringIdle_mem hs₂ hg
    obtain ⟨v, hv, hc⟩ := hpre.agents.agent (Table.view_of_lookup hrow)
    exact hpre.trans (retireLogicalAgent_reshapes (hpre.sound hs₂) hbody hv (hc.trans hidle))
  have hdrained : Reshapes env s₃ s₄ := by
    refine drainMembers_reshapes (hretired.sound hs₂) hdrain fun g row hp => ?_
    simp only [Bool.and_eq_true, decide_eq_true_eq] at hp
    exact hp.2
  exact h₂.trans (hretired.trans (hdrained.trans (updatePartition_reshapes hpart)))

/-! ## Consumers and revival -/

theorem ensureTaskConsumers_reshapes {u : Unit} (h : Runs env ensureTaskConsumers s u s') :
    Reshapes env s s' := by
  unfold ensureTaskConsumers at h
  refine h.query_bind.forM (P := Reshapes env s) (.refl s) fun x _ sa sb _ hpre hbody => ?_
  unfold ensureConsumer at hbody
  rcases hbody.query_bind.query_bind.whenever with ⟨-, hbirth⟩ | ⟨-, rfl⟩
  · obtain ⟨_, sc, hbirth, hp⟩ := hbirth.bind
    obtain ⟨-, rfl⟩ := hp.pure
    exact hpre.trans (birthAgent_reshapes hbirth)
  · exact hpre

/-- The revival check finds an obligation exactly when the board shows one. -/
theorem revivalBlocked_eq_false {g : LogicalAgentId} (h : s.revivalBlocked g = false) :
    ¬ s.board.Obligated g := by
  rintro ⟨e, x, hx, ho, htag, hg⟩
  obtain ⟨row, hrow, rfl⟩ := Table.view_eq_some.mp hx
  unfold revivalBlocked at h
  rw [List.any_eq_false] at h
  refine h (e, row) (Table.mem_rows.mpr hrow) ?_
  simp only [Bool.and_eq_true, decide_eq_true_eq]
  exact ⟨⟨hg, of_decide_eq_true ho⟩, htag⟩

theorem reviveAgent_reshapes {g : LogicalAgentId} {target : String} {u : Unit}
    (h : Runs env (reviveAgent g target) s u s') : Reshapes env s s' := by
  unfold reviveAgent at h
  obtain ⟨row, hrow, h⟩ := h.ask_bind.fetch_bind
  obtain ⟨_, h⟩ := h.require_bind
  obtain ⟨hfree, h⟩ := h.query_bind.require_bind
  obtain ⟨hidle, h⟩ := h.query_bind.require_bind
  obtain ⟨partition, -, h⟩ := h.fetch_bind
  obtain ⟨_, h⟩ := h.require_bind
  simp only [Bool.not_eq_true', Bool.or_eq_false_iff] at hfree hidle
  exact free_reshapes h (Table.view_of_lookup hrow) (revivalBlocked_eq_false hfree)
    (.inr ⟨rfl, Option.isNone_iff_eq_none.mp (Option.isSome_eq_false_iff.mp hidle.1)⟩) fun r => rfl

end Agentype

import Mathlib.Logic.Relation
import Mathlib.Order.WellFoundedSet

/-!
# `Agentype.Lib.Dfs` — depth-first search for cycles

A depth-first search over a finite graph given by its successor lists. It keeps the nodes of the
current path and the nodes already finished, and fails exactly when it meets a node of its own
path. The fuel bounds the depth of the recursion: a path never repeats a node, so one round more
than there are nodes is enough.

## Contents
- `visit`, `search`: the search.
- `Topological succ done`: a list in which the successors of a node come after it; such a list
  has no cycle.
- `visit_topological`: what a successful visit has finished is in topological order.
- `visit_isSome`: a visit succeeds when there is no cycle.
- **`search_isSome_iff`**: a search succeeds exactly on acyclic graphs, in whichever order the nodes
  are listed.
-/

namespace Dfs

variable {α : Type} [DecidableEq α]

/-- Finish a node and everything it reaches: the finished nodes, or `none` on a cycle. -/
def visit (succ : α → List α) : Nat → List α → List α → α → Option (List α)
  | 0, _, _, _ => none
  | fuel + 1, path, finished, node =>
    if node ∈ path then none
    else if node ∈ finished then some finished
    else
      ((succ node).foldlM (fun done next => visit succ fuel (node :: path) done next) finished).map
        fun done => node :: done

/-- Search from every listed node. -/
def search (succ : α → List α) (nodes : List α) : Option (List α) :=
  nodes.foldlM (fun done node => visit succ (nodes.length + 1) [] done node) []

/-! ## Topological order -/

/-- The edges of the graph. -/
abbrev Edge (succ : α → List α) (a b : α) : Prop := b ∈ succ a

/-- Each node comes before its successors, and once. -/
inductive Topological (succ : α → List α) : List α → Prop
  | nil : Topological succ []
  | cons {node : α} {done : List α} (hnew : node ∉ done) (hsucc : ∀ next ∈ succ node, next ∈ done)
      (hdone : Topological succ done) : Topological succ (node :: done)

variable {succ : α → List α}

omit [DecidableEq α] in
/-- What is finished reaches only what is finished. -/
theorem Topological.closed {done : List α} (h : Topological succ done) {a b : α} (ha : a ∈ done)
    (hpath : Relation.TransGen (Edge succ) a b) : b ∈ done := by
  have hstep : ∀ {a b}, a ∈ done → Edge succ a b → b ∈ done := by
    clear ha hpath
    intro a b ha hab
    induction h with
    | nil => cases ha
    | cons _ hsucc _ ih =>
      rcases List.mem_cons.mp ha with rfl | ha
      · exact List.mem_cons_of_mem _ (hsucc b hab)
      · exact List.mem_cons_of_mem _ (ih ha)
  induction hpath with
  | single hab => exact hstep ha hab
  | tail _ hbc ih => exact hstep ih hbc

omit [DecidableEq α] in
/-- A node in topological order lies on no cycle. -/
theorem Topological.acyclic {done : List α} (h : Topological succ done) :
    ∀ a ∈ done, ¬ Relation.TransGen (Edge succ) a a := by
  induction h with
  | nil => intro a ha; cases ha
  | @cons node done hnew hsucc hdone ih =>
    intro a ha hcycle
    rcases List.mem_cons.mp ha with rfl | ha
    · -- the cycle enters the finished nodes at its first edge and never leaves them
      obtain ⟨b, hab, hba⟩ := Relation.TransGen.head'_iff.mp hcycle
      rcases Relation.reflTransGen_iff_eq_or_transGen.mp hba with rfl | hpath
      · exact hnew (hsucc _ hab)
      · exact hnew (hdone.closed (hsucc b hab) hpath)
    · exact ih a ha hcycle

/-! ## Correctness of the search -/

/-- The finished nodes after a visit: in topological order, with everything finished before and
    nothing new from the current path. -/
structure Finishes (succ : α → List α) (path finished done : List α) : Prop where
  order : Topological succ done
  keep : ∀ a ∈ finished, a ∈ done
  new : ∀ a ∈ done, a ∈ finished ∨ a ∉ path

omit [DecidableEq α] in
theorem foldlM_finishes {f : List α → α → Option (List α)} {path : List α}
    (hf : ∀ finished node done, Topological succ finished → f finished node = some done →
      Finishes succ path finished done ∧ node ∈ done) :
    ∀ {nodes finished done : List α}, Topological succ finished →
      nodes.foldlM f finished = some done →
      Finishes succ path finished done ∧ ∀ node ∈ nodes, node ∈ done := by
  intro nodes
  induction nodes with
  | nil =>
    intro finished done htop h
    obtain rfl : finished = done := by simpa using h
    exact ⟨⟨htop, fun _ ha => ha, fun _ ha => .inl ha⟩, fun _ hn => by cases hn⟩
  | cons node nodes ih =>
    intro finished done htop h
    rw [List.foldlM_cons] at h
    obtain ⟨mid, hmid, h⟩ := Option.bind_eq_some_iff.mp h
    obtain ⟨hfirst, hnode⟩ := hf finished node mid htop hmid
    obtain ⟨hrest, hnodes⟩ := ih hfirst.order h
    refine ⟨⟨hrest.order, fun a ha => hrest.keep a (hfirst.keep a ha), fun a ha => ?_⟩, ?_⟩
    · rcases hrest.new a ha with hmem | hout
      · exact hfirst.new a hmem
      · exact .inr hout
    · intro a ha
      rcases List.mem_cons.mp ha with rfl | ha
      · exact hrest.keep a hnode
      · exact hnodes a ha

/-- **Soundness of a visit.** -/
theorem visit_topological {fuel : Nat} {path finished done : List α} {node : α}
    (htop : Topological succ finished) (h : visit succ fuel path finished node = some done) :
    Finishes succ path finished done ∧ node ∈ done := by
  induction fuel generalizing path finished done node with
  | zero => cases h
  | succ fuel ih =>
    unfold visit at h
    split at h
    · cases h
    rename_i hpath
    split at h
    · rename_i hfin
      obtain rfl := Option.some.inj h
      exact ⟨⟨htop, fun _ ha => ha, fun _ ha => .inl ha⟩, hfin⟩
    rename_i hfin
    obtain ⟨inner, hinner, rfl⟩ := Option.map_eq_some_iff.mp h
    obtain ⟨hfold, hsucc⟩ := foldlM_finishes (fun _ _ _ => ih) htop hinner
    -- the node itself is on the path of every visit below it, so none of them finished it
    have hnew : node ∉ inner := fun hmem =>
      (hfold.new node hmem).elim hfin fun hout => hout List.mem_cons_self
    refine ⟨⟨.cons hnew hsucc hfold.order, fun a ha => List.mem_cons_of_mem _ (hfold.keep a ha),
      fun a ha => ?_⟩, List.mem_cons_self⟩
    rcases List.mem_cons.mp ha with rfl | ha
    · exact .inr hpath
    · exact (hfold.new a ha).imp_right fun hout hmem => hout (List.mem_cons_of_mem _ hmem)

omit [DecidableEq α] in
theorem foldlM_isSome {f : List α → α → Option (List α)} {nodes : List α}
    (hf : ∀ finished, ∀ node ∈ nodes, (f finished node).isSome = true) (finished : List α) :
    (nodes.foldlM f finished).isSome = true := by
  induction nodes generalizing finished with
  | nil => rfl
  | cons node nodes ih =>
    rw [List.foldlM_cons]
    obtain ⟨mid, hmid⟩ := Option.isSome_iff_exists.mp (hf finished node List.mem_cons_self)
    rw [hmid]
    exact ih (fun finished a ha => hf finished a (List.mem_cons_of_mem _ ha)) mid

/-- **Completeness of a visit.** Without a cycle the path never repeats a node, so its length is
    bounded and the fuel is enough. -/
theorem visit_isSome {nodes : List α} (hac : ∀ a, ¬ Relation.TransGen (Edge succ) a a)
    (hclosed : ∀ a ∈ nodes, ∀ b ∈ succ a, b ∈ nodes) {fuel : Nat} {path finished : List α}
    {node : α} (hnode : node ∈ nodes) (hsub : path ⊆ nodes) (hnodup : path.Nodup)
    (hreach : ∀ a ∈ path, Relation.TransGen (Edge succ) a node)
    (hfuel : nodes.length + 1 ≤ fuel + path.length) :
    (visit succ fuel path finished node).isSome = true := by
  induction fuel generalizing path finished node with
  | zero =>
    have hlen : path.length ≤ nodes.length := (hnodup.subperm hsub).length_le
    omega
  | succ fuel ih =>
    have hpath : node ∉ path := fun hmem => hac node (hreach node hmem)
    unfold visit
    rw [if_neg hpath]
    split
    · rfl
    rw [Option.isSome_map]
    refine foldlM_isSome (fun finished next hnext => ?_) finished
    refine ih (hclosed node hnode next hnext) ?_ (hnodup.cons hpath) ?_ ?_
    · exact List.cons_subset.mpr ⟨hnode, hsub⟩
    · intro a ha
      rcases List.mem_cons.mp ha with rfl | ha
      · exact .single hnext
      · exact (hreach a ha).tail hnext
    · rw [List.length_cons]
      omega

/-- **The search succeeds exactly on acyclic graphs**, in whichever order the nodes are listed. -/
theorem search_isSome_iff {nodes : List α} (hclosed : ∀ a, ∀ b ∈ succ a, a ∈ nodes ∧ b ∈ nodes) :
    (search succ nodes).isSome = true ↔ ∀ a, ¬ Relation.TransGen (Edge succ) a a := by
  constructor
  · intro h a hcycle
    obtain ⟨done, hdone⟩ := Option.isSome_iff_exists.mp h
    obtain ⟨hfin, hall⟩ := foldlM_finishes (fun _ _ _ => visit_topological) .nil hdone
    obtain ⟨b, hab, -⟩ := Relation.TransGen.head'_iff.mp hcycle
    exact hfin.order.acyclic a (hall a (hclosed a b hab).1) hcycle
  · intro hac
    refine foldlM_isSome (fun finished node hnode => ?_) []
    exact visit_isSome hac (fun a _ b hb => (hclosed a b hb).2) hnode (List.nil_subset _)
      List.nodup_nil (fun _ ha => by cases ha) (by simp)

/-! ## Finite acyclic relations -/

/-- In an acyclic relation a nonempty finite set has an element with no successor in the set. -/
theorem exists_no_successor {β : Type*} {r : β → β → Prop}
    (hr : ∀ a, ¬ Relation.TransGen r a a) {s : Set β} (hs : s.Finite) (hne : s.Nonempty) :
    ∃ a ∈ s, ∀ b ∈ s, ¬ r a b := by
  have order : IsStrictOrder β fun b a => Relation.TransGen r a b :=
    { irrefl := hr, trans := fun _ _ _ hba hcb => hcb.trans hba }
  have hwf := hs.wellFoundedOn (r := fun b a => Relation.TransGen r a b)
  obtain ⟨a₀, ha₀⟩ := hne
  obtain ⟨a, -, hmin⟩ := WellFounded.has_min hwf Set.univ ⟨⟨a₀, ha₀⟩, trivial⟩
  exact ⟨a, a.2, fun b hb hab => hmin ⟨b, hb⟩ trivial (.single hab)⟩

end Dfs

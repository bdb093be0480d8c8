import Agentype.Lib.Ranking
import Agentype.Frontier.Readback

/-!
# `Agentype.Frontier.Fingerprints` — which intents a fingerprint identifies

A fingerprint is a printed document, so it identifies intents whose documents are identical: the same
texts, and lists up to order. Specifications are compared with `==` of their documents, and `==` does
not tell `-0.0` from `0.0`, while their texts differ. The two agree on the intents without a negative
zero: to an intent with one, the same intent with zeros instead is equivalent and has another
fingerprint.

## Contents
- `TaskSpec.norm`, `TaskSpec.Plain`; `norm_canonicalJson`: documents are represented field by field.
- `sorted_of_document`: a document determines its specification up to order.
- **`fingerprint_identifies_iff`**, `fingerprint_splits_zeros`.
-/

namespace Agentype.Frontier

open Check

variable {v w : Value} {a b spec : TaskSpec}

/-! ## Negative zeros -/

def F64.norm : F64 → F64
  | finite d => finite d.norm
  | nonFinite => nonFinite

/-- The specification with zeros for negative zeros. -/
def TaskSpec.norm (spec : TaskSpec) : TaskSpec :=
  { spec with
    payload := spec.payload.norm
    acceptance := spec.acceptance.norm
    retryPolicy := { spec.retryPolicy with
      baseBackoffSeconds := spec.retryPolicy.baseBackoffSeconds.norm
      maxBackoffSeconds := spec.retryPolicy.maxBackoffSeconds.norm } }

/-- The specification holds no negative zero. -/
structure TaskSpec.Plain (spec : TaskSpec) : Prop where
  payload : spec.payload.Plain
  acceptance : spec.acceptance.Plain
  base : spec.retryPolicy.baseBackoffSeconds ≠ .finite .negZero
  max : spec.retryPolicy.maxBackoffSeconds ≠ .finite .negZero

def RawWorkIntent.Plain (intent : RawWorkIntent) : Prop :=
  ∀ spec ∈ intent.suggestedTaskSpec, spec.Plain

theorem F64.norm_eq_self {x : F64} : x.norm = x ↔ x ≠ .finite .negZero := by
  rcases x with (_ | q) | _ <;> simp [F64.norm, Double.norm, Double.toRat]

/-- A specification that zeros do not change, whatever the order of its lists, is plain. -/
theorem plain_of_sorted (h : spec.norm.sorted = spec.sorted) : spec.Plain where
  payload := Value.norm_eq_self.mp (congrArg TaskSpec.payload h)
  acceptance := Value.norm_eq_self.mp (congrArg TaskSpec.acceptance h)
  base := F64.norm_eq_self.mp (congrArg (fun s => s.retryPolicy.baseBackoffSeconds) h)
  max := F64.norm_eq_self.mp (congrArg (fun s => s.retryPolicy.maxBackoffSeconds) h)

theorem TaskSpec.Plain.norm (h : spec.Plain) : spec.norm = spec := by
  unfold TaskSpec.norm
  rw [Value.norm_eq_self.mpr h.payload, Value.norm_eq_self.mpr h.acceptance,
    F64.norm_eq_self.mpr h.base, F64.norm_eq_self.mpr h.max]

theorem norm_sortedTexts (texts : List String) : (sortedTexts texts).norm = sortedTexts texts := by
  unfold sortedTexts
  rw [Value.norm_arr, List.map_map]
  rfl

theorem norm_optional (o : Option String) : (Value.optional Value.str o).norm = .optional .str o := by
  cases o <;> simp [Value.optional]

/-- Documents are represented field by field. -/
theorem norm_canonicalJson (h : spec.canonicalJson = .ok v) :
    spec.norm.canonicalJson = .ok v.norm := by
  obtain ⟨base, max, hbase, hmax, hnonneg, hle, hpositive, rfl⟩ := TaskSpec.canonicalJson_ok.mp h
  refine TaskSpec.canonicalJson_ok.mpr ⟨base.norm, max.norm, ?_, ?_, hnonneg, hle, hpositive, ?_⟩
  · show spec.retryPolicy.baseBackoffSeconds.norm = _
    rw [hbase]
    rfl
  · show spec.retryPolicy.maxBackoffSeconds.norm = _
    rw [hmax]
    rfl
  · unfold TaskSpec.document
    rw [Value.norm_object]
    simp only [List.map_cons, List.map_nil, Value.norm_str, norm_optional, norm_sortedTexts,
      Value.norm_int, Value.norm_posInt, Value.norm_float]
    rfl

theorem plain_document (h : spec.canonicalJson = .ok v) (hspec : spec.Plain) : v.Plain := by
  have hnorm := norm_canonicalJson h
  rw [hspec.norm, h] at hnorm
  exact Value.norm_eq_self.mp (Except.ok.inj hnorm).symm

/-! ## Documents and their specifications -/

/-- A document determines its specification up to the order of its lists. -/
theorem sorted_of_document (ha : a.canonicalJson = .ok v) (hb : b.canonicalJson = .ok v) :
    a.sorted = b.sorted := by
  -- under a partition that the reader takes, both specifications are read back
  have hread : ∀ {s : TaskSpec} {v : Value}, s.canonicalJson = .ok v → ∃ base max,
      v = s.document base max ∧ taskSpecFromJson (TaskSpec.document { s with partition := "p" } base max) =
        .ok (TaskSpec.sorted { s with partition := "p" }) := by
    intro s v hs
    obtain ⟨base, max, hb, hm, hnonneg, hle, hpos, rfl⟩ := TaskSpec.canonicalJson_ok.mp hs
    have hnamed : isBlank "p" = false := by decide
    exact ⟨_, _, rfl, taskSpecFromJson_document
      (TaskSpec.canonicalJson_ok.mpr ⟨base, max, hb, hm, hnonneg, hle, hpos, rfl⟩) hnamed⟩
  obtain ⟨base, max, rfl, hreada⟩ := hread ha
  obtain ⟨base', max', heq, hreadb⟩ := hread hb
  have hfields := a.document_get base max
  rw [heq] at hfields
  simp only [b.document_get, Option.some.injEq] at hfields
  have hsame : TaskSpec.document { a with partition := "p" } base max =
      TaskSpec.document { b with partition := "p" } base' max' := by
    simp only [TaskSpec.document, hfields]
  rw [hsame, hreadb] at hreada
  have hsorted := congrArg (fun s : TaskSpec => { s with partition := b.partition })
    (Except.ok.inj hreada).symm
  have hpartition : b.partition = a.partition := str_injective hfields.2.2.2.1
  calc a.sorted = { TaskSpec.sorted { a with partition := "p" } with partition := a.partition } := rfl
    _ = { TaskSpec.sorted { b with partition := "p" } with partition := b.partition } := by
      rw [← hpartition]
      exact hsorted
    _ = b.sorted := rfl

/-! ## Fingerprints -/

/-- The intents agree up to the order of their lists and `==` of their specifications. -/
structure SameIntent (i j : RawWorkIntent) : Prop where
  key : i.rawIntentKey = j.rawIntentKey
  objective : i.objective = j.objective
  informationFunction : i.informationFunction = j.informationFunction
  rationale : i.rationale = j.rationale
  inputs : i.semanticInputSet.SameRefs j.semanticInputSet
  spec : match i.suggestedTaskSpec, j.suggestedTaskSpec with
    | none, none => True
    | some a, some b => a.equivalent b = .ok true
    | _, _ => False

theorem equivalent_iff (ha : a.canonicalJson = .ok v) (hb : b.canonicalJson = .ok w) :
    a.equivalent b = .ok true ↔ v.norm = w.norm := by
  simp [TaskSpec.equivalent, ha, hb, ← Value.same_iff_norm]

theorem fingerprint_ok {T D : Type} {F : DocFormat T D} {i : RawWorkIntent} {f : T} :
    i.fingerprint F = .ok f ↔
      ∃ d, specDocument i.suggestedTaskSpec = .ok d ∧ F.print (i.content d) = f := by
  simp only [RawWorkIntent.fingerprint, bind_ok, pure_ok]

/-- The same references are written alike. -/
theorem sortedRefs_congr {x y : SemanticInputSet} (h : x.SameRefs y) : x.sortedRefs = y.sortedRefs := by
  have hartifacts : sortBy (fun r : ArtifactRef => toLex (r.locator, r.digest)) x.artifactRefs =
      sortBy (fun r : ArtifactRef => toLex (r.locator, r.digest)) y.artifactRefs := by
    refine sortBy_eq_of_perm h.artifactRefs ?_
    rintro ⟨l, d⟩ - ⟨l', d'⟩ - heq
    simpa using heq
  unfold SemanticInputSet.sortedRefs
  rw [sortedTexts_perm_eq h.resultIds, sortedTexts_perm_eq h.seedRefs]
  exact congrArg (fun l => Value.object [("results", _), ("artifacts", .arr (l.map ArtifactRef.toJson)),
    ("seeds", _)]) hartifacts

/-- Agreeing intents with the same document of the specification have the same content. -/
theorem content_congr {i j : RawWorkIntent} (h : SameIntent i j) (d : Option Value) :
    i.content d = j.content d := by
  show Value.object [("key", _), ("obj", _), ("fn", _), ("rat", _),
    ("inputs", i.semanticInputSet.sortedRefs), ("spec", _)] = _
  rw [h.key, h.objective, h.informationFunction, h.rationale, sortedRefs_congr h.inputs]
  rfl

/-- Plain specifications that compare equal have the same document. -/
theorem specDocument_congr {i j : RawWorkIntent} {d d' : Option Value} (hi : i.Plain) (hj : j.Plain)
    (h : SameIntent i j) (hd : specDocument i.suggestedTaskSpec = .ok d)
    (hd' : specDocument j.suggestedTaskSpec = .ok d') : d = d' := by
  have hspec := h.spec
  cases hsi : i.suggestedTaskSpec with
  | none =>
    cases hsj : j.suggestedTaskSpec with
    | none =>
      rw [hsi] at hd
      rw [hsj, hd] at hd'
      exact Except.ok.inj hd'
    | some b => simp [hsi, hsj] at hspec
  | some a =>
    cases hsj : j.suggestedTaskSpec with
    | none => simp [hsi, hsj] at hspec
    | some b =>
      rw [hsi] at hd
      rw [hsj] at hd'
      obtain ⟨v, hv, rfl⟩ := map_ok.mp hd
      obtain ⟨w, hw, rfl⟩ := map_ok.mp hd'
      simp only [hsi, hsj, equivalent_iff hv hw] at hspec
      rw [Value.norm_eq_self.mpr (plain_document hv (hi a hsi)),
        Value.norm_eq_self.mpr (plain_document hw (hj b hsj))] at hspec
      rw [hspec]

/-- The intent with zeros for negative zeros. -/
def RawWorkIntent.norm (i : RawWorkIntent) : RawWorkIntent :=
  { i with suggestedTaskSpec := i.suggestedTaskSpec.map TaskSpec.norm }

theorem norm_plain (i : RawWorkIntent) : i.norm.Plain := by
  intro spec hspec
  obtain ⟨s, -, rfl⟩ := Option.map_eq_some_iff.mp hspec
  have hidem : ∀ x : F64, x.norm.norm = x.norm := by rintro (_ | _) <;> rfl
  refine plain_of_sorted ?_
  simp only [TaskSpec.norm, Value.norm_norm, hidem]

theorem specDocument_norm {i : RawWorkIntent} {d : Option Value}
    (hd : specDocument i.suggestedTaskSpec = .ok d) :
    specDocument i.norm.suggestedTaskSpec = .ok (d.map Value.norm) := by
  unfold RawWorkIntent.norm
  cases hs : i.suggestedTaskSpec with
  | none =>
    rw [hs] at hd
    cases hd
    rfl
  | some a =>
    rw [hs] at hd
    obtain ⟨v, hv, rfl⟩ := map_ok.mp hd
    exact map_ok.mpr ⟨v.norm, norm_canonicalJson hv, rfl⟩

theorem same_norm {i : RawWorkIntent} {d : Option Value}
    (hd : specDocument i.suggestedTaskSpec = .ok d) : SameIntent i i.norm := by
  refine ⟨rfl, rfl, rfl, rfl, ⟨.refl _, .refl _, .refl _⟩, ?_⟩
  unfold RawWorkIntent.norm
  cases hs : i.suggestedTaskSpec with
  | none => trivial
  | some a =>
    rw [hs] at hd
    obtain ⟨v, hv, rfl⟩ := map_ok.mp hd
    exact (equivalent_iff hv (norm_canonicalJson hv)).mpr v.norm_norm.symm

/-- **Fingerprints identify intents up to order, negative zeros apart.** For every intent that has a
    fingerprint: among the intents without a negative zero, the fingerprint identifies exactly those
    that agree with it, if and only if it has none itself. For specifications without negative zeros,
    to be equivalent is to be equal up to the order of tags, dependencies and retry classes. -/
theorem fingerprint_identifies_iff {T D : Type} (F : DocFormat T D) (i : RawWorkIntent) (f : T)
    (hf : i.fingerprint F = .ok f) :
    ((∀ j g, j.Plain → j.fingerprint F = .ok g → (f = g ↔ SameIntent i j)) ↔ i.Plain) ∧
    ∀ (a b : TaskSpec) (v w : Value), a.Plain → b.Plain → a.canonicalJson = .ok v → b.canonicalJson = .ok w →
      (a.equivalent b = .ok true ↔ a.sorted = b.sorted) := by
  obtain ⟨d, hd, rfl⟩ := fingerprint_ok.mp hf
  refine ⟨⟨?_, ?_⟩, ?_⟩
  · -- the normal form of the intent agrees with it, so it has its document
    intro h spec hspec
    have heq := (h i.norm _ (norm_plain i) (fingerprint_ok.mpr ⟨_, specDocument_norm hd, rfl⟩)).mpr
      (same_norm hd)
    have hdoc : d = d.map Value.norm := optional_specDocument hd (specDocument_norm hd)
      (content_eq (F.print_injective heq)).spec
    rw [hspec] at hd
    obtain ⟨v, hv, rfl⟩ := map_ok.mp hd
    have hnorm := norm_canonicalJson hv
    rw [← Option.some.inj hdoc] at hnorm
    exact plain_of_sorted (sorted_of_document hnorm hv)
  · intro hi j g hj hg
    obtain ⟨d', hd', rfl⟩ := fingerprint_ok.mp hg
    constructor
    · intro heq
      have hsame := content_eq (F.print_injective heq)
      obtain rfl := optional_specDocument hd hd' hsame.spec
      refine ⟨hsame.key, hsame.objective, hsame.informationFunction, hsame.rationale, hsame.inputs, ?_⟩
      cases hsi : i.suggestedTaskSpec <;> cases hsj : j.suggestedTaskSpec <;> rw [hsi] at hd <;>
        rw [hsj] at hd'
      · trivial
      · cases hd
        obtain ⟨v, -, hv⟩ := map_ok.mp hd'
        cases hv
      · cases hd'
        obtain ⟨v, -, hv⟩ := map_ok.mp hd
        cases hv
      · obtain ⟨v, hv, rfl⟩ := map_ok.mp hd
        obtain ⟨w, hw, hvw⟩ := map_ok.mp hd'
        cases hvw
        exact TaskSpec.equivalent_of_document hv hw
    · intro hsame
      obtain rfl := specDocument_congr hi hj hsame hd hd'
      rw [content_congr hsame]
  · intro a b v w ha hb hv hw
    rw [equivalent_iff hv hw, Value.norm_eq_self.mpr (plain_document hv ha),
      Value.norm_eq_self.mpr (plain_document hw hb)]
    constructor
    · rintro rfl
      exact sorted_of_document hv hw
    · intro hsorted
      rw [← TaskSpec.sorted_canonicalJson, hsorted, TaskSpec.sorted_canonicalJson, hw] at hv
      exact (Except.ok.inj hv).symm

/-- An intent with some tags and a backoff from `d`. -/
def suggesting (tags : List String) (d : Double) : RawWorkIntent where
  rawIntentKey := "tidy"
  objective := "tidy up"
  informationFunction := .expand
  semanticInputSet := ⟨[], [], []⟩
  rationale := none
  suggestedTaskSpec := some { edit with
    affinityTags := tags, retryPolicy := ⟨1, [], .finite d, .finite (.of 0)⟩ }

/-- The order of the tags does not matter. -/
theorem fingerprint_identifies_iff_reordered : ∃ f,
    (suggesting ["a", "b"] (.of 0)).fingerprint DocFormat.verbatim = .ok f ∧
    (suggesting ["b", "a"] (.of 0)).fingerprint DocFormat.verbatim = .ok f := by
  have hplain : ∀ tags, (suggesting tags (.of 0)).Plain := by
    rintro tags _ ⟨⟩
    exact ⟨rfl, rfl, nofun, nofun⟩
  have hsame : SameIntent (suggesting ["a", "b"] (.of 0)) (suggesting ["b", "a"] (.of 0)) :=
    ⟨rfl, rfl, rfl, rfl, ⟨.refl _, .refl _, .refl _⟩,
      (by decide +kernel : TaskSpec.equivalent _ _ = .ok true)⟩
  have heq := ((fingerprint_identifies_iff DocFormat.verbatim (suggesting ["a", "b"] (.of 0)) _
    rfl).1.mpr (hplain _) (suggesting ["b", "a"] (.of 0)) _ (hplain _) rfl).mpr hsame
  exact ⟨_, rfl, congrArg Except.ok heq.symm⟩

/-- **Equivalent intents with different fingerprints**: the one backs off from `0.0`, the other from
    `-0.0`. -/
theorem fingerprint_splits_zeros :
    SameIntent (suggesting [] (.of 0)) (suggesting [] .negZero) ∧ ∃ f g,
      (suggesting [] (.of 0)).fingerprint DocFormat.verbatim = .ok f ∧
      (suggesting [] .negZero).fingerprint DocFormat.verbatim = .ok g ∧ f ≠ g :=
  ⟨⟨rfl, rfl, rfl, rfl, ⟨.refl _, .refl _, .refl _⟩,
    (by decide +kernel : TaskSpec.equivalent _ _ = .ok true)⟩, _, _, rfl, rfl, by decide +kernel⟩

end Agentype.Frontier

import Agentype.Frontier.Intents

/-!
# `Agentype.Frontier.Readback` — the documents of a proposal are read back

A proposal is written as three documents: the fingerprint of its intent, the semantic input set and
the task specification. The writer of a specification sorts the lists whose order means nothing; the
reader gives the sorted specification, which is written as the same document and is therefore
equivalent to the one suggested. The reader refuses a blank partition, which the writer does not look
at: `taskSpecFromJson_document` needs that the partition is named.

The fingerprint is the canonical text of the content, so equal fingerprints have the same content.

## Contents
- `TaskSpec.sorted`, **`taskSpecFromJson_document`**, `sorted_canonicalJson`.
- `semanticInputSetFromJson_toJson`.
- `SemanticInputSet.SameRefs`, `fingerprint_content`: what equal fingerprints have in common.
-/

namespace Agentype.Frontier

open Check

variable {α : Type} {v : Value} {va vb : Option Value}

/-! ## Specifications -/

/-- The specification with its lists in the order in which they are written. -/
def TaskSpec.sorted (spec : TaskSpec) : TaskSpec :=
  { spec with
    affinityTags := spec.affinityTags.insertionSort fun s t => s ≤ t
    dependencies := spec.dependencies.insertionSort fun s t => s ≤ t
    retryPolicy := { spec.retryPolicy with
      retryClasses := spec.retryPolicy.retryClasses.insertionSort fun a b => a.asSql ≤ b.asSql } }

section Reading

variable {obj : SortedMap String Value} {key : String}

theorem required_of_lookup {read : Value → Option α} {a : α} (h : obj.lookup key = some v)
    (hread : read v = some a) : required obj key read = .ok a :=
  required_ok.mpr ⟨v, h, hread⟩

theorem text_of_lookup {text : String} (h : obj.lookup key = some (.str text)) :
    required obj key Value.asStr = .ok text :=
  required_of_lookup h (Value.asStr_str text)

theorem optionalText_of_lookup {o : Option String}
    (h : obj.lookup key = some (.optional .str o)) : optionalText obj key = .ok o := by
  unfold optionalText
  rw [h, Option.getD_some]
  exact Value.nullable_optional Value.str_ne_null (fun a => by simp) o

theorem mapM_texts {read : Value → Except Error α} {spell : α → String}
    (hread : ∀ a, read (.str (spell a)) = .ok a) (l : List α) :
    ((l.map spell).map Value.str).mapM read = .ok l := by
  rw [mapM_ok, List.forall₂_map_left_iff, List.forall₂_map_left_iff, List.forall₂_same]
  exact fun a _ => hread a

theorem textsOf_of_lookup {texts : List String}
    (h : obj.lookup key = some (.arr (texts.map .str))) : textsOf obj key = .ok texts := by
  unfold textsOf
  rw [required_of_lookup h (Value.asArray_arr _), ok_bind]
  rw [mapM_ok, List.forall₂_map_left_iff, List.forall₂_same]
  intro text _
  simp

end Reading

/-- The retry classes are written in the order of their spellings. -/
theorem sorted_classes (classes : List FailureClass) :
    sortedTexts (classes.map FailureClass.asSql) =
      .arr (((classes.insertionSort fun a b => a.asSql ≤ b.asSql).map FailureClass.asSql).map
        .str) := by
  rw [sortedTexts, List.map_insertionSort _ (fun s t : String => s ≤ t) FailureClass.asSql classes
    fun _ _ _ _ => Iff.rfl]

/-- The classes of a written array are read back. -/
theorem classes_read (classes : List FailureClass) :
    (((classes.map FailureClass.asSql).map Value.str).mapM fun item => do
      let text ← present item.asStr (invariant "retry_classes element must be a string")
      spelled (FailureClass.parseSql text)) = .ok classes :=
  mapM_texts (fun c => by simp [spelled]) classes

/-- The number of attempts survives the way through 64 bits. -/
theorem attempts_read (n : U32) : Fin.ofNat (2 ^ 32) (n.castLE u32_le_u64 : Fin (2 ^ 64)).val = n :=
  Fin.ext (Nat.mod_eq_of_lt n.isLt)

/-- **Specifications are read back**, sorted, if the partition is named. -/
theorem taskSpecFromJson_document {spec : TaskSpec} (h : spec.canonicalJson = .ok v)
    (hnamed : isBlank spec.partition = false) : taskSpecFromJson v = .ok spec.sorted := by
  obtain ⟨base, max, hbase, hmax, hnonneg, hle, hpositive, rfl⟩ := TaskSpec.canonicalJson_ok.mp h
  obtain ⟨obj, hobj⟩ : ∃ obj, (spec.document (.float base) (.float max)).asObject = some obj :=
    ⟨_, Value.asObject_object _⟩
  obtain ⟨hname, hpayload, hacceptance, hpartition, hworkstream, hcontinuity, htags, hmode, hdeps,
    hpriority, hattempts, hclasses, hbaseNum, hmaxNum, hsupersedes, htaskId⟩ :=
    spec.document_get (.float base) (.float max)
  have hget : ∀ key, (spec.document (.float base) (.float max)).get key = obj.lookup key :=
    fun key => by rw [Value.get, hobj, Option.bind_some]
  rw [hget] at hname hpayload hacceptance hpartition hworkstream hcontinuity htags hmode
  rw [hget] at hdeps hpriority hattempts hclasses hbaseNum hmaxNum hsupersedes htaskId
  rw [sorted_classes] at hclasses
  simp only [taskSpecFromJson, hobj, present_some, ok_bind, member, hpayload, hacceptance,
    text_of_lookup hname, text_of_lookup hpartition,
    hnamed, Bool.not_false, ensure_true, optionalText_of_lookup hworkstream,
    text_of_lookup hcontinuity, spelled, mapError_of_ok,
    ContinuityPreference.parseSql_asSql, textsOf_of_lookup htags,
    text_of_lookup hmode, WorkspaceMode.parseSql_asSql,
    textsOf_of_lookup hdeps, required_of_lookup hpriority (Value.asInt_eq_some.mpr rfl),
    required_of_lookup hattempts (Value.asU64_posInt _), attempts_read,
    required_of_lookup hclasses (Value.asArray_arr _),
    required_of_lookup hbaseNum (Value.asF64_float _),
    required_of_lookup hmaxNum (Value.asF64_float _), optionalText_of_lookup hsupersedes,
    optionalText_of_lookup htaskId, hnonneg, hle, ne_eq, hpositive, not_false_eq_true, decide_true]
  have hread := classes_read (spec.sorted.retryPolicy.retryClasses)
  simp only [spelled] at hread
  rw [show (List.insertionSort (fun a b : FailureClass => a.asSql ≤ b.asSql)
    spec.retryPolicy.retryClasses) = spec.sorted.retryPolicy.retryClasses from rfl, hread, ok_bind,
    ← hbase, ← hmax]
  rfl

theorem sortedTexts_insertionSort (texts : List String) :
    sortedTexts (texts.insertionSort fun s t => s ≤ t) = sortedTexts texts := by
  rw [sortedTexts, (List.pairwise_insertionSort (fun s t : String => s ≤ t) texts).insertionSort_eq,
    sortedTexts]

theorem sortedTexts_perm_eq {texts texts' : List String} (h : texts.Perm texts') :
    sortedTexts texts = sortedTexts texts' := by
  have hperm := (List.perm_insertionSort (fun s t : String => s ≤ t) texts).trans
    (h.trans (List.perm_insertionSort (fun s t : String => s ≤ t) texts').symm)
  rw [sortedTexts, sortedTexts, hperm.eq_of_pairwise (fun _ _ _ _ => le_antisymm)
    (List.pairwise_insertionSort _ _) (List.pairwise_insertionSort _ _)]

/-- The sorted specification is written as the same document. -/
theorem TaskSpec.sorted_canonicalJson (spec : TaskSpec) :
    spec.sorted.canonicalJson = spec.canonicalJson := by
  have hclasses : sortedTexts (spec.sorted.retryPolicy.retryClasses.map FailureClass.asSql) =
      sortedTexts (spec.retryPolicy.retryClasses.map FailureClass.asSql) :=
    sortedTexts_perm_eq ((List.perm_insertionSort _ _).map _)
  have hdocument : ∀ base max, spec.sorted.document base max = spec.document base max := by
    intro base max
    unfold document
    rw [hclasses, show sortedTexts spec.sorted.affinityTags = _ from
      sortedTexts_insertionSort spec.affinityTags, show sortedTexts spec.sorted.dependencies = _ from
      sortedTexts_insertionSort spec.dependencies]
    rfl
  unfold canonicalJson
  simp only [hdocument]
  rfl

/-- Specifications with the same document are equivalent. -/
theorem TaskSpec.equivalent_of_document {spec other : TaskSpec} (h : spec.canonicalJson = .ok v)
    (h' : other.canonicalJson = .ok v) : spec.equivalent other = .ok true := by
  simp [equivalent, h, h']

/-! ## Evidence -/

theorem ArtifactRef.new_ok {locator digest : String} {a : ArtifactRef} :
    ArtifactRef.new locator digest = .ok a ↔
      isBlank locator = false ∧ isBlank digest = false ∧ a = ⟨locator, digest⟩ := by
  simp only [ArtifactRef.new, bind_ok, ensure_ok, pure_ok, Bool.not_eq_true', exists_const]
  rw [eq_comm (a := a)]

theorem ArtifactRef.fromJson_toJson {a : ArtifactRef}
    (h : ∃ b, ArtifactRef.new a.locator a.digest = .ok b) :
    ArtifactRef.fromJson a.toJson = .ok a := by
  obtain ⟨b, h⟩ := h
  obtain ⟨hlocator, hdigest, -⟩ := ArtifactRef.new_ok.mp h
  have hobj : a.toJson.asObject = some (.ofList [("locator", .str a.locator),
      ("digest", .str a.digest)]) := Value.asObject_object _
  simp [ArtifactRef.fromJson, hobj, SortedMap.lookup_ofList, List.lookup_cons,
    ArtifactRef.new_ok.mpr ⟨hlocator, hdigest, rfl⟩]

/-- The references of a set are well formed. -/
def SemanticInputSet.Valid (set : SemanticInputSet) : Prop :=
  ∀ a ∈ set.artifactRefs, ∃ b, ArtifactRef.new a.locator a.digest = .ok b

theorem itemsOf_of_lookup {obj : SortedMap String Value} {key items : String}
    {read : Value → Except Error α} {write : α → Value} {l : List α}
    (h : obj.lookup key = some (.arr (l.map write))) (hread : ∀ a ∈ l, read (write a) = .ok a) :
    itemsOf obj key items read = .ok l := by
  unfold itemsOf
  rw [h]
  simp only [Value.asArray_arr, present_some, ok_bind]
  rw [mapM_ok, List.forall₂_map_left_iff, List.forall₂_same]
  exact hread

theorem textItems_of_lookup {obj : SortedMap String Value} {key items : String} {l : List String}
    {e : Error} (h : obj.lookup key = some (.arr (l.map .str))) :
    itemsOf obj key items (fun v => present v.asStr e) = .ok l :=
  itemsOf_of_lookup h fun a _ => present_ok.mpr (Value.asStr_str a)

/-- **Input sets are read back.** -/
theorem semanticInputSetFromJson_toJson {set : SemanticInputSet} (h : set.Valid) :
    semanticInputSetFromJson (semanticInputSetToJson set) = .ok set := by
  obtain ⟨obj, hobj⟩ : ∃ obj, (semanticInputSetToJson set).asObject = some obj :=
    ⟨_, Value.asObject_object _⟩
  have hget : ∀ key, obj.lookup key = (semanticInputSetToJson set).get key :=
    fun key => by rw [Value.get, hobj, Option.bind_some]
  have hresults : obj.lookup "result_ids" = some (.arr (set.resultIds.map .str)) := by
    rw [hget, semanticInputSetToJson, Value.get_object]
    rfl
  have hartifacts : obj.lookup "artifact_refs" =
      some (.arr (set.artifactRefs.map ArtifactRef.toJson)) := by
    rw [hget, semanticInputSetToJson, Value.get_object]
    rfl
  have hseeds : obj.lookup "seed_refs" = some (.arr (set.seedRefs.map .str)) := by
    rw [hget, semanticInputSetToJson, Value.get_object]
    rfl
  have hknown : knownFields obj ["result_ids", "artifact_refs", "seed_refs"] "semantic_input_set" =
      .ok () := by
    refine forM_ok.mpr fun key hkey => ensure_ok.mpr ?_
    obtain ⟨⟨_, v⟩, hmem, rfl⟩ := List.mem_map.mp hkey
    have hv := SortedMap.mem_entries.mp hmem
    rw [hget, semanticInputSetToJson, Value.get_object] at hv
    have hlist := SortedMap.mem_of_lookup hv
    simp only [List.mem_reverse, List.mem_cons, Prod.mk.injEq, List.not_mem_nil, or_false] at hlist
    rcases hlist with ⟨rfl, -⟩ | ⟨rfl, -⟩ | ⟨rfl, -⟩ <;> simp
  simp only [semanticInputSetFromJson, hobj, present_some, ok_bind, hknown,
    textItems_of_lookup hresults, textItems_of_lookup hseeds,
    itemsOf_of_lookup hartifacts fun a ha => ArtifactRef.fromJson_toJson (h a ha)]
  rfl

/-! ## Fingerprints -/

/-- Two input sets name the same references. -/
structure SemanticInputSet.SameRefs (a b : SemanticInputSet) : Prop where
  resultIds : a.resultIds.Perm b.resultIds
  artifactRefs : a.artifactRefs.Perm b.artifactRefs
  seedRefs : a.seedRefs.Perm b.seedRefs

theorem str_injective : Function.Injective Value.str := fun s t h =>
  Option.some.inj (by rw [← Value.asStr_str s, h, Value.asStr_str])

theorem arr_injective : Function.Injective Value.arr := fun s t h =>
  Option.some.inj (by rw [← Value.asArray_arr s, h, Value.asArray_arr])

theorem optional_str_injective : Function.Injective (Value.optional Value.str) := by
  rintro (_ | a) (_ | b) h
  · rfl
  · exact absurd h.symm (Value.str_ne_null b)
  · exact absurd h (Value.str_ne_null a)
  · exact congrArg some (str_injective h)

theorem ArtifactRef.toJson_injective : Function.Injective ArtifactRef.toJson := by
  intro a b h
  have hlocator := congrArg (fun v => (Value.get v "locator").bind Value.asStr) h
  have hdigest := congrArg (fun v => (Value.get v "digest").bind Value.asStr) h
  simp only [ArtifactRef.toJson, Value.get_object] at hlocator hdigest
  simp [List.lookup_cons] at hlocator hdigest
  cases a
  cases b
  simp_all

theorem perm_of_sortedTexts {a b : List String} (h : sortedTexts a = sortedTexts b) : a.Perm b := by
  have hsorted := str_injective.list_map (arr_injective h)
  exact (List.perm_insertionSort _ a).symm.trans
    ((List.Perm.of_eq hsorted).trans (List.perm_insertionSort _ b))

/-- The references as they stand in a fingerprint. -/
def SemanticInputSet.sortedRefs (set : SemanticInputSet) : Value :=
  .object [
    ("results", sortedTexts set.resultIds),
    ("artifacts", .arr ((set.artifactRefs.insertionSort fun a b =>
      toLex (a.locator, a.digest) ≤ toLex (b.locator, b.digest)).map ArtifactRef.toJson)),
    ("seeds", sortedTexts set.seedRefs)]

/-- What equal contents have in common. -/
structure SameContent (a b : RawWorkIntent) (va vb : Option Value) : Prop where
  key : a.rawIntentKey = b.rawIntentKey
  rationale : a.rationale = b.rationale
  objective : a.objective = b.objective
  informationFunction : a.informationFunction = b.informationFunction
  inputs : a.semanticInputSet.SameRefs b.semanticInputSet
  spec : Value.optional id va = Value.optional id vb

theorem content_eq {a b : RawWorkIntent} (h : a.content va = b.content vb) :
    SameContent a b va vb := by
  have hget : ∀ key, (a.content va).get key = (b.content vb).get key := fun key => by rw [h]
  have hinputs : a.semanticInputSet.sortedRefs = b.semanticInputSet.sortedRefs := by
    have := hget "inputs"
    simp only [RawWorkIntent.content, Value.get_object] at this
    exact Option.some.inj this
  have hinput := fun key => congrArg (fun v => Value.get v key) hinputs
  simp only [SemanticInputSet.sortedRefs, Value.get_object] at hinput
  constructor
  · have := hget "key"
    simp only [RawWorkIntent.content, Value.get_object] at this
    exact str_injective (Option.some.inj this)
  · have := hget "rat"
    simp only [RawWorkIntent.content, Value.get_object] at this
    exact optional_str_injective (Option.some.inj this)
  · have := hget "obj"
    simp only [RawWorkIntent.content, Value.get_object] at this
    exact str_injective (Option.some.inj this)
  · have := hget "fn"
    simp only [RawWorkIntent.content, Value.get_object] at this
    exact InformationFunction.asSql_injective (str_injective (Option.some.inj this))
  · refine ⟨perm_of_sortedTexts (Option.some.inj (hinput "results")), ?_,
      perm_of_sortedTexts (Option.some.inj (hinput "seeds"))⟩
    have hsorted := ArtifactRef.toJson_injective.list_map
      (arr_injective (Option.some.inj (hinput "artifacts")))
    exact (List.perm_insertionSort _ _).symm.trans
      ((List.Perm.of_eq hsorted).trans (List.perm_insertionSort _ _))
  · have := hget "spec"
    simp only [RawWorkIntent.content, Value.get_object] at this
    exact Option.some.inj this

/-- A written specification is not `null`. -/
theorem optional_specDocument {spec spec' : Option TaskSpec} (ha : specDocument spec = .ok va)
    (hb : specDocument spec' = .ok vb) (h : Value.optional id va = Value.optional id vb) :
    va = vb := by
  have hnull : ∀ {spec : Option TaskSpec} {v : Value}, specDocument spec = .ok (some v) →
      v ≠ .null := by
    intro spec v hv
    cases spec with
    | none => cases hv
    | some spec =>
      obtain ⟨w, hw, heq⟩ := map_ok.mp hv
      obtain ⟨base, max, -, -, -, -, -, rfl⟩ := TaskSpec.canonicalJson_ok.mp hw
      cases heq
      exact Value.object_ne_null _
  cases va with
  | none =>
    cases vb with
    | none => rfl
    | some w => exact absurd h.symm (hnull hb)
  | some v =>
    cases vb with
    | none => exact absurd h (hnull ha)
    | some w => exact congrArg some h

/-- **Fingerprints tell contents apart.** -/
theorem fingerprint_content {T D : Type} {F : DocFormat T D} {a b : RawWorkIntent} {text : T}
    (ha : a.fingerprint F = .ok text) (hb : b.fingerprint F = .ok text)
    (hva : specDocument a.suggestedTaskSpec = .ok va)
    (hvb : specDocument b.suggestedTaskSpec = .ok vb) :
    a.objective = b.objective ∧ a.informationFunction = b.informationFunction ∧
      a.semanticInputSet.SameRefs b.semanticInputSet ∧ va = vb := by
  simp only [RawWorkIntent.fingerprint, hva, hvb, ok_bind, pure_ok] at ha hb
  have hsame := content_eq (F.print_injective (ha.trans hb.symm))
  exact ⟨hsame.objective, hsame.informationFunction, hsame.inputs,
    optional_specDocument hva hvb hsame.spec⟩

end Agentype.Frontier

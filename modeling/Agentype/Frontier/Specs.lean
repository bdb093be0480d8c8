import Mathlib.Data.List.Sort
import Agentype.Core.States
import Agentype.Lib.Json

/-!
# `Agentype.Frontier.Specs` — task specifications as documents

The frontier keeps the task specification of a proposal as a JSON document and reads it back on every
replay; it also reads specifications that workers put into their results. The writer sorts the lists
whose order means nothing; the reader takes any order. Writer and reader check the same numbers, with
one difference: the reader takes `max_attempts` as an unsigned 64-bit integer and keeps its low 32
bits.

## Contents
- `TaskSpec`, `TaskSpec.canonicalJson`, `TaskSpec.equivalent`, `taskSpecFromJson`.
- `Agrees`: a document says what another one says, field by field.
- `taskSpecFromJson_fields`: what the reader has found in the document.
- **`taskSpecFromJson_agrees_iff`**, `max_attempts_wraps`.
-/

namespace Agentype.Frontier

open Check

abbrev U32 := Fin (2 ^ 32)

/-- A double of a specification, which need not be finite. -/
inductive F64 where
  | finite (d : Double)
  | nonFinite
  deriving DecidableEq

/-- `Number::from_f64`. -/
def F64.number : F64 → Option Number
  | finite d => some (.float d)
  | nonFinite => none

/-- The number is finite and at least `bound`. -/
def F64.atLeast (x : F64) (bound : ℚ) : Bool :=
  match x with
  | finite d => decide (bound ≤ d.toRat)
  | nonFinite => false

structure SpecRetryPolicy where
  maxAttempts : U32
  retryClasses : List FailureClass
  baseBackoffSeconds : F64
  maxBackoffSeconds : F64
  deriving DecidableEq

/-- A task specification with its whole documents. -/
structure TaskSpec where
  name : String
  payload : Value
  acceptance : Value
  partition : PartitionId
  workstreamId : Option WorkstreamId
  continuity : ContinuityPreference
  affinityTags : List String
  workspaceMode : WorkspaceMode
  dependencies : List String
  priority : Value.I64
  retryPolicy : SpecRetryPolicy
  supersedesTaskId : Option TaskId
  taskId : Option TaskId
  deriving DecidableEq

def invariant (msg : String) : Error := .invariantViolation msg

/-- A sorted list of texts. -/
def sortedTexts (texts : List String) : Value :=
  .arr ((texts.insertionSort fun s t => s ≤ t).map .str)

def F64.toRat : F64 → ℚ
  | finite d => d.toRat
  | nonFinite => 0

/-! ## Writing -/

namespace TaskSpec

/-- The document of a specification, given the numbers of its backoffs. -/
def document (spec : TaskSpec) (base max : Number) : Value :=
  .object [
    ("name", .str spec.name),
    ("payload", spec.payload),
    ("acceptance", spec.acceptance),
    ("partition", .str spec.partition),
    ("workstream_id", .optional .str spec.workstreamId),
    ("continuity", .str spec.continuity.asSql),
    ("affinity_tags", sortedTexts spec.affinityTags),
    ("workspace_mode", .str spec.workspaceMode.asSql),
    ("dependencies", sortedTexts spec.dependencies),
    ("priority", .int spec.priority),
    ("max_attempts", .num (.posInt (spec.retryPolicy.maxAttempts.castLE u32_le_u64))),
    ("retry_classes", sortedTexts (spec.retryPolicy.retryClasses.map FailureClass.asSql)),
    ("base_backoff_seconds", .num base),
    ("max_backoff_seconds", .num max),
    ("supersedes_task_id", .optional .str spec.supersedesTaskId),
    ("task_id", .optional .str spec.taskId)]

def canonicalJson (spec : TaskSpec) : Except Error Value := do
  ensure (spec.retryPolicy.baseBackoffSeconds.atLeast 0)
    (invariant "base_backoff_seconds must be a finite non-negative number")
  ensure (spec.retryPolicy.maxBackoffSeconds.atLeast spec.retryPolicy.baseBackoffSeconds.toRat)
    (invariant "max_backoff_seconds must be a finite number >= base_backoff_seconds")
  ensure (spec.retryPolicy.maxAttempts ≠ 0) (invariant "max_attempts must be >= 1")
  let base ← present spec.retryPolicy.baseBackoffSeconds.number
    (invariant "base_backoff_seconds is not valid JSON number")
  let max ← present spec.retryPolicy.maxBackoffSeconds.number
    (invariant "max_backoff_seconds is not valid JSON number")
  pure (spec.document base max)

def equivalent (spec other : TaskSpec) : Except Error Bool := do
  let a ← spec.canonicalJson
  let b ← other.canonicalJson
  pure (a.same b)

end TaskSpec

/-! ## Reading -/

/-- A required member, read by `read`. -/
def required {α : Type} (obj : SortedMap String Value) (key : String) (read : Value → Option α) :
    Except Error α :=
  present ((obj.lookup key).bind read) (invariant ("missing or invalid field: " ++ key))

/-- A required member of any form. -/
def member (obj : SortedMap String Value) (key : String) : Except Error Value :=
  present (obj.lookup key) (invariant ("missing field: " ++ key))

/-- An optional text: absent and `null` are the same. -/
def optionalText (obj : SortedMap String Value) (key : String) : Except Error (Option String) :=
  Value.nullable (fun v => present v.asStr (invariant (key ++ " must be a string or null")))
    ((obj.lookup key).getD .null)

/-- The texts of an array. -/
def textsOf (obj : SortedMap String Value) (key : String) : Except Error (List String) := do
  let items ← required obj key Value.asArray
  items.mapM fun item => present item.asStr (invariant (key ++ " element must be a string"))

/-- A spelling of a core enumeration. -/
def spelled {α : Type} (x : Except String α) : Except Error α := x.mapError invariant

def taskSpecFromJson (val : Value) : Except Error TaskSpec := do
  let obj ← present val.asObject (invariant "task_spec must be a JSON object")
  let name ← required obj "name" Value.asStr
  let payload ← member obj "payload"
  let acceptance ← member obj "acceptance"
  let partition ← required obj "partition" Value.asStr
  ensure (!isBlank partition) (invariant "partition cannot be empty")
  let workstreamId ← optionalText obj "workstream_id"
  let continuityText ← required obj "continuity" Value.asStr
  let continuity ← spelled (ContinuityPreference.parseSql continuityText)
  let affinityTags ← textsOf obj "affinity_tags"
  let modeText ← required obj "workspace_mode" Value.asStr
  let workspaceMode ← spelled (WorkspaceMode.parseSql modeText)
  let dependencies ← textsOf obj "dependencies"
  let priority ← required obj "priority" Value.asInt
  let attempts ← required obj "max_attempts" Value.asU64
  -- `as u32` keeps the low 32 bits
  let maxAttempts : U32 := Fin.ofNat (2 ^ 32) attempts.val
  ensure (maxAttempts ≠ 0) (invariant "max_attempts must be >= 1")
  let classTexts ← required obj "retry_classes" Value.asArray
  let retryClasses ← classTexts.mapM fun item => do
    let text ← present item.asStr (invariant "retry_classes element must be a string")
    spelled (FailureClass.parseSql text)
  let base ← required obj "base_backoff_seconds" Value.asF64
  ensure (0 ≤ base.toRat) (invariant "base_backoff_seconds must be a finite non-negative number")
  let max ← required obj "max_backoff_seconds" Value.asF64
  ensure (base.toRat ≤ max.toRat)
    (invariant "max_backoff_seconds must be a finite number >= base_backoff_seconds")
  let supersedesTaskId ← optionalText obj "supersedes_task_id"
  let taskId ← optionalText obj "task_id"
  pure
    { name, payload, acceptance, partition, workstreamId, continuity, affinityTags, workspaceMode,
      dependencies, priority
      retryPolicy :=
        { maxAttempts, retryClasses
          baseBackoffSeconds := .finite base
          maxBackoffSeconds := .finite max }
      supersedesTaskId, taskId }

/-! ## What the reader has found -/

section Reading

variable {obj : SortedMap String Value} {key : String}

theorem required_ok {α : Type} {read : Value → Option α} {a : α} :
    required obj key read = .ok a ↔ ∃ v, obj.lookup key = some v ∧ read v = some a := by
  rw [required, present_ok, Option.bind_eq_some_iff]

theorem optionalText_ok {o : Option String} (h : optionalText obj key = .ok o) :
    (obj.lookup key).getD .null = .optional .str o := by
  unfold optionalText Value.nullable at h
  split at h
  · next hnull =>
    cases h
    exact Value.view_injective (hnull.trans (Value.view_ofView .null).symm)
  · obtain ⟨text, htext, rfl⟩ := map_ok.mp h
    exact Value.asStr_eq_some.mp (present_ok.mp htext)

/-- An array whose items are read one by one is the array of the spellings of what is read. -/
theorem items_eq {α : Type} {read : Value → Except Error α} (spell : α → String)
    (hread : ∀ v a, read v = .ok a → v = .str (spell a)) {items : List Value} {l : List α}
    (h : items.mapM read = .ok l) : items = (l.map spell).map Value.str := by
  rw [mapM_ok] at h
  induction h with
  | nil => rfl
  | cons hv _ ih => rw [hread _ _ hv, ih, List.map_cons, List.map_cons]

theorem textsOf_ok {texts : List String} (h : textsOf obj key = .ok texts) :
    obj.lookup key = some (.arr (texts.map .str)) := by
  simp only [textsOf, bind_ok, required_ok] at h
  obtain ⟨items, ⟨v, hv, hitems⟩, htexts⟩ := h
  have heq := items_eq id
    (fun v a hva => Value.asStr_eq_some.mp (present_ok.mp hva)) htexts
  rw [hv, Value.asArray_eq_some.mp hitems, heq, List.map_id]

end Reading

/-- A document that the reader takes for a specification. `attempts`, `base` and `max` are the
    numbers that stand in the document. -/
structure Documents (v : Value) (spec : TaskSpec) (attempts : Fin (2 ^ 64)) (base max : Double) :
    Prop where
  name : v.get "name" = some (.str spec.name)
  payload : v.get "payload" = some spec.payload
  acceptance : v.get "acceptance" = some spec.acceptance
  partition : v.get "partition" = some (.str spec.partition)
  partition_named : isBlank spec.partition = false
  workstreamId : (v.get "workstream_id").getD .null = .optional .str spec.workstreamId
  continuity : v.get "continuity" = some (.str spec.continuity.asSql)
  affinityTags : v.get "affinity_tags" = some (.arr (spec.affinityTags.map .str))
  workspaceMode : v.get "workspace_mode" = some (.str spec.workspaceMode.asSql)
  dependencies : v.get "dependencies" = some (.arr (spec.dependencies.map .str))
  priority : v.get "priority" = some (.int spec.priority)
  maxAttempts : v.get "max_attempts" = some (.num (.posInt attempts))
  wrapped : spec.retryPolicy.maxAttempts = Fin.ofNat (2 ^ 32) attempts.val
  positive : spec.retryPolicy.maxAttempts ≠ 0
  retryClasses : v.get "retry_classes" =
    some (.arr ((spec.retryPolicy.retryClasses.map FailureClass.asSql).map .str))
  base_read : ∃ b, v.get "base_backoff_seconds" = some b ∧ b.asF64 = some base
  base_stored : spec.retryPolicy.baseBackoffSeconds = .finite base
  base_nonneg : 0 ≤ base.toRat
  max_read : ∃ b, v.get "max_backoff_seconds" = some b ∧ b.asF64 = some max
  max_stored : spec.retryPolicy.maxBackoffSeconds = .finite max
  max_ge : base.toRat ≤ max.toRat
  supersedesTaskId : (v.get "supersedes_task_id").getD .null = .optional .str spec.supersedesTaskId
  taskId : (v.get "task_id").getD .null = .optional .str spec.taskId

theorem taskSpecFromJson_fields {v : Value} {spec : TaskSpec} (h : taskSpecFromJson v = .ok spec) :
    ∃ attempts base max, Documents v spec attempts base max := by
  simp only [taskSpecFromJson, bind_ok, present_ok, required_ok, member, ensure_ok, pure_ok,
    spelled, mapError_ok, Bool.not_eq_true', decide_eq_true_eq] at h
  obtain ⟨obj, hobj, name, ⟨_, hname, hnameText⟩, payload, hpayload, acceptance, hacceptance,
    partition, ⟨_, hpartition, hpartitionText⟩, -, hnamed, workstream, hworkstream,
    _, ⟨_, hcontinuity, hcontinuityText⟩, continuity, hparse, tags, htags,
    _, ⟨_, hmode, hmodeText⟩, mode, hparseMode, deps, hdeps, priority, ⟨_, hpriority, hint⟩,
    attempts, ⟨_, hattempts, hu64⟩, -, hpositive, items, ⟨_, hclasses, harray⟩, classes, hmapM,
    base, ⟨b, hbase, hbaseNum⟩, -, hnonneg, max, ⟨m, hmax, hmaxNum⟩, -, hge,
    supersedes, hsupersedes, taskId, htaskId, hspec⟩ := h
  subst hspec
  have hget : ∀ key, v.get key = obj.lookup key := fun key => by
    rw [Value.get, hobj, Option.bind_some]
  rw [Value.asStr_eq_some] at hnameText hpartitionText hcontinuityText hmodeText
  have hclassTexts := items_eq FailureClass.asSql (fun item c hc => by
    simp only [bind_ok, present_ok, mapError_ok] at hc
    obtain ⟨text, htext, hparsed⟩ := hc
    rw [Value.asStr_eq_some.mp htext, spell_of_parse hparsed]) hmapM
  exact ⟨attempts, base, max,
    { name := by rw [hget, hname, hnameText]
      payload := by rw [hget, hpayload]
      acceptance := by rw [hget, hacceptance]
      partition := by rw [hget, hpartition, hpartitionText]
      partition_named := hnamed
      workstreamId := by rw [hget, optionalText_ok hworkstream]
      continuity := by rw [hget, hcontinuity, hcontinuityText, spell_of_parse hparse]
      affinityTags := by rw [hget, textsOf_ok htags]
      workspaceMode := by rw [hget, hmode, hmodeText, spell_of_parse hparseMode]
      dependencies := by rw [hget, textsOf_ok hdeps]
      priority := by rw [hget, hpriority, Value.asInt_eq_some.mp hint]
      maxAttempts := by rw [hget, hattempts, Value.asU64_eq_some.mp hu64]
      wrapped := rfl
      positive := hpositive
      retryClasses := by rw [hget, hclasses, Value.asArray_eq_some.mp harray, hclassTexts]
      base_read := ⟨b, by rw [hget, hbase], hbaseNum⟩
      base_stored := rfl
      base_nonneg := hnonneg
      max_read := ⟨m, by rw [hget, hmax], hmaxNum⟩
      max_stored := rfl
      max_ge := hge
      supersedesTaskId := by rw [hget, optionalText_ok hsupersedes]
      taskId := by rw [hget, optionalText_ok htaskId] }⟩

/-! ## Reading changes nothing -/

/-- `w` says what `v` says, field by field: the same members, absent members as `null`, numbers of
    the same value, and lists in any order. -/
structure Agrees (v w : Value) : Prop where
  kept : ∀ key ∈ ["name", "payload", "acceptance", "partition", "continuity", "workspace_mode",
    "priority", "max_attempts"], w.get key = v.get key
  absent : ∀ key ∈ ["workstream_id", "supersedes_task_id", "task_id"],
    w.get key = some ((v.get key).getD .null)
  numeric : ∀ key ∈ ["base_backoff_seconds", "max_backoff_seconds"], ∃ a b,
    v.get key = some (.num a) ∧ w.get key = some (.num b) ∧ a.toRat = b.toRat
  lists : ∀ key ∈ ["affinity_tags", "dependencies", "retry_classes"], ∃ xs ys,
    v.get key = some (.arr xs) ∧ w.get key = some (.arr ys) ∧ xs.Perm ys

/-- The number of attempts that the document states fits its field. -/
def AttemptsFit (v : Value) : Prop :=
  ∀ n, (v.get "max_attempts").bind Value.asU64 = some n → n.val < 2 ^ 32

/-- The members of a written document. -/
theorem TaskSpec.document_get (spec : TaskSpec) (base max : Number) :
    (spec.document base max).get "name" = some (.str spec.name) ∧
    (spec.document base max).get "payload" = some spec.payload ∧
    (spec.document base max).get "acceptance" = some spec.acceptance ∧
    (spec.document base max).get "partition" = some (.str spec.partition) ∧
    (spec.document base max).get "workstream_id" = some (.optional .str spec.workstreamId) ∧
    (spec.document base max).get "continuity" = some (.str spec.continuity.asSql) ∧
    (spec.document base max).get "affinity_tags" = some (sortedTexts spec.affinityTags) ∧
    (spec.document base max).get "workspace_mode" = some (.str spec.workspaceMode.asSql) ∧
    (spec.document base max).get "dependencies" = some (sortedTexts spec.dependencies) ∧
    (spec.document base max).get "priority" = some (.int spec.priority) ∧
    (spec.document base max).get "max_attempts" =
      some (.num (.posInt (spec.retryPolicy.maxAttempts.castLE u32_le_u64))) ∧
    (spec.document base max).get "retry_classes" =
      some (sortedTexts (spec.retryPolicy.retryClasses.map FailureClass.asSql)) ∧
    (spec.document base max).get "base_backoff_seconds" = some (.num base) ∧
    (spec.document base max).get "max_backoff_seconds" = some (.num max) ∧
    (spec.document base max).get "supersedes_task_id" =
      some (.optional .str spec.supersedesTaskId) ∧
    (spec.document base max).get "task_id" = some (.optional .str spec.taskId) := by
  simp only [document, Value.get_object]
  refine ⟨?_, ?_, ?_, ?_, ?_, ?_, ?_, ?_, ?_, ?_, ?_, ?_, ?_, ?_, ?_, ?_⟩ <;> rfl

/-- Writing succeeds exactly on finite ordered backoffs and at least one attempt. -/
theorem TaskSpec.canonicalJson_ok {spec : TaskSpec} {w : Value} :
    spec.canonicalJson = .ok w ↔ ∃ base max, spec.retryPolicy.baseBackoffSeconds = .finite base ∧
      spec.retryPolicy.maxBackoffSeconds = .finite max ∧ 0 ≤ base.toRat ∧ base.toRat ≤ max.toRat ∧
      spec.retryPolicy.maxAttempts ≠ 0 ∧ w = spec.document (.float base) (.float max) := by
  simp only [canonicalJson, bind_ok, ensure_ok, present_ok, pure_ok, decide_eq_true_eq]
  constructor
  · rintro ⟨-, hbase, -, hmax, -, hpositive, _, hbaseNum, _, hmaxNum, rfl⟩
    cases hb : spec.retryPolicy.baseBackoffSeconds with
    | nonFinite => simp [hb, F64.atLeast] at hbase
    | finite base =>
      cases hm : spec.retryPolicy.maxBackoffSeconds with
      | nonFinite => simp [hm, F64.atLeast] at hmax
      | finite max =>
        simp only [hb, hm, F64.atLeast, F64.toRat, F64.number, decide_eq_true_eq,
          Option.some.injEq] at hbase hmax hbaseNum hmaxNum
        subst hbaseNum hmaxNum
        exact ⟨base, max, rfl, rfl, hbase, hmax, hpositive, rfl⟩
  · rintro ⟨base, max, hb, hm, hbase, hmax, hpositive, rfl⟩
    refine ⟨(), by simpa [hb, F64.atLeast] using hbase, (),
      by simpa [hb, hm, F64.atLeast, F64.toRat] using hmax, (), hpositive, .float base,
      by simp [hb, F64.number], .float max, by simp [hm, F64.number], rfl⟩

/-- Sorting texts permutes them. -/
theorem sortedTexts_perm (texts : List String) :
    (texts.map Value.str).Perm ((texts.insertionSort fun s t => s ≤ t).map Value.str) :=
  (List.perm_insertionSort _ texts).symm.map Value.str

/-- **Reading a specification changes it only in the number of attempts.** Of every document that is
    read, the specification can be written again, and what is written agrees with the document
    exactly when the stated number of attempts fits in 32 bits. -/
theorem taskSpecFromJson_agrees_iff (v : Value) (spec : TaskSpec)
    (h : taskSpecFromJson v = .ok spec) :
    (∃ w, spec.canonicalJson = .ok w) ∧
      ((∃ w, spec.canonicalJson = .ok w ∧ Agrees v w) ↔ AttemptsFit v) := by
  obtain ⟨attempts, base, max, hd⟩ := taskSpecFromJson_fields h
  have hwrite : spec.canonicalJson = .ok (spec.document (.float base) (.float max)) :=
    TaskSpec.canonicalJson_ok.mpr ⟨base, max, hd.base_stored, hd.max_stored, hd.base_nonneg,
      hd.max_ge, hd.positive, rfl⟩
  have hfits : AttemptsFit v ↔ attempts.val < 2 ^ 32 := by
    simp [AttemptsFit, hd.maxAttempts]
  obtain ⟨hname, hpayload, hacceptance, hpartition, hworkstream, hcontinuity, htags, hmode, hdeps,
    hpriority, hattempts, hclasses, hbase, hmax, hsupersedes, htaskId⟩ :=
    spec.document_get (.float base) (.float max)
  refine ⟨⟨_, hwrite⟩, ?_⟩
  rw [hfits]
  constructor
  · rintro ⟨w, hw, hagrees⟩
    cases hwrite.symm.trans hw
    -- the written number has 32 bits, and it is the stated one
    have hkept := hagrees.kept "max_attempts" (by simp)
    rw [hattempts, hd.maxAttempts, Option.some.injEq] at hkept
    have hnum := congrArg Value.asU64 hkept
    rw [Value.asU64_posInt, Value.asU64_posInt, Option.some.injEq] at hnum
    rw [← hnum]
    exact spec.retryPolicy.maxAttempts.isLt
  · intro hlt
    have hkept : spec.retryPolicy.maxAttempts.castLE u32_le_u64 = attempts := by
      rw [hd.wrapped]
      exact Fin.ext (Nat.mod_eq_of_lt hlt)
    refine ⟨_, hwrite, ?_, ?_, ?_, ?_⟩
    · simp only [List.mem_cons, List.not_mem_nil, or_false, forall_eq_or_imp, forall_eq]
      exact ⟨hname.trans hd.name.symm, hpayload.trans hd.payload.symm,
        hacceptance.trans hd.acceptance.symm, hpartition.trans hd.partition.symm,
        hcontinuity.trans hd.continuity.symm, hmode.trans hd.workspaceMode.symm,
        hpriority.trans hd.priority.symm, by rw [hattempts, hkept, hd.maxAttempts]⟩
    · simp only [List.mem_cons, List.not_mem_nil, or_false, forall_eq_or_imp, forall_eq]
      exact ⟨by rw [hworkstream, hd.workstreamId], by rw [hsupersedes, hd.supersedesTaskId],
        by rw [htaskId, hd.taskId]⟩
    · obtain ⟨_, hb, hbNum⟩ := hd.base_read
      obtain ⟨_, hm, hmNum⟩ := hd.max_read
      obtain ⟨b, rfl, hbRat⟩ := Value.exists_num_of_asF64 hbNum
      obtain ⟨m, rfl, hmRat⟩ := Value.exists_num_of_asF64 hmNum
      simp only [List.mem_cons, List.not_mem_nil, or_false, forall_eq_or_imp, forall_eq]
      exact ⟨⟨b, .float base, hb, hbase, hbRat⟩, ⟨m, .float max, hm, hmax, hmRat⟩⟩
    · simp only [List.mem_cons, List.not_mem_nil, or_false, forall_eq_or_imp, forall_eq]
      exact ⟨⟨_, _, hd.affinityTags, htags, sortedTexts_perm _⟩,
        ⟨_, _, hd.dependencies, hdeps, sortedTexts_perm _⟩,
        ⟨_, _, hd.retryClasses, hclasses, sortedTexts_perm _⟩⟩

/-- A specification of one attempt without retries. -/
def edit : TaskSpec where
  name := "edit"
  payload := .null
  acceptance := .object []
  partition := "general"
  workstreamId := none
  continuity := .none
  affinityTags := []
  workspaceMode := .readOnly
  dependencies := []
  priority := ⟨0, by decide⟩
  retryPolicy := ⟨1, [], .finite (.of 0), .finite (.of 0)⟩
  supersedesTaskId := none
  taskId := none

/-- A document that states a number of attempts. -/
def stating (attempts : Fin (2 ^ 64)) : Value :=
  .object [("name", .str "edit"), ("payload", .null), ("acceptance", .object []),
    ("partition", .str "general"), ("continuity", .str "none"), ("affinity_tags", .arr []),
    ("workspace_mode", .str "read_only"), ("dependencies", .arr []),
    ("priority", .num (.posInt 0)), ("max_attempts", .num (.posInt attempts)),
    ("retry_classes", .arr []), ("base_backoff_seconds", .num (.posInt 0)),
    ("max_backoff_seconds", .num (.posInt 0))]

/-- A specification with tags, a dependency and retries. -/
def audit : TaskSpec :=
  { edit with
    affinityTags := ["rust", "git"]
    dependencies := ["edit", "draft"]
    retryPolicy := ⟨3, [.timeout, .executionLost], .finite (.of 2), .finite (.of 60)⟩ }

/-- A document of that specification, with whole numbers and unsorted lists. -/
def auditing : Value :=
  .object [("name", .str "edit"), ("payload", .null), ("acceptance", .object []),
    ("partition", .str "general"), ("continuity", .str "none"),
    ("affinity_tags", .arr [.str "rust", .str "git"]), ("workspace_mode", .str "read_only"),
    ("dependencies", .arr [.str "edit", .str "draft"]), ("priority", .num (.posInt 0)),
    ("max_attempts", .num (.posInt 3)),
    ("retry_classes", .arr [.str "TIMEOUT", .str "EXECUTION_LOST"]),
    ("base_backoff_seconds", .num (.posInt 2)), ("max_backoff_seconds", .num (.posInt 60))]

/-- A document that states three attempts is read and written again as it is. -/
theorem taskSpecFromJson_agrees_iff_three :
    ∃ w, audit.canonicalJson = .ok w ∧ Agrees auditing w := by
  refine (taskSpecFromJson_agrees_iff auditing _ (by decide +kernel)).2.mpr fun n hn => ?_
  have hthree : (auditing.get "max_attempts").bind Value.asU64 = some 3 := by decide +kernel
  cases hthree.symm.trans hn
  decide

/-- A document that states 4294967297 attempts is read as a specification of one attempt. -/
theorem max_attempts_wraps :
    taskSpecFromJson (stating 4294967297) = .ok edit ∧
      (stating 4294967297).get "max_attempts" = some (.num (.posInt 4294967297)) ∧
      (do pure ((← edit.canonicalJson).get "max_attempts")) =
        (.ok (some (.num (.posInt 1))) : Except Error _) := by
  decide +kernel

end Agentype.Frontier

import Mathlib.Data.Prod.Lex
import Agentype.Frontier.Specs

/-!
# `Agentype.Frontier.Intents` — work intents and their documents

An intent suggests work: an objective, what the work is for, the evidence it rests on and perhaps a
task specification. It carries no authority. Root supplies intents directly; a worker puts them into
the payload of its result, under a reserved key, and they are read from there.

## Contents
- `ArtifactRef`, `SemanticInputSet`, `semanticInputSetToJson`, `semanticInputSetFromJson`.
- `RawWorkIntent`, `RawWorkIntent.fingerprint`, `rawWorkIntentFromJson`, `carriedIntent`.
-/

namespace Agentype.Frontier

open Check

abbrev GenerationId := String
abbrev ProposalId := String

/-! ## Evidence -/

structure ArtifactRef where
  locator : String
  digest : String
  deriving DecidableEq

/-- A reference with a locator and a content digest. -/
def ArtifactRef.new (locator digest : String) : Except Error ArtifactRef := do
  ensure (!isBlank locator) (invariant "artifact locator cannot be empty")
  ensure (!isBlank digest) (invariant
    "artifact digest cannot be empty (provenance requires immutable content digest)")
  pure ⟨locator, digest⟩

structure SemanticInputSet where
  resultIds : List ResultId
  artifactRefs : List ArtifactRef
  seedRefs : List String
  deriving DecidableEq

def ArtifactRef.toJson (a : ArtifactRef) : Value :=
  .object [("locator", .str a.locator), ("digest", .str a.digest)]

def semanticInputSetToJson (set : SemanticInputSet) : Value :=
  .object [
    ("result_ids", .arr (set.resultIds.map .str)),
    ("artifact_refs", .arr (set.artifactRefs.map ArtifactRef.toJson)),
    ("seed_refs", .arr (set.seedRefs.map .str))]

/-- An optional array, each item read by `read`; an absent array is empty. -/
def itemsOf {α : Type} (obj : SortedMap String Value) (key items : String)
    (read : Value → Except Error α) : Except Error (List α) :=
  match obj.lookup key with
  | none => pure []
  | some value => do
    let list ← present value.asArray (invariant (key ++ " must be an array of " ++ items))
    list.mapM read

def ArtifactRef.fromJson (v : Value) : Except Error ArtifactRef := do
  let obj ← present v.asObject (invariant "artifact_refs element must be an object")
  let locator ← present ((obj.lookup "locator").bind Value.asStr)
    (invariant "artifact_ref missing locator")
  let digest ← present ((obj.lookup "digest").bind Value.asStr)
    (invariant "artifact_ref missing digest")
  ArtifactRef.new locator digest

/-- Only the listed members may occur. -/
def knownFields (obj : SortedMap String Value) (known : List String) (what : String) :
    Except Error Unit :=
  obj.keys.forM fun k =>
    ensure (known.contains k) (invariant ("unknown field in " ++ what ++ ": " ++ k))

def semanticInputSetFromJson (val : Value) : Except Error SemanticInputSet := do
  let obj ← present val.asObject (invariant "semantic_input_set must be a JSON object")
  knownFields obj ["result_ids", "artifact_refs", "seed_refs"] "semantic_input_set"
  let resultIds ← itemsOf obj "result_ids" "strings" fun v =>
    present v.asStr (invariant "result_ids element must be a string")
  let artifactRefs ← itemsOf obj "artifact_refs" "objects" ArtifactRef.fromJson
  let seedRefs ← itemsOf obj "seed_refs" "strings" fun v =>
    present v.asStr (invariant "seed_refs element must be a string")
  pure ⟨resultIds, artifactRefs, seedRefs⟩

/-! ## Intents -/

structure RawWorkIntent where
  rawIntentKey : String
  objective : String
  informationFunction : InformationFunction
  semanticInputSet : SemanticInputSet
  rationale : Option String
  suggestedTaskSpec : Option TaskSpec
  deriving DecidableEq

/-- The document of an optional specification. -/
def specDocument : Option TaskSpec → Except Error (Option Value)
  | none => pure none
  | some spec => some <$> spec.canonicalJson

/-- The content of an intent in canonical form. -/
def RawWorkIntent.content (intent : RawWorkIntent) (spec : Option Value) : Value :=
  .object [
    ("key", .str intent.rawIntentKey),
    ("obj", .str intent.objective),
    ("fn", .str intent.informationFunction.asSql),
    ("rat", .optional .str intent.rationale),
    ("inputs", .object [
      ("results", sortedTexts intent.semanticInputSet.resultIds),
      ("artifacts", .arr ((intent.semanticInputSet.artifactRefs.insertionSort fun a b =>
        toLex (a.locator, a.digest) ≤ toLex (b.locator, b.digest)).map ArtifactRef.toJson)),
      ("seeds", sortedTexts intent.semanticInputSet.seedRefs)]),
    ("spec", .optional id spec)]

/-- The canonical text of an intent's content. -/
def RawWorkIntent.fingerprint {T D : Type} (F : DocFormat T D) (intent : RawWorkIntent) :
    Except Error T := do
  let spec ← specDocument intent.suggestedTaskSpec
  pure (F.print (intent.content spec))

/-- Read one entry of a result's intents; the key is not part of the entry. -/
def rawWorkIntentFromJson (rawIntentKey : String) (val : Value) : Except Error RawWorkIntent := do
  let obj ← present val.asObject (invariant "raw_work_intent entry must be an object")
  knownFields obj ["objective", "information_function", "rationale", "semantic_input_set",
    "suggested_task_spec"] "raw_work_intent entry"
  let objective ← required obj "objective" Value.asStr
  let functionText ← required obj "information_function" Value.asStr
  let informationFunction ← spelled (InformationFunction.parseSql functionText)
  let rationale ← optionalText obj "rationale"
  let setValue ← member obj "semantic_input_set"
  let semanticInputSet ← semanticInputSetFromJson setValue
  let suggestedTaskSpec ← Value.nullable taskSpecFromJson
    ((obj.lookup "suggested_task_spec").getD .null)
  pure { rawIntentKey, objective, informationFunction, semanticInputSet, rationale,
         suggestedTaskSpec }

/-- The intent that a result's payload carries under a key. -/
def carriedIntent (resultId : ResultId) (rawIntentKey : String) (payload : Value) :
    Except Error RawWorkIntent := do
  let noIntent := Error.notFound ("result " ++ resultId.quote ++
    " does not carry a raw work intent for key " ++ rawIntentKey.quote)
  let envelope ← present (payload.get "_agentype") noIntent
  let envelopeObj ← present envelope.asObject
    (invariant "result intent envelope (_agentype) must be an object")
  let intents ← present (envelopeObj.lookup "raw_work_intents") noIntent
  let intentsObj ← present intents.asObject
    (invariant "raw_work_intents envelope must be an object")
  let entry ← present (intentsObj.lookup rawIntentKey) noIntent
  rawWorkIntentFromJson rawIntentKey entry

end Agentype.Frontier

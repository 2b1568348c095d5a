/-
# Features as JSON

Feature definitions are read one by one: a definition that does not fit is kept as
it is and spoils nothing else.

Key definitions:
* `TrackedExposure.codec`, `FeatureRule.codec`, `Feature.codec`, `Declared.codec`.
* `Features.codec`: definitions by key.
-/
import FeatureFlags.Feature
import FeatureFlags.Wire.Experiment

namespace FeatureFlags

/-- The result of an exposure, as the only field `experimentResult`. -/
def TrackedExposure.resultCodec : Codec ExperimentResult where
  read j := do
    let r ← (Layout.ofNames ["experimentResult"]).open? j
    r.required "experimentResult" (ExperimentResult.codec .json)
  write result := Record.write [
    ("experimentResult", some ((ExperimentResult.codec .json).write result))]

/-- An exposure: an experiment and its result. -/
def TrackedExposure.codec : Codec TrackedExposure where
  read j := do
    let r ← (Layout.ofNames ["experiment", "result"]).open? j
    return {
      experiment := ← r.required "experiment" (Experiment.codec .json)
      result := ← r.required "result" resultCodec }
  write t := Record.write [
    ("experiment", some ((Experiment.codec .json).write t.experiment)),
    ("result", some (resultCodec.write t.result))]

namespace FeatureRule

/-- The fields of a rule. -/
def layout : Layout := Layout.ofNames [
  "id", "condition", "parentConditions", "coverage", "force", "variations", "key", "weights",
  "namespace", "hashAttribute", "fallbackAttribute", "hashVersion", "range", "ranges", "meta",
  "filters", "seed", "name", "phase", "tracks", "disableStickyBucketing", "bucketVersion",
  "minBucketVersion"]

/-- A rule. All fields may be left out; a `force` of `null` forces `null`. -/
def codec : Codec FeatureRule where
  read j := do
    let r ← layout.open? j
    return {
      id := ← r.optional "id" .string
      condition := ← r.optional "condition" .condition
      prerequisites := ← r.orElse "parentConditions" Prerequisite.codec.list []
      coverage := ← r.optional "coverage" .float
      force := r.given "force"
      variations := ← r.optional "variations" Codec.json.list
      key := ← r.optional "key" .string
      weights := ← r.optional "weights" Codec.float.list
      slice := ← r.optional "namespace" .slice
      hashAttribute := ← r.optional "hashAttribute" .string
      fallbackAttribute := ← r.optional "fallbackAttribute" .string
      hashVersion := ← r.optional "hashVersion" .int64
      range := ← r.optional "range" .range
      ranges := ← r.optional "ranges" Codec.range.list
      infos := ← r.optional "meta" VariationInfo.codec.list
      filters := ← r.optional "filters" Filter.codec.list
      seed := ← r.optional "seed" .string
      name := ← r.optional "name" .string
      phase := ← r.optional "phase" .string
      tracks := ← r.orElse "tracks" TrackedExposure.codec.list []
      disableSticky := ← r.orElse "disableStickyBucketing" .bool false
      bucketVersion := ← r.optional "bucketVersion" .int64
      minBucketVersion := ← r.optional "minBucketVersion" .int64 }
  write e := Record.write [
    ("id", e.id.map Json.str),
    ("condition", e.condition.map Condition.tree),
    ("parentConditions", Record.unlessEmpty Prerequisite.codec e.prerequisites),
    ("coverage", e.coverage.map Json.ofFloat),
    ("force", e.force),
    ("variations", e.variations.map Codec.json.list.write),
    ("key", e.key.map Json.str),
    ("weights", e.weights.map Codec.float.list.write),
    ("namespace", e.slice.map Codec.slice.write),
    ("hashAttribute", e.hashAttribute.map Json.str),
    ("fallbackAttribute", e.fallbackAttribute.map Json.str),
    ("hashVersion", e.hashVersion.map Json.int),
    ("range", e.range.map Codec.range.write),
    ("ranges", e.ranges.map Codec.range.list.write),
    ("meta", e.infos.map VariationInfo.codec.list.write),
    ("filters", e.filters.map Filter.codec.list.write),
    ("seed", e.seed.map Json.str),
    ("name", e.name.map Json.str),
    ("phase", e.phase.map Json.str),
    ("tracks", Record.unlessEmpty TrackedExposure.codec e.tracks),
    ("disableStickyBucketing", Record.ifTrue e.disableSticky),
    ("bucketVersion", e.bucketVersion.map Json.int),
    ("minBucketVersion", e.minBucketVersion.map Json.int)]

end FeatureRule

/-- A feature. Without a word on it the value for everybody is `null`. -/
def Feature.codec : Codec Feature where
  read j := do
    let r ← (Layout.ofNames ["defaultValue", "rules"]).open? j
    return {
      defaultValue := ← r.orElse "defaultValue" .json .null
      rules := ← r.orElse "rules" FeatureRule.codec.list [] }
  write f := Record.write [
    ("defaultValue", some f.defaultValue),
    ("rules", some (FeatureRule.codec.list.write f.rules))]

/-- A feature definition, or any other value. -/
def Declared.codec : Codec Declared where
  read j :=
    match Feature.codec.read j with
    | some f => some (.feature f)
    | none => some (.unreadable j.canonical)
  write
    | .feature f => Feature.codec.write f
    | .unreadable value => value

/-- Feature definitions by key. -/
def Features.codec : Codec Features := Declared.codec.dictionary

end FeatureFlags

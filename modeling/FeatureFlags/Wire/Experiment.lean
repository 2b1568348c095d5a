/-
# Experiments as JSON

Key definitions:
* `Prerequisite.codec`, `VariationInfo.codec`, `Filter.codec`.
* `Experiment.codec`, `ExperimentResult.codec`: over a codec of variation values.
-/
import FeatureFlags.Experiment
import FeatureFlags.Wire.Record

namespace FeatureFlags

/-- A prerequisite names its feature `id`. -/
def Prerequisite.codec : Codec Prerequisite where
  read j := do
    let r ← (Layout.ofNames ["id", "condition", "gate"]).open? j
    return {
      feature := ← r.required "id" .string
      condition := ← r.required "condition" .condition
      gate := ← r.orElse "gate" .bool false }
  write p := Record.write [
    ("id", some (.str p.feature)),
    ("condition", some p.condition.tree),
    ("gate", some (.bool p.gate))]

/-- What is known about a variation. -/
def VariationInfo.codec : Codec VariationInfo where
  read j := do
    let r ← (Layout.ofNames ["key", "name", "passthrough"]).open? j
    return {
      key := ← r.optional "key" .string
      name := ← r.optional "name" .string
      passthrough := ← r.optional "passthrough" .bool }
  write info := Record.write [
    ("key", info.key.map Json.str),
    ("name", info.name.map Json.str),
    ("passthrough", info.passthrough.map Json.bool)]

/-- A filter names its attribute `attribute`. -/
def Filter.codec : Codec Filter where
  read j := do
    let r ← (Layout.ofNames ["seed", "ranges", "attribute", "hashVersion"]).open? j
    return {
      seed := ← r.required "seed" .string
      ranges := ← r.orElse "ranges" Codec.range.list []
      hashAttribute := ← r.optional "attribute" .string
      hashVersion := ← r.optional "hashVersion" .int64 }
  write f := Record.write [
    ("seed", some (.str f.seed)),
    ("ranges", some (Codec.range.list.write f.ranges)),
    ("attribute", f.hashAttribute.map Json.str),
    ("hashVersion", f.hashVersion.map Json.int)]

namespace Experiment

/-- The fields of an experiment. Whether it is active may also be called
`isActive`. -/
def layout : Layout := [
  ["key"], ["variations"], ["weights"], ["active", "isActive"], ["coverage"], ["ranges"],
  ["condition"], ["parentConditions"], ["namespace"], ["force"], ["hashAttribute"],
  ["fallbackAttribute"], ["hashVersion"], ["meta"], ["filters"], ["seed"], ["name"], ["phase"],
  ["disableStickyBucketing"], ["bucketVersion"], ["minBucketVersion"]]

/-- An experiment over values with the given codec. Without a word on it an
experiment is active. -/
def codec {V : Type} (value : Codec V) : Codec (Experiment V) where
  read j := do
    let r ← layout.open? j
    return {
      key := ← r.required "key" .string
      variations := ← r.orElse "variations" value.list []
      weights := ← r.optional "weights" Codec.float.list
      active := ← r.orElse "active" .bool true
      coverage := ← r.optional "coverage" .float
      ranges := ← r.optional "ranges" Codec.range.list
      condition := ← r.optional "condition" .condition
      prerequisites := ← r.orElse "parentConditions" Prerequisite.codec.list []
      slice := ← r.optional "namespace" .slice
      force := ← r.optional "force" .int64
      hashAttribute := ← r.optional "hashAttribute" .string
      fallbackAttribute := ← r.optional "fallbackAttribute" .string
      hashVersion := ← r.optional "hashVersion" .int64
      infos := ← r.optional "meta" VariationInfo.codec.list
      filters := ← r.optional "filters" Filter.codec.list
      seed := ← r.optional "seed" .string
      name := ← r.optional "name" .string
      phase := ← r.optional "phase" .string
      disableSticky := ← r.orElse "disableStickyBucketing" .bool false
      bucketVersion := ← r.optional "bucketVersion" .int64
      minBucketVersion := ← r.optional "minBucketVersion" .int64 }
  write e := Record.write [
    ("key", some (.str e.key)),
    ("variations", some (value.list.write e.variations)),
    ("weights", e.weights.map Codec.float.list.write),
    ("active", some (.bool e.active)),
    ("coverage", e.coverage.map Json.ofFloat),
    ("ranges", e.ranges.map Codec.range.list.write),
    ("condition", e.condition.map Condition.tree),
    ("parentConditions", Record.unlessEmpty Prerequisite.codec e.prerequisites),
    ("namespace", e.slice.map Codec.slice.write),
    ("force", e.force.map Json.int),
    ("hashAttribute", e.hashAttribute.map Json.str),
    ("fallbackAttribute", e.fallbackAttribute.map Json.str),
    ("hashVersion", e.hashVersion.map Json.int),
    ("meta", e.infos.map VariationInfo.codec.list.write),
    ("filters", e.filters.map Filter.codec.list.write),
    ("seed", e.seed.map Json.str),
    ("name", e.name.map Json.str),
    ("phase", e.phase.map Json.str),
    ("disableStickyBucketing", Record.ifTrue e.disableSticky),
    ("bucketVersion", e.bucketVersion.map Json.int),
    ("minBucketVersion", e.minBucketVersion.map Json.int)]

end Experiment

namespace ExperimentResult

/-- The fields of a result. -/
def layout : Layout := Layout.ofNames [
  "value", "variationId", "inExperiment", "hashAttribute", "hashValue", "key", "name", "bucket",
  "passthrough", "hashUsed", "stickyBucketUsed", "featureId"]

/-- A result over values with the given codec. All fields are written, with `null`
for what is not there. -/
def codec {V : Type} (value : Codec V) : Codec (ExperimentResult V) where
  read j := do
    let r ← layout.open? j
    return {
      value := ← r.optional "value" value
      variation := ← r.required "variationId" .index
      inExperiment := ← r.required "inExperiment" .bool
      hashAttribute := ← r.required "hashAttribute" .string
      hashValue := ← r.required "hashValue" .string
      key := ← r.required "key" .string
      name := ← r.optional "name" .string
      bucket := ← r.optional "bucket" .float
      passthrough := ← r.orElse "passthrough" .bool false
      hashUsed := ← r.orElse "hashUsed" .bool false
      stickyUsed := ← r.orElse "stickyBucketUsed" .bool false
      feature := ← r.optional "featureId" .string }
  write e := Record.write [
    ("value", some (value.orNull.write e.value)),
    ("variationId", some (Json.int e.variation)),
    ("inExperiment", some (.bool e.inExperiment)),
    ("hashAttribute", some (.str e.hashAttribute)),
    ("hashValue", some (.str e.hashValue)),
    ("key", some (.str e.key)),
    ("name", some (Codec.string.orNull.write e.name)),
    ("bucket", some (Codec.float.orNull.write e.bucket)),
    ("passthrough", some (.bool e.passthrough)),
    ("hashUsed", some (.bool e.hashUsed)),
    ("stickyBucketUsed", some (.bool e.stickyUsed)),
    ("featureId", some (Codec.string.orNull.write e.feature))]

end ExperimentResult
end FeatureFlags

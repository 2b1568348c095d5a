/-
# Records survive being written and read

A record may be read from an object, with unknown fields, other names and fields left out, or
from an array of its fields. However it was read, it is written as an object with each field
under its first name, and what is read from that is the same record (`records_round_trip`).
Nothing is rounded, and a field that was not there is not taken for `null` or for an empty list.

For each record there is a table of its fields here, which its codec keeps to
(`Codec.KeepsTo`). That is all there is to say about a record: whether it survives is a matter
of its fields.

Key definitions: `Experiment.table`, `ExperimentResult.table`, `FeatureRule.table` and the other
tables.
Key theorems: `Experiment.codec_lawful`, `FeatureRule.codec_lawful`, `records_round_trip`.
-/
import FeatureFlags.Proofs.Records
import FeatureFlags.Wire.Feature
import FeatureFlags.Wire.Sticky

namespace FeatureFlags

/-! ### Parts of experiments -/

/-- The fields of a prerequisite. -/
def Prerequisite.table : List (Field Prerequisite) := [
  .required "id" .string (·.feature),
  .required "condition" .condition (·.condition),
  .orElse "gate" .bool false (·.gate)]

theorem Prerequisite.keepsTo :
    Prerequisite.codec.KeepsTo (.ofNames ["id", "condition", "gate"]) table where
  unambiguous := by decide +kernel
  names := rfl
  read_iff j p := by
    dsimp only [codec, Option.bind_eq_bind]
    simp only [↓Option.bind_eq_some_iff]
    refine exists_congr fun r => and_congr_right fun _ => ?_
    simp only [table, List.forall_mem_cons, Field.reads_required, Field.reads_orElse]
    constructor
    · intro h
      cases p
      grind
    · intro h
      simp only [h, Option.some.injEq, exists_eq_left']
      rfl
  write_eq _ := rfl

@[simp] theorem Prerequisite.codec_lawful : codec.Lawful := keepsTo.lawful

/-- The fields of what is known about a variation. -/
def VariationInfo.table : List (Field VariationInfo) := [
  .optional "key" .string (·.key),
  .optional "name" .string (·.name),
  .optional "passthrough" .bool (·.passthrough)]

theorem VariationInfo.keepsTo :
    VariationInfo.codec.KeepsTo (.ofNames ["key", "name", "passthrough"]) table where
  unambiguous := by decide +kernel
  names := rfl
  read_iff j info := by
    dsimp only [codec, Option.bind_eq_bind]
    simp only [↓Option.bind_eq_some_iff]
    refine exists_congr fun r => and_congr_right fun _ => ?_
    simp only [table, List.forall_mem_cons, Field.reads_optional]
    constructor
    · intro h
      cases info
      grind
    · intro h
      simp only [h, Option.some.injEq, exists_eq_left']
      rfl
  write_eq _ := rfl

@[simp] theorem VariationInfo.codec_lawful : codec.Lawful := keepsTo.lawful

/-- The fields of a filter. -/
def Filter.table : List (Field Filter) := [
  .required "seed" .string (·.seed),
  .orElse "ranges" Codec.range.list [] (·.ranges),
  .optional "attribute" .string (·.hashAttribute),
  .optional "hashVersion" .int64 (·.hashVersion)]

theorem Filter.keepsTo :
    Filter.codec.KeepsTo (.ofNames ["seed", "ranges", "attribute", "hashVersion"]) table where
  unambiguous := by decide +kernel
  names := rfl
  read_iff j f := by
    dsimp only [codec, Option.bind_eq_bind]
    simp only [↓Option.bind_eq_some_iff]
    refine exists_congr fun r => and_congr_right fun _ => ?_
    simp only [table, List.forall_mem_cons, Field.reads_required, Field.reads_optional,
      Field.reads_orElse]
    constructor
    · intro h
      cases f
      grind
    · intro h
      simp only [h, Option.some.injEq, exists_eq_left']
      rfl
  write_eq _ := rfl

@[simp] theorem Filter.codec_lawful : codec.Lawful := keepsTo.lawful

/-! ### Experiments and their results -/

variable {V : Type} {value : Codec V}

/-- The fields of an experiment, over values that are read back. -/
def Experiment.table (h : value.Lawful) : List (Field (Experiment V)) := [
  .required "key" .string (·.key),
  .orElse "variations" value.list [] (·.variations) (Codec.list_lawful h),
  .optional "weights" Codec.float.list (·.weights),
  .orElse "active" .bool true (·.active),
  .optional "coverage" .float (·.coverage),
  .optional "ranges" Codec.range.list (·.ranges),
  .optional "condition" .condition (·.condition),
  .unlessEmpty "parentConditions" Prerequisite.codec (·.prerequisites),
  .optional "namespace" .slice (·.slice),
  .optional "force" .int64 (·.force),
  .optional "hashAttribute" .string (·.hashAttribute),
  .optional "fallbackAttribute" .string (·.fallbackAttribute),
  .optional "hashVersion" .int64 (·.hashVersion),
  .optional "meta" VariationInfo.codec.list (·.infos),
  .optional "filters" Filter.codec.list (·.filters),
  .optional "seed" .string (·.seed),
  .optional "name" .string (·.name),
  .optional "phase" .string (·.phase),
  .ifTrue "disableStickyBucketing" (·.disableSticky),
  .optional "bucketVersion" .int64 (·.bucketVersion),
  .optional "minBucketVersion" .int64 (·.minBucketVersion)]

theorem Experiment.keepsTo (h : value.Lawful) :
    (codec value).KeepsTo layout (table h) where
  unambiguous := by decide +kernel
  names := rfl
  read_iff j e := by
    dsimp only [codec, Option.bind_eq_bind]
    simp only [↓Option.bind_eq_some_iff]
    refine exists_congr fun r => and_congr_right fun _ => ?_
    simp only [table, List.forall_mem_cons, Field.reads_required, Field.reads_optional,
      Field.reads_orElse, Field.reads_unlessEmpty, Field.reads_ifTrue]
    constructor
    · intro h
      cases e
      grind
    · intro h
      simp only [h, Option.some.injEq, exists_eq_left']
      rfl
  write_eq _ := rfl

/-- **An experiment is read back as it is**, over values that are. -/
@[simp] theorem Experiment.codec_lawful (h : value.Lawful) : (codec value).Lawful :=
  (keepsTo h).lawful

/-- The fields of a result. All of them are written. -/
def ExperimentResult.table (h : value.Lawful) (hpresent : value.Present) :
    List (Field (ExperimentResult V)) := [
  .orNull "value" value (·.value) h hpresent,
  .required "variationId" .index (·.variation),
  .required "inExperiment" .bool (·.inExperiment),
  .required "hashAttribute" .string (·.hashAttribute),
  .required "hashValue" .string (·.hashValue),
  .required "key" .string (·.key),
  .orNull "name" .string (·.name),
  .orNull "bucket" .float (·.bucket),
  .orElse "passthrough" .bool false (·.passthrough),
  .orElse "hashUsed" .bool false (·.hashUsed),
  .orElse "stickyBucketUsed" .bool false (·.stickyUsed),
  .orNull "featureId" .string (·.feature)]

theorem ExperimentResult.keepsTo (h : value.Lawful) (hpresent : value.Present) :
    (codec value).KeepsTo layout (table h hpresent) where
  unambiguous := by decide +kernel
  names := rfl
  read_iff j e := by
    dsimp only [codec, Option.bind_eq_bind]
    simp only [↓Option.bind_eq_some_iff]
    refine exists_congr fun r => and_congr_right fun _ => ?_
    simp only [table, List.forall_mem_cons, Field.reads_required, Field.reads_orNull,
      Field.reads_orElse]
    constructor
    · intro h
      cases e
      grind
    · intro h
      simp only [h, Option.some.injEq, exists_eq_left']
      rfl
  write_eq _ := rfl

/-- **A result is read back as it is**, over values that are and of which none but `null` is
written as `null`. -/
@[simp] theorem ExperimentResult.codec_lawful (h : value.Lawful) (hpresent : value.Present) :
    (codec value).Lawful :=
  (keepsTo h hpresent).lawful

/-! ### Features -/

/-- The only field of the result of an exposure. -/
def TrackedExposure.resultTable : List (Field ExperimentResult) := [
  .required "experimentResult" (ExperimentResult.codec .json) id]

theorem TrackedExposure.resultKeepsTo :
    resultCodec.KeepsTo (.ofNames ["experimentResult"]) resultTable where
  unambiguous := by decide +kernel
  names := rfl
  read_iff j result := by
    dsimp only [resultCodec, Option.bind_eq_bind]
    simp only [↓Option.bind_eq_some_iff]
    refine exists_congr fun r => and_congr_right fun _ => ?_
    simp only [resultTable, List.forall_mem_cons, Field.reads_required, id]
    exact (and_iff_left (List.forall_mem_nil _)).symm
  write_eq _ := rfl

@[simp] theorem TrackedExposure.resultCodec_lawful : resultCodec.Lawful := resultKeepsTo.lawful

/-- The fields of an exposure. -/
def TrackedExposure.table : List (Field TrackedExposure) := [
  .required "experiment" (Experiment.codec .json) (·.experiment),
  .required "result" resultCodec (·.result)]

theorem TrackedExposure.keepsTo :
    TrackedExposure.codec.KeepsTo (.ofNames ["experiment", "result"]) table where
  unambiguous := by decide +kernel
  names := rfl
  read_iff j t := by
    dsimp only [codec, Option.bind_eq_bind]
    simp only [↓Option.bind_eq_some_iff]
    refine exists_congr fun r => and_congr_right fun _ => ?_
    simp only [table, List.forall_mem_cons, Field.reads_required]
    constructor
    · intro h
      cases t
      grind
    · intro h
      simp only [h, Option.some.injEq, exists_eq_left']
      rfl
  write_eq _ := rfl

@[simp] theorem TrackedExposure.codec_lawful : codec.Lawful := keepsTo.lawful

/-- The fields of a rule. A rule that forces `null` is not one that forces nothing. -/
def FeatureRule.table : List (Field FeatureRule) := [
  .optional "id" .string (·.id),
  .optional "condition" .condition (·.condition),
  .unlessEmpty "parentConditions" Prerequisite.codec (·.prerequisites),
  .optional "coverage" .float (·.coverage),
  .given "force" (·.force),
  .optional "variations" Codec.json.list (·.variations),
  .optional "key" .string (·.key),
  .optional "weights" Codec.float.list (·.weights),
  .optional "namespace" .slice (·.slice),
  .optional "hashAttribute" .string (·.hashAttribute),
  .optional "fallbackAttribute" .string (·.fallbackAttribute),
  .optional "hashVersion" .int64 (·.hashVersion),
  .optional "range" .range (·.range),
  .optional "ranges" Codec.range.list (·.ranges),
  .optional "meta" VariationInfo.codec.list (·.infos),
  .optional "filters" Filter.codec.list (·.filters),
  .optional "seed" .string (·.seed),
  .optional "name" .string (·.name),
  .optional "phase" .string (·.phase),
  .unlessEmpty "tracks" TrackedExposure.codec (·.tracks),
  .ifTrue "disableStickyBucketing" (·.disableSticky),
  .optional "bucketVersion" .int64 (·.bucketVersion),
  .optional "minBucketVersion" .int64 (·.minBucketVersion)]

theorem FeatureRule.keepsTo :
    codec.KeepsTo layout table where
  unambiguous := by decide +kernel
  names := rfl
  read_iff j e := by
    dsimp only [codec, Option.bind_eq_bind]
    simp only [↓Option.bind_eq_some_iff]
    refine exists_congr fun r => and_congr_right fun _ => ?_
    simp only [table, List.forall_mem_cons, Field.reads_optional, Field.reads_unlessEmpty,
      Field.reads_ifTrue, Field.reads_given]
    constructor
    · intro h
      cases e
      grind
    · intro h
      simp only [h, Option.some.injEq, exists_eq_left']
      rfl
  write_eq _ := rfl

/-- **A rule is read back as it is.** -/
@[simp] theorem FeatureRule.codec_lawful : codec.Lawful := keepsTo.lawful

/-- The fields of a feature. Both are written. -/
def Feature.table : List (Field Feature) := [
  .orElse "defaultValue" .json .null (·.defaultValue),
  .orElse "rules" FeatureRule.codec.list [] (·.rules)]

theorem Feature.keepsTo :
    Feature.codec.KeepsTo (.ofNames ["defaultValue", "rules"]) table where
  unambiguous := by decide +kernel
  names := rfl
  read_iff j f := by
    dsimp only [codec, Option.bind_eq_bind]
    simp only [↓Option.bind_eq_some_iff]
    refine exists_congr fun r => and_congr_right fun _ => ?_
    simp only [table, List.forall_mem_cons, Field.reads_orElse]
    constructor
    · intro h
      cases f
      grind
    · intro h
      simp only [h, Option.some.injEq, exists_eq_left']
      rfl
  write_eq _ := rfl

@[simp] theorem Feature.codec_lawful : codec.Lawful := keepsTo.lawful

/-- The fields of a document. -/
def StickyDocument.table : List (Field StickyDocument) := [
  .required "attributeName" .string (·.attributeName),
  .required "attributeValue" .string (·.attributeValue),
  .required "assignments" Codec.string.dictionary (·.assignments)]

theorem StickyDocument.keepsTo :
    StickyDocument.codec.KeepsTo
      (.ofNames ["attributeName", "attributeValue", "assignments"]) table where
  unambiguous := by decide +kernel
  names := rfl
  read_iff j doc := by
    dsimp only [codec, Option.bind_eq_bind]
    simp only [↓Option.bind_eq_some_iff]
    refine exists_congr fun r => and_congr_right fun _ => ?_
    simp only [table, List.forall_mem_cons, Field.reads_required]
    constructor
    · intro h
      cases doc
      grind
    · intro h
      simp only [h, Option.some.injEq, exists_eq_left']
      rfl
  write_eq _ := rfl

@[simp] theorem StickyDocument.codec_lawful : codec.Lawful := keepsTo.lawful

/-! ### All records -/

/-- **Records survive being written and read**: whatever value one of them has been read from,
it is read back as exactly the same from what it is written as. -/
theorem records_round_trip :
    Feature.codec.Lawful ∧ FeatureRule.codec.Lawful ∧
    (Experiment.codec .json).Lawful ∧ (ExperimentResult.codec .json).Lawful ∧
    Filter.codec.Lawful ∧ VariationInfo.codec.Lawful ∧ Prerequisite.codec.Lawful ∧
    TrackedExposure.codec.Lawful ∧ Codec.range.Lawful ∧ Codec.slice.Lawful ∧
    StickyDocument.codec.Lawful := by
  refine ⟨?feature, ?rule, ?experiment, ?result, ?filter, ?info, ?prerequisite, ?exposure,
    ?range, ?slice, ?document⟩
  case feature => exact Feature.codec_lawful
  case rule => exact FeatureRule.codec_lawful
  case experiment => exact Experiment.codec_lawful Codec.json_lawful
  case result => exact ExperimentResult.codec_lawful Codec.json_lawful Codec.json_present
  case filter => exact Filter.codec_lawful
  case info => exact VariationInfo.codec_lawful
  case prerequisite => exact Prerequisite.codec_lawful
  case exposure => exact TrackedExposure.codec_lawful
  case range => exact Codec.range_lawful
  case slice => exact Codec.slice_lawful
  case document => exact StickyDocument.codec_lawful

/-- An array gives the fields in their order, and a rule that forces `null` is not one that
forces nothing. -/
example :
    (FeatureRule.codec.read (.arr [.null, .null, .arr [], .null])).map (·.force) =
      some none ∧
    (FeatureRule.codec.read (.arr [.null, .null, .arr [], .null, .null])).map (·.force) =
      some (some .null) :=
  ⟨rfl, rfl⟩

end FeatureFlags

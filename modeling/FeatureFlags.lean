import FeatureFlags.Bucketing
import FeatureFlags.Condition
import FeatureFlags.Configuration
import FeatureFlags.Decimal.Finite
import FeatureFlags.Decimal.Numeral
import FeatureFlags.Decimal.Scaled
import FeatureFlags.Decimal.Shortest
import FeatureFlags.Decimal.Text
import FeatureFlags.Dictionary
import FeatureFlags.Error
import FeatureFlags.Evaluation.Experiment
import FeatureFlags.Evaluation.Feature
import FeatureFlags.Evaluation.Prerequisites
import FeatureFlags.Evaluation.Progress
import FeatureFlags.Evaluation.Setting
import FeatureFlags.Experiment
import FeatureFlags.Feature
import FeatureFlags.Hashing
import FeatureFlags.Identity
import FeatureFlags.Json.Basic
import FeatureFlags.Json.Equivalence
import FeatureFlags.Json.Loose
import FeatureFlags.Json.Reader
import FeatureFlags.Json.Writer
import FeatureFlags.Pattern.Basic
import FeatureFlags.Pattern.CharSet
import FeatureFlags.Pattern.Matching
import FeatureFlags.Pattern.Reader
import FeatureFlags.Proofs.AssignmentKeys
import FeatureFlags.Proofs.Blocking
import FeatureFlags.Proofs.BucketRanges
import FeatureFlags.Proofs.CodecLaws
import FeatureFlags.Proofs.Coherence
import FeatureFlags.Proofs.Composition
import FeatureFlags.Proofs.ConditionMeaning
import FeatureFlags.Proofs.ConditionOrder
import FeatureFlags.Proofs.Consistency
import FeatureFlags.Proofs.CycleDetection
import FeatureFlags.Proofs.CyclePropagation
import FeatureFlags.Proofs.Decision
import FeatureFlags.Proofs.Deduplication
import FeatureFlags.Proofs.Documents
import FeatureFlags.Proofs.EqualByValue
import FeatureFlags.Proofs.EvaluationStack
import FeatureFlags.Proofs.Exclusion
import FeatureFlags.Proofs.FloatIntegers
import FeatureFlags.Proofs.FloatOrder
import FeatureFlags.Proofs.GuestContinuity
import FeatureFlags.Proofs.Independence
import FeatureFlags.Proofs.Isolation
import FeatureFlags.Proofs.KillSwitch
import FeatureFlags.Proofs.LastWrites
import FeatureFlags.Proofs.Loaded
import FeatureFlags.Proofs.Lookup
import FeatureFlags.Proofs.MalformedParts
import FeatureFlags.Proofs.NoTrace
import FeatureFlags.Proofs.NumberSpelling
import FeatureFlags.Proofs.Oblivious
import FeatureFlags.Proofs.PlainEvaluation
import FeatureFlags.Proofs.PreReleases
import FeatureFlags.Proofs.QaMode
import FeatureFlags.Proofs.RampUp
import FeatureFlags.Proofs.Records
import FeatureFlags.Proofs.References
import FeatureFlags.Proofs.Refresh
import FeatureFlags.Proofs.Repetition
import FeatureFlags.Proofs.RolloutCoverage
import FeatureFlags.Proofs.RoundTrip
import FeatureFlags.Proofs.RuleExperiment
import FeatureFlags.Proofs.Settling
import FeatureFlags.Proofs.SharedService
import FeatureFlags.Proofs.SingleRule
import FeatureFlags.Proofs.Stages
import FeatureFlags.Proofs.Steps
import FeatureFlags.Proofs.StickySurvival
import FeatureFlags.Proofs.StoredDocuments
import FeatureFlags.Proofs.VersionOrder
import FeatureFlags.Result
import FeatureFlags.Session.Basic
import FeatureFlags.Session.Profile
import FeatureFlags.Session.Typed
import FeatureFlags.Session.World
import FeatureFlags.Sticky.Assignment
import FeatureFlags.Sticky.Document
import FeatureFlags.Sticky.Service
import FeatureFlags.Text.Blank
import FeatureFlags.Text.Split
import FeatureFlags.Text.Utf8
import FeatureFlags.Tracking
import FeatureFlags.Unicode.CaseFolding
import FeatureFlags.Unicode.Category
import FeatureFlags.Unicode.Inversion
import FeatureFlags.Unicode.Script
import FeatureFlags.Unicode.Trait
import FeatureFlags.Url.Basic
import FeatureFlags.Url.Escapes
import FeatureFlags.Url.Host
import FeatureFlags.Url.Punycode
import FeatureFlags.UrlOverride
import FeatureFlags.Version
import FeatureFlags.Wire.Codec
import FeatureFlags.Wire.Configuration
import FeatureFlags.Wire.Experiment
import FeatureFlags.Wire.Feature
import FeatureFlags.Wire.Record
import FeatureFlags.Wire.Result
import FeatureFlags.Wire.Sticky

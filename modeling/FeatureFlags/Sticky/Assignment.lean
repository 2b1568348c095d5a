/-
# Sticky assignments of a user

The assignments that count for a user are those stored for the attribute that the
experiment places users by, together with those stored for its fallback attribute,
which give way to the others. So a user who was assigned before logging in keeps the
variation afterwards, unless another one is stored for the first attribute already.

A document of the fallback attribute for another value shows that the documents at
hand belong to somebody else; then no assignment counts.

Key definitions:
* `StickyDocuments.assignmentsFor`: the assignments that count.
* `StickyExperiment.lookup`: what they say about an experiment.
* `StickyDocuments.assign`: a document with more assignments.
-/
import FeatureFlags.Decimal.Numeral
import FeatureFlags.Experiment
import FeatureFlags.Sticky.Document

namespace FeatureFlags

namespace StickyDocuments

/-- The assignments stored for an attribute value. -/
def assignmentsOf (docs : StickyDocuments) (identity : Identity) : Assignments :=
  match docs.find? (documentKey identity.name identity.value) with
  | some doc => doc.assignments
  | none => .empty

/-- Whether a document belongs to the attribute of an identity, but to another
value. -/
def hasOther (docs : StickyDocuments) (identity : Identity) : Bool :=
  docs.values.any fun doc =>
    doc.attributeName == identity.name && doc.attributeValue != identity.value

/-- The assignments that count for a user. Those of the fallback attribute give way
to those of the first one. -/
def assignmentsFor (docs : StickyDocuments) (hashAttribute fallbackAttribute : Option String)
    (attributes : Attributes) : Assignments :=
  let own := docs.assignmentsOf (.resolve hashAttribute none attributes)
  match Identity.named fallbackAttribute with
  | none => own
  | some name =>
    let fallback := Identity.resolve (some name) none attributes
    if docs.hasOther fallback then .empty
    else if fallback.value = "" then own
    else (docs.assignmentsOf fallback).overlay own

end StickyDocuments

/-- What of an experiment matters for its stored assignments. -/
structure StickyExperiment where
  key : String
  bucketVersion : Option Int
  minBucketVersion : Option Int
  infos : List VariationInfo
  hashAttribute : Option String
  fallbackAttribute : Option String

/-- What of an experiment matters for its stored assignments. -/
def Experiment.sticky {V : Type} (e : Experiment V) : StickyExperiment :=
  { key := e.key
    bucketVersion := e.bucketVersion
    minBucketVersion := e.minBucketVersion
    infos := e.infos.getD []
    hashAttribute := e.hashAttribute
    fallbackAttribute := e.fallbackAttribute }

/-- What the stored assignments say about an experiment. -/
inductive StickyVariation where
  /-- There is none that could be used. -/
  | unassigned
  /-- The user was assigned under a bucket version below the least one, and is kept
  out. -/
  | blocked
  /-- The user was assigned the variation. -/
  | assigned (variation : Nat)
deriving DecidableEq, Repr

/-- The variation that the user was assigned. -/
def StickyVariation.variation? : StickyVariation → Option Nat
  | assigned variation => some variation
  | unassigned | blocked => none

namespace StickyExperiment

/-- The bucket version under which an assignment key belongs to an experiment, if it
does and the version is not negative. -/
def versionOf? (experiment key : String) : Option Nat :=
  (natural? (key.toList.drop (experiment.length + 2))).filter fun version =>
    assignmentKey experiment (some version) == key

/-- Whether there is an assignment under a version below the least one. -/
def isBlocked (e : StickyExperiment) (assignments : Assignments) : Bool :=
  assignments.keys.any fun key =>
    (versionOf? e.key key).any fun version => decide ((version : Int) < e.minBucketVersion.getD 0)

/-- The variation with a key. -/
def variationWithKey? (e : StickyExperiment) (key : String) : Option Nat :=
  e.infos.findIdx? fun info => info.key == some key

/-- The variation that is assigned under the current bucket version. -/
def assignedIn? (e : StickyExperiment) (assignments : Assignments) : Option Nat :=
  (assignments.find? (assignmentKey e.key e.bucketVersion)).bind e.variationWithKey?

/-- What the stored assignments of a user say about an experiment. -/
def lookup (e : StickyExperiment) (docs : StickyDocuments) (attributes : Attributes) :
    StickyVariation :=
  let assignments := docs.assignmentsFor e.hashAttribute e.fallbackAttribute attributes
  if e.isBlocked assignments then .blocked
  else match e.assignedIn? assignments with
    | some variation => .assigned variation
    | none => .unassigned

end StickyExperiment

/-- The document of an attribute value with new assignments, and whether it differs
from the one at hand. -/
structure StickyUpdate where
  doc : StickyDocument
  changed : Bool

/-- Adds assignments to the document of an attribute value. New ones replace older
ones of the same key. -/
def StickyDocuments.assign (docs : StickyDocuments) (identity : Identity)
    (assignments : Assignments) : StickyUpdate :=
  let stored := docs.assignmentsOf identity
  let merged := stored.overlay assignments
  ⟨⟨identity.name, identity.value, merged⟩, decide (merged ≠ stored)⟩

end FeatureFlags

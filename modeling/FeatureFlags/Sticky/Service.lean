/-
# The service that keeps sticky documents

Documents are kept by storage key. For a user the service is asked for one document
for each attribute that some experiment of a feature names, and for the default one if
some experiment names none to place users by.

Key definitions:
* `StickyDocuments.save`, `StickyDocuments.documentOf?`.
* `StickyDocuments.loadAll`: the documents of several attribute values.
* `Features.identifiers`: the attributes that documents are asked for.
-/
import FeatureFlags.Feature
import FeatureFlags.Sticky.Document

namespace FeatureFlags

namespace StickyDocuments

/-- Stores a document in place of an older one under the same key. -/
def save (docs : StickyDocuments) (doc : StickyDocument) : StickyDocuments :=
  docs.insert doc.storageKey doc

/-- The document under the key of an attribute value. -/
def documentOf? (docs : StickyDocuments) (attributeName attributeValue : String) :
    Option StickyDocument :=
  docs.find? (documentKey attributeName attributeValue)

/-- The documents of several attribute values, given as pairs of name and value.
Empty values have none. -/
def loadAll (docs : StickyDocuments) (values : List (String × String)) : StickyDocuments :=
  Dictionary.ofList <| values.filterMap fun entry =>
    if entry.2 = "" then none
    else (docs.documentOf? entry.1 entry.2).map fun doc => (doc.storageKey, doc)

/-- All documents of a list, later ones in place of earlier ones under the same key. -/
def ofList (docs : List StickyDocument) : StickyDocuments := docs.foldl save .empty

theorem find?_save (docs : StickyDocuments) (doc : StickyDocument) (key : String) :
    (docs.save doc).find? key = if doc.storageKey = key then some doc else docs.find? key :=
  Dictionary.find?_insert docs doc.storageKey key doc

end StickyDocuments

/-- The attributes that the experiment of a rule names. The default one stands in for a
first one that is not given, but not for an empty name. -/
def FeatureRule.identifiers (rule : FeatureRule) : List String :=
  if rule.variations.isSome then
    rule.hashAttribute.getD Identity.defaultAttribute :: rule.fallbackAttribute.toList
  else []

/-- The attributes that the experiments of features name, in ascending order. -/
def Features.identifiers (features : Features) : List String :=
  let named := features.values.flatMap fun declared =>
    (declared.feature?.elim [] Feature.rules).flatMap FeatureRule.identifiers
  (Dictionary.ofList (named.map fun name => (name, ()))).keys

/-- The texts that a user has for some attributes. -/
def Identity.valuesOf (names : List String) (attributes : Attributes) : List (String × String) :=
  names.map fun name => (name, (Identity.resolve (some name) none attributes).value)

end FeatureFlags

/-
# Sticky documents

What has been decided for a user once is kept in documents, one for each attribute
value. A document holds, for an experiment and its bucket version, the key of the
variation that was assigned.

Documents are stored under `name||value`, which tells attribute values apart if no
name has a bar in it, and assignments under `key__version`.

Key definitions:
* `StickyDocument`, `StickyDocument.storageKey`.
* `assignmentKey`: the key of an assignment.
-/
import FeatureFlags.Dictionary

namespace FeatureFlags

/-- Variation keys by assignment key. -/
abbrev Assignments := Dictionary String

/-- The assignments of the users with one attribute value. -/
structure StickyDocument where
  attributeName : String
  attributeValue : String
  assignments : Assignments
deriving DecidableEq

/-- The key that the document of an attribute value is stored under. -/
def documentKey (attributeName attributeValue : String) : String :=
  attributeName ++ "||" ++ attributeValue

/-- The key that the document is stored under. -/
def StickyDocument.storageKey (doc : StickyDocument) : String :=
  documentKey doc.attributeName doc.attributeValue

/-- Documents by storage key. -/
abbrev StickyDocuments := Dictionary StickyDocument

/-- The key of the assignment for an experiment; the bucket version is zero if none
is given. -/
def assignmentKey (experiment : String) (bucketVersion : Option Int) : String :=
  experiment ++ "__" ++ toString (bucketVersion.getD 0)

end FeatureFlags

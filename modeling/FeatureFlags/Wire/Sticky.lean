/-
# Sticky documents as JSON

Key definitions:
* `StickyDocument.codec`.
-/
import FeatureFlags.Sticky.Document
import FeatureFlags.Wire.Record

namespace FeatureFlags

/-- A document; all of its fields must be given. -/
def StickyDocument.codec : Codec StickyDocument where
  read j := do
    let r ← (Layout.ofNames ["attributeName", "attributeValue", "assignments"]).open? j
    return {
      attributeName := ← r.required "attributeName" .string
      attributeValue := ← r.required "attributeValue" .string
      assignments := ← r.required "assignments" Codec.string.dictionary }
  write doc := Record.write [
    ("attributeName", some (.str doc.attributeName)),
    ("attributeValue", some (.str doc.attributeValue)),
    ("assignments", some (Codec.string.dictionary.write doc.assignments))]

end FeatureFlags

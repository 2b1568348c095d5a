/-
# Profiles from text

Attributes come as the JSON text of an object, and the page as its address.

Key definitions:
* `Profile.readAttributes`, `Profile.readUrl`, `Profile.ofTexts`.
-/
import FeatureFlags.Error
import FeatureFlags.Evaluation.Setting
import FeatureFlags.Wire.Codec

namespace FeatureFlags.Profile

/-- Attributes from the text of an object. -/
def readAttributes (text : String) : Except FlagError Attributes :=
  match Json.parse? text with
  | none => .error .invalidJson
  | some (.obj fields) => .ok fields
  | some _ => .error .attributesNotAnObject

/-- A page address from its text. -/
def readUrl (text : String) : Except FlagError Url :=
  match Url.parse? text with
  | none => .error .invalidUrl
  | some url => .ok url

/-- A profile from the text of the attributes and, if there is one, of the page
address. What is wrong with the attributes is reported first. -/
def ofTexts (attributes : String) (url : Option String) (forcedVariations : Dictionary Nat)
    (forcedValues : Dictionary Json) : Except FlagError Profile := do
  let attributes ← readAttributes attributes
  let url ← url.mapM readUrl
  return { attributes, url, forcedVariations, forcedValues }

end FeatureFlags.Profile

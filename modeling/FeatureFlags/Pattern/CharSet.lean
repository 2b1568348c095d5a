/-
# Sets of characters

Sets of characters are kept as they are described: ranges and rows of the Unicode
tables, put together by union, intersection, complement and closure under case.
Membership is decided when it is asked for.

Key definitions:
* `CharSet`, `CharSet.contains`.
* `CharSet.digit`, `CharSet.space`, `CharSet.word`: the usual three, in Unicode.
* `CharSet.ofProperty?`: the set that a property name stands for.
-/
import FeatureFlags.Unicode.CaseFolding
import FeatureFlags.Unicode.Category
import FeatureFlags.Unicode.Script
import FeatureFlags.Unicode.Trait

namespace FeatureFlags

/-- The tables that a set can be taken from. -/
inductive CharTable where
  | category
  | script
  | extendedScript
  | trait
deriving DecidableEq

/-- The rows of a table. -/
def CharTable.rows : CharTable → SetTable
  | .category => Unicode.categories
  | .script => Unicode.scripts
  | .extendedScript => Unicode.extendedScripts
  | .trait => Unicode.traits

/-- A set of characters. -/
inductive CharSet where
  | none
  | range (first last : Char)
  | row (table : CharTable) (name : String)
  | union (a b : CharSet)
  | inter (a b : CharSet)
  | compl (a : CharSet)
  /-- All characters that differ from a member in case only. -/
  | folded (a : CharSet)
deriving DecidableEq

namespace CharSet

/-- Whether a code point is in the set. -/
def containsCode : CharSet → Nat → Bool
  | none, _ => false
  | range first last, code => decide (first.toNat ≤ code ∧ code ≤ last.toNat)
  | row table name, code =>
    match table.rows.named? name with
    | some borders => borders.contains code
    | Option.none => false
  | union a b, code => a.containsCode code || b.containsCode code
  | inter a b, code => a.containsCode code && b.containsCode code
  | compl a, code => !a.containsCode code
  | folded a, code => (Unicode.orbitOf code).any a.containsCode

/-- Whether a character is in the set. -/
def contains (s : CharSet) (c : Char) : Bool := s.containsCode c.toNat

/-- The set of one character. -/
def single (c : Char) : CharSet := range c c

/-- The union of several sets. -/
def unions : List CharSet → CharSet
  | [] => none
  | [s] => s
  | s :: rest => union s (unions rest)

/-- All characters. -/
def all : CharSet := compl none

/-- The ASCII characters. -/
def ascii : CharSet := range '\x00' '\x7f'

/-- A number that grows with the number of runs in the set. -/
def weight : CharSet → Nat
  | none => 0
  | range _ _ => 1
  | row table name => ((table.rows.named? name).map (·.length / 2)).getD 0
  | union a b => a.weight + b.weight
  | inter a b => a.weight + b.weight
  | compl a => a.weight + 1
  | folded a => 2 * a.weight

/-! ### Digits, white space and word characters -/

/-- Decimal digits of all scripts. -/
def digit : CharSet := row .category "nd"

/-- White space. -/
def space : CharSet := row .trait "whitespace"

/-- Letters, marks, digits, connectors and joiners. -/
def word : CharSet :=
  unions [row .trait "alphabetic", row .category "mn", row .category "mc", row .category "me",
    digit, row .category "pc", row .trait "joincontrol"]

/-- The ASCII digits. -/
def asciiDigit : CharSet := range '0' '9'

/-- The ASCII letters. -/
def asciiLetter : CharSet := union (range 'A' 'Z') (range 'a' 'z')

/-- The blanks and line ends of ASCII. -/
def asciiSpace : CharSet := union (range '\t' '\r') (single ' ')

/-- ASCII letters and digits and the underscore. -/
def asciiWord : CharSet := unions [asciiLetter, asciiDigit, single '_']

/-- The ASCII set that a name in `[:name:]` stands for. -/
def ofAsciiName? : String → Option CharSet
  | "alnum" => some (union asciiLetter asciiDigit)
  | "alpha" => some asciiLetter
  | "ascii" => some ascii
  | "blank" => some (union (single '\t') (single ' '))
  | "cntrl" => some (union (range '\x00' '\x1f') (single '\x7f'))
  | "digit" => some asciiDigit
  | "graph" => some (range '!' '~')
  | "lower" => some (range 'a' 'z')
  | "print" => some (range ' ' '~')
  | "punct" => some (unions [range '!' '/', range ':' '@', range '[' '\x60', range '\x7b' '~'])
  | "space" => some asciiSpace
  | "upper" => some (range 'A' 'Z')
  | "word" => some asciiWord
  | "xdigit" => some (unions [asciiDigit, range 'A' 'F', range 'a' 'f'])
  | _ => Option.none

/-! ### Properties by name -/

/-- The union of several categories. -/
def categories (names : List String) : CharSet := unions (names.map (row .category))

/-- The assigned characters. -/
def assigned : CharSet := categories (Unicode.categories.filterMap (·.1.head?))

/-- The set of a general category, of a group of categories, or of all characters. -/
def ofCategory? (name : String) : Option CharSet :=
  match name with
  | "any" => some all
  | "assigned" => some assigned
  | "ascii" => some ascii
  | "cn" | "unassigned" => some (compl assigned)
  | "c" | "other" => some (union (compl assigned) (categories ["cc", "cf", "co"]))
  | "l" | "letter" => some (categories ["lu", "ll", "lt", "lm", "lo"])
  | "lc" | "casedletter" => some (categories ["lu", "ll", "lt"])
  | "m" | "mark" | "combiningmark" => some (categories ["mn", "mc", "me"])
  | "n" | "number" => some (categories ["nd", "nl", "no"])
  | "p" | "punctuation" | "punct" =>
    some (categories ["pc", "pd", "ps", "pe", "pi", "pf", "po"])
  | "s" | "symbol" => some (categories ["sm", "sc", "sk", "so"])
  | "z" | "separator" => some (categories ["zs", "zl", "zp"])
  | _ => (Unicode.categories.named? name).map fun _ => row .category name

/-- The set of a script. -/
def ofScript? (name : String) : Option CharSet :=
  if name = "unknown" ∨ name = "zzzz" then
    some (compl (unions (Unicode.scripts.filterMap fun r => r.1.head?.map (row .script))))
  else (Unicode.scripts.named? name).map fun _ => row .script name

/-- The set of a script in which shared characters count. -/
def ofExtendedScript? (name : String) : Option CharSet :=
  match List.find? (fun r => r.1.contains name) Unicode.scripts with
  | some (short :: _, _) =>
    if (Unicode.extendedScripts.named? short).isSome then some (row .extendedScript short)
    else some (row .script short)
  | _ => ofScript? name

/-- The set of a trait. -/
def ofTrait? (name : String) : Option CharSet :=
  (Unicode.traits.named? name).map fun _ => row .trait name

/-- A property name in lower case, without blanks, dashes, underscores, and without
"is" in front; but `isc` is a name of its own. -/
def looseName (name : List Char) : String :=
  let lower (c : Char) : Char := c.toLower
  let plain (text : List Char) : List Char :=
    (text.filter fun c => c ≠ ' ' ∧ c ≠ '_' ∧ c ≠ '-' ∧ c.toNat < 128).map lower
  match name with
  | i :: s :: rest =>
    if lower i = 'i' ∧ lower s = 's' then
      if plain rest = ['c'] then "isc" else String.ofList (plain rest)
    else String.ofList (plain name)
  | _ => String.ofList (plain name)

/-- The set of a property given by its name alone: a trait, a category or a script. -/
def ofName? (name : List Char) : Option CharSet :=
  let n := looseName name
  let byTable := (ofCategory? n).or (ofScript? n)
  if n = "sc" ∨ n = "lc" ∨ n = "cf" then byTable else (ofTrait? n).or byTable

/-- The set of a property given as a name and a value. -/
def ofNameAndValue? (name value : List Char) : Option CharSet :=
  match looseName name with
  | "generalcategory" | "gc" | "category" => ofCategory? (looseName value)
  | "script" | "sc" => ofScript? (looseName value)
  | "scriptextensions" | "scx" => ofExtendedScript? (looseName value)
  | _ => Option.none

/-- The set of a property: a name, or a name and a value with `:`, `=` or `!=`
between them, where `!=` means the complement. -/
def ofProperty? (text : List Char) : Option CharSet :=
  let split (mark : Char) : List Char × List Char :=
    (text.takeWhile (· ≠ mark), (text.dropWhile (· ≠ mark)).drop 1)
  if text.contains '!' ∧ (split '!').2.head? = some '=' then
    (ofNameAndValue? (split '!').1 ((split '!').2.drop 1)).map compl
  else if text.contains ':' then ofNameAndValue? (split ':').1 (split ':').2
  else if text.contains '=' then ofNameAndValue? (split '=').1 (split '=').2
  else ofName? text

end CharSet
end FeatureFlags

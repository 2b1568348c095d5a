/-
# Page addresses

Of the address of a page only the query matters here, once the address is known to
be valid. An address is read as browsers read it: blanks around it, tabs and line
ends are dropped, backslashes count as slashes where the scheme has a host, and an
address must begin with a scheme.

Key definitions:
* `Url`: an address, by the names and values of its query.
* `Url.parse?`: the address of a text.
-/
import FeatureFlags.Url.Host

namespace FeatureFlags

/-- The address of a page: the names and values of its query, in their order. -/
structure Url where
  query : List (String × String)

namespace Url

/-- How the part after the scheme is read: with a host that has fixed rules, as a
file, or freely. -/
inductive SchemeKind where
  | hosted
  | file
  | free
deriving DecidableEq

/-- The kind of a scheme in lower case. -/
def SchemeKind.of (scheme : String) : SchemeKind :=
  if scheme = "file" then .file
  else if ["http", "https", "ws", "wss", "ftp"].contains scheme then .hosted
  else .free

/-- Whether a character separates parts of a path. -/
def SchemeKind.isSlash (kind : SchemeKind) (c : Char) : Bool :=
  c = '/' || (kind ≠ .free && c = '\\')

/-- The text without control characters and spaces at its ends, and without tabs and
line ends. -/
def clean (text : List Char) : List Char :=
  let front := text.dropWhile (· ≤ ' ')
  let both := (front.reverse.dropWhile (· ≤ ' ')).reverse
  both.filter fun c => c ≠ '\t' ∧ c ≠ '\n' ∧ c ≠ '\r'

/-- The scheme of an address in lower case, and the text after its colon. -/
def splitScheme? (text : List Char) : Option (String × List Char) :=
  let isPart (c : Char) : Bool := c.isAlphanum || c = '+' || c = '-' || c = '.'
  let name := text.takeWhile isPart
  match name, text.dropWhile isPart with
  | first :: _, ':' :: rest =>
    if first.isAlpha then some (String.ofList (name.map Char.toLower), rest) else none
  | _, _ => none

/-- The text up to the first slash, question mark or number sign. -/
def SchemeKind.authority (kind : SchemeKind) (text : List Char) : List Char :=
  text.takeWhile fun c => !kind.isSlash c && c ≠ '?' && c ≠ '#'

/-- The text after the last at sign, and whether there is one. -/
def dropUser (authority : List Char) : Bool × List Char :=
  (authority.contains '@', (authority.reverse.takeWhile (· ≠ '@')).reverse)

/-- The host at the beginning of a text, and the text from the colon after it on. A
colon in brackets belongs to the host. -/
def splitHost (inBrackets : Bool) : List Char → List Char × List Char
  | [] => ([], [])
  | c :: rest =>
    if c = ':' ∧ ¬inBrackets then ([], c :: rest)
    else
      let (host, suffix) := splitHost (if c = '[' then true else if c = ']' then false else inBrackets)
        rest
      (c :: host, suffix)

/-- Whether the text after a host is empty or a colon with digits for a number below
65536. -/
def isPortSuffix (text : List Char) : Bool :=
  match text with
  | [] => true
  | ':' :: digits => digits.all isDigit && digitsValue digits < 65536
  | _ => false

/-- Whether the text before the path names a user, a host and a number after it correctly. Only
a scheme without fixed rules may leave out the host, and then everything else. -/
def SchemeKind.isAuthority (kind : SchemeKind) (authority : List Char) : Bool :=
  let (hasUser, rest) := dropUser authority
  let (host, suffix) := splitHost false rest
  isPortSuffix suffix &&
    (if kind = .free then isOpaqueHost host && (host ≠ [] || (suffix = [] && !hasUser))
     else isHost host)

/-- Whether a text is a drive such as `C:` or `C|`. -/
def isDrive : List Char → Bool
  | [c, mark] => c.isAlpha && (mark = ':' || mark = '|')
  | _ => false

/-- Whether the text after the colon of a scheme is that of an address. -/
def SchemeKind.accepts (kind : SchemeKind) (rest : List Char) : Bool :=
  match kind with
  | .hosted => kind.isAuthority (kind.authority (rest.dropWhile kind.isSlash))
  | .file =>
    match rest with
    | a :: b :: rest =>
      if kind.isSlash a && kind.isSlash b then
        let host := kind.authority rest
        host = [] || isDrive host || isHost host
      else true
    | _ => true
  | .free =>
    match rest with
    | '/' :: '/' :: rest => kind.isAuthority (kind.authority rest)
    | _ => true

/-- The query of an address: from the first question mark to the fragment. -/
def queryText (rest : List Char) : List Char :=
  ((rest.takeWhile (· ≠ '#')).dropWhile (· ≠ '?')).drop 1

/-- The address of a text, if it is one. -/
def parse? (text : String) : Option Url := do
  let (scheme, rest) ← splitScheme? (clean text.toList)
  if (SchemeKind.of scheme).accepts rest then some ⟨formPairs (queryText rest)⟩ else none

/-- The first value under a name in the query. -/
def queryValue? (url : Url) (name : String) : Option String :=
  (url.query.find? fun pair => pair.1 == name).map (·.2)

end Url
end FeatureFlags

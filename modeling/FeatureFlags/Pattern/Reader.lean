/-
# Reading patterns

The notation is that of regular expressions without look-around and without
references to groups. Groups may be named, and flags may be set for a group or for
the rest of one:

* `i` ignores case, `m` lets `^` and `$` match at line ends, `s` lets the dot match
  a line feed, `R` makes `\r\n` a line end, `x` allows blanks and comments between
  the parts, `U` swaps preferences of repetitions, which do not matter here;
* `u` is on at first. Without it classes are those of ASCII, and a class that
  reaches beyond ASCII is refused.

Bracketed classes nest and can be intersected, subtracted and compared with `&&`,
`--` and `~~`.

The reader keeps the groups and brackets that are open on a stack. Each item has
a height in the tree of groups, repetitions and lists; patterns higher than 250
are refused, and so are patterns whose size after unrolling is too large.

Key definitions:
* `Pattern.ofText?`: the pattern of a text.
-/
import FeatureFlags.Decimal.Numeral
import FeatureFlags.Pattern.Basic
import FeatureFlags.Text.Blank

namespace FeatureFlags
namespace Pattern
namespace Reader

/-- The flags in force. -/
structure Flags where
  ignoreCase : Bool := false
  multiLine : Bool := false
  dotAll : Bool := false
  unicode : Bool := true
  anyLine : Bool := false
  verbose : Bool := false

/-- The text after blanks and comments. -/
def skipVerbose (inComment : Bool) : List Char → List Char
  | [] => []
  | c :: rest =>
    if inComment then skipVerbose (c ≠ '\n') rest
    else if isBlank c then skipVerbose false rest
    else if c = '#' then skipVerbose true rest
    else c :: rest

/-- The text from the next meaningful character on. -/
def skip (flags : Flags) (text : List Char) : List Char :=
  if flags.verbose then skipVerbose false text else text

/-- The text after its first character and what has no meaning behind it. -/
def next (flags : Flags) (text : List Char) : List Char := skip flags text.tail

/-! ### Single characters -/

/-- What stands for one character or for a place: a character, one given as a byte
of two hexadecimal digits, a set of characters, or a boundary. -/
inductive Atom where
  | literal (c : Char)
  | byte (c : Char)
  | set (s : CharSet)
  | boundary (b : Boundary)

/-- The characters that have a meaning of their own. -/
def isMark (c : Char) : Bool := "\\.+*?()|[]\x7b\x7d^$#&-~".toList.contains c

/-- Whether a backslash before the character means the character itself. -/
def isEscapable (c : Char) : Bool :=
  isMark c || (decide (c.toNat < 128) && !c.isAlphanum && c ≠ '<' && c ≠ '>')

/-- The character with a code given in hexadecimal digits. -/
def ofHex? (digits : List Char) : Option Char := do
  if digits = [] then none
  let values ← digits.mapM hexDigit?
  let code := values.foldl (fun n d => 16 * n + d) 0
  if h : code.isValidChar then some (Char.ofNatAux code h) else none

/-- Takes `n` characters, with what has no meaning between them. -/
def takeSpaced? (flags : Flags) : Nat → List Char → Option (List Char × List Char)
  | 0, text => some ([], text)
  | _ + 1, [] => none
  | n + 1, c :: rest =>
    (takeSpaced? flags n (skip flags rest)).map fun (taken, rest) => (c :: taken, rest)

/-- The text up to a closing brace, and what follows it. -/
def untilBrace? (text : List Char) : Option (List Char × List Char) :=
  match text.dropWhile (· ≠ '\x7d') with
  | [] => none
  | _ :: rest => some (text.takeWhile (· ≠ '\x7d'), rest)

/-- Leaves out blanks where they have no meaning. -/
def unspaced (flags : Flags) (text : List Char) : List Char :=
  if flags.verbose then text.filter fun c => !isBlank c else text

/-- A character by its code: `count` digits, or any number in braces. -/
def hex? (flags : Flags) (count : Nat) (text : List Char) : Option (Atom × List Char) :=
  match skip flags text with
  | '\x7b' :: rest => do
    let (digits, rest) ← untilBrace? rest
    return (.literal (← ofHex? (unspaced flags digits)), skip flags rest)
  | text => do
    let (digits, rest) ← takeSpaced? flags count text
    let c ← ofHex? digits
    return (if count = 2 then .byte c else .literal c, rest)

/-- The complement of a set; without `unicode` it would reach beyond ASCII. -/
def negate? (flags : Flags) (negated : Bool) (s : CharSet) : Option CharSet :=
  if ¬negated then some s else if flags.unicode then some s.compl else none

/-- A set closed under case, if case is ignored. -/
def foldCase (flags : Flags) (s : CharSet) : CharSet :=
  if ¬flags.ignoreCase then s
  else if flags.unicode then s.folded
  else (s.folded).inter .ascii

/-- Digits, white space or word characters, by their letter. -/
def perlSet? (flags : Flags) (letter : Char) : Option CharSet :=
  match letter.toLower, flags.unicode with
  | 'd', true => some .digit
  | 'd', false => some .asciiDigit
  | 's', true => some .space
  | 's', false => some .asciiSpace
  | 'w', true => some .word
  | 'w', false => some .asciiWord
  | _, _ => none

/-- A property: one letter, or a name in braces. -/
def property? (flags : Flags) (negated : Bool) (text : List Char) :
    Option (Atom × List Char) := do
  let (name, rest) ← match skip flags text with
    | [] => none
    | '\\' :: _ => none
    | '\x7b' :: rest => (untilBrace? rest).map fun (name, rest) => (unspaced flags name, rest)
    | c :: rest => some ([c], skip flags rest)
  if ¬flags.unicode then none
  let s ← CharSet.ofProperty? name
  return (.set (← negate? flags negated (foldCase flags s)), rest)

/-- The word characters that boundaries look at. -/
def wordSet (flags : Flags) : CharSet := if flags.unicode then .word else .asciiWord

/-- A word boundary, after `\b`. In braces a special kind may be named; braces that
hold anything but letters and dashes are left for a repetition. -/
def wordEdge? (flags : Flags) (text : List Char) : Option (Atom × List Char) :=
  let word := wordSet flags
  let isNamePart (c : Char) : Bool := c.isAlpha || c = '-'
  match text with
  | '\x7b' :: rest =>
    match skip flags rest with
    | [] => none
    | c :: _ =>
      if !isNamePart c then some (.boundary (.wordEdge word), text)
      else do
        let (name, rest) ← untilBrace? rest
        let boundary ← match String.ofList (unspaced flags name) with
          | "start" => some (Boundary.wordStart word)
          | "end" => some (.wordEnd word)
          | "start-half" => some (.wordStartHalf word)
          | "end-half" => some (.wordEndHalf word)
          | _ => none
        return (.boundary boundary, rest)
  | _ => some (.boundary (.wordEdge word), text)

/-- What follows a backslash. -/
def escape? (flags : Flags) : List Char → Option (Atom × List Char)
  | [] => none
  | 'x' :: rest => hex? flags 2 rest
  | 'u' :: rest => hex? flags 4 rest
  | 'U' :: rest => hex? flags 8 rest
  | 'p' :: rest => property? flags false rest
  | 'P' :: rest => property? flags true rest
  | 'a' :: rest => some (.literal '\x07', rest)
  | 'f' :: rest => some (.literal '\x0c', rest)
  | 't' :: rest => some (.literal '\t', rest)
  | 'n' :: rest => some (.literal '\n', rest)
  | 'r' :: rest => some (.literal '\r', rest)
  | 'v' :: rest => some (.literal '\x0b', rest)
  | 'A' :: rest => some (.boundary .textStart, rest)
  | 'z' :: rest => some (.boundary .textEnd, rest)
  | 'b' :: rest => wordEdge? flags rest
  | 'B' :: rest => some (.boundary (.notWordEdge (wordSet flags)), rest)
  | '<' :: rest => some (.boundary (.wordStart (wordSet flags)), rest)
  | '>' :: rest => some (.boundary (.wordEnd (wordSet flags)), rest)
  | c :: rest =>
    match perlSet? flags c with
    | some s => (negate? flags c.isUpper s).map fun s => (.set s, rest)
    | none => if isEscapable c then some (.literal c, rest) else none

/-! ### Bracketed classes -/

/-- How two classes are combined. -/
inductive ClassOp where
  | inter
  | diff
  | symm

/-- A set, with its height in the tree of the pattern. -/
structure ClassItem where
  set : CharSet
  height : Nat

/-- An open bracket: whether its class is negated, the part before the last
operator, and the items after it in reverse. -/
structure Bracket where
  negated : Bool
  before : Option (ClassOp × ClassItem)
  items : List ClassItem

/-- The union of the items of a bracket. -/
def Bracket.union (b : Bracket) : ClassItem :=
  match b.items with
  | [] => ⟨.none, 0⟩
  | [item] => item
  | items => ⟨.unions (items.map (·.set)), 1 + (items.map (·.height)).foldl max 0⟩

/-- Applies an operator; without regard to case both sides are closed first. -/
def ClassOp.apply (flags : Flags) (op : ClassOp) (left right : ClassItem) : ClassItem :=
  let a := foldCase flags left.set
  let b := foldCase flags right.set
  let s := match op with
    | .inter => a.inter b
    | .diff => a.inter b.compl
    | .symm => (a.union b).inter (a.inter b).compl
  ⟨s, 1 + max left.height right.height⟩

/-- The class of a bracket as far as it is read. -/
def Bracket.current (flags : Flags) (b : Bracket) : ClassItem :=
  match b.before with
  | none => b.union
  | some (op, left) => op.apply flags left b.union

/-- The class of a bracket that is closed. -/
def Bracket.close? (flags : Flags) (b : Bracket) : Option ClassItem :=
  let item := b.current flags
  (negate? flags b.negated (foldCase flags item.set)).map (⟨·, 1 + item.height⟩)

/-- Adds an item to a bracket. -/
def Bracket.push (b : Bracket) (s : CharSet) (height : Nat) : Bracket :=
  { b with items := ⟨s, height⟩ :: b.items }

/-- Starts the part after an operator. -/
def Bracket.operate (flags : Flags) (op : ClassOp) (b : Bracket) : Bracket :=
  { b with before := some (op, b.current flags), items := [] }

/-- Dashes right after the opening of a bracket, which stand for themselves. -/
def leadingDashes (flags : Flags) (b : Bracket) : List Char → Bracket × List Char
  | '-' :: rest => leadingDashes flags (b.push (.single '-') 0) rest
  | text => (b, skip flags text)

/-- A bracket that has just been opened, with the text after it. A closing bracket
that comes first stands for itself. -/
def openBracket (flags : Flags) (text : List Char) : Bracket × List Char :=
  let text := skip flags text
  let (negated, text) := match text with
    | '^' :: rest => (true, skip flags rest)
    | _ => (false, text)
  let (b, text) := leadingDashes flags ⟨negated, none, []⟩ text
  match b.items, text with
  | [], ']' :: rest => (b.push (.single ']') 0, skip flags rest)
  | _, _ => (b, text)

/-- An ASCII class after `[`, such as `:alpha:]`. -/
def asciiClass? (flags : Flags) (text : List Char) : Option (Option CharSet × List Char) :=
  match text with
  | ':' :: rest =>
    let (negated, rest) := match rest with
      | '^' :: rest => (true, rest)
      | _ => (false, rest)
    match rest.dropWhile (· ≠ ':') with
    | ':' :: ']' :: after =>
      (CharSet.ofAsciiName? (String.ofList (rest.takeWhile (· ≠ ':')))).map fun s =>
        (negate? flags negated (foldCase flags s), after)
    | _ => none
  | _ => none

/-- One end of a range, or a set. -/
def classAtom? (flags : Flags) : List Char → Option (Atom × List Char)
  | [] => none
  | '\\' :: rest => escape? flags rest
  | c :: rest => some (.literal c, rest)

/-- The character of an atom that is an end of a range; without `unicode` it is an
ASCII character. -/
def endpoint? (flags : Flags) : Atom → Option Char
  | .literal c => if flags.unicode ∨ c.toNat < 128 then some c else none
  | .byte c => if flags.unicode ∨ c.toNat < 128 then some c else none
  | _ => none

/-- The next range, character or set of a class. -/
def classItem? (flags : Flags) (text : List Char) : Option (CharSet × List Char) := do
  let (first, rest) ← classAtom? flags text
  let rest := skip flags rest
  let alone : Option (CharSet × List Char) :=
    match first with
    | .set s => some (s, rest)
    | atom => (endpoint? flags atom).map (.single ·, rest)
  match rest with
  | [] => none
  | '-' :: after =>
    let after := skip flags after
    if after.head? = some ']' ∨ after.head? = some '-' then alone
    else
      let (last, rest) ← classAtom? flags after
      let a ← endpoint? flags first
      let b ← endpoint? flags last
      if a ≤ b then some (.range a b, rest) else none
  | _ => alone

/-- One step inside brackets: the class if the last bracket is closed, and the open
brackets otherwise. -/
def classStep? (flags : Flags) (open_ : List Bracket) (text : List Char) :
    Option ((ClassItem ⊕ List Bracket) × List Char) :=
  match open_, skip flags text with
  | b :: outer, '[' :: rest =>
    match asciiClass? flags rest with
    | some (some s, rest) => some (.inr (b.push s 0 :: outer), rest)
    | some (none, _) => none
    | none =>
      let (inner, rest) := openBracket flags rest
      some (.inr (inner :: b :: outer), rest)
  | b :: outer, ']' :: rest => do
    let item ← b.close? flags
    match outer with
    | [] => return (.inl item, rest)
    | parent :: outer => return (.inr (parent.push item.set item.height :: outer), rest)
  | b :: outer, '&' :: '&' :: rest => some (.inr (b.operate flags .inter :: outer), rest)
  | b :: outer, '-' :: '-' :: rest => some (.inr (b.operate flags .diff :: outer), rest)
  | b :: outer, '~' :: '~' :: rest => some (.inr (b.operate flags .symm :: outer), rest)
  | b :: outer, text => (classItem? flags text).map fun (s, rest) =>
    (.inr (b.push s 0 :: outer), rest)
  | [], _ => none

/-- The class whose brackets are open, and the text after it. Every step consumes
text. -/
def classRest? (flags : Flags) (open_ : List Bracket) (text : List Char) :
    Option (ClassItem × List Char) :=
  match classStep? flags open_ text with
  | none => none
  | some (.inl item, rest) => some (item, rest)
  | some (.inr more, rest) =>
    if _h : rest.length < text.length then classRest? flags more rest else none
termination_by text.length

/-! ### Groups and repetitions -/

/-- A part of a sequence: a pattern with its height, or flags, which match nothing
and cannot be repeated. -/
structure Item where
  pattern : Option Pattern
  height : Nat

/-- An open group: the flags to go back to, the finished branches and the parts of
the current branch, both in reverse. -/
structure Group where
  outer : Flags
  branches : List Item
  parts : List Item

/-- The state between parts: the flags in force, the open groups from the innermost
out, the last one for the pattern itself, and the names given to groups. -/
structure State where
  flags : Flags
  group : Group
  outer : List Group
  names : List (List Char)

/-- Nothing read yet. -/
def State.start : State := ⟨{}, ⟨{}, [], []⟩, [], []⟩

/-- The height of a list of items in the tree: a single one needs no list. -/
def listHeight : List Item → Nat
  | [] => 0
  | [item] => item.height
  | items => 1 + (items.map (·.height)).foldl max 0

/-- The current branch of a group. -/
def Group.branch (g : Group) : Item :=
  ⟨some (.sequence (g.parts.reverse.filterMap (·.pattern))), listHeight g.parts⟩

/-- The choice between the branches of a group. -/
def Group.item (g : Group) : Item :=
  let all := g.branch :: g.branches
  ⟨some (.choice (all.reverse.filterMap (·.pattern))), listHeight all⟩

/-- Adds a part to the current branch. -/
def State.push (s : State) (pattern : Option Pattern) (height : Nat) : State :=
  { s with group := { s.group with parts := ⟨pattern, height⟩ :: s.group.parts } }

/-- Opens a group with its own flags. -/
def State.openGroup (s : State) (flags : Flags) : State :=
  { s with flags, group := ⟨s.flags, [], []⟩, outer := s.group :: s.outer }

/-- Closes the innermost group. -/
def State.closeGroup? (s : State) : Option State :=
  match s.outer with
  | [] => none
  | parent :: outer =>
    let item := s.group.item
    some ({ s with flags := s.group.outer, group := parent, outer }.push
      item.pattern (1 + item.height))

/-- Starts the next branch of the innermost group. -/
def State.nextBranch (s : State) : State :=
  { s with group := { s.group with branches := s.group.branch :: s.group.branches, parts := [] } }

/-- Repeats the last part. -/
def State.repeat? (s : State) (least : Nat) (most : Option Nat) : Option State :=
  match s.group.parts with
  | ⟨some p, height⟩ :: parts =>
    some ({ s with group := { s.group with parts } }.push (some (.rep p least most)) (1 + height))
  | _ => none

/-- Sets one flag. -/
def Flags.set? (flags : Flags) (value : Bool) : Char → Option Flags
  | 'i' => some { flags with ignoreCase := value }
  | 'm' => some { flags with multiLine := value }
  | 's' => some { flags with dotAll := value }
  | 'U' => some flags
  | 'u' => some { flags with unicode := value }
  | 'R' => some { flags with anyLine := value }
  | 'x' => some { flags with verbose := value }
  | _ => none

/-- Sets the flags of a list: those before a dash on, those after it off. A flag
counts once, and something must follow the dash. -/
def Flags.setAll? (flags : Flags) (names : List Char) : Option Flags := do
  if names.eraseDups ≠ names ∨ names.getLast? = some '-' then none
  let flags ← (names.takeWhile (· ≠ '-')).foldlM (fun flags c => flags.set? true c) flags
  ((names.dropWhile (· ≠ '-')).drop 1).foldlM (fun flags c => flags.set? false c) flags

/-- Whether a character can be in the name of a group, at its start or later. -/
def isNameChar (first : Bool) (c : Char) : Bool :=
  c = '_' || CharSet.contains (.row .trait "alphabetic") c ||
    (!first && (c = '.' || c = '[' || c = ']' ||
      (CharSet.categories ["nd", "nl", "no"]).contains c))

/-- Opens a group with a name that no other group has. -/
def namedGroup? (s : State) (text : List Char) : Option (State × List Char) :=
  let name := text.takeWhile (· ≠ '>')
  match name, text.dropWhile (· ≠ '>') with
  | c :: others, _ :: rest =>
    if isNameChar true c && others.all (isNameChar false) && !s.names.contains name then
      some ({ s with names := name :: s.names }.openGroup s.flags, rest)
    else none
  | _, _ => none

/-- What follows an opening parenthesis. -/
def group? (s : State) (text : List Char) : Option (State × List Char) :=
  match skip s.flags text with
  | '?' :: '=' :: _ | '?' :: '!' :: _ | '?' :: '<' :: '=' :: _ | '?' :: '<' :: '!' :: _ => none
  | '?' :: 'P' :: '<' :: rest | '?' :: '<' :: rest => namedGroup? s rest
  | '?' :: rest =>
    let names := rest.takeWhile fun c => c ≠ ':' ∧ c ≠ ')'
    match rest.dropWhile fun c => c ≠ ':' ∧ c ≠ ')' with
    | ':' :: rest => (s.flags.setAll? names).map fun flags => (s.openGroup flags, rest)
    | ')' :: rest =>
      if names = [] then none
      else (s.flags.setAll? names).map fun flags => ({ s with flags }.push none 0, rest)
    | _ => none
  | rest => some (s.openGroup s.flags, rest)

/-- A count of a repetition, with blanks around it, below `2 ^ 32`. -/
def count? (flags : Flags) (text : List Char) : Option (Nat × List Char) := do
  let text := text.dropWhile isBlank
  let shown := unspaced flags (text.takeWhile fun c => isDigit c || (flags.verbose && isBlank c))
  let rest := text.dropWhile fun c => isDigit c || (flags.verbose && isBlank c)
  let n ← digits? shown
  if n < Nat.pow 2 32 then some (n, skip flags (rest.dropWhile isBlank)) else none

/-- The counts of a repetition, after its opening brace. -/
def counts? (flags : Flags) (text : List Char) :
    Option ((Nat × Option Nat) × List Char) := do
  let (least, rest) ← count? flags (skip flags text)
  match rest with
  | '\x7d' :: rest => some ((least, some least), rest)
  | ',' :: rest =>
    match skip flags rest with
    | '\x7d' :: rest => some ((least, none), rest)
    | rest => do
      let (most, rest) ← count? flags rest
      match rest with
      | '\x7d' :: rest => if least ≤ most then some ((least, some most), rest) else none
      | _ => none
  | _ => none

/-- The text after a mark that makes a repetition prefer less. -/
def dropLazy : List Char → List Char
  | '?' :: rest => rest
  | text => text

/-- The pattern of an atom. -/
def atomPattern? (flags : Flags) : Atom → Option Pattern
  | .literal c =>
    if flags.unicode ∨ c.toNat < 128 then some (.char (foldCase flags (.single c)))
    else some (.char (.single c))
  | .byte c =>
    if flags.unicode ∨ c.toNat < 128 then some (.char (foldCase flags (.single c))) else none
  | .set s => some (.char s)
  | .boundary b => some (.look b)

/-- The dot: any character but a line end, or any at all. -/
def dot? (flags : Flags) : Option Pattern :=
  if ¬flags.unicode then none
  else if flags.dotAll then some (.char .all)
  else if flags.anyLine then some (.char (CharSet.union (.single '\r') (.single '\n')).compl)
  else some (.char (CharSet.single '\n').compl)

/-- The boundary at the start of the text or of a line. -/
def startBoundary (flags : Flags) : Boundary :=
  if ¬flags.multiLine then .textStart else if flags.anyLine then .anyLineStart else .lineStart

/-- The boundary at the end of the text or of a line. -/
def endBoundary (flags : Flags) : Boundary :=
  if ¬flags.multiLine then .textEnd else if flags.anyLine then .anyLineEnd else .lineEnd

/-- Reads the next part, which begins with `c`. -/
def step? (s : State) (c : Char) (rest : List Char) : Option (State × List Char) :=
  match c with
  | '(' => group? s rest
  | ')' => s.closeGroup?.map (·, rest)
  | '|' => some (s.nextBranch, rest)
  | '[' => do
    let (b, rest) := openBracket s.flags rest
    let (item, rest) ← classRest? s.flags [b] rest
    return (s.push (some (.char item.set)) item.height, rest)
  | '?' => (s.repeat? 0 (some 1)).map (·, dropLazy rest)
  | '*' => (s.repeat? 0 none).map (·, dropLazy rest)
  | '+' => (s.repeat? 1 none).map (·, dropLazy rest)
  | '\x7b' => do
    let ((least, most), rest) ← counts? s.flags rest
    return (← s.repeat? least most, dropLazy (skip s.flags rest))
  | '\\' => do
    let (atom, rest) ← escape? s.flags rest
    return (s.push (some (← atomPattern? s.flags atom)) 0, rest)
  | '.' => (dot? s.flags).map fun p => (s.push (some p) 0, rest)
  | '^' => some (s.push (some (.look (startBoundary s.flags))) 0, rest)
  | '$' => some (s.push (some (.look (endBoundary s.flags))) 0, rest)
  | c => (atomPattern? s.flags (.literal c)).map fun p => (s.push (some p) 0, rest)

/-- Reads parts up to the end of the text. Every step consumes text. -/
def readAll? (s : State) (text : List Char) : Option State :=
  match _h : skip s.flags text with
  | [] => some s
  | c :: rest =>
    match step? s c rest with
    | none => none
    | some (s, left) => if _h : left.length < text.length then readAll? s left else none
termination_by text.length

/-- The greatest height of a pattern that is accepted. -/
def heightLimit : Nat := 250

end Reader

/-- The pattern of a text, if it is well-formed and not too large. -/
def ofText? (text : String) : Option Pattern := do
  let s ← Reader.readAll? .start text.toList
  if s.outer ≠ [] then none
  let item := s.group.item
  let p ← item.pattern
  if item.height ≤ Reader.heightLimit ∧ p.weight ≤ weightLimit then some p else none

end Pattern
end FeatureFlags

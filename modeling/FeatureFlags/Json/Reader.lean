/-
# Reading JSON text

The reader goes over the characters once. It keeps the lexeme it is in the middle
of (a word, a number, a string, an escape) and the arrays and objects that are
open, innermost first. A character either extends the lexeme, ends it, or opens,
separates or closes something; anything out of place ends the reading without a
value.

White space is space, tab, line feed and carriage return. Strings hold no control
characters, and an escaped surrogate counts only as the half of a pair. At most
127 arrays and objects may be open at once.

Key definitions:
* `Json.Reader.step`: what one character does.
* `Json.read?`: the value of a text, fields in the order of the text.
* `Json.parse?`: the same in canonical form.
-/
import FeatureFlags.Json.Basic
import FeatureFlags.Decimal.Numeral

namespace FeatureFlags
namespace Json
namespace Reader

/-- What the reader is in the middle of. Characters read so far are kept in
reverse. -/
inductive Lexeme where
  | blank
  | word (chars : List Char)
  | number (chars : List Char)
  | text (chars : List Char)
  /-- After a backslash; `high` is a first half of a surrogate pair before it. -/
  | escape (chars : List Char) (high : Option Nat)
  /-- Inside `\u`, with `count` hexadecimal digits of value `value` read. -/
  | unit (chars : List Char) (high : Option Nat) (count value : Nat)
  /-- After the first half of a surrogate pair. -/
  | half (chars : List Char) (high : Nat)

/-- An open array or object, with what it holds so far in reverse. `key` is the
name of a field whose value is still to come. -/
inductive Frame where
  | items (done : List Json)
  | fields (done : List (String × Json)) (key : String)

/-- What may come next. -/
inductive Expected where
  | value
  | valueOrClose
  | key
  | keyOrClose
  | colon
  | separator
deriving DecidableEq

/-- The state of the reader. -/
structure State where
  lexeme : Lexeme
  frames : List Frame
  expected : Expected
  result : Option Json

/-- Nothing read yet. -/
def State.start : State := ⟨.blank, [], .value, none⟩

/-- The number of arrays and objects that may be open at once. -/
def depthLimit : Nat := 127

/-- Whether a value may come next. -/
def State.takesValue (s : State) : Bool :=
  s.expected = .value || s.expected = .valueOrClose

/-- Puts a finished value into the innermost open array or object. -/
def State.place (s : State) (v : Json) : State :=
  match s.frames with
  | [] => { s with expected := .separator, result := some v }
  | .items done :: rest =>
    { s with expected := .separator, frames := .items (v :: done) :: rest }
  | .fields done key :: rest =>
    { s with expected := .separator, frames := .fields ((key, v) :: done) key :: rest }

/-- Takes a value that is not a string. -/
def State.value? (s : State) (v : Json) : Option State :=
  if s.takesValue then some (s.place v) else none

/-- Takes a string, as a field name or as a value. -/
def State.string? (s : State) (text : String) : Option State :=
  if s.expected = .key ∨ s.expected = .keyOrClose then
    match s.frames with
    | .fields done _ :: rest =>
      some { s with expected := .colon, frames := .fields done text :: rest }
    | _ => none
  else s.value? (.str text)

/-- Opens an array or an object. -/
def State.open? (s : State) (frame : Frame) (expected : Expected) : Option State :=
  if s.takesValue ∧ s.frames.length < depthLimit then
    some { s with expected, frames := frame :: s.frames }
  else none

/-- Takes a mark of punctuation. -/
def State.mark? (s : State) (c : Char) : Option State :=
  match c, s.frames, s.expected with
  | '[', _, _ => s.open? (.items []) .valueOrClose
  | '\x7b', _, _ => s.open? (.fields [] "") .keyOrClose
  | ':', _, .colon => some { s with expected := .value }
  | ',', .items _ :: _, .separator => some { s with expected := .value }
  | ',', .fields _ _ :: _, .separator => some { s with expected := .key }
  | ']', .items done :: rest, .separator
  | ']', .items done :: rest, .valueOrClose =>
    some ({ s with frames := rest }.place (.arr done.reverse))
  | '\x7d', .fields done _ :: rest, .separator
  | '\x7d', .fields done _ :: rest, .keyOrClose =>
    some ({ s with frames := rest }.place (.obj done.reverse))
  | _, _, _ => none

/-- Whether a character separates lexemes without meaning anything. -/
def isBlank (c : Char) : Bool := c = ' ' || c = '\t' || c = '\n' || c = '\r'

/-- Whether a character can belong to a number literal. -/
def isNumeric (c : Char) : Bool :=
  isDigit c || c = '-' || c = '+' || c = '.' || c = 'e' || c = 'E'

/-- Whether a character can belong to `true`, `false` or `null`. -/
def isLetter (c : Char) : Bool := decide ('a' ≤ c ∧ c ≤ 'z')

/-- Takes a character between lexemes. -/
def State.blank? (s : State) (c : Char) : Option State :=
  if isBlank c then some s
  else if c = '"' then some { s with lexeme := .text [] }
  else if c = '-' ∨ isDigit c then some { s with lexeme := .number [c] }
  else if isLetter c then some { s with lexeme := .word [c] }
  else s.mark? c

/-- The value of a word. -/
def word? (chars : List Char) : Option Json :=
  match String.ofList chars with
  | "null" => some .null
  | "true" => some (.bool true)
  | "false" => some (.bool false)
  | _ => none

/-- The character that an escape of one letter stands for. -/
def escaped? : Char → Option Char
  | '"' => some '"'
  | '\\' => some '\\'
  | '/' => some '/'
  | 'b' => some '\x08'
  | 'f' => some '\x0c'
  | 'n' => some '\n'
  | 'r' => some '\r'
  | 't' => some '\t'
  | _ => none

/-- The lexeme after a complete `\u` escape: the character, or the wait for the
second half of a pair. -/
def unit? (chars : List Char) (high : Option Nat) (value : Nat) : Option Lexeme :=
  let isHigh := 0xD800 ≤ value ∧ value < 0xDC00
  let isLow := 0xDC00 ≤ value ∧ value < 0xE000
  match high with
  | some h =>
    if isLow then
      some (.text (Char.ofNat (0x10000 + (h - 0xD800) * 0x400 + (value - 0xDC00)) :: chars))
    else none
  | none =>
    if isHigh then some (.half chars value)
    else if isLow then none
    else some (.text (Char.ofNat value :: chars))

/-- Takes one character. -/
def step (s : State) (c : Char) : Option State :=
  match s.lexeme with
  | .blank => s.blank? c
  | .word chars =>
    if isLetter c then some { s with lexeme := .word (c :: chars) }
    else do
      let s ← { s with lexeme := .blank }.value? (← word? chars.reverse)
      s.blank? c
  | .number chars =>
    if isNumeric c then some { s with lexeme := .number (c :: chars) }
    else do
      let s ← { s with lexeme := .blank }.value? (.num (← Number.ofLiteral? chars.reverse))
      s.blank? c
  | .text chars =>
    if c = '"' then { s with lexeme := .blank }.string? (String.ofList chars.reverse)
    else if c = '\\' then some { s with lexeme := .escape chars none }
    else if c < ' ' then none
    else some { s with lexeme := .text (c :: chars) }
  | .escape chars high =>
    if c = 'u' then some { s with lexeme := .unit chars high 0 0 }
    else if high.isSome then none
    else (escaped? c).map fun e => { s with lexeme := .text (e :: chars) }
  | .unit chars high count value => do
    let value := 16 * value + (← hexDigit? c)
    if count < 3 then some { s with lexeme := .unit chars high (count + 1) value }
    else (unit? chars high value).map fun lexeme => { s with lexeme }
  | .half chars high =>
    if c = '\\' then some { s with lexeme := .escape chars (some high) } else none

/-- The value of a text that has been read to its end. -/
def State.finish? (s : State) : Option Json :=
  match s.lexeme, s.frames with
  | .blank, [] => s.result
  | _, _ => none

end Reader

/-- The value that a text holds, if it is JSON. Fields keep the order of the text,
and repeated ones are all there. A blank is read after the text to end its last
lexeme. -/
def read? (text : String) : Option Json := do
  let s ← text.toList.foldlM Reader.step .start
  let s ← Reader.step s ' '
  s.finish?

/-- The value that a text holds, in canonical form. -/
def parse? (text : String) : Option Json := (read? text).map canonical

end Json
end FeatureFlags

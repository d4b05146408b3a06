import Rulebook.Document.Value
import Rulebook.Number.Numeral
import Rulebook.Text.CodePoints

/-!
# Reading JSON text

The usual grammar, and besides it the words `NaN`, `Infinity` and `-Infinity`.  A number with a
fraction or an exponent is a floating-point number, any other an integer.  When a key of an object
is repeated, it keeps its first place and its last value.
-/

namespace Rulebook.Json

/-- Why a text is not JSON; the place is given by the length of the text from there on. -/
inductive ReadError where
  | malformed (reason : String) (remaining : Nat)
  | numeralTooLong (digits : Nat)
  deriving DecidableEq, Repr

/-- The result of reading. -/
abbrev Step := Except ReadError

/-- Fails at the start of a text. -/
def failAt {α : Type} (reason : String) (text : List Char) : Step α :=
  .error (.malformed reason text.length)

/-- JSON white space. -/
def isSpace (c : Char) : Bool := c == ' ' || c == '\t' || c == '\n' || c == '\r'

/-- The text behind leading white space. -/
def skipSpace (text : List Char) : List Char := text.dropWhile isSpace

/-- The character that a letter behind a backslash stands for. -/
def escaped? : Char → Option Char
  | '"' => some '"'
  | '\\' => some '\\'
  | '/' => some '/'
  | 'b' => some '\x08'
  | 'f' => some '\x0c'
  | 'n' => some '\n'
  | 'r' => some '\r'
  | 't' => some '\t'
  | _ => none

/-- Four hexadecimal digits and the text behind them, which is not empty. -/
def hexQuad? : List Char → Option (Nat × List Char)
  | a :: b :: c :: d :: e :: rest =>
      if [a, b, c, d].all Text.isHexDigit then some (Text.hexValue [a, b, c, d], e :: rest)
      else none
  | _ => none

/-- The character of a code point; half of a surrogate pair stands for no character. -/
def charOf (point : Nat) : Char :=
  if 0xD800 ≤ point && point ≤ 0xDFFF then '\uFFFD' else Char.ofNat point

/-- Whether a second `\u` escape follows with room for its digits and a closing quote. -/
def hasSecondEscape (text : List Char) : Bool :=
  text[0]? == some '\\' && text[1]? == some 'u' && decide (6 < text.length)

/-- Reads the escape behind `\u`; `text` starts with the `u`.  Two escapes that form a surrogate
pair stand for one character. -/
def readCode (text : List Char) : Step (Char × List Char) :=
  match hexQuad? text.tail with
  | none => failAt "Invalid \\uXXXX escape" text
  | some (high, rest) =>
      if 0xD800 ≤ high && high ≤ 0xDBFF && hasSecondEscape rest then
        match hexQuad? (rest.drop 2) with
        | none => failAt "Invalid \\uXXXX escape" rest.tail
        | some (low, behind) =>
            if 0xDC00 ≤ low && low ≤ 0xDFFF then
              .ok (Char.ofNat (0x10000 + (high - 0xD800) * 0x400 + (low - 0xDC00)), behind)
            else .ok (charOf high, rest)
      else .ok (charOf high, rest)

/-- Reads a string behind its opening quote.  `opening` is the text from the quote on, `taken` the
characters already read, in reverse. -/
def readChars (opening : List Char) : (steps : Nat) → (taken : List Char) → List Char →
    Step (String × List Char)
  | 0, _, _ => failAt "Unterminated string starting at" opening
  | _ + 1, _, [] => failAt "Unterminated string starting at" opening
  | _ + 1, taken, '"' :: rest => .ok (String.ofList taken.reverse, rest)
  | steps + 1, taken, '\\' :: rest =>
      match rest with
      | [] => failAt "Unterminated string starting at" opening
      | 'u' :: _ =>
          match readCode rest with
          | .ok (c, rest) => readChars opening steps (c :: taken) rest
          | .error error => .error error
      | letter :: behind =>
          match escaped? letter with
          | some c => readChars opening steps (c :: taken) behind
          | none => failAt "Invalid \\escape" ('\\' :: rest)
  | steps + 1, taken, c :: rest =>
      if c.toNat < 0x20 then failAt "Invalid control character at" (c :: rest)
      else readChars opening steps (c :: taken) rest

/-- Reads a string; `text` starts with its opening quote. -/
def readText (text : List Char) : Step (String × List Char) :=
  readChars text text.length [] text.tail

/-- The part of a text that starts with a given letter and is a word, and its value. -/
def words : List (List Char × Value) :=
  [("null".toList, .null), ("true".toList, .bool true), ("false".toList, .bool false),
   ("NaN".toList, .float .nan), ("Infinity".toList, .float (.infinite false)),
   ("-Infinity".toList, .float (.infinite true))]

/-- The word at the start of a text. -/
def word? (text : List Char) : Option (Value × List Char) :=
  words.findSome? fun (word, value) =>
    if word.isPrefixOf text then some (value, text.drop word.length) else none

/-- The fraction at the start of a text: a point and digits. -/
def fractionOf : List Char → List Char
  | '.' :: rest => rest.takeWhile Char.isDigit
  | _ => []

/-- The exponent at the start of a text: its sign, its digits and its length. -/
def exponentOf : List Char → Option (Bool × List Char × Nat)
  | mark :: rest =>
      if mark = 'e' || mark = 'E' then
        let (negative, digits) := Numeral.splitSign rest
        let taken := digits.takeWhile Char.isDigit
        if taken.isEmpty then none
        else some (negative, taken, 1 + (rest.length - digits.length) + taken.length)
      else none
  | [] => none

/-- The whole digits at the start of a text: a single zero, or digits without a leading zero. -/
def wholeOf : List Char → List Char
  | '0' :: _ => ['0']
  | text => text.takeWhile Char.isDigit

/-- Reads a number; `start` is the text from its sign on. -/
def readNumber (negative : Bool) (start text : List Char) : Step (Value × List Char) :=
  let whole := wholeOf text
  if whole.isEmpty then failAt "Expecting value" start
  else
    let rest := text.drop whole.length
    let fraction := fractionOf rest
    let rest := if fraction.isEmpty then rest else rest.drop (fraction.length + 1)
    match exponentOf rest, fraction with
    | none, [] =>
        if Numeral.digitLimit < whole.length then .error (.numeralTooLong whole.length)
        else
          let value : Int := Text.decimalNumber whole
          .ok (.int (if negative then -value else value), rest)
    | exponent, fraction =>
        let (power, length) : Int × Nat := match exponent with
          | some (false, digits, length) => (Text.decimalNumber digits, length)
          | some (true, digits, length) => (-(Text.decimalNumber digits : Int), length)
          | none => (0, 0)
        let digits := Text.decimalNumber (whole ++ fraction)
        .ok (.float (Binary64.ofDecimal negative digits (power - fraction.length)),
          rest.drop length)

/-- Reads a word or a number. -/
def readScalar (text : List Char) : Step (Value × List Char) :=
  match word? text with
  | some result => .ok result
  | none =>
      match text with
      | '-' :: rest => readNumber true text rest
      | _ => readNumber false text text

/-- Sets the value of a key: in its place when it has one, at the end otherwise. -/
def setEntry (key : String) (value : Value) : List (String × Value) → List (String × Value)
  | [] => [(key, value)]
  | (other, old) :: entries =>
      if other = key then (key, value) :: entries else (other, old) :: setEntry key value entries

/-- The mapping that a list of members stands for. -/
def mappingOf (members : List (String × Value)) : Value :=
  .mapping (members.foldl (fun entries (key, value) => setEntry key value entries) [])

/-- Passes the colon between a key and its value, and white space around it. -/
def passColon (text : List Char) : Step (List Char) :=
  match skipSpace text with
  | ':' :: rest => .ok (skipSpace rest)
  | rest => failAt "Expecting ':' delimiter" rest

mutual

/-- Reads a value.  `steps` bounds the number of nested calls. -/
def readValue : (steps : Nat) → List Char → Step (Value × List Char)
  | 0, text => failAt "Expecting value" text
  | steps + 1, text =>
      match text with
      | '"' :: _ => do
          let (value, rest) ← readText text
          return (.text value, rest)
      | '[' :: rest =>
          match skipSpace rest with
          | ']' :: rest => .ok (.list [], rest)
          | rest => do
              let (items, rest) ← readItems steps rest
              return (.list items, rest)
      | '\x7b' :: rest =>
          match skipSpace rest with
          | '\x7d' :: rest => .ok (.mapping [], rest)
          | rest => do
              let (members, rest) ← readMembers steps rest
              return (mappingOf members, rest)
      | text => readScalar text

/-- Reads the elements of an array up to its closing bracket. -/
def readItems : (steps : Nat) → List Char → Step (List Value × List Char)
  | 0, text => failAt "Expecting value" text
  | steps + 1, text => do
      let (item, rest) ← readValue steps text
      match skipSpace rest with
      | ']' :: rest => return ([item], rest)
      | ',' :: rest =>
          let (items, rest) ← readItems steps (skipSpace rest)
          return (item :: items, rest)
      | rest => failAt "Expecting ',' delimiter" rest

/-- Reads the members of an object up to its closing brace. -/
def readMembers : (steps : Nat) → List Char → Step (List (String × Value) × List Char)
  | 0, text => failAt "Expecting value" text
  | steps + 1, text => do
      match text with
      | '"' :: _ =>
          let (key, rest) ← readText text
          let rest ← passColon rest
          let (value, rest) ← readValue steps rest
          match skipSpace rest with
          | '\x7d' :: rest => return ([(key, value)], rest)
          | ',' :: rest =>
              let (members, rest) ← readMembers steps (skipSpace rest)
              return ((key, value) :: members, rest)
          | rest => failAt "Expecting ',' delimiter" rest
      | text => failAt "Expecting property name enclosed in double quotes" text

end

/-- Reads a whole text. -/
def read (text : List Char) : Step Value := do
  if text.head? = some '\uFEFF' then
    failAt "Unexpected UTF-8 BOM (decode using utf-8-sig)" text
  else
    let start := skipSpace text
    let (value, rest) ← readValue (2 * start.length + 1) start
    match skipSpace rest with
    | [] => return value
    | rest => failAt "Extra data" rest

/-- The text of an error at a position: the line, the column and the number of characters before
it. -/
def placeText (reason : String) (text : List Char) (remaining : Nat) : String :=
  let position := text.length - remaining
  let before := text.take position
  let column := (before.reverse.takeWhile (· != '\n')).length + 1
  reason ++ ": line " ++ toString (before.count '\n' + 1) ++ " column " ++ toString column ++
    " (char " ++ toString position ++ ")"

end Rulebook.Json

import Rulebook.Number.Binary64
import Rulebook.Text.Blank
import Rulebook.Text.Digit

/-!
# Reading and writing numerals

Integers as decimal text, of at most 4300 digits in either direction, and the numerals that stand
for floating-point numbers.
-/

namespace Rulebook.Numeral

/-- The most digits an integer has as text. -/
def digitLimit : Nat := 4300

/-- Whether an integer has too many digits to be written. -/
def isTooLong (number : Int) : Bool :=
  Nat.pow 10 digitLimit ≤ number.natAbs

/-- The decimal text of an integer. -/
def integerText (number : Int) : String :=
  toString number

/-- The decimal text of an integer, unless it has too many digits. -/
def integerText? (number : Int) : Option String :=
  if isTooLong number then none else some (integerText number)

/-- Why a text does not stand for an integer. -/
inductive IntegerError where
  | malformed
  | tooLong (digits : Nat)
  deriving DecidableEq, Repr

/-- Whether every underscore of a numeral stands between two digits; `previous` is the character
before the text. -/
def underscoresBetweenDigits (previous : Char) : List Char → Bool
  | [] => previous != '_'
  | '_' :: rest => previous.isDigit && underscoresBetweenDigits '_' rest
  | c :: rest => (previous != '_' || c.isDigit) && underscoresBetweenDigits c rest

/-- A text with digits of every script as ASCII digits and without the blanks around it. -/
def normalized (text : List Char) : List Char :=
  (Text.trimWhile Text.isBlank text).map Text.toAsciiDigit

/-- A leading sign and what follows it. -/
def splitSign : List Char → Bool × List Char
  | '-' :: rest => (true, rest)
  | '+' :: rest => (false, rest)
  | text => (false, text)

/-- Reads an integer: an optional sign and decimal digits of any script, underscores between
digits allowed, blanks around it ignored.  Too many digits are noticed before anything that
follows them. -/
def integer? (text : List Char) : Except IntegerError Int :=
  let (negative, body) := splitSign (normalized text)
  let run := body.takeWhile fun c => c.isDigit || c == '_'
  let digits := run.filter (· != '_')
  if !underscoresBetweenDigits 'x' run || digits.isEmpty then .error .malformed
  else if digitLimit < digits.length then .error (.tooLong digits.length)
  else if run.length < body.length then .error .malformed
  else
    let number : Int := Text.decimalNumber digits
    .ok (if negative then -number else number)

/-- Reads the digits of an index: decimal digits of any script and nothing else. -/
def index? (text : List Char) : Except IntegerError Nat :=
  let digits := text.takeWhile Text.isDecimal
  if digitLimit < digits.length then .error (.tooLong digits.length)
  else if digits.isEmpty || digits.length < text.length then .error .malformed
  else .ok (Text.decimalNumber digits)

/-- An exponent behind its mark: a sign and at least one digit. -/
def exponent? (text : List Char) : Option Int :=
  let (negative, digits) := splitSign text
  if digits.isEmpty || !digits.all Char.isDigit then none
  else
    let number : Int := Text.decimalNumber digits
    some (if negative then -number else number)

/-- An unsigned decimal: digits, an optional point and fraction, an optional exponent, with at
least one digit before the exponent. -/
def decimal? (negative : Bool) (text : List Char) : Option Binary64 :=
  let whole := text.takeWhile Char.isDigit
  let rest := text.drop whole.length
  let fraction := match rest with
    | '.' :: rest => rest.takeWhile Char.isDigit
    | _ => []
  let rest := match rest with
    | '.' :: rest => rest.drop fraction.length
    | _ => rest
  if whole.isEmpty && fraction.isEmpty then none
  else
    let digits := Text.decimalNumber (whole ++ fraction)
    let value (exponent : Int) := Binary64.ofDecimal negative digits (exponent - fraction.length)
    match rest with
    | [] => some (value 0)
    | mark :: rest => if mark = 'e' || mark = 'E' then (exponent? rest).map value else none

/-- The words for what is no finite number, in any case. -/
def word? (negative : Bool) (text : List Char) : Option Binary64 :=
  let word := text.map Char.toLower
  if word = "inf".toList || word = "infinity".toList then some (.infinite negative)
  else if word = "nan".toList then some .nan
  else none

/-- Reads a floating-point number: a sign, then a decimal or a word; blanks around it are ignored
and underscores may stand between digits. -/
def float? (text : List Char) : Option Binary64 :=
  let text := normalized text
  if !underscoresBetweenDigits 'x' text then none
  else
    let (negative, body) := splitSign (text.filter (· != '_'))
    (word? negative body).orElse fun _ => decimal? negative body

end Rulebook.Numeral

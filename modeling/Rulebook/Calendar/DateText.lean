import Rulebook.Calendar.IsoText
import Rulebook.Text.Blank
import Rulebook.Text.Digit

/-!
# Reading dates from text

A text is read as an ISO 8601 text first, with a final `Z` for universal time and a fraction of
any length, and then in the two plain forms `YYYY-MM-DD` and `YYYY-MM-DD HH:MM:SS`, in which the
parts behind the year may have a single digit and every digit may be of any script.
-/

namespace Rulebook.DateText

open Text

/-- A final `Z` of either case as an offset of zero. -/
def expandZulu (text : List Char) : List Char :=
  match text.getLast? with
  | some last => if last = 'Z' || last = 'z' then text.dropLast ++ "+00:00".toList else text
  | none => text

/-- The rest of a text behind a clock time to the second and a point, when it starts with one. -/
def clockAndPoint? : List Char → Option (List Char × List Char)
  | h₁ :: h₂ :: ':' :: m₁ :: m₂ :: ':' :: s₁ :: s₂ :: '.' :: rest =>
      if [h₁, h₂, m₁, m₂, s₁, s₂].all isDecimal && (rest.head?.map isDecimal).getD false then
        some ([h₁, h₂, ':', m₁, m₂, ':', s₁, s₂, '.'], rest)
      else
        none
  | _ => none

/-- The first fraction of a second in a text, cut or padded to six digits. -/
def sixDigitFraction : List Char → List Char
  | [] => []
  | c :: text =>
      match clockAndPoint? (c :: text) with
      | some (clock, rest) =>
          let fraction := rest.takeWhile isDecimal
          clock ++ (fraction.take 6 ++ List.replicate (6 - fraction.length) '0') ++
            rest.drop fraction.length
      | none => c :: sixDigitFraction text

/-- A way to read a number at the start of a text: the readings in order of preference. -/
abbrev Choices := List Char → List (Nat × List Char)

/-- Two characters, the first from one class and the second from another. -/
def twoDigits (first second : Char → Bool) : Choices
  | a :: b :: rest =>
      if first a && second b then [(decimalNumber [a, b], rest)] else []
  | _ => []

/-- One character of a class. -/
def oneDigit (inClass : Char → Bool) : Choices
  | a :: rest => if inClass a then [(decimalNumber [a], rest)] else []
  | [] => []

/-- The readings of several ways, in order. -/
def orElse (ways : List Choices) : Choices :=
  fun text => ways.flatMap fun way => way text

/-- Whether the character is an ASCII digit between two others. -/
def between (low high c : Char) : Bool := low ≤ c && c ≤ high

/-- Four digits. -/
def yearChoices : Choices
  | a :: b :: c :: d :: rest =>
      if [a, b, c, d].all isDecimal then [(decimalNumber [a, b, c, d], rest)] else []
  | _ => []

/-- `10` to `12`, `01` to `09`, or `1` to `9`. -/
def monthChoices : Choices :=
  orElse [twoDigits (· == '1') (between '0' '2'), twoDigits (· == '0') (between '1' '9'),
    oneDigit (between '1' '9')]

/-- `30`, `31`, `10` to `29`, `01` to `09`, or `1` to `9`, also behind a space. -/
def dayChoices : Choices :=
  orElse [twoDigits (· == '3') (between '0' '1'), twoDigits (between '1' '2') isDecimal,
    twoDigits (· == '0') (between '1' '9'), oneDigit (between '1' '9'),
    fun
      | ' ' :: rest => oneDigit (between '1' '9') rest
      | _ => []]

/-- `20` to `23`, `00` to `19`, or one digit. -/
def hourChoices : Choices :=
  orElse [twoDigits (· == '2') (between '0' '3'), twoDigits (between '0' '1') isDecimal,
    oneDigit isDecimal]

/-- `00` to `59`, or one digit. -/
def minuteChoices : Choices :=
  orElse [twoDigits (between '0' '5') isDecimal, oneDigit isDecimal]

/-- `60`, `61`, `00` to `59`, or one digit. -/
def secondChoices : Choices :=
  orElse [twoDigits (· == '6') (between '0' '1'), minuteChoices]

/-- Goes on reading behind each of the rests that a reading leaves. -/
def followedBy {α β : Type} (readings : List (α × List Char))
    (next : List Char → List (β × List Char)) : List ((α × β) × List Char) :=
  readings.flatMap fun (first, text) =>
    (next text).map fun (second, text) => ((first, second), text)

/-- A fixed character in front of a reading. -/
def behind {α : Type} (expected : Char) (next : List Char → List (α × List Char)) :
    List Char → List (α × List Char)
  | c :: rest => if c = expected then next rest else []
  | [] => []

/-- The readings behind a run of blanks, the longest run first. -/
def behindBlanks {α : Type} (next : List Char → List (α × List Char)) :
    List Char → List (α × List Char)
  | c :: rest => if isBlank c then behindBlanks next rest ++ next rest else []
  | [] => []

/-- The readings of `YYYY-MM-DD` at the start of a text. -/
def dateChoices (text : List Char) : List ((Nat × Nat × Nat) × List Char) :=
  followedBy (yearChoices text) <| behind '-' fun text =>
    followedBy (monthChoices text) (behind '-' dayChoices)

/-- The readings of `HH:MM:SS` at the start of a text. -/
def clockChoices (text : List Char) : List ((Nat × Nat × Nat) × List Char) :=
  followedBy (hourChoices text) <| behind ':' fun text =>
    followedBy (minuteChoices text) (behind ':' secondChoices)

/-- Reads the form `YYYY-MM-DD`.  Only the preferred reading counts, and it has to use up the
text. -/
def plainDate? (text : List Char) : Option DateTime :=
  match dateChoices text with
  | ((year, month, day), []) :: _ => (Date.ofParts? year month day).map .ofDate
  | _ => none

/-- Reads the form `YYYY-MM-DD HH:MM:SS`, with any run of blanks between date and time. -/
def plainDateTime? (text : List Char) : Option DateTime :=
  match followedBy (dateChoices text) (behindBlanks clockChoices) with
  | (((year, month, day), (hour, minute, second)), []) :: _ => do
      let date ← Date.ofParts? year month day
      let time ← TimeOfDay.ofClock? hour minute second 0
      some { date, time, offset := none }
  | _ => none

/-- Reads a text without blanks at its ends. -/
def read? (text : List Char) : Option DateTime :=
  (IsoText.dateTime? (sixDigitFraction (expandZulu text))).orElse fun _ =>
    (plainDate? text).orElse fun _ => plainDateTime? text

end Rulebook.DateText

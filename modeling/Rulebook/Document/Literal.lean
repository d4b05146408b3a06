import Rulebook.Calendar.IsoText
import Rulebook.Document.Value
import Rulebook.Number.Numeral
import Rulebook.Number.Shortest
import Rulebook.Text.Quoted

/-!
# Values in messages

The literal form of a value, which shows its type: quoted texts, bracketed sequences, dates by
their parts.  It does not exist when the value holds an integer with too many digits.
-/

namespace Rulebook

/-- Numbers as the arguments of a literal. -/
private def arguments (numbers : List Nat) : String :=
  ", ".intercalate (numbers.map toString)

/-- The literal form of a date. -/
def Date.literal (date : Date) : String :=
  "datetime.date(" ++ arguments [date.year, date.month, date.day] ++ ")"

/-- The literal form of an offset: days, seconds and microseconds, of which only the days are
negative. -/
def UtcOffset.literal (offset : UtcOffset) : String :=
  if offset.micros = 0 then "datetime.timezone.utc"
  else
    let inDay := (offset.micros % (dayMicros : Int)).toNat
    let parts :=
      (if offset.micros < 0 then ["days=-1"] else []) ++
        (if inDay / 1000000 = 0 then [] else ["seconds=" ++ toString (inDay / 1000000)]) ++
        (if inDay % 1000000 = 0 then [] else ["microseconds=" ++ toString (inDay % 1000000)])
    "datetime.timezone(datetime.timedelta(" ++ ", ".intercalate parts ++ "))"

/-- The literal form of a point in time.  Microseconds, and seconds before them, are left out
when they are zero. -/
def DateTime.literal (moment : DateTime) : String :=
  let { date, time, offset } := moment
  let fraction :=
    if time.micro = 0 then (if time.second = 0 then [] else [time.second])
    else [time.second, time.micro]
  let zone := match offset with
    | some offset => ", tzinfo=" ++ offset.literal
    | none => ""
  "datetime.datetime(" ++
    arguments ([date.year, date.month, date.day, time.hour, time.minute] ++ fraction) ++
    zone ++ ")"

namespace Value

mutual

/-- The literal form of a value. -/
def literal? : Value → Option String
  | absent => some "ABSENT"
  | null => some "None"
  | bool value => some (if value then "True" else "False")
  | int value => Numeral.integerText? value
  | float value => some (NumberLayout.message.render value)
  | text value => some (Text.quoted value)
  | list items => (itemLiterals? items).map fun parts => "[" ++ ", ".intercalate parts ++ "]"
  | tuple items => (itemLiterals? items).map fun parts =>
      "(" ++ ", ".intercalate parts ++ (if parts.length = 1 then ",)" else ")")
  | mapping entries => (entryLiterals? entries).map fun parts =>
      "\x7b" ++ ", ".intercalate parts ++ "\x7d"
  | date value => some value.literal
  | dateTime value => some value.literal
  | bytes value => some (Text.quotedBytes value)

/-- The literal forms of the elements of a sequence. -/
def itemLiterals? : List Value → Option (List String)
  | [] => some []
  | item :: items => do
      let first ← literal? item
      let rest ← itemLiterals? items
      some (first :: rest)

/-- The literal forms of the entries of a mapping. -/
def entryLiterals? : List (String × Value) → Option (List String)
  | [] => some []
  | (key, value) :: entries => do
      let first ← literal? value
      let rest ← entryLiterals? entries
      some ((Text.quoted key ++ ": " ++ first) :: rest)

end

/-- The plain form of a value: a text as it is, a date in its ISO form, anything else in its
literal form. -/
def plain? : Value → Option String
  | text value => some value
  | date value => some value.isoText
  | dateTime value => some (String.ofList (value.isoCharsWith ' '))
  | value => value.literal?

/-- The short form of a value that reasons quote. -/
def describe : Value → String
  | absent => "absent"
  | dateTime value => value.isoText
  | value => value.literal?.getD ("<" ++ value.kind.name ++ " too large to display>")

end Value

end Rulebook

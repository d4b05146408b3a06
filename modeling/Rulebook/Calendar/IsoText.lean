import Rulebook.Calendar.DateTime

/-!
# ISO 8601 texts of dates and times

The written form, which is unique, and a reader that takes the written form and many more: basic
dates, week dates, any one character between date and time, basic clock times, fractions behind
a point or a comma, and offsets down to fractions of a second.
-/

namespace Rulebook

/-- The last `width` decimal digits of a number. -/
def paddedDigits : (width : Nat) → Nat → List Char
  | 0, _ => []
  | width + 1, value => paddedDigits width (value / 10) ++ [Char.ofNat ('0'.toNat + value % 10)]

namespace Date

/-- The written form `YYYY-MM-DD`. -/
def isoChars (date : Date) : List Char :=
  paddedDigits 4 date.year ++ '-' :: paddedDigits 2 date.month ++ '-' :: paddedDigits 2 date.day

def isoText (date : Date) : String := String.ofList date.isoChars

end Date

namespace TimeOfDay

/-- The written form `HH:MM:SS`, with six fraction digits unless the fraction is zero. -/
def isoChars (time : TimeOfDay) : List Char :=
  paddedDigits 2 time.hour ++ ':' :: paddedDigits 2 time.minute ++ ':' ::
    paddedDigits 2 time.second ++ if time.micro = 0 then [] else '.' :: paddedDigits 6 time.micro

end TimeOfDay

namespace UtcOffset

/-- The written form `±HH:MM`, with seconds and their fraction when they are not zero. -/
def isoChars (offset : UtcOffset) : List Char :=
  let micros := offset.micros.natAbs
  let second := micros / 1000000 % 60
  let fraction := micros % 1000000
  (if offset.micros < 0 then '-' else '+') :: paddedDigits 2 (micros / 3600000000) ++
    ':' :: paddedDigits 2 (micros / 60000000 % 60) ++
    (if second = 0 ∧ fraction = 0 then [] else ':' :: paddedDigits 2 second) ++
    if fraction = 0 then [] else '.' :: paddedDigits 6 fraction

end UtcOffset

namespace DateTime

/-- The written form with a chosen character between date and time. -/
def isoCharsWith (separator : Char) (moment : DateTime) : List Char :=
  moment.date.isoChars ++ separator :: moment.time.isoChars ++
    match moment.offset with
    | some offset => offset.isoChars
    | none => []

def isoText (moment : DateTime) : String := String.ofList (moment.isoCharsWith 'T')

end DateTime

namespace IsoText

/-- Reads exactly `count` ASCII digits onto a value. -/
def digits? : (count : Nat) → (value : Nat) → List Char → Option (Nat × List Char)
  | 0, value, text => some (value, text)
  | count + 1, value, c :: text =>
      if c.isDigit then digits? count (10 * value + (c.toNat - '0'.toNat)) text else none
  | _ + 1, _, [] => none

/-- Where the date of a text ends, from the places of `-` and `W`.  A text of the form
`YYYY-Www-dd…` is taken as a week followed by a hyphen as separator, and in `YYYYWww…` a single
digit belongs to the week exactly when the digits behind the week are odd in number. -/
def dateWidth (text : List Char) : Nat :=
  if text.length = 7 then 7
  else if text[4]? = some '-' then
    if text[5]? = some 'W' then
      if text[8]? = some '-' then
        if (text[10]?.map Char.isDigit).getD false then 8 else 10
      else 8
    else 10
  else if text[4]? = some 'W' then
    let stop := 7 + ((text.drop 7).takeWhile Char.isDigit).length
    if stop < 9 then stop else if stop % 2 = 0 then 7 else 8
  else 8

/-- Passes a hyphen when the date is written with hyphens. -/
def hyphen? (hyphenated : Bool) (text : List Char) : Option (List Char) :=
  if hyphenated then
    match text with
    | '-' :: rest => some rest
    | _ => none
  else some text

/-- Reads the date at the start of a text whose date part has `width` characters. -/
def date? (width : Nat) (text : List Char) : Option Date := do
  let (year, rest) ← digits? 4 0 text
  let hyphenated := rest.head? == some '-'
  let rest ← hyphen? hyphenated rest
  match rest with
  | 'W' :: rest =>
      let (week, rest) ← digits? 2 0 rest
      if (if hyphenated then 8 else 7) < width then
        let rest ← hyphen? hyphenated rest
        let (day, _) ← digits? 1 0 rest
        Date.ofWeek? year week day
      else
        Date.ofWeek? year week 1
  | _ =>
      let (month, rest) ← digits? 2 0 rest
      let rest ← hyphen? hyphenated rest
      let (day, _) ← digits? 2 0 rest
      Date.ofParts? year month day

/-- Whether a text goes on.  A null character counts as the end of a text. -/
def goesOn : List Char → Bool
  | [] => false
  | c :: _ => c != '\x00'

/-- A clock reading, not yet checked against the range of a clock. -/
structure Clock where
  hour : Nat := 0
  minute : Nat := 0
  second : Nat := 0
  micro : Nat := 0
  /-- Whether a character follows the part that was read. -/
  followed : Bool := false
  deriving DecidableEq, Repr

namespace Clock

/-- Sets the part of a clock that has the given position. -/
def set (clock : Clock) (position value : Nat) : Clock :=
  if position = 0 then { clock with hour := value }
  else if position = 1 then { clock with minute := value }
  else { clock with second := value }

/-- Reads the fraction of a second, of which `width` characters belong to the clock and at most
six count; digits beyond are passed. -/
def fraction? (clock : Clock) (width : Nat) (text : List Char) : Option Clock := do
  let count := min width 6
  let (value, rest) ← digits? count 0 text
  let rest := rest.dropWhile Char.isDigit
  some { clock with micro := value * Nat.pow 10 (6 - count), followed := goesOn rest }

/-- Reads the hours, minutes and seconds from `position` on, of a clock that has `width` more
characters.  The character behind the hours decides whether colons separate the parts. -/
def parts? (colons : Bool) (clock : Clock) : (parts position width : Nat) → List Char →
    Option Clock
  | 0, _, width, text => fraction? clock width text
  | parts + 1, position, width, text => do
      let (value, rest) ← digits? 2 0 text
      let clock := clock.set position value
      let next := rest.head?
      let colons := if position = 0 then next == some ':' else colons
      if width ≤ 3 then some { clock with followed := goesOn rest }
      else if colons && next == some ':' then
        parts? colons clock parts (position + 1) (width - 3) rest.tail
      else if next == some '.' || next == some ',' then
        fraction? clock (width - 3) rest.tail
      else if colons then none
      else parts? colons clock parts (position + 1) (width - 2) rest

/-- Reads the clock in the first `width` characters of a text. -/
def read? (width : Nat) (text : List Char) : Option Clock :=
  parts? false {} 3 0 width text

end Clock

/-- Reads an offset behind its sign. -/
def offset? (negative : Bool) (text : List Char) : Option UtcOffset := do
  let clock ← Clock.read? text.length text
  if clock.followed then none
  else
    let seconds := (clock.hour * 60 + clock.minute) * 60 + clock.second
    let micros : Int := if seconds = 0 then 0 else seconds * 1000000 + clock.micro
    UtcOffset.ofMicros? (if negative then -micros else micros)

/-- Whether the character opens the offset of a time. -/
def opensOffset (c : Char) : Bool := c = '+' || c = '-' || c = 'Z'

/-- Reads a clock time and its offset. -/
def time? (text : List Char) : Option (TimeOfDay × Option UtcOffset) := do
  let width := (text.takeWhile fun c => !opensOffset c).length
  let clock ← Clock.read? width text
  let time ← TimeOfDay.ofClock? clock.hour clock.minute clock.second clock.micro
  match text.drop width with
  | [] => if clock.followed then none else some (time, none)
  | 'Z' :: rest => if goesOn rest then none else some (time, some .utc)
  | sign :: rest => do
      let offset ← offset? (sign = '-') rest
      some (time, some offset)

/-- Reads a date, or a date and a time with any one character between them. -/
def dateTime? (text : List Char) : Option DateTime := do
  if text.length < 7 then none
  else
    let width := dateWidth text
    let date ← date? width text
    if text.length ≤ width then some (.ofDate date)
    else
      let (time, offset) ← time? (text.drop (width + 1))
      some { date, time, offset }

end IsoText

end Rulebook

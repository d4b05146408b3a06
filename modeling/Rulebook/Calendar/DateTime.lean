import Rulebook.Calendar.Date

/-!
# Points in time

A clock time on a date, with or without a distance from universal time.  The distance is fixed: it
does not come from the rules of a zone, by which a clock time can have two.  Times are compared as
instants; a time without a distance is taken to be universal time.
-/

namespace Rulebook

/-- The microseconds of a day. -/
def dayMicros : Nat := 86400000000

/-- A time of day, as microseconds since midnight. -/
structure TimeOfDay where
  micros : Nat
  inDay : micros < dayMicros
  deriving DecidableEq, Repr

namespace TimeOfDay

/-- The start of a day. -/
def midnight : TimeOfDay := ⟨0, by decide⟩

/-- The time shown by a clock, when the clock can show it. -/
def ofClock? (hour minute second micro : Nat) : Option TimeOfDay :=
  if h : hour < 24 ∧ minute < 60 ∧ second < 60 ∧ micro < 1000000 then
    some ⟨((hour * 60 + minute) * 60 + second) * 1000000 + micro, by unfold dayMicros; omega⟩
  else
    none

def hour (time : TimeOfDay) : Nat := time.micros / 3600000000

def minute (time : TimeOfDay) : Nat := time.micros / 60000000 % 60

def second (time : TimeOfDay) : Nat := time.micros / 1000000 % 60

def micro (time : TimeOfDay) : Nat := time.micros % 1000000

end TimeOfDay

/-- A distance from universal time of less than a day, in microseconds, eastwards positive. -/
structure UtcOffset where
  micros : Int
  withinDay : -(dayMicros : Int) < micros ∧ micros < dayMicros
  deriving DecidableEq, Repr

namespace UtcOffset

/-- Universal time itself. -/
def utc : UtcOffset := ⟨0, by decide⟩

/-- The offset of so many microseconds, when that is less than a day. -/
def ofMicros? (micros : Int) : Option UtcOffset :=
  if h : -(dayMicros : Int) < micros ∧ micros < dayMicros then some ⟨micros, h⟩ else none

end UtcOffset

/-- A clock time on a date, with the distance from universal time when it is known. -/
structure DateTime where
  date : Date
  time : TimeOfDay
  offset : Option UtcOffset
  deriving DecidableEq, Repr

namespace DateTime

/-- The start of a date. -/
def ofDate (date : Date) : DateTime :=
  { date, time := .midnight, offset := none }

/-- The same clock time, taken as universal time when no distance is known. -/
def withOffset (moment : DateTime) : DateTime :=
  { moment with offset := some (moment.offset.getD .utc) }

/-- The microseconds of the instant, counted from one day before the start of the year 1. -/
def instant (moment : DateTime) : Int :=
  (moment.date.ordinal * dayMicros + moment.time.micros : Nat) -
    (moment.offset.getD .utc).micros

/-- The number of the first day of 1970. -/
def epochOrdinal : Nat := 719163

/-- The universal time so many microseconds after the start of 1970, within the years 1 to
9999. -/
def ofEpochMicros? (micros : Int) : Option DateTime :=
  let total := epochOrdinal * dayMicros + micros
  if total < 0 then none
  else
    let total := total.toNat
    (Date.ofOrdinal? (total / dayMicros)).map fun date =>
      { date
        time := ⟨total % dayMicros, Nat.mod_lt _ (by decide)⟩
        offset := some .utc }

end DateTime

end Rulebook

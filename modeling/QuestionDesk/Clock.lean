import QuestionDesk.Value

/-!
# Moments

Moments and spans of time are whole numbers of microseconds; moments count from the start of the
year 2024. Dates follow the Gregorian calendar, and a fraction of a second is written only when
there is one.
-/
namespace QuestionDesk

open Decimal (Double Number)

/-- A moment or a span of time in microseconds. -/
abbrev Micros := Int

namespace Micros

/-- A span of whole seconds. -/
def ofSeconds (seconds : Int) : Micros := seconds * 1000000

/-- A span given as a number of seconds, rounded to the nearest microsecond. -/
def ofNumber (seconds : Number) : Micros :=
  match seconds.extended? with
  | some (.quotient numerator denominator) =>
    (2 * numerator * 1000000 + denominator) / (2 * denominator)
  | _ => 0

/-- The number of seconds in a span, as a double. -/
def seconds (span : Micros) : Double := Double.ofQuotient (span < 0) span.natAbs 1000000

/-- The number of seconds in a span, as a dynamic value. -/
def value (span : Micros) : Value := .float span.seconds

/-- The days from the first of March of the year zero to the start of 2024. -/
def daysBefore : Int := 739191

/-- The year, month and day of a day counted from the start of 2024. The calendar repeats after
400 years, and a year is taken to start in March, so that a leap day ends it. -/
def calendarDay (day : Int) : Int × Int × Int :=
  let shifted := day + daysBefore
  let era := shifted / 146097
  let dayOfEra := shifted % 146097
  let yearOfEra :=
    (dayOfEra - dayOfEra / 1460 + dayOfEra / 36524 - dayOfEra / 146096) / 365
  let dayOfYear := dayOfEra - (365 * yearOfEra + yearOfEra / 4 - yearOfEra / 100)
  let monthFromMarch := (5 * dayOfYear + 2) / 153
  let dayOfMonth := dayOfYear - (153 * monthFromMarch + 2) / 5 + 1
  let month := if monthFromMarch < 10 then monthFromMarch + 3 else monthFromMarch - 9
  let year := yearOfEra + era * 400 + (if month ≤ 2 then 1 else 0)
  (year, month, dayOfMonth)

/-- A number with leading zeros up to a width. -/
def padded (width : Nat) (value : Int) : String :=
  String.ofList (Decimal.paddedDigits width value.toNat)

/-- The date and time of a moment, without a zone. -/
def dateTime (moment : Micros) : String :=
  let (year, month, day) := calendarDay (moment / 86400000000)
  let rest := moment % 86400000000
  let second := rest / 1000000
  let fraction := rest % 1000000
  padded 4 year ++ "-" ++ padded 2 month ++ "-" ++ padded 2 day ++ "T" ++
    padded 2 (second / 3600) ++ ":" ++ padded 2 (second / 60 % 60) ++ ":" ++
    padded 2 (second % 60) ++ (if fraction = 0 then "" else "." ++ padded 6 fraction)

/-- Whether a moment has a date, which those of the years 1 to 9999 have. -/
def isDated (moment : Micros) : Bool :=
  -738885 ≤ moment / 86400000000 && moment / 86400000000 ≤ 2913173

/-- The date and time of a moment in universal time, with the zone. -/
def zonedDateTime (moment : Micros) : String := dateTime moment ++ "+00:00"

end Micros

end QuestionDesk

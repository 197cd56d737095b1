import SignOn.Text.Number
import SignOn.Time.Calendar
import SignOn.Time.Span

/-
This file orders instants, moves them back and writes them.
-/

namespace SignOn

/-- An instant is a second since 1970 and a part of it, which runs on past one second in a leap second. -/
structure Instant where
  second : Int
  nanos : Nat
  nanos_lt : nanos < 2000000000 := by omega
  deriving DecidableEq

namespace Instant

open SignOn.Text

instance : Inhabited Instant := ⟨⟨0, 0, by omega⟩⟩

/-- Instants are ordered by second, then by the part of the second. -/
instance : LT Instant :=
  ⟨fun left right =>
    left.second < right.second ∨ left.second = right.second ∧ left.nanos < right.nanos⟩

instance : LE Instant := ⟨fun left right => ¬ right < left⟩

instance (left right : Instant) : Decidable (left < right) :=
  inferInstanceAs (Decidable (_ ∨ _ ∧ _))

instance (left right : Instant) : Decidable (left ≤ right) :=
  inferInstanceAs (Decidable (¬ _))

/-- Within a leap second the count of nanoseconds has passed one second. -/
def inLeapSecond (instant : Instant) : Bool := 1000000000 ≤ instant.nanos

/-- Nanoseconds since 1970 are counted without leap seconds. -/
def ofEpochNanos (nanos : Int) : Instant :=
  ⟨nanos / 1000000000, (nanos % 1000000000).toNat, by omega⟩

def epochNanos (instant : Instant) : Int := instant.second * 1000000000 + instant.nanos

/-- The first second that has a date lies at the start of this year. -/
def firstSecond : Int := (Date.mk (-262143) 1 1).toDayNumber * 86400

/-- No instant is before the earliest one. -/
def earliest : Instant := ⟨firstSecond, 0, by omega⟩

/-- The longest span that can be taken from an instant has milliseconds of sixty-four bits with a sign. -/
def longestStep : Span := .ofMillis (limit64 / 2 - 1)

/-- A part of a second is taken inside a leap second; a longer span leaves it first. -/
def back (instant : Instant) (span : Span) : Instant :=
  if instant.inLeapSecond ∧ span.nanos < 1000000000 then
    ⟨instant.second, instant.nanos - span.nanos, by have := instant.nanos_lt; omega⟩
  else ofEpochNanos (instant.epochNanos - span.nanos)

/-- A step that is too long, or that leaves the calendar, ends at the earliest instant. -/
def backOrEarliest (instant : Instant) (span : Span) : Instant :=
  if longestStep.nanos < span.nanos then earliest
  else
    let moved := instant.back span
    if moved.second < firstSecond then earliest else moved

def dayNumber (instant : Instant) : Int := instant.second / 86400

def secondOfDay (instant : Instant) : Nat := (instant.second % 86400).toNat

/-- Years of four digits stand alone, and all others carry their sign. -/
def describeYear (year : Int) : String :=
  if 0 ≤ year ∧ year ≤ 9999 then padded 4 year.toNat
  else (if year < 0 then "-" else "+") ++ padded 4 year.natAbs

def describeDate (instant : Instant) : String :=
  let date := Date.ofDayNumber instant.dayNumber
  describeYear date.year ++ "-" ++ padded 2 date.month ++ "-" ++ padded 2 date.day

/-- A leap second is written as the sixtieth second of its minute. -/
def describeTime (instant : Instant) : String :=
  let second := instant.secondOfDay
  padded 2 (second / 3600) ++ ":" ++ padded 2 (second / 60 % 60) ++ ":" ++
    padded 2 (second % 60 + if instant.inLeapSecond then 1 else 0)

def fractionNanos (instant : Instant) : Nat := instant.nanos % 1000000000

/-- The fraction has no, three, six or nine digits, the fewest that are exact. -/
def describeFraction (instant : Instant) : String :=
  let nanos := instant.fractionNanos
  if nanos = 0 then ""
  else if nanos % 1000000 = 0 then "." ++ padded 3 (nanos / 1000000)
  else if nanos % 1000 = 0 then "." ++ padded 6 (nanos / 1000)
  else "." ++ padded 9 nanos

/-- The form of messages sets a space between date and time and names the zone. -/
def describe (instant : Instant) : String :=
  instant.describeDate ++ " " ++ instant.describeTime ++ instant.describeFraction ++ " UTC"

/-- The form of documents joins date and time by a letter. -/
def timestamp (instant : Instant) : String :=
  instant.describeDate ++ "T" ++ instant.describeTime ++ instant.describeFraction ++ "Z"

/-- The form of requests cuts the fraction after milliseconds. -/
def timestampMillis (instant : Instant) : String :=
  instant.describeDate ++ "T" ++ instant.describeTime ++ "." ++
    padded 3 (instant.fractionNanos / 1000000) ++ "Z"

end Instant

end SignOn

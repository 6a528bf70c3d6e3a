/-!
# Timestamps

Points in universal time, by calendar and clock. A minute may have a second numbered 60.
-/

namespace LiveForm

/-- Whether a year has a day more. -/
def isLeapYear (year : Int) : Bool := year % 4 == 0 && (year % 100 != 0 || year % 400 == 0)

/-- How many days a month has. -/
def daysIn (year : Int) (month : Nat) : Nat :=
  if month = 2 then if isLeapYear year then 29 else 28
  else if month = 4 ∨ month = 6 ∨ month = 9 ∨ month = 11 then 30
  else 31

/-- The first and the last year that can be written. -/
def yearRange : Int × Int := (-262143, 262142)

/-- Whether there is such a day. -/
def isDate (year : Int) (month day : Nat) : Prop :=
  yearRange.1 ≤ year ∧ year ≤ yearRange.2 ∧ 1 ≤ month ∧ month ≤ 12 ∧ 1 ≤ day ∧
    day ≤ daysIn year month

instance (year : Int) (month day : Nat) : Decidable (isDate year month day) :=
  inferInstanceAs (Decidable (_ ∧ _))

/-- A day of the calendar. -/
structure Date where
  year : Int
  month : Nat
  day : Nat
  /-- There is such a day. -/
  valid : isDate year month day
  deriving DecidableEq, Repr

namespace Date

/-- The day with a year, a month and a number, if there is one. -/
def of? (year : Int) (month day : Nat) : Option Date :=
  if h : isDate year month day then some ⟨year, month, day, h⟩ else none

/-- The day after. -/
def next? (d : Date) : Option Date :=
  of? d.year d.month (d.day + 1) <|> of? d.year (d.month + 1) 1 <|> of? (d.year + 1) 1 1

/-- The day before. -/
def previous? (d : Date) : Option Date :=
  of? d.year d.month (d.day - 1) <|>
    of? d.year (d.month - 1) (daysIn d.year (d.month - 1)) <|> of? (d.year - 1) 12 31

end Date

/-- A time of the day. -/
structure Clock where
  hour : Nat
  minute : Nat
  second : Nat
  nano : Nat
  /-- There is such a time. -/
  valid : hour < 24 ∧ minute < 60 ∧ second ≤ 60 ∧ nano < 1000000000
  deriving DecidableEq, Repr

/-- The time with an hour, a minute, a second and a fraction, if there is one. -/
def Clock.of? (hour minute second nano : Nat) : Option Clock :=
  if h : hour < 24 ∧ minute < 60 ∧ second ≤ 60 ∧ nano < 1000000000 then
    some ⟨hour, minute, second, nano, h⟩
  else none

/-- A point in universal time. -/
structure Timestamp where
  date : Date
  clock : Clock
  deriving DecidableEq, Repr

namespace Timestamp

/-- The start of the year 1970. -/
def epoch : Timestamp := ⟨⟨1970, 1, 1, by decide⟩, ⟨0, 0, 0, 0, by decide⟩⟩

/-- The time of a clock on some day that is ahead of universal time by so many minutes, less than a
day. -/
def ofLocal? (date : Date) (clock : Clock) (ahead : Int) : Option Timestamp := do
  let minutes : Int := (60 * clock.hour + clock.minute : Nat) - ahead
  let date ←
    if minutes < 0 then date.previous?
    else if minutes < 1440 then some date
    else date.next?
  let ofDay := (minutes % 1440).toNat
  let clock ← Clock.of? (ofDay / 60) (ofDay % 60) clock.second clock.nano
  return { date, clock }

end Timestamp

end LiveForm

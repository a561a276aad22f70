/-!
# Points in time

A timestamp is a date of the proleptic Gregorian calendar and a time of day, both in UTC. A leap
second is the fifty-ninth second with a fraction of a whole second or more. Offsets from UTC are
less than a day, so moving a local time to UTC changes the date by one day at most.
-/

namespace EventRelay.Time

/-- Whether a year has a twenty-ninth of February. -/
def isLeapYear (year : Int) : Bool := year % 4 == 0 && (year % 100 != 0 || year % 400 == 0)

/-- The number of days of a month; zero for a number that is no month. -/
def daysInMonth (year : Int) (month : Nat) : Nat :=
  match month with
  | 1 | 3 | 5 | 7 | 8 | 10 | 12 => 31
  | 4 | 6 | 9 | 11 => 30
  | 2 => if isLeapYear year then 29 else 28
  | _ => 0

/-- The first year of the calendar. -/
def minYear : Int := -262143

/-- The last year of the calendar. -/
def maxYear : Int := 262142

/-- A day of the calendar. -/
structure Date where
  year : Int
  month : Nat
  day : Nat
deriving DecidableEq, Repr

namespace Date

/-- Whether the day exists in the calendar. -/
def IsValid (d : Date) : Prop :=
  minYear ≤ d.year ∧ d.year ≤ maxYear ∧ 1 ≤ d.day ∧ d.day ≤ daysInMonth d.year d.month

instance (d : Date) : Decidable d.IsValid := inferInstanceAs (Decidable (_ ∧ _))

/-- The day with the given year, month and day of the month, if it exists. -/
def ofParts? (year : Int) (month day : Nat) : Option Date :=
  if Date.IsValid ⟨year, month, day⟩ then some ⟨year, month, day⟩ else none

/-- The following day, if the calendar has it. -/
def next? (d : Date) : Option Date :=
  if d.day < daysInMonth d.year d.month then some { d with day := d.day + 1 }
  else if d.month < 12 then some ⟨d.year, d.month + 1, 1⟩
  else ofParts? (d.year + 1) 1 1

/-- The preceding day, if the calendar has it. -/
def previous? (d : Date) : Option Date :=
  if 1 < d.day then some { d with day := d.day - 1 }
  else if 1 < d.month then some ⟨d.year, d.month - 1, daysInMonth d.year (d.month - 1)⟩
  else ofParts? (d.year - 1) 12 31

end Date

/-- A point in time, in UTC. -/
structure Timestamp where
  date : Date
  hour : Nat
  minute : Nat
  second : Nat
  /-- Nanoseconds, up to two seconds in a leap second. -/
  nanosecond : Nat
deriving DecidableEq, Repr

namespace Timestamp

/-- Whether the date exists and the parts of the time of day are in range; a fraction of a
second or more goes with the fifty-ninth second only. -/
def IsValid (t : Timestamp) : Prop :=
  t.date.IsValid ∧ t.hour < 24 ∧ t.minute < 60 ∧ t.second < 60 ∧
    t.nanosecond < 2000000000 ∧ (1000000000 ≤ t.nanosecond → t.second = 59)

instance (t : Timestamp) : Decidable t.IsValid := inferInstanceAs (Decidable (_ ∧ _))

/-- The timestamp without its fraction of a second; a leap second stays one. -/
def truncate (t : Timestamp) : Timestamp :=
  { t with nanosecond := t.nanosecond / 1000000000 * 1000000000 }

/-- The timestamp that is `minutes` earlier, if the calendar has it. -/
def earlier? (t : Timestamp) (minutes : Int) : Option Timestamp := do
  let total : Int := t.hour * 60 + t.minute - minutes
  let date ←
    if total < 0 then t.date.previous?
    else if 1440 ≤ total then t.date.next?
    else some t.date
  let rest := (total % 1440).toNat
  pure { t with date := date, hour := rest / 60, minute := rest % 60 }

end Timestamp
end EventRelay.Time

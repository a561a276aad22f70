import EventRelay.Number.Shortest
import EventRelay.Text.Reader
import EventRelay.Time.Rfc3339

/-!
# Dates and times of TOML

A date, a time of day, or both with a `T` or a blank between them, and then perhaps an offset.
They are checked and brought to one form: `T` between date and time, `Z` or a signed offset, and
a fraction of up to nine digits without trailing zeros.
-/

namespace EventRelay.Toml.Datetime

open Text (Reader)
open Text.Reader (char)
open Time (padded)
open Time.Rfc3339 (bounded number dateEnd fraction)

/-- A day of the calendar. -/
def date : Reader (List Char) := fun s ↦ do
  let (year, s) ← number 4 4 s
  let ((), s) ← char '-' s
  let (month, s) ← bounded 2 2 1 12 s
  let ((), s) ← char '-' s
  let (day, s) ← bounded 2 2 1 (Time.daysInMonth year month) s
  pure (padded 4 year ++ '-' :: padded 2 month ++ '-' :: padded 2 day, s)

/-- A fraction of a second without trailing zeros. -/
def renderFraction (nanosecond : Nat) : List Char :=
  if nanosecond = 0 then []
  else '.' :: ((padded 9 nanosecond).reverse.dropWhile (· == '0')).reverse

/-- A time of day. -/
def time : Reader (List Char) := fun s ↦ do
  let (hour, s) ← bounded 2 2 0 23 s
  let ((), s) ← char ':' s
  let (minute, s) ← bounded 2 2 0 59 s
  let ((), s) ← char ':' s
  let (second, s) ← bounded 2 2 0 60 s
  let (nanosecond, s) ← fraction s
  pure (padded 2 hour ++ ':' :: padded 2 minute ++ ':' :: padded 2 second ++
    renderFraction nanosecond, s)

/-- An offset; nothing without one. -/
def offset : Reader (List Char)
  | c :: rest =>
    if c = 'Z' ∨ c = 'z' then some (['Z'], rest)
    else if c = '+' ∨ c = '-' then do
      let (hours, rest) ← bounded 2 2 0 23 rest
      let ((), rest) ← char ':' rest
      let (minutes, rest) ← bounded 2 2 0 59 rest
      let sign := if hours = 0 ∧ minutes = 0 then '+' else c
      pure (sign :: padded 2 hours ++ ':' :: padded 2 minutes, rest)
    else some ([], c :: rest)
  | [] => some ([], [])

/-- A time of day behind a date; nothing without one. -/
def timeBehind : Reader (List Char) := fun s ↦
  match dateEnd s >>= fun (_, rest) ↦ time rest with
  | none => some ([], s)
  | some (clock, rest) => do
    let (zone, rest) ← offset rest
    pure ('T' :: clock ++ zone, rest)

/-- A date, a time or both, in their one form. -/
def read : Reader String := fun s ↦
  match date s with
  | some (day, rest) => do
    let (clock, rest) ← timeBehind rest
    pure (String.ofList (day ++ clock), rest)
  | none => do
    let (clock, rest) ← time s
    pure (String.ofList clock, rest)

end EventRelay.Toml.Datetime

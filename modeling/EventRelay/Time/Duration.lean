import EventRelay.Number.Binary64

/-!
# Durations

A duration is a whole number of seconds below `2 ^ 64` and a number of nanoseconds. A floating
point number of seconds is rounded to the nearest nanosecond, a half to the even neighbour; there
are numbers for which the result is no duration.
-/

namespace EventRelay.Time

/-- A span of time. -/
structure Duration where
  seconds : Nat
  nanoseconds : Nat
deriving DecidableEq, Repr

namespace Duration

/-- Five seconds and the like. -/
def ofSeconds (n : Nat) : Duration := ⟨n, 0⟩

/-- The duration of a number of milliseconds. -/
def ofMilliseconds (n : Nat) : Duration := ⟨n / 1000, n % 1000 * 1000000⟩

/-- How many seconds are too many for a duration. -/
def limit : Nat := Nat.pow 2 64

/-- The duration nearest to the magnitude of a number of seconds, if there is one. -/
def ofBinary64? (x : Number.Binary64) : Option Duration :=
  let (num, den) := x.ratio
  let nanoseconds := Number.roundHalfEven (num * 1000000000) den
  let d : Duration := ⟨nanoseconds / 1000000000, nanoseconds % 1000000000⟩
  if d.seconds < limit then some d else none

end Duration
end EventRelay.Time

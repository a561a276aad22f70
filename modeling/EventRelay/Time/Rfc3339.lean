import EventRelay.Text.Blank
import EventRelay.Text.Reader
import EventRelay.Number.Shortest
import EventRelay.Time.Timestamp

/-!
# Timestamps as text

Timestamps are written as RFC 3339 asks, in UTC with a `Z`: to the second in events, and with
the fraction they have (none, three, six or nine digits) in records. A year outside `0 … 9999`
has a sign and at least four digits.

There are two readers. The strict one takes RFC 3339 itself, with a blank or a small letter
between date and time. The lenient one, for records, also takes a signed year of any length,
parts with fewer digits, white space around the parts, and an offset without its colon or spelled
`UTC`. Both require an offset of less than a day and move the time to UTC.
-/

namespace EventRelay.Time

/-- A natural with at least `width` digits. -/
def padded (width n : Nat) : List Char :=
  let digits := Number.decimalDigits n
  List.replicate (width - digits.length) '0' ++ digits

/-- A year: four digits, or a sign and at least four digits. -/
def renderYear (year : Int) : List Char :=
  if 0 ≤ year ∧ year ≤ 9999 then padded 4 year.natAbs
  else (if year < 0 then '-' else '+') :: padded 4 year.natAbs

/-- The fraction of a second with as many digits as it needs, in groups of three. -/
def renderFraction (nanosecond : Nat) : List Char :=
  if nanosecond = 0 then []
  else if nanosecond % 1000000 = 0 then '.' :: padded 3 (nanosecond / 1000000)
  else if nanosecond % 1000 = 0 then '.' :: padded 6 (nanosecond / 1000)
  else '.' :: padded 9 nanosecond

namespace Timestamp

/-- Date and time to the second. -/
def renderSeconds (t : Timestamp) : List Char :=
  renderYear t.date.year ++ '-' :: padded 2 t.date.month ++ '-' :: padded 2 t.date.day ++
    'T' :: padded 2 t.hour ++ ':' :: padded 2 t.minute ++
    ':' :: padded 2 (t.second + t.nanosecond / 1000000000)

/-- The text in events, to the second. -/
def toSeconds (t : Timestamp) : String := String.ofList (renderSeconds t ++ ['Z'])

/-- The text in records, with the fraction of the second. -/
def toText (t : Timestamp) : String :=
  String.ofList (renderSeconds t ++ renderFraction (t.nanosecond % 1000000000) ++ ['Z'])

end Timestamp

namespace Rfc3339

open Text (Reader)
open Text.Reader (char)

/-- The value of a list of digits. -/
def valueOf (digits : List Char) : Nat := digits.foldl (fun n c ↦ n * 10 + (c.toNat - 48)) 0

/-- From `least` up to `most` digits, as many as there are. -/
def number (least most : Nat) : Reader Nat := fun s ↦
  let digits := (s.take most).takeWhile Char.isDigit
  if digits.length < least then none else some (valueOf digits, s.drop digits.length)

/-- A number within bounds. -/
def bounded (least most low high : Nat) : Reader Nat := fun s ↦ do
  let (n, s) ← number least most s
  if low ≤ n ∧ n ≤ high then some (n, s) else none

/-- The mark between date and time. -/
def dateEnd : Reader Unit
  | c :: rest => if c = 'T' ∨ c = 't' ∨ c = ' ' then some ((), rest) else none
  | [] => none

/-- A fraction of a second in nanoseconds, if there is a point; digits behind the ninth are
dropped. -/
def fraction : Reader Nat
  | '.' :: s =>
    let digits := s.takeWhile Char.isDigit
    if digits.isEmpty then none
    else
      let kept := digits.take 9
      some (valueOf kept * Nat.pow 10 (9 - kept.length), s.drop digits.length)
  | s => some (0, s)

/-- An offset in minutes: `Z`, or a sign, two digits of hours, what `between` takes, and two
digits of minutes. The sign may be the minus sign U+2212. -/
def offset (between : Reader Unit) : Reader Int
  | 'Z' :: rest => some (0, rest)
  | 'z' :: rest => some (0, rest)
  | c :: s => do
    let sign : Int ← if c = '+' then some 1 else if c = '-' ∨ c = '\u2212' then some (-1) else none
    let (hours, s) ← bounded 2 2 0 23 s
    let ((), s) ← between s
    let (minutes, s) ← bounded 2 2 0 59 s
    pure (sign * (hours * 60 + minutes : Nat), s)
  | [] => none

/-- The timestamp of the parts that were read; the sixtieth second is a leap second. -/
def ofParts? (year : Int) (month day hour minute second nanosecond : Nat) (offset : Int) :
    Option Timestamp := do
  let date ← Date.ofParts? year month day
  let leap := second / 60
  Timestamp.earlier? ⟨date, hour, minute, second - leap, nanosecond + leap * 1000000000⟩ offset

/-- The strict form. -/
def strict : Reader Timestamp := fun s ↦ do
  let (year, s) ← number 4 4 s
  let ((), s) ← char '-' s
  let (month, s) ← bounded 2 2 1 12 s
  let ((), s) ← char '-' s
  let (day, s) ← bounded 2 2 1 31 s
  let ((), s) ← dateEnd s
  let (hour, s) ← bounded 2 2 0 23 s
  let ((), s) ← char ':' s
  let (minute, s) ← bounded 2 2 0 59 s
  let ((), s) ← char ':' s
  let (second, s) ← bounded 2 2 0 60 s
  let (nanosecond, s) ← fraction s
  let (minutes, s) ← offset (char ':') s
  let t ← ofParts? year month day hour minute second nanosecond minutes
  pure (t, s)

/-- A year with a sign and any number of digits, or of up to four digits. -/
def signedYear : Reader Int
  | '-' :: s => do
    let (n, s) ← number 1 s.length s
    pure (-(n : Int), s)
  | '+' :: s => do
    let (n, s) ← number 1 s.length s
    pure (n, s)
  | s => do
    let (n, s) ← number 1 4 s
    pure (n, s)

/-- A number of one or two digits behind white space. -/
def part (low high : Nat) : Reader Nat := fun s ↦ bounded 1 2 low high (Text.trimStart s)

/-- A fixed character behind white space. -/
def mark (c : Char) : Reader Unit := fun s ↦ char c (Text.trimStart s)

/-- Any number of colons and white space. -/
def colons : Reader Unit := fun s ↦ some ((), s.dropWhile fun c ↦ c == ':' || Text.isBlank c)

/-- An offset of the lenient form. -/
def lenientOffset : Reader Int := fun s ↦
  if (s.take 3).map Char.toUpper = ['U', 'T', 'C'] then some (0, s.drop 3) else offset colons s

/-- The lenient form. -/
def lenient : Reader Timestamp := fun s ↦ do
  let (year, s) ← signedYear (Text.trimStart s)
  let ((), s) ← mark '-' s
  let (month, s) ← part 1 12 s
  let ((), s) ← mark '-' s
  let (day, s) ← part 1 31 s
  let ((), s) ← dateEnd s
  let (hour, s) ← part 0 23 s
  let ((), s) ← mark ':' s
  let (minute, s) ← part 0 59 s
  let ((), s) ← mark ':' s
  let (second, s) ← part 0 60 s
  let (nanosecond, s) ← fraction s
  let (minutes, s) ← lenientOffset (Text.trimStart s)
  let t ← ofParts? year month day hour minute second nanosecond minutes
  pure (t, s)

end Rfc3339

namespace Timestamp

/-- The timestamp of a text in the strict form. -/
def ofStrict? (text : String) : Option Timestamp :=
  match Rfc3339.strict text.toList with
  | some (t, []) => some t
  | _ => none

/-- The timestamp of a text in the lenient form. -/
def ofLenient? (text : String) : Option Timestamp :=
  match Rfc3339.lenient text.toList with
  | some (t, rest) => if (Text.trimStart rest).isEmpty then some t else none
  | none => none

end Timestamp
end EventRelay.Time

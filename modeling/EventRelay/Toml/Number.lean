import EventRelay.Digest.Hex
import EventRelay.Number.Binary64
import EventRelay.Text.Reader

/-!
# Numbers of TOML

An integer is decimal with an optional sign, or hexadecimal, octal or binary without one, and
fits sixty-four bits with sign. A floating point number is decimal with a fraction, an exponent
or both, or spelled `inf` or `nan`; it is read correctly rounded. Between two digits there may be
an underscore. A positive number too large for the format is refused, while a negative one reads
as minus infinity.
-/

namespace EventRelay.Toml

open Number (Binary64 Extended)
open Text (Reader)

/-- The values of the digits behind a first one. `value?` tells the digits. -/
def moreDigits (value? : Char → Option Nat) : Reader (List Nat)
  | '_' :: c :: rest => do
    let d ← value? c
    let (ds, rest) ← moreDigits value? rest
    pure (d :: ds, rest)
  | c :: rest =>
    match value? c with
    | some d => do
      let (ds, rest) ← moreDigits value? rest
      pure (d :: ds, rest)
    | none => some ([], c :: rest)
  | [] => some ([], [])

/-- The value of a digit below `base`. -/
def digitBelow? (base : Nat) (c : Char) : Option Nat := do
  let d ← Digest.hexValue? c
  if d < base then some d else none

/-- One or more digits below `base`, with underscores between them. -/
def digits (base : Nat) : Reader (List Nat)
  | c :: rest => do
    let d ← digitBelow? base c
    let (ds, rest) ← moreDigits (digitBelow? base) rest
    pure (d :: ds, rest)
  | [] => none

/-- The number of a list of digits. -/
def numberOf (base : Nat) (ds : List Nat) : Nat := ds.foldl (fun n d ↦ n * base + d) 0

/-- Whether there is a minus sign, after an optional sign. -/
def sign : Reader Bool
  | '+' :: rest => some (false, rest)
  | '-' :: rest => some (true, rest)
  | s => some (false, s)

/-- The digits of a decimal integer: a zero, or digits that do not start with one. -/
def wholeDigits : Reader (List Nat)
  | '0' :: rest => some ([0], rest)
  | s => digits 10 s

/-- An integer that fits sixty-four bits with sign. -/
def fitted? (n : Int) : Option Int := if -Nat.pow 2 63 ≤ n ∧ n < Nat.pow 2 63 then some n else none

/-- An integer with a base, from behind the mark of the base. -/
def basedInteger (base : Nat) : Reader Int := fun s ↦ do
  let (ds, s) ← digits base s
  let n ← fitted? (numberOf base ds)
  pure (n, s)

/-- An integer. -/
def integer : Reader Int
  | '0' :: 'x' :: rest => basedInteger 16 rest
  | '0' :: 'o' :: rest => basedInteger 8 rest
  | '0' :: 'b' :: rest => basedInteger 2 rest
  | s => do
    let (negative, s) ← sign s
    let (ds, s) ← wholeDigits s
    let n ← fitted? (if negative then -(numberOf 10 ds : Int) else numberOf 10 ds)
    pure (n, s)

/-- The digits behind a point; none without a point. -/
def fractionDigits : Reader (List Nat)
  | '.' :: rest => digits 10 rest
  | s => some ([], s)

/-- The value of an exponent; nothing without one. -/
def exponent : Reader (Option Int)
  | c :: rest =>
    if c = 'e' ∨ c = 'E' then do
      let (negative, rest) ← sign rest
      let (ds, rest) ← digits 10 rest
      pure (some (if negative then -(numberOf 10 ds : Int) else numberOf 10 ds), rest)
    else some (none, c :: rest)
  | [] => some (none, [])

/-- The number with a sign and the magnitude `ds · 10 ^ e`. -/
def scaled? (negative : Bool) (ds : List Nat) (e : Int) : Option Extended :=
  match Binary64.ofDecimal? (numberOf 10 ds) e with
  | some x => some (.finite (if negative then x.neg else x))
  | none => if negative then some (.infinite true) else none

/-- A decimal floating point number. -/
def decimalFloat : Reader Extended := fun s ↦ do
  let (negative, s) ← sign s
  let (whole, s) ← wholeDigits s
  let (fraction, s) ← fractionDigits s
  let (e, s) ← exponent s
  if fraction.isEmpty ∧ e.isNone then none
  else
    let x ← scaled? negative (whole ++ fraction) (e.getD 0 - fraction.length)
    pure (x, s)

/-- A floating point number that is spelled. -/
def spelledFloat : Reader Extended := fun s ↦ do
  let (negative, s) ← sign s
  match s with
  | 'i' :: 'n' :: 'f' :: rest => pure (.infinite negative, rest)
  | 'n' :: 'a' :: 'n' :: rest => pure (.notANumber, rest)
  | _ => none

/-- A floating point number. -/
def float : Reader Extended := decimalFloat.orElse spelledFloat

end EventRelay.Toml

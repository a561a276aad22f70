import EventRelay.Json.Basic
import EventRelay.Digest.Hex
import EventRelay.Number.Shortest

/-!
# Compact JSON text

The text of a value without blanks, entries in their order. A floating point number is written
with the fewest digits that read back, always with a point or an exponent, so that it does not
read as an integer. In strings only the quote, the backslash and the characters below U+0020 are
escaped.
-/

namespace EventRelay.Json

/-- The escaped form of a character inside a string. -/
def escape (c : Char) : List Char :=
  if c = '"' then ['\\', '"']
  else if c = '\\' then ['\\', '\\']
  else if c = '\x08' then ['\\', 'b']
  else if c = '\x0c' then ['\\', 'f']
  else if c = '\n' then ['\\', 'n']
  else if c = '\r' then ['\\', 'r']
  else if c = '\t' then ['\\', 't']
  else if c.toNat < 32 then
    ['\\', 'u', '0', '0', Digest.hexDigit (c.toNat / 16), Digest.hexDigit (c.toNat % 16)]
  else [c]

/-- A string in quotes. -/
def renderString (s : String) : List Char := '"' :: s.toList.flatMap escape ++ ['"']

/-- How floating point numbers are written. -/
structure DoubleStyle where
  /-- The least exponent of the leading digit that is written with a point. -/
  leastPlain : Int
  /-- The largest exponent of the leading digit that is written with a point. -/
  mostPlain : Int

/-- Numbers from 1e-5 up to below 1e16 are written with a point. -/
def doubleStyle : DoubleStyle := ⟨-5, 15⟩

/-- The digits of an exponent with its sign. -/
def renderExponent (e : Int) : List Char :=
  (if e < 0 then '-' else '+') :: Number.decimalDigits e.natAbs

/-- A positive decimal in the given style. -/
def renderDecimal (style : DoubleStyle) (d : Number.Decimal) : List Char :=
  let digits := Number.decimalDigits d.digits
  let leading : Int := d.exponent + digits.length - 1
  if leading < style.leastPlain ∨ style.mostPlain < leading then
    match digits with
    | [] => []
    | [c] => c :: 'e' :: renderExponent leading
    | c :: rest => c :: '.' :: rest ++ 'e' :: renderExponent leading
  else if 0 ≤ d.exponent then
    digits ++ List.replicate d.exponent.toNat '0' ++ ['.', '0']
  else if 0 ≤ leading then
    digits.take (leading.toNat + 1) ++ '.' :: digits.drop (leading.toNat + 1)
  else
    '0' :: '.' :: List.replicate (-leading - 1).toNat '0' ++ digits

/-- A floating point number. -/
def renderDouble (x : Number.Binary64) : List Char :=
  let magnitude :=
    if x.bits = 0 then ['0', '.', '0'] else renderDecimal doubleStyle x.shortest
  if x.negative then '-' :: magnitude else magnitude

/-- An integer. -/
def renderInt (n : Int) : List Char :=
  if n < 0 then '-' :: Number.decimalDigits n.natAbs else Number.decimalDigits n.natAbs

/-- A number. -/
def renderNumber : JsonNumber → List Char
  | .integer n => renderInt n
  | .double x => renderDouble x

mutual

/-- The compact text of a value. -/
def render : Json → List Char
  | .null => ['n', 'u', 'l', 'l']
  | .bool true => ['t', 'r', 'u', 'e']
  | .bool false => ['f', 'a', 'l', 's', 'e']
  | .number n => renderNumber n
  | .string s => renderString s
  | .array items => '[' :: renderItems items
  | .object fields => '\x7b' :: renderFields fields

/-- The items of an array and its closing bracket. -/
def renderItems : List Json → List Char
  | [] => [']']
  | [item] => render item ++ [']']
  | item :: next :: rest => render item ++ ',' :: renderItems (next :: rest)

/-- The entries of an object and its closing brace. -/
def renderFields : List (String × Json) → List Char
  | [] => ['\x7d']
  | [(key, value)] => renderString key ++ ':' :: render value ++ ['\x7d']
  | (key, value) :: next :: rest =>
    renderString key ++ ':' :: render value ++ ',' :: renderFields (next :: rest)

end

/-- The compact text of a value as a string. -/
def compact (value : Json) : String := String.ofList (render value)

/-- The number of bytes of the compact text. -/
def byteSize (value : Json) : Nat := value.compact.utf8ByteSize

end EventRelay.Json

import EventRelay.Json.Basic
import EventRelay.Digest.Hex
import EventRelay.Text.Reader

/-!
# Reading JSON text

The grammar of RFC 8259, strictly: no byte order mark, no trailing comma, no text behind the
value, no lone surrogate and no raw control character. Arrays and objects nest at most
`maxDepth` deep; of a key that comes twice the last value counts.

A number without fraction and exponent is an integer if it lies in `-2^63 … 2^64 - 1` and is not
`-0`. Any other number is a floating point number. It is read from its leading digits, as many as
fit sixty-four bits, by one multiplication or division with a power of ten, each step rounded; a
number whose magnitude overflows is refused.
-/

namespace EventRelay.Json.Parser

open Text (Reader)

/-- How deep arrays and objects may nest. -/
def maxDepth : Nat := 127

/-- The characters that may stand between tokens. -/
def isSpace (c : Char) : Bool := c == ' ' || c == '\n' || c == '\t' || c == '\r'

/-- The text without leading space. -/
def skip (s : List Char) : List Char := s.dropWhile isSpace

/-- The digits at the front of a text, and the rest. -/
def digits (s : List Char) : List Char × List Char := s.span Char.isDigit

/-- The value of a digit. -/
def digitValue (c : Char) : Nat := c.toNat - 48

/-- The largest significand that is kept. -/
def maxSignificand : Nat := Nat.pow 2 64 - 1

/-- A significand and the power of ten that goes with it, while digits are read. -/
structure Scaled where
  significand : Nat
  exponent : Int
deriving DecidableEq, Repr

/-- Reads the digits before the point. The first digit that does not fit and all digits behind
it only raise the exponent. -/
def wholeDigits (x : Scaled) : List Char → Scaled
  | [] => x
  | c :: rest =>
    let next := x.significand * 10 + digitValue c
    if next ≤ maxSignificand then wholeDigits { x with significand := next } rest
    else { x with exponent := x.exponent + (rest.length + 1) }

/-- Reads the digits behind the point up to the first that does not fit. -/
def fractionDigits (x : Scaled) : List Char → Scaled
  | [] => x
  | c :: rest =>
    let next := x.significand * 10 + digitValue c
    if next ≤ maxSignificand then fractionDigits ⟨next, x.exponent - 1⟩ rest else x

/-- The largest power of ten by which one step scales. -/
def maxStep : Nat := 308

/-- The number nearest to a power of ten. -/
def powerOfTen (n : Nat) : Number.Binary64 := ((Number.Binary64.ofNat? (Nat.pow 10 n)).getD .zero)

/-- Divides by `10 ^ n` in steps. -/
def scaleDown (x : Number.Binary64) (n : Nat) : Option Number.Binary64 :=
  if n ≤ maxStep then x.div? (powerOfTen n)
  else if x.bits = 0 then some x
  else do scaleDown (← x.div? (powerOfTen maxStep)) (n - maxStep)
termination_by n
decreasing_by simp only [maxStep] at *; omega

/-- The floating point number of a scaled significand. -/
def Scaled.toDouble? (x : Scaled) : Option Number.Binary64 := do
  let start ← Number.Binary64.ofNat? x.significand
  match x.exponent with
  | .ofNat e =>
    if e ≤ maxStep then start.mul? (powerOfTen e)
    else if start.bits = 0 then some start else none
  | .negSucc e => scaleDown start (e + 1)

/-- The exponent part, if there is one: its value and the rest. Fails on `e` without digits. -/
def exponentPart : Reader (Option Int)
  | c :: rest =>
    if c = 'e' ∨ c = 'E' then
      let (negative, rest) :=
        match rest with
        | '+' :: rest => (false, rest)
        | '-' :: rest => (true, rest)
        | rest => (false, rest)
      match digits rest with
      | ([], _) => none
      | (ds, rest) =>
        let n : Int := ds.foldl (fun n c ↦ n * 10 + digitValue c) (0 : Nat)
        some (some (if negative then -n else n), rest)
    else some (none, c :: rest)
  | [] => some (none, [])

/-- The digits behind the point, if there is a point. Fails on a point without digits. -/
def fractionPart : Reader (Option (List Char))
  | '.' :: rest =>
    match digits rest with
    | ([], _) => none
    | (ds, rest) => some (some ds, rest)
  | s => some (none, s)

/-- The digits before the point: a zero, or digits that do not start with one. -/
def wholePart (s : List Char) : Option (List Char × List Char) :=
  match digits s with
  | ([], _) => none
  | ('0' :: _ :: _, _) => none
  | (ds, rest) => some (ds, rest)

/-- The integer or floating point number of the parts of a number. -/
def numberOfParts (negative : Bool) (whole : List Char) (fraction : Option (List Char))
    (exponent : Option Int) : Option JsonNumber :=
  let read := wholeDigits ⟨0, 0⟩ whole
  let double (x : Scaled) : Option JsonNumber :=
    x.toDouble?.map fun d ↦ .double (if negative then d.neg else d)
  match fraction, exponent with
  | none, none =>
    if read.exponent ≠ 0 then double read
    else if !negative then some (.integer read.significand)
    else if read.significand = 0 ∨ Nat.pow 2 63 < read.significand then double read
    else some (.integer (-read.significand))
  | fraction, exponent =>
    let read := fractionDigits read (fraction.getD [])
    double { read with exponent := read.exponent + exponent.getD 0 }

/-- A number. -/
def number : Reader JsonNumber := fun s ↦ do
  let (negative, s) :=
    match s with
    | '-' :: rest => (true, rest)
    | s => (false, s)
  let (whole, s) ← wholePart s
  let (fraction, s) ← fractionPart s
  let (exponent, s) ← exponentPart s
  let n ← numberOfParts negative whole fraction exponent
  pure (n, s)

/-- The code unit of four hexadecimal digits. -/
def unitOf? (a b c d : Char) : Option Nat := do
  let a ← Digest.hexValue? a
  let b ← Digest.hexValue? b
  let c ← Digest.hexValue? c
  let d ← Digest.hexValue? d
  pure (((a * 16 + b) * 16 + c) * 16 + d)

/-- Whether a code unit is the first half of a character. -/
def isHigh (unit : Nat) : Bool := 0xD800 ≤ unit && unit < 0xDC00

/-- Whether a code unit is the second half of a character. -/
def isLow (unit : Nat) : Bool := 0xDC00 ≤ unit && unit < 0xE000

/-- The character of two halves. -/
def joinUnits (high low : Nat) : Char :=
  Char.ofNat (0x10000 + (high - 0xD800) * 1024 + (low - 0xDC00))

/-- The character that a letter behind a backslash stands for. -/
def escaped? (c : Char) : Option Char :=
  if c = '"' ∨ c = '\\' ∨ c = '/' then some c
  else if c = 'b' then some '\x08'
  else if c = 'f' then some '\x0c'
  else if c = 'n' then some '\n'
  else if c = 'r' then some '\r'
  else if c = 't' then some '\t'
  else none

/-- Puts a character in front of what was read, if anything was. -/
def prepend (c : Char) (found : Option (List Char × List Char)) :
    Option (List Char × List Char) :=
  found.map fun (cs, rest) ↦ (c :: cs, rest)

/-- The characters of a string up to its closing quote, from behind the opening one. -/
def stringTail : Reader (List Char)
  | [] => none
  | c :: rest =>
    if c = '"' then some ([], rest)
    else if c = '\\' then
      match rest with
      | 'u' :: a :: b :: c :: d :: rest =>
        match unitOf? a b c d, rest with
        | none, _ => none
        | some unit, rest =>
          if isLow unit then none
          else if isHigh unit then
            match rest with
            | '\\' :: 'u' :: a :: b :: c :: d :: rest =>
              match unitOf? a b c d with
              | none => none
              | some low =>
                if isLow low then prepend (joinUnits unit low) (stringTail rest) else none
            | _ => none
          else prepend (Char.ofNat unit) (stringTail rest)
      | e :: rest =>
        match escaped? e with
        | some e => prepend e (stringTail rest)
        | none => none
      | [] => none
    else if c.toNat < 32 then none
    else prepend c (stringTail rest)

/-- A string in quotes. -/
def string : Reader String
  | '"' :: rest => (stringTail rest).map fun (cs, rest) ↦ (String.ofList cs, rest)
  | _ => none

/-- A fixed word that stands for a value. -/
def word (letters : List Char) (value : Json) : Reader Json := fun s ↦
  (Reader.word letters s).map fun found ↦ (value, found.2)

/-- The items of an array from behind its opening bracket or a comma, up to the closing bracket.
`fuel` bounds their number. -/
def itemsTail (value : Reader Json) : (fuel : Nat) → Reader (List Json)
  | 0, _ => none
  | fuel + 1, s => do
    let (item, s) ← value (skip s)
    match skip s with
    | ']' :: rest => pure ([item], rest)
    | ',' :: rest =>
      let (items, rest) ← itemsTail value fuel rest
      pure (item :: items, rest)
    | _ => none

/-- The items of an array from behind its opening bracket. -/
def items (value : Reader Json) (fuel : Nat) : Reader (List Json) := fun s ↦
  match skip s with
  | ']' :: rest => some ([], rest)
  | s => itemsTail value fuel s

/-- One entry of an object: key, colon and value. -/
def entry (value : Reader Json) : Reader (String × Json) := fun s ↦ do
  let (key, s) ← string (skip s)
  match skip s with
  | ':' :: rest =>
    let (v, rest) ← value (skip rest)
    pure ((key, v), rest)
  | _ => none

/-- The entries of an object from behind its opening brace or a comma, up to the closing brace.
`fuel` bounds their number. -/
def entriesTail (value : Reader Json) : (fuel : Nat) → Reader (List (String × Json))
  | 0, _ => none
  | fuel + 1, s => do
    let (first, s) ← entry value s
    match skip s with
    | '\x7d' :: rest => pure ([first], rest)
    | ',' :: rest =>
      let (others, rest) ← entriesTail value fuel rest
      pure (first :: others, rest)
    | _ => none

/-- The entries of an object from behind its opening brace. -/
def entries (value : Reader Json) (fuel : Nat) : Reader (List (String × Json)) := fun s ↦
  match skip s with
  | '\x7d' :: rest => some ([], rest)
  | s => entriesTail value fuel s

/-- A value in which arrays and objects nest at most `depth` deep. The length of the text is
enough `fuel`: it bounds the number of items of each array and entries of each object. -/
def value (fuel : Nat) : (depth : Nat) → Reader Json
  | depth, s =>
    match s, depth with
    | 'n' :: _, _ => word ['n', 'u', 'l', 'l'] .null s
    | 't' :: _, _ => word ['t', 'r', 'u', 'e'] (.bool true) s
    | 'f' :: _, _ => word ['f', 'a', 'l', 's', 'e'] (.bool false) s
    | '"' :: _, _ => do
      let (text, rest) ← string s
      pure (.string text, rest)
    | '[' :: rest, depth + 1 => do
      let (values, rest) ← items (value fuel depth) fuel rest
      pure (.array values, rest)
    | '\x7b' :: rest, depth + 1 => do
      let (fields, rest) ← entries (value fuel depth) fuel rest
      pure (.object (Fields.ofEntries fields), rest)
    | _, _ => do
      let (n, rest) ← number s
      pure (.number n, rest)

end Parser

/-- The value of a JSON text that nests at most `depth` deep. -/
def parseAt? (depth : Nat) (text : String) : Option Json := do
  let s := text.toList
  let (value, rest) ← Parser.value s.length depth (Parser.skip s)
  if (Parser.skip rest).isEmpty then some value else none

/-- The value of a JSON text. -/
def parse? (text : String) : Option Json := parseAt? Parser.maxDepth text

end EventRelay.Json

import EventRelay.Digest.Hex
import EventRelay.Text.Reader

/-!
# Tables of code points

Properties of characters are long tables. They are written as rows of words in hexadecimal. A
word of a range table is a code point or the first and the last of a range: `41-5A`. A word of a
rule table says what replaces code points: `C0-D6>E0` stands for a range that is moved as a
whole, `100/12E>101` for every second member of a range, and `B2>32,33` for code points that
follow each other and their replacements. A replacement of several code points has points between
them: `BD>31.2044.32`.
-/

namespace EventRelay.Unicode

open Text (splitOn)

/-- The number of a text of hexadecimal digits. -/
def codePoint (s : List Char) : Nat :=
  s.foldl (fun n c ↦ n * 16 + (Digest.hexValue? c).getD 0) 0

/-- The words of the rows of a table. -/
def tableWords (rows : List String) : List (List Char) :=
  rows.flatMap fun row ↦ splitOn ' ' row.toList

/-- A range of code points, its ends included. -/
structure CodeRange where
  first : Nat
  last : Nat
deriving DecidableEq, Repr

namespace CodeRange

/-- The range of a word: one code point, or two with a hyphen between them. -/
def ofWord (word : List Char) : CodeRange :=
  match splitOn '-' word with
  | [a, b] => ⟨codePoint a, codePoint b⟩
  | _ => ⟨codePoint word, codePoint word⟩

/-- The ranges of a table. -/
def table (rows : List String) : List CodeRange := (tableWords rows).map ofWord

/-- Whether a code point lies in a range. -/
def holds (r : CodeRange) (n : Nat) : Bool := r.first ≤ n && n ≤ r.last

/-- Whether a code point lies in one of several ranges. -/
def covers (ranges : List CodeRange) (n : Nat) : Bool := ranges.any (·.holds n)

end CodeRange

/-- What replaces the code points of a range. -/
structure CodeRule where
  first : Nat
  last : Nat
  /-- Only every `step`-th member from the first on is replaced. -/
  step : Nat
  /-- What replaces the first. A single code point moves along with the one it replaces. -/
  target : List Nat
deriving DecidableEq, Repr

namespace CodeRule

/-- The code points of a replacement. -/
def targetOf (s : List Char) : List Nat := (splitOn '.' s).map codePoint

/-- The rules of a word. -/
def ofWord (word : List Char) : List CodeRule :=
  match splitOn '>' word with
  | [source, targets] =>
    match splitOn '-' source, splitOn '/' source with
    | [a, b], _ => [⟨codePoint a, codePoint b, 1, targetOf targets⟩]
    | _, [a, b] => [⟨codePoint a, codePoint b, 2, targetOf targets⟩]
    | _, _ =>
      (splitOn ',' targets).zipIdx.map fun (target, i) ↦
        ⟨codePoint source + i, codePoint source + i, 1, targetOf target⟩
  | _ => []

/-- The rules of a table. -/
def table (rows : List String) : List CodeRule := (tableWords rows).flatMap ofWord

/-- Whether a rule replaces a code point. -/
def holds (r : CodeRule) (n : Nat) : Bool :=
  r.first ≤ n && n ≤ r.last && (n - r.first) % r.step == 0

/-- The code points that replace a code point under a rule. -/
def replacement (r : CodeRule) (n : Nat) : List Nat :=
  match r.target with
  | [t] => [t + (n - r.first)]
  | target => target

/-- The code points that replace a code point, if a rule does. -/
def replacement? (rules : List CodeRule) (n : Nat) : Option (List Nat) :=
  (rules.find? (·.holds n)).map (·.replacement n)

end CodeRule
end EventRelay.Unicode

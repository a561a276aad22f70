import EventRelay.Digest.Hex
import EventRelay.Text.Reader

/-!
# Blanks, comments, keys and strings of TOML

A line ends with a line feed, which a carriage return may precede. Strings come in four forms:
basic ones in quotes, with escapes, and literal ones in apostrophes, without, and each of the two
on one line or, with three marks, on several. A string on several lines drops a line end right
behind its opening marks, and may end in up to two marks of its own.
-/

namespace EventRelay.Toml

open Text (Reader)

/-- The blanks within a line. -/
def isBlank (c : Char) : Bool := c == ' ' || c == '\t'

/-- The text without leading blanks. -/
def skipBlanks (s : List Char) : List Char := s.dropWhile isBlank

/-- The characters of comments and strings: all but control characters, of which the tabulator
is allowed. -/
def isPlain (c : Char) : Bool := c == '\t' || (32 ≤ c.toNat && c.toNat != 127)

/-- What follows a line end, if the text starts with one. -/
def lineEnd? : List Char → Option (List Char)
  | '\n' :: rest => some rest
  | '\r' :: '\n' :: rest => some rest
  | _ => none

/-- The text without a leading comment. -/
def skipComment : List Char → List Char
  | '#' :: rest => rest.dropWhile isPlain
  | s => s

/-- What follows the end of a line: blanks, a comment, and a line end or the end of the text. -/
def restOfLine? (s : List Char) : Option (List Char) :=
  match skipComment (skipBlanks s) with
  | [] => some []
  | s => lineEnd? s

/-- The text without leading blanks, line ends and comments. A comment stays if something else
than the end of its line follows. `fuel` bounds the number of lines. -/
def skipLines : (fuel : Nat) → List Char → List Char
  | 0, s => s
  | fuel + 1, s =>
    match restOfLine? s with
    | some [] => []
    | some rest => skipLines fuel rest
    | none => skipBlanks s

/-- The text without the blanks, line ends and comments that may stand between the items of an
array. -/
def skipSpace (s : List Char) : List Char := skipLines (s.length + 1) s

/-- The text without leading blanks and line ends. -/
def skipWhite : List Char → List Char
  | '\r' :: '\n' :: rest => skipWhite rest
  | c :: rest => if c == '\n' || isBlank c then skipWhite rest else c :: rest
  | [] => []

/-- The value of hexadecimal digits. -/
def hexNumber? (digits : List Char) : Option Nat :=
  digits.foldlM (fun n c ↦ (Digest.hexValue? c).map (n * 16 + ·)) 0

/-- The character with a code of `width` hexadecimal digits. -/
def codePoint (width : Nat) : Reader Char := fun s ↦ do
  if s.length < width then none
  else
    let n ← hexNumber? (s.take width)
    if n.isValidChar then pure (Char.ofNat n, s.drop width) else none

/-- The character of an escape, from behind the backslash. -/
def escapeSequence : Reader Char
  | 'b' :: rest => some ('\x08', rest)
  | 't' :: rest => some ('\t', rest)
  | 'n' :: rest => some ('\n', rest)
  | 'f' :: rest => some ('\x0c', rest)
  | 'r' :: rest => some ('\r', rest)
  | '"' :: rest => some ('"', rest)
  | '\\' :: rest => some ('\\', rest)
  | 'u' :: rest => codePoint 4 rest
  | 'U' :: rest => codePoint 8 rest
  | _ => none

/-- How a string is written. -/
structure StringForm where
  /-- The character that stands around the string. -/
  mark : Char
  /-- Whether there are three marks, and line ends are allowed. -/
  multiline : Bool
deriving DecidableEq, Repr

namespace StringForm

/-- Whether the form has escapes. -/
def hasEscapes (form : StringForm) : Bool := form.mark == '"'

/-- The marks at either end. -/
def marks (form : StringForm) : List Char :=
  List.replicate (if form.multiline then 3 else 1) form.mark

/-- The end of a string: the closing marks, in front of which several lines may have one or two
more marks that belong to the string. -/
def closing? (form : StringForm) : Reader (List Char) := fun s ↦
  let run := (s.takeWhile (· == form.mark)).length
  if !form.multiline then if run = 0 then none else some ([], s.drop 1)
  else if run < 3 then none
  else some (List.replicate (min run 5 - 3) form.mark, s.drop (min run 5))

/-- Whether a character may stand in the string as it is. -/
def allows (form : StringForm) (c : Char) : Bool :=
  isPlain c && (form.multiline || c != form.mark)

/-- The characters of a string up to its closing marks, from behind the opening ones. `fuel`
bounds the number of steps. -/
def body (form : StringForm) : (fuel : Nat) → Reader (List Char)
  | 0, _ => none
  | fuel + 1, s =>
    match form.closing? s with
    | some found => some found
    | none =>
      match s with
      | [] => none
      | c :: rest =>
        if c = '\\' ∧ form.hasEscapes then
          match form.multiline, lineEnd? (skipBlanks rest) with
          | true, some rest => body form fuel (skipWhite rest)
          | _, _ => do
            let (c, rest) ← escapeSequence rest
            let (cs, rest) ← body form fuel rest
            pure (c :: cs, rest)
        else if form.allows c then do
          let (cs, rest) ← body form fuel rest
          pure (c :: cs, rest)
        else
          match form.multiline, lineEnd? s with
          | true, some rest => do
            let (cs, rest) ← body form fuel rest
            pure ('\n' :: cs, rest)
          | _, _ => none

/-- A string of the form. -/
def read (form : StringForm) : Reader String := fun s ↦ do
  let ((), s) ← Reader.word form.marks s
  let s := if form.multiline then (lineEnd? s).getD s else s
  let (cs, s) ← form.body (s.length + 1) s
  pure (String.ofList cs, s)

end StringForm

/-- A string on one line. -/
def lineString : Reader String
  | '"' :: rest => StringForm.read ⟨'"', false⟩ ('"' :: rest)
  | s => StringForm.read ⟨'\'', false⟩ s

/-- A string of any form. -/
def string : Reader String
  | '"' :: '"' :: '"' :: rest => StringForm.read ⟨'"', true⟩ ('"' :: '"' :: '"' :: rest)
  | '\'' :: '\'' :: '\'' :: rest => StringForm.read ⟨'\'', true⟩ ('\'' :: '\'' :: '\'' :: rest)
  | s => lineString s

/-- The characters of keys without quotes. -/
def isKeyChar (c : Char) : Bool := c.isAlphanum || c == '_' || c == '-'

/-- One part of a key. -/
def keyPart : Reader String := fun s ↦
  match s.span isKeyChar with
  | ([], s) => lineString s
  | (cs, rest) => some (String.ofList cs, rest)

/-- The parts of a key behind the first; `fuel` bounds their number. -/
def keyParts : (fuel : Nat) → Reader (List String)
  | 0, _ => none
  | fuel + 1, s =>
    match skipBlanks s with
    | '.' :: rest => do
      let (part, rest) ← keyPart (skipBlanks rest)
      let (parts, rest) ← keyParts fuel rest
      pure (part :: parts, rest)
    | s => some ([], s)

/-- How many parts a key may have. -/
def maxParts : Nat := 79

/-- A key: the path of its leading parts and its last part. Blanks may stand around the parts. -/
def key : Reader (List String × String) := fun s ↦ do
  let (first, s) ← keyPart (skipBlanks s)
  let (others, s) ← keyParts (s.length + 1) s
  let parts := first :: others
  if maxParts < parts.length then none
  else pure ((parts.dropLast, parts.getLastD first), s)

end EventRelay.Toml

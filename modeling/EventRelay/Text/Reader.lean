/-!
# Readers

The grammars of this library are functions that take a part off the front of a text and give its
value with the text that is left, or fail. Texts that are only divided by a separator are split.
-/

namespace EventRelay.Text

/-- A reader takes a part off the front of a text, or fails. -/
abbrev Reader (α : Type) := List Char → Option (α × List Char)

namespace Reader

/-- A fixed character. -/
def char (c : Char) : Reader Unit
  | d :: rest => if c = d then some ((), rest) else none
  | [] => none

/-- A fixed word. -/
def word : (letters : List Char) → Reader Unit
  | [], s => some ((), s)
  | l :: letters, c :: s => if l = c then word letters s else none
  | _ :: _, [] => none

/-- One of several readers, the first that succeeds. -/
def orElse {α : Type} (first second : Reader α) : Reader α := fun s ↦ (first s).or (second s)

end Reader

/-- The parts of a text between separators; there is one more part than separators. -/
def splitOn (separator : Char) (s : List Char) : List (List Char) :=
  match s with
  | [] => [[]]
  | c :: rest =>
    match splitOn separator rest with
    | [] => [[]]
    | first :: others => if c = separator then [] :: first :: others else (c :: first) :: others

end EventRelay.Text

import EventRelay.Unicode.Direction

/-!
# Names in scripts of both directions

If a name has a letter or number written from the right, all its labels are held to a rule that
keeps labels apart on a line: a label starts with a letter, which sets its direction, ends with a
letter or a number, marks on it aside, and has nothing of the other direction in between.
-/

namespace EventRelay.Net

open Unicode (Direction directionOf)

/-- The first character that is written from the right. -/
def firstFromRight : Nat := 0x590

/-- Whether a character makes a name subject to the rule. -/
def isFromRight (c : Char) : Bool :=
  firstFromRight ≤ c.toNat &&
    [Direction.rightToLeft, .arabicLetter, .arabicNumber].contains (directionOf c)

/-- What both kinds of label may have inside. -/
def neutralInside : List Direction :=
  [.europeanNumber, .numberSign, .numberSeparator, .numberEnd, .neutral, .boundary, .mark]

/-- Whether the characters behind a first letter that is written from the left keep to the rule. -/
def fitsLeft (behind : List Direction) : Bool :=
  behind.all (Direction.leftToRight :: neutralInside).contains &&
    behind.getLast?.all [Direction.leftToRight, .europeanNumber].contains

/-- Whether the characters behind a first letter that is written from the right keep to the rule;
the numbers of such a label are all of one kind. -/
def fitsRight (behind : List Direction) : Bool :=
  behind.all ([Direction.rightToLeft, .arabicLetter, .arabicNumber] ++ neutralInside).contains &&
    behind.getLast?.all
      [Direction.rightToLeft, .arabicLetter, .arabicNumber, .europeanNumber].contains &&
    !(behind.contains .arabicNumber && behind.contains .europeanNumber)

/-- Whether a label keeps to the rule. -/
def fitsDirection (label : List Char) : Bool :=
  match label.map directionOf with
  | [] => true
  | first :: behind =>
    let behind := (behind.reverse.dropWhile (· = .mark)).reverse
    match first with
    | .leftToRight => fitsLeft behind
    | .rightToLeft => fitsRight behind
    | .arabicLetter => fitsRight behind
    | _ => false

/-- Whether the labels of a name can stand in one name. -/
def fitTogether (labels : List (List Char)) : Bool :=
  !labels.any (·.any isFromRight) || labels.all fitsDirection

end EventRelay.Net

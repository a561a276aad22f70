import EventRelay.Net.Bidirectional
import EventRelay.Net.Punycode
import EventRelay.Unicode.Joining
import EventRelay.Unicode.NameMapping

/-!
# Domain names

A domain name is brought to lower-case ASCII before it is compared or written. First every
character is replaced by what it stands for in names. A label that still holds other letters is
written in Punycode behind `xn--`; a label that comes so is decoded and held to the same rules, so
that a name has only one form. A name with a label that breaks a rule is refused.
-/

namespace EventRelay.Net.Domain

/-- Whether a character may not be part of a domain name. -/
def isForbidden (c : Char) : Bool :=
  c.toNat ≤ 32 || c.toNat == 127 ||
    ['#', '/', ':', '<', '>', '?', '@', '[', '\\', ']', '^', '|', '%'].contains c

/-- Whether a character is beyond ASCII. -/
def isForeign (c : Char) : Bool := 128 ≤ c.toNat

/-- A label as it is read and as it is written. -/
structure Label where
  letters : List Char
  ascii : List Char
deriving DecidableEq, Repr

namespace Label

/-- The mark of a label in Punycode. -/
def encodedMark : List Char := ['x', 'n', '-', '-']

/-- The most letters of a label that is encoded. -/
def maxLetters : Nat := 1000

/-- The longest text behind the mark that is decoded. -/
def maxEncoded : Nat := 2000

/-- Whether a joiner (U+200D) or non-joiner (U+200C) has an effect between `before`, which is read
backwards, and `behind`: behind a sign that joins letters always, and a non-joiner also between
letters that would join. -/
def joinerFits (joiner : Char) (before behind : List Char) : Bool :=
  match before with
  | [] => false
  | previous :: _ =>
    Unicode.combiningClass previous == Unicode.joiningSignClass ||
      (joiner.toNat == 0x200C && Unicode.meetsBehind before && Unicode.meetsFront behind)

/-- Whether all joiners of a label have an effect. -/
def joinersFit (before : List Char) : List Char → Bool
  | [] => true
  | c :: behind =>
    ((c.toNat != 0x200C && c.toNat != 0x200D) || joinerFits c before behind) &&
      joinersFit (c :: before) behind

/-- Whether letters can make up a label that is written in Punycode. -/
def isProper (letters : List Char) : Bool :=
  !letters.any (fun c ↦ c == '.' || isForbidden c) &&
    !letters.head?.any (Unicode.isMark ·.toNat) && joinersFit [] letters &&
    letters.length ≤ maxLetters

/-- The label of a text that is marked as Punycode. -/
def ofEncoded? (text : List Char) : Option Label :=
  let encoded := text.drop encodedMark.length
  if text.any isForeign ∨ text.getLast? = some '-' ∨ maxEncoded < encoded.length then none
  else do
    let letters ← Punycode.decode? encoded
    if Unicode.normalName? letters = some letters ∧ isProper letters then some ⟨letters, text⟩
    else none

/-- The label of a text whose characters are in their normal form. -/
def ofText? (text : List Char) : Option Label :=
  if text.take encodedMark.length = encodedMark then ofEncoded? text
  else if text.any isForeign then
    if isProper text then some ⟨text, encodedMark ++ Punycode.encode text⟩ else none
  else if text.any isForbidden then none
  else some ⟨text, text⟩

end Label

/-- A domain name in lower-case ASCII, if it can be one. -/
def toAscii? (name : List Char) : Option (List Char) := do
  let labels ← (Text.splitOn '.' (← Unicode.normalName? name)).mapM Label.ofText?
  if fitTogether (labels.map (·.letters)) then
    pure (List.intercalate ['.'] (labels.map (·.ascii)))
  else none

end EventRelay.Net.Domain

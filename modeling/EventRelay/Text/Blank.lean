/-!
# White space

Titles, URLs, category names and pre-encoded bodies are trimmed of white space before they are
used. White space is the Unicode property `White_Space`, so a no-break space or an ideographic
space is trimmed as well, while a zero-width space or an information separator is kept.
-/

namespace EventRelay.Text

/-- The characters with the Unicode property `White_Space`. -/
def isBlank (c : Char) : Bool :=
  let n := c.toNat
  (9 ≤ n && n ≤ 13) || n == 0x20 || n == 0x85 || n == 0xA0 || n == 0x1680 ||
    (0x2000 ≤ n && n ≤ 0x200A) || n == 0x2028 || n == 0x2029 || n == 0x202F || n == 0x205F ||
    n == 0x3000

/-- The text without its leading white space. -/
def trimStart (s : List Char) : List Char := s.dropWhile isBlank

/-- The text without its trailing white space. -/
def trimEnd (s : List Char) : List Char := (s.reverse.dropWhile isBlank).reverse

/-- The text without white space at either end. -/
def trimChars (s : List Char) : List Char := trimEnd (trimStart s)

/-- The string without white space at either end. -/
def trim (s : String) : String := String.ofList (trimChars s.toList)

/-- The string in which every ASCII capital is replaced by its small letter. -/
def lowercase (s : String) : String := String.ofList (s.toList.map Char.toLower)

end EventRelay.Text

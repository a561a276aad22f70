import EventRelay.Unicode.Category

/-!
# Quoted text

How messages show a text so that its ends and its hidden characters can be seen: in quotes, with
a backslash before quotes and backslashes, letters for the common controls, and the hexadecimal
code in braces for any other character without a sign of its own. Lists stand in brackets.
-/

namespace EventRelay.Text

/-- A character inside quotes. -/
def quoteChar (c : Char) : List Char :=
  if c = '"' then ['\\', '"']
  else if c = '\\' then ['\\', '\\']
  else if c = '\n' then ['\\', 'n']
  else if c = '\r' then ['\\', 'r']
  else if c = '\t' then ['\\', 't']
  else if c = '\x00' then ['\\', '0']
  else if Unicode.isHidden c.toNat then
    ['\\', 'u', '\x7b'] ++ Nat.toDigits 16 c.toNat ++ ['\x7d']
  else [c]

/-- A text in quotes. -/
def quote (s : String) : String := String.ofList ('"' :: s.toList.flatMap quoteChar ++ ['"'])

/-- A list of texts in quotes. -/
def quoteList (texts : List String) : String :=
  "[" ++ ", ".intercalate (texts.map quote) ++ "]"

end EventRelay.Text

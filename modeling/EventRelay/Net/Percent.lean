import EventRelay.Digest.Hex

/-!
# Percent encoding

A character that may not stand for itself in a part of a URL is written as its UTF-8 bytes, each
as a percent sign and two capital hexadecimal digits. Every part has its own set of such
characters; controls and characters beyond ASCII belong to all of them.
-/

namespace EventRelay.Net.Percent

/-- A set of ASCII characters that are encoded, besides the controls. -/
abbrev EncodeSet := List Char

/-- Only controls are encoded. -/
def controls : EncodeSet := []

/-- What is encoded in a fragment. -/
def fragment : EncodeSet := [' ', '"', '<', '>', '\x60']

/-- What is encoded in a query. -/
def query : EncodeSet := [' ', '"', '#', '<', '>']

/-- What is encoded in a query of a special scheme. -/
def specialQuery : EncodeSet := '\'' :: query

/-- What is encoded in a path. -/
def path : EncodeSet := fragment ++ ['#', '?', '\x7b', '\x7d']

/-- What is encoded in a user name or password. -/
def userinfo : EncodeSet := path ++ ['/', ':', ';', '=', '@', '[', '\\', ']', '^', '|']

/-- The capital hexadecimal digit of a value below sixteen. -/
def capitalDigit (n : Nat) : Char := (Digest.hexDigit n).toUpper

/-- The encoded form of a byte. -/
def encodeByte (b : UInt8) : List Char :=
  ['%', capitalDigit (b.toNat / 16), capitalDigit (b.toNat % 16)]

/-- A character, encoded if it is in the set, a control or beyond ASCII. -/
def encodeChar (set : EncodeSet) (c : Char) : List Char :=
  if c.toNat < 32 ∨ 126 < c.toNat ∨ set.contains c then
    (Text.utf8 (String.singleton c)).flatMap encodeByte
  else [c]

/-- A text, encoded character by character. -/
def encode (set : EncodeSet) (s : List Char) : List Char := s.flatMap (encodeChar set)

/-- Replaces each percent sign with two hexadecimal digits behind it by the byte it stands for. -/
def decodeBytes : Bytes → Bytes
  | [] => []
  | [a] => [a]
  | [a, b] => [a, b]
  | a :: b :: c :: rest =>
    if a = 0x25 then
      match Digest.hexValue? (Char.ofNat b.toNat), Digest.hexValue? (Char.ofNat c.toNat) with
      | some h, some l => UInt8.ofNat (16 * h + l) :: decodeBytes rest
      | _, _ => a :: decodeBytes (b :: c :: rest)
    else a :: decodeBytes (b :: c :: rest)

/-- The decoded text, if it is well-formed UTF-8. -/
def decode? (s : List Char) : Option (List Char) :=
  (Text.ofUtf8? (decodeBytes (Text.utf8 (String.ofList s)))).map String.toList

end EventRelay.Net.Percent

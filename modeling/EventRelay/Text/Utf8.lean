/-!
# Text and bytes

A byte sequence is a list of bytes. Strict UTF-8 joins it to text: every string has exactly one
encoding, and a byte sequence that is not an encoding (a stray continuation byte, an overlong
form, a surrogate) has no text.
-/

namespace EventRelay

/-- A byte sequence. -/
abbrev Bytes := List UInt8

namespace Text

/-- The UTF-8 encoding of a string. -/
def utf8 (s : String) : Bytes := s.toByteArray.data.toList

/-- The string that a byte sequence encodes, if it is well-formed UTF-8. -/
def ofUtf8? (b : Bytes) : Option String := String.fromUTF8? ⟨b.toArray⟩

end Text
end EventRelay

import EventRelay.Text.Base64
import EventRelay.Text.Reader

/-!
# Binary-safe strings

Edit summaries and reasons are stored as bytes and need not be UTF-8, but JSON carries text only.
Well-formed UTF-8 stands for itself; any other byte sequence is wrapped in a base64 data URI.
-/

namespace EventRelay.Text

/-- What a wrapped byte sequence starts with. -/
def binaryPrefix : List Char := "data:application/octet-stream;base64,".toList

/-- The text of a byte sequence, wrapped where it is not UTF-8. -/
def binarySafe (bytes : Bytes) : String :=
  match ofUtf8? bytes with
  | some text => text
  | none => String.ofList (binaryPrefix ++ Base64.encode bytes)

/-- The bytes inside a wrapped text; nothing for plain text or a malformed payload. -/
def unwrapBinary? (value : String) : Option Bytes := do
  let ((), payload) ← Reader.word binaryPrefix value.toList
  Base64.decode payload

end EventRelay.Text

import EventRelay.Digest.Hmac
import EventRelay.Error
import EventRelay.Json.Printer

/-!
# Signed events

A signature is the keyed hash of the compact text of an event whose objects are all sorted by key
and whose own signature field is left out, so it depends neither on the order of keys nor on a
signature that is already there. It is written in hexadecimal into a field of the event.
-/

namespace EventRelay.Event

/-- The field of a signature. -/
def signatureKey : String := "mediawiki_signature"

/-- The value without its signature field. -/
def unsigned : Json → Json
  | .object fields => .object (Fields.erase fields signatureKey)
  | value => value

/-- The text that is signed. -/
def signingText (event : Json) : String := (unsigned event.canonical).compact

/-- The signature of an event. -/
def sign (secret : String) (event : Json) : String :=
  Digest.hex (Digest.hmac (Text.utf8 secret) (Text.utf8 (signingText event)))

/-- Signs an event where it stands. Only an object can carry a signature. -/
def attachInPlace (secret : String) : Json → Except RelayError Unit × Json
  | .object fields =>
    (.ok (), .object (Fields.insert fields signatureKey (.string (sign secret (.object fields)))))
  | event => (.error .cannotCarrySignature, event)

/-- The event with its signature. -/
def attach (secret : String) (event : Json) : Except RelayError Json :=
  let (result, signed) := attachInPlace secret event
  result.map fun _ ↦ signed

/-- The signature that an event carries. -/
def carried? (event : Json) : Option String :=
  (event.get? signatureKey).bind Json.asString?

/-- Whether two byte sequences are the same. Of sequences with the same length every byte is looked
at, so that the time that it takes does not tell where they differ. -/
def sameBytes (first second : Bytes) : Bool :=
  if first.length ≠ second.length then false
  else
    let difference :=
      (first.zip second).foldl (fun seen pair ↦ seen ||| (pair.1 ^^^ pair.2)) (0 : UInt8)
    difference == 0

/-- Checks that an event carries its own signature under a secret that is not empty. -/
def verify (secret : String) (event : Json) : Except RelayError Unit :=
  if secret.isEmpty then .error .noSecret
  else
    match carried? event with
    | none => .error .missingSignature
    | some given =>
      if sameBytes (Text.utf8 given) (Text.utf8 (sign secret event)) then .ok ()
      else .error .signatureMismatch

end EventRelay.Event

import EventRelay.Proofs.Event.Signature

/-!
# Signing and verifying agree

What is signed is accepted, and nothing else is: an event is accepted exactly if its signature
field holds the signature of the event. The field itself is not signed. So it can be set, replaced
or taken away without any effect on the signature, and signing twice is signing once.
-/

namespace EventRelay.Event

/-- Only the entries outside the signature field count for the signature. -/
theorem sign_congr (secret : String) {first second : Fields}
    (h : Fields.erase first signatureKey = Fields.erase second signatureKey) :
    sign secret (.object first) = sign secret (.object second) := by
  have hunsigned : unsigned (.object first) = unsigned (.object second) := by
    rw [unsigned, unsigned, h]
  rw [sign, sign, signingText, signingText, ← canonical_unsigned, ← canonical_unsigned, hunsigned]

/-- Signing an event that is signed already changes nothing. -/
theorem attachInPlace_signed (secret : String) (fields : Fields) :
    let signed := Fields.insert fields signatureKey (.string (sign secret (.object fields)))
    attachInPlace secret (.object signed) = (.ok (), .object signed) := by
  intro signed
  have hsign : sign secret (.object signed) = sign secret (.object fields) :=
    sign_insert secret fields _
  rw [attachInPlace, hsign, Fields.insert_insert]

/-- Only an object can be signed. -/
theorem attachInPlace_of_not_isObject (secret : String) {event : Json}
    (h : event.isObject = false) :
    attachInPlace secret event = (.error .cannotCarrySignature, event) := by
  cases event with
  | object fields => cases h
  | _ => rfl

/-- An event carries a text as its signature exactly if it is an object with that text in the
signature field. -/
theorem carried?_eq_some_iff {event : Json} {signature : String} :
    carried? event = some signature ↔
      ∃ fields, event = .object fields ∧
        Fields.get? fields signatureKey = some (.string signature) := by
  have hstring (value : Json) : value.asString? = some signature ↔ value = .string signature := by
    cases value <;> simp [Json.asString?]
  cases event with
  | object fields => simp [carried?, Json.get?, Option.bind_eq_some_iff, hstring]
  | _ => simp [carried?, Json.get?]

/-- An object can be signed, whatever is in it. With its signature it is accepted under the same
secret unless that is empty, says the same outside the signature field, and is what signing it again
gives; and objects that say the same outside this field have the same signature. Any value is
accepted exactly if the secret is not empty and the value is an object whose signature field holds
its own signature. What is no object is refused a signature and stays as it is. -/
theorem signing_agrees_with_verifying (secret : String) :
    (∀ fields : Fields, ∃ signed,
      attachInPlace secret (.object fields) = (.ok (), .object signed) ∧
      (secret ≠ "" → verify secret (.object signed) = .ok ()) ∧
      Fields.erase signed signatureKey = Fields.erase fields signatureKey ∧
      attachInPlace secret (.object signed) = (.ok (), .object signed) ∧
      ∀ other, Fields.erase other signatureKey = Fields.erase fields signatureKey →
        sign secret (.object other) = sign secret (.object fields)) ∧
    ∀ event : Json,
      (verify secret event = .ok () ↔
        secret ≠ "" ∧ ∃ fields, event = .object fields ∧
          Fields.get? fields signatureKey = some (.string (sign secret event))) ∧
      (event.isObject = false →
        attachInPlace secret event = (.error .cannotCarrySignature, event)) := by
  constructor
  · intro fields
    have hattach : attach secret (.object fields) = .ok (.object (Fields.insert fields signatureKey
        (.string (sign secret (.object fields))))) := rfl
    exact ⟨_, rfl, fun hs ↦ verify_attach hs hattach, Fields.erase_insert fields signatureKey _,
      attachInPlace_signed secret fields, fun _ h ↦ sign_congr secret h⟩
  · intro event
    constructor
    · rw [verify_eq_ok_iff, carried?_eq_some_iff]
    · exact attachInPlace_of_not_isObject secret

/-- An event with a signature of another event, and with the name of the signature field inside. -/
def claimedEvent : Fields :=
  [("mediawiki_signature", .string "00"),
    ("params", .object [("mediawiki_signature", .string "x"), ("lives", .ofInt 1)]),
    ("type", .string "null")]

/-- The signature of another event is replaced, the field inside is not, and the result is accepted
and stays the same when it is signed again. A text is not signed. -/
theorem signing_agrees_with_verifying_claimed :
    (∃ signed, attachInPlace "secret" (.object claimedEvent) = (.ok (), .object signed) ∧
      "secret" ≠ "" ∧ verify "secret" (.object signed) = .ok () ∧
      Fields.erase signed "mediawiki_signature" = claimedEvent.drop 1 ∧
      attachInPlace "secret" (.object signed) = (.ok (), .object signed) ∧
      sign "secret" (.object (claimedEvent.drop 1)) = sign "secret" (.object claimedEvent)) ∧
    attachInPlace "secret" (.string "event") =
      (.error .cannotCarrySignature, .string "event") := by
  obtain ⟨hobject, hvalue⟩ := signing_agrees_with_verifying "secret"
  obtain ⟨signed, hattach, hverify, herase, hagain, hsign⟩ := hobject claimedEvent
  have hs : "secret" ≠ "" := by decide
  exact ⟨⟨signed, hattach, hs, hverify hs, herase.trans rfl, hagain,
    hsign (claimedEvent.drop 1) rfl⟩, (hvalue (.string "event")).2 rfl⟩

end EventRelay.Event

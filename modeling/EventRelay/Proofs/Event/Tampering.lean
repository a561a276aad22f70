import EventRelay.Proofs.Event.Signature
import EventRelay.Proofs.Json.Unambiguous

/-!
# Tampering with a signed event

Hexadecimal text, compact text and the leaving out of one field lose nothing, so all that stands
between an event and its signature is the keyed hash. Whoever moves the signature of an event to
another value therefore gets it accepted only where the two say the same, or where their texts are
a collision of the hash.
-/

namespace EventRelay

namespace Digest

private theorem hexValue?_hexDigit : ∀ n < 16, hexValue? (hexDigit n) = some n := by
  decide

/-- The bytes are read back from their hexadecimal text. -/
theorem unhex?_hex (bytes : Bytes) : unhex? (hex bytes).toList = some bytes := by
  rw [hex, String.toList_ofList]
  induction bytes with
  | nil => rfl
  | cons b rest ih =>
    have hb : b.toNat < 256 := b.toNat_lt
    have hhigh := hexValue?_hexDigit (b.toNat / 16) (by omega)
    have hlow := hexValue?_hexDigit (b.toNat % 16) (by omega)
    have hjoin : UInt8.ofNat (16 * (b.toNat / 16) + b.toNat % 16) = b := by
      rw [Nat.div_add_mod, UInt8.ofNat_toNat]
    rw [List.flatMap_cons, hexByte, List.cons_append, List.cons_append, List.nil_append, unhex?,
      hhigh, hlow, ih]
    simp only [Option.bind_eq_bind, Option.bind_some, Option.pure_def, hjoin]

/-- Different bytes have different hexadecimal texts. -/
theorem hex_inj {first second : Bytes} (h : hex first = hex second) : first = second := by
  have hs := unhex?_hex first
  rw [h, unhex?_hex] at hs
  exact (Option.some.inj hs).symm

/-- Two different texts with the same keyed hash under a secret. -/
def Collides (secret first second : String) : Prop :=
  first ≠ second ∧
    hmac (Text.utf8 secret) (Text.utf8 first) = hmac (Text.utf8 secret) (Text.utf8 second)

end Digest

namespace Event
open JsonNumber (DistinctTokens)

private theorem numbers_unsigned_subset (event : Json) :
    (unsigned event).numbers ⊆ event.numbers := by
  cases event with
  | object fields =>
    intro n hn
    obtain ⟨entry, he, hn⟩ := Json.mem_numbersOfFields.mp hn
    exact Json.mem_numbersOfFields.mpr ⟨entry, (List.mem_filter.mp he).1, hn⟩
  | null => exact List.Subset.refl _
  | bool b => exact List.Subset.refl _
  | number n => exact List.Subset.refl _
  | string s => exact List.Subset.refl _
  | array items => exact List.Subset.refl _

private theorem sorted_unsigned {event : Json} (h : event.Sorted) : (unsigned event).Sorted := by
  cases event with
  | object fields =>
    refine ⟨Fields.isSorted_filter h.1 _, Json.sortedFields_iff.mpr fun entry he ↦ ?_⟩
    exact Json.sortedFields_iff.mp h.2 entry (List.mem_filter.mp he).1
  | null => trivial
  | bool b => trivial
  | number n => trivial
  | string s => trivial
  | array items => exact h

/-- Events with the same signed text say the same outside their signature fields. -/
private theorem canonical_unsigned_eq_of_signingText {first second : Json}
    (hn : DistinctTokens first.numbers second.numbers)
    (h : signingText first = signingText second) :
    (unsigned first).canonical = (unsigned second).canonical := by
  rw [signingText, signingText, ← canonical_unsigned, ← canonical_unsigned] at h
  refine Json.compact_inj (hn.mono ?_ ?_) h
  · exact List.Subset.trans (Json.numbers_canonical_subset _) (numbers_unsigned_subset first)
  · exact List.Subset.trans (Json.numbers_canonical_subset _) (numbers_unsigned_subset second)

/-- The signatures of events with different signed texts are the same only by a collision. -/
theorem signingText_eq_or_collides {secret : String} {first second : Json}
    (h : sign secret first = sign secret second) :
    signingText first = signingText second ∨
      Digest.Collides secret (signingText first) (signingText second) := by
  by_cases ht : signingText first = signingText second
  · exact .inl ht
  · exact .inr ⟨ht, Digest.hex_inj h⟩

/-- A value that carries the signature of an event is accepted only if it says what the event
says, both without the signature field, or if the texts of the two are a collision of the keyed
hash. Of values whose keys are in order, as they are read, to say the same is to be the same. -/
theorem tampering_is_evident (secret : String) (fields : Fields) (received : Json)
    (hn : DistinctTokens received.numbers (Json.object fields).numbers) :
    ∃ signed, attach secret (.object fields) = .ok signed ∧
      (carried? received = carried? signed → verify secret received = .ok () →
        ((unsigned received).canonical = (unsigned (.object fields)).canonical ∧
            (received.Sorted → (Json.object fields).Sorted →
              unsigned received = unsigned (.object fields))) ∨
          Digest.Collides secret (signingText received) (signingText (.object fields))) := by
  refine ⟨_, rfl, fun hcarried hverify ↦ ?_⟩
  have hsign : sign secret received = sign secret (.object fields) := by
    rw [(verify_eq_ok_iff.mp hverify).2, carried?_insert] at hcarried
    exact Option.some.inj hcarried
  rcases signingText_eq_or_collides hsign with htext | hcollides
  · have hsame := canonical_unsigned_eq_of_signingText hn htext
    refine .inl ⟨hsame, fun hr he ↦ ?_⟩
    rwa [Json.canonical_of_sorted _ (sorted_unsigned hr),
      Json.canonical_of_sorted _ (sorted_unsigned he)] at hsame
  · exact .inr hcollides

/-- An event with a signature field deep inside, an integer and a number with a point. -/
def nestedEvent : Fields :=
  [("params",
      .object
        [("lives", .ofInt 1), ("mediawiki_signature", .string "x"),
          ("ratio", .number (.double ⟨false, 0x3FF0000000000000, by decide⟩))]),
    ("type", .string "null")]

/-- The same event with its keys in another order, behind a signature. -/
def reorderedEvent (signature : String) : Json :=
  .object
    [(signatureKey, .string signature), ("type", .string "null"),
      ("params",
        .object
          [("ratio", .number (.double ⟨false, 0x3FF0000000000000, by decide⟩)),
            ("mediawiki_signature", .string "x"), ("lives", .ofInt 1)])]

/-- The reordered event is accepted with the signature of the first one. -/
theorem tampering_is_evident_reordered :
    let received := reorderedEvent (sign "secret" (.object nestedEvent))
    DistinctTokens received.numbers (Json.object nestedEvent).numbers ∧
    ∃ signed, attach "secret" (.object nestedEvent) = .ok signed ∧
      carried? received = carried? signed ∧ verify "secret" received = .ok () ∧
      ((unsigned received).canonical = (unsigned (.object nestedEvent)).canonical ∨
        Digest.Collides "secret" (signingText received)
          (signingText (.object nestedEvent))) := by
  intro received
  have hn : DistinctTokens received.numbers (Json.object nestedEvent).numbers := by
    simp only [DistinctTokens]
    decide +kernel
  have htext : signingText received = signingText (.object nestedEvent) := rfl
  have hverify : verify "secret" received = .ok () :=
    verify_eq_ok_iff.mpr ⟨by decide, by rw [sign, htext]; rfl⟩
  obtain ⟨signed, hs, h⟩ := tampering_is_evident "secret" nestedEvent received hn
  have hcarried : carried? received = carried? signed := by
    cases hs
    rw [carried?_insert]
    rfl
  exact ⟨hn, signed, hs, hcarried, hverify, (h hcarried hverify).imp And.left id⟩

end Event
end EventRelay

import EventRelay.Event.Signature
import EventRelay.Proofs.Json.Canonical
import EventRelay.Proofs.Text.Utf8

/-!
# What a signature covers

A signature covers the entries of an event in order of their keys and without the signature field.
So it stays the same when the field is set, whatever it is set to, and an event that carries its
own signature is accepted.
-/

namespace EventRelay.Event

/-- The signature field is left out before or after the keys are put in order. -/
theorem canonical_unsigned (event : Json) :
    (unsigned event).canonical = unsigned event.canonical := by
  cases event with
  | object fields =>
    rw [unsigned, Json.canonical, Json.canonicalFields_erase, Fields.ofEntries_erase,
      Json.canonical, unsigned]
  | null => rfl
  | bool b => rfl
  | number n => rfl
  | string s => rfl
  | array items => rfl

/-- What the signature field is set to is not signed. -/
private theorem signingText_insert (fields : Fields) (value : Json) :
    signingText (.object (Fields.insert fields signatureKey value)) =
      signingText (.object fields) := by
  have hu : unsigned (.object (Fields.insert fields signatureKey value)) =
      unsigned (.object fields) := by
    rw [unsigned, unsigned, Fields.erase_insert]
  rw [signingText, signingText, ← canonical_unsigned, ← canonical_unsigned, hu]

/-- The signature of an event does not depend on its signature field. -/
theorem sign_insert (secret : String) (fields : Fields) (value : Json) :
    sign secret (.object (Fields.insert fields signatureKey value)) =
      sign secret (.object fields) := by
  rw [sign, sign, signingText_insert]

/-- An object with its signature carries it. -/
theorem carried?_insert (fields : Fields) (signature : String) :
    carried? (.object (Fields.insert fields signatureKey (.string signature))) =
      some signature := by
  rw [carried?, Json.get?, Fields.get?_insert, if_pos rfl]
  rfl

/-! ### Acceptance -/

/-- No bit of any pair differs exactly if none has differed before and the pairs are equal. -/
private theorem foldl_differences_eq_zero_iff (pairs : List (UInt8 × UInt8)) (seen : UInt8) :
    pairs.foldl (fun seen pair ↦ seen ||| (pair.1 ^^^ pair.2)) seen = 0 ↔
      seen = 0 ∧ ∀ pair ∈ pairs, pair.1 = pair.2 := by
  induction pairs generalizing seen with
  | nil => simp
  | cons pair rest ih =>
    rw [List.foldl_cons, ih, UInt8.or_eq_zero_iff, UInt8.xor_eq_zero_iff, List.forall_mem_cons,
      and_assoc]

/-- Looking at every byte finds out whether two byte sequences are equal. -/
private theorem sameBytes_iff {first second : Bytes} :
    sameBytes first second = true ↔ first = second := by
  rw [sameBytes]
  by_cases hlength : first.length = second.length
  · rw [if_neg (not_not_intro hlength), beq_iff_eq, foldl_differences_eq_zero_iff]
    constructor
    · rintro ⟨-, hpairs⟩
      refine List.ext_getElem hlength fun i hi hi' ↦ ?_
      have hzip : i < (first.zip second).length := by
        rw [List.length_zip]
        omega
      simpa using hpairs _ (List.getElem_mem hzip)
    · rintro rfl
      refine ⟨rfl, fun pair hm ↦ ?_⟩
      rw [List.zip, List.zipWith_self] at hm
      obtain ⟨b, -, rfl⟩ := List.mem_map.mp hm
      rfl
  · rw [if_pos hlength]
    exact ⟨fun h ↦ absurd h Bool.false_ne_true, fun h ↦ absurd (congrArg List.length h) hlength⟩

private theorem sameBytes_utf8_iff {first second : String} :
    sameBytes (Text.utf8 first) (Text.utf8 second) = true ↔ first = second := by
  rw [sameBytes_iff, Text.utf8_inj]

/-- An event is accepted exactly if it carries its own signature and the secret is not empty. -/
theorem verify_eq_ok_iff {secret : String} {event : Json} :
    verify secret event = .ok () ↔ secret ≠ "" ∧ carried? event = some (sign secret event) := by
  rw [verify]
  by_cases hs : secret = ""
  · simp [hs]
  · have he : secret.isEmpty = false := by simpa using hs
    rw [he]
    cases carried? event with
    | none => simp
    | some given =>
      by_cases hg : given = sign secret event <;> simp [hs, hg, sameBytes_utf8_iff]

/-- A signed event is accepted under the secret that it was signed with. -/
theorem verify_attach {secret : String} (hs : secret ≠ "") {event signed : Json}
    (h : attach secret event = .ok signed) : verify secret signed = .ok () := by
  cases event with
  | object fields =>
    cases h
    exact verify_eq_ok_iff.mpr ⟨hs, by rw [carried?_insert, sign_insert]⟩
  | _ => cases h

end EventRelay.Event

import EventRelay.Proofs.Event.Signature
import EventRelay.Proofs.Json.Reordering

/-!
# Signatures and the order of keys

A signature is made of the canonical form of an event, so it does not depend on the order in which
a producer happens to write the keys of an object, at any depth. Neither does acceptance, since the
signature field is found wherever it stands.
-/

namespace EventRelay.Event

private theorem carried?_canonical {event : Json} (h : event.WellFormed) :
    carried? event.canonical = carried? event := by
  have hget (v : Json) : v.get? signatureKey = v.child? (.key signatureKey) := by
    cases v <;> rfl
  have hstring (v : Json) : v.canonical.asString? = v.asString? := by
    cases v <;> rfl
  rw [carried?, carried?, hget, hget, Json.child?_canonical h]
  cases event.child? (.key signatureKey) with
  | none => rfl
  | some v => exact hstring v

/-- The order of keys is not signed. -/
theorem sign_of_reordered {event other : Json} (h : event.Reordered other)
    (hevent : event.WellFormed) (secret : String) : sign secret other = sign secret event := by
  rw [sign, sign, signingText, signingText, h.canonical_eq hevent]

/-- An event is accepted or refused whatever the order of its keys. -/
theorem verify_of_reordered {event other : Json} (h : event.Reordered other)
    (hevent : event.WellFormed) (secret : String) :
    verify secret other = verify secret event := by
  have hcarried : carried? other = carried? event := by
    rw [← carried?_canonical hevent, ← carried?_canonical (h.wellFormed hevent),
      h.canonical_eq hevent]
  rw [verify, verify, hcarried, sign_of_reordered h hevent]

/-- Let no object in an event have a key twice. If the entries of its objects are put in another
order, at any depth, then its signature stays the same under every secret and so does the answer
whether it is accepted. The canonical form is canonical itself and has the keys of every object in
increasing order. It differs from the event in the order of keys only: along every path there is
the canonical form of what was there, or nothing if there was nothing. -/
theorem order_of_keys_is_not_signed {event : Json} (h : event.WellFormed) :
    (∀ other, event.Reordered other → ∀ secret,
      sign secret other = sign secret event ∧ verify secret other = verify secret event) ∧
    event.canonical.canonical = event.canonical ∧
    event.canonical.Sorted ∧
    event.Reordered event.canonical ∧
    ∀ path, event.canonical.at? path = (event.at? path).map Json.canonical := by
  refine ⟨?_, ?_, Json.sorted_canonical event, Json.reordered_canonical event h, ?_⟩
  · intro other hother secret
    exact ⟨sign_of_reordered hother h secret, verify_of_reordered hother h secret⟩
  · exact Json.canonical_of_sorted _ (Json.sorted_canonical event)
  · exact Json.at?_canonical h

/-- An event with a signature and an object in an array. -/
def scatteredEvent : Json :=
  .object
    [("type", .string "null"), ("mediawiki_signature", .string "00"),
      ("params", .array [.object [("y", .ofInt 2), ("x", .ofInt 3)], .null])]

/-- The same event with the entries of both objects in another order. -/
def gatheredEvent : Json :=
  .object
    [("mediawiki_signature", .string "00"),
      ("params", .array [.object [("x", .ofInt 3), ("y", .ofInt 2)], .null]),
      ("type", .string "null")]

/-- The two have the same signature and are both refused, and at the end of a path through the
array there is the same number in the canonical form. -/
theorem order_of_keys_is_not_signed_scattered :
    scatteredEvent.WellFormed ∧ scatteredEvent.Reordered gatheredEvent ∧
    sign "secret" gatheredEvent = sign "secret" scatteredEvent ∧
    verify "secret" gatheredEvent = verify "secret" scatteredEvent ∧
    scatteredEvent.canonical.at? [.key "params", .index 0, .key "x"] = some (.ofInt 3) := by
  have hevent : scatteredEvent.WellFormed := by
    simp [scatteredEvent, Json.ofInt, Json.WellFormed, Json.WellFormedFields, Json.WellFormedItems,
      Fields.keys]
  have hinner : Json.Reordered (.object [("y", .ofInt 2), ("x", .ofInt 3)])
      (.object [("x", .ofInt 3), ("y", .ofInt 2)]) :=
    .object (.cons (.refl _) (.cons (.refl _) .nil)) (List.Perm.swap _ _ _)
  have harray : Json.Reordered (.array [.object [("y", .ofInt 2), ("x", .ofInt 3)], .null])
      (.array [.object [("x", .ofInt 3), ("y", .ofInt 2)], .null]) :=
    .array (.cons hinner (.cons (.refl _) .nil))
  have hother : scatteredEvent.Reordered gatheredEvent := by
    refine .object (.cons (.refl _) (.cons (.refl _) (.cons harray .nil))) ?_
    exact (List.perm_append_singleton _ [_, _]).symm
  obtain ⟨hsame, -, -, -, hpaths⟩ := order_of_keys_is_not_signed hevent
  obtain ⟨hsign, hverify⟩ := hsame _ hother "secret"
  exact ⟨hevent, hother, hsign, hverify, (hpaths _).trans rfl⟩

end EventRelay.Event

import EventRelay.Event.Basic
import EventRelay.Proofs.Json.Canonical

/-!
# What a built event holds

The event of a draft holds the envelope and the other entries of the draft, under sorted keys. An
entry of a draft that has the key of the envelope does not come through. So whatever else a draft
holds, its event names the schema and the stream of the draft, and the request that it is made for.
-/

namespace EventRelay

namespace Event

/-- What an event says about itself under a key. -/
def about? (event : Json) (key : String) : Option Json := (event.get? "meta").bind (·.get? key)

/-- An event of a schema that travels on a stream and was made for a request. -/
structure IsMadeFor (ctx : RequestContext) (schema stream : String) (event : Json) : Prop where
  schema_eq : event.get? "$schema" = some (.string schema)
  stream_eq : about? event "stream" = some (.string stream)
  domain_eq : about? event "domain" = some (.string ctx.domain)
  requestId_eq : about? event "request_id" = some (.string ctx.requestId)

end Event

namespace EventDraft

/-- What a built event says under each key. -/
theorem get?_build (draft : EventDraft) (ctx : RequestContext) (id key : String) :
    (draft.build ctx id).get? key =
      if key = schemaKey then some (.string draft.schema)
      else if key = metaKey then some (.object (draft.metaFields ctx id))
      else Fields.get? draft.fields.reverse key := by
  have hne : metaKey ≠ schemaKey := by decide
  have hr : (draft.fields.filter fun entry ↦ !isEnvelopeKey entry.1).reverse =
      draft.fields.reverse.filter fun entry ↦ !isEnvelopeKey entry.1 := by
    rw [List.filter_reverse]
  rw [build, Json.get?, Fields.get?_insertAll, hr,
    Fields.get?_filter draft.fields.reverse fun key ↦ !isEnvelopeKey key]
  by_cases hs : key = schemaKey
  · subst hs
    simp [isEnvelopeKey, hne.symm]
  · by_cases hm : key = metaKey
    · subst hm
      simp [isEnvelopeKey, hne]
    · simp [isEnvelopeKey, hs, hm]

/-- Outside its envelope a built event says what its draft says. -/
theorem get?_build_of_isSorted {draft : EventDraft} (h : Fields.IsSorted draft.fields)
    (ctx : RequestContext) (id : String) {key : String} (hs : key ≠ schemaKey)
    (hm : key ≠ metaKey) : (draft.build ctx id).get? key = Fields.get? draft.fields key := by
  rw [get?_build, if_neg hs, if_neg hm, Fields.get?_reverse (Fields.nodup_keys h)]

/-- A built event has the keys of its envelope and those of its draft. -/
theorem mem_keys_build {draft : EventDraft} {ctx : RequestContext} {id : String} {fields : Fields}
    (h : draft.build ctx id = .object fields) {key : String} :
    key ∈ Fields.keys fields ↔
      key = schemaKey ∨ key = metaKey ∨ key ∈ Fields.keys draft.fields := by
  have hget : Fields.get? fields key = _ := h ▸ get?_build draft ctx id key
  have hreverse : key ∈ Fields.keys draft.fields.reverse ↔ key ∈ Fields.keys draft.fields := by
    rw [Fields.keys, List.map_reverse, List.mem_reverse, Fields.keys]
  rw [← Fields.isSome_get?_iff, hget]
  by_cases hs : key = schemaKey
  · simp [hs]
  · by_cases hm : key = metaKey
    · rw [if_neg hs, if_pos hm]
      simp [hm]
    · rw [if_neg hs, if_neg hm, Fields.isSome_get?_iff, hreverse]
      simp [hs, hm]

/-- What a built event says about itself, the time apart. -/
theorem about?_build (draft : EventDraft) (ctx : RequestContext) (id : String) :
    Event.about? (draft.build ctx id) "uri" = some (.string draft.uri) ∧
    Event.about? (draft.build ctx id) "id" = some (.string id) ∧
    Event.about? (draft.build ctx id) "domain" = some (.string ctx.domain) ∧
    Event.about? (draft.build ctx id) "stream" = some (.string draft.stream) ∧
    Event.about? (draft.build ctx id) "request_id" = some (.string ctx.requestId) := by
  have habout (key : String) : Event.about? (draft.build ctx id) key =
      Fields.get? (draft.metaFields ctx id) key := by
    rw [Event.about?, get?_build, if_neg (by decide), if_pos (by decide)]
    rfl
  simp [habout, metaFields]

/-- The event of a draft is made for its request, whatever else the draft holds. -/
theorem isMadeFor_build (draft : EventDraft) (ctx : RequestContext) (id : String)
    {schema stream : String} (hschema : draft.schema = schema) (hstream : draft.stream = stream) :
    Event.IsMadeFor ctx schema stream (draft.build ctx id) := by
  subst hschema hstream
  obtain ⟨-, -, hdomain, hstream, hrequest⟩ := about?_build draft ctx id
  refine ⟨?_, hstream, hdomain, hrequest⟩
  rw [get?_build, if_pos (by decide)]

/-- An entry of a built event belongs to the envelope or comes from the draft. -/
theorem mem_build {draft : EventDraft} {ctx : RequestContext} {id : String} {fields : Fields}
    (h : draft.build ctx id = .object fields) {entry : String × Json} (he : entry ∈ fields) :
    entry = (schemaKey, .string draft.schema) ∨
      entry = (metaKey, .object (draft.metaFields ctx id)) ∨ entry ∈ draft.fields := by
  cases h
  rcases Fields.mem_insertAll he with he | he
  · rcases Fields.mem_insertAll he with he | he
    · cases he
    · rcases List.mem_cons.mp he with he | he
      · exact .inl he
      · exact .inr (.inl (List.mem_singleton.mp he))
  · exact .inr (.inr (List.mem_filter.mp he).1)

/-- A built event lists its keys in order. -/
theorem isSorted_build {draft : EventDraft} {ctx : RequestContext} {id : String} {fields : Fields}
    (h : draft.build ctx id = .object fields) : Fields.IsSorted fields := by
  cases h
  exact Fields.isSorted_insertAll (Fields.isSorted_ofEntries _) _

/-- Everything that an event says about itself is a string. -/
theorem exists_string_of_mem_metaFields {draft : EventDraft} {ctx : RequestContext} {id : String}
    {entry : String × Json} (h : entry ∈ draft.metaFields ctx id) :
    ∃ text, entry.2 = .string text := by
  rcases Fields.mem_insertAll h with h | h
  · cases h
  · rcases List.mem_append.mp h with h | h
    · obtain ⟨t, -, rfl⟩ := Option.map_eq_some_iff.mp (Option.mem_toList.mp h)
      exact ⟨_, rfl⟩
    · simp only [List.mem_cons, List.not_mem_nil, or_false] at h
      rcases h with rfl | rfl | rfl | rfl | rfl <;> exact ⟨_, rfl⟩

end EventDraft
end EventRelay

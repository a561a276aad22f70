import EventRelay.Proofs.Delivery.Answers
import EventRelay.Proofs.Json.Unambiguous

/-!
# The text of an array in place of its events

Events may be handed over as the text of their array. A text that fits the limit goes out as it is,
without being read; a larger one is read and cut. Either way the same bodies go out as if the
events themselves had been handed over: events whose array fits are cut into one part, and the text
of an array is that of no events exactly if there are none in it.
-/

namespace EventRelay

/-! ### White space around and inside the text -/

namespace Text

private theorem isBlank_of_startsNumber {c : Char} (h : c = '-' ∨ c.isDigit) :
    isBlank c = false := by
  rcases h with rfl | h
  · decide
  · have hrange : 48 ≤ c.toNat ∧ c.toNat ≤ 57 := by
      simp only [Char.isDigit, Bool.and_eq_true, decide_eq_true_eq] at h
      exact h
    simp only [isBlank, Bool.or_eq_false_iff, Bool.and_eq_false_iff, decide_eq_false_iff_not,
      beq_eq_false_iff_ne]
    omega

/-- What stands between brackets is not trimmed. -/
private theorem trim_brackets (inner : String) :
    trim ("[" ++ inner ++ "]") = "[" ++ inner ++ "]" := by
  have hopen : isBlank '[' = false := by decide
  have hclose : isBlank ']' = false := by decide
  apply String.toList_inj.mp
  simp [trim, trimChars, trimStart, trimEnd, hopen, hclose]

end Text

/-- Brackets are the text of an empty array if there is only white space between them. -/
theorem isEmptyArrayText_brackets (inner : String) :
    isEmptyArrayText ("[" ++ inner ++ "]").toList = inner.toList.all Text.isBlank := by
  simp [isEmptyArrayText]

namespace Json

/-- What is written of a value does not start with white space. -/
private theorem exists_cons_render_of_notBlank (v : Json) :
    ∃ c t, render v = c :: t ∧ Text.isBlank c = false := by
  cases v with
  | null => exact ⟨_, _, rfl, by decide⟩
  | bool b => cases b <;> exact ⟨_, _, rfl, by decide⟩
  | number n =>
    obtain ⟨c, t, hn, hc⟩ := exists_cons_renderNumber n
    exact ⟨c, t, hn, Text.isBlank_of_startsNumber hc⟩
  | string s => exact ⟨_, _, rfl, by decide⟩
  | array items => exact ⟨_, _, rfl, by decide⟩
  | object fields => exact ⟨_, _, rfl, by decide⟩

private theorem trim_compact_array (items : List Json) :
    Text.trim (array items).compact = (array items).compact := by
  rw [compact_array, Text.trim_brackets]

/-- The text of an array looks empty exactly if the array is. -/
private theorem isEmptyArrayText_compact_array (items : List Json) :
    isEmptyArrayText (array items).compact.toList = items.isEmpty := by
  rw [compact_array, isEmptyArrayText_brackets]
  cases items with
  | nil => rfl
  | cons item rest =>
    obtain ⟨c, t, hr, hc⟩ := exists_cons_render_of_notBlank item
    have htext : item.compact.toList = c :: t := by rw [toList_compact, hr]
    cases rest with
    | nil => simp [htext, hc]
    | cons next rest => simp [String.intercalate_cons_cons, htext, hc]

end Json

/-! ### Events that fit -/

namespace SubBatch

/-- As long as everything fits, no slice is closed. -/
private theorem slicesFrom_of_fits {limit : Nat} {first events : List Json}
    (hne : first ++ events ≠ []) (h : (Json.array (first ++ events)).byteSize ≤ limit) :
    slicesFrom limit first events = [first ++ events] := by
  induction events generalizing first with
  | nil =>
    rw [List.append_nil] at hne ⊢
    simp [slicesFrom, hne]
  | cons event rest ih =>
    have hsub : (first ++ [event]).Sublist (first ++ event :: rest) :=
      (List.Sublist.refl first).append (by simp)
    have hsize : ¬ limit < (Json.array (first ++ [event])).byteSize :=
      Nat.not_lt.mpr (Nat.le_trans (Json.byteSize_array_le hsub) h)
    have hassoc : first ++ event :: rest = (first ++ [event]) ++ rest := by simp
    rw [hassoc] at hne h ⊢
    rw [slicesFrom, ← ih hne h]
    simp [hsize]

/-- Events whose array fits go out together. -/
theorem cut_of_fits {limit : Nat} {events : List Json} (hne : events ≠ [])
    (h : (Json.array events).byteSize ≤ limit) :
    cut limit events = [⟨events, (Json.array events).compact⟩] := by
  rw [cut_eq, @slicesFrom_of_fits limit [] events hne h]
  rfl

end SubBatch

/-! ### The bodies -/

/-- The text of an array gives the bodies that its events give. It has to be read back only if it
does not fit. -/
theorem bodiesOfText?_compact_array {limit : Nat} {events : List Json}
    (h : limit < (Json.array events).byteSize →
      Json.parse? (Json.array events).compact = some (.array events)) :
    bodiesOfText? limit (Json.array events).compact = bodiesOfEvents? limit events := by
  have hhead : (Json.array events).compact.toList.head? = some '[' := by
    rw [Json.toList_compact]
    rfl
  have hnonempty : (Json.array events).compact.isEmpty = false := by
    rw [String.isEmpty_eq_false_iff]
    intro he
    rw [he] at hhead
    cases hhead
  unfold bodiesOfText?
  simp only [Json.trim_compact_array, hnonempty, Json.isEmptyArrayText_compact_array, hhead,
    Bool.false_or, and_true]
  cases hevents : events.isEmpty with
  | true => simp [bodiesOfEvents?, hevents]
  | false =>
    have hne : events ≠ [] := List.isEmpty_eq_false_iff.mp hevents
    by_cases hfits : (Json.array events).byteSize ≤ limit
    · have hsize : (Json.array events).compact.utf8ByteSize ≤ limit := hfits
      simp [bodiesOfEvents?, hevents, hsize, SubBatch.cut_of_fits hne hfits]
    · have hsize : ¬ (Json.array events).compact.utf8ByteSize ≤ limit := hfits
      simp [hsize, h (Nat.lt_of_not_le hfits)]

/-- What is sent of a payload is decided by its bodies. -/
theorem Bus.send_congr {σ : Type} [Transport σ] (bus : Bus) {first second : Payload}
    {options : SendOptions}
    (h : first.bodies? (options.maxBatchBytes.getD bus.service.maxBatchBytes) =
      second.bodies? (options.maxBatchBytes.getD bus.service.maxBatchBytes))
    (types : EventTypes) (wire : Wire σ) :
    bus.send first types options wire = bus.send second types options wire := by
  unfold send
  rw [h]

/-- The text of the array of some events is sent as the events themselves are, if it is read back
where it does not fit the limit: the same requests are made, and whatever the transport answers the
outcome and the records are the same. Where the category is enabled, these are the requests for the
parts that the events are cut into; a text that fits is the body of the only request, and for the
text of an empty array there is none. -/
theorem Bus.send_text_eq_send_events {σ : Type} [Transport σ] (bus : Bus) (events : List Json)
    (types : EventTypes) (options : SendOptions) (wire : Wire σ)
    (hread : options.maxBatchBytes.getD bus.service.maxBatchBytes < (Json.array events).byteSize →
      Json.parse? (Json.array events).compact = some (.array events)) :
    let limit := options.maxBatchBytes.getD bus.service.maxBatchBytes
    let text := (Json.array events).compact
    let sent := bus.send (.text text) types options wire
    sent = bus.send (.events events) types options wire ∧
    (bus.enabledTypes.contains types → events ≠ [] →
      sent.2.calls = wire.calls ++
        [(SubBatch.cut limit events).map fun part ↦ bus.request options part.body]) ∧
    (bus.enabledTypes.contains types → events ≠ [] → text.utf8ByteSize ≤ limit →
      sent.2.calls = wire.calls ++ [[bus.request options text]]) ∧
    (bus.enabledTypes.contains types → events = [] →
      sent.1 = .failed [emptyBatchMessage] ∧ sent.2.calls = wire.calls) := by
  intro limit text sent
  have hbodies : (Payload.text text).bodies? limit = (Payload.events events).bodies? limit := by
    rw [Payload.bodies?, Payload.bodies?]
    exact bodiesOfText?_compact_array hread
  have hsame : sent = bus.send (.events events) types options wire :=
    bus.send_congr hbodies types wire
  have hcalls (hc : bus.enabledTypes.contains types) (hne : events ≠ []) :
      sent.2.calls = wire.calls ++
        [(SubBatch.cut limit events).map fun part ↦ bus.request options part.body] := by
    rw [hsame, Bus.send_of_contains hc hne]
    rfl
  refine ⟨hsame, hcalls, ?_, ?_⟩
  · intro hc hne hfits
    rw [hcalls hc hne, SubBatch.cut_of_fits hne hfits]
    rfl
  · intro hc hnil
    rw [hsame, hnil]
    simp [Bus.send, hc, Payload.bodies?, bodiesOfEvents?, Wire.note]

/-- An object and an empty array. -/
def pairOfEvents : List Json := [.object [("n", .ofNat 1)], .array []]

/-- The text of the two is read back. -/
theorem parse?_pairOfEvents :
    Json.parse? (Json.array pairOfEvents).compact = some (.array pairOfEvents) := by
  have hsorted : (Json.array pairOfEvents).Sorted := by
    simp [pairOfEvents, Json.ofNat, Json.Sorted, Json.SortedFields, Json.SortedItems, Fields.keys]
  have hnumbers : (Json.array pairOfEvents).NumbersReadBack :=
    ⟨⟨Json.Parser.number_natural (by decide), trivial⟩, trivial, trivial⟩
  rw [Json.parse?_compact (by decide) hnumbers, Json.canonical_of_sorted _ hsorted]

/-- The text of the two has twelve bytes. Under that limit it goes out unread, and under one byte
less it is read and goes out in two parts. -/
theorem Bus.send_text_eq_send_events_boundary :
    let enough : SendOptions := { maxBatchBytes := some 12 }
    let short : SendOptions := { maxBatchBytes := some 11 }
    let wire : Wire Script := { state := { outcomes := [.unreachable "down"] } }
    (Json.array pairOfEvents).byteSize = 12 ∧
    Json.parse? (Json.array pairOfEvents).compact = some (.array pairOfEvents) ∧
    (narrowBus.send (.text (Json.array pairOfEvents).compact) .jobs enough wire).2.calls =
      [[narrowBus.request enough "[\x7b\"n\":1\x7d,[]]"]] ∧
    (narrowBus.send (.text (Json.array pairOfEvents).compact) .jobs short wire).2.calls =
      [[narrowBus.request short "[\x7b\"n\":1\x7d]", narrowBus.request short "[[]]"]] ∧
    narrowBus.send (.text (Json.array pairOfEvents).compact) .jobs short wire =
      narrowBus.send (.events pairOfEvents) .jobs short wire := by
  intro enough short wire
  have hc : narrowBus.enabledTypes.contains .jobs := by decide
  have hne : pairOfEvents ≠ [] := List.cons_ne_nil _ _
  have hsize : (Json.array pairOfEvents).byteSize = 12 := by decide
  have htext : (Json.array pairOfEvents).compact = "[\x7b\"n\":1\x7d,[]]" := by decide
  have hcut : (SubBatch.cut 11 pairOfEvents).map (·.body) = ["[\x7b\"n\":1\x7d]", "[[]]"] := by
    decide
  obtain ⟨-, -, hone, -⟩ := Bus.send_text_eq_send_events narrowBus pairOfEvents .jobs enough wire
    fun _ ↦ parse?_pairOfEvents
  obtain ⟨hsame, htwo, -⟩ := Bus.send_text_eq_send_events narrowBus pairOfEvents .jobs short wire
    fun _ ↦ parse?_pairOfEvents
  have hrequests := congrArg (List.map (narrowBus.request short)) hcut
  rw [List.map_map] at hrequests
  refine ⟨hsize, parse?_pairOfEvents, ?_, ?_, hsame⟩
  · rw [← htext]
    exact hone hc hne (Nat.le_of_eq hsize)
  · refine (htwo hc hne).trans ?_
    rw [List.nil_append]
    exact congrArg (fun requests ↦ [requests]) hrequests

end EventRelay

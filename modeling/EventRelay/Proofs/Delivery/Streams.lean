import EventRelay.Proofs.Delivery.ArrayText
import EventRelay.Proofs.Delivery.Grouping
import EventRelay.Proofs.Event.Draft
import EventRelay.Proofs.Text.Utf8

/-!
# The streams in the log

The record about a request that was not taken names the streams of its events. By then there is
only the body of the request, so the events are read from it again. Where that gives back the
events that the body was made of, the record names their streams, each once, in order of first
appearance.
-/

namespace EventRelay

/-! ### Each once, in order of first appearance -/

/-- The members of a list, each once, in order of first appearance. -/
structure ListsOnce {α : Type} [BEq α] (members list : List α) : Prop where
  nodup : members.Nodup
  mem_iff : ∀ a, a ∈ members ↔ a ∈ list
  ordered : members.Pairwise fun a b ↦ list.idxOf a < list.idxOf b

/-- Without its repetitions a list has its members in order of first appearance. -/
theorem listsOnce_eraseDups {α : Type} [BEq α] [LawfulBEq α] (l : List α) :
    ListsOnce l.eraseDups l := by
  refine ⟨nodup_eraseDups l, fun a ↦ List.mem_eraseDups, ?_⟩
  induction l using List.reverseRecOn with
  | nil => exact List.Pairwise.nil
  | append_singleton l a ih =>
    have hkept : l.eraseDups.Pairwise fun x y ↦ (l ++ [a]).idxOf x < (l ++ [a]).idxOf y := by
      refine ih.imp_of_mem fun hx hy hlt ↦ ?_
      rwa [List.idxOf_append_of_mem (List.mem_eraseDups.mp hx),
        List.idxOf_append_of_mem (List.mem_eraseDups.mp hy)]
    rw [eraseDups_concat]
    split
    · exact hkept
    · next hnew =>
      refine List.pairwise_append.mpr ⟨hkept, List.pairwise_singleton _ _, ?_⟩
      intro x hx y hy
      rw [List.mem_singleton.mp hy, List.idxOf_append_of_mem (List.mem_eraseDups.mp hx),
        List.idxOf_append_of_notMem hnew]
      exact Nat.lt_of_lt_of_le (List.idxOf_lt_length_of_mem (List.mem_eraseDups.mp hx))
        (Nat.le_add_right _ _)

/-- There is only one list of the members of a list. -/
theorem ListsOnce.unique {α : Type} [BEq α] {first second list : List α}
    (hf : ListsOnce first list) (hs : ListsOnce second list) : first = second := by
  have hperm : first.Perm second := by
    rw [List.perm_ext_iff_of_nodup hf.nodup hs.nodup]
    exact fun a ↦ (hf.mem_iff a).trans (hs.mem_iff a).symm
  refine List.Perm.eq_of_pairwise ?_ hf.ordered hs.ordered hperm
  intro a b _ _ hab hba
  exact absurd hba (Nat.lt_asymm hab)

/-! ### The streams of events -/

namespace Event

/-- The stream that an event is reported on: the one that it names, and `unknown` for what is no
object, says nothing about its stream, or says something other than a text that is not empty. -/
inductive IsReportedOn (event : Json) : String → Prop
  | named {stream : String} : about? event "stream" = some (.string stream) → stream ≠ "" →
      IsReportedOn event stream
  | unknown : (∀ stream, about? event "stream" = some (.string stream) → stream = "") →
      IsReportedOn event "unknown"

private theorem streamOf_eq (event : Json) :
    streamOf event =
      (((about? event "stream").bind Json.asString?).filter (!·.isEmpty)).getD unknownStream := by
  rw [about?, Option.bind_assoc]
  rfl

private theorem isReportedOn_streamOf (event : Json) : IsReportedOn event (streamOf event) := by
  rw [streamOf_eq]
  cases hstream : about? event "stream" with
  | none => exact .unknown (by simp [hstream])
  | some value =>
    cases value with
    | string stream =>
      by_cases hempty : stream = ""
      · subst hempty
        exact .unknown (by simp [hstream])
      · have hkept : (some stream).filter (!·.isEmpty) = some stream := by
          simp [Option.filter, hempty]
        rw [Option.bind_some, Json.asString?, hkept]
        exact .named hstream hempty
    | _ => exact .unknown (by simp [hstream])

/-- An event is reported on one stream. -/
theorem IsReportedOn.unique {event : Json} {first second : String}
    (hf : IsReportedOn event first) (hs : IsReportedOn event second) : first = second := by
  cases hf with
  | named hfirst hne =>
    cases hs with
    | named hsecond _ => simpa using hfirst.symm.trans hsecond
    | unknown hnone => exact absurd (hnone _ hfirst) hne
  | unknown hnone =>
    cases hs with
    | named hsecond hne => exact absurd (hnone _ hsecond) hne
    | unknown _ => rfl

/-- A text that names the streams of events, each once, in order of first appearance and with
commas between them. -/
def NamesStreams (events : List Json) (text : String) : Prop :=
  ∃ streams names, List.Forall₂ IsReportedOn events streams ∧ ListsOnce names streams ∧
    text = ",".intercalate names

/-- There is only one such text. -/
theorem NamesStreams.unique {events : List Json} {first second : String}
    (hf : NamesStreams events first) (hs : NamesStreams events second) : first = second := by
  obtain ⟨streams, names, hstreams, hnames, rfl⟩ := hf
  obtain ⟨streams', names', hstreams', hnames', rfl⟩ := hs
  have hright : Relator.RightUnique IsReportedOn := fun _ _ _ ↦ IsReportedOn.unique
  have hsame : streams = streams' := List.right_unique_forall₂' hright hstreams hstreams'
  subst hsame
  rw [hnames.unique hnames']

end Event

/-- A body that reads as an array names the streams of its items. -/
theorem namesStreams_streamsInBody {body : String} {events : List Json}
    (h : Json.parse? body = some (.array events)) :
    Event.NamesStreams events (streamsInBody body) := by
  refine ⟨events.map Event.streamOf, (events.map Event.streamOf).eraseDups, ?_,
    listsOnce_eraseDups _, ?_⟩
  · exact List.forall₂_map_right_iff.mpr
      (List.forall₂_same.mpr fun event _ ↦ Event.isReportedOn_streamOf event)
  · rw [streamsInBody, h]

namespace Bus

/-- The record about a part of a batch and an answer that does not take it: it holds the body of the
part, and where this reads as the events of the part, it names their streams. -/
structure IsRecordOf (part : SubBatch) (answer : HttpOutcome) (record : LogRecord) : Prop where
  level_eq : record.level = .error
  code_eq : Fields.get? record.fields "code" = some (.ofNat answer.code)
  body_eq : Fields.get? record.fields "body" = some (.string part.body)
  streams : ∃ text, Fields.get? record.fields "streams" = some (.string text) ∧
    (Json.parse? part.body = some (.array part.events) → Event.NamesStreams part.events text)

private theorem isRecordOf_refusalOf (bus : Bus) (options : SendOptions) (part : SubBatch)
    (answer : HttpOutcome) :
    IsRecordOf part answer (bus.refusalOf (bus.request options part.body) answer).record := by
  have hbody : (bus.request options part.body).bodyText = part.body := by
    rw [HttpRequest.bodyText, request, Text.ofUtf8?_utf8, Option.getD_some]
  refine ⟨rfl, rfl, ?_, streamsInBody part.body, ?_, namesStreams_streamsInBody⟩ <;>
    rw [refusalOf, hbody] <;> rfl

/-- The requests that were not taken are those for the parts that were not taken. -/
private theorem refused_map {α : Type} (write : α → HttpRequest) (parts : List α)
    (answers : List HttpOutcome) :
    refused (parts.map write) answers =
      ((parts.zip answers).filter (·.2.code ≠ 201)).map fun pair ↦ (write pair.1, pair.2) := by
  rw [refused, List.zip_map_left, List.filter_map]
  rfl

/-- A batch of a category that the bus does not take leaves nothing in the log. Of any other batch
with events, whatever its limit and whatever the transport answers, the log gets one record for
each part with an answer that does not take it, in order, and behind these at most one that says
that answers are missing. The record about a part whose body reads as its events names the streams
of just these events, each once, in order of first appearance. -/
theorem log_names_the_streams {σ : Type} [Transport σ] (bus : Bus) (events : List Json)
    (hne : events ≠ []) (types : EventTypes) (options : SendOptions) (wire : Wire σ) :
    let limit := options.maxBatchBytes.getD bus.service.maxBatchBytes
    let parts := SubBatch.cut limit events
    let requests := parts.map fun part ↦ bus.request options part.body
    let answers := (Transport.answer wire.state requests).1
    let sent := bus.send (.events events) types options wire
    (bus.enabledTypes.contains types = false → sent.2.log = wire.log) ∧
    (bus.enabledTypes.contains types = true → ∃ records,
      sent.2.log = wire.log ++ records ++
        (if answers.length < parts.length then
          [.shortfall bus.service.name answers.length parts.length] else []) ∧
      List.Forall₂ (fun pair record ↦ IsRecordOf pair.1 pair.2 record)
        ((parts.zip answers).filter (·.2.code ≠ 201)) records) := by
  intro limit parts requests answers sent
  refine ⟨fun h ↦ ?_, fun h ↦ ?_⟩
  · simp [sent, send, h]
  · have hsent : sent = _ := send_of_contains h hne options wire
    have hlog : sent.2.log = wire.log ++ (bus.faults requests answers).map (·.record) := by
      rw [hsent]
      rfl
    have hshort : (bus.shortfall? answers.length requests.length).toList.map (·.record) =
        if answers.length < parts.length then
          [.shortfall bus.service.name answers.length parts.length] else [] := by
      rw [List.length_map, shortfall?]
      split <;> rfl
    refine ⟨((parts.zip answers).filter (·.2.code ≠ 201)).map fun pair ↦
      (bus.refusalOf (bus.request options pair.1.body) pair.2).record, ?_, ?_⟩
    · rw [hlog, faults_eq, List.map_append, hshort, refused_map, List.map_map, List.map_map,
        List.append_assoc]
      rfl
    · exact List.forall₂_map_right_iff.mpr
        (List.forall₂_same.mpr fun pair _ ↦ bus.isRecordOf_refusalOf options pair.1 pair.2)

end Bus

/-- Events that name two streams, one of them twice, and events that name none. -/
def strayEvents : List Json :=
  [.object [("meta", .object [("stream", .string "b")])], .null,
    .object [("meta", .object [("stream", .string "a")])],
    .object [("meta", .object [("stream", .string "")])],
    .object [("meta", .object [("stream", .string "b")])],
    .object [("meta", .object [("stream", .bool true)])]]

private theorem parse?_strayEvents :
    Json.parse? (Json.array strayEvents).compact = some (.array strayEvents) := by
  have hsorted : (Json.array strayEvents).Sorted := by
    simp [strayEvents, Json.Sorted, Json.SortedFields, Json.SortedItems, Fields.keys]
  have hnumbers : (Json.array strayEvents).NumbersReadBack := by
    simp [strayEvents, Json.NumbersReadBack, Json.FieldsReadBack, Json.ItemsReadBack]
  rw [Json.parse?_compact (by decide) hnumbers, Json.canonical_of_sorted _ hsorted]

private theorem namesStreams_strayEvents : Event.NamesStreams strayEvents "b,unknown,a" := by
  refine ⟨["b", "unknown", "a", "unknown", "b", "unknown"], ["b", "unknown", "a"], ?_, ?_, rfl⟩
  · have hb : Event.IsReportedOn (.object [("meta", .object [("stream", .string "b")])]) "b" :=
      .named rfl (by decide)
    have ha : Event.IsReportedOn (.object [("meta", .object [("stream", .string "a")])]) "a" :=
      .named rfl (by decide)
    have hnull : Event.IsReportedOn .null "unknown" := .unknown fun _ h ↦ nomatch h
    have hempty : Event.IsReportedOn (.object [("meta", .object [("stream", .string "")])])
        "unknown" := .unknown fun _ h ↦ by cases h; rfl
    have hbool : Event.IsReportedOn (.object [("meta", .object [("stream", .bool true)])])
        "unknown" := .unknown fun _ h ↦ nomatch h
    exact .cons hb (.cons hnull (.cons ha (.cons hempty (.cons hb (.cons hbool .nil)))))
  · refine ⟨by decide, fun name ↦ ?_, by decide⟩
    constructor
    · intro h
      exact List.subset_append_left ["b", "unknown", "a"] _ h
    · intro h
      have hall : ∀ name ∈ ["b", "unknown", "a", "unknown", "b", "unknown"],
          name ∈ ["b", "unknown", "a"] := by decide
      exact hall name h

/-- They go out together and are not taken: the only record names both streams once, and between
them the events without one. -/
theorem Bus.log_names_the_streams_stray :
    let options : SendOptions := { maxBatchBytes := some 200 }
    let wire : Wire Script := { state := { outcomes := [.unreachable "down"] } }
    strayEvents ≠ [] ∧
    SubBatch.cut 200 strayEvents = [⟨strayEvents, (Json.array strayEvents).compact⟩] ∧
    ∃ record, (narrowBus.send (.events strayEvents) .jobs options wire).2.log = [record] ∧
      record.level = .error ∧
      Fields.get? record.fields "streams" = some (.string "b,unknown,a") := by
  intro options wire
  have hne : strayEvents ≠ [] := List.cons_ne_nil _ _
  have hcut : SubBatch.cut 200 strayEvents =
      [⟨strayEvents, (Json.array strayEvents).compact⟩] :=
    SubBatch.cut_of_fits hne (by decide +kernel)
  obtain ⟨-, hsent⟩ := log_names_the_streams narrowBus strayEvents hne .jobs options wire
  obtain ⟨records, hlog, hrecords⟩ := hsent rfl
  have hlimit : options.maxBatchBytes.getD narrowBus.service.maxBatchBytes = 200 := rfl
  rw [hlimit, hcut] at hlog hrecords
  have hone : List.Forall₂ (fun pair record ↦ IsRecordOf pair.1 pair.2 record)
      [(⟨strayEvents, (Json.array strayEvents).compact⟩, HttpOutcome.unreachable "down")]
      records := hrecords
  cases hone with
  | cons hrecord hnil =>
    cases hnil
    obtain ⟨text, htext, hnames⟩ := hrecord.streams
    have hsame : text = "b,unknown,a" :=
      (hnames parse?_strayEvents).unique namesStreams_strayEvents
    exact ⟨hne, hcut, _, hlog, hrecord.level_eq, hsame ▸ htext⟩

end EventRelay

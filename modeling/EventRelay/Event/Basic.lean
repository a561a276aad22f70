import EventRelay.Error
import EventRelay.Json.Basic
import EventRelay.Net.IpAddress
import EventRelay.Time.Rfc3339

/-!
# Events

An event is a JSON object with an envelope: the address of its schema, and under `meta` where it
comes from and on which stream it travels. A draft collects the other entries step by step; no
step can change the envelope.
-/

namespace EventRelay

/-- What the events of one request have in common. -/
structure RequestContext where
  requestId : String
  /-- The address of the client, if it may be passed on. -/
  clientIp : Option Net.IpAddress
  /-- The site that the events come from. -/
  domain : String
  timestamp : Time.Timestamp

/-- An event in the making. -/
structure EventDraft where
  schema : String
  stream : String
  uri : String
  /-- The time of the event; without one the receiver sets it. -/
  time : Option Time.Timestamp := none
  fields : Fields := []

namespace EventDraft

/-- One addition to a draft. -/
inductive Step where
  | time (t : Time.Timestamp)
  | field (key : String) (value : Json)
  /-- All entries of an object; other values add nothing. -/
  | fields (value : Json)

/-- The draft after one addition. A later value of a key replaces an earlier one. -/
def add (draft : EventDraft) : Step → EventDraft
  | .time t => { draft with time := some t }
  | .field key value => { draft with fields := draft.fields.insert key value }
  | .fields (.object entries) => { draft with fields := draft.fields.insertAll entries }
  | .fields _ => draft

/-- The draft after several additions. -/
def addAll (draft : EventDraft) (steps : List Step) : EventDraft := steps.foldl add draft

/-- The key of the schema. -/
def schemaKey : String := "$schema"

/-- The key of what is said about the event itself. -/
def metaKey : String := "meta"

/-- Whether a key belongs to the envelope. -/
def isEnvelopeKey (key : String) : Bool := key == schemaKey || key == metaKey

/-- What is said about the event itself. -/
def metaFields (draft : EventDraft) (ctx : RequestContext) (id : String) : Fields :=
  let time := draft.time.map fun t ↦ ("dt", Json.string t.toSeconds)
  Fields.ofEntries
    (time.toList ++
      [("uri", .string draft.uri), ("id", .string id), ("domain", .string ctx.domain),
        ("stream", .string draft.stream), ("request_id", .string ctx.requestId)])

/-- The event of a draft, made for a request under a fresh identifier. -/
def build (draft : EventDraft) (ctx : RequestContext) (id : String) : Json :=
  let envelope :=
    Fields.ofEntries
      [(schemaKey, .string draft.schema), (metaKey, .object (draft.metaFields ctx id))]
  .object (envelope.insertAll (draft.fields.filter fun entry ↦ !isEnvelopeKey entry.1))

end EventDraft

namespace Event

/-- The stream of an event that names none. -/
def unknownStream : String := "unknown"

/-- The stream that an event names. -/
def streamOf (event : Json) : String :=
  let named := do
    let about ← event.get? EventDraft.metaKey
    let stream ← about.get? "stream"
    stream.asString?
  (named.filter (!·.isEmpty)).getD unknownStream

/-- The first item from `index` on that is no object. -/
def firstNonObject? (index : Nat) : List Json → Option RelayError
  | [] => none
  | event :: rest =>
    if event.isObject then firstNonObject? (index + 1) rest
    else some (.notAnObject index event.typeName)

/-- Checks that every item of a list of events is an object. -/
def checkList (events : List Json) : Except RelayError Unit :=
  match firstNonObject? 0 events with
  | some reason => .error reason
  | none => .ok ()

end Event
end EventRelay

import EventRelay.Config.Basic
import EventRelay.Delivery.Partition
import EventRelay.Delivery.Wire
import EventRelay.Event.Basic
import EventRelay.Json.Parser

/-!
# Sending a batch

A bus belongs to one service. It refuses categories that are not enabled, brings a batch into
bodies that fit the service, sends them in one call, and says of each request that was not taken
why. Every failure is logged and becomes a text of the outcome; nothing is tried again.
-/

namespace EventRelay

/-- A destination and the categories that it takes. -/
structure Bus where
  service : ServiceConfig
  enabledTypes : EventTypes
deriving DecidableEq, Repr

/-- What is sent. -/
inductive Payload where
  | events (events : List Json)
  /-- The text of a JSON array of events, or of one event. -/
  | text (body : String)

/-- What a single call may set. -/
structure SendOptions where
  /-- The address of the client, for services that it may be passed on to. -/
  clientIp : Option Net.IpAddress := none
  /-- Another limit than that of the service. -/
  maxBatchBytes : Option Nat := none

/-- What came of sending a batch. -/
inductive Outcome where
  /-- Every request was taken. -/
  | delivered
  /-- The category is not enabled, and nothing was sent. -/
  | suppressed
  | failed (errors : List String)
deriving DecidableEq, Repr

namespace Outcome

/-- Whether the batch arrived. -/
def isSuccess : Outcome → Bool
  | delivered => true
  | _ => false

/-- What failed. -/
def errors : Outcome → List String
  | failed errors => errors
  | _ => []

end Outcome

/-- Whether a text is that of an empty array. -/
def isEmptyArrayText : List Char → Bool
  | '[' :: rest =>
    match rest.reverse with
    | ']' :: inner => inner.all Text.isBlank
    | _ => false
  | _ => false

/-- The bodies of events; nothing if there are no events. -/
def bodiesOfEvents? (limit : Nat) (events : List Json) : Option (List String) :=
  if events.isEmpty then none else some ((SubBatch.cut limit events).map (·.body))

/-- The bodies of a text. An array that fits goes as it is, without the white space around it,
and so does what is neither an array nor an object. -/
def bodiesOfText? (limit : Nat) (body : String) : Option (List String) :=
  let trimmed := Text.trim body
  if trimmed.isEmpty || isEmptyArrayText trimmed.toList then none
  else if trimmed.utf8ByteSize ≤ limit ∧ trimmed.toList.head? = some '[' then some [trimmed]
  else
    match Json.parse? trimmed with
    | some (.array events) => bodiesOfEvents? limit events
    | some (.object fields) => bodiesOfEvents? limit [.object fields]
    | _ => some [trimmed]

/-- The bodies of a payload; nothing if it is empty. -/
def Payload.bodies? (limit : Nat) : Payload → Option (List String)
  | .events list => bodiesOfEvents? limit list
  | .text body => bodiesOfText? limit body

/-- The streams of the events in a body, each once, in order of first appearance. -/
def streamsInBody (body : String) : String :=
  match Json.parse? body with
  | some (.array events) => ",".intercalate ((events.map Event.streamOf).eraseDups)
  | _ => ""

/-- What failed: the text for the outcome, and the record for the log. -/
structure Fault where
  error : String
  record : LogRecord

namespace Bus

/-- The name of the header with the address of the client. -/
def clientIpHeader : String := "x-client-ip"

/-- The headers of a request. -/
def headers (bus : Bus) (options : SendOptions) : List (String × String) :=
  let ip := if bus.service.forwardClientIp then options.clientIp else none
  ("content-type", "application/json") ::
    (ip.map fun ip ↦ (clientIpHeader, ip.toText)).toList

/-- The request for a body. -/
def request (bus : Bus) (options : SendOptions) (body : String) : HttpRequest :=
  { url := bus.service.url
    headers := bus.headers options
    timeout := bus.service.timeout
    body := Text.utf8 body }

/-- What an outcome says about a request that was not taken. -/
def fault? (bus : Bus) (request : HttpRequest) (outcome : HttpOutcome) : Option Fault :=
  if outcome.isCreated then none
  else some
    { error := undeliveredMessage outcome.detail
      record :=
        .undelivered bus.service.name request.url outcome.code (streamsInBody request.bodyText)
          request.bodyText outcome.detail }

/-- What missing outcomes say. -/
def shortfall? (bus : Bus) (outcomes requests : Nat) : Option Fault :=
  if outcomes < requests then some
    { error := shortfallMessage outcomes requests
      record := .shortfall bus.service.name outcomes requests }
  else none

/-- What failed in a call, in order. -/
def faults (bus : Bus) (requests : List HttpRequest) (outcomes : List HttpOutcome) : List Fault :=
  (requests.zip outcomes).filterMap (fun pair ↦ bus.fault? pair.1 pair.2) ++
    (bus.shortfall? outcomes.length requests.length).toList

/-- The outcome of a call. -/
def outcomeOf (faults : List Fault) : Outcome :=
  if faults.isEmpty then .delivered else .failed (faults.map (·.error))

variable {σ : Type} [Transport σ]

/-- Sends a batch. -/
def send (bus : Bus) (payload : Payload) (types : EventTypes) (options : SendOptions)
    (wire : Wire σ) : Outcome × Wire σ :=
  if !bus.enabledTypes.contains types then (.suppressed, wire)
  else
    match payload.bodies? (options.maxBatchBytes.getD bus.service.maxBatchBytes) with
    | none => (.failed [emptyBatchMessage], wire.note [.emptyBatch bus.service.name])
    | some bodies =>
      let requests := bodies.map (bus.request options)
      let (outcomes, wire) := wire.call requests
      let faults := bus.faults requests outcomes
      (outcomeOf faults, wire.note (faults.map (·.record)))

end Bus
end EventRelay

import EventRelay.Delivery.Relay

/-!
# The queue of a request

While a request is served its events are only put down. When it is done the queue is flushed:
submissions with the same service and category become one batch, in the order in which the first
of them came; late submissions go behind all others. A service that cannot be used fails its own
batches only. The events of a disabled stream are dropped and counted.
-/

namespace EventRelay

/-- Where a submission goes. -/
inductive Destination where
  /-- To the service of the stream, which is looked up at the end. -/
  | stream (name : String)
  | service (name : String)
deriving DecidableEq, Repr

/-- Events that were put down together. -/
structure Submission where
  destination : Destination
  types : EventTypes
  events : List Json

/-- When a submission goes. -/
inductive Phase where
  | regular
  /-- Behind all regular submissions. -/
  | late
deriving DecidableEq, Repr

/-- The submissions of a request. -/
structure Queue where
  /-- The request, whose client may be made known to services. -/
  context : Option RequestContext := none
  pending : List Submission := []
  late : List Submission := []

namespace Queue

/-- The number of submissions. -/
def length (queue : Queue) : Nat := queue.pending.length + queue.late.length

/-- Whether there is no submission. -/
def isEmpty (queue : Queue) : Bool := queue.pending.isEmpty && queue.late.isEmpty

/-- Puts down events that are all objects. No events are no submission. -/
def push (queue : Queue) (phase : Phase) (destination : Destination) (types : EventTypes)
    (events : List Json) : Except RelayError Queue := do
  Event.checkList events
  if events.isEmpty then pure queue
  else
    let submission : Submission := ⟨destination, types, events⟩
    match phase with
    | .regular => pure { queue with pending := queue.pending ++ [submission] }
    | .late => pure { queue with late := queue.late ++ [submission] }

/-- Puts down change events for a stream. -/
def enqueue (queue : Queue) (stream : String) (events : List Json) : Except RelayError Queue :=
  queue.push .regular (.stream stream) .events events

end Queue

/-- The events of one batch. -/
structure Group where
  service : String
  types : EventTypes
  events : List Json

namespace Group

/-- Adds events to the group with their service and category, or as a new one at the end. -/
def add (service : String) (types : EventTypes) (events : List Json) : List Group → List Group
  | [] => [⟨service, types, events⟩]
  | group :: rest =>
    if group.service = service ∧ group.types = types then
      { group with events := group.events ++ events } :: rest
    else group :: add service types events rest

/-- Where a submission goes under a configuration. -/
def routeOf (config : Config) (submission : Submission) : Route :=
  match submission.destination with
  | .service name => .service name
  | .stream name => config.route name

/-- The groups of submissions. -/
def ofSubmissions (config : Config) (submissions : List Submission) : List Group :=
  submissions.foldl
    (fun groups submission ↦
      match routeOf config submission with
      | .service name => add name submission.types submission.events groups
      | .disabled => groups)
    []

/-- The number of events of submissions that go nowhere. -/
def dropped (config : Config) (submissions : List Submission) : Nat :=
  submissions.foldl
    (fun count submission ↦
      if routeOf config submission = .disabled then count + submission.events.length else count)
    0

end Group

/-- What came of a batch. -/
structure Delivery where
  service : String
  types : EventTypes
  /-- The number of its events. -/
  events : Nat
  outcome : Outcome
deriving DecidableEq, Repr

/-- What came of a queue. -/
structure FlushReport where
  /-- The batches in the order in which they were sent. -/
  deliveries : List Delivery
  /-- The number of events that went nowhere. -/
  dropped : Nat
deriving DecidableEq, Repr

namespace FlushReport

/-- Whether no batch failed. -/
def isSuccess (report : FlushReport) : Bool :=
  report.deliveries.all fun delivery ↦
    match delivery.outcome with
    | .failed _ => false
    | _ => true

/-- What failed. -/
def errors (report : FlushReport) : List String :=
  report.deliveries.flatMap (·.outcome.errors)

end FlushReport

namespace Queue

/-- The batches of a queue in order. -/
def groups (config : Config) (queue : Queue) : List Group :=
  Group.ofSubmissions config queue.pending ++ Group.ofSubmissions config queue.late

/-- The number of events of a queue that go nowhere. -/
def dropped (config : Config) (queue : Queue) : Nat :=
  Group.dropped config queue.pending + Group.dropped config queue.late

/-- How the batches of a queue are sent. -/
def options (queue : Queue) : SendOptions := { clientIp := queue.context.bind (·.clientIp) }

end Queue

namespace Relay

variable {σ : Type} [Transport σ]

/-- Delivers a batch. There is no delivery where the timeout of the service fits no duration. -/
def deliver (relay : Relay σ) (options : SendOptions) (group : Group) :
    Option Delivery × Relay σ :=
  let delivery (outcome : Outcome) : Delivery :=
    { service := group.service
      types := group.types
      events := group.events.length
      outcome }
  match relay.busFor group.service with
  | (.found found, relay) =>
    let (outcome, relay) := relay.send found.bus (.events group.events) group.types options
    (some (delivery outcome), relay)
  | (.refused reason, relay) =>
    (some (delivery (.failed [reason.message])),
      relay.note [.unresolved group.service group.events.length reason])
  | (.aborted, relay) => (none, relay)

/-- Delivers batches in order, and gives up at the first for which there is no delivery. -/
def deliverAll (relay : Relay σ) (options : SendOptions) :
    List Group → Option (List Delivery) × Relay σ
  | [] => (some [], relay)
  | group :: rest =>
    match relay.deliver options group with
    | (none, relay) => (none, relay)
    | (some first, relay) =>
      let (others, relay) := relay.deliverAll options rest
      (others.map (first :: ·), relay)

/-- Delivers everything in a queue. There is no report where the timeout of a service fits no
duration. -/
def flush (relay : Relay σ) (queue : Queue) : Option FlushReport × Relay σ :=
  let (deliveries, relay) := relay.deliverAll queue.options (queue.groups relay.config)
  (deliveries.map fun deliveries ↦ ⟨deliveries, queue.dropped relay.config⟩, relay)

end Relay
end EventRelay

import EventRelay.Producer

/-!
# Sessions

A session is the life of a process that makes events: one relay, one producer, and one queue at a
time. `Session.step` does one thing in it. A step that is refused changes nothing but, perhaps,
what is logged; a flush that is given up loses its queue.
-/

namespace EventRelay

/-- A process that makes events. -/
structure Session (σ : Type) where
  relay : Relay σ
  producer : Producer
  ids : Ids
  queue : Queue := {}

/-- How a bus is asked for. -/
inductive Target where
  | service (name : String)
  | stream (name : String)
  | default
deriving DecidableEq, Repr

/-- One thing that is done in a session. -/
inductive Step where
  /-- Drops the queue for a new one. -/
  | newQueue (context : Option RequestContext)
  | submit (phase : Phase) (destination : Destination) (types : EventTypes) (events : List Json)
  | announce (ctx : RequestContext) (change : Wiki.Change)
  | purge (ctx : RequestContext) (urls : List String)
  | produce (phase : Phase) (ctx : RequestContext) (jobs : List Job)
  | flush
  | lookup (target : Target)
  | send (target : Target) (payload : Payload) (types : EventTypes) (options : SendOptions)

/-- What comes of a step. -/
inductive Reply where
  | done
  | refused (reason : RelayError)
  /-- A timeout fits no duration. -/
  | aborted
  | flushed (report : FlushReport)
  | found (bus : BusSlot)
  | sent (outcome : Outcome)

namespace Session

variable {σ : Type}

/-- The bus that is asked for. -/
def busOf (relay : Relay σ) : Target → Lookup BusSlot × Relay σ
  | .service name => relay.busFor name
  | .stream name => relay.busForStream name
  | .default => relay.defaultBus

/-- The session after a change of its queue. -/
def updated (session : Session σ) : Except RelayError Queue × Ids → Reply × Session σ
  | (.ok queue, ids) => (.done, { session with queue, ids })
  | (.error reason, ids) => (.refused reason, { session with ids })

variable [Transport σ]

/-- Delivers the queue and leaves an empty one. -/
def flush (session : Session σ) : Reply × Session σ :=
  let (report, relay) := session.relay.flush session.queue
  let session := { session with relay, queue := {} }
  match report with
  | some report => (.flushed report, session)
  | none => (.aborted, session)

/-- Does something with a bus. -/
def withBus (session : Session σ) (target : Target)
    (act : BusSlot → Relay σ → Reply × Relay σ) : Reply × Session σ :=
  let (found, relay) := busOf session.relay target
  match found with
  | .found bus =>
    let (reply, relay) := act bus relay
    (reply, { session with relay })
  | .refused reason => (.refused reason, { session with relay })
  | .aborted => (.aborted, { session with relay })

/-- Does one thing. -/
def step (session : Session σ) : Step → Reply × Session σ
  | .newQueue context => (.done, { session with queue := { context } })
  | .submit phase destination types events =>
    session.updated (session.queue.push phase destination types events, session.ids)
  | .announce ctx change =>
    session.updated
      (session.producer.announce session.relay.config ctx change session.ids session.queue)
  | .purge ctx urls =>
    session.updated (Producer.purge session.relay.config ctx urls session.ids session.queue)
  | .produce phase ctx jobs =>
    session.updated
      (session.producer.produce session.relay.config phase ctx jobs session.ids session.queue)
  | .flush => session.flush
  | .lookup target => session.withBus target fun bus relay ↦ (.found bus, relay)
  | .send target payload types options =>
    session.withBus target fun found relay ↦
      let (outcome, relay) := relay.send found.bus payload types options
      (.sent outcome, relay)

/-- Does several things and gives what came of each. -/
def run (session : Session σ) : List Step → List Reply × Session σ
  | [] => ([], session)
  | step :: rest =>
    let (reply, session) := session.step step
    let (replies, session) := session.run rest
    (reply :: replies, session)

end Session
end EventRelay

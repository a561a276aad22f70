import EventRelay.Error
import EventRelay.EventTypes
import EventRelay.Time.Duration

/-!
# Configuration

What a producer is told at its start: the services that take events, the streams with settings of
their own, and the names that streams go by on the wire. `Config.service` turns the settings of a
service into a destination, and `Config.route` says where the events of a stream go.
-/

namespace EventRelay

/-- The settings of a service. -/
structure ServiceSettings where
  url : Option String := none
  /-- Seconds to wait for an answer. -/
  timeout : Option Number.Extended := none
  /-- Whether the address of the client may be passed on to the service. -/
  forwardClientIp : Bool := false
  /-- The largest body in bytes that the service takes. -/
  maxBatchBytes : Option Nat := none

/-- The settings of a stream for one producer. -/
structure ProducerSettings where
  service : Option String := none
  enabled : Option Bool := none

/-- The settings of a stream. -/
structure StreamSettings where
  /-- The service for producers without settings of their own. -/
  destination : Option String := none
  producers : List (String × ProducerSettings) := []

/-- The configuration of a producer. -/
structure Config where
  /-- The name under which the producer has settings in a stream. -/
  producerName : String := "mediawiki_eventbus"
  defaultService : String := "eventbus"
  /-- The largest body in bytes, for services that do not say it. -/
  maxBatchBytes : Nat := 4 * 1024 * 1024
  enabledTypes : EventTypes := .all
  /-- The site that events come from. -/
  domain : String := ""
  services : List (String × ServiceSettings) := []
  streams : List (String × StreamSettings) := []
  /-- The names of streams on the wire, where they differ. -/
  streamNames : List (String × String) := []

/-- A service that can be sent to. -/
structure ServiceConfig where
  name : String
  url : String
  timeout : Time.Duration
  maxBatchBytes : Nat
  forwardClientIp : Bool
deriving DecidableEq, Repr

/-- How long to wait for a service that does not say it. -/
def defaultTimeout : Time.Duration := .ofSeconds 5

/-- What comes of looking up a service. -/
inductive Lookup (α : Type) where
  | found (value : α)
  | refused (reason : RelayError)
  /-- No duration is as long as the timeout. The operation in progress is given up. -/
  | aborted
deriving DecidableEq

/-- The result with its value changed by a function. -/
def Lookup.map {α β : Type} (f : α → β) : Lookup α → Lookup β
  | .found value => .found (f value)
  | .refused reason => .refused reason
  | .aborted => .aborted

/-- Where the events of a stream go. -/
inductive Route where
  | service (name : String)
  /-- Nowhere: the stream is disabled for this producer. -/
  | disabled
deriving DecidableEq, Repr

/-- The name under which events that go nowhere are sent. -/
def disabledService : String := "_disabled_eventbus_"

/-- The name of the service that a route leads to. -/
def Route.serviceName : Route → String
  | .service name => name
  | .disabled => disabledService

namespace ServiceSettings

/-- The URL without white space around it, if that leaves any. -/
def usableUrl? (settings : ServiceSettings) : Option String :=
  (settings.url.map Text.trim).filter (!·.isEmpty)

/-- The time to wait, if it is a duration. A timeout that is not positive or not finite stands
for the default. -/
def waiting? (settings : ServiceSettings) : Option Time.Duration :=
  match settings.timeout with
  | some (.finite x) => if x.isPositive then Time.Duration.ofBinary64? x else some defaultTimeout
  | _ => some defaultTimeout

end ServiceSettings

namespace Config

/-- The destination for a service. -/
def service (config : Config) (name : String) : Lookup ServiceConfig :=
  match config.services.lookup name with
  | none => .refused (.unknownService name)
  | some settings =>
    match settings.usableUrl?, settings.waiting? with
    | none, _ => .refused (.missingUrl name)
    | some _, none => .aborted
    | some url, some timeout =>
      .found
        { name, url, timeout
          maxBatchBytes := settings.maxBatchBytes.getD config.maxBatchBytes
          forwardClientIp := settings.forwardClientIp }

/-- Where the events of a stream go: to the service of this producer, else to the one of the
stream, else to the default one, and nowhere if the stream is disabled for this producer. -/
def route (config : Config) (stream : String) : Route :=
  match config.streams.lookup stream with
  | none => .service config.defaultService
  | some settings =>
    let producer := (settings.producers.lookup config.producerName).getD {}
    if producer.enabled = some false then .disabled
    else .service ((producer.service.or settings.destination).getD config.defaultService)

/-- The name of a stream on the wire. -/
def streamName (config : Config) (stream : String) : String :=
  (config.streamNames.lookup stream).getD stream

end Config
end EventRelay

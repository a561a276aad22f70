import EventRelay.Delivery.Bus

/-!
# The relay

A process has one relay: the configuration, the wire, and a bus for each service that was asked
for so far. A bus is made when its service is first asked for and kept; its place in the order of
making tells it from the others.
-/

namespace EventRelay

/-- A configuration in use. -/
structure Relay (σ : Type) where
  config : Config
  wire : Wire σ
  /-- The buses made so far, oldest first. -/
  buses : List Bus := []

/-- A bus with its place among those of a relay. -/
structure BusSlot where
  slot : Nat
  bus : Bus
deriving DecidableEq, Repr

namespace Config

/-- The bus for events that go nowhere; it takes no category. -/
def disabledBus (config : Config) : Bus :=
  { service :=
      { name := disabledService
        url := ""
        timeout := defaultTimeout
        maxBatchBytes := config.maxBatchBytes
        forwardClientIp := false }
    enabledTypes := .none }

/-- The bus for a service. -/
def bus (config : Config) (name : String) : Lookup Bus :=
  if name = disabledService then .found config.disabledBus
  else (config.service name).map fun service ↦ ⟨service, config.enabledTypes⟩

end Config

namespace Relay

variable {σ : Type}

/-- The bus with a name in a list, counted from `slot`. -/
def findFrom? (name : String) (slot : Nat) : List Bus → Option BusSlot
  | [] => none
  | bus :: rest =>
    if bus.service.name = name then some ⟨slot, bus⟩ else findFrom? name (slot + 1) rest

/-- The bus for a service, made if there is none. -/
def busFor (relay : Relay σ) (name : String) : Lookup BusSlot × Relay σ :=
  match findFrom? name 0 relay.buses with
  | some found => (.found found, relay)
  | none =>
    match relay.config.bus name with
    | .found bus =>
      (.found ⟨relay.buses.length, bus⟩, { relay with buses := relay.buses ++ [bus] })
    | .refused reason => (.refused reason, relay)
    | .aborted => (.aborted, relay)

/-- The bus for a stream. -/
def busForStream (relay : Relay σ) (stream : String) : Lookup BusSlot × Relay σ :=
  relay.busFor (relay.config.route stream).serviceName

/-- The bus for the default service. -/
def defaultBus (relay : Relay σ) : Lookup BusSlot × Relay σ :=
  relay.busFor relay.config.defaultService

/-- Sends a batch through a bus. -/
def send [Transport σ] (relay : Relay σ) (bus : Bus) (payload : Payload) (types : EventTypes)
    (options : SendOptions) : Outcome × Relay σ :=
  let (outcome, wire) := bus.send payload types options relay.wire
  (outcome, { relay with wire })

/-- Adds records to the log. -/
def note (relay : Relay σ) (records : List LogRecord) : Relay σ :=
  { relay with wire := relay.wire.note records }

end Relay
end EventRelay

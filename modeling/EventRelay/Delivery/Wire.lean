import EventRelay.Delivery.Http
import EventRelay.Delivery.Log

/-!
# The wire

A transport takes the requests of a batch in one call and gives their outcomes in order. What it
answers may depend on its state and is not known here: there is one `Transport` for each type of
states. `Wire` is the state of a transport together with the calls that were made and the log.

`Script` is the transport that answers from a list and then with success.
-/

namespace EventRelay

/-- A transport with states of type `σ`. -/
class Transport (σ : Type) where
  /-- The outcomes of a call, and the state after it. -/
  answer : σ → List HttpRequest → List HttpOutcome × σ

/-- A transport in use. -/
structure Wire (σ : Type) where
  state : σ
  /-- The calls so far, each with its requests. -/
  calls : List (List HttpRequest) := []
  /-- The records so far. -/
  log : List LogRecord := []

namespace Wire

variable {σ : Type}

/-- Makes a call. -/
def call [Transport σ] (wire : Wire σ) (requests : List HttpRequest) :
    List HttpOutcome × Wire σ :=
  let (outcomes, state) := Transport.answer wire.state requests
  (outcomes, { wire with state := state, calls := wire.calls ++ [requests] })

/-- Adds records to the log. -/
def note (wire : Wire σ) (records : List LogRecord) : Wire σ :=
  { wire with log := wire.log ++ records }

/-- All requests so far. -/
def requests (wire : Wire σ) : List HttpRequest := wire.calls.flatten

end Wire

/-- A transport that answers from a list. -/
structure Script where
  /-- The outcomes of the next requests. -/
  outcomes : List HttpOutcome
  /-- How many outcomes a call gives at most. -/
  limit : Option Nat := none
deriving DecidableEq, Repr

namespace Script

/-- The next outcomes, one for each of `n` requests. -/
def next (script : Script) (n : Nat) : List HttpOutcome :=
  script.outcomes.take n ++ List.replicate (n - script.outcomes.length) .created

/-- The outcomes of a call. Each request takes one from the list, also if the call gives fewer. -/
def answer (script : Script) (requests : List HttpRequest) : List HttpOutcome × Script :=
  let outcomes := script.next requests.length
  (match script.limit with
    | some limit => outcomes.take limit
    | none => outcomes,
    { script with outcomes := script.outcomes.drop requests.length })

instance : Transport Script := ⟨answer⟩

end Script
end EventRelay

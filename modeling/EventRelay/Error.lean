/-!
# Errors

What can be wrong with a lookup, an event or a signature. Delivery failures are not among them:
a batch that does not arrive is an outcome of sending it.
-/

namespace EventRelay

/-- Why an operation was refused. -/
inductive RelayError where
  /-- There are no settings for the service. -/
  | unknownService (name : String)
  /-- The settings of the service have no URL. -/
  | missingUrl (name : String)
  /-- An item of a list of events is no object, but of the named type. -/
  | notAnObject (index : Nat) (typeName : String)
  /-- A job event names no type. -/
  | jobWithoutType
  /-- The parameters of a job event are neither missing nor an object. -/
  | jobParamsNotObject
  /-- The root event of a job event does not have its form. -/
  | malformedRootEvent (detail : String)
  /-- A signature is to be checked without a secret. -/
  | noSecret
  /-- The event carries no signature. -/
  | missingSignature
  /-- The event carries another signature than its own. -/
  | signatureMismatch
  /-- Only an object can carry a signature. -/
  | cannotCarrySignature
  /-- Jobs are to be made without a secret to sign them. -/
  | noJobSecret
deriving DecidableEq, Repr

namespace RelayError

/-- The text of an error. -/
def message : RelayError → String
  | unknownService name => s!"unknown event service: {name}"
  | missingUrl name => s!"no url configured for event service: {name}"
  | notAnObject index typeName =>
    s!"invalid event data: event at index {index} is not an object: {typeName}"
  | jobWithoutType => "invalid event data: job event has no type"
  | jobParamsNotObject => "invalid event data: job params must be an object"
  | malformedRootEvent detail => "serialization error: " ++ detail
  | noSecret => "signature error: no signing secret configured"
  | missingSignature => "signature error: missing signature"
  | signatureMismatch => "signature error: signature mismatch"
  | cannotCarrySignature => "signature error: event is not an object"
  | noJobSecret => "signature error: job production requires a signing secret"

end RelayError
end EventRelay

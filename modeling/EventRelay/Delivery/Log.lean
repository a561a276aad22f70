import EventRelay.Error
import EventRelay.Json.Basic
import EventRelay.Text.Quoted

/-!
# The log

A record for each failure, named for its cause. A record has a level, a message and fields.
-/

namespace EventRelay

/-- How grave a record is. -/
inductive LogLevel where
  | warn
  | error
deriving DecidableEq, Repr

/-- A record of the log. -/
inductive LogRecord where
  /-- A batch without events was to be sent. -/
  | emptyBatch (service : String)
  /-- A request failed, or some of its events did. -/
  | undelivered (service url : String) (code : Nat) (streams body detail : String)
  /-- A transport gave fewer outcomes than it got requests. -/
  | shortfall (service : String) (outcomes requests : Nat)
  /-- A service that events were to go to cannot be used. -/
  | unresolved (service : String) (events : Nat) (reason : RelayError)
  /-- A job event does not verify. -/
  | rejectedJob (reason : RelayError)
  /-- Jobs that a job had put off could not be delivered. -/
  | unflushed (jobType : String) (errors : List String)
  /-- A job failed. -/
  | jobFailed (jobType error : String)
deriving DecidableEq, Repr

/-- What is said about a batch without events. -/
def emptyBatchMessage : String := "Must call send with at least 1 event. Aborting send."

/-- What is said about a request that failed. -/
def undeliveredMessage (detail : String) : String := "Unable to deliver all events: " ++ detail

/-- What is said about outcomes that are missing. -/
def shortfallMessage (outcomes requests : Nat) : String :=
  undeliveredMessage s!"transport returned {outcomes} outcomes for {requests} requests"

namespace LogRecord

/-- How grave a record is. -/
def level : LogRecord → LogLevel
  | rejectedJob _ => .warn
  | _ => .error

/-- The message of a record. -/
def message : LogRecord → String
  | emptyBatch _ => emptyBatchMessage
  | undelivered _ _ code _ _ detail =>
    if code = 207 then "Partial delivery of events: " ++ detail else undeliveredMessage detail
  | shortfall _ outcomes requests => shortfallMessage outcomes requests
  | unresolved .. => "Cannot resolve event service, dropping its events"
  | rejectedJob _ => "Rejected job event"
  | unflushed .. => "Failed to flush follow-up jobs"
  | jobFailed .. => "Job failed"

/-- The fields of a record. -/
def fields : LogRecord → Fields
  | emptyBatch service => [("service", .string service)]
  | undelivered service url code streams body _ =>
    [("service", .string service), ("url", .string url), ("code", .ofNat code),
      ("streams", .string streams), ("body", .string body)]
  | shortfall service _ _ => [("service", .string service)]
  | unresolved service events reason =>
    [("service", .string service), ("events", .ofNat events), ("error", .string reason.message)]
  | rejectedJob reason => [("error", .string reason.message)]
  | unflushed jobType errors =>
    [("job_type", .string jobType), ("errors", .string (Text.quoteList errors))]
  | jobFailed jobType error => [("job_type", .string jobType), ("error", .string error)]

end LogRecord
end EventRelay

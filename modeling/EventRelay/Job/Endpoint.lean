import EventRelay.Job.Program
import EventRelay.Net.Scheme

/-!
# The job endpoint

A signed job event that is posted to the endpoint is carried out at once. The response says
whether it was; the jobs that it put off are delivered first, and a failure of theirs is only
logged. Nothing is carried out unless the event verifies under the secret of the endpoint.
-/

namespace EventRelay

/-- An endpoint for jobs. -/
structure Endpoint where
  /-- The secret that events are verified with. -/
  secret : String
  /-- Who makes the jobs that are put off, if anyone does. -/
  producer : Option Producer
  executors : Registry
  /-- What the reader of JSON says of a body that it cannot read. -/
  diagnose : Bytes → String
  /-- The configuration that the producer goes by, where it is not that of the relay. -/
  producerConfig : Option Config := none

/-- Why a job event was not carried out. -/
inductive Rejection where
  | invalidJson (detail : String)
  | notAnObject
  /-- The event does not verify. -/
  | unverified (reason : RelayError)
  /-- There is no job in the event. -/
  | noJob (reason : RelayError)
  | unknownType (type : String)
deriving DecidableEq, Repr

namespace Rejection

/-- The status code. -/
def code : Rejection → Nat
  | unverified _ => 403
  | _ => 400

/-- What the response says. -/
def message : Rejection → String
  | invalidJson detail => "invalid JSON: " ++ detail
  | notAnObject => "job event must be a JSON object"
  | unverified reason => reason.message
  | noJob reason => reason.message
  | unknownType type => "unknown job type: " ++ type

/-- The records that are made of it. -/
def log : Rejection → List LogRecord
  | unverified reason => [.rejectedJob reason]
  | _ => []

end Rejection

/-- The response of the endpoint. -/
inductive JobResponse where
  /-- What became of a posted body; `error` is what went wrong, if anything did. -/
  | report (code : Nat) (error : Option String)
  /-- The posted body is too long to be read. -/
  | tooLong
deriving DecidableEq, Repr

namespace JobResponse

/-- The status code. -/
def code : JobResponse → Nat
  | report code _ => code
  | tooLong => 413

/-- Whether the job was carried out. -/
def status : JobResponse → Bool
  | report _ error => error.isNone
  | tooLong => false

/-- The body of a response that took some milliseconds: a report, or a plain text about a body
that was not read. -/
def body (response : JobResponse) (milliseconds : Nat) : Json :=
  match response with
  | report _ error =>
    .ofFields
      ([("status", .bool response.status), ("timeMs", .ofNat milliseconds)] ++
        Fields.ofOption "error" .string error)
  | tooLong => .string "Failed to buffer the request body: length limit exceeded"

end JobResponse

namespace Endpoint

/-- The most bytes of a posted body that are read. -/
def maxBodyBytes : Nat := 2097152

/-- The job in a posted body, and how to carry it out. -/
def accept (endpoint : Endpoint) (body : Bytes) : Except Rejection (Job × Executor) :=
  match (Text.ofUtf8? body).bind Json.parse? with
  | none => .error (.invalidJson (endpoint.diagnose body))
  | some event =>
    if !event.isObject then .error .notAnObject
    else
      match Event.verify endpoint.secret event with
      | .error reason => .error (.unverified reason)
      | .ok () =>
        match Job.ofEvent event with
        | .error reason => .error (.noJob reason)
        | .ok job =>
          match endpoint.executors.get? job.type with
          | none => .error (.unknownType job.type)
          | some executor => .ok (job, executor)

/-- The records about jobs that were put off and could not be delivered. -/
def flushLog (job : Job) (report : FlushReport) : List LogRecord :=
  if report.isSuccess then [] else [.unflushed job.type report.errors]

/-- The response to a result. -/
def responseTo : Except JobError Unit → JobResponse
  | .ok () => .report 200 none
  | .error reason => .report 500 (some reason.message)

/-- The records about a result. -/
def resultLog (job : Job) : Except JobError Unit → List LogRecord
  | .ok () => []
  | .error reason => [.jobFailed job.type reason.message]

variable {σ : Type} [Transport σ]

/-- The surroundings in which a job is carried out: a request of its own. -/
def contextFor (endpoint : Endpoint) (config : Config) (now : Time.Timestamp) (id : String) :
    JobContext :=
  { config := endpoint.producerConfig.getD config
    request := { requestId := id, clientIp := none, domain := config.domain, timestamp := now }
    producer := endpoint.producer }

/-- Answers a posted body that is not too long. There is no response where the timeout of the
service for a job that was put off fits no duration. -/
def perform (endpoint : Endpoint) (now : Time.Timestamp) (body : Bytes) (ids : Ids)
    (relay : Relay σ) : Option JobResponse × Ids × Relay σ :=
  match endpoint.accept body with
  | .error rejection =>
    (some (.report rejection.code (some rejection.message)), ids, relay.note rejection.log)
  | .ok (job, executor) =>
    let context := endpoint.contextFor relay.config now ids.next
    let (result, ids, queue) := context.runJob executor job (ids.drop 1)
    match relay.flush queue with
    | (none, relay) => (none, ids, relay)
    | (some report, relay) =>
      (some (responseTo result), ids,
        relay.note (flushLog job report ++ resultLog job result))

/-- Answers a posted body. -/
def execute (endpoint : Endpoint) (now : Time.Timestamp) (body : Bytes) (ids : Ids)
    (relay : Relay σ) : Option JobResponse × Ids × Relay σ :=
  if maxBodyBytes < body.length then (some .tooLong, ids, relay)
  else endpoint.perform now body ids relay

end Endpoint

/-- What a request to the server is about. -/
inductive Destined where
  /-- Whether the server is up. -/
  | health (withBody : Bool)
  | job
  | methodNotAllowed
  | notFound
deriving DecidableEq, Repr

namespace Destined

/-- The path of the endpoint. -/
def executePath : String := "/eventbus/v0/internal/job/execute"

/-- Whether a character ends an authority. -/
def endsAuthority (c : Char) : Bool := ['/', '?', '#'].contains c

/-- The target without the scheme and the authority that may stand in front of its path. A target
that has them may leave out the path of the root. -/
def localPart (target : List Char) : List Char :=
  match target.dropWhile Net.isSchemeChar with
  | ':' :: '/' :: '/' :: rest =>
    let behind := rest.dropWhile (!endsAuthority ·)
    if behind.head? = some '/' then behind else '/' :: behind
  | _ => target

/-- The path of a target, without query and fragment. -/
def pathOf (target : String) : String :=
  String.ofList ((localPart target.toList).takeWhile fun c ↦ c != '?' && c != '#')

/-- What a request with a method and a target is about. -/
def ofRequest (method target : String) : Destined :=
  let path := pathOf target
  if path = "/" then
    if method = "GET" then .health true
    else if method = "HEAD" then .health false
    else .methodNotAllowed
  else if path = executePath then
    if method = "POST" then .job else .methodNotAllowed
  else .notFound

end Destined
end EventRelay

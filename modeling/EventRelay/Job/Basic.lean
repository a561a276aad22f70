import EventRelay.Event.Signature
import EventRelay.Wiki.Change

/-!
# Jobs

A job is work to be done in the background: a type and parameters, perhaps the event that it
descends from and the time before which it has to wait. It travels inside a signed event, on the
stream of its type, and is read back from there by whoever carries it out.
-/

namespace EventRelay

/-- The event that a job descends from. -/
structure RootEvent where
  signature : String
  dt : String
deriving DecidableEq, Repr

/-- Work to be done in the background. -/
structure Job where
  type : String
  params : Fields := []
  rootEvent : Option RootEvent := none
  /-- When the job may start. -/
  release : Option Time.Timestamp := none

namespace RootEvent

/-- The value of a root event. -/
def toJson (root : RootEvent) : Json :=
  .ofFields [("signature", .string root.signature), ("dt", .string root.dt)]

/-- Reads a root event. -/
def ofJson? : FromJson RootEvent := fun value ↦ do
  let fields ← FromJson.parts ["signature", "dt"] 2 value
  pure
    { signature := ← FromJson.required Json.asString? fields "signature"
      dt := ← FromJson.required Json.asString? fields "dt" }

/-- Reads a part of a root event, or says what is wrong with it. -/
def readPart : Json → Except String String
  | .string s => .ok s
  | value => .error (FromJson.wrongType "a string" value)

/-- Reads a root event, or says what is wrong with it. The parts that are there are looked at in the
order of their keys before one is missed. -/
def read : Json → Except String RootEvent
  | .object fields => do
    let dt ← (Fields.get? fields "dt").mapM readPart
    let signature ← (Fields.get? fields "signature").mapM readPart
    match signature, dt with
    | some signature, some dt => .ok { signature, dt }
    | none, _ => .error "missing field `signature`"
    | some _, none => .error "missing field `dt`"
  | .array [] => .error (FromJson.wrongLength "struct RootEvent with 2 elements" 0)
  | .array [signature] => do
    let _ ← readPart signature
    .error (FromJson.wrongLength "struct RootEvent with 2 elements" 1)
  | .array (signature :: dt :: rest) => do
    let signature ← readPart signature
    let dt ← readPart dt
    if rest.isEmpty then .ok { signature, dt }
    else .error (FromJson.wrongLength "fewer elements in array" (rest.length + 2))
  | value => .error (FromJson.wrongType "struct RootEvent" value)

end RootEvent

namespace Job

/-- The value of a job. -/
def toJson (job : Job) : Json :=
  .ofFields
    ([("type", .string job.type), ("params", .object job.params)] ++
      Fields.ofOption "root_event" RootEvent.toJson job.rootEvent ++
      Fields.ofOption "release_timestamp" Wiki.ofTimestamp job.release)

/-- Reads a job. -/
def ofJson? : FromJson Job := fun value ↦ do
  let fields ← FromJson.parts ["type", "params", "root_event", "release_timestamp"] 1 value
  pure
    { type := ← FromJson.required Json.asString? fields "type"
      params := ← FromJson.withDefault Json.asFields? fields "params" []
      rootEvent := ← FromJson.optional RootEvent.ofJson? fields "root_event"
      release := ← FromJson.optional FromJson.timestamp fields "release_timestamp" }

/-- The stream of jobs of a type, unless it goes by another name on the wire. -/
def streamOf (type : String) : String := "mediawiki.job." ++ type

/-- What the event of a job says. -/
def entries (site : Wiki.Site) (job : Job) : Fields :=
  [("database", .string site.database), ("type", .string job.type),
      ("params", .object job.params)] ++
    Fields.ofOption "root_event" RootEvent.toJson job.rootEvent ++
    Fields.ofOption "release_timestamp" (fun t ↦ .string t.toSeconds) job.release

/-- The event of a job without its signature. -/
def unsignedEvent (site : Wiki.Site) (ctx : RequestContext) (stream : String) (job : Job)
    (id : String) : Json :=
  let draft : EventDraft :=
    { schema := "/mediawiki/job/1.0.0"
      stream
      uri := site.pageUrl ("Special:Badtitle/" ++ job.type) }
  (draft.addAll [.time ctx.timestamp, .fields (.object (job.entries site))]).build ctx id

/-- The signed event of a job on a stream. -/
def event (site : Wiki.Site) (ctx : RequestContext) (stream secret : String) (job : Job)
    (id : String) : Except RelayError Json :=
  Event.attach secret (job.unsignedEvent site ctx stream id)

/-- The type of the job in an event. -/
def typeOf (event : Json) : Except RelayError String :=
  match ((event.get? "type").bind Json.asString?).filter (!·.isEmpty) with
  | some type => .ok type
  | none => .error .jobWithoutType

/-- The parameters of the job in an event; null is as good as none. -/
def paramsOf (event : Json) : Except RelayError Fields :=
  match event.get? "params" with
  | none | some .null => .ok []
  | some (.object fields) => .ok fields
  | some _ => .error .jobParamsNotObject

/-- The root event of the job in an event. -/
def rootOf (event : Json) : Except RelayError (Option RootEvent) :=
  match event.get? "root_event" with
  | none => .ok none
  | some value =>
    match RootEvent.read value with
    | .ok root => .ok (some root)
    | .error detail => .error (.malformedRootEvent detail)

/-- The release time of the job in an event; what is no timestamp is ignored. -/
def releaseOf (event : Json) : Option Time.Timestamp :=
  ((event.get? "release_timestamp").bind Json.asString?).bind Time.Timestamp.ofStrict?

/-- The job in an event. -/
def ofEvent (event : Json) : Except RelayError Job := do
  let type ← typeOf event
  let params ← paramsOf event
  let rootEvent ← rootOf event
  pure { type, params, rootEvent, release := releaseOf event }

end Job
end EventRelay

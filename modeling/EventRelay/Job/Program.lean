import EventRelay.Producer

/-!
# Carrying out jobs

What a job does is known here by its dealings with the outside alone: it may put jobs off to
later, looking at whether that worked, it may change the request in which it does so, and it ends
with success or an error. A `Program` is the tree of these dealings, and carrying it out gives its
result together with the queue of the jobs that were put off.
-/

namespace EventRelay

/-- Why a job failed. -/
inductive JobError where
  | invalidParams (detail : String)
  | failed (detail : String)
  | refused (reason : RelayError)
deriving DecidableEq, Repr

namespace JobError

/-- The text of an error. -/
def message : JobError → String
  | invalidParams detail => "invalid job params: " ++ detail
  | failed detail => "job failed: " ++ detail
  | refused reason => reason.message

end JobError

/-- What a job does. -/
inductive Program where
  | done (result : Except JobError Unit)
  /-- Puts a job off and goes on with the result of that. -/
  | requeue (job : Job) (next : Except JobError Unit → Program)
  /-- Goes on in another request. -/
  | amend (request : RequestContext) (next : Program)

/-- How jobs of a type are carried out. -/
abbrev Executor := Job → RequestContext → Program

/-- The surroundings of a job while it is carried out. -/
structure JobContext where
  config : Config
  request : RequestContext
  /-- Who makes the jobs that are put off, if anyone does. -/
  producer : Option Producer

namespace JobContext

/-- Puts a job off to the end of a queue. -/
def requeue (context : JobContext) (job : Job) (ids : Ids) (queue : Queue) :
    Except JobError Unit × Ids × Queue :=
  match context.producer with
  | none => (.error (.failed "job production is not configured"), ids, queue)
  | some producer =>
    match producer.produce context.config .late context.request [job] ids queue with
    | (.ok queue, ids) => (.ok (), ids, queue)
    | (.error reason, ids) => (.error (.refused reason), ids, queue)

/-- Carries out a program. -/
def run : JobContext → Program → Ids → Queue → Except JobError Unit × Ids × Queue
  | _, .done result, ids, queue => (result, ids, queue)
  | context, .requeue job next, ids, queue =>
    let (result, ids, queue) := context.requeue job ids queue
    run context (next result) ids queue
  | context, .amend request next, ids, queue => run { context with request } next ids queue

/-- Carries out a job with a queue of its own. -/
def runJob (context : JobContext) (executor : Executor) (job : Job) (ids : Ids) :
    Except JobError Unit × Ids × Queue :=
  context.run (executor job context.request) ids { context := some context.request }

end JobContext

/-- The executors by the type of their jobs; the last one of a type counts. -/
abbrev Registry := List (String × Executor)

namespace Registry

/-- The registry with one more executor. -/
def register (registry : Registry) (type : String) (executor : Executor) : Registry :=
  (type, executor) :: registry

/-- The executor for jobs of a type. -/
def get? (registry : Registry) (type : String) : Option Executor := registry.lookup type

end Registry

namespace NullJob

/-- A parameter that is a natural number of sixty-four bits; null is as good as none. -/
def naturalParam (params : Fields) (key : String) : Except JobError (Option Nat) :=
  match params.get? key with
  | none | some .null => .ok none
  | some value =>
    match FromJson.word64 value with
    | some n => .ok (some n.toNat)
    | none => .error (.invalidParams (key ++ " must be a non-negative integer"))

/-- The job with a number of lives. -/
def withLives (job : Job) (lives : Nat) : Job :=
  { job with params := job.params.insert "lives" (.ofNat lives) }

/-- The job that does nothing but wait. With more than one life it puts itself off with one life
less. -/
def program : Executor := fun job _ ↦
  match naturalParam job.params "lives", naturalParam job.params "usleep" with
  | .error reason, _ => .done (.error reason)
  | .ok _, .error reason => .done (.error reason)
  | .ok lives, .ok _ =>
    let lives := lives.getD 1
    if 1 < lives then .requeue (withLives job (lives - 1)) .done else .done (.ok ())

end NullJob

/-- The executors that are always there. -/
def Registry.builtins : Registry := [("null", NullJob.program)]

end EventRelay

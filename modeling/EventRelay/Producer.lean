import EventRelay.Delivery.Queue
import EventRelay.Event.Ids
import EventRelay.Job.Basic

/-!
# The producer

What a wiki reports becomes events on the queue of the request that it happens in: a change one
event on the stream of its kind, purges one submission for all URLs, and jobs one submission for
each stream on which they travel. Each stream goes by the name that it has on the wire.
-/

namespace EventRelay

/-- A wiki that makes events. -/
structure Producer where
  site : Wiki.Site
  /-- The secret that jobs are signed with; without one there are no jobs. -/
  jobSecret : Option String := none

namespace Producer

/-- Reports a change. If nothing has changed, nothing is put down. -/
def announce (producer : Producer) (config : Config) (ctx : RequestContext) (change : Wiki.Change)
    (ids : Ids) (queue : Queue) : Except RelayError Queue × Ids :=
  if change.isVoid then (.ok queue, ids)
  else
    let stream := config.streamName change.stream
    (queue.enqueue stream [change.event producer.site ctx stream ids.next], ids.drop 1)

/-- The events that tell caches to drop what they hold for URLs. -/
def purgeEvents (ctx : RequestContext) (stream : String) (urls : List String) (ids : Ids) :
    List Json :=
  urls.mapIdx fun i url ↦ Wiki.purgeEvent ctx stream url (ids.nth i)

/-- Reports that URLs are to be purged. -/
def purge (config : Config) (ctx : RequestContext) (urls : List String) (ids : Ids)
    (queue : Queue) : Except RelayError Queue × Ids :=
  let stream := config.streamName Wiki.purgeStream
  (queue.push .regular (.stream stream) .purges (purgeEvents ctx stream urls ids),
    ids.drop urls.length)

/-- Job events that travel on one stream. -/
structure JobBatch where
  stream : String
  events : List Json

namespace JobBatch

/-- Adds an event to the batch of its stream, or as a new one at the end. -/
def add (stream : String) (event : Json) : List JobBatch → List JobBatch
  | [] => [⟨stream, [event]⟩]
  | batch :: rest =>
    if batch.stream = stream then { batch with events := batch.events ++ [event] } :: rest
    else batch :: add stream event rest

end JobBatch

/-- The stream of a job on the wire. -/
def jobStream (config : Config) (job : Job) : String := config.streamName (Job.streamOf job.type)

/-- Adds the events of jobs to batches. -/
def addJobs (producer : Producer) (config : Config) (ctx : RequestContext) (secret : String) :
    List Job → Ids → List JobBatch → Except RelayError (List JobBatch)
  | [], _, batches => .ok batches
  | job :: rest, ids, batches => do
    let stream := jobStream config job
    let event ← job.event producer.site ctx stream secret ids.next
    addJobs producer config ctx secret rest (ids.drop 1) (JobBatch.add stream event batches)

/-- The signed events of jobs, by stream in order of first appearance. -/
def jobBatches (producer : Producer) (config : Config) (ctx : RequestContext) (jobs : List Job)
    (ids : Ids) : Except RelayError (List JobBatch) :=
  match producer.jobSecret with
  | none => .error .noJobSecret
  | some secret => addJobs producer config ctx secret jobs ids []

/-- Puts jobs down, to go with the other submissions or behind them. -/
def produce (producer : Producer) (config : Config) (phase : Phase) (ctx : RequestContext)
    (jobs : List Job) (ids : Ids) (queue : Queue) : Except RelayError Queue × Ids :=
  (do
      let batches ← producer.jobBatches config ctx jobs ids
      batches.foldlM (fun queue batch ↦ queue.push phase (.stream batch.stream) .jobs batch.events)
        queue,
    ids.drop jobs.length)

end Producer
end EventRelay

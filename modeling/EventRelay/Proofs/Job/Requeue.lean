import EventRelay.Proofs.Delivery.Growth
import EventRelay.Proofs.Delivery.Partition
import EventRelay.Proofs.Job.Endpoint

/-!
# A job that is put off

A job that is put off while another one is carried out becomes a late submission of one signed
event. Where its stream leads to a service that takes jobs, the flush makes one request of it, whose
body is the array of that event alone.
-/

namespace EventRelay

/-- Putting one job off leaves one late submission with its event. -/
theorem Producer.produce_late {producer : Producer} {secret : String}
    (hs : producer.jobSecret = some secret) {config : Config} {ctx : RequestContext} {job : Job}
    {ids : Ids} {fields : Fields}
    (he : job.event producer.site ctx (jobStream config job) secret ids.next =
      .ok (.object fields)) (queue : Queue) :
    producer.produce config .late ctx [job] ids queue =
      (.ok { queue with
        late := queue.late ++ [⟨.stream (jobStream config job), .jobs, [.object fields]⟩] },
        ids.drop 1) := by
  have hbatches : producer.jobBatches config ctx [job] ids =
      .ok [⟨jobStream config job, [.object fields]⟩] := by
    rw [jobBatches, hs]
    simp only [addJobs, he, JobBatch.add]
    rfl
  rw [produce, hbatches]
  rfl

/-- A job with a producer is put off. -/
theorem JobContext.requeue_eq {context : JobContext} {producer : Producer} {secret : String}
    (hp : context.producer = some producer) (hs : producer.jobSecret = some secret) {job : Job}
    {ids : Ids} {fields : Fields}
    (he : job.event producer.site context.request (Producer.jobStream context.config job) secret
      ids.next = .ok (.object fields)) (queue : Queue) :
    context.requeue job ids queue =
      (.ok (), ids.drop 1, { queue with
        late := queue.late ++
          [⟨.stream (Producer.jobStream context.config job), .jobs, [.object fields]⟩] }) := by
  rw [requeue, hp]
  simp only [Producer.produce_late hs he]

private theorem Bus.requestsOf_singleton {bus : Bus} {types : EventTypes}
    (h : bus.enabledTypes.contains types) (event : Json) (options : SendOptions) :
    bus.requestsOf (.events [event]) types options =
      [bus.request options (Json.array [event]).compact] := by
  simp [requestsOf, h, Payload.bodies?, bodiesOfEvents?, SubBatch.cut_eq, SubBatch.slicesFrom,
    SubBatch.ofSlice]

/-- The stream of a type of job leads to a service that jobs can be sent to. -/
structure Config.TakesJobs (config : Config) (type : String) : Prop where
  enabled : config.enabledTypes.job = true
  service : ∃ name service,
    config.route (config.streamName (Job.streamOf type)) = .service name ∧
    name ≠ disabledService ∧ config.service name = .found service

namespace Relay

variable {σ : Type} [Transport σ]

/-- A queue with no batch is flushed with a report, and nothing is sent. -/
theorem flush_of_groups_eq_nil {relay : Relay σ} (h : relay.IsConfigured) {queue : Queue}
    (hg : queue.groups relay.config = []) :
    (∃ report, (relay.flush queue).1 = some report) ∧
      (relay.flush queue).2.wire.requests = relay.wire.requests := by
  obtain ⟨report, last, hf⟩ := (exists_flush_iff h queue).mpr (by simp [hg])
  refine ⟨⟨report, by rw [hf]⟩, ?_⟩
  rw [requests_flush h, hg]
  simp [Config.reached]

/-- A queue with one late submission of one job event is flushed with a report, and one request is
made of it. -/
theorem flush_late_job {relay : Relay σ} (h : relay.IsConfigured) {type : String}
    (ht : relay.config.TakesJobs type) (context : Option RequestContext) (event : Json) :
    let stream := relay.config.streamName (Job.streamOf type)
    let queue : Queue := { context, late := [⟨.stream stream, .jobs, [event]⟩] }
    (∃ report, (relay.flush queue).1 = some report) ∧
      ∃ request, (relay.flush queue).2.wire.requests = relay.wire.requests ++ [request] ∧
        request.bodyText = (Json.array [event]).compact := by
  intro stream queue
  obtain ⟨henabled, name, service, hroute, hname, hservice⟩ := ht
  have hgroups : queue.groups relay.config = [⟨name, .jobs, [event]⟩] := by
    simp [Queue.groups, queue, Group.ofSubmissions, Group.routeOf, stream, hroute, Group.add]
  have hbus : relay.config.bus name = .found ⟨service, relay.config.enabledTypes⟩ := by
    rw [Config.bus, if_neg hname, hservice]
    rfl
  have hcontains : relay.config.enabledTypes.contains .jobs := by
    simp [EventTypes.contains, EventTypes.includes, EventTypes.isNone, EventTypes.jobs, henabled]
  obtain ⟨report, last, hf⟩ := (exists_flush_iff h queue).mpr (by simp [hgroups, hbus])
  let bus : Bus := ⟨service, relay.config.enabledTypes⟩
  refine ⟨⟨report, by rw [hf]⟩, bus.request queue.options (Json.array [event]).compact, ?_, ?_⟩
  · rw [requests_flush h, hgroups, ← bus.requestsOf_singleton hcontains]
    simp [Config.reached, hbus, Config.requestsFor, bus]
  · rw [Bus.request, HttpRequest.bodyText, Text.ofUtf8?_utf8]
    rfl

end Relay

/-- Whatever is posted to an endpoint, its relay keeps what a relay keeps. -/
theorem Endpoint.grows_perform {σ : Type} [Transport σ] (endpoint : Endpoint)
    (now : Time.Timestamp) (body : Bytes) (ids : Ids) (relay : Relay σ) :
    relay.Grows (endpoint.perform now body ids relay).2.2 := by
  rw [perform]
  rcases endpoint.accept body with rejection | ⟨job, executor⟩
  · exact relay.grows_note _
  · rcases hr : (endpoint.contextFor relay.config now ids.next).runJob executor job (ids.drop 1)
      with ⟨result, ids', queue⟩
    have hg := relay.grows_flush queue
    simp only [hr]
    rcases hf : relay.flush queue with ⟨_ | report, flushed⟩ <;> rw [hf] at hg
    · exact hg
    · exact hg.trans (flushed.grows_note _)

end EventRelay

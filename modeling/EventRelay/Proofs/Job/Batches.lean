import EventRelay.Producer
import EventRelay.Proofs.Delivery.Grouping
import EventRelay.Proofs.Event.Draft
import EventRelay.Proofs.Event.Signature
import Mathlib.Data.List.Forall2

/-!
# Jobs by stream

Every job has a signed event, and it names the stream of the job. The batches of jobs are the groups
of submissions of one event each, with the stream in the place of the service: so there is one for
each stream, in order of first appearance, and no event is lost or doubled on the way.
-/

namespace EventRelay

/-- An object that names a stream and is accepted under a secret, unless that is empty. -/
structure Event.IsSignedOn (secret stream : String) (event : Json) : Prop where
  isObject : event.isObject
  stream_eq : Event.about? event "stream" = some (.string stream)
  verify_eq : secret ≠ "" → Event.verify secret event = .ok ()

/-- Every job has an event that is signed and names the stream on which it is to travel. -/
private theorem Job.exists_signed_event (site : Wiki.Site) (ctx : RequestContext)
    (stream secret : String) (job : Job) (id : String) :
    ∃ event, job.event site ctx stream secret id = .ok event ∧
      Event.IsSignedOn secret stream event := by
  let unsigned := job.unsignedEvent site ctx stream id
  refine ⟨_, rfl, rfl, ?_, fun hs ↦ @Event.verify_attach secret hs unsigned _ rfl⟩
  have hne : "meta" ≠ Event.signatureKey := by decide
  rw [Event.about?, Json.get?, Fields.get?_insert, if_neg hne]
  exact (EventDraft.about?_build _ ctx id).2.2.2.1

/-- One submission of jobs for each stream, in order of first appearance, with the events that
travel on it. -/
def Submission.onStreams (streams : List String) (events : List Json) : List Submission :=
  streams.eraseDups.map fun stream ↦
    ⟨.stream stream, .jobs, ((streams.zip events).filter (·.1 = stream)).map (·.2)⟩

namespace Producer.JobBatch

/-- The batch as a group, with its stream in the place of the service. -/
def toGroup (batch : JobBatch) : Group := ⟨batch.stream, .jobs, batch.events⟩

/-- The batch as it is put down. -/
def toSubmission (batch : JobBatch) : Submission := ⟨.stream batch.stream, .jobs, batch.events⟩

/-- Events that are each submitted on their own, to services that are named like streams. -/
def alone (sent : List (String × Json)) : List Submission :=
  sent.map fun pair ↦ ⟨.service pair.1, .jobs, [pair.2]⟩

/-- The batches of events. -/
def ofSent (sent : List (String × Json)) (batches : List JobBatch) : List JobBatch :=
  sent.foldl (fun batches pair ↦ add pair.1 pair.2 batches) batches

private theorem map_toGroup_add (stream : String) (event : Json) (batches : List JobBatch) :
    (add stream event batches).map toGroup =
      Group.add stream .jobs [event] (batches.map toGroup) := by
  induction batches with
  | nil => rfl
  | cons batch rest ih =>
    by_cases h : batch.stream = stream
    · simp [add, Group.add, toGroup, h]
    · simp [add, Group.add, toGroup, h, ih]

private theorem map_toGroup_ofSent (sent : List (String × Json)) :
    (ofSent sent []).map toGroup = Group.ofSubmissions {} (alone sent) := by
  induction sent using List.reverseRecOn with
  | nil => rfl
  | append_singleton sent pair ih =>
    rw [alone, List.map_append, List.map_singleton, Group.ofSubmissions_concat, ofSent,
      List.foldl_append]
    exact (map_toGroup_add _ _ _).trans (congrArg _ ih)

private theorem keys_alone (sent : List (String × Json)) :
    Submission.keys {} (alone sent) =
      (sent.map (·.1)).eraseDups.map fun stream ↦ (stream, EventTypes.jobs) := by
  have hf : Function.Injective fun stream : String ↦ (stream, EventTypes.jobs) :=
    fun _ _ h ↦ congrArg Prod.fst h
  rw [← eraseDups_map hf, Submission.keys, alone, List.filterMap_map, List.map_map]
  exact congrArg _ (congrFun List.filterMap_eq_map sent)

private theorem eventsOf_alone (stream : String) (sent : List (String × Json)) :
    Submission.eventsOf {} (stream, .jobs) (alone sent) =
      (sent.filter (·.1 = stream)).map (·.2) := by
  induction sent with
  | nil => rfl
  | cons pair rest ih =>
    have hcons : Submission.eventsOf {} (stream, .jobs) (alone (pair :: rest)) =
        (if pair.1 = stream then [pair.2] else []) ++
          Submission.eventsOf {} (stream, .jobs) (alone rest) := by
      by_cases h : pair.1 = stream <;>
        simp [alone, Submission.eventsOf, Submission.key?, h]
    rw [hcons, ih]
    by_cases h : pair.1 = stream <;> simp [h]

/-- The batches of events, said without the loop that builds them. -/
theorem map_toSubmission_ofSent {streams : List String} {events : List Json}
    (hlength : streams.length = events.length) :
    (ofSent (streams.zip events) []).map toSubmission = Submission.onStreams streams events := by
  let sent := streams.zip events
  have hstreams : sent.map (·.1) = streams := List.map_fst_zip (Nat.le_of_eq hlength)
  calc (ofSent sent []).map toSubmission
    _ = ((ofSent sent []).map toGroup).map fun g ↦ ⟨.stream g.service, g.types, g.events⟩ := by
      rw [List.map_map]
      rfl
    _ = (Submission.batches {} (alone sent)).map fun g ↦
          ⟨.stream g.service, g.types, g.events⟩ := by
      rw [map_toGroup_ofSent, Group.ofSubmissions_eq]
    _ = Submission.onStreams streams events := by
      rw [Submission.batches, keys_alone, hstreams, List.map_map, List.map_map]
      refine List.map_congr_left fun stream _ ↦ ?_
      exact congrArg _ (eventsOf_alone stream sent)

/-- No submission of one event is left out of the groups. -/
private theorem keyless_alone (sent : List (String × Json)) :
    Submission.keyless {} (alone sent) = [] := by
  have hnone : (alone sent).filter (fun s ↦ s.key? {} = none) = [] := by
    rw [List.filter_eq_nil_iff]
    intro s hs
    obtain ⟨pair, -, rfl⟩ := List.mem_map.mp hs
    simp [Submission.key?]
  rw [Submission.keyless, hnone, List.flatMap_nil]

/-- No event of a job is lost or doubled on its way into a batch. -/
private theorem perm_ofSent {streams : List String} {events : List Json}
    (hlength : streams.length = events.length) :
    ((ofSent (streams.zip events) []).flatMap (·.events)).Perm events := by
  let sent := streams.zip events
  have hevents : (alone sent).flatMap (·.events) = events := by
    rw [alone, List.flatMap_map]
    exact (List.flatMap_pure_eq_map _ sent).trans (List.map_snd_zip (Nat.le_of_eq hlength.symm))
  have hperm := Group.perm_ofSubmissions {} (alone sent)
  rw [keyless_alone, List.append_nil, hevents, ← map_toGroup_ofSent, List.flatMap_map] at hperm
  exact hperm.symm

end Producer.JobBatch

namespace Submission

variable {streams : List String} {events : List Json}

/-- Each event is in one submission. -/
theorem perm_onStreams (hlength : streams.length = events.length) :
    ((onStreams streams events).flatMap (·.events)).Perm events := by
  rw [← Producer.JobBatch.map_toSubmission_ofSent hlength, List.flatMap_map]
  exact Producer.JobBatch.perm_ofSent hlength

/-- The events of a submission are signed and name the stream that it goes to. -/
theorem isSignedOn_of_mem_onStreams {secret : String}
    (h : List.Forall₂ (Event.IsSignedOn secret) streams events) {submission : Submission}
    (hm : submission ∈ onStreams streams events) :
    ∃ stream, submission.destination = .stream stream ∧ submission.events ≠ [] ∧
      ∀ event ∈ submission.events, Event.IsSignedOn secret stream event := by
  obtain ⟨stream, hs, rfl⟩ := List.mem_map.mp hm
  refine ⟨stream, rfl, ?_, ?_⟩
  · have hfst : stream ∈ (streams.zip events).map (·.1) := by
      rw [List.map_fst_zip (Nat.le_of_eq h.length_eq)]
      exact List.mem_eraseDups.mp hs
    obtain ⟨pair, hpair, rfl⟩ := List.mem_map.mp hfst
    refine List.ne_nil_of_mem (List.mem_map_of_mem (a := pair) ?_)
    exact List.mem_filter.mpr ⟨hpair, decide_eq_true rfl⟩
  · intro event he
    obtain ⟨pair, hpair, rfl⟩ := List.mem_map.mp he
    obtain ⟨hzip, hstream⟩ := List.mem_filter.mp hpair
    rw [← of_decide_eq_true hstream]
    exact List.forall₂_zip h hzip

end Submission

/-! ### The events of jobs -/

namespace Producer

/-- Every job has its event, and the batches of the jobs are those of the events. -/
theorem exists_addJobs (producer : Producer) (config : Config) (ctx : RequestContext)
    (secret : String) (jobs : List Job) (ids : Ids) (batches : List JobBatch) :
    ∃ events : List Json,
      jobs.mapIdx (fun i job ↦
        job.event producer.site ctx (jobStream config job) secret (ids.nth i)) =
          events.map .ok ∧
      List.Forall₂ (Event.IsSignedOn secret) (jobs.map (jobStream config)) events ∧
      producer.addJobs config ctx secret jobs ids batches =
        .ok (JobBatch.ofSent ((jobs.map (jobStream config)).zip events) batches) := by
  induction jobs generalizing ids batches with
  | nil => exact ⟨[], rfl, .nil, rfl⟩
  | cons job rest ih =>
    let stream := jobStream config job
    obtain ⟨event, he, hsigned⟩ := job.exists_signed_event producer.site ctx stream secret ids.next
    obtain ⟨events, hevents, hall, hadd⟩ := ih (ids.drop 1) (JobBatch.add stream event batches)
    refine ⟨event :: events, ?_, .cons hsigned hall, ?_⟩
    · have hnext (i : Nat) : (ids.drop 1).nth i = ids.nth (i + 1) :=
        congrArg ids.nth (Nat.add_comm 1 i)
      simp only [hnext] at hevents
      rw [List.mapIdx_cons, List.map_cons, hevents]
      exact congrArg (· :: events.map Except.ok) he
    · rw [addJobs, he]
      exact hadd

/-- With a secret there are batches for all jobs, as if each event of a job were put down on its
own. -/
theorem exists_jobBatches {producer : Producer} {secret : String}
    (hs : producer.jobSecret = some secret) (config : Config) (ctx : RequestContext)
    (jobs : List Job) (ids : Ids) :
    ∃ (events : List Json) (batches : List JobBatch),
      jobs.mapIdx (fun i job ↦
        job.event producer.site ctx (jobStream config job) secret (ids.nth i)) =
          events.map .ok ∧
      List.Forall₂ (Event.IsSignedOn secret) (jobs.map (jobStream config)) events ∧
      producer.jobBatches config ctx jobs ids = .ok batches ∧
      batches.map JobBatch.toSubmission =
        Submission.onStreams (jobs.map (jobStream config)) events := by
  obtain ⟨events, hevents, hall, hadd⟩ := producer.exists_addJobs config ctx secret jobs ids []
  refine ⟨events, _, hevents, hall, ?_, JobBatch.map_toSubmission_ofSent hall.length_eq⟩
  rw [jobBatches, hs]
  exact hadd

end Producer
end EventRelay

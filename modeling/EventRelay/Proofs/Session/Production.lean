import EventRelay.Proofs.Job.Batches
import EventRelay.Proofs.Session.Submissions

/-!
# Jobs are put down together

Without a secret no job is put down. With one there is a batch for each stream, and all of them are
put down, since events of jobs are objects and no batch is without events. So it never comes to pass
that some jobs are put down and others are not.
-/

namespace EventRelay

namespace Queue

/-- The queue with submissions at the end of a phase. -/
def putAll (queue : Queue) (phase : Phase) (submissions : List Submission) : Queue :=
  match phase with
  | .regular => { queue with pending := queue.pending ++ submissions }
  | .late => { queue with late := queue.late ++ submissions }

private theorem putAll_nil (queue : Queue) (phase : Phase) : queue.putAll phase [] = queue := by
  cases phase <;> simp [putAll]

private theorem putAll_cons (queue : Queue) (phase : Phase) (submission : Submission)
    (rest : List Submission) :
    queue.putAll phase (submission :: rest) = (queue.put phase submission).putAll phase rest := by
  cases phase <;> simp [putAll, put]

/-- A proper submission is put down in any queue. -/
theorem push_of_isProper (queue : Queue) (phase : Phase) {submission : Submission}
    (h : submission.IsProper) :
    queue.push phase submission.destination submission.types submission.events =
      .ok (queue.put phase submission) :=
  queue.push_of_objects phase _ _ h.events_ne h.objects

/-- Proper batches are put down one behind the other. -/
theorem pushAll_of_isProper (queue : Queue) (phase : Phase) {batches : List Producer.JobBatch}
    (h : ∀ batch ∈ batches, batch.toSubmission.IsProper) :
    queue.pushAll phase batches =
      .ok (queue.putAll phase (batches.map Producer.JobBatch.toSubmission)) := by
  induction batches generalizing queue with
  | nil =>
    rw [List.map_nil, putAll_nil]
    rfl
  | cons batch rest ih =>
    obtain ⟨hbatch, hrest⟩ := List.forall_mem_cons.mp h
    have hpush := queue.push_of_isProper phase hbatch
    rw [pushAll_cons, List.map_cons, putAll_cons, ← ih _ hrest]
    exact congrArg (Except.bind · _) hpush

end Queue

/-- In any session, jobs are refused for want of a secret, and nothing is put down; or each job has
its event, signed with the next identifier, and all events are put down in the phase that is asked
for, behind all that is there. There is one submission for each stream on which jobs travel by the
names on the wire, in order of first appearance, with the events of its jobs in their order, which
name this stream and are accepted under the secret unless it is empty. No queue would refuse one
of these submissions, and no event is lost or doubled. -/
theorem Session.jobs_all_or_nothing {σ : Type} [Transport σ] (session : Session σ)
    (phase : Phase) (ctx : RequestContext) (jobs : List Job) :
    let producer := session.producer
    let streams := jobs.map (Producer.jobStream session.relay.config)
    let behind (queue : Queue) : Session σ :=
      { session with ids := session.ids.drop jobs.length, queue }
    (producer.jobSecret = none →
      session.step (.produce phase ctx jobs) = (.refused .noJobSecret, behind session.queue)) ∧
    ∀ secret, producer.jobSecret = some secret → ∃ events : List Json,
      jobs.mapIdx (fun i job ↦
        job.event producer.site ctx (Producer.jobStream session.relay.config job) secret
          (session.ids.nth i)) = events.map .ok ∧
      let submissions := Submission.onStreams streams events
      session.step (.produce phase ctx jobs) =
        (.done, behind (session.queue.putAll phase submissions)) ∧
      (∀ submission ∈ submissions, ∃ stream, submission.destination = .stream stream ∧
        ∀ event ∈ submission.events, Event.IsSignedOn secret stream event) ∧
      (∀ submission ∈ submissions, ∀ queue : Queue,
        queue.push phase submission.destination submission.types submission.events =
          .ok (queue.put phase submission)) ∧
      (submissions.flatMap (·.events)).Perm events ∧ events.length = jobs.length := by
  intro producer streams behind
  refine ⟨?_, ?_⟩
  · intro hnone
    rw [step, Producer.produce_eq, Producer.jobBatches, hnone]
    rfl
  · intro secret hsecret
    obtain ⟨events, batches, hevents, hall, hbatches, hsubmissions⟩ :=
      Producer.exists_jobBatches hsecret session.relay.config ctx jobs session.ids
    have hproper : ∀ submission ∈ Submission.onStreams streams events, submission.IsProper := by
      intro submission hm
      obtain ⟨stream, -, hne, hsigned⟩ := Submission.isSignedOn_of_mem_onStreams hall hm
      exact ⟨hne, fun event he ↦ (hsigned event he).isObject⟩
    have hlength : events.length = jobs.length := by
      rw [← hall.length_eq, List.length_map]
    refine ⟨events, hevents, ?_, ?_, ?_, Submission.perm_onStreams hall.length_eq, hlength⟩
    · have hpush : session.queue.pushAll phase batches =
          .ok (session.queue.putAll phase (Submission.onStreams streams events)) := by
        rw [← hsubmissions]
        refine session.queue.pushAll_of_isProper phase fun batch hb ↦ hproper _ ?_
        rw [← hsubmissions]
        exact List.mem_map_of_mem hb
      rw [step, Producer.produce_eq, hbatches, Except.bind, hpush]
      rfl
    · intro submission hm
      obtain ⟨stream, hdestination, -, hsigned⟩ := Submission.isSignedOn_of_mem_onStreams hall hm
      exact ⟨stream, hdestination, hsigned⟩
    · exact fun submission hm queue ↦ queue.push_of_isProper phase (hproper submission hm)

/-- A configuration under which two types of jobs travel on one stream. -/
def sharingConfig : Config :=
  { streamNames := [("mediawiki.job.a", "jobs.shared"), ("mediawiki.job.b", "jobs.shared")] }

/-- Of three jobs the first and the third travel on one stream. Put off, they leave one late
submission of two events and behind it one of one event. Without a secret they leave nothing. -/
theorem Session.jobs_all_or_nothing_shared :
    let earlier : Submission := ⟨.service "other", .events, [.object []]⟩
    let session (jobSecret : Option String) : Session Script :=
      { relay := { config := sharingConfig, wire := ⟨⟨[], none⟩, [], []⟩ }
        producer := { wikiProducer with jobSecret }
        ids := .constant "id"
        queue := { pending := [earlier] } }
    let jobs : List Job := [{ type := "a" }, { type := "null" }, { type := "b" }]
    let step : Step := .produce .late (servedRequest none) jobs
    (session none).step step = (.refused .noJobSecret, session none) ∧
    ∃ first second third : Json,
      ((session (some "secret")).step step).2.queue =
        { pending := [earlier]
          late := [⟨.stream "jobs.shared", .jobs, [first, third]⟩,
            ⟨.stream "mediawiki.job.null", .jobs, [second]⟩] } ∧
      ∀ event ∈ [first, third], Event.IsSignedOn "secret" "jobs.shared" event := by
  intro earlier session jobs step
  obtain ⟨hnone, -⟩ := jobs_all_or_nothing (session none) .late (servedRequest none) jobs
  obtain ⟨-, hsome⟩ := jobs_all_or_nothing (session (some "secret")) .late (servedRequest none) jobs
  obtain ⟨events, -, hstep, hsigned, -, -, hlength⟩ := hsome "secret" rfl
  obtain ⟨first, second, third, rfl⟩ := List.length_eq_three.mp hlength
  have hstreams : jobs.map (Producer.jobStream sharingConfig) =
      ["jobs.shared", "mediawiki.job.null", "jobs.shared"] := by decide
  have hsubmissions : Submission.onStreams (jobs.map (Producer.jobStream sharingConfig))
      [first, second, third] =
        [⟨.stream "jobs.shared", .jobs, [first, third]⟩,
          ⟨.stream "mediawiki.job.null", .jobs, [second]⟩] := by
    rw [hstreams]
    rfl
  refine ⟨hnone rfl, first, second, third, ?_, ?_⟩
  · rw [hstep]
    exact congrArg (Queue.putAll _ .late) hsubmissions
  · obtain ⟨stream, hdestination, hall⟩ := hsigned _ (hsubmissions ▸ List.mem_cons_self)
    cases hdestination
    exact hall

end EventRelay

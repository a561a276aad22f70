import EventRelay.Proofs.Job.Requeue
import Mathlib.Data.List.Forall2

/-!
# What a job leaves behind

A job may put off any number of jobs before it ends, and go on by whether that worked. Each one that
was put off is one late submission of one signed event; where that did not work nothing is left. The
queue is flushed once, however the job ended, and the response says how it ended and nothing of what
came of the flush: neither the transport nor the services can be told from it.
-/

namespace EventRelay

/-- A signed event carries its own signature. -/
theorem Event.carried?_attach {secret : String} {event signed : Json}
    (h : attach secret event = .ok signed) : carried? signed = some (sign secret signed) := by
  cases event with
  | object fields =>
    cases h
    rw [carried?_insert, sign_insert]
  | _ => cases h

namespace JobContext

/-! ### Putting one job off -/

variable {context : JobContext}

/-- Without a producer no job is put off. -/
theorem requeue_of_producer_eq_none (hp : context.producer = none) (job : Job) (ids : Ids)
    (queue : Queue) :
    context.requeue job ids queue =
      (.error (.failed "job production is not configured"), ids, queue) := by
  rw [requeue, hp]

/-- Without a secret no job is put off, but its id is used up. -/
theorem requeue_of_jobSecret_eq_none {producer : Producer} (hp : context.producer = some producer)
    (hs : producer.jobSecret = none) (job : Job) (ids : Ids) (queue : Queue) :
    context.requeue job ids queue = (.error (.refused .noJobSecret), ids.drop 1, queue) := by
  rw [requeue, hp]
  simp only [Producer.produce, Producer.jobBatches, hs]
  rfl

/-- A submission by which a job is put off: it goes to the stream of the job and holds one event,
which the producer has made of the job in some request and signed with its secret. -/
inductive PutsOff (context : JobContext) (job : Job) : Submission → Prop
  | intro {producer : Producer} {secret id : String} {request : RequestContext} {event : Json} :
      context.producer = some producer → producer.jobSecret = some secret →
      job.event producer.site request (Producer.jobStream context.config job) secret id =
        .ok event →
      Event.carried? event = some (Event.sign secret event) →
      PutsOff context job ⟨.stream (Producer.jobStream context.config job), .jobs, [event]⟩

/-- With a secret every job is put off. -/
theorem requeue_of_jobSecret_eq_some {producer : Producer} {secret : String}
    (hp : context.producer = some producer) (hs : producer.jobSecret = some secret) (job : Job)
    (ids : Ids) (queue : Queue) :
    ∃ submission, context.PutsOff job submission ∧ context.requeue job ids queue =
      (.ok (), ids.drop 1, { queue with late := queue.late ++ [submission] }) := by
  obtain ⟨fields, he⟩ := job.exists_event producer.site context.request
    (Producer.jobStream context.config job) secret ids.next
  exact ⟨_, .intro hp hs he (Event.carried?_attach he), requeue_eq hp hs he queue⟩

/-- A job is put off by one late submission, or that fails and leaves the queue as it is. -/
theorem requeue_cases (context : JobContext) (job : Job) (ids : Ids) (queue : Queue) :
    (∃ reason ids', context.requeue job ids queue = (.error reason, ids', queue)) ∨
    (∃ submission ids', context.PutsOff job submission ∧ context.requeue job ids queue =
      (.ok (), ids', { queue with late := queue.late ++ [submission] })) := by
  cases hp : context.producer with
  | none => exact .inl ⟨_, _, requeue_of_producer_eq_none hp job ids queue⟩
  | some producer =>
    cases hs : producer.jobSecret with
    | none => exact .inl ⟨_, _, requeue_of_jobSecret_eq_none hp hs job ids queue⟩
    | some secret =>
      obtain ⟨submission, hput, hq⟩ := requeue_of_jobSecret_eq_some hp hs job ids queue
      exact .inr ⟨submission, _, hput, hq⟩

/-- Whether a job can be put off and which ids are left then depends on the producer alone, and not
on the configuration or on what is in the queue. -/
theorem requeue_congr {other : JobContext} (h : other.producer = context.producer) (job : Job)
    (ids : Ids) (queue otherQueue : Queue) :
    (other.requeue job ids otherQueue).1 = (context.requeue job ids queue).1 ∧
      (other.requeue job ids otherQueue).2.1 = (context.requeue job ids queue).2.1 := by
  cases hp : context.producer with
  | none =>
    rw [requeue_of_producer_eq_none hp, requeue_of_producer_eq_none (h.trans hp)]
    exact ⟨rfl, rfl⟩
  | some producer =>
    cases hs : producer.jobSecret with
    | none =>
      rw [requeue_of_jobSecret_eq_none hp hs, requeue_of_jobSecret_eq_none (h.trans hp) hs]
      exact ⟨rfl, rfl⟩
    | some secret =>
      obtain ⟨_, -, hq⟩ := requeue_of_jobSecret_eq_some hp hs job ids queue
      obtain ⟨_, -, hq'⟩ := requeue_of_jobSecret_eq_some (h.trans hp) hs job ids otherQueue
      rw [hq, hq']
      exact ⟨rfl, rfl⟩

/-! ### Carrying out a program -/

/-- The jobs that were put off among those that a program wanted to put off. -/
def putOff (dealings : List (Job × Except JobError Unit)) : List Job :=
  (dealings.filter (·.2.isOk)).map (·.1)

/-- A program adds to a queue what it puts off, in order and behind all else, and nothing more. -/
theorem Carries.queue_eq {program : Program} {ids ids' : Ids} {queue queue' : Queue}
    {dealings : List (Job × Except JobError Unit)} {result : Except JobError Unit}
    (h : Carries context program ids queue dealings result ids' queue') :
    ∃ submissions, queue' = { queue with late := queue.late ++ submissions } ∧
      List.Forall₂ context.PutsOff (putOff dealings) submissions := by
  induction h with
  | done => exact ⟨[], by simp, .nil⟩
  | @requeue context job next answer result ids ids₁ ids₂ queue queue₁ queue₂ dealings hr _ ih =>
    obtain ⟨submissions, rfl, hall⟩ := ih
    obtain ⟨reason, _, hq⟩ | ⟨submission, _, hput, hq⟩ := context.requeue_cases job ids queue
    · cases hr.symm.trans hq
      exact ⟨submissions, rfl, hall⟩
    · cases hr.symm.trans hq
      exact ⟨submission :: submissions, by simp, .cons hput hall⟩
  | amend _ ih =>
    -- The submissions are made in the other request; which one it is, is left open.
    obtain ⟨submissions, hq, hall⟩ := ih
    refine ⟨submissions, hq, hall.imp ?_⟩
    rintro job _ ⟨hp, hs, he, hc⟩
    exact .intro hp hs he hc

/-- Over another configuration and another queue a program does the same and ends in the same
way. -/
theorem Carries.congr {program : Program} {ids ids' : Ids} {queue queue' : Queue}
    {dealings : List (Job × Except JobError Unit)} {result : Except JobError Unit}
    (h : Carries context program ids queue dealings result ids' queue') (config : Config)
    (other : Queue) :
    ∃ other', Carries { context with config } program ids other dealings result ids' other' := by
  induction h generalizing other with
  | done => exact ⟨other, .done⟩
  | @requeue context job next answer result ids ids₁ ids₂ queue queue₁ queue₂ dealings hr _ ih =>
    -- The queues of the two differ, but not the answer, and so not how the program goes on.
    have hsame := @requeue_congr context { context with config } rfl job ids queue other
    rw [hr] at hsame
    rcases hr' : ({ context with config } : JobContext).requeue job ids other with
      ⟨answer', ids', other'⟩
    rw [hr'] at hsame
    obtain ⟨rfl, rfl⟩ := hsame
    obtain ⟨last, hlast⟩ := ih other'
    exact ⟨last, .requeue hr' hlast⟩
  | amend _ ih =>
    obtain ⟨last, hlast⟩ := ih other
    exact ⟨last, .amend hlast⟩

end JobContext

/-- A posted event verifies and is that of a job with an executor. However that executor puts jobs
off and ends, its dealings and its result are the same over all relays whose configuration names the
same site: neither the transport nor the services, the streams and the categories that are enabled
make a difference. It leaves one late submission of one signed event for each job that was put off,
in that order, and nothing else. That queue is flushed once, and if the flush is not given up the
response is that to the result; but for the log nothing else happens. -/
theorem Endpoint.perform_flushes_once (endpoint : Endpoint) (now : Time.Timestamp) (body : Bytes)
    (ids : Ids) (domain : String) {event : Json} (hevent : eventIn? body = some event)
    (hverified : Event.verify endpoint.secret event = .ok ()) {job : Job}
    (hjob : Job.ofEvent event = .ok job) {executor : Executor}
    (hexecutor : endpoint.executors.get? job.type = some executor) :
    ∃ dealings result ids', ∀ {σ : Type} [Transport σ] (relay : Relay σ),
      relay.config.domain = domain →
      let context := endpoint.contextFor relay.config now ids.next
      ∃ queue records,
        context.Carries (executor job context.request) (ids.drop 1)
          { context := some context.request } dealings result ids' queue ∧
        queue.context = some context.request ∧ queue.pending = [] ∧
        List.Forall₂ context.PutsOff (JobContext.putOff dealings) queue.late ∧
        endpoint.perform now body ids relay =
          ((relay.flush queue).1.map fun _ ↦ responseTo result, ids',
            (relay.flush queue).2.note records) := by
  have haccept : endpoint.accept body = .ok (job, executor) := by
    rw [accept_of_eventIn? hevent]
    simp only [hverified, hjob, hexecutor]
  -- The dealings are those over a configuration that names the site and nothing else.
  let bare := endpoint.contextFor { domain } now ids.next
  rcases hrun : bare.runJob executor job (ids.drop 1) with ⟨result, ids', bareQueue⟩
  obtain ⟨dealings, hbare⟩ := JobContext.run_eq_iff.mp hrun
  refine ⟨dealings, result, ids', ?_⟩
  intro σ _ relay hdomain context
  have hcontext : context = { bare with config := context.config } := by
    simp only [context, bare, contextFor, hdomain]
  obtain ⟨queue, hcarries⟩ :=
    hbare.congr context.config { context := some context.request }
  have hrequest : bare.request = context.request := (congrArg (·.request) hcontext).symm
  rw [← hcontext, hrequest] at hcarries
  obtain ⟨submissions, hqueue, hall⟩ := hcarries.queue_eq
  obtain ⟨records, hperform⟩ :=
    perform_of_accept_eq_ok haccept (JobContext.run_eq_iff.mpr ⟨dealings, hcarries⟩)
  refine ⟨queue, records, hcarries, ?_, ?_, ?_, hperform⟩
  · rw [hqueue]
  · rw [hqueue]
  · rw [hqueue]
    exact hall

/-- Puts its job off, puts another one off in another request, and fails. -/
def restless : Executor := fun job request ↦
  .requeue job fun _ ↦ .amend { request with requestId := "later" }
    (.requeue { type := "other" } fun _ ↦ .done (.error (.failed "boom")))

/-- Two jobs were put off before the failure. The response is the same whether the service for them
is down or there is none. -/
theorem Endpoint.perform_flushes_once_restless :
    let endpoint : Endpoint :=
      { secret := "secret"
        producer := some { site := ⟨"https://wiki", "/wiki/", "wiki"⟩, jobSecret := some "secret" }
        executors := Registry.builtins.register "null" restless
        diagnose := fun _ ↦ "expected value at line 1 column 1" }
    let now : Time.Timestamp := ⟨⟨2024, 5, 1⟩, 8, 30, 0, 0⟩
    let down : Relay Script :=
      { config := { services := [("eventbus", { url := some "http://eventbus" })] }
        wire := { state := { outcomes := [.unreachable "down"] } } }
    let lost : Relay Script := { config := {}, wire := { state := { outcomes := [] } } }
    ∃ signature, Event.verify "secret" (.object (bareEvent (some signature))) = .ok () ∧
      ∀ relay ∈ [down, lost], ∃ queue ids' records, queue.pending = [] ∧ queue.late.length = 2 ∧
        endpoint.perform now (Text.utf8 (Json.object (bareEvent (some signature))).compact)
          (Ids.constant "id") relay =
          (some (.report 500 (some "job failed: boom")), ids',
            (relay.flush queue).2.note records) := by
  intro endpoint now down lost
  obtain ⟨signature, hverified⟩ := exists_verify_bareEvent
  refine ⟨signature, hverified, ?_⟩
  have hjob : Job.ofEvent (.object (bareEvent (some signature))) = .ok { type := "null" } := rfl
  have hexecutor : endpoint.executors.get? "null" = some restless := rfl
  obtain ⟨dealings, result, ids', hsame⟩ := Endpoint.perform_flushes_once endpoint now _
    (Ids.constant "id") "" (eventIn?_bareEvent (some signature)) hverified hjob hexecutor
  have hanswer (context : JobContext) (hp : context.producer = endpoint.producer) {job : Job}
      {ids ids' : Ids} {queue queue' : Queue} {answer : Except JobError Unit}
      (h : context.requeue job ids queue = (answer, ids', queue')) : answer = .ok () := by
    obtain ⟨_, -, hq⟩ := JobContext.requeue_of_jobSecret_eq_some hp rfl job ids queue
    exact congrArg (·.1) (h.symm.trans hq)
  intro relay hrelay
  have hfacts : relay.config.domain = "" ∧ relay.config.TimeoutsFit ∧ relay.IsConfigured := by
    rcases List.mem_pair.mp hrelay with rfl | rfl
    · exact ⟨rfl, by decide, Relay.isConfigured_new _ _⟩
    · exact ⟨rfl, by decide, Relay.isConfigured_new _ _⟩
  obtain ⟨hdomain, hfit, hconfigured⟩ := hfacts
  obtain ⟨queue, records, hcarries, -, hpending, hall, hperform⟩ := hsame relay hdomain
  obtain ⟨report, last, hflush⟩ := Relay.exists_flush hconfigured hfit queue
  have hlength := hall.length_eq
  cases hcarries with
  | requeue hfirst hrest =>
    cases hrest with
    | amend hrest =>
      cases hrest with
      | requeue hsecond hrest =>
        cases hrest
        obtain rfl := hanswer _ rfl hfirst
        obtain rfl := hanswer _ rfl hsecond
        refine ⟨queue, ids', records, hpending, hlength.symm, ?_⟩
        rw [hperform, hflush]
        rfl

end EventRelay

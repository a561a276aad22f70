import EventRelay.Proofs.Delivery.Charging
import EventRelay.Proofs.Session.Gating

/-!
# What a session puts down

A submission that is put down is a list of objects with at least one item, and a list that is none
leaves no trace. So whatever was done in a session, each submission of its queue is proper, and so
is each batch: a flush reports none without events, and none that failed for want of them.
-/

namespace EventRelay

namespace Event

/-- The first item that is no object is named with its index and its type. -/
theorem firstNonObject?_append {before : List Json} (hbefore : ∀ event ∈ before, event.isObject)
    {value : Json} (hvalue : value.isObject = false) (after : List Json) (index : Nat) :
    firstNonObject? index (before ++ value :: after) =
      some (.notAnObject (index + before.length) value.typeName) := by
  induction before generalizing index with
  | nil => simp [firstNonObject?, hvalue]
  | cons event rest ih =>
    obtain ⟨hevent, hrest⟩ := List.forall_mem_cons.mp hbefore
    have hindex : index + 1 + rest.length = index + (event :: rest).length := by
      rw [List.length_cons]
      omega
    rw [List.cons_append, firstNonObject?, if_pos hevent, ih hrest, hindex]

end Event

/-- At least one event, and nothing but objects. -/
structure Submission.IsProper (submission : Submission) : Prop where
  events_ne : submission.events ≠ []
  objects : ∀ event ∈ submission.events, event.isObject

namespace Queue

/-- The queue with a submission at the end of a phase. -/
def put (queue : Queue) (phase : Phase) (submission : Submission) : Queue :=
  match phase with
  | .regular => { queue with pending := queue.pending ++ [submission] }
  | .late => { queue with late := queue.late ++ [submission] }

private theorem submissions_put (queue : Queue) (phase : Phase) (submission : Submission)
    (other : Phase) :
    (queue.put phase submission).submissions other =
      queue.submissions other ++ if other = phase then [submission] else [] := by
  cases phase <;> cases other <;> simp [put, submissions]

/-! ### Putting events down -/

variable (queue : Queue) (phase : Phase) (destination : Destination) (types : EventTypes)

private theorem push_of_nonObject {before : List Json} (hbefore : ∀ event ∈ before, event.isObject)
    {value : Json} (hvalue : value.isObject = false) (after : List Json) :
    queue.push phase destination types (before ++ value :: after) =
      .error (.notAnObject before.length value.typeName) := by
  have hfirst := Event.firstNonObject?_append hbefore hvalue after 0
  rw [Nat.zero_add] at hfirst
  simp [push, Event.checkList, hfirst, bind, Except.bind]

private theorem push_nil : queue.push phase destination types [] = .ok queue := rfl

theorem push_of_objects {events : List Json} (hne : events ≠ [])
    (hobjects : ∀ event ∈ events, event.isObject) :
    queue.push phase destination types events =
      .ok (queue.put phase ⟨destination, types, events⟩) := by
  have hcheck : Event.checkList events = .ok () := (Event.checkList_eq_ok_iff events).mpr hobjects
  have hempty : events.isEmpty = false := List.isEmpty_eq_false_iff.mpr hne
  cases phase <;> simp [push, put, hcheck, hempty, bind, Except.bind, pure, Except.pure]

/-- Events are refused, or there are none, or they become one submission. -/
theorem push_cases (events : List Json) :
    (∃ reason, queue.push phase destination types events = .error reason) ∨
    queue.push phase destination types events = .ok queue ∨
    (Submission.IsProper ⟨destination, types, events⟩ ∧
      queue.push phase destination types events =
        .ok (queue.put phase ⟨destination, types, events⟩)) := by
  cases hcheck : Event.checkList events with
  | error reason => exact .inl ⟨reason, by simp [push, hcheck, bind, Except.bind]⟩
  | ok =>
    have hobjects := (Event.checkList_eq_ok_iff events).mp hcheck
    by_cases hempty : events = []
    · subst hempty
      exact .inr (.inl (push_nil queue phase destination types))
    · exact .inr (.inr ⟨⟨hempty, hobjects⟩,
        push_of_objects queue phase destination types hempty hobjects⟩)

/-- One batch of jobs after the other is put down. -/
def pushAll (queue : Queue) (phase : Phase) (batches : List Producer.JobBatch) :
    Except RelayError Queue :=
  batches.foldlM (fun queue batch ↦ queue.push phase (.stream batch.stream) .jobs batch.events)
    queue

theorem pushAll_cons (batch : Producer.JobBatch) (rest : List Producer.JobBatch) :
    queue.pushAll phase (batch :: rest) =
      (queue.push phase (.stream batch.stream) .jobs batch.events).bind (·.pushAll phase rest) :=
  rfl

end Queue

/-- The batches of jobs go into one phase. -/
theorem Producer.produce_eq (producer : Producer) (config : Config) (phase : Phase)
    (ctx : RequestContext) (jobs : List Job) (ids : Ids) (queue : Queue) :
    producer.produce config phase ctx jobs ids queue =
      ((producer.jobBatches config ctx jobs ids).bind (queue.pushAll phase ·),
        ids.drop jobs.length) :=
  rfl

namespace Queue

/-! ### Proper queues -/

/-- Each submission is proper. -/
def IsProper (queue : Queue) : Prop :=
  ∀ phase, ∀ submission ∈ queue.submissions phase, submission.IsProper

theorem isProper_new (context : Option RequestContext) : IsProper { context } := by
  intro phase submission hm
  cases phase <;> cases hm

namespace IsProper

variable {queue : Queue}

theorem put (h : queue.IsProper) {submission : Submission} (hs : submission.IsProper)
    (phase : Phase) : (queue.put phase submission).IsProper := by
  intro other found hm
  rw [submissions_put] at hm
  rcases List.mem_append.mp hm with hm | hm
  · exact h other found hm
  · split at hm
    · rwa [List.mem_singleton.mp hm]
    · cases hm

variable {queue' : Queue} {phase : Phase}

theorem push (h : queue.IsProper) {destination : Destination} {types : EventTypes}
    {events : List Json} (hp : queue.push phase destination types events = .ok queue') :
    queue'.IsProper := by
  obtain ⟨reason, he⟩ | he | ⟨hs, he⟩ := queue.push_cases phase destination types events <;>
    cases he.symm.trans hp
  · exact h
  · exact h.put hs phase

theorem announce (h : queue.IsProper) {producer : Producer} {config : Config}
    {ctx : RequestContext} {change : Wiki.Change} {ids : Ids}
    (hp : (producer.announce config ctx change ids queue).1 = .ok queue') : queue'.IsProper := by
  rw [Producer.announce] at hp
  split at hp
  · cases hp
    exact h
  · have hpush : queue.push .regular (.stream (config.streamName change.stream)) .events _ =
        .ok queue' := hp
    exact h.push hpush

theorem purge (h : queue.IsProper) {config : Config} {ctx : RequestContext}
    {urls : List String} {ids : Ids}
    (hp : (Producer.purge config ctx urls ids queue).1 = .ok queue') : queue'.IsProper := by
  have hpush : queue.push .regular (.stream (config.streamName Wiki.purgeStream)) .purges _ =
      .ok queue' := hp
  exact h.push hpush

theorem pushAll (h : queue.IsProper) {batches : List Producer.JobBatch}
    (hp : queue.pushAll phase batches = .ok queue') : queue'.IsProper := by
  induction batches generalizing queue with
  | nil =>
    cases hp
    exact h
  | cons batch rest ih =>
    rw [pushAll_cons] at hp
    cases hfirst : queue.push phase (.stream batch.stream) .jobs batch.events with
    | error reason =>
      rw [hfirst] at hp
      cases hp
    | ok next =>
      rw [hfirst] at hp
      exact ih (h.push hfirst) hp

theorem produce (h : queue.IsProper) {producer : Producer} {config : Config}
    {ctx : RequestContext} {jobs : List Job} {ids : Ids}
    (hp : (producer.produce config phase ctx jobs ids queue).1 = .ok queue') :
    queue'.IsProper := by
  rw [Producer.produce_eq] at hp
  cases hb : producer.jobBatches config ctx jobs ids with
  | error reason =>
    rw [hb] at hp
    cases hp
  | ok batches =>
    rw [hb] at hp
    exact h.pushAll hp

/-- A batch of a proper queue has events: those of the submission with which its key came up. -/
theorem events_ne (h : queue.IsProper) {config : Config} {batch : Group}
    (hm : batch ∈ queue.groups config) : batch.events ≠ [] := by
  have one (phase : Phase) (hm : batch ∈ Group.ofSubmissions config (queue.submissions phase)) :
      batch.events ≠ [] := by
    rw [Group.ofSubmissions_eq] at hm
    obtain ⟨key, hkey, rfl⟩ := List.mem_map.mp hm
    obtain ⟨submission, hs, hk⟩ := Submission.mem_keys.mp hkey
    obtain ⟨event, he⟩ := List.exists_mem_of_ne_nil _ (h phase submission hs).events_ne
    refine List.ne_nil_of_mem (a := event) (List.mem_flatMap.mpr ⟨submission, ?_, he⟩)
    exact List.mem_filter.mpr ⟨hs, by simpa using hk⟩
  rcases List.mem_append.mp hm with hm | hm
  · exact one .regular hm
  · exact one .late hm

end IsProper
end Queue

/-! ### Sessions -/

namespace Session

variable {σ : Type}

private theorem isProper_updated {session : Session σ} (h : session.queue.IsProper)
    {result : Except RelayError Queue × Ids} (hr : ∀ queue, result.1 = .ok queue → queue.IsProper) :
    (session.updated result).2.queue.IsProper := by
  obtain ⟨reason | queue, ids⟩ := result
  · exact h
  · exact hr queue rfl

private theorem queue_withBus (session : Session σ) (target : Target)
    (act : BusSlot → Relay σ → Reply × Relay σ) :
    (session.withBus target act).2.queue = session.queue := by
  rw [withBus]
  rcases busOf session.relay target with ⟨_ | _ | _, _⟩ <;> rfl

variable [Transport σ]

private theorem queue_flush (session : Session σ) : session.flush.2.queue = {} := by
  rw [flush]
  rcases session.relay.flush session.queue with ⟨_ | _, _⟩ <;> rfl

/-- No step leaves a queue with a submission that is not proper. -/
theorem isProper_step {session : Session σ} (h : session.queue.IsProper) (step : Step) :
    (session.step step).2.queue.IsProper := by
  cases step with
  | newQueue context => exact Queue.isProper_new context
  | submit phase destination types events => exact isProper_updated h fun _ hr ↦ h.push hr
  | announce ctx change => exact isProper_updated h fun _ hr ↦ h.announce hr
  | purge ctx urls => exact isProper_updated h fun _ hr ↦ h.purge hr
  | produce phase ctx jobs => exact isProper_updated h fun _ hr ↦ h.produce hr
  | flush =>
    rw [step, queue_flush]
    exact Queue.isProper_new none
  | lookup target =>
    rw [step, queue_withBus]
    exact h
  | send target payload types options =>
    rw [step, queue_withBus]
    exact h

/-- Nor do any number of steps. -/
theorem isProper_run {session : Session σ} (h : session.queue.IsProper) (steps : List Step) :
    (session.run steps).2.queue.IsProper := by
  induction steps generalizing session with
  | nil => exact h
  | cons step rest ih => exact ih (isProper_step h step)

end Session

/-! ### What is said for want of events -/

/-- A text starts like the part that stands in front in it. -/
private theorem head?_append_of {text : String} {c : Char} (h : text.toList.head? = some c)
    (rest : String) : (text ++ rest).toList.head? = some c := by
  rw [String.toList_append, List.head?_append, h, Option.some_or]

private theorem ne_emptyBatchMessage {text : String} {c : Char}
    (h : text.toList.head? = some c) (hc : c ≠ 'M') : text ≠ emptyBatchMessage := by
  rintro rfl
  have hm : emptyBatchMessage.toList.head? = some 'M' := by decide
  exact hc (Option.some.inj (h.symm.trans hm))

/-- What is said of an answer is not what is said for want of events. -/
private theorem undeliveredMessage_ne (detail : String) :
    undeliveredMessage detail ≠ emptyBatchMessage := by
  have hstart := @head?_append_of "Unable to deliver all events: " 'U' (by decide) detail
  exact ne_emptyBatchMessage hstart (by decide)

/-- Nor is it the reason why there is no bus. -/
private theorem RelayError.message_ne (reason : RelayError) :
    reason.message ≠ emptyBatchMessage := by
  cases reason with
  | unknownService name =>
    have hstart := @head?_append_of "unknown event service: " 'u' (by decide) name
    exact ne_emptyBatchMessage hstart (by decide)
  | missingUrl name =>
    have hstart := @head?_append_of "no url configured for event service: " 'n' (by decide) name
    exact ne_emptyBatchMessage hstart (by decide)
  | notAnObject index typeName =>
    have hstart := @head?_append_of "invalid event data: event at index " 'i' (by decide)
      (toString index)
    exact ne_emptyBatchMessage
      (head?_append_of (head?_append_of hstart " is not an object: ") typeName) (by decide)
  | malformedRootEvent detail =>
    have hstart := @head?_append_of "serialization error: " 's' (by decide) detail
    exact ne_emptyBatchMessage hstart (by decide)
  | _ => decide

/-- Events are not missed where there are some. -/
private theorem Bus.emptyBatchMessage_notMem {σ : Type} [Transport σ] (bus : Bus)
    {events : List Json}
    (hne : events ≠ []) (types : EventTypes) (options : SendOptions) (wire : Wire σ) :
    emptyBatchMessage ∉ (bus.send (.events events) types options wire).1.errors := by
  obtain ⟨-, -, hs⟩ | ⟨-, hnone, -, -⟩ | ⟨-, -, hs⟩ :=
    bus.send_cases (.events events) types options wire
  · rw [hs]
    exact List.not_mem_nil
  · exact absurd (bodiesOfEvents?_eq_none_iff.mp hnone) hne
  · rw [hs, errors_outcomeOf]
    intro hm
    obtain ⟨fault, hf, he⟩ := List.mem_map.mp hm
    obtain ⟨pair, -, rfl⟩ | ⟨-, rfl⟩ := mem_faults_cases hf
    · exact undeliveredMessage_ne pair.2.detail he
    · exact undeliveredMessage_ne _ he

namespace Relay

variable {σ : Type} [Transport σ]

/-- A batch with events is reported with their number, and not for want of them. -/
theorem reports_of_deliver {relay next : Relay σ} {options : SendOptions} {batch : Group}
    (hne : batch.events ≠ []) {delivery : Delivery}
    (hd : relay.deliver options batch = (some delivery, next)) :
    delivery.events ≠ 0 ∧ emptyBatchMessage ∉ delivery.outcome.errors := by
  have hevents : delivery.events = batch.events.length := congrArg (·.2.2) (key_of_deliver hd)
  rw [hevents]
  refine ⟨fun h ↦ hne (List.eq_nil_of_length_eq_zero h), ?_⟩
  rw [deliver_eq] at hd
  cases hb : (relay.busFor batch.service).1 with
  | found found =>
    rw [hb] at hd
    cases hd
    exact found.bus.emptyBatchMessage_notMem hne batch.types options _
  | refused reason =>
    rw [hb] at hd
    cases hd
    intro hm
    exact reason.message_ne (List.mem_singleton.mp hm).symm
  | aborted =>
    rw [hb] at hd
    cases hd

/-- So is each batch of a run. -/
theorem Delivers.reports {relay last : Relay σ} {options : SendOptions} {batches : List Group}
    {deliveries : List Delivery} (h : Delivers options relay batches deliveries last)
    (hne : ∀ batch ∈ batches, batch.events ≠ []) :
    ∀ delivery ∈ deliveries,
      delivery.events ≠ 0 ∧ emptyBatchMessage ∉ delivery.outcome.errors := by
  induction batches generalizing relay deliveries with
  | nil =>
    cases h
    exact fun _ hm ↦ absurd hm List.not_mem_nil
  | cons batch rest ih =>
    obtain ⟨first, next, others, hd, hrest, rfl⟩ := delivers_cons_iff.mp h
    obtain ⟨hbatch, hothers⟩ := List.forall_mem_cons.mp hne
    exact List.forall_mem_cons.mpr ⟨reports_of_deliver hbatch hd, ih hrest hothers⟩

end Relay

/-- In a session that starts with an empty queue, whatever is done in it, each submission of the
queue is a list of objects with at least one item. At any time, putting down events of which one is
no object is refused with the index and the type of the first such, and putting down no events is
accepted, and neither changes anything; any other events become one submission at the end of their
phase, and nothing else changes. A flush of the queue, by this relay or another one, reports no
batch without events and none that failed for want of them. -/
theorem Session.queue_stays_proper {σ : Type} [Transport σ] (relay : Relay σ)
    (producer : Producer) (ids : Ids) (context : Option RequestContext) (steps : List Step) :
    let start : Session σ := { relay, producer, ids, queue := { context } }
    let now := (start.run steps).2
    now.queue.IsProper ∧
    (∀ phase destination types before value after,
      (∀ event ∈ before, event.isObject) → value.isObject = false →
      ∃ reason, now.step (.submit phase destination types (before ++ value :: after)) =
          (.refused reason, now) ∧
        reason = .notAnObject before.length value.typeName ∧
        reason.message = "invalid event data: event at index " ++ toString before.length ++
          " is not an object: " ++ value.typeName) ∧
    (∀ phase destination types, now.step (.submit phase destination types []) = (.done, now)) ∧
    (∀ phase destination types events, events ≠ [] → (∀ event ∈ events, event.isObject) →
      now.step (.submit phase destination types events) =
        (.done, { now with queue := now.queue.put phase ⟨destination, types, events⟩ })) ∧
    ∀ {τ : Type} [Transport τ] (other last : Relay τ) (report : FlushReport),
      other.flush now.queue = (some report, last) → ∀ delivery ∈ report.deliveries,
        delivery.events ≠ 0 ∧ emptyBatchMessage ∉ delivery.outcome.errors := by
  intro start now
  have hproper : now.queue.IsProper := isProper_run (Queue.isProper_new context) steps
  refine ⟨hproper, ?_, fun _ _ _ ↦ rfl, ?_, ?_⟩
  · intro phase destination types before value after hbefore hvalue
    refine ⟨_, ?_, rfl, rfl⟩
    rw [step, now.queue.push_of_nonObject phase destination types hbefore hvalue after]
    rfl
  · intro phase destination types events hne hobjects
    rw [step, now.queue.push_of_objects phase destination types hne hobjects]
    rfl
  · intro τ _ other last report hflush
    exact (Relay.flush_eq_some_iff.mp hflush).1.reports fun batch hm ↦ hproper.events_ne hm

/-- A request from a client that may be known. -/
def servedRequest (clientIp : Option Net.IpAddress) : RequestContext :=
  { requestId := "r", clientIp, domain := "wiki", timestamp := ⟨⟨2024, 5, 1⟩, 8, 30, 0, 0⟩ }

/-- The producer of a wiki that signs its jobs. -/
def wikiProducer : Producer :=
  { site := ⟨"https://wiki", "/wiki/", "wiki"⟩, jobSecret := some "secret" }

/-- What happens in a request: a page is deleted, URLs are purged, and a job is put off. -/
def requestSteps (ctx : RequestContext) : List Step :=
  [.announce ctx (.pageDeleted { page := { pageId := 7, space := 0, title := "A page" } }),
    .purge ctx ["http://wiki/a", "http://wiki/b"],
    .produce .late ctx [{ type := "null" }]]

/-- Behind the events of a deletion, a purge and a job that was put off, a list is refused for its
second item, no events change nothing, and two events become the last submission. The four batches
of the flush report events, and none is said to have none. -/
theorem Session.queue_stays_proper_behind_hooks :
    let relay : Relay Script :=
      { config := mixedConfig, wire := ⟨⟨[.unreachable "down"], none⟩, [], []⟩ }
    let start : Session Script := { relay, producer := wikiProducer, ids := .constant "id" }
    let steps := requestSteps (servedRequest none)
    let now := (start.run steps).2
    let event : Json := .object []
    let more : List Step := [.submit .regular (.service "other") .events [event, event]]
    let later := (start.run (steps ++ more)).2
    now.step (.submit .regular (.stream "s") .events ([event] ++ .null :: [.bool true])) =
      (.refused (.notAnObject 1 "null"), now) ∧
    now.step (.submit .late (.stream "s") .events []) = (.done, now) ∧
    now.step (.submit .regular (.service "other") .events [event, event]) = (.done, later) ∧
    ∃ report last, relay.flush later.queue = (some report, last) ∧
      report.deliveries.map Delivery.key = [("main", .events, 1), ("main", .purges, 2),
        ("other", .events, 2), ("main", .jobs, 1)] ∧
      ∀ delivery ∈ report.deliveries,
        delivery.events ≠ 0 ∧ emptyBatchMessage ∉ delivery.outcome.errors := by
  intro relay start steps now event more later
  have hrelay : relay.IsConfigured := Relay.isConfigured_new _ _
  have hfit : mixedConfig.TimeoutsFit := by decide
  have hgroups : (later.queue.groups mixedConfig).map Group.key =
      [("main", .events, 1), ("main", .purges, 2), ("other", .events, 2), ("main", .jobs, 1)] := by
    decide +kernel
  obtain ⟨-, hrefused, hnone, hsome, -⟩ :=
    Session.queue_stays_proper relay wikiProducer (.constant "id") none steps
  obtain ⟨-, -, -, -, hflush⟩ :=
    Session.queue_stays_proper relay wikiProducer (.constant "id") none (steps ++ more)
  obtain ⟨report, last, hf⟩ := Relay.exists_flush hrelay hfit later.queue
  obtain ⟨_, hstep, rfl, -⟩ := hrefused .regular (.stream "s") .events [event] .null [.bool true]
    (by decide) rfl
  exact ⟨hstep, hnone .late (.stream "s") .events,
    hsome .regular (.service "other") .events [event, event] (List.cons_ne_nil _ _) (by decide),
    report, last, hf, (Relay.flush_eq_some_iff.mp hf).1.map_deliveries.trans hgroups,
    hflush relay last report hf⟩

end EventRelay

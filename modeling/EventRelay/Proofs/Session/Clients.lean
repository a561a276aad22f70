import EventRelay.Proofs.Session.Submissions

/-!
# The address of the client

The address of a client is part of the context of a request, and nothing that is put down while the
request is served depends on it: the same steps in another context leave the same queue. It comes
in only when the queue is flushed, as a header of the requests to services that may be told, and
there is no such header for the other services.
-/

namespace EventRelay

/-- The second context is the first one but for the address of the client. -/
def RequestContext.SameButClient (one two : RequestContext) : Prop :=
  ∃ ip, two = { one with clientIp := ip }

/-- Two steps that put the same down, in contexts that differ at most in the address of the
client. -/
inductive Step.PutsDownAlike : Step → Step → Prop
  | submit (phase : Phase) (destination : Destination) (types : EventTypes)
      (events : List Json) :
      PutsDownAlike (.submit phase destination types events)
        (.submit phase destination types events)
  | announce {one two : RequestContext} : one.SameButClient two → (change : Wiki.Change) →
      PutsDownAlike (.announce one change) (.announce two change)
  | purge {one two : RequestContext} : one.SameButClient two → (urls : List String) →
      PutsDownAlike (.purge one urls) (.purge two urls)
  | produce {one two : RequestContext} (phase : Phase) : one.SameButClient two →
      (jobs : List Job) → PutsDownAlike (.produce phase one jobs) (.produce phase two jobs)

private theorem Step.PutsDownAlike.left {one two : Step} (h : one.PutsDownAlike two) :
    one.PutsDownAlike one := by
  have same (ctx : RequestContext) : ctx.SameButClient ctx := ⟨ctx.clientIp, rfl⟩
  cases h with
  | submit phase destination types events => exact .submit phase destination types events
  | announce h change => exact .announce (same _) change
  | purge h urls => exact .purge (same _) urls
  | produce phase h jobs => exact .produce phase (same _) jobs

/-! ### What is put down -/

namespace Queue

/-- The queue for another request. -/
def inContext (queue : Queue) (context : Option RequestContext) : Queue := { queue with context }

/-- What is put down does not depend on the request that the queue is for. -/
theorem push_inContext (queue : Queue) (context : Option RequestContext) (phase : Phase)
    (destination : Destination) (types : EventTypes) (events : List Json) :
    (queue.inContext context).push phase destination types events =
      (queue.push phase destination types events).map (·.inContext context) := by
  rw [push, push]
  cases Event.checkList events with
  | error reason => rfl
  | ok =>
    cases events with
    | nil => rfl
    | cons event rest => cases phase <;> rfl

private theorem pushAll_inContext (queue : Queue) (context : Option RequestContext) (phase : Phase)
    (batches : List Producer.JobBatch) :
    (queue.inContext context).pushAll phase batches =
      (queue.pushAll phase batches).map (·.inContext context) := by
  induction batches generalizing queue with
  | nil => rfl
  | cons batch rest ih =>
    rw [pushAll_cons, pushAll_cons, push_inContext]
    cases queue.push phase (.stream batch.stream) .jobs batch.events with
    | error reason => rfl
    | ok next => exact ih next

end Queue

namespace Producer

variable {one two : RequestContext} (queue : Queue) (context : Option RequestContext)

/-- What comes of a change of a queue, with the queue for another request. -/
def resultIn (context : Option RequestContext) (result : Except RelayError Queue × Ids) :
    Except RelayError Queue × Ids :=
  (result.1.map (·.inContext context), result.2)

/-- The event of a change does not depend on the address of the client. -/
theorem announce_inContext (h : one.SameButClient two) (producer : Producer) (config : Config)
    (change : Wiki.Change) (ids : Ids) :
    producer.announce config two change ids (queue.inContext context) =
      resultIn context (producer.announce config one change ids queue) := by
  obtain ⟨ip, rfl⟩ := h
  rw [announce, announce]
  cases change.isVoid with
  | true => rfl
  | false =>
    have hevent (stream id : String) :
        change.event producer.site { one with clientIp := ip } stream id =
          change.event producer.site one stream id := by
      cases change <;> rfl
    simp only [hevent, Queue.enqueue, Queue.push_inContext, resultIn, Bool.false_eq_true, if_false]

/-- Nor do the events of purges. -/
theorem purge_inContext (h : one.SameButClient two) (config : Config) (urls : List String)
    (ids : Ids) :
    purge config two urls ids (queue.inContext context) =
      resultIn context (purge config one urls ids queue) := by
  obtain ⟨ip, rfl⟩ := h
  rw [purge, Queue.push_inContext]
  rfl

/-- Nor do those of jobs. -/
private theorem addJobs_congr (h : one.SameButClient two) (producer : Producer) (config : Config)
    (secret : String) (jobs : List Job) (ids : Ids) (batches : List JobBatch) :
    addJobs producer config two secret jobs ids batches =
      addJobs producer config one secret jobs ids batches := by
  obtain ⟨ip, rfl⟩ := h
  induction jobs generalizing ids batches with
  | nil => rfl
  | cons job rest ih =>
    rw [addJobs, addJobs]
    simp only [ih]
    rfl

private theorem produce_inContext (h : one.SameButClient two) (producer : Producer)
    (config : Config) (phase : Phase) (jobs : List Job) (ids : Ids) :
    producer.produce config phase two jobs ids (queue.inContext context) =
      resultIn context (producer.produce config phase one jobs ids queue) := by
  have hbatches : producer.jobBatches config two jobs ids =
      producer.jobBatches config one jobs ids := by
    rw [jobBatches, jobBatches]
    cases producer.jobSecret with
    | none => rfl
    | some secret => exact addJobs_congr h producer config secret jobs ids []
  rw [produce_eq, produce_eq, hbatches, resultIn]
  cases producer.jobBatches config one jobs ids with
  | error reason => rfl
  | ok batches => exact Prod.ext (queue.pushAll_inContext context phase batches) rfl

end Producer

namespace Session

variable {σ τ : Type}

/-- The session over another relay and for another request. -/
def movedTo (session : Session σ) (relay : Relay τ) (context : Option RequestContext) :
    Session τ :=
  { relay
    producer := session.producer
    ids := session.ids
    queue := session.queue.inContext context }

private theorem updated_movedTo (session : Session σ) (relay : Relay τ)
    (context : Option RequestContext) (result : Except RelayError Queue × Ids) :
    ((session.movedTo relay context).updated (Producer.resultIn context result)).2 =
      (session.updated result).2.movedTo relay context := by
  obtain ⟨_ | _, _⟩ := result <;> rfl

variable [Transport σ] [Transport τ]

/-- A step puts the same down over another relay with the same configuration and for another
request. -/
theorem step_movedTo {session : Session σ} {relay : Relay τ}
    (hconfig : relay.config = session.relay.config) (context : Option RequestContext)
    {step step' : Step} (h : step.PutsDownAlike step') :
    ((session.movedTo relay context).step step').2 =
      (session.step step).2.movedTo relay context := by
  cases h with
  | submit phase destination types events =>
    have hpush := session.queue.push_inContext context phase destination types events
    rw [Session.step, Session.step, ← updated_movedTo, Producer.resultIn, ← hpush]
    rfl
  | announce h change =>
    rw [Session.step, Session.step, ← updated_movedTo, ← Producer.announce_inContext _ _ h,
      ← hconfig]
    rfl
  | purge h urls =>
    rw [Session.step, Session.step, ← updated_movedTo, ← Producer.purge_inContext _ _ h, ← hconfig]
    rfl
  | produce phase h jobs =>
    rw [Session.step, Session.step, ← updated_movedTo, ← Producer.produce_inContext _ _ h,
      ← hconfig]
    rfl

/-- So do any number of steps. -/
theorem run_movedTo {session : Session σ} {relay : Relay τ}
    (hconfig : relay.config = session.relay.config) (context : Option RequestContext)
    {steps steps' : List Step} (h : List.Forall₂ Step.PutsDownAlike steps steps') :
    ((session.movedTo relay context).run steps').2 =
      (session.run steps).2.movedTo relay context := by
  induction h generalizing session with
  | nil => rfl
  | @cons step step' rest rest' hstep _ ih =>
    have hnext := (session.grows_step step).config_eq
    rw [run, run]
    simp only [step_movedTo hconfig context hstep]
    exact ih (hconfig.trans hnext.symm)

/-- What is put down changes neither the relay nor the request that the queue is for. -/
theorem run_eq_movedTo (session : Session σ) {steps steps' : List Step}
    (h : List.Forall₂ Step.PutsDownAlike steps steps') :
    (session.run steps).2 =
      (session.run steps).2.movedTo session.relay session.queue.context := by
  refine run_movedTo rfl session.queue.context (?_ : List.Forall₂ _ steps steps)
  induction h with
  | nil => exact .nil
  | cons hstep _ ih => exact .cons hstep.left ih

end Session

/-! ### What is told -/

/-- The service may be told who the client is. -/
def Config.MayTellClient (config : Config) (service : String) : Prop :=
  ∃ settings, config.services.lookup service = some settings ∧ settings.forwardClientIp = true

/-- The headers of a request whose client is known, or not. -/
def headersFor (client : Option Net.IpAddress) : List (String × String) :=
  ("content-type", "application/json") ::
    (client.map fun ip ↦ ("x-client-ip", ip.toText)).toList

/-- A batch with its requests for one client and with those for another one. If its service may be
told, the requests are the same but for their headers, all of them with the client that they are
for; otherwise they are the same altogether, and there is no client in them. -/
structure Config.TellsApart (config : Config) (client client' : Option Net.IpAddress)
    (one two : Group × List HttpRequest) : Prop where
  batch_eq : two.1 = one.1
  told : config.MayTellClient one.1.service →
    List.Forall₂ (fun r r' ↦ r.headers = headersFor client ∧
      r' = { r with headers := headersFor client' }) one.2 two.2
  untold : ¬ config.MayTellClient one.1.service →
    two.2 = one.2 ∧ ∀ r ∈ one.2, r.headers = headersFor none

/-- A bus that makes requests tells the client if its service may be told. -/
private theorem Config.headers_of_bus {config : Config} {name : String} {bus : Bus}
    (h : config.bus name = .found bus) {types : EventTypes}
    (henabled : bus.enabledTypes.contains types = true) (client : Option Net.IpAddress) :
    (config.MayTellClient name → bus.headers { clientIp := client } = headersFor client) ∧
    (¬ config.MayTellClient name → bus.headers { clientIp := client } = headersFor none) := by
  obtain ⟨-, rfl⟩ | ⟨-, service, hs, rfl⟩ := bus_cases h
  · simp [disabledBus] at henabled
  · obtain ⟨settings, url, timeout, hl, -, -, rfl⟩ := settings_of_service hs
    rw [Bus.headers]
    constructor
    · rintro ⟨settings', hl', hforward⟩
      cases hl.symm.trans hl'
      rw [if_pos hforward]
      rfl
    · intro hnone
      rw [if_neg fun hforward ↦ hnone ⟨settings, hl, hforward⟩]
      rfl

private theorem Config.tellsApart_nil (config : Config) (client client' : Option Net.IpAddress)
    (batch : Group) : config.TellsApart client client' (batch, []) (batch, []) :=
  ⟨rfl, fun _ ↦ .nil, fun _ ↦ ⟨rfl, fun _ hm ↦ absurd hm List.not_mem_nil⟩⟩

/-- The requests of a batch for one client, and for another one. -/
theorem Config.tellsApart_requestsFor (config : Config) (client client' : Option Net.IpAddress)
    (batch : Group) :
    config.TellsApart client client'
      (batch, config.requestsFor { clientIp := client } batch)
      (batch, config.requestsFor { clientIp := client' } batch) := by
  cases hb : config.bus batch.service with
  | refused reason =>
    simp only [requestsFor, hb]
    exact config.tellsApart_nil client client' batch
  | aborted =>
    simp only [requestsFor, hb]
    exact config.tellsApart_nil client client' batch
  | found bus =>
    simp only [requestsFor, hb, Bus.requestsOf]
    cases hc : bus.enabledTypes.contains batch.types with
    | false => exact config.tellsApart_nil client client' batch
    | true =>
      obtain ⟨htold, huntold⟩ := headers_of_bus hb hc client
      obtain ⟨htold', huntold'⟩ := headers_of_bus hb hc client'
      refine ⟨rfl, fun hmay ↦ ?_, fun hmay ↦ ?_⟩
      · rw [if_pos rfl, if_pos rfl, List.forall₂_map_left_iff, List.forall₂_map_right_iff]
        refine List.forall₂_same.mpr fun body _ ↦ ⟨htold hmay, ?_⟩
        rw [← htold' hmay]
        rfl
      · have hsame (body : String) : bus.request { clientIp := client' } body =
            bus.request { clientIp := client } body := by
          rw [Bus.request, Bus.request, huntold hmay, huntold' hmay]
        refine ⟨?_, fun request hm ↦ ?_⟩
        · rw [if_pos rfl, if_pos rfl]
          exact List.map_congr_left fun body _ ↦ hsame body
        · obtain ⟨body, -, rfl⟩ := List.mem_map.mp hm
          exact huntold hmay

namespace Session

/-- Under fitting timeouts a flush reports, and nothing appears on the wire but the requests of the
batches. -/
private theorem exists_flushed_requests {σ : Type} [Transport σ] {session : Session σ}
    (h : session.relay.IsConfigured) (hfit : session.relay.config.TimeoutsFit) :
    ∃ report after, session.step .flush = (.flushed report, after) ∧
      after.relay.wire.requests = session.relay.wire.requests ++
        (session.relay.handed session.queue).flatMap (·.2) := by
  obtain ⟨report, last, hflush, hstep⟩ := exists_flushed h hfit
  exact ⟨report, _, hstep, (Relay.flush_eq_some_iff.mp hflush).1.requests_eq h⟩

/-- The client stays private. The same steps put down for two requests, in contexts that differ at
most in the address of the client, and flushed by relays with one configuration, make the same
batches in the same order, and nothing appears on the wires but their requests. For a service that
may be told, the requests of a batch are the same but for their headers, each of them with the
address of the client of its own request, if there is one; for any other service they are the same
altogether, and have no such header. -/
theorem client_stays_private {σ τ : Type} [Transport σ] [Transport τ] (one : Relay σ)
    (two : Relay τ) (hone : one.IsConfigured) (htwo : two.IsConfigured)
    (hsame : two.config = one.config) (hfit : one.config.TimeoutsFit) (producer : Producer)
    (ids : Ids) (context context' : Option RequestContext) {steps steps' : List Step}
    (hsteps : List.Forall₂ Step.PutsDownAlike steps steps') :
    let first : Session σ := { relay := one, producer, ids, queue := { context } }
    let second : Session τ := { relay := two, producer, ids, queue := { context := context' } }
    let now := (first.run steps).2
    let now' := (second.run steps').2
    ∃ report after report' after',
      now.step .flush = (.flushed report, after) ∧
      now'.step .flush = (.flushed report', after') ∧
      after.relay.wire.requests = one.wire.requests ++ (one.handed now.queue).flatMap (·.2) ∧
      after'.relay.wire.requests = two.wire.requests ++ (two.handed now'.queue).flatMap (·.2) ∧
      List.Forall₂ (one.config.TellsApart (context.bind (·.clientIp)) (context'.bind (·.clientIp)))
        (one.handed now.queue) (two.handed now'.queue) := by
  intro first second now now'
  have hnow : now = now.movedTo one context := first.run_eq_movedTo hsteps
  have hmoved : ((first.movedTo two context').run steps').2 = now.movedTo two context' :=
    run_movedTo hsame context' hsteps
  have hnow' : now' = now.movedTo two context' := hmoved
  have hrelay : now.relay = one := congrArg relay hnow
  have hrelay' : now'.relay = two := congrArg relay hnow'
  obtain ⟨report, after, hflush, hwire⟩ :=
    now.exists_flushed_requests (by rwa [hrelay]) (by rwa [hrelay])
  obtain ⟨report', after', hflush', hwire'⟩ :=
    now'.exists_flushed_requests (by rwa [hrelay']) (by rwa [hrelay', hsame])
  rw [hrelay] at hwire
  rw [hrelay'] at hwire'
  refine ⟨report, after, report', after', hflush, hflush', hwire, hwire', ?_⟩
  -- Both queues hold the same submissions: only the requests that they are for differ.
  have hgroups : now'.queue.groups two.config = now.queue.groups one.config := by
    rw [hnow', hsame]
    rfl
  have hoptions : now.queue.options = { clientIp := context.bind (·.clientIp) } := by
    rw [hnow]
    rfl
  have hoptions' : now'.queue.options = { clientIp := context'.bind (·.clientIp) } := by
    rw [hnow']
    rfl
  rw [Relay.handed, Relay.handed, Relay.handedFor_eq hone, Relay.handedFor_eq htwo, hgroups,
    hoptions, hoptions', hsame, List.forall₂_map_left_iff, List.forall₂_map_right_iff]
  exact List.forall₂_same.mpr fun batch _ ↦ one.config.tellsApart_requestsFor _ _ batch

/-- A service that may be told who the client is and takes one event at a time, and one that may
not. -/
def tellingConfig : Config :=
  { defaultService := "main"
    services :=
      [("main", { url := some "http://main" }),
        ("edge", { url := some "http://edge", forwardClientIp := true, maxBatchBytes := some 9 })] }

/-- Behind the events of a deletion, a purge and a job that was put off, two events for the service
that may be told go out one by one, both with the address. -/
theorem client_stays_private_but_at_the_edge :
    let ip : Net.IpAddress := .v4 [192, 0, 2, 7]
    let event (n : Nat) : Json := .object [("n", .ofNat n)]
    let steps (clientIp : Option Net.IpAddress) :=
      requestSteps (servedRequest clientIp) ++
        [.submit .regular (.service "edge") .events [event 1, event 2]]
    let relay : Relay Script :=
      { config := tellingConfig, wire := ⟨⟨[.unreachable "down"], none⟩, [], []⟩ }
    let start (clientIp : Option Net.IpAddress) : Session Script :=
      { relay, producer := wikiProducer, ids := .constant "id"
        queue := { context := some (servedRequest clientIp) } }
    let now (clientIp : Option Net.IpAddress) := ((start clientIp).run (steps clientIp)).2
    tellingConfig.TimeoutsFit ∧
    List.Forall₂ Step.PutsDownAlike (steps none) (steps (some ip)) ∧
    (∃ report after, (now (some ip)).step .flush = (.flushed report, after) ∧
      after.relay.wire.requests = (relay.handed (now (some ip)).queue).flatMap (·.2)) ∧
    List.Forall₂ (tellingConfig.TellsApart none (some ip))
      (relay.handed (now none).queue) (relay.handed (now (some ip)).queue) ∧
    ((relay.handed (now (some ip)).queue).filter (·.1.service = "edge")).map
        (·.2.map (·.headers)) = [[headersFor (some ip), headersFor (some ip)]] := by
  intro ip event steps relay start now
  have hfit : tellingConfig.TimeoutsFit := by decide
  have hrelay : relay.IsConfigured := Relay.isConfigured_new _ _
  have halike : (servedRequest none).SameButClient (servedRequest (some ip)) := ⟨some ip, rfl⟩
  have hsteps : List.Forall₂ Step.PutsDownAlike (steps none) (steps (some ip)) :=
    .cons (.announce halike _) (.cons (.purge halike _) (.cons (.produce _ halike _)
      (.cons (.submit _ _ _ _) .nil)))
  obtain ⟨_, _, report, after, -, hflush, -, hwire, hapart⟩ :=
    client_stays_private relay relay hrelay hrelay rfl hfit wikiProducer (.constant "id")
      (some (servedRequest none)) (some (servedRequest (some ip))) hsteps
  refine ⟨hfit, hsteps, ⟨report, after, hflush, hwire.trans (List.nil_append _)⟩, hapart, ?_⟩
  rw [Relay.handed, Relay.handedFor_eq hrelay]
  decide +kernel

end Session

end EventRelay

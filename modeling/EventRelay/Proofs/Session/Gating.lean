import EventRelay.Proofs.Session.Lookups
import Mathlib.Data.List.Infix

/-!
# What a session may send

`Session.traffic` watches the wire: it lists the batches of a run, each with the requests that
appear while it is handed over, and nothing else appears there. A request goes to the URL of a
configured service, for a batch whose categories are all enabled, and for no other batch. What was
put down for a disabled stream, or in a category that is not enabled, makes no request: without it
a flush sends no less.
-/

namespace EventRelay

/-- A batch may go out exactly if it has a category and each of its categories is enabled. -/
theorem EventTypes.contains_iff (enabled types : EventTypes) :
    enabled.contains types = true ↔ types ≠ .none ∧ (types.event → enabled.event) ∧
      (types.job → enabled.job) ∧ (types.cdn → enabled.cdn) := by
  obtain ⟨e, j, c⟩ := enabled
  obtain ⟨e', j', c'⟩ := types
  revert e j c e' j' c'
  decide

/-- Where no category is enabled, no batch may go out. -/
@[simp] theorem EventTypes.contains_none (types : EventTypes) :
    EventTypes.none.contains types = false := by
  obtain ⟨e, j, c⟩ := types
  revert e j c
  decide

namespace Config

/-- A batch for a service may make a request to a URL: the service is configured with that URL, it
is not the one for events that go nowhere, and the categories of the batch are enabled. -/
structure Permits (config : Config) (service : String) (types : EventTypes) (url : String) :
    Prop where
  service_ne : service ≠ disabledService
  configured : ∃ settings raw, config.services.lookup service = some settings ∧
    settings.url = some raw ∧ url = Text.trim raw
  url_ne : url ≠ ""
  types_ne : types ≠ .none
  event : types.event → config.enabledTypes.event
  job : types.job → config.enabledTypes.job
  cdn : types.cdn → config.enabledTypes.cdn

/-- The URL of a destination is the one of its settings without white space around it. -/
private theorem url_of_service {config : Config} {name : String} {service : ServiceConfig}
    (h : config.service name = .found service) :
    ∃ settings raw, config.services.lookup name = some settings ∧ settings.url = some raw ∧
      service.url = Text.trim raw ∧ service.url ≠ "" := by
  obtain ⟨settings, url, _, hl, hu, -, rfl⟩ := settings_of_service h
  obtain ⟨hmap, hne⟩ := Option.filter_eq_some_iff.mp hu
  obtain ⟨raw, hraw, rfl⟩ := Option.map_eq_some_iff.mp hmap
  exact ⟨settings, raw, hl, hraw, rfl, by simpa using hne⟩

/-- What a bus of the configuration requests is permitted. -/
private theorem permits_of_mem_requestsOf {config : Config} {name : String} {bus : Bus}
    (h : config.bus name = .found bus) {payload : Payload} {types : EventTypes}
    {options : SendOptions} {request : HttpRequest}
    (hr : request ∈ bus.requestsOf payload types options) :
    config.Permits name types request.url := by
  rw [Bus.requestsOf] at hr
  cases hc : bus.enabledTypes.contains types with
  | false => simp [hc] at hr
  | true =>
    obtain ⟨body, -, rfl⟩ := List.mem_map.mp (by simpa [hc] using hr)
    obtain ⟨hne, hevent, hjob, hcdn⟩ := (EventTypes.contains_iff _ _).mp hc
    obtain ⟨-, rfl⟩ | ⟨hname, service, hs, rfl⟩ := bus_cases h
    · -- The bus for events that go nowhere takes no category.
      simp [disabledBus] at hc
    · obtain ⟨settings, raw, hl, hu, hurl, hurlne⟩ := url_of_service hs
      exact ⟨hname, ⟨settings, raw, hl, hu, hurl⟩, hurlne, hne, hevent, hjob, hcdn⟩

/-- What a batch requests is permitted. -/
theorem permits_of_mem_requestsFor {config : Config} {options : SendOptions} {batch : Group}
    {request : HttpRequest} (h : request ∈ config.requestsFor options batch) :
    config.Permits batch.service batch.types request.url := by
  unfold requestsFor at h
  split at h
  · next bus hb => exact permits_of_mem_requestsOf hb h
  · cases h

end Config

/-! ### Watching the wire -/

/-- A batch that is handed over, with the requests that are made of it. -/
structure Handover where
  service : String
  types : EventTypes
  requests : List HttpRequest

/-- What appears on a wire is what batches request, and all of it is permitted. -/
structure Config.Gates {σ : Type} (config : Config) (first last : Wire σ)
    (handovers : List Handover) : Prop where
  requests_eq : last.requests = first.requests ++ handovers.flatMap (·.requests)
  permits : ∀ handover ∈ handovers, ∀ request ∈ handover.requests,
    config.Permits handover.service handover.types request.url

namespace Config.Gates

variable {σ : Type} {config : Config} {first second third : Wire σ}

private theorem refl (wire : Wire σ) : config.Gates wire wire [] := ⟨by simp, by simp⟩

private theorem append {handovers others : List Handover} (h : config.Gates first second handovers)
    (h' : config.Gates second third others) : config.Gates first third (handovers ++ others) := by
  refine ⟨?_, fun handover hm ↦ ?_⟩
  · rw [h'.requests_eq, h.requests_eq, List.flatMap_append, List.append_assoc]
  · exact (List.mem_append.mp hm).elim (h.permits handover) (h'.permits handover)

end Config.Gates

namespace Session

variable {σ : Type} [Transport σ]

/-- The batches that a step hands over, each with the requests that appear on the wire meanwhile. -/
def handovers (session : Session σ) : Step → List Handover
  | .flush =>
    let reached := session.relay.config.reached (session.queue.groups session.relay.config)
    (session.relay.handedFor session.queue.options reached).map fun handed ↦
      ⟨handed.1.service, handed.1.types, handed.2⟩
  | .send target payload types options =>
    let after := (session.step (.send target payload types options)).2
    [⟨target.serviceName session.relay.config, types,
      after.relay.wire.requests.drop session.relay.wire.requests.length⟩]
  | _ => []

/-- The batches that are handed over by several steps. -/
def traffic (session : Session σ) : List Step → List Handover
  | [] => []
  | step :: rest => session.handovers step ++ (session.step step).2.traffic rest

/-- What a flush puts on the wire. -/
theorem gates_flush {session : Session σ} (h : session.relay.IsConfigured) :
    session.relay.config.Gates session.relay.wire (session.step .flush).2.relay.wire
      (session.handovers .flush) := by
  rw [handovers, Relay.handedFor_eq h]
  refine ⟨?_, ?_⟩
  · rw [step, relay_flush, Relay.requests_flush h]
    simp [List.flatMap_map]
  · simp only [List.map_map, List.mem_map]
    rintro handover ⟨batch, -, rfl⟩ request hr
    exact Config.permits_of_mem_requestsFor hr

/-- A send leaves the wire as it is, or goes through the bus that the configuration gives. -/
private theorem wire_send_cases {session : Session σ} (h : session.relay.IsConfigured)
    (target : Target) (payload : Payload) (types : EventTypes) (options : SendOptions) :
    let after := (session.step (.send target payload types options)).2.relay.wire
    after = session.relay.wire ∨
      ∃ bus, session.relay.config.bus (target.serviceName session.relay.config) = .found bus ∧
        after = (bus.send payload types options session.relay.wire).2 := by
  intro after
  obtain hstep | ⟨he, -⟩ | ⟨_, he, -⟩ | ⟨_, _, _, _, found, looked, he, hb, hstep⟩ :=
    session.step_cases (.send target payload types options)
  · exact .inl (congrArg Relay.wire hstep)
  · cases he
  · cases he
  · cases he
    have hwire := session.relay.wire_busFor (target.serviceName session.relay.config)
    have hbus := Relay.busFor_of_isConfigured h (target.serviceName session.relay.config)
    rw [hb] at hwire hbus
    refine .inr ⟨found.bus, hbus.symm, ?_⟩
    rw [← hwire]
    exact congrArg Relay.wire hstep

/-- What a send puts on the wire. -/
theorem gates_send {session : Session σ} (h : session.relay.IsConfigured) (target : Target)
    (payload : Payload) (types : EventTypes) (options : SendOptions) :
    session.relay.config.Gates session.relay.wire
      (session.step (.send target payload types options)).2.relay.wire
      (session.handovers (.send target payload types options)) := by
  have hsent : ∃ requests,
      (session.step (.send target payload types options)).2.relay.wire.requests =
        session.relay.wire.requests ++ requests ∧
      ∀ request ∈ requests, session.relay.config.Permits
        (target.serviceName session.relay.config) types request.url := by
    obtain hwire | ⟨bus, hbus, hwire⟩ := wire_send_cases h target payload types options
    · rw [hwire]
      exact ⟨[], by simp, by simp⟩
    · rw [hwire]
      exact ⟨_, bus.requests_send payload types options session.relay.wire,
        fun request hr ↦ Config.permits_of_mem_requestsOf hbus hr⟩
  obtain ⟨requests, hwire, hpermits⟩ := hsent
  rw [handovers, hwire, List.drop_left]
  refine ⟨by simpa using hwire, fun handover hm ↦ ?_⟩
  obtain rfl := List.mem_singleton.mp hm
  exact hpermits

/-- Sending to a stream that is disabled leaves the wire as it is. -/
theorem wire_send_of_disabled {session : Session σ} (h : session.relay.IsConfigured)
    {stream : String} (hr : session.relay.config.route stream = .disabled) (payload : Payload)
    (types : EventTypes) (options : SendOptions) :
    (session.step (.send (.stream stream) payload types options)).2.relay.wire =
      session.relay.wire := by
  obtain hwire | ⟨bus, hbus, hwire⟩ := wire_send_cases h (.stream stream) payload types options
  · exact hwire
  · rw [Target.serviceName, hr, Route.serviceName, Config.bus, if_pos rfl] at hbus
    cases hbus
    simp [hwire, Bus.send, Config.disabledBus]

/-- What a step puts on the wire. -/
theorem gates_step {session : Session σ} (h : session.relay.IsConfigured) (step : Step) :
    session.relay.config.Gates session.relay.wire (session.step step).2.relay.wire
      (session.handovers step) := by
  have quiet {relay : Relay σ} (hw : relay.wire = session.relay.wire) :
      session.relay.config.Gates session.relay.wire relay.wire [] := hw ▸ .refl _
  cases step with
  | newQueue context => exact .refl _
  | submit phase destination types events => exact quiet (by rw [step, relay_updated])
  | announce ctx change => exact quiet (by rw [step, relay_updated])
  | purge ctx urls => exact quiet (by rw [step, relay_updated])
  | produce phase ctx jobs => exact quiet (by rw [step, relay_updated])
  | lookup target => exact quiet (by rw [relay_lookup, Relay.wire_busFor])
  | flush => exact gates_flush h
  | send target payload types options => exact gates_send h target payload types options

/-- What any number of steps put on the wire. -/
theorem gates_run {session : Session σ} (h : session.relay.IsConfigured) (steps : List Step) :
    session.relay.config.Gates session.relay.wire (session.run steps).2.relay.wire
      (session.traffic steps) := by
  induction steps generalizing session with
  | nil => exact .refl _
  | cons step rest ih =>
    have hg := session.grows_step step
    have hrest := ih (hg.isConfigured h)
    rw [hg.config_eq] at hrest
    exact (gates_step h step).append hrest

end Session

/-! ### What makes no request -/

/-- Whether what has a key may be sent. -/
def Config.admits (config : Config) (key : BatchKey) : Bool :=
  key.1 ≠ disabledService ∧ config.enabledTypes.contains key.2

/-- A queue without the submissions that may not be sent. -/
def Queue.permitted (config : Config) (queue : Queue) : Queue :=
  { queue with
    pending := queue.pending.filter fun s ↦ (s.key? config).any config.admits
    late := queue.late.filter fun s ↦ (s.key? config).any config.admits }

private theorem Queue.groups_permitted (config : Config) (queue : Queue) :
    (queue.permitted config).groups config =
      (queue.groups config).filter fun batch ↦ config.admits (batch.service, batch.types) := by
  simp only [groups, permitted, Group.ofSubmissions_eq, Submission.batches_filter,
    List.filter_append]

namespace Config

/-- A batch that may not be sent makes no request. -/
private theorem requestsFor_of_not_admits {config : Config} {batch : Group}
    (h : config.admits (batch.service, batch.types) = false) (options : SendOptions) :
    config.requestsFor options batch = [] := by
  refine List.eq_nil_iff_forall_not_mem.mpr fun request hr ↦ ?_
  have hp := permits_of_mem_requestsFor hr
  have hc := (EventTypes.contains_iff config.enabledTypes batch.types).mpr
    ⟨hp.types_ne, hp.event, hp.job, hp.cdn⟩
  simp [admits, hp.service_ne, hc] at h

/-- The requests of batches are those of the ones that may be sent. -/
private theorem flatMap_requestsFor_filter (config : Config) (options : SendOptions)
    (batches : List Group) :
    (batches.filter fun batch ↦ config.admits (batch.service, batch.types)).flatMap
        (config.requestsFor options) =
      batches.flatMap (config.requestsFor options) := by
  induction batches with
  | nil => rfl
  | cons batch rest ih =>
    cases h : config.admits (batch.service, batch.types) with
    | false => simp [h, ih, requestsFor_of_not_admits h]
    | true => simp [h, ih]

/-- Fewer batches are not given up any earlier. -/
private theorem reached_filter (config : Config) (p : Group → Bool) (batches : List Group) :
    (config.reached batches).filter p <+: config.reached (batches.filter p) := by
  induction batches with
  | nil => exact List.prefix_refl _
  | cons batch rest ih =>
    by_cases ha : config.bus batch.service = .aborted
    · simp [reached, ha]
    · cases hp : p batch with
      | false => simpa [reached, ha, hp] using ih
      | true => simpa [reached, ha, hp] using ih

end Config

/-- A flush requests nothing for what may not be sent. -/
theorem Relay.requests_flush_permitted {σ : Type} [Transport σ] {relay : Relay σ}
    (h : relay.IsConfigured) (queue : Queue) :
    (relay.flush queue).2.wire.requests <+:
      (relay.flush (queue.permitted relay.config)).2.wire.requests := by
  rw [requests_flush h, requests_flush h, Queue.groups_permitted, List.prefix_append_right_inj,
    ← Config.flatMap_requestsFor_filter]
  exact List.IsPrefix.flatMap (Config.reached_filter _ _ _) _

/-- A batch of a queue holds the events of one phase that have its key, and no others. -/
theorem Queue.events_of_mem_groups {config : Config} {queue : Queue} {batch : Group}
    (h : batch ∈ queue.groups config) :
    ∃ phase, batch.events =
      Submission.eventsOf config (batch.service, batch.types) (queue.submissions phase) := by
  have one {submissions : List Submission} (hm : batch ∈ Group.ofSubmissions config submissions) :
      batch.events =
        Submission.eventsOf config (batch.service, batch.types) submissions := by
    rw [Group.ofSubmissions_eq] at hm
    obtain ⟨key, -, rfl⟩ := List.mem_map.mp hm
    rfl
  rcases List.mem_append.mp h with hm | hm
  · exact ⟨.regular, one hm⟩
  · exact ⟨.late, one hm⟩

/-- In any session, what appears on the wire is what the batches of its flushes and sends request.
Each request goes to the URL of a configured service, which is neither empty nor the URL of the name
for events that go nowhere, for a batch with categories that are all enabled. At any time, sending
to a disabled stream puts nothing on the wire, and a flush puts nothing there that it would not put
there without the submissions for disabled streams and in categories that are not enabled; a batch
holds the events of submissions in its own category only. -/
theorem Session.requests_are_gated {σ : Type} [Transport σ] (config : Config) (wire : Wire σ)
    (producer : Producer) (ids : Ids) (queue : Queue) (steps : List Step) :
    let start : Session σ := { relay := { config, wire }, producer, ids, queue }
    let now := (start.run steps).2
    now.relay.wire.requests =
      wire.requests ++ (start.traffic steps).flatMap (·.requests) ∧
    (∀ handover ∈ start.traffic steps, ∀ request ∈ handover.requests,
      config.Permits handover.service handover.types request.url) ∧
    (∀ stream payload types options, config.route stream = .disabled →
      (now.step (.send (.stream stream) payload types options)).2.relay.wire = now.relay.wire) ∧
    ((now.step .flush).2.relay.wire.requests <+:
      (({ now with queue := now.queue.permitted config }).step .flush).2.relay.wire.requests) ∧
    ∀ batch ∈ now.queue.groups config, ∃ phase,
      batch.events =
        Submission.eventsOf config (batch.service, batch.types) (now.queue.submissions phase) := by
  intro start now
  have hstart : start.relay.IsConfigured := Relay.isConfigured_new config wire
  have hgrows : start.relay.Grows now.relay := start.grows_run steps
  have hnow : now.relay.IsConfigured := hgrows.isConfigured hstart
  have hconfig : now.relay.config = config := hgrows.config_eq
  have hgates := gates_run hstart steps
  refine ⟨hgates.requests_eq, hgates.permits, fun stream payload types options hr ↦ ?_, ?_,
    fun batch hm ↦ Queue.events_of_mem_groups hm⟩
  · exact wire_send_of_disabled hnow (hconfig ▸ hr) payload types options
  · rw [step, relay_flush, step, relay_flush, ← hconfig]
    exact Relay.requests_flush_permitted hnow now.queue

/-- `mixedConfig` with white space around a URL, settings for the name of events that go nowhere,
and change events alone enabled. -/
def pickyConfig : Config :=
  { mixedConfig with
    enabledTypes := .events
    services := [("main", { url := some " http://main\n" }),
      (disabledService, { url := some "http://off" })] }

/-- Of a batch in each category and of sends with no category and to the name for events that go
nowhere, change events alone make a request. -/
theorem Session.requests_are_gated_picky :
    let start : Session Script :=
      { relay := { config := pickyConfig, wire := ⟨⟨[.unreachable "down"], none⟩, [], []⟩ }
        producer := { site := ⟨"https://wiki", "/wiki/", "wiki"⟩ }
        ids := Ids.constant "id" }
    let event (n : Nat) : Json := .object [("n", .ofNat n)]
    let steps : List Step :=
      [.submit .regular (.stream "s.off") .events [event 0],
        .submit .regular (.service "main") .jobs [event 1],
        .submit .late (.stream "s") .events [event 2],
        .flush,
        .send (.service "main") (.events [event 3]) .none {},
        .send (.service disabledService) (.text "[1]") .events {}]
    let now := (start.run steps).2
    (start.traffic steps).map (fun h ↦ (h.service, h.types, h.requests.map (·.url))) =
      [("main", .jobs, []), ("main", .events, ["http://main"]), ("main", .none, []),
        (disabledService, .events, [])] ∧
    pickyConfig.Permits "main" .events "http://main" ∧
    (now.step (.send (.stream "s.off") (.text "[1]") .events {})).2.relay.wire =
      now.relay.wire := by
  intro start event steps now
  have htraffic : (start.traffic steps).map
      (fun h ↦ (h.service, h.types, h.requests.map (·.url))) =
      [("main", .jobs, []), ("main", .events, ["http://main"]), ("main", .none, []),
        (disabledService, .events, [])] := by decide +kernel
  obtain ⟨-, hpermits, hdisabled, -⟩ := Session.requests_are_gated pickyConfig start.relay.wire
    start.producer start.ids start.queue steps
  have hsent : ("main", EventTypes.events, ["http://main"]) ∈ (start.traffic steps).map
      (fun h ↦ (h.service, h.types, h.requests.map (·.url))) := by
    rw [htraffic]
    decide
  obtain ⟨handover, hm, he⟩ := List.mem_map.mp hsent
  obtain ⟨hservice, htypes, hurls⟩ : handover.service = "main" ∧ handover.types = .events ∧
      handover.requests.map (·.url) = ["http://main"] := by simpa using he
  obtain ⟨request, hr, hurl⟩ := List.mem_map.mp (hurls ▸ List.mem_singleton_self "http://main")
  have hpermit := hpermits handover hm request hr
  rw [hservice, htypes, hurl] at hpermit
  exact ⟨htraffic, hpermit, hdisabled "s.off" (.text "[1]") .events {} (by decide)⟩

end EventRelay

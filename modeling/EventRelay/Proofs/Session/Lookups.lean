import EventRelay.Proofs.Delivery.Growth
import EventRelay.Session

/-!
# Asking for buses in a session

Each step of a session leaves its relay as it is, or has it deliver the queue, look up a bus or send
through one. So whatever was done before, a look-up gives what it gives in a new process, and always
the same bus for the same service; and a flush does what it does in a new process.
-/

namespace EventRelay

/-- The name of the service that a bus is asked for. -/
def Target.serviceName (config : Config) : Target → String
  | .service name => name
  | .stream name => (config.route name).serviceName
  | .default => config.defaultService

namespace Session

variable {σ : Type}

theorem busOf_eq (relay : Relay σ) (target : Target) :
    busOf relay target = relay.busFor (target.serviceName relay.config) := by
  cases target <;> rfl

theorem relay_updated (session : Session σ) (result : Except RelayError Queue × Ids) :
    (session.updated result).2.relay = session.relay := by
  obtain ⟨_ | _, _⟩ := result <;> rfl

variable [Transport σ]

theorem relay_flush (session : Session σ) :
    session.flush.2.relay = (session.relay.flush session.queue).2 := by
  rw [flush]
  rcases session.relay.flush session.queue with ⟨_ | _, _⟩ <;> rfl

/-- Under fitting timeouts a flush ends with a report. -/
theorem exists_flushed {session : Session σ} (h : session.relay.IsConfigured)
    (hfit : session.relay.config.TimeoutsFit) :
    ∃ report last, session.relay.flush session.queue = (some report, last) ∧
      session.step .flush = (.flushed report, { session with relay := last, queue := {} }) := by
  obtain ⟨report, last, hflush⟩ := Relay.exists_flush h hfit session.queue
  exact ⟨report, last, hflush, by simp [step, flush, hflush]⟩

theorem relay_lookup (session : Session σ) (target : Target) :
    (session.step (.lookup target)).2.relay =
      (session.relay.busFor (target.serviceName session.relay.config)).2 := by
  rw [step, withBus, busOf_eq]
  rcases session.relay.busFor (target.serviceName session.relay.config) with ⟨_ | _ | _, _⟩ <;> rfl

/-- A step leaves the relay as it is, delivers the queue, asks for a bus, or sends through a bus
that was asked for. -/
theorem step_cases (session : Session σ) (step : Step) :
    (session.step step).2.relay = session.relay ∨
    (step = .flush ∧ (session.step step).2.relay = (session.relay.flush session.queue).2) ∨
    (∃ target, step = .lookup target ∧ (session.step step).2.relay =
      (session.relay.busFor (target.serviceName session.relay.config)).2) ∨
    (∃ target payload types options found looked, step = .send target payload types options ∧
      session.relay.busFor (target.serviceName session.relay.config) = (.found found, looked) ∧
      (session.step step).2.relay = (looked.send found.bus payload types options).2) := by
  cases step with
  | newQueue context => exact .inl rfl
  | submit phase destination types events => exact .inl (relay_updated _ _)
  | announce ctx change => exact .inl (relay_updated _ _)
  | purge ctx urls => exact .inl (relay_updated _ _)
  | produce phase ctx jobs => exact .inl (relay_updated _ _)
  | flush => exact .inr (.inl ⟨rfl, relay_flush session⟩)
  | lookup target => exact .inr (.inr (.inl ⟨target, rfl, relay_lookup session target⟩))
  | send target payload types options =>
    rw [step, withBus, busOf_eq]
    obtain ⟨found, _, h⟩ | ⟨_, bus, _, h⟩ | ⟨_, _, _, h⟩ | ⟨_, _, h⟩ :=
      session.relay.busFor_cases (target.serviceName session.relay.config)
    · rw [h]
      exact .inr (.inr (.inr ⟨target, payload, types, options, found, _, rfl, h, rfl⟩))
    · rw [h]
      exact .inr (.inr (.inr ⟨target, payload, types, options, _, _, rfl, h, rfl⟩))
    · rw [h]
      exact .inl rfl
    · rw [h]
      exact .inl rfl

/-- A step keeps what a relay keeps. -/
theorem grows_step (session : Session σ) (step : Step) :
    session.relay.Grows (session.step step).2.relay := by
  obtain h | ⟨-, h⟩ | ⟨target, -, h⟩ | ⟨target, _, _, _, _, looked, -, hb, h⟩ :=
    session.step_cases step
  · rw [h]
    exact .refl _
  · rw [h]
    exact session.relay.grows_flush session.queue
  · rw [h]
    exact session.relay.grows_busFor _
  · have hlooked := session.relay.grows_busFor (target.serviceName session.relay.config)
    rw [hb] at hlooked
    rw [h]
    exact hlooked.trans (looked.grows_send _ _ _ _)

/-- Any number of steps keep what a relay keeps. -/
theorem grows_run (session : Session σ) (steps : List Step) :
    session.relay.Grows (session.run steps).2.relay := by
  induction steps generalizing session with
  | nil => exact .refl _
  | cons step rest ih => exact (session.grows_step step).trans (ih (session.step step).2)

/-- What is found in a look-up is what the relay finds. -/
theorem step_lookup_eq_found_iff {session : Session σ} {target : Target} {found : BusSlot} :
    (session.step (.lookup target)).1 = .found found ↔
      (session.relay.busFor (target.serviceName session.relay.config)).1 = .found found := by
  rw [step, withBus, busOf_eq]
  rcases session.relay.busFor (target.serviceName session.relay.config) with ⟨_ | _ | _, _⟩ <;> simp

/-- A look-up that the relay refuses is refused and changes nothing. -/
theorem step_lookup_of_refused {session : Session σ} {target : Target} {reason : RelayError}
    (h : session.relay.busFor (target.serviceName session.relay.config) =
      (.refused reason, session.relay)) :
    session.step (.lookup target) = (.refused reason, session) := by
  rw [step, withBus, busOf_eq, h]

/-- A bus that is found in a look-up has the name of its service and is kept from then on. -/
theorem keeps_of_step_lookup {session : Session σ} {target : Target} {found : BusSlot}
    (h : (session.step (.lookup target)).1 = .found found) :
    found.bus.service.name = target.serviceName session.relay.config ∧
      (session.step (.lookup target)).2.relay.Keeps found := by
  have hb := step_lookup_eq_found_iff.mp h
  rcases hf : session.relay.busFor (target.serviceName session.relay.config) with ⟨_, last⟩
  rw [hf] at hb
  cases hb
  have hlast : (session.step (.lookup target)).2.relay = last := by rw [step, withBus, busOf_eq, hf]
  rw [hlast]
  exact Relay.keeps_of_busFor hf

/-- Two buses that are found one after the other are for one service exactly if they stand in one
place, and then they are the same. -/
theorem slot_eq_iff_of_lookups {session : Session σ} {first second : Target} {between : List Step}
    {found found' : BusSlot} (h : (session.step (.lookup first)).1 = .found found)
    (h' : (((session.step (.lookup first)).2.run between).2.step (.lookup second)).1 =
      .found found') :
    (found.slot = found'.slot ↔
      first.serviceName session.relay.config = second.serviceName session.relay.config) ∧
      (found.slot = found'.slot → found = found') := by
  -- The buses are compared at the end, where the first one is still in its place.
  let later := ((session.step (.lookup first)).2.run between).2
  have hlater : (session.step (.lookup first)).2.relay.Grows later.relay :=
    (session.step (.lookup first)).2.grows_run between
  obtain ⟨hname, hkept⟩ := keeps_of_step_lookup h
  obtain ⟨hname', hkept'⟩ := keeps_of_step_lookup h'
  have hconfig : later.relay.config = session.relay.config :=
    ((session.grows_step (.lookup first)).trans hlater).config_eq
  have hend := (hkept.mono hlater).mono (later.grows_step (.lookup second))
  have hsame : found.slot = found'.slot → found = found' := hend.eq_of_slot_eq hkept'
  rw [hconfig] at hname'
  refine ⟨⟨fun hs ↦ ?_, fun hn ↦ ?_⟩, hsame⟩
  · rw [← hname, ← hname', hsame hs]
  · unfold Relay.Keeps at hend hkept'
    rw [hname, hn, ← hname', hkept'] at hend
    cases hend
    rfl

end Session

/-- Under fitting timeouts, whatever a process did before: a look-up finds a bus exactly where a new
process does, with the same service and categories, and is refused for the same reason otherwise,
which changes nothing. Two buses that are found at any two times are one and the same if they are
for one service, and stand in different places if not. A flush of any queue on any wire gives the
report that a new relay gives, and makes the same calls and records. -/
theorem Session.lookups_are_transparent {σ : Type} [Transport σ] (config : Config)
    (hfit : config.TimeoutsFit) (wire : Wire σ) (producer : Producer) (ids : Ids) (queue : Queue)
    (steps : List Step) :
    let fresh : Relay σ := { config, wire }
    let now := (Session.run { relay := fresh, producer, ids, queue } steps).2
    (∀ target : Target,
      (∃ found slot, (busOf fresh target).1 = .found found ∧
        (now.step (.lookup target)).1 = .found ⟨slot, found.bus⟩) ∨
      (∃ reason, (busOf fresh target).1 = .refused reason ∧
        now.step (.lookup target) = (.refused reason, now))) ∧
    (∀ (first second : Target) (between : List Step) (found found' : BusSlot),
      (now.step (.lookup first)).1 = .found found →
      (((now.step (.lookup first)).2.run between).2.step (.lookup second)).1 = .found found' →
      (found.slot = found'.slot ↔ first.serviceName config = second.serviceName config) ∧
        (found.slot = found'.slot → found = found')) ∧
    ∀ {τ : Type} [Transport τ] (other : Wire τ) (queue : Queue), ∃ report last last',
      Relay.flush { config, wire := other, buses := now.relay.buses } queue = (some report, last) ∧
      Relay.flush { config, wire := other } queue = (some report, last') ∧
      last.wire = last'.wire := by
  intro fresh now
  have hfresh : fresh.IsConfigured := Relay.isConfigured_new config wire
  have hgrows : fresh.Grows now.relay :=
    Session.grows_run { relay := fresh, producer, ids, queue } steps
  have hnow : now.relay.IsConfigured := hgrows.isConfigured hfresh
  have hconfig : now.relay.config = config := hgrows.config_eq
  refine ⟨fun target ↦ ?_, fun first second between found found' h h' ↦ ?_,
    fun other queue ↦ ?_⟩
  · rw [busOf_eq]
    have hreply (found : BusSlot) := @step_lookup_eq_found_iff σ _ now target found
    have hrefused (reason : RelayError) := @step_lookup_of_refused σ _ now target reason
    rw [hconfig] at hreply hrefused
    have hbus : now.relay.config.bus (target.serviceName config) =
        config.bus (target.serviceName config) := by rw [hconfig]
    cases hb : config.bus (target.serviceName config) with
    | found bus =>
      obtain ⟨slot, _, hf⟩ := Relay.exists_busFor_of_found hfresh hb
      obtain ⟨slot', _, hf'⟩ := Relay.exists_busFor_of_found hnow (hbus.trans hb)
      exact .inl ⟨⟨slot, bus⟩, slot', by rw [hf], (hreply _).mpr (by rw [hf'])⟩
    | refused reason =>
      have hf := Relay.busFor_of_refused hfresh hb
      have hf' := Relay.busFor_of_refused hnow (hbus.trans hb)
      exact .inr ⟨reason, by rw [hf], hrefused reason hf'⟩
    | aborted => exact absurd hb (Config.bus_ne_aborted hfit _)
  · rw [← hconfig]
    exact slot_eq_iff_of_lookups h h'
  · have hused : Relay.IsConfigured { config, wire := other, buses := now.relay.buses } := by
      intro bus hm
      have hb := hnow bus hm
      rwa [hconfig] at hb
    obtain ⟨report, last, hf⟩ := Relay.exists_flush hused hfit queue
    let unused : Relay _ := { config, wire := other }
    have hunused : unused.IsConfigured := Relay.isConfigured_new config other
    obtain ⟨hreport, hwire⟩ := Relay.flush_agrees hunused hused rfl rfl queue
    rw [hf] at hreport hwire
    exact ⟨report, last, (unused.flush queue).2, hf, Prod.ext hreport.symm rfl, hwire⟩

/-- In a process that looked up a bus and an unknown service and flushed a queue, a disabled stream
and the name behind it have one bus, and the default service has another one. -/
theorem Session.lookups_are_transparent_mixed :
    let start : Session Script :=
      { relay := { config := mixedConfig, wire := ⟨⟨[.unreachable "down"], none⟩, [], []⟩ }
        producer := { site := ⟨"https://wiki", "/wiki/", "wiki"⟩ }
        ids := Ids.constant "id"
        queue := Queue.ofCalls none mixedCalls }
    let now := (start.run [.lookup (.stream "s.other"), .lookup (.service "c"), .flush]).2
    let asked := now.step (.lookup (.stream "s.off"))
    mixedConfig.TimeoutsFit ∧
    ∃ found disabled default, asked.1 = .found found ∧
      ((asked.2.run []).2.step (.lookup (.service disabledService))).1 = .found disabled ∧
      ((asked.2.run []).2.step (.lookup .default)).1 = .found default ∧
      found.slot = disabled.slot ∧ found.slot ≠ default.slot := by
  intro start now asked
  have hfit : mixedConfig.TimeoutsFit := by decide
  have hasked : asked.1 = .found ⟨2, mixedConfig.disabledBus⟩ :=
    step_lookup_eq_found_iff.mpr (by decide +kernel)
  have hdisabled : ((asked.2.run []).2.step (.lookup (.service disabledService))).1 =
      .found ⟨2, mixedConfig.disabledBus⟩ := step_lookup_eq_found_iff.mpr (by decide +kernel)
  obtain ⟨slot, bus, hdefault⟩ : ∃ slot bus, ((asked.2.run []).2.step (.lookup .default)).1 =
      .found ⟨slot, bus⟩ :=
    ⟨1, ⟨⟨"main", "http://main", defaultTimeout, 4194304, false⟩, .all⟩,
      step_lookup_eq_found_iff.mpr (by decide +kernel)⟩
  obtain ⟨-, hsame, -⟩ := Session.lookups_are_transparent mixedConfig hfit start.relay.wire
    start.producer start.ids start.queue
    [.lookup (.stream "s.other"), .lookup (.service "c"), .flush]
  have hone := hsame (.stream "s.off") (.service disabledService) [] _ _ hasked hdisabled
  have hother := hsame (.stream "s.off") .default [] _ _ hasked hdefault
  exact ⟨hfit, _, _, _, hasked, hdisabled, hdefault, hone.1.mpr (by decide),
    hother.1.not.mpr (by decide)⟩

end EventRelay

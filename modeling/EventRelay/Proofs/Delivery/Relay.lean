import EventRelay.Delivery.Relay

/-!
# Laws of the relay

A relay never changes its configuration, asking for a bus sends and logs nothing, and no lookup is
given up while every timeout of the configuration fits a duration.
-/

namespace EventRelay

namespace Config

/-- Every service waits for a time that is a duration. -/
def TimeoutsFit (config : Config) : Prop :=
  ∀ entry ∈ config.services, entry.2.waiting?.isSome

instance (config : Config) : Decidable config.TimeoutsFit :=
  inferInstanceAs (Decidable (∀ entry ∈ config.services, _))

/-- Under fitting timeouts no destination is given up. -/
theorem service_ne_aborted {config : Config} (h : config.TimeoutsFit) (name : String) :
    config.service name ≠ .aborted := by
  unfold service
  cases hl : config.services.lookup name with
  | none => simp
  | some settings =>
    obtain ⟨before, after, he, -⟩ := List.lookup_eq_some_iff.mp hl
    have hw := h (name, settings) (by simp [he])
    obtain ⟨timeout, ht⟩ := Option.isSome_iff_exists.mp hw
    simp only [ht]
    cases settings.usableUrl? <;> simp

/-- Under fitting timeouts every bus is found or refused. -/
theorem bus_ne_aborted {config : Config} (h : config.TimeoutsFit) (name : String) :
    config.bus name ≠ .aborted := by
  unfold bus
  split
  · simp
  · cases hs : config.service name with
    | found service => simp [Lookup.map]
    | refused reason => simp [Lookup.map]
    | aborted => exact absurd hs (service_ne_aborted h name)

/-- A destination that is found has the settings of its service, and the limit of the configuration
where they set none. -/
theorem settings_of_service {config : Config} {name : String} {service : ServiceConfig}
    (h : config.service name = .found service) :
    ∃ settings url timeout, config.services.lookup name = some settings ∧
      settings.usableUrl? = some url ∧ settings.waiting? = some timeout ∧
      service = ⟨name, url, timeout, settings.maxBatchBytes.getD config.maxBatchBytes,
        settings.forwardClientIp⟩ := by
  unfold Config.service at h
  split at h
  · cases h
  · next settings hl =>
    split at h
    · cases h
    · cases h
    · next url timeout hu hw =>
      cases h
      exact ⟨settings, url, timeout, hl, hu, hw, rfl⟩

/-- A bus is the one for events that go nowhere, or the one for a destination. -/
theorem bus_cases {config : Config} {name : String} {bus : Bus}
    (h : config.bus name = .found bus) :
    (name = disabledService ∧ bus = config.disabledBus) ∨
    (name ≠ disabledService ∧ ∃ service, config.service name = .found service ∧
      bus = ⟨service, config.enabledTypes⟩) := by
  unfold Config.bus at h
  split at h
  · next hd =>
    cases h
    exact .inl ⟨hd, rfl⟩
  · next hd =>
    cases hs : config.service name with
    | found service =>
      rw [hs] at h
      cases h
      exact .inr ⟨hd, service, rfl, rfl⟩
    | refused reason =>
      rw [hs] at h
      cases h
    | aborted =>
      rw [hs] at h
      cases h

/-- A bus has the name of the service that it was made for. -/
theorem name_of_bus {config : Config} {name : String} {bus : Bus}
    (h : config.bus name = .found bus) : bus.service.name = name := by
  obtain ⟨rfl, rfl⟩ | ⟨-, service, hs, rfl⟩ := bus_cases h
  · rfl
  · obtain ⟨_, _, _, -, -, -, rfl⟩ := settings_of_service hs
    rfl

end Config

namespace Relay

variable {σ : Type}

/-- Asking for a bus adds one to the relay, or changes nothing. -/
theorem busFor_cases (relay : Relay σ) (name : String) :
    (∃ found, findFrom? name 0 relay.buses = some found ∧
      relay.busFor name = (.found found, relay)) ∨
    (findFrom? name 0 relay.buses = none ∧ ∃ bus, relay.config.bus name = .found bus ∧
      relay.busFor name =
        (.found ⟨relay.buses.length, bus⟩, { relay with buses := relay.buses ++ [bus] })) ∨
    (findFrom? name 0 relay.buses = none ∧ ∃ reason, relay.config.bus name = .refused reason ∧
      relay.busFor name = (.refused reason, relay)) ∨
    (findFrom? name 0 relay.buses = none ∧ relay.config.bus name = .aborted ∧
      relay.busFor name = (.aborted, relay)) := by
  unfold busFor
  cases findFrom? name 0 relay.buses with
  | some found => exact .inl ⟨found, rfl, rfl⟩
  | none =>
    cases relay.config.bus name with
    | found bus => exact .inr (.inl ⟨rfl, bus, rfl, rfl⟩)
    | refused reason => exact .inr (.inr (.inl ⟨rfl, reason, rfl, rfl⟩))
    | aborted => exact .inr (.inr (.inr ⟨rfl, rfl, rfl⟩))

/-- Asking for a bus keeps the configuration. -/
@[simp] theorem config_busFor (relay : Relay σ) (name : String) :
    (relay.busFor name).2.config = relay.config := by
  obtain ⟨_, _, h⟩ | ⟨_, _, _, h⟩ | ⟨_, _, _, h⟩ | ⟨_, _, h⟩ := relay.busFor_cases name <;> rw [h]

/-- Under fitting timeouts asking for a bus is never given up. -/
theorem busFor_ne_aborted {relay : Relay σ} (h : relay.config.TimeoutsFit) (name : String) :
    (relay.busFor name).1 ≠ .aborted := by
  obtain ⟨_, _, hb⟩ | ⟨_, _, _, hb⟩ | ⟨_, _, _, hb⟩ | ⟨_, ha, _⟩ := relay.busFor_cases name
  · simp [hb]
  · simp [hb]
  · simp [hb]
  · exact absurd ha (Config.bus_ne_aborted h name)

/-- Sending keeps the configuration. -/
@[simp] theorem config_send [Transport σ] (relay : Relay σ) (bus : Bus) (payload : Payload)
    (types : EventTypes) (options : SendOptions) :
    (relay.send bus payload types options).2.config = relay.config := rfl

/-- Logging keeps the configuration. -/
@[simp] theorem config_note (relay : Relay σ) (records : List LogRecord) :
    (relay.note records).config = relay.config := rfl

@[simp] theorem note_nil (relay : Relay σ) : relay.note [] = relay := by
  simp [note, Wire.note]

/-! ### The buses that are kept -/

/-- Every bus that is kept is the one that the configuration gives for its service. -/
def IsConfigured (relay : Relay σ) : Prop :=
  ∀ bus ∈ relay.buses, relay.config.bus bus.service.name = .found bus

/-- A new relay keeps no bus. -/
theorem isConfigured_new (config : Config) (wire : Wire σ) :
    IsConfigured ({ config, wire } : Relay σ) := fun _ h ↦ nomatch h

/-- A bus that is found in a list is one of it and has the name that was looked for. -/
theorem mem_of_findFrom? {name : String} {slot : Nat} {buses : List Bus} {found : BusSlot}
    (h : findFrom? name slot buses = some found) :
    found.bus ∈ buses ∧ found.bus.service.name = name := by
  induction buses generalizing slot with
  | nil => cases h
  | cons bus rest ih =>
    rw [findFrom?] at h
    split at h
    · next hname =>
      cases h
      exact ⟨List.mem_cons_self, hname⟩
    · obtain ⟨hm, hname⟩ := ih h
      exact ⟨List.mem_cons_of_mem _ hm, hname⟩

/-- Asking for a bus gives what the configuration gives, whatever was asked for before. -/
theorem busFor_of_isConfigured {relay : Relay σ} (h : relay.IsConfigured) (name : String) :
    (relay.busFor name).1.map (·.bus) = relay.config.bus name := by
  obtain ⟨found, hf, hb⟩ | ⟨-, bus, hc, hb⟩ | ⟨-, reason, hc, hb⟩ | ⟨-, hc, hb⟩ :=
    relay.busFor_cases name
  · obtain ⟨hm, hname⟩ := mem_of_findFrom? hf
    rw [hb, ← hname]
    exact (h found.bus hm).symm
  · rw [hb, hc]
    rfl
  · rw [hb, hc]
    rfl
  · rw [hb, hc]
    rfl

/-- Asking for a bus keeps the buses as the configuration gives them. -/
theorem isConfigured_busFor {relay : Relay σ} (h : relay.IsConfigured) (name : String) :
    (relay.busFor name).2.IsConfigured := by
  obtain ⟨_, -, hb⟩ | ⟨-, bus, hc, hb⟩ | ⟨-, _, -, hb⟩ | ⟨-, -, hb⟩ := relay.busFor_cases name
  · rwa [hb]
  · rw [hb]
    intro kept hk
    rcases List.mem_append.mp hk with hk | hk
    · exact h kept hk
    · rw [List.mem_singleton.mp hk]
      exact (congrArg relay.config.bus (Config.name_of_bus hc)).trans hc
  · rwa [hb]
  · rwa [hb]

/-- Asking for a bus leaves the wire as it is. -/
@[simp] theorem wire_busFor (relay : Relay σ) (name : String) :
    (relay.busFor name).2.wire = relay.wire := by
  obtain ⟨_, _, h⟩ | ⟨_, _, _, h⟩ | ⟨_, _, _, h⟩ | ⟨_, _, h⟩ := relay.busFor_cases name <;> rw [h]

end Relay
end EventRelay

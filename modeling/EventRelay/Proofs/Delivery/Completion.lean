import EventRelay.Config.Reader
import EventRelay.Proofs.Config.Timeout
import EventRelay.Proofs.Delivery.Traffic

/-!
# When a flush ends with a report

A service with a positive timeout that fits no duration is given up, and with it the flush in which
a batch of that service stands: no later batch is delivered. No other settings have that effect.
-/

namespace EventRelay

/-- The bus for a service is given up exactly if the service has a timeout that fits no duration
and is not the one for events that go nowhere. -/
theorem Config.bus_eq_aborted_iff (config : Config) (name : String) :
    config.bus name = .aborted ↔ name ≠ disabledService ∧ config.WaitsTooLong name := by
  rw [← service_eq_aborted_iff, bus]
  split
  · next hname => simp [hname]
  · next hname => cases config.service name <;> simp [hname, Lookup.map]

/-- A service whose timeout fits a duration, or that waits for the default time, is found under
its name or refused, because it is unknown or has no URL. So a flush of whatever queue ends with a
report exactly if no batch is for a service with a timeout that fits no duration, and a report has
one delivery for each batch. -/
theorem Relay.flush_ends_iff {σ : Type} [Transport σ] (relay : Relay σ) (h : relay.IsConfigured)
    (queue : Queue) :
    (∀ name, ¬ relay.config.WaitsTooLong name →
      (∃ service, relay.config.service name = .found service ∧ service.name = name) ∨
        relay.config.service name = .refused (.unknownService name) ∨
        relay.config.service name = .refused (.missingUrl name)) ∧
    ((∃ report last, relay.flush queue = (some report, last)) ↔
      ∀ batch ∈ queue.groups relay.config,
        batch.service ≠ disabledService → ¬ relay.config.WaitsTooLong batch.service) ∧
    ∀ report last, relay.flush queue = (some report, last) →
      report.deliveries.map Delivery.key = (queue.groups relay.config).map Group.key := by
  refine ⟨fun name hname ↦ ?_, ?_, fun report last hf ↦ ?_⟩
  · have hne := (relay.config.service_eq_aborted_iff name).not.mpr hname
    obtain hf | hr | hr | ha := relay.config.service_cases name
    · exact .inl hf
    · exact .inr (.inl hr)
    · exact .inr (.inr hr)
    · exact absurd ha hne
  · rw [Relay.exists_flush_iff h]
    simp only [ne_eq, Config.bus_eq_aborted_iff, not_and]
  · exact (Relay.flush_eq_some_iff.mp hf).1.map_deliveries

/-- Two services, the second of which waits longer than any duration. -/
def patientText : String :=
  "default_service = \"a\"\n" ++
  "[services.a]\nurl = \"http://a\"\n" ++
  "[services.b]\nurl = \"http://b\"\ntimeout_secs = 1e20\n"

/-- A new relay with these services. -/
def patientRelay : Relay Script :=
  { config := (Config.parse? patientText).getD {}, wire := ⟨⟨[], none⟩, [], []⟩ }

/-- Events for a service and for the default one behind it. -/
def patientCalls (name : String) : List Queue.Call :=
  [⟨.regular, .service name, .events, [.object []]⟩, ⟨.regular, .stream "s", .jobs, [.object []]⟩]

/-- A flush ends although a service is configured that waits too long, as no batch is for it. -/
theorem Relay.flush_ends_iff_unconcerned :
    patientRelay.IsConfigured ∧
    ∃ report last,
      patientRelay.flush (Queue.ofCalls none (patientCalls "c")) = (some report, last) ∧
      report.deliveries.map Delivery.key = [("c", .events, 1), ("a", .jobs, 1)] := by
  have h : patientRelay.IsConfigured := Relay.isConfigured_new _ _
  have hgroups : ((Queue.ofCalls none (patientCalls "c")).groups patientRelay.config).map
      Group.key = [("c", .events, 1), ("a", .jobs, 1)] := by
    decide +kernel
  have hfound : ∀ key ∈ [("c", EventTypes.events, 1), ("a", .jobs, 1)],
      patientRelay.config.service key.1 ≠ .aborted := by
    decide +kernel
  obtain ⟨-, hends, hkeys⟩ :=
    Relay.flush_ends_iff patientRelay h (Queue.ofCalls none (patientCalls "c"))
  obtain ⟨report, last, hf⟩ := hends.mpr fun batch hm _ hlong ↦ by
    rw [← Config.service_eq_aborted_iff] at hlong
    exact hfound batch.key (hgroups ▸ List.mem_map_of_mem hm) hlong
  exact ⟨h, report, last, hf, (hkeys report last hf).trans hgroups⟩

/-- A readable configuration under which the service of one batch is neither found nor refused:
the flush gives no report, and the batch behind it is lost though its service can be used. -/
theorem Relay.flush_given_up :
    (Config.parse? patientText).isSome ∧
    patientRelay.config.service "b" = .aborted ∧
    (patientRelay.config.bus "a").map (·.service.url) = .found "http://a" ∧
    (patientRelay.flush (Queue.ofCalls none (patientCalls "b"))).1 = none ∧
    (patientRelay.flush (Queue.ofCalls none (patientCalls "b"))).2.wire.calls = [] := by
  decide +kernel

end EventRelay

import EventRelay.Proofs.Delivery.Grouping
import EventRelay.Proofs.Delivery.Queueing
import EventRelay.Proofs.Delivery.Relay

/-!
# What a flush delivers

`Relay.Delivers` is delivery said as a relation: each batch in turn is handed to the bus of its
service, or refused with the reason why there is no such bus. Under fitting timeouts a flush of a
queue that was filled by any calls delivers the batches by key, first those of the regular
submissions and then those of the late ones, and every event that was put down is in one of them
or is counted as dropped.
-/

namespace EventRelay

namespace Relay

variable {σ : Type} [Transport σ]

/-- Batches are delivered one after the other. -/
inductive Delivers (options : SendOptions) :
    Relay σ → List Group → List Delivery → Relay σ → Prop
  | done (relay : Relay σ) : Delivers options relay [] [] relay
  /-- The batch is handed to the bus of its service. -/
  | sent {relay looked sent last : Relay σ} {batch : Group} {rest : List Group} {found : BusSlot}
      {outcome : Outcome} {deliveries : List Delivery} :
      relay.busFor batch.service = (.found found, looked) →
      looked.send found.bus (.events batch.events) batch.types options = (outcome, sent) →
      Delivers options sent rest deliveries last →
      Delivers options relay (batch :: rest)
        (⟨batch.service, batch.types, batch.events.length, outcome⟩ :: deliveries) last
  /-- There is no bus for the service of the batch. -/
  | refused {relay looked last : Relay σ} {batch : Group} {rest : List Group}
      {reason : RelayError} {deliveries : List Delivery} :
      relay.busFor batch.service = (.refused reason, looked) →
      Delivers options
        (looked.note [.unresolved batch.service batch.events.length reason]) rest deliveries last →
      Delivers options relay (batch :: rest)
        (⟨batch.service, batch.types, batch.events.length, .failed [reason.message]⟩ :: deliveries)
        last

namespace Delivers

variable {options : SendOptions} {relay last : Relay σ} {batches : List Group}
  {deliveries : List Delivery}

/-- There is one delivery for each batch, with its key and the number of its events. -/
theorem map_deliveries (h : Delivers options relay batches deliveries last) :
    deliveries.map (fun d ↦ (d.service, d.types, d.events)) =
      batches.map fun b ↦ (b.service, b.types, b.events.length) := by
  induction h with
  | done relay => rfl
  | sent _ _ _ ih => rw [List.map_cons, List.map_cons, ih]
  | refused _ _ ih => rw [List.map_cons, List.map_cons, ih]

/-- Delivering keeps the configuration. -/
theorem config_eq (h : Delivers options relay batches deliveries last) :
    last.config = relay.config := by
  induction h with
  | done relay => rfl
  | @sent relay looked sent last batch rest found outcome deliveries hb hs _ ih =>
    have hl := relay.config_busFor batch.service
    have hn := looked.config_send found.bus (.events batch.events) batch.types options
    rw [hb] at hl
    rw [hs] at hn
    exact ih.trans (hn.trans hl)
  | @refused relay looked last batch rest reason deliveries hb _ ih =>
    have hl := relay.config_busFor batch.service
    rw [hb] at hl
    exact ih.trans ((looked.config_note _).trans hl)

end Delivers

/-- Under fitting timeouts every batch has a delivery. -/
theorem exists_delivers {relay : Relay σ} (hfit : relay.config.TimeoutsFit)
    (options : SendOptions) (batches : List Group) :
    ∃ deliveries last, relay.deliverAll options batches = (some deliveries, last) ∧
      Delivers options relay batches deliveries last := by
  induction batches generalizing relay with
  | nil => exact ⟨[], relay, rfl, .done relay⟩
  | cons batch rest ih =>
    have hc := relay.config_busFor batch.service
    have hn := busFor_ne_aborted hfit batch.service
    rcases hb : relay.busFor batch.service with ⟨found | reason | _, looked⟩
    · rw [hb] at hc
      rcases hs : looked.send found.bus (.events batch.events) batch.types options with
        ⟨outcome, sent⟩
      have hsc : sent.config = relay.config := by
        rw [← hc, ← looked.config_send found.bus (.events batch.events) batch.types options, hs]
      obtain ⟨deliveries, last, hd, hr⟩ := @ih sent (by rwa [hsc])
      exact ⟨_, last, by simp [deliverAll, deliver, hb, hs, hd], .sent hb hs hr⟩
    · rw [hb] at hc
      let noted := looked.note [.unresolved batch.service batch.events.length reason]
      have hnc : noted.config = relay.config := (looked.config_note _).trans hc
      obtain ⟨deliveries, last, hd, hr⟩ := @ih noted (by rwa [hnc])
      exact ⟨_, last, by simp [deliverAll, deliver, hb, noted, hd], .refused hb hr⟩
    · exact absurd (by rw [hb]) hn

end Relay

open Submission Queue.Call in
/-- Under fitting timeouts, whatever the state of the relay and of its transport, a flush of a
queue that was filled by calls delivers one batch for each key of the regular submissions, in
order of first appearance, and then one for each key of the late ones. A batch holds the events of
all submissions of its phase with its key, in order; the events without a key are dropped. So each
accepted event is in one batch or is dropped. -/
theorem Relay.flush_delivers_batches {σ : Type} [Transport σ] (relay : Relay σ)
    (hfit : relay.config.TimeoutsFit) (context : Option RequestContext)
    (calls : List Queue.Call) :
    let queue := Queue.ofCalls context calls
    let regular := stored .regular calls
    let late := stored .late calls
    let batches := batches relay.config regular ++ batches relay.config late
    let dropped := keyless relay.config regular ++ keyless relay.config late
    ∃ deliveries last,
      relay.flush queue = (some ⟨deliveries, dropped.length⟩, last) ∧
      relay.Delivers queue.options batches deliveries last ∧
      deliveries.map (fun d ↦ (d.service, d.types)) =
        keys relay.config regular ++ keys relay.config late ∧
      deliveries.map (·.events) = batches.map (·.events.length) ∧
      (accepted calls).Perm (batches.flatMap (·.events) ++ dropped) := by
  intro queue regular late batches dropped
  have hreg : queue.pending = regular := Queue.submissions_ofCalls context calls .regular
  have hlate : queue.late = late := Queue.submissions_ofCalls context calls .late
  have hgroups : queue.groups relay.config = batches := by
    rw [Queue.groups, Group.ofSubmissions_eq, Group.ofSubmissions_eq, hreg, hlate]
  have hdropped : queue.dropped relay.config = dropped.length := by
    rw [Queue.dropped, Group.dropped_eq, Group.dropped_eq, hreg, hlate, List.length_append]
  obtain ⟨deliveries, last, hd, hr⟩ := Relay.exists_delivers hfit queue.options batches
  have hmap := hr.map_deliveries
  refine ⟨deliveries, last, ?_, hr, ?_, ?_, ?_⟩
  · rw [← hr.config_eq] at hdropped
    simp [Relay.flush, hgroups, hd, hdropped]
  · have := congrArg (List.map fun t : String × EventTypes × Nat ↦ (t.1, t.2.1)) hmap
    simpa [batches, Submission.batches, Function.comp_def] using this
  · have := congrArg (List.map fun t : String × EventTypes × Nat ↦ t.2.2) hmap
    simpa [Function.comp_def] using this
  · refine (perm_accepted calls).trans ?_
    have hr := Group.perm_ofSubmissions relay.config regular
    have hl := Group.perm_ofSubmissions relay.config late
    rw [Group.ofSubmissions_eq] at hr hl
    simp only [batches, dropped, List.flatMap_append]
    exact (hr.append hl).trans (perm_append_exchange _ _ _ _)

/-- Two services, a stream for the second one and a stream that is disabled. -/
def mixedConfig : Config :=
  { defaultService := "main"
    services := [("main", { url := some "http://main" }), ("other", { url := some "http://other" })]
    streams :=
      [("s.other", { destination := some "other" }),
        ("s.off", { producers := [("mediawiki_eventbus", { enabled := some false })] })] }

/-- Calls for both phases, one of which is for the disabled stream and one is refused. -/
def mixedCalls : List Queue.Call :=
  let event (n : Nat) : Json := .object [("n", .ofNat n)]
  [⟨.late, .stream "s.other", .events, [event 0]⟩, ⟨.regular, .stream "s", .events, [event 1]⟩,
    ⟨.regular, .stream "s.off", .events, [event 2]⟩, ⟨.regular, .stream "s", .events, [.null]⟩,
    ⟨.regular, .stream "s.other", .jobs, [event 3]⟩,
    ⟨.regular, .service "main", .events, [event 4, event 5]⟩]

/-- A mixed queue on a relay that was used before and whose transport fails at first. -/
theorem Relay.flush_delivers_batches_mixed :
    mixedConfig.TimeoutsFit ∧
    ∃ deliveries last,
      Relay.flush ⟨mixedConfig, ⟨Script.mk [.unreachable "down"] none, [], []⟩,
          [mixedConfig.disabledBus]⟩ (Queue.ofCalls none mixedCalls) =
        (some ⟨deliveries, 1⟩, last) ∧
      deliveries.map (fun d ↦ (d.service, d.types)) =
        [("main", .events), ("other", .jobs), ("other", .events)] ∧
      deliveries.map (·.events) = [3, 1, 1] := by
  have hfit : mixedConfig.TimeoutsFit := by decide
  obtain ⟨deliveries, last, hf, -, hk, hn, -⟩ := Relay.flush_delivers_batches
    ⟨mixedConfig, ⟨Script.mk [.unreachable "down"] none, [], []⟩, [mixedConfig.disabledBus]⟩
    hfit none mixedCalls
  exact ⟨hfit, deliveries, last, hf, hk.trans (by decide), hn.trans (by decide)⟩

end EventRelay

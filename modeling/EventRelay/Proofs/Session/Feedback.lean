import EventRelay.Proofs.Delivery.Agreement
import EventRelay.Proofs.Session.Lookups

/-!
# No feedback from what is answered

Two sessions that start alike and take the same steps over any transports make the same calls, keep
the same queue and give the same replies up to the outcomes in them. An answer is reported and
logged, and that is all that becomes of it: no step looks at an outcome of an earlier one.
-/

namespace EventRelay

/-- Two replies that differ at most in the outcomes of what was sent. -/
inductive Reply.Agrees : Reply → Reply → Prop
  | same (reply : Reply) : Agrees reply reply
  /-- The reports name the same batches, and as many events were dropped. -/
  | flushed {one two : FlushReport} :
      two.deliveries.map (·.key) = one.deliveries.map (·.key) → two.dropped = one.dropped →
      Agrees (.flushed one) (.flushed two)
  | sent (one two : Outcome) : Agrees (.sent one) (.sent two)

namespace Session

variable {σ τ : Type}

/-- Two sessions that differ at most in their logs, their transports and the states of these. -/
structure Agrees (one : Session σ) (two : Session τ) : Prop where
  relay : one.relay.Agrees two.relay
  producer_eq : two.producer = one.producer
  ids_eq : two.ids = one.ids
  queue_eq : two.queue = one.queue

namespace Agrees

variable {one : Session σ} {two : Session τ}

private theorem updated (h : one.Agrees two) (result : Except RelayError Queue × Ids) :
    (one.updated result).1.Agrees (two.updated result).1 ∧
      (one.updated result).2.Agrees (two.updated result).2 := by
  obtain ⟨reason | queue, ids⟩ := result
  · exact ⟨.same _, h.relay, h.producer_eq, rfl, h.queue_eq⟩
  · exact ⟨.same _, h.relay, h.producer_eq, rfl, rfl⟩

private theorem withBus (h : one.Agrees two) (target : Target)
    {act : BusSlot → Relay σ → Reply × Relay σ} {act' : BusSlot → Relay τ → Reply × Relay τ}
    (hact : ∀ found (looked : Relay σ) (looked' : Relay τ), looked.Agrees looked' →
      (act found looked).1.Agrees (act' found looked').1 ∧
        (act found looked).2.Agrees (act' found looked').2) :
    (one.withBus target act).1.Agrees (two.withBus target act').1 ∧
      (one.withBus target act).2.Agrees (two.withBus target act').2 := by
  obtain ⟨hfound, hlooked⟩ := h.relay.busFor (target.serviceName one.relay.config)
  rw [Session.withBus, Session.withBus, busOf_eq, busOf_eq, h.relay.config_eq]
  rcases hone : one.relay.busFor (target.serviceName one.relay.config) with ⟨answer, looked⟩
  rcases htwo : two.relay.busFor (target.serviceName one.relay.config) with ⟨answer', looked'⟩
  rw [hone, htwo] at hfound hlooked
  obtain rfl : answer' = answer := hfound
  cases answer' with
  | found found =>
    obtain ⟨hreply, hlast⟩ := hact found looked looked' hlooked
    exact ⟨hreply, hlast, h.producer_eq, h.ids_eq, h.queue_eq⟩
  | refused reason => exact ⟨.same _, hlooked, h.producer_eq, h.ids_eq, h.queue_eq⟩
  | aborted => exact ⟨.same _, hlooked, h.producer_eq, h.ids_eq, h.queue_eq⟩

variable [Transport σ] [Transport τ]

private theorem flush (h : one.Agrees two) :
    one.flush.1.Agrees two.flush.1 ∧ one.flush.2.Agrees two.flush.2 := by
  obtain ⟨houtline, hlast⟩ := h.relay.flush one.queue
  rw [Session.flush, Session.flush, h.queue_eq]
  rcases hone : one.relay.flush one.queue with ⟨_ | report, last⟩ <;>
    rcases htwo : two.relay.flush one.queue with ⟨_ | report', last'⟩ <;>
    rw [hone, htwo] at houtline hlast
  · exact ⟨.same _, hlast, h.producer_eq, h.ids_eq, rfl⟩
  · cases houtline
  · cases houtline
  · obtain ⟨hkeys, hdropped⟩ := Prod.ext_iff.mp (Option.some.inj houtline)
    exact ⟨.flushed hkeys hdropped, hlast, h.producer_eq, h.ids_eq, rfl⟩

/-- One step. -/
theorem step (h : one.Agrees two) (step : Step) :
    (one.step step).1.Agrees (two.step step).1 ∧ (one.step step).2.Agrees (two.step step).2 := by
  cases step with
  | newQueue context => exact ⟨.same _, h.relay, h.producer_eq, h.ids_eq, rfl⟩
  | submit phase destination types events =>
    rw [Session.step, Session.step, h.queue_eq, h.ids_eq]
    exact h.updated _
  | announce ctx change =>
    rw [Session.step, Session.step, h.queue_eq, h.ids_eq, h.producer_eq, h.relay.config_eq]
    exact h.updated _
  | purge ctx urls =>
    rw [Session.step, Session.step, h.queue_eq, h.ids_eq, h.relay.config_eq]
    exact h.updated _
  | produce phase ctx jobs =>
    rw [Session.step, Session.step, h.queue_eq, h.ids_eq, h.producer_eq, h.relay.config_eq]
    exact h.updated _
  | flush => exact h.flush
  | lookup target => exact h.withBus target fun found _ _ hl ↦ ⟨.same _, hl⟩
  | send target payload types options =>
    exact h.withBus target fun found _ _ hl ↦
      ⟨.sent _ _, hl.send found.bus payload types options⟩

/-- Any number of steps. -/
theorem run (h : one.Agrees two) (steps : List Step) :
    List.Forall₂ Reply.Agrees (one.run steps).1 (two.run steps).1 ∧
      (one.run steps).2.Agrees (two.run steps).2 := by
  induction steps generalizing one two with
  | nil => exact ⟨.nil, h⟩
  | cons step rest ih =>
    obtain ⟨hreply, hnext⟩ := h.step step
    obtain ⟨hreplies, hlast⟩ := ih hnext
    exact ⟨.cons hreply hreplies, hlast⟩

end Agrees
end Session

/-- Two sessions start with the same configuration, producer, source of ids, queue, buses and calls
behind them, but over any transports in any states and with any logs. Whatever is done in both, the
replies differ at most in outcomes: flushes report the same services, categories and numbers of
events and the same number of dropped ones. After any number of the steps both have made the same
calls with the same requests, and have the same queue; they differ in nothing but the transports
and the logs. -/
theorem Session.answers_feed_nothing_back {σ τ : Type} [Transport σ] [Transport τ]
    (config : Config) (producer : Producer) (ids : Ids) (queue : Queue) (buses : List Bus)
    (calls : List (List HttpRequest)) (first : σ) (second : τ) (log otherLog : List LogRecord)
    (steps : List Step) :
    let one : Session σ :=
      { relay := { config, wire := { state := first, calls, log }, buses }, producer, ids, queue }
    let two : Session τ :=
      { relay := { config, wire := { state := second, calls, log := otherLog }, buses }
        producer, ids, queue }
    List.Forall₂ Reply.Agrees (one.run steps).1 (two.run steps).1 ∧
    ∀ n,
      let now := (one.run (steps.take n)).2
      let otherNow := (two.run (steps.take n)).2
      otherNow.relay.wire.calls = now.relay.wire.calls ∧
      otherNow.relay.wire.requests = now.relay.wire.requests ∧
      otherNow.queue.length = now.queue.length ∧
      now.Agrees otherNow := by
  intro one two
  have hstart : one.Agrees two := ⟨⟨rfl, rfl, rfl⟩, rfl, rfl, rfl⟩
  refine ⟨(hstart.run steps).1, ?_⟩
  intro n now otherNow
  have hnow : now.Agrees otherNow := (hstart.run (steps.take n)).2
  have hcalls := hnow.relay.calls_eq
  exact ⟨hcalls, congrArg List.flatten hcalls, congrArg Queue.length hnow.queue_eq, hnow⟩

end EventRelay

import EventRelay.Proofs.Delivery.Traffic

/-!
# Whatever is answered

Two relays over any transports agree if they have the same configuration, the same buses and the
same calls behind them. Whatever they do, they still agree afterwards: what the one transport
answers and the other does not shows in the outcomes that are reported and in the log, and nothing
that is done later depends on either.
-/

namespace EventRelay

/-- What a report says besides the outcomes. -/
def FlushReport.outline (report : FlushReport) : List (String × EventTypes × Nat) × Nat :=
  (report.deliveries.map (·.key), report.dropped)

namespace Relay

variable {σ τ : Type}

/-- Two relays that differ at most in their logs, their transports and the states of these. -/
structure Agrees (one : Relay σ) (two : Relay τ) : Prop where
  config_eq : two.config = one.config
  buses_eq : two.buses = one.buses
  calls_eq : two.wire.calls = one.wire.calls

namespace Agrees

variable {one : Relay σ} {two : Relay τ}

private theorem note (h : one.Agrees two) (records others : List LogRecord) :
    (one.note records).Agrees (two.note others) := ⟨h.config_eq, h.buses_eq, h.calls_eq⟩

/-- Which bus is given is decided by the configuration and the buses that there are. -/
theorem busFor (h : one.Agrees two) (name : String) :
    (two.busFor name).1 = (one.busFor name).1 ∧
      (one.busFor name).2.Agrees (two.busFor name).2 := by
  simp only [Relay.busFor, h.config_eq, h.buses_eq]
  split
  · exact ⟨rfl, h⟩
  · split
    · exact ⟨rfl, rfl, rfl, h.calls_eq⟩
    · exact ⟨rfl, h⟩
    · exact ⟨rfl, h⟩

variable [Transport σ] [Transport τ]

/-- What is sent through a bus is decided by the bus and the payload. -/
theorem send (h : one.Agrees two) (bus : Bus) (payload : Payload) (types : EventTypes)
    (options : SendOptions) :
    (one.send bus payload types options).2.Agrees (two.send bus payload types options).2 := by
  refine ⟨h.config_eq, h.buses_eq, ?_⟩
  have hone := bus.calls_send payload types options one.wire
  have htwo := bus.calls_send payload types options two.wire
  rw [h.calls_eq] at htwo
  exact htwo.trans hone.symm

/-- A batch is delivered by both or given up by both. -/
theorem deliver (h : one.Agrees two) (options : SendOptions) (batch : Group) :
    (two.deliver options batch).1.map (·.key) = (one.deliver options batch).1.map (·.key) ∧
      (one.deliver options batch).2.Agrees (two.deliver options batch).2 := by
  obtain ⟨hfound, hlooked⟩ := h.busFor batch.service
  rw [deliver_eq, deliver_eq, hfound]
  cases (one.busFor batch.service).1 with
  | found found => exact ⟨rfl, hlooked.send found.bus (.events batch.events) batch.types options⟩
  | refused reason => exact ⟨rfl, hlooked.note _ _⟩
  | aborted => exact ⟨rfl, hlooked⟩

/-- No outcome of a batch keeps the batches behind it from being delivered. -/
theorem deliverAll (h : one.Agrees two) (options : SendOptions) (batches : List Group) :
    (two.deliverAll options batches).1.map (List.map (·.key)) =
        (one.deliverAll options batches).1.map (List.map (·.key)) ∧
      (one.deliverAll options batches).2.Agrees (two.deliverAll options batches).2 := by
  induction batches generalizing one two with
  | nil => exact ⟨rfl, h⟩
  | cons batch rest ih =>
    obtain ⟨hkey, hnext⟩ := h.deliver options batch
    rw [Relay.deliverAll, Relay.deliverAll]
    rcases hone : one.deliver options batch with ⟨_ | first, next⟩ <;>
      rcases htwo : two.deliver options batch with ⟨_ | first', next'⟩ <;>
      rw [hone, htwo] at hkey hnext
    · exact ⟨rfl, hnext⟩
    -- A batch that only one of the two gives up would have a key for the other alone.
    · cases hkey
    · cases hkey
    · obtain ⟨hkeys, hlast⟩ := ih hnext
      refine ⟨?_, hlast⟩
      rw [Option.map_some, Option.map_some, Option.some.injEq] at hkey
      simpa [Function.comp_def, hkey] using congrArg (Option.map (first.key :: ·)) hkeys

/-- Two flushes report the same batches and the same number of dropped events, or both are given
up. -/
theorem flush (h : one.Agrees two) (queue : Queue) :
    (two.flush queue).1.map (·.outline) = (one.flush queue).1.map (·.outline) ∧
      (one.flush queue).2.Agrees (two.flush queue).2 := by
  obtain ⟨hkeys, hlast⟩ := h.deliverAll queue.options (queue.groups one.config)
  rw [Relay.flush, Relay.flush, h.config_eq]
  refine ⟨?_, hlast⟩
  simpa [FlushReport.outline, Function.comp_def, hlast.config_eq] using
    congrArg (Option.map (·, queue.dropped (one.deliverAll queue.options _).2.config)) hkeys

end Agrees
end Relay
end EventRelay

import EventRelay.Proofs.Delivery.Flush
import EventRelay.Proofs.Delivery.Partition

/-!
# What a batch hands to the transport

`Config.requestsFor` gives the requests of a batch by the configuration alone. What appears on the
wire while a batch is delivered is one call with them, or none if there are none, whatever the
transport answered before and whichever buses were asked for: `Relay.handedFor` watches the wire,
and `handedFor_eq` says what it sees. A flush ends with a report exactly if the configuration gives
up the service of no batch.
-/

namespace EventRelay

/-- Bodies that are made of events are never none at all. -/
private theorem ne_nil_of_bodiesOfEvents? {limit : Nat} {events : List Json} {bodies : List String}
    (h : bodiesOfEvents? limit events = some bodies) : bodies ≠ [] := by
  intro hnil
  rw [bodiesOfEvents?] at h
  split at h
  · cases h
  · next hevents =>
    cases h
    have hcut := SubBatch.cut_eq_nil_iff.mp (List.map_eq_nil_iff.mp hnil)
    exact hevents (List.isEmpty_iff.mpr hcut)

private theorem Payload.ne_nil_of_bodies? {limit : Nat} {payload : Payload} {bodies : List String}
    (h : payload.bodies? limit = some bodies) : bodies ≠ [] := by
  cases payload with
  | events events => exact ne_nil_of_bodiesOfEvents? h
  | text body =>
    have hone (text : String) : [text] ≠ [] := List.cons_ne_nil _ _
    simp only [Payload.bodies?, bodiesOfText?] at h
    split at h
    · cases h
    · split at h
      · cases h
        exact hone _
      · split at h
        · exact ne_nil_of_bodiesOfEvents? h
        · exact ne_nil_of_bodiesOfEvents? h
        · cases h
          exact hone _

private theorem flatten_call (requests : List HttpRequest) :
    ([requests].filter (· ≠ [])).flatten = requests := by
  by_cases h : requests = [] <;> simp [h]

namespace Bus

/-- The requests that a bus makes of a payload. -/
def requestsOf (bus : Bus) (payload : Payload) (types : EventTypes) (options : SendOptions) :
    List HttpRequest :=
  if bus.enabledTypes.contains types then
    ((payload.bodies? (options.maxBatchBytes.getD bus.service.maxBatchBytes)).getD []).map
      (bus.request options)
  else []

/-- Sending a payload is refused for its category or for want of events, or else makes one call with
its requests, whose outcomes decide what comes of it. -/
theorem send_cases {σ : Type} [Transport σ] (bus : Bus) (payload : Payload) (types : EventTypes)
    (options : SendOptions) (wire : Wire σ) :
    let bodies? := payload.bodies? (options.maxBatchBytes.getD bus.service.maxBatchBytes)
    let requests := bus.requestsOf payload types options
    let called := wire.call requests
    let faults := bus.faults requests called.1
    (bus.enabledTypes.contains types = false ∧ requests = [] ∧
      bus.send payload types options wire = (.suppressed, wire)) ∨
    (bus.enabledTypes.contains types = true ∧ bodies? = none ∧ requests = [] ∧
      bus.send payload types options wire =
        (.failed [emptyBatchMessage], wire.note [.emptyBatch bus.service.name])) ∨
    (bus.enabledTypes.contains types = true ∧ requests ≠ [] ∧
      bus.send payload types options wire =
        (outcomeOf faults, called.2.note (faults.map (·.record)))) := by
  unfold send requestsOf
  cases hc : bus.enabledTypes.contains types with
  | false => exact .inl ⟨rfl, rfl, rfl⟩
  | true =>
    cases hb : payload.bodies? (options.maxBatchBytes.getD bus.service.maxBatchBytes) with
    | none => exact .inr (.inl ⟨rfl, rfl, rfl, rfl⟩)
    | some bodies =>
      exact .inr (.inr ⟨rfl, List.map_eq_nil_iff.not.mpr (Payload.ne_nil_of_bodies? hb), rfl⟩)

/-- Sending makes one call with the requests of the payload, or none if there are none. -/
theorem calls_send {σ : Type} [Transport σ] (bus : Bus) (payload : Payload)
    (types : EventTypes) (options : SendOptions) (wire : Wire σ) :
    (bus.send payload types options wire).2.calls =
      wire.calls ++ [bus.requestsOf payload types options].filter (· ≠ []) := by
  obtain ⟨-, hr, hs⟩ | ⟨-, -, hr, hs⟩ | ⟨-, hr, hs⟩ :=
    bus.send_cases payload types options wire
  · simp [hs, hr]
  · simp [hs, hr, Wire.note]
  · simp [hs, hr, Wire.note, Wire.call]

/-- Sending hands the requests of the payload to the transport and nothing else. -/
theorem requests_send {σ : Type} [Transport σ] (bus : Bus) (payload : Payload)
    (types : EventTypes) (options : SendOptions) (wire : Wire σ) :
    (bus.send payload types options wire).2.requests =
      wire.requests ++ bus.requestsOf payload types options := by
  rw [Wire.requests, calls_send, List.flatten_append, flatten_call, Wire.requests]

end Bus

/-- What is known of a delivery without its outcome. -/
def Delivery.key (delivery : Delivery) : String × EventTypes × Nat :=
  (delivery.service, delivery.types, delivery.events)

/-- What is known of the delivery of a batch before it is made. -/
def Group.key (batch : Group) : String × EventTypes × Nat :=
  (batch.service, batch.types, batch.events.length)

/-- The requests that a batch makes under a configuration; none if there is no bus for it. -/
def Config.requestsFor (config : Config) (options : SendOptions) (batch : Group) :
    List HttpRequest :=
  match config.bus batch.service with
  | .found bus => bus.requestsOf (.events batch.events) batch.types options
  | _ => []

namespace Relay

variable {σ : Type} [Transport σ]

/-- What came of a batch, with its key and the number of its events. -/
def deliveryOf (batch : Group) (outcome : Outcome) : Delivery :=
  ⟨batch.service, batch.types, batch.events.length, outcome⟩

/-- A batch is handed to the bus of its service, is refused because there is none, or is given
up. -/
theorem deliver_eq (relay : Relay σ) (options : SendOptions) (batch : Group) :
    relay.deliver options batch =
      match (relay.busFor batch.service).1 with
      | .found found =>
        let sent := (relay.busFor batch.service).2.send found.bus (.events batch.events)
          batch.types options
        (some (deliveryOf batch sent.1), sent.2)
      | .refused reason =>
        (some (deliveryOf batch (.failed [reason.message])),
          (relay.busFor batch.service).2.note
            [.unresolved batch.service batch.events.length reason])
      | .aborted => (none, (relay.busFor batch.service).2) := by
  unfold deliver
  rcases relay.busFor batch.service with ⟨_ | _ | _, looked⟩ <;> rfl

/-- Delivering a batch keeps the configuration. -/
@[simp] theorem config_deliver (relay : Relay σ) (options : SendOptions) (batch : Group) :
    (relay.deliver options batch).2.config = relay.config := by
  rw [deliver_eq]
  cases (relay.busFor batch.service).1 <;> simp

/-- Delivering a batch keeps the buses as the configuration gives them. -/
theorem isConfigured_deliver {relay : Relay σ} (h : relay.IsConfigured) (options : SendOptions)
    (batch : Group) : (relay.deliver options batch).2.IsConfigured := by
  rw [deliver_eq]
  cases (relay.busFor batch.service).1 <;> exact isConfigured_busFor h batch.service

/-- A batch is given up exactly if the configuration gives up its service. -/
theorem deliver_eq_none_iff {relay : Relay σ} (h : relay.IsConfigured) (options : SendOptions)
    (batch : Group) :
    (relay.deliver options batch).1 = none ↔ relay.config.bus batch.service = .aborted := by
  rw [← busFor_of_isConfigured h, deliver_eq]
  cases (relay.busFor batch.service).1 <;> simp [Lookup.map]

/-- Delivering a batch makes one call with its requests, or none if there are none. -/
theorem calls_deliver {relay : Relay σ} (h : relay.IsConfigured) (options : SendOptions)
    (batch : Group) :
    (relay.deliver options batch).2.wire.calls =
      relay.wire.calls ++ [relay.config.requestsFor options batch].filter (· ≠ []) := by
  have hwire := relay.wire_busFor batch.service
  rw [deliver_eq, Config.requestsFor, ← busFor_of_isConfigured h]
  cases (relay.busFor batch.service).1 with
  | found found =>
    rw [← hwire]
    exact found.bus.calls_send (.events batch.events) batch.types options _
  | refused reason => exact (congrArg Wire.calls hwire).trans (List.append_nil _).symm
  | aborted => exact (congrArg Wire.calls hwire).trans (List.append_nil _).symm

/-- What is handed to the transport while a batch is delivered. -/
theorem requests_deliver {relay : Relay σ} (h : relay.IsConfigured) (options : SendOptions)
    (batch : Group) :
    (relay.deliver options batch).2.wire.requests =
      relay.wire.requests ++ relay.config.requestsFor options batch := by
  rw [Wire.requests, calls_deliver h, List.flatten_append, flatten_call, Wire.requests]

/-- A delivery names the batch that it is of. -/
theorem key_of_deliver {relay next : Relay σ} {options : SendOptions} {batch : Group}
    {delivery : Delivery} (hd : relay.deliver options batch = (some delivery, next)) :
    delivery.key = batch.key := by
  rw [deliver_eq] at hd
  cases hb : (relay.busFor batch.service).1 <;> rw [hb] at hd <;> cases hd <;> rfl

/-- Batches are delivered as the first of them is, and then the others. -/
theorem delivers_cons_iff {relay last : Relay σ} {options : SendOptions} {batch : Group}
    {rest : List Group} {deliveries : List Delivery} :
    Delivers options relay (batch :: rest) deliveries last ↔
      ∃ first next others, relay.deliver options batch = (some first, next) ∧
        Delivers options next rest others last ∧ deliveries = first :: others := by
  constructor
  · intro h
    cases h with
    | sent hb hs hr => exact ⟨_, _, _, by simp [deliver, hb, hs], hr, rfl⟩
    | refused hb hr => exact ⟨_, _, _, by simp [deliver, hb], hr, rfl⟩
  · rintro ⟨first, next, others, hd, hr, rfl⟩
    rw [deliver_eq] at hd
    rcases hb : relay.busFor batch.service with ⟨found | reason | _, looked⟩ <;> rw [hb] at hd <;>
      cases hd
    · exact .sent hb rfl hr
    · exact .refused hb hr

/-- Batches that stand one behind the other are delivered one behind the other. -/
theorem delivers_append_iff {relay last : Relay σ} {options : SendOptions}
    {before after : List Group} {deliveries : List Delivery} :
    Delivers options relay (before ++ after) deliveries last ↔
      ∃ earlier now later, Delivers options relay before earlier now ∧
        Delivers options now after later last ∧ deliveries = earlier ++ later := by
  induction before generalizing relay deliveries with
  | nil =>
    constructor
    · intro h
      exact ⟨[], relay, deliveries, .done relay, h, rfl⟩
    · rintro ⟨earlier, now, later, he, hl, rfl⟩
      cases he
      exact hl
  | cons batch rest ih =>
    rw [List.cons_append, delivers_cons_iff]
    constructor
    · rintro ⟨first, next, others, hd, hrest, rfl⟩
      obtain ⟨earlier, now, later, he, hl, rfl⟩ := ih.mp hrest
      exact ⟨first :: earlier, now, later,
        delivers_cons_iff.mpr ⟨first, next, earlier, hd, he, rfl⟩, hl, rfl⟩
    · rintro ⟨earlier, now, later, he, hl, rfl⟩
      obtain ⟨first, next, others, hd, hrest, rfl⟩ := delivers_cons_iff.mp he
      exact ⟨first, next, others ++ later, hd, ih.mpr ⟨others, now, later, hrest, hl, rfl⟩, rfl⟩

/-- Delivering batches one after the other gives what the relation says. -/
theorem deliverAll_eq_some_iff {relay last : Relay σ} {options : SendOptions}
    {batches : List Group} {deliveries : List Delivery} :
    relay.deliverAll options batches = (some deliveries, last) ↔
      Delivers options relay batches deliveries last := by
  induction batches generalizing relay deliveries with
  | nil =>
    constructor
    · intro h
      cases h
      exact .done _
    · intro h
      cases h
      rfl
  | cons batch rest ih =>
    rw [delivers_cons_iff, deliverAll]
    rcases relay.deliver options batch with ⟨_ | first, next⟩
    · simp
    · simp only [← ih, Prod.ext_iff, Option.some.injEq, Option.map_eq_some_iff]
      constructor
      · rintro ⟨⟨others, ho, rfl⟩, rfl⟩
        exact ⟨first, next, others, ⟨rfl, rfl⟩, ⟨ho, rfl⟩, rfl⟩
      · rintro ⟨_, _, others, ⟨rfl, rfl⟩, ⟨ho, rfl⟩, rfl⟩
        exact ⟨⟨others, ho, rfl⟩, rfl⟩

/-- Batches are all delivered exactly if the configuration gives up the service of none. -/
theorem exists_delivers_iff {relay : Relay σ} (h : relay.IsConfigured) (options : SendOptions)
    (batches : List Group) :
    (∃ deliveries last, Delivers options relay batches deliveries last) ↔
      ∀ batch ∈ batches, relay.config.bus batch.service ≠ .aborted := by
  induction batches generalizing relay with
  | nil => exact ⟨fun _ _ hm ↦ absurd hm List.not_mem_nil, fun _ ↦ ⟨[], relay, .done relay⟩⟩
  | cons batch rest ih =>
    -- The relay changes from batch to batch, but neither its configuration nor what its buses are.
    have hnone := deliver_eq_none_iff h options batch
    have hnext := isConfigured_deliver h options batch
    have hconfig := relay.config_deliver options batch
    rw [List.forall_mem_cons, ← hconfig, ← ih hnext, hconfig]
    simp only [delivers_cons_iff]
    rcases hd : relay.deliver options batch with ⟨_ | first, next⟩
    · rw [hd] at hnone
      simp [hnone.mp rfl]
    · rw [hd] at hnone
      constructor
      · rintro ⟨_, last, _, _, others, he, hr, -⟩
        cases he
        exact ⟨fun ha ↦ (by cases hnone.mpr ha), others, last, hr⟩
      · rintro ⟨-, others, last, hr⟩
        exact ⟨_, last, first, next, others, rfl, hr, rfl⟩

/-- A flush ends with a report exactly if the batches of the queue are all delivered. -/
theorem flush_eq_some_iff {relay last : Relay σ} {queue : Queue} {report : FlushReport} :
    relay.flush queue = (some report, last) ↔
      Delivers queue.options relay (queue.groups relay.config) report.deliveries last ∧
        report.dropped = queue.dropped relay.config := by
  rw [← deliverAll_eq_some_iff, flush]
  rcases hd : relay.deliverAll queue.options (queue.groups relay.config) with ⟨_ | deliveries, end'⟩
  · simp
  · have hc := (deliverAll_eq_some_iff.mp hd).config_eq
    obtain ⟨deliveries', dropped⟩ := report
    simp only [Option.map_some, Prod.mk.injEq, Option.some.injEq, FlushReport.mk.injEq, hc]
    grind

/-- A flush ends with a report exactly if the configuration gives up the service of no batch. -/
theorem exists_flush_iff {relay : Relay σ} (h : relay.IsConfigured) (queue : Queue) :
    (∃ report last, relay.flush queue = (some report, last)) ↔
      ∀ batch ∈ queue.groups relay.config, relay.config.bus batch.service ≠ .aborted := by
  rw [← exists_delivers_iff h queue.options]
  constructor
  · rintro ⟨report, last, hf⟩
    exact ⟨report.deliveries, last, (flush_eq_some_iff.mp hf).1⟩
  · rintro ⟨deliveries, last, hd⟩
    exact ⟨⟨deliveries, queue.dropped relay.config⟩, last, flush_eq_some_iff.mpr ⟨hd, rfl⟩⟩

/-- Under fitting timeouts a flush ends with a report. -/
theorem exists_flush {relay : Relay σ} (h : relay.IsConfigured)
    (hfit : relay.config.TimeoutsFit) (queue : Queue) :
    ∃ report last, relay.flush queue = (some report, last) :=
  (exists_flush_iff h queue).mpr fun batch _ ↦ Config.bus_ne_aborted hfit batch.service

/-- Each batch that makes requests makes one call with them, and the others make none. -/
theorem Delivers.calls_eq {relay last : Relay σ} {options : SendOptions} {batches : List Group}
    {deliveries : List Delivery} (h : Delivers options relay batches deliveries last)
    (hc : relay.IsConfigured) :
    last.wire.calls = relay.wire.calls ++
      (batches.map (relay.config.requestsFor options)).filter (· ≠ []) := by
  induction batches generalizing relay deliveries with
  | nil =>
    cases h
    simp
  | cons batch rest ih =>
    obtain ⟨first, next, others, hd, hrest, -⟩ := delivers_cons_iff.mp h
    obtain rfl : next = (relay.deliver options batch).2 := by rw [hd]
    rw [ih hrest (isConfigured_deliver hc options batch), calls_deliver hc, config_deliver,
      List.append_assoc, ← List.filter_append, List.map_cons, List.singleton_append]

/-! ### Watching the wire -/

/-- The batches that are delivered one after the other, each with the requests that appear on the
wire meanwhile. -/
def handedFor (relay : Relay σ) (options : SendOptions) :
    List Group → List (Group × List HttpRequest)
  | [] => []
  | batch :: rest =>
    let after := (relay.deliver options batch).2
    (batch, after.wire.requests.drop relay.wire.requests.length) :: after.handedFor options rest

/-- The batches of a queue, each with the requests that appear on the wire while it is
delivered. -/
def handed (relay : Relay σ) (queue : Queue) : List (Group × List HttpRequest) :=
  relay.handedFor queue.options (queue.groups relay.config)

/-- What appears on the wire are the requests of each batch under the configuration. -/
theorem handedFor_eq {relay : Relay σ} (h : relay.IsConfigured) (options : SendOptions)
    (batches : List Group) :
    relay.handedFor options batches =
      batches.map fun batch ↦ (batch, relay.config.requestsFor options batch) := by
  induction batches generalizing relay with
  | nil => rfl
  | cons batch rest ih =>
    rw [handedFor, ih (isConfigured_deliver h options batch), requests_deliver h, List.map_cons,
      List.drop_left, config_deliver]

/-- What batches that are delivered hand over appears on the wire in their order. -/
theorem Delivers.requests_eq {relay last : Relay σ} {options : SendOptions}
    {batches : List Group} {deliveries : List Delivery}
    (h : Delivers options relay batches deliveries last) (hc : relay.IsConfigured) :
    last.wire.requests =
      relay.wire.requests ++ (relay.handedFor options batches).flatMap (·.2) := by
  rw [handedFor_eq hc]
  induction batches generalizing relay deliveries with
  | nil =>
    cases h
    simp
  | cons batch rest ih =>
    obtain ⟨first, next, others, hd, hrest, -⟩ := delivers_cons_iff.mp h
    obtain rfl : next = (relay.deliver options batch).2 := by rw [hd]
    rw [ih hrest (isConfigured_deliver hc options batch), requests_deliver hc, config_deliver,
      List.map_cons, List.flatMap_cons, List.append_assoc]

end Relay

/-- The batches in front of the first one whose service is given up. -/
def Config.reached (config : Config) (batches : List Group) : List Group :=
  batches.takeWhile fun batch ↦ config.bus batch.service ≠ .aborted

namespace Relay

variable {σ : Type} [Transport σ]

/-- Whether or not the batches are all delivered, what appears on the wire are the requests of
those that are reached. -/
theorem requests_deliverAll {relay : Relay σ} (h : relay.IsConfigured) (options : SendOptions)
    (batches : List Group) :
    (relay.deliverAll options batches).2.wire.requests =
      relay.wire.requests ++
        (relay.config.reached batches).flatMap (relay.config.requestsFor options) := by
  induction batches generalizing relay with
  | nil => simp [deliverAll, Config.reached]
  | cons batch rest ih =>
    have hnone := deliver_eq_none_iff h options batch
    have hsent := requests_deliver h options batch
    have hconfig := relay.config_deliver options batch
    have hnext := isConfigured_deliver h options batch
    rw [deliverAll, Config.reached, List.takeWhile_cons]
    rcases hd : relay.deliver options batch with ⟨_ | first, next⟩ <;> rw [hd] at hnone hsent
    · have ha : relay.config.bus batch.service = .aborted := hnone.mp rfl
      rw [Config.requestsFor, ha] at hsent
      simpa [ha] using hsent
    · have ha : relay.config.bus batch.service ≠ .aborted := fun ha ↦ by cases hnone.mpr ha
      rw [hd] at hconfig hnext
      have hrest := ih hnext
      rw [hsent, hconfig] at hrest
      simpa [ha, Config.reached] using hrest

/-- What a flush puts on the wire. -/
theorem requests_flush {relay : Relay σ} (h : relay.IsConfigured) (queue : Queue) :
    (relay.flush queue).2.wire.requests =
      relay.wire.requests ++ (relay.config.reached (queue.groups relay.config)).flatMap
        (relay.config.requestsFor queue.options) :=
  requests_deliverAll h queue.options (queue.groups relay.config)

end Relay
end EventRelay

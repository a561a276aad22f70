import EventRelay.Proofs.Delivery.Traffic

/-!
# What a relay keeps

Whatever a relay does, it keeps its configuration, leaves the buses that were made in their places
and makes none but those that the configuration gives. So a bus that was found once is found again
in its place, and what a batch does to the wire is decided by the configuration: which buses were
made before makes no difference.
-/

namespace EventRelay

namespace Relay

variable {σ : Type}

/-- One state of a relay is behind another one: the configuration is the same, the buses are there
in their places, and they are as the configuration gives them if they were so before. -/
structure Grows (first last : Relay σ) : Prop where
  config_eq : last.config = first.config
  kept : first.buses <+: last.buses
  isConfigured : first.IsConfigured → last.IsConfigured

namespace Grows

theorem refl (relay : Relay σ) : Grows relay relay := ⟨rfl, List.prefix_refl _, id⟩

theorem trans {first second third : Relay σ} (h : Grows first second) (h' : Grows second third) :
    Grows first third :=
  ⟨h'.config_eq.trans h.config_eq, h.kept.trans h'.kept,
    fun hc ↦ h'.isConfigured (h.isConfigured hc)⟩

end Grows

/-- Asking for a bus adds it behind the others, if at all. -/
theorem grows_busFor (relay : Relay σ) (name : String) : Grows relay (relay.busFor name).2 := by
  refine ⟨config_busFor relay name, ?_, fun hc ↦ isConfigured_busFor hc name⟩
  obtain ⟨_, _, h⟩ | ⟨_, bus, _, h⟩ | ⟨_, _, _, h⟩ | ⟨_, _, h⟩ := relay.busFor_cases name
  · exact h ▸ List.prefix_refl relay.buses
  · exact h ▸ List.prefix_append relay.buses [bus]
  · exact h ▸ List.prefix_refl relay.buses
  · exact h ▸ List.prefix_refl relay.buses

theorem grows_note (relay : Relay σ) (records : List LogRecord) :
    Grows relay (relay.note records) :=
  ⟨rfl, List.prefix_refl _, id⟩

variable [Transport σ]

theorem grows_send (relay : Relay σ) (bus : Bus) (payload : Payload) (types : EventTypes)
    (options : SendOptions) : Grows relay (relay.send bus payload types options).2 :=
  ⟨rfl, List.prefix_refl _, id⟩

theorem grows_deliver (relay : Relay σ) (options : SendOptions) (batch : Group) :
    Grows relay (relay.deliver options batch).2 := by
  have hb := relay.grows_busFor batch.service
  rw [deliver_eq]
  cases (relay.busFor batch.service).1 with
  | found found => exact hb.trans (grows_send _ _ _ _ _)
  | refused reason => exact hb.trans (grows_note _ _)
  | aborted => exact hb

theorem grows_deliverAll (relay : Relay σ) (options : SendOptions) (batches : List Group) :
    Grows relay (relay.deliverAll options batches).2 := by
  induction batches generalizing relay with
  | nil => exact .refl relay
  | cons batch rest ih =>
    have hd := relay.grows_deliver options batch
    rw [deliverAll]
    rcases he : relay.deliver options batch with ⟨_ | first, next⟩ <;> rw [he] at hd
    · exact hd
    · exact hd.trans (ih next)

/-- What a run keeps. -/
theorem Delivers.grows {relay last : Relay σ} {options : SendOptions} {batches : List Group}
    {deliveries : List Delivery}
    (h : Delivers options relay batches deliveries last) : relay.Grows last := by
  have hg := relay.grows_deliverAll options batches
  rwa [deliverAll_eq_some_iff.mpr h] at hg

/-- A flush keeps the buses that are there. -/
theorem grows_flush (relay : Relay σ) (queue : Queue) : Grows relay (relay.flush queue).2 :=
  relay.grows_deliverAll queue.options (queue.groups relay.config)

end Relay

/-! ### Places of buses -/

namespace Relay

variable {σ : Type}

/-- A bus is kept in its place: whoever asks for its service is given it. -/
def Keeps (relay : Relay σ) (found : BusSlot) : Prop :=
  findFrom? found.bus.service.name 0 relay.buses = some found

private theorem findFrom?_append (name : String) (slot : Nat) (first second : List Bus) :
    findFrom? name slot (first ++ second) =
      (findFrom? name slot first).or (findFrom? name (slot + first.length) second) := by
  induction first generalizing slot with
  | nil => rfl
  | cons bus rest ih =>
    simp only [List.cons_append, findFrom?]
    split
    · rfl
    · rw [ih, List.length_cons, Nat.add_right_comm, Nat.add_assoc]

private theorem getElem?_of_findFrom? {name : String} {slot : Nat} {buses : List Bus}
    {found : BusSlot} (h : findFrom? name slot buses = some found) :
    slot ≤ found.slot ∧ buses[found.slot - slot]? = some found.bus := by
  induction buses generalizing slot with
  | nil => cases h
  | cons bus rest ih =>
    rw [findFrom?] at h
    split at h
    · cases h
      simp
    · obtain ⟨hle, hget⟩ := ih h
      have hs : found.slot - slot = found.slot - (slot + 1) + 1 := by omega
      exact ⟨by omega, by rw [hs, List.getElem?_cons_succ, hget]⟩

namespace Keeps

variable {relay last : Relay σ} {found other : BusSlot}

/-- A kept bus stays in its place. -/
theorem mono (h : relay.Keeps found) (hg : Grows relay last) : last.Keeps found := by
  obtain ⟨more, hm⟩ := hg.kept
  unfold Keeps at h ⊢
  rw [← hm, findFrom?_append, h, Option.some_or]

/-- No two kept buses have one place. -/
theorem eq_of_slot_eq (h : relay.Keeps found) (ho : relay.Keeps other)
    (hs : found.slot = other.slot) : found = other := by
  obtain ⟨-, hf⟩ := getElem?_of_findFrom? h
  obtain ⟨-, ho⟩ := getElem?_of_findFrom? ho
  rw [hs, ho] at hf
  obtain ⟨slot, bus⟩ := found
  obtain ⟨slot', bus'⟩ := other
  cases hs
  cases hf
  rfl

end Keeps

/-- A bus that is asked for has the name of its service and is kept from then on. -/
theorem keeps_of_busFor {relay last : Relay σ} {name : String} {found : BusSlot}
    (h : relay.busFor name = (.found found, last)) :
    found.bus.service.name = name ∧ last.Keeps found := by
  obtain ⟨_, hf, hb⟩ | ⟨hf, bus, hc, hb⟩ | ⟨_, _, _, hb⟩ | ⟨_, _, hb⟩ := relay.busFor_cases name
  · cases hb.symm.trans h
    obtain ⟨-, hname⟩ := mem_of_findFrom? hf
    exact ⟨hname, by rwa [Keeps, hname]⟩
  · cases hb.symm.trans h
    have hname := Config.name_of_bus hc
    refine ⟨hname, ?_⟩
    rw [Keeps, hname, findFrom?_append, hf, Option.none_or, Nat.zero_add, findFrom?, if_pos hname]
  · cases hb.symm.trans h
  · cases hb.symm.trans h

/-- Where the configuration gives a bus, that bus is found. -/
theorem exists_busFor_of_found {relay : Relay σ} (h : relay.IsConfigured) {name : String}
    {bus : Bus} (hb : relay.config.bus name = .found bus) :
    ∃ slot last, relay.busFor name = (.found ⟨slot, bus⟩, last) := by
  have hmap := busFor_of_isConfigured h name
  rw [hb] at hmap
  rcases hf : relay.busFor name with ⟨⟨slot, bus'⟩ | reason | _, last⟩ <;> rw [hf] at hmap <;>
    cases hmap
  exact ⟨slot, last, rfl⟩

/-- Where the configuration refuses a service, so does the relay, and nothing changes. -/
theorem busFor_of_refused {relay : Relay σ} (h : relay.IsConfigured) {name : String}
    {reason : RelayError} (hb : relay.config.bus name = .refused reason) :
    relay.busFor name = (.refused reason, relay) := by
  have hmap := busFor_of_isConfigured h name
  rw [hb] at hmap
  obtain ⟨_, _, hf⟩ | ⟨_, _, _, hf⟩ | ⟨_, _, _, hf⟩ | ⟨_, _, hf⟩ := relay.busFor_cases name <;>
    rw [hf] at hmap <;> cases hmap
  exact hf

end Relay

/-! ### Delivery without kept buses -/

namespace Config

variable {σ : Type} [Transport σ]

/-- Delivers a batch on a wire with the bus that the configuration gives. -/
def handOver (config : Config) (options : SendOptions) (batch : Group) (wire : Wire σ) :
    Option Delivery × Wire σ :=
  match config.bus batch.service with
  | .found bus =>
    let sent := bus.send (.events batch.events) batch.types options wire
    (some (Relay.deliveryOf batch sent.1), sent.2)
  | .refused reason =>
    (some (Relay.deliveryOf batch (.failed [reason.message])),
      wire.note [.unresolved batch.service batch.events.length reason])
  | .aborted => (none, wire)

/-- Delivers batches in order up to the first that is given up. -/
def handOverAll (config : Config) (options : SendOptions) :
    List Group → Wire σ → Option (List Delivery) × Wire σ
  | [], wire => (some [], wire)
  | batch :: rest, wire =>
    match config.handOver options batch wire with
    | (none, wire) => (none, wire)
    | (some first, wire) =>
      let others := config.handOverAll options rest wire
      (others.1.map (first :: ·), others.2)

end Config

namespace Relay

variable {σ : Type} [Transport σ]

/-- A batch is delivered as if no bus were kept. -/
theorem deliver_of_isConfigured {relay : Relay σ} (h : relay.IsConfigured) (options : SendOptions)
    (batch : Group) :
    ((relay.deliver options batch).1, (relay.deliver options batch).2.wire) =
      relay.config.handOver options batch relay.wire := by
  have hwire := relay.wire_busFor batch.service
  rw [deliver_eq, Config.handOver, ← busFor_of_isConfigured h]
  cases (relay.busFor batch.service).1 with
  | found found =>
    simp only [Lookup.map, ← hwire]
    rfl
  | refused reason =>
    simp only [Lookup.map, ← hwire]
    rfl
  | aborted =>
    simp only [Lookup.map, hwire]

/-- A batch that is delivered is handed to the bus that the configuration gives, or the
configuration refuses its service. -/
theorem deliver_some_cases {relay next : Relay σ} {options : SendOptions} {batch : Group}
    {delivery : Delivery} (h : relay.IsConfigured)
    (hd : relay.deliver options batch = (some delivery, next)) :
    (∃ bus, relay.config.bus batch.service = .found bus ∧
      let sent := bus.send (.events batch.events) batch.types options relay.wire
      delivery = deliveryOf batch sent.1 ∧ next.wire = sent.2) ∨
    (∃ reason, relay.config.bus batch.service = .refused reason ∧
      delivery = deliveryOf batch (.failed [reason.message]) ∧
      next.wire = relay.wire.note [.unresolved batch.service batch.events.length reason]) := by
  have hhand := deliver_of_isConfigured h options batch
  rw [hd, Config.handOver] at hhand
  cases hb : relay.config.bus batch.service with
  | found bus =>
    simp only [hb, Prod.mk.injEq, Option.some.injEq] at hhand
    exact .inl ⟨bus, rfl, hhand⟩
  | refused reason =>
    simp only [hb, Prod.mk.injEq, Option.some.injEq] at hhand
    exact .inr ⟨reason, rfl, hhand⟩
  | aborted => simp [hb] at hhand

/-- Batches are delivered as if no bus were kept. -/
private theorem deliverAll_of_isConfigured {relay : Relay σ} (h : relay.IsConfigured)
    (options : SendOptions) (batches : List Group) :
    ((relay.deliverAll options batches).1, (relay.deliverAll options batches).2.wire) =
      relay.config.handOverAll options batches relay.wire := by
  induction batches generalizing relay with
  | nil => rfl
  | cons batch rest ih =>
    have hg := relay.grows_deliver options batch
    have hd := deliver_of_isConfigured h options batch
    rw [deliverAll, Config.handOverAll, ← hd]
    rcases he : relay.deliver options batch with ⟨_ | first, next⟩
    · rfl
    · rw [he] at hg
      have hrest := ih (hg.isConfigured h)
      rw [hg.config_eq] at hrest
      simp only [← hrest]

/-- A flush makes the report and leaves the wire that the configuration and the wire before it
decide: which buses were made before makes no difference. -/
theorem flush_of_isConfigured {relay : Relay σ} (h : relay.IsConfigured) (queue : Queue) :
    let batches := queue.groups relay.config
    let handed := relay.config.handOverAll queue.options batches relay.wire
    (relay.flush queue).1 = handed.1.map (⟨·, queue.dropped relay.config⟩) ∧
      (relay.flush queue).2.wire = handed.2 := by
  intro batches handed
  have hd : handed = _ := (deliverAll_of_isConfigured h queue.options batches).symm
  have hc := (relay.grows_deliverAll queue.options batches).config_eq
  have hf : relay.flush queue =
      ((relay.deliverAll queue.options batches).1.map
        (⟨·, queue.dropped (relay.deliverAll queue.options batches).2.config⟩),
        (relay.deliverAll queue.options batches).2) := rfl
  rw [hd, hf, hc]
  exact ⟨rfl, rfl⟩

/-- Two relays over one configuration and one wire make the same report and leave the same wire,
whichever buses they have made. -/
theorem flush_agrees {one two : Relay σ} (hone : one.IsConfigured) (htwo : two.IsConfigured)
    (hc : two.config = one.config) (hw : two.wire = one.wire) (queue : Queue) :
    (two.flush queue).1 = (one.flush queue).1 ∧
      (two.flush queue).2.wire = (one.flush queue).2.wire := by
  obtain ⟨hreport, hwire⟩ := flush_of_isConfigured hone queue
  obtain ⟨hreport', hwire'⟩ := flush_of_isConfigured htwo queue
  rw [hreport, hwire, hreport', hwire', hc, hw]
  exact ⟨rfl, rfl⟩

end Relay
end EventRelay

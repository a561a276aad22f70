import EventRelay.Proofs.Delivery.Answers
import EventRelay.Proofs.Delivery.Growth

/-!
# Which batch an answer is charged to

A transport that answers from a list takes from it one outcome for each request. How far it has come
in the list when a batch is delivered is therefore the number of requests of the batches before,
and the outcome of the batch is decided by the next entries alone. A batch that makes no request
takes nothing from the list.
-/

namespace EventRelay

namespace Script

/-- The outcomes at `n` positions of a list from `offset` on; past the end of the list requests
are taken. -/
def entries (outcomes : List HttpOutcome) (offset n : Nat) : List HttpOutcome :=
  (List.range n).map fun i ↦ outcomes[offset + i]?.getD .created

private theorem next_drop (outcomes : List HttpOutcome) (offset : Nat) (limit : Option Nat)
    (n : Nat) :
    next ⟨outcomes.drop offset, limit⟩ n = entries outcomes offset n := by
  apply List.ext_getElem
  · simp [next, entries]
    omega
  · intro i _ hn
    simp only [entries, List.length_map, List.length_range] at hn
    simp only [next, entries, List.getElem_append, List.getElem_map, List.getElem_range]
    split
    · next h =>
      have hlt : offset + i < outcomes.length := by simp at h; omega
      simp [List.getElem?_eq_getElem hlt]
    · next h =>
      have hle : outcomes.length ≤ offset + i := by simp at h; omega
      simp [List.getElem?_eq_none hle]

/-- A call is answered by the next entries, and those behind them are left. -/
theorem answer_drop (outcomes : List HttpOutcome) (offset : Nat) (requests : List HttpRequest) :
    Transport.answer (Script.mk (outcomes.drop offset) none) requests =
      (entries outcomes offset requests.length,
        ⟨outcomes.drop (offset + requests.length), none⟩) := by
  have hanswer : Transport.answer (Script.mk (outcomes.drop offset) none) requests =
      (next ⟨outcomes.drop offset, none⟩ requests.length,
        ⟨(outcomes.drop offset).drop requests.length, none⟩) := rfl
  rw [hanswer, next_drop, List.drop_drop]

end Script

/-! ### One batch -/

theorem bodiesOfEvents?_eq_none_iff {limit : Nat} {events : List Json} :
    bodiesOfEvents? limit events = none ↔ events = [] := by
  simp [bodiesOfEvents?]

/-- Why a batch makes no request, with what is then its outcome. -/
inductive Config.KeepsBack (config : Config) (batch : Group) : Outcome → Prop
  | suppressed {bus : Bus} : config.bus batch.service = .found bus →
      bus.enabledTypes.contains batch.types = false → KeepsBack config batch .suppressed
  | empty {bus : Bus} : config.bus batch.service = .found bus →
      bus.enabledTypes.contains batch.types = true → batch.events = [] →
      KeepsBack config batch (.failed [emptyBatchMessage])
  | refused {reason : RelayError} : config.bus batch.service = .refused reason →
      KeepsBack config batch (.failed [reason.message])

private theorem Config.KeepsBack.requestsFor_eq {config : Config} {batch : Group}
    {outcome : Outcome} (h : config.KeepsBack batch outcome) (options : SendOptions) :
    config.requestsFor options batch = [] := by
  cases h with
  | suppressed hb hc => simp [requestsFor, hb, Bus.requestsOf, hc]
  | empty hb _ he => simp [requestsFor, hb, Bus.requestsOf, he, Payload.bodies?, bodiesOfEvents?]
  | refused hb => simp [requestsFor, hb]

/-- The answers to the requests of a batch decide its outcome: they are all successes, or those that
are not are reported in order. -/
structure Outcome.IsCharged (outcome : Outcome) (answers : List HttpOutcome) : Prop where
  delivered_iff : outcome = .delivered ↔ ∀ answer ∈ answers, answer.code = 201
  reported : List.Forall₂ HttpOutcome.IsReportedAs (answers.filter (·.code ≠ 201)) outcome.errors

/-- Where every request has an answer, the answers alone are charged. -/
private theorem Bus.isCharged_outcomeOf (bus : Bus) {requests : List HttpRequest}
    {answers : List HttpOutcome} (h : answers.length = requests.length) :
    (outcomeOf (bus.faults requests answers)).IsCharged answers := by
  have htake : answers.take requests.length = answers := by rw [← h, List.take_length]
  have hshort : shortfallReport answers.length requests.length = [] := by
    simp [shortfallReport, h]
  constructor
  · rw [outcomeOf_eq_delivered_iff, faults_eq_nil_iff, htake]
    exact and_iff_right (Nat.le_of_eq h.symm)
  · rw [errors_outcomeOf, map_error_faults, hshort, List.append_nil, refusals, htake]
    exact HttpOutcome.forall₂_isReportedAs _

namespace Relay

/-- A batch that is delivered makes a call with its requests, whose answers decide the outcome, or
there is a reason for it to make none and the transport stays as it is. -/
theorem deliver_cases {σ : Type} [Transport σ] {relay next : Relay σ} {options : SendOptions}
    {batch : Group} {delivery : Delivery} (h : relay.IsConfigured)
    (hd : relay.deliver options batch = (some delivery, next)) :
    let requests := relay.config.requestsFor options batch
    let answered := Transport.answer relay.wire.state requests
    (relay.config.KeepsBack batch delivery.outcome ∧ requests = [] ∧
      next.wire.state = relay.wire.state) ∨
    (∃ bus : Bus, requests ≠ [] ∧
      delivery.outcome = Bus.outcomeOf (bus.faults requests answered.1) ∧
      next.wire.state = answered.2) := by
  intro requests answered
  obtain ⟨bus, hb, rfl, hwire⟩ | ⟨reason, hb, rfl, hwire⟩ := deliver_some_cases h hd <;> rw [hwire]
  · have hrequests : requests = bus.requestsOf (.events batch.events) batch.types options := by
      simp only [requests, Config.requestsFor, hb]
    obtain ⟨hc, hr, hs⟩ | ⟨hc, he, hr, hs⟩ | ⟨-, hr, hs⟩ :=
      bus.send_cases (.events batch.events) batch.types options relay.wire <;> rw [hs]
    · exact .inl ⟨.suppressed hb hc, hrequests.trans hr, rfl⟩
    · exact .inl ⟨.empty hb hc (bodiesOfEvents?_eq_none_iff.mp he), hrequests.trans hr, rfl⟩
    · rw [← hrequests] at hr ⊢
      exact .inr ⟨bus, hr, rfl, rfl⟩
  · have hkept : relay.config.KeepsBack batch (.failed [reason.message]) := .refused hb
    exact .inl ⟨hkept, hkept.requestsFor_eq options, rfl⟩

/-! ### Answers from a list -/

variable {relay next last : Relay Script} {options : SendOptions} {outcomes : List HttpOutcome}
  {offset : Nat}

/-- A batch takes as many entries as it makes requests, and the entries that it takes are charged
to it. -/
theorem deliver_charged {batch : Group} {delivery : Delivery} (h : relay.IsConfigured)
    (hs : relay.wire.state = ⟨outcomes.drop offset, none⟩)
    (hd : relay.deliver options batch = (some delivery, next)) :
    let requests := relay.config.requestsFor options batch
    next.wire.state = ⟨outcomes.drop (offset + requests.length), none⟩ ∧
      (requests = [] → relay.config.KeepsBack batch delivery.outcome) ∧
      (requests ≠ [] →
        delivery.outcome.IsCharged (Script.entries outcomes offset requests.length)) := by
  intro requests
  have hanswer := Script.answer_drop outcomes offset requests
  obtain ⟨hkept, hr, hstate⟩ | ⟨bus, hr, houtcome, hstate⟩ := deliver_cases h hd
  · have hnone : requests = [] := hr
    rw [hstate, hs, hnone]
    exact ⟨rfl, fun _ ↦ hkept, fun hne ↦ absurd rfl hne⟩
  · rw [hs] at houtcome hstate
    rw [hstate, houtcome, hanswer]
    refine ⟨rfl, fun hnone ↦ absurd hnone hr, fun _ ↦ bus.isCharged_outcomeOf ?_⟩
    rw [Script.entries, List.length_map, List.length_range]

/-- A run takes as many entries as its batches make requests. -/
theorem Delivers.state_eq {batches : List Group} {deliveries : List Delivery}
    (h : Delivers options relay batches deliveries last) (hc : relay.IsConfigured)
    (hs : relay.wire.state = ⟨outcomes.drop offset, none⟩) :
    last.wire.state =
      ⟨outcomes.drop (offset + (batches.flatMap (relay.config.requestsFor options)).length),
        none⟩ := by
  induction batches generalizing relay deliveries offset with
  | nil =>
    cases h
    exact hs
  | cons batch rest ih =>
    obtain ⟨first, next, others, hd, hrest, -⟩ := delivers_cons_iff.mp h
    have hg := relay.grows_deliver options batch
    -- The entries that the first batch took are gone when the turn of the next one comes.
    have hnext := (deliver_charged hc hs hd).1
    rw [hd] at hg
    rw [ih hrest (hg.isConfigured hc) hnext, hg.config_eq, List.flatMap_cons, List.length_append,
      Nat.add_assoc]

end Relay

/-- A transport answers from a list. Under fitting timeouts a flush of any queue reports each batch,
makes one call for each that has requests, and takes one entry for each of these from the list.
When the turn of a batch comes, the entries for the requests of the batches before are gone: its
requests are answered with the entries that follow, and past the end of the list they are taken.
The batch is delivered exactly if all these answers are successes, and its errors are those of the
others among them. A batch whose category is not enabled or for which there is no bus makes no
request, so that no entry is lost to it. -/
theorem Relay.flush_charges_answers (config : Config) (hfit : config.TimeoutsFit)
    (buses : List Bus) (hbuses : ∀ bus ∈ buses, config.bus bus.service.name = .found bus)
    (calls : List (List HttpRequest)) (log : List LogRecord) (script : List HttpOutcome)
    (queue : Queue) :
    let relay : Relay Script := { config, wire := { state := ⟨script, none⟩, calls, log }, buses }
    let batches := queue.groups config
    let requestsFor := config.requestsFor queue.options
    ∃ report last, relay.flush queue = (some report, last) ∧
      report.deliveries.map (·.key) = batches.map (·.key) ∧
      last.wire.calls = calls ++ (batches.map requestsFor).filter (· ≠ []) ∧
      last.wire.state = ⟨script.drop (batches.flatMap requestsFor).length, none⟩ ∧
      ∀ before batch after, batches = before ++ batch :: after →
        let offset := (before.flatMap requestsFor).length
        let requests := requestsFor batch
        let answers := Script.entries script offset requests.length
        ∃ earlier delivery later now next,
          report.deliveries = earlier ++ delivery :: later ∧ delivery.key = batch.key ∧
          Delivers queue.options relay before earlier now ∧
          now.deliver queue.options batch = (some delivery, next) ∧
          now.wire.state = ⟨script.drop offset, none⟩ ∧
          Transport.answer now.wire.state requests = (answers, next.wire.state) ∧
          next.wire.calls = now.wire.calls ++ [requests].filter (· ≠ []) ∧
          (requests ≠ [] → delivery.outcome.IsCharged answers) ∧
          (requests = [] ↔ config.KeepsBack batch delivery.outcome) := by
  intro relay batches requestsFor
  have hc : relay.IsConfigured := hbuses
  have hstart : relay.wire.state = ⟨script.drop 0, none⟩ := rfl
  obtain ⟨report, last, hf⟩ := Relay.exists_flush hc hfit queue
  have hd : Delivers queue.options relay batches report.deliveries last :=
    (Relay.flush_eq_some_iff.mp hf).1
  refine ⟨report, last, hf, hd.map_deliveries, hd.calls_eq hc, ?_, ?_⟩
  · rw [hd.state_eq hc hstart, Nat.zero_add]
  · intro before batch after hsplit offset requests answers
    rw [hsplit] at hd
    obtain ⟨earlier, now, others, hearlier, hothers, hdeliveries⟩ := delivers_append_iff.mp hd
    obtain ⟨delivery, next, later, hdeliver, -, rfl⟩ := delivers_cons_iff.mp hothers
    have hg := hearlier.grows
    have hnow : now.wire.state = ⟨script.drop offset, none⟩ := by
      rw [hearlier.state_eq hc hstart, Nat.zero_add]
    have hrequests : now.config.requestsFor queue.options batch = requests := by
      rw [hg.config_eq]
    have hcharged := deliver_charged (hg.isConfigured hc) hnow hdeliver
    have hcalls := calls_deliver (hg.isConfigured hc) queue.options batch
    rw [hrequests] at hcharged hcalls
    rw [hdeliver] at hcalls
    obtain ⟨hnext, hkept, hcharged⟩ := hcharged
    refine ⟨earlier, delivery, later, now, next, hdeliveries, key_of_deliver hdeliver, hearlier,
      hdeliver, hnow, ?_, hcalls, hcharged, ?_⟩
    · rw [hnow, hnext]
      exact Script.answer_drop script offset requests
    · rw [hg.config_eq] at hkept
      exact ⟨hkept, fun h ↦ h.requestsFor_eq queue.options⟩

/-- Two services that take ten bytes and no jobs. -/
def narrowConfig : Config :=
  { defaultService := "main"
    maxBatchBytes := 10
    enabledTypes := EventTypes.events.union .purges
    services :=
      [("main", { url := some "http://main" }), ("other", { url := some "http://other" })] }

/-- Events for both services, jobs, and an event for an unknown service. -/
def narrowQueue : Queue :=
  let event (n : Nat) : Json := .object [("n", .ofNat n)]
  { pending :=
      [⟨.service "main", .events, [event 1, event 2]⟩, ⟨.service "main", .jobs, [event 3]⟩,
        ⟨.service "lost", .events, [event 4]⟩, ⟨.service "other", .events, [event 5]⟩]
    late := [⟨.service "main", .purges, [event 6]⟩] }

/-- The third answer is charged to the fourth batch: the first one makes two requests, and the two
in between make none. -/
theorem Relay.flush_charges_answers_fourth :
    let busy : HttpOutcome := { code := 503, reason := "Service Unavailable" }
    let wire : Wire Script := { state := ⟨[.unreachable "down", .created, busy, .created], none⟩ }
    ∃ report last,
      Relay.flush { config := narrowConfig, wire } narrowQueue = (some report, last) ∧
      last.wire.state = ⟨[], none⟩ ∧
      ∃ delivery ∈ report.deliveries, delivery.service = "other" ∧
        delivery.outcome ≠ .delivered ∧
        List.Forall₂ HttpOutcome.IsReportedAs [busy] delivery.outcome.errors := by
  intro busy wire
  have hfit : narrowConfig.TimeoutsFit := by decide
  obtain ⟨report, last, hf, -, -, hstate, hsplit⟩ :=
    Relay.flush_charges_answers narrowConfig hfit [] (fun _ h ↦ nomatch h) [] []
      [.unreachable "down", .created, busy, .created] narrowQueue
  have hbatches : narrowQueue.groups narrowConfig =
      (narrowQueue.groups narrowConfig).take 3 ++
        ⟨"other", .events, [.object [("n", .ofNat 5)]]⟩ ::
          (narrowQueue.groups narrowConfig).drop 4 := rfl
  obtain ⟨earlier, delivery, later, now, next, hd, hkey, -, -, -, -, -, hcharged, -⟩ :=
    hsplit _ _ _ hbatches
  have hall : ((narrowQueue.groups narrowConfig).flatMap
      (narrowConfig.requestsFor narrowQueue.options)).length = 4 := by decide +kernel
  have hbefore : (((narrowQueue.groups narrowConfig).take 3).flatMap
      (narrowConfig.requestsFor narrowQueue.options)).length = 2 := by decide +kernel
  have hone : (narrowConfig.requestsFor narrowQueue.options
      ⟨"other", .events, [.object [("n", .ofNat 5)]]⟩).length = 1 := by decide +kernel
  rw [hbefore, hone] at hcharged
  obtain ⟨hiff, hreported⟩ := hcharged (List.ne_nil_of_length_eq_add_one hone)
  rw [hall] at hstate
  exact ⟨report, last, hf, hstate, delivery, by simp [hd], congrArg (·.1) hkey,
    hiff.not.mpr (by decide), hreported⟩

end EventRelay

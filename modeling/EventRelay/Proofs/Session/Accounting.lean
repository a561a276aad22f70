import EventRelay.Proofs.Session.Submissions

/-!
# What the log says

Each text of an outcome has a record in the log, grave and in the order of the texts, and a record
of an answer has the code of the answer. `Wire.Accounts` says so for a part of the life of a wire;
parts put together account for all that their errors are. So a flush that leaves no record failed
nowhere: each batch had a bus, and each request was taken.
-/

namespace EventRelay

/-- The record is about what the text says. -/
inductive LogRecord.Tells : LogRecord → String → Prop
  | emptyBatch (service : String) : Tells (.emptyBatch service) emptyBatchMessage
  | undelivered (service url : String) (code : Nat) (streams body detail : String) :
      Tells (.undelivered service url code streams body detail) (undeliveredMessage detail)
  | shortfall (service : String) (answers requests : Nat) :
      Tells (.shortfall service answers requests) (shortfallMessage answers requests)
  | unresolved (service : String) (events : Nat) (reason : RelayError) :
      Tells (.unresolved service events reason) reason.message

/-- The code in a record. -/
def LogRecord.code? (record : LogRecord) : Option Json := Fields.get? record.fields "code"

/-! ### Calls and their answers -/

/-- The requests of a call, and the answers to them. -/
abbrev Exchange := List HttpRequest × List HttpOutcome

/-- Calls with the answers to each, and the state of the transport behind them. -/
def Transport.exchange {σ : Type} [Transport σ] (state : σ) :
    List (List HttpRequest) → List Exchange × σ
  | [] => ([], state)
  | requests :: rest =>
    let (answers, next) := Transport.answer state requests
    let (others, last) := exchange next rest
    ((requests, answers) :: others, last)

private theorem Transport.exchange_append {σ : Type} [Transport σ] (state : σ)
    (calls others : List (List HttpRequest)) :
    exchange state (calls ++ others) =
      ((exchange state calls).1 ++ (exchange (exchange state calls).2 others).1,
        (exchange (exchange state calls).2 others).2) := by
  induction calls generalizing state with
  | nil => rfl
  | cons requests rest ih => simp only [List.cons_append, exchange, ih]

/-- There is an answer for each request. -/
def Answered (exchanges : List Exchange) : Prop :=
  ∀ exchange ∈ exchanges, exchange.2.length = exchange.1.length

/-- Each answer takes its request. -/
def Taken (exchanges : List Exchange) : Prop :=
  ∀ exchange ∈ exchanges, ∀ answer ∈ exchange.2, answer.code = 201

private theorem Answered.append_iff {exchanges others : List Exchange} :
    Answered (exchanges ++ others) ↔ Answered exchanges ∧ Answered others :=
  List.forall_mem_append

private theorem Taken.append_iff {exchanges others : List Exchange} :
    Taken (exchanges ++ others) ↔ Taken exchanges ∧ Taken others :=
  List.forall_mem_append

private theorem Script.answered (outcomes : List HttpOutcome) (calls : List (List HttpRequest)) :
    Answered (Transport.exchange (Script.mk outcomes none) calls).1 := by
  induction calls generalizing outcomes with
  | nil => exact fun _ hm ↦ absurd hm List.not_mem_nil
  | cons requests rest ih =>
    have hanswer := answer_drop outcomes 0 requests
    rw [List.drop_zero] at hanswer
    simp only [Transport.exchange, hanswer]
    refine List.forall_mem_cons.mpr ⟨?_, ih _⟩
    simp [entries]

namespace Wire

variable {σ : Type} [Transport σ]

/-- What happened on a wire is logged: behind the calls that were made there is a record for each
error, and the codes in the records are those of the answers that do not take their requests. -/
structure Accounts (first last : Wire σ) (calls : List (List HttpRequest))
    (records : List LogRecord) (errors : List String) : Prop where
  calls_eq : last.calls = first.calls ++ calls
  state_eq : last.state = (Transport.exchange first.state calls).2
  log_eq : last.log = first.log ++ records
  level_eq : ∀ record ∈ records, record.level = .error
  tells : List.Forall₂ LogRecord.Tells records errors
  codes : records.filterMap (·.code?) =
    (Transport.exchange first.state calls).1.flatMap fun exchange ↦
      (Bus.refusals exchange.1 exchange.2).map (Json.ofNat ·.code)

namespace Accounts

variable {first second third : Wire σ} {calls others : List (List HttpRequest)}
  {records more : List LogRecord} {errors further : List String}

private theorem refl (wire : Wire σ) : wire.Accounts wire [] [] [] where
  calls_eq := (List.append_nil _).symm
  state_eq := rfl
  log_eq := (List.append_nil _).symm
  level_eq := fun _ h ↦ absurd h List.not_mem_nil
  tells := .nil
  codes := rfl

private theorem append (h : first.Accounts second calls records errors)
    (h' : second.Accounts third others more further) :
    first.Accounts third (calls ++ others) (records ++ more) (errors ++ further) where
  calls_eq := by rw [h'.calls_eq, h.calls_eq, List.append_assoc]
  state_eq := by rw [h'.state_eq, h.state_eq, Transport.exchange_append]
  log_eq := by rw [h'.log_eq, h.log_eq, List.append_assoc]
  level_eq := List.forall_mem_append.mpr ⟨h.level_eq, h'.level_eq⟩
  tells := List.rel_append h.tells h'.tells
  codes := by
    rw [List.filterMap_append, h.codes, h'.codes, h.state_eq, Transport.exchange_append,
      List.flatMap_append]

private theorem note (wire : Wire σ) {record : LogRecord} {error : String}
    (hlevel : record.level = .error) (htells : record.Tells error) (hcode : record.code? = none) :
    wire.Accounts (wire.note [record]) [] [record] [error] where
  calls_eq := (List.append_nil _).symm
  state_eq := rfl
  log_eq := rfl
  level_eq := List.forall_mem_singleton.mpr hlevel
  tells := .cons htells .nil
  codes := by rw [List.filterMap_cons, hcode]; rfl

end Accounts
end Wire

/-! ### One batch -/

namespace Bus

variable {σ : Type} [Transport σ]

private theorem accounts_call (bus : Bus) (requests : List HttpRequest) (wire : Wire σ) :
    let called := wire.call requests
    let faults := bus.faults requests called.1
    wire.Accounts (called.2.note (faults.map (·.record))) [requests] (faults.map (·.record))
      (faults.map (·.error)) where
  calls_eq := rfl
  state_eq := rfl
  log_eq := rfl
  level_eq := by
    intro record hm
    obtain ⟨fault, hf, rfl⟩ := List.mem_map.mp hm
    obtain ⟨pair, -, rfl⟩ | ⟨-, rfl⟩ := mem_faults_cases hf <;> rfl
  tells := by
    rw [List.forall₂_map_left_iff, List.forall₂_map_right_iff]
    refine List.forall₂_same.mpr fun fault hf ↦ ?_
    obtain ⟨pair, -, rfl⟩ | ⟨-, rfl⟩ := mem_faults_cases hf
    · exact .undelivered _ _ _ _ _ _
    · exact .shortfall _ _ _
  codes := by
    have hshort : ((bus.shortfall? (wire.call requests).1.length requests.length).toList.map
        (·.record)).filterMap (·.code?) = [] := by
      rw [shortfall?]
      split <;> rfl
    rw [faults_eq, List.map_append, List.filterMap_append, hshort, List.append_nil, List.map_map,
      List.filterMap_map]
    simp only [Transport.exchange, List.flatMap_singleton, ← map_snd_refused, List.map_map]
    rw [← List.filterMap_eq_map]
    rfl

/-- Sending is accounted for. Unless there were no events, and if each request is answered, nothing
is logged exactly if each request is taken. -/
theorem accounts_send (bus : Bus) (payload : Payload) (types : EventTypes) (options : SendOptions)
    (wire : Wire σ) :
    let sent := bus.send payload types options wire
    ∃ calls records, wire.Accounts sent.2 calls records sent.1.errors ∧
      (records = [] ↔ sent.1 = .delivered ∨ sent.1 = .suppressed) ∧
      (emptyBatchMessage ∉ sent.1.errors → Answered (Transport.exchange wire.state calls).1 →
        (records = [] ↔ Taken (Transport.exchange wire.state calls).1)) := by
  intro sent
  obtain ⟨-, -, hs⟩ | ⟨-, -, -, hs⟩ | ⟨-, -, hs⟩ := bus.send_cases payload types options wire
  · have hsent : sent = (.suppressed, wire) := hs
    rw [hsent]
    exact ⟨[], [], .refl wire, by simp, fun _ _ ↦ by simp [Taken, Transport.exchange]⟩
  · have hsent : sent = _ := hs
    rw [hsent]
    refine ⟨[], _, .note wire rfl (.emptyBatch bus.service.name) rfl, by simp, fun hne ↦ ?_⟩
    exact absurd List.mem_cons_self hne
  · have hsent : sent = _ := hs
    let requests := bus.requestsOf payload types options
    have hcall := bus.accounts_call requests wire
    rw [hsent, errors_outcomeOf]
    refine ⟨[requests], _, hcall, ?_, fun _ hanswered ↦ ?_⟩
    · rw [List.map_eq_nil_iff, ← outcomeOf_eq_delivered_iff]
      exact (or_iff_left (outcomeOf_ne_suppressed _)).symm
    · have hlength : (wire.call requests).1.length = requests.length :=
        hanswered (requests, (wire.call requests).1) List.mem_cons_self
      rw [List.map_eq_nil_iff, faults_eq_nil_iff, ← hlength, List.take_length,
        and_iff_right (Nat.le_refl _)]
      simp [Taken, Transport.exchange, Wire.call]

end Bus

namespace Relay

variable {σ : Type} [Transport σ]

/-- A batch that is delivered is accounted for. If it has events and each request is answered,
nothing is logged exactly if there is a bus for it and each request is taken. -/
theorem accounts_deliver {relay next : Relay σ} {options : SendOptions} {batch : Group}
    {delivery : Delivery} (h : relay.IsConfigured) (hne : batch.events ≠ [])
    (hd : relay.deliver options batch = (some delivery, next)) :
    ∃ calls records,
      relay.wire.Accounts next.wire calls records delivery.outcome.errors ∧
      (records = [] ↔ delivery.outcome = .delivered ∨ delivery.outcome = .suppressed) ∧
      (Answered (Transport.exchange relay.wire.state calls).1 →
        (records = [] ↔ (∃ bus, relay.config.bus batch.service = .found bus) ∧
          Taken (Transport.exchange relay.wire.state calls).1)) := by
  have hempty := (reports_of_deliver hne hd).2
  obtain ⟨bus, hb, rfl, hwire⟩ | ⟨reason, hb, rfl, hwire⟩ := deliver_some_cases h hd <;> rw [hwire]
  · obtain ⟨calls, records, hsent, hquiet, htaken⟩ :=
      bus.accounts_send (.events batch.events) batch.types options relay.wire
    refine ⟨calls, records, hsent, hquiet, fun hanswered ↦ ?_⟩
    rw [and_iff_right ⟨bus, hb⟩]
    exact htaken hempty hanswered
  · exact ⟨[], _, .note relay.wire rfl (.unresolved _ _ reason) rfl, by simp [deliveryOf],
      fun _ ↦ by simp [hb]⟩

/-- So is a run. -/
theorem Delivers.accounts {relay last : Relay σ} {options : SendOptions} {batches : List Group}
    {deliveries : List Delivery} (h : Delivers options relay batches deliveries last)
    (hc : relay.IsConfigured) (hne : ∀ batch ∈ batches, batch.events ≠ []) :
    ∃ calls records,
      relay.wire.Accounts last.wire calls records (deliveries.flatMap (·.outcome.errors)) ∧
      (records = [] ↔ ∀ delivery ∈ deliveries,
        delivery.outcome = .delivered ∨ delivery.outcome = .suppressed) ∧
      (Answered (Transport.exchange relay.wire.state calls).1 →
        (records = [] ↔ (∀ batch ∈ batches, ∃ bus, relay.config.bus batch.service = .found bus) ∧
          Taken (Transport.exchange relay.wire.state calls).1)) := by
  induction batches generalizing relay deliveries with
  | nil =>
    cases h
    exact ⟨[], [], .refl _, by simp, fun _ ↦ by simp [Taken, Transport.exchange]⟩
  | cons batch rest ih =>
    obtain ⟨first, next, others, hd, hrest, rfl⟩ := delivers_cons_iff.mp h
    obtain ⟨hbatch, hothers⟩ := List.forall_mem_cons.mp hne
    have hg := relay.grows_deliver options batch
    rw [hd] at hg
    obtain ⟨calls, records, haccounts, hquiet, htaken⟩ := accounts_deliver hc hbatch hd
    obtain ⟨calls', records', haccounts', hquiet', htaken'⟩ :=
      ih hrest (hg.isConfigured hc) hothers
    refine ⟨calls ++ calls', records ++ records', haccounts.append haccounts', ?_, ?_⟩
    · rw [List.append_eq_nil_iff, hquiet, hquiet', List.forall_mem_cons]
    · -- The transport answers the calls of the others in the state behind those of the first.
      rw [haccounts.state_eq, hg.config_eq] at htaken'
      rw [Transport.exchange_append, Answered.append_iff, Taken.append_iff,
        List.append_eq_nil_iff, List.forall_mem_cons]
      rintro ⟨hanswered, hanswered'⟩
      rw [htaken hanswered, htaken' hanswered']
      exact and_and_and_comm

end Relay

/-- A flush succeeds exactly if each batch was delivered or suppressed. -/
theorem FlushReport.isSuccess_iff (report : FlushReport) :
    report.isSuccess = true ↔ ∀ delivery ∈ report.deliveries,
      delivery.outcome = .delivered ∨ delivery.outcome = .suppressed := by
  rw [isSuccess, List.all_eq_true]
  refine forall₂_congr fun delivery _ ↦ ?_
  cases delivery.outcome <;> simp

/-- No failure is silent. Whatever is sent and whatever the transport answers, there is a record for
each text of the outcome, in their order, so that none is made exactly if the batch was delivered or
suppressed; and the codes in the records are those of the answers that do not take their requests.
The same holds of a flush in a session whose relay is new, under fitting timeouts: it succeeds
exactly if no record is made, and if each of its requests is answered, then exactly if each batch
had a bus and each request was taken. -/
theorem Session.no_failure_is_silent {σ : Type} [Transport σ] :
    (∀ (bus : Bus) (payload : Payload) (types : EventTypes) (options : SendOptions)
        (wire : Wire σ),
      let sent := bus.send payload types options wire
      ∃ calls records, wire.Accounts sent.2 calls records sent.1.errors ∧
        (records = [] ↔ sent.1 = .delivered ∨ sent.1 = .suppressed)) ∧
    ∀ (config : Config), config.TimeoutsFit → ∀ (wire : Wire σ) (producer : Producer) (ids : Ids)
        (context : Option RequestContext) (steps : List Step),
      let start : Session σ := { relay := { config, wire }, producer, ids, queue := { context } }
      let now := (start.run steps).2
      ∃ report after calls records, now.step .flush = (.flushed report, after) ∧
        now.relay.wire.Accounts after.relay.wire calls records report.errors ∧
        (report.isSuccess = true ↔ records = []) ∧
        (Answered (Transport.exchange now.relay.wire.state calls).1 →
          (records = [] ↔
            (∀ batch ∈ now.queue.groups config, ∃ bus, config.bus batch.service = .found bus) ∧
            Taken (Transport.exchange now.relay.wire.state calls).1)) := by
  refine ⟨fun bus payload types options wire ↦ ?_,
    fun config hfit wire producer ids context steps ↦ ?_⟩
  · obtain ⟨calls, records, haccounts, hquiet, -⟩ := bus.accounts_send payload types options wire
    exact ⟨calls, records, haccounts, hquiet⟩
  · intro start now
    have hg : start.relay.Grows now.relay := start.grows_run steps
    have hc : now.relay.IsConfigured := hg.isConfigured (Relay.isConfigured_new config wire)
    have hconfig : now.relay.config = config := hg.config_eq
    have hproper : now.queue.IsProper := isProper_run (Queue.isProper_new context) steps
    obtain ⟨report, last, hflush, hstep⟩ := exists_flushed hc (hconfig ▸ hfit)
    obtain ⟨calls, records, haccounts, hquiet, htaken⟩ :=
      (Relay.flush_eq_some_iff.mp hflush).1.accounts hc fun batch hm ↦ hproper.events_ne hm
    rw [hconfig] at htaken
    exact ⟨report, _, calls, records, hstep, haccounts, report.isSuccess_iff.trans hquiet.symm,
      htaken⟩

/-- In a flush behind a deletion, a purge and a job that was put off, an event for a service that is
not known is not lost in silence. -/
theorem Session.no_failure_is_silent_lost :
    let wire : Wire Script := ⟨⟨[.unreachable "down"], none⟩, [], []⟩
    let start : Session Script :=
      { relay := { config := mixedConfig, wire }, producer := wikiProducer, ids := .constant "id" }
    let steps := requestSteps (servedRequest none) ++
      [.submit .regular (.service "lost") .events [.object []]]
    let now := (start.run steps).2
    mixedConfig.TimeoutsFit ∧
    ∃ report after calls records, now.step .flush = (.flushed report, after) ∧
      now.relay.wire.Accounts after.relay.wire calls records report.errors ∧
      Answered (Transport.exchange now.relay.wire.state calls).1 ∧
      records ≠ [] ∧ report.isSuccess = false := by
  intro wire start steps now
  have hfit : mixedConfig.TimeoutsFit := by decide
  obtain ⟨-, hflush⟩ := @Session.no_failure_is_silent Script _
  obtain ⟨report, after, calls, records, hstep, haccounts, hsuccess, htaken⟩ :=
    hflush mixedConfig hfit wire wikiProducer (.constant "id") none steps
  have hstate : now.relay.wire.state = ⟨[.unreachable "down"], none⟩ := by decide +kernel
  have hlost : "lost" ∈ (now.queue.groups mixedConfig).map (·.service) := by decide +kernel
  have hanswered : Answered (Transport.exchange now.relay.wire.state calls).1 := by
    rw [hstate]
    exact Script.answered _ calls
  have hrecords : records ≠ [] := by
    intro hnil
    obtain ⟨batch, hm, hservice⟩ := List.mem_map.mp hlost
    obtain ⟨bus, hbus⟩ := ((htaken hanswered).mp hnil).1 batch hm
    have hnone : mixedConfig.bus "lost" = .refused (.unknownService "lost") := by decide
    rw [hservice, hnone] at hbus
    cases hbus
  exact ⟨hfit, report, after, calls, records, hstep, haccounts, hanswered, hrecords,
    Bool.eq_false_iff.mpr (hsuccess.not.mpr hrecords)⟩

end EventRelay

import EventRelay.Job.Endpoint
import EventRelay.Proofs.Delivery.Relay
import EventRelay.Proofs.Event.Tampering
import EventRelay.Proofs.Job.RoundTrip
import EventRelay.Proofs.Text.Utf8

/-!
# What the endpoint does with a posted body

`JobContext.Carries` is the carrying out of a program said as a relation, with the dealings of the
program in order. A posted body is turned away, with nothing done, or the job in it is carried out
once by the executor of its type. Which executors there are makes no difference unless the body
holds an event with a signature of its own under a secret that is not empty.
-/

namespace EventRelay

/-! ### Carrying out a program -/

namespace JobContext

/-- A program is carried out: each job that it puts off is put off once, in order, and it goes on
with the result of that. -/
inductive Carries : JobContext → Program → Ids → Queue → List (Job × Except JobError Unit) →
    Except JobError Unit → Ids → Queue → Prop
  | done {context : JobContext} {result : Except JobError Unit} {ids : Ids} {queue : Queue} :
      Carries context (.done result) ids queue [] result ids queue
  | requeue {context : JobContext} {job : Job} {next : Except JobError Unit → Program}
      {answer result : Except JobError Unit} {ids ids₁ ids₂ : Ids} {queue queue₁ queue₂ : Queue}
      {dealings : List (Job × Except JobError Unit)} :
      context.requeue job ids queue = (answer, ids₁, queue₁) →
      Carries context (next answer) ids₁ queue₁ dealings result ids₂ queue₂ →
      Carries context (.requeue job next) ids queue ((job, answer) :: dealings) result ids₂ queue₂
  | amend {context : JobContext} {request : RequestContext} {next : Program}
      {result : Except JobError Unit} {ids ids₁ : Ids} {queue queue₁ : Queue}
      {dealings : List (Job × Except JobError Unit)} :
      Carries { context with request } next ids queue dealings result ids₁ queue₁ →
      Carries context (.amend request next) ids queue dealings result ids₁ queue₁

/-- Carrying out a program gives what the relation says. -/
theorem run_eq_iff {context : JobContext} {program : Program} {ids ids' : Ids}
    {queue queue' : Queue} {result : Except JobError Unit} :
    context.run program ids queue = (result, ids', queue') ↔
      ∃ dealings, Carries context program ids queue dealings result ids' queue' := by
  induction program generalizing context ids queue with
  | done answer =>
    constructor
    · intro h
      cases h
      exact ⟨[], .done⟩
    · rintro ⟨_, h⟩
      cases h
      rfl
  | requeue job next ih =>
    rcases hr : context.requeue job ids queue with ⟨answer, ids₁, queue₁⟩
    rw [run, hr, ih]
    constructor
    · rintro ⟨dealings, h⟩
      exact ⟨_, .requeue hr h⟩
    · rintro ⟨_, h⟩
      cases h with
      | requeue hr' h =>
        cases hr.symm.trans hr'
        exact ⟨_, h⟩
  | amend request next ih =>
    rw [run, ih]
    constructor
    · rintro ⟨dealings, h⟩
      exact ⟨dealings, .amend h⟩
    · rintro ⟨dealings, h⟩
      cases h with
      | amend h => exact ⟨dealings, h⟩

end JobContext

namespace JobResponse

/-- A report says whether there is no error, and the error if there is one. -/
private theorem get?_body_report (code : Nat) (error : Option String) (milliseconds : Nat) :
    ((report code error).body milliseconds).get? "status" = some (.bool error.isNone) ∧
      ((report code error).body milliseconds).get? "error" = error.map .string := by
  cases error <;> simp [body, status, Json.ofFields, Json.get?]

end JobResponse

namespace Endpoint

/-! ### Turning a body away -/

/-- The object in a posted body. -/
def eventIn? (body : Bytes) : Option Json :=
  ((Text.ofUtf8? body).bind Json.parse?).filter (·.isObject)

/-- An object in the form in which it is read is found in the body that is made of its text. -/
theorem eventIn?_compact {fields : Fields} (hs : (Json.object fields).Sorted)
    (hd : (Json.object fields).depth ≤ Json.Parser.maxDepth)
    (hn : (Json.object fields).NumbersReadBack) :
    eventIn? (Text.utf8 (Json.object fields).compact) = some (.object fields) := by
  rw [eventIn?, Text.ofUtf8?_utf8, Option.bind_some, Json.parse?_compact hd hn,
    Json.canonical_of_sorted _ hs]
  rfl

/-- The body holds an event with a signature of its own under a secret that is not empty. -/
def Authentic (endpoint : Endpoint) (body : Bytes) : Prop :=
  endpoint.secret ≠ "" ∧ ∃ event, eventIn? body = some event ∧
    Event.carried? event = some (Event.sign endpoint.secret event)

/-- A body without an object is refused, whichever executors there are. -/
private theorem accept_of_eventIn?_eq_none (endpoint : Endpoint) {body : Bytes}
    (h : eventIn? body = none) :
    ∃ rejection : Rejection, rejection.code = 400 ∧
      ∀ executors : Registry, { endpoint with executors }.accept body = .error rejection := by
  unfold eventIn? at h
  unfold accept
  cases hp : (Text.ofUtf8? body).bind Json.parse? with
  | none => exact ⟨.invalidJson (endpoint.diagnose body), rfl, fun _ ↦ rfl⟩
  | some event =>
    have ho : event.isObject = false := by simpa [hp] using h
    exact ⟨.notAnObject, rfl, fun _ ↦ by simp [ho]⟩

/-- An object is verified first, then the job in it is read, and then its executor is looked up. -/
theorem accept_of_eventIn? {body : Bytes} {event : Json} (h : eventIn? body = some event)
    (endpoint : Endpoint) :
    endpoint.accept body =
      match Event.verify endpoint.secret event, Job.ofEvent event with
      | .error reason, _ => .error (.unverified reason)
      | .ok (), .error reason => .error (.noJob reason)
      | .ok (), .ok job =>
        match endpoint.executors.get? job.type with
        | none => .error (.unknownType job.type)
        | some executor => .ok (job, executor) := by
  obtain ⟨hp, ho⟩ := Option.filter_eq_some_iff.mp h
  unfold accept
  rw [hp]
  simp only [ho, Bool.not_true]
  cases Event.verify endpoint.secret event with
  | error reason => rfl
  | ok _ => cases Job.ofEvent event <;> rfl

variable {σ : Type} [Transport σ]

/-- A posted body is turned away with a code: a text is given, no id is used, no bus is made and
nothing is sent, and it would be so with any other executors for the same types. -/
def TurnsAway (endpoint : Endpoint) (now : Time.Timestamp) (body : Bytes) (ids : Ids)
    (relay : Relay σ) (code : Nat) : Prop :=
  (∃ message last,
    endpoint.perform now body ids relay = (some (.report code (some message)), ids, last) ∧
    last.buses = relay.buses ∧ last.wire.calls = relay.wire.calls ∧
    last.wire.state = relay.wire.state) ∧
  ∀ executors : Registry,
    (∀ type, (executors.get? type).isSome = (endpoint.executors.get? type).isSome) →
      { endpoint with executors }.perform now body ids relay = endpoint.perform now body ids relay

/-- What is not accepted is answered with the code and the text of the rejection. -/
theorem perform_of_accept_eq_error {endpoint : Endpoint} {body : Bytes} {rejection : Rejection}
    (h : endpoint.accept body = .error rejection) (now : Time.Timestamp) (ids : Ids)
    (relay : Relay σ) :
    endpoint.perform now body ids relay =
      (some (.report rejection.code (some rejection.message)), ids,
        relay.note rejection.log) := by
  rw [perform, h]

/-- What is not accepted, with any other executors for the same types, is turned away. -/
theorem turnsAway_of_accept {endpoint : Endpoint} {body : Bytes} (rejection : Rejection)
    (h : ∀ executors : Registry,
      (∀ type, (executors.get? type).isSome = (endpoint.executors.get? type).isSome) →
        { endpoint with executors }.accept body = .error rejection)
    (now : Time.Timestamp) (ids : Ids) (relay : Relay σ) :
    endpoint.TurnsAway now body ids relay rejection.code := by
  have hp := perform_of_accept_eq_error (h endpoint.executors fun _ ↦ rfl) now ids relay
  exact ⟨⟨_, _, hp, rfl, rfl, rfl⟩, fun executors he ↦
    (perform_of_accept_eq_error (h executors he) now ids relay).trans hp.symm⟩

/-! ### Carrying a job out -/

/-- A job is carried out once by an executor, in a request of its own and with an empty queue. The
queue is flushed, and the response says whether the job succeeded. No other executor makes a
difference. -/
def CarriesOut (endpoint : Endpoint) (now : Time.Timestamp) (body : Bytes) (ids : Ids)
    (relay : Relay σ) (job : Job) (executor : Executor) : Prop :=
  let context := endpoint.contextFor relay.config now ids.next
  ∃ dealings result ids' queue response last,
    context.Carries (executor job context.request) (ids.drop 1)
      { context := some context.request } dealings result ids' queue ∧
    endpoint.perform now body ids relay = (response, ids', last) ∧
    response.map JobResponse.code =
      (relay.flush queue).1.map (fun _ ↦ if result.isOk then 200 else 500) ∧
    last.buses = (relay.flush queue).2.buses ∧
    last.wire.calls = (relay.flush queue).2.wire.calls ∧
    last.wire.state = (relay.flush queue).2.wire.state ∧
    ∀ executors : Registry, executors.get? job.type = some executor →
      { endpoint with executors }.perform now body ids relay = endpoint.perform now body ids relay

/-- What is accepted is run and what it put off is flushed; but for the log nothing else happens. -/
theorem perform_of_accept_eq_ok {endpoint : Endpoint} {now : Time.Timestamp} {body : Bytes}
    {ids ids' : Ids} {relay : Relay σ} {job : Job} {executor : Executor} {queue : Queue}
    {result : Except JobError Unit} (h : endpoint.accept body = .ok (job, executor))
    (hr : (endpoint.contextFor relay.config now ids.next).runJob executor job (ids.drop 1) =
      (result, ids', queue)) :
    ∃ records, endpoint.perform now body ids relay =
      ((relay.flush queue).1.map fun _ ↦ responseTo result, ids',
        (relay.flush queue).2.note records) := by
  rw [perform, h]
  simp only [hr]
  rcases relay.flush queue with ⟨_ | report, flushed⟩
  · exact ⟨[], by simp⟩
  · exact ⟨_, rfl⟩

/-- An accepted job is carried out. -/
theorem carriesOut_of_accept {endpoint : Endpoint} {body : Bytes} {job : Job} {executor : Executor}
    (h : ∀ executors : Registry, executors.get? job.type = some executor →
      { endpoint with executors }.accept body = .ok (job, executor))
    (he : endpoint.executors.get? job.type = some executor)
    (now : Time.Timestamp) (ids : Ids) (relay : Relay σ) :
    endpoint.CarriesOut now body ids relay job executor := by
  have haccept : endpoint.accept body = .ok (job, executor) := h endpoint.executors he
  rcases hr : (endpoint.contextFor relay.config now ids.next).runJob executor job (ids.drop 1) with
    ⟨result, ids', queue⟩
  obtain ⟨dealings, hc⟩ := JobContext.run_eq_iff.mp hr
  obtain ⟨records, hp⟩ := perform_of_accept_eq_ok haccept hr
  refine ⟨dealings, result, ids', queue, _, _, hc, hp, ?_, rfl, rfl, rfl, fun executors hex ↦ ?_⟩
  · rw [Option.map_map]
    congr 1
    funext report
    cases result <;> rfl
  · rw [perform, h executors hex, perform, haccept]
    rfl

/-- A response is a report, with an error exactly if the code is not that of success. -/
private theorem exists_report_of_mem_perform {endpoint : Endpoint} {now : Time.Timestamp}
    {body : Bytes} {ids : Ids} {relay : Relay σ} {response : JobResponse}
    (h : response ∈ (endpoint.perform now body ids relay).1) :
    ∃ code error, response = .report code error ∧ error.isNone = decide (code = 200) := by
  -- A rejection has no code of success, and a result has it exactly without an error.
  rcases ha : endpoint.accept body with rejection | ⟨job, executor⟩
  · rw [perform_of_accept_eq_error ha] at h
    cases h
    refine ⟨rejection.code, some rejection.message, rfl, ?_⟩
    cases rejection <;> rfl
  · rcases hr : (endpoint.contextFor relay.config now ids.next).runJob executor job (ids.drop 1)
      with ⟨result, ids', queue⟩
    obtain ⟨records, hp⟩ := perform_of_accept_eq_ok ha hr
    rw [hp] at h
    obtain ⟨report, -, rfl⟩ := Option.map_eq_some_iff.mp h
    cases result with
    | ok _ => exact ⟨200, none, rfl, rfl⟩
    | error reason => exact ⟨500, some reason.message, rfl, rfl⟩

/-- A body without a signed event is refused whichever executors there are. -/
private theorem exists_rejection_of_not_authentic {endpoint : Endpoint} {body : Bytes}
    (h : ¬ endpoint.Authentic body) :
    ∃ rejection, ∀ executors : Registry,
      { endpoint with executors }.accept body = .error rejection := by
  cases hv : eventIn? body with
  | none =>
    obtain ⟨rejection, -, hr⟩ := endpoint.accept_of_eventIn?_eq_none hv
    exact ⟨rejection, hr⟩
  | some event =>
    cases hs : Event.verify endpoint.secret event with
    | error reason =>
      exact ⟨.unverified reason, fun executors ↦ by rw [accept_of_eventIn? hv]; simp only [hs]⟩
    | ok _ =>
      obtain ⟨hsecret, hcarried⟩ := Event.verify_eq_ok_iff.mp hs
      exact absurd ⟨hsecret, event, hv, hcarried⟩ h

end Endpoint

/-- A posted body is turned away with the code 400 if it is no object, else with 403 if the event
does not verify, else with 400 if there is no job in it or no executor for its type; else the job
is carried out once by that executor, and the code is 200 or 500 as it ends. The report has the
status `true` exactly if the code is 200, and an error exactly if it is not. So which executors
there are makes a difference only for an event with its own signature under a secret that is not
empty. -/
theorem Endpoint.perform_gates_jobs {σ : Type} [Transport σ] (endpoint : Endpoint)
    (now : Time.Timestamp) (body : Bytes) (ids : Ids) (relay : Relay σ) :
    (eventIn? body = none → endpoint.TurnsAway now body ids relay 400) ∧
    (∀ event, eventIn? body = some event →
      (∀ reason, Event.verify endpoint.secret event = .error reason →
        endpoint.TurnsAway now body ids relay 403) ∧
      (Event.verify endpoint.secret event = .ok () →
        (∀ reason, Job.ofEvent event = .error reason →
          endpoint.TurnsAway now body ids relay 400) ∧
        ∀ job, Job.ofEvent event = .ok job →
          (endpoint.executors.get? job.type = none → endpoint.TurnsAway now body ids relay 400) ∧
          ∀ executor, endpoint.executors.get? job.type = some executor →
            endpoint.CarriesOut now body ids relay job executor)) ∧
    (∀ response ∈ (endpoint.perform now body ids relay).1, ∀ milliseconds,
      (response.body milliseconds).get? "status" = some (.bool (decide (response.code = 200))) ∧
      (((response.body milliseconds).get? "error").isSome ↔ response.code ≠ 200)) ∧
    (¬ endpoint.Authentic body → ∀ executors : Registry,
      { endpoint with executors }.perform now body ids relay =
        endpoint.perform now body ids relay) := by
  refine ⟨fun hnone ↦ ?_, fun event hevent ↦ ⟨fun reason hv ↦ ?_, fun hv ↦
    ⟨fun reason hj ↦ ?_, fun job hj ↦ ⟨fun he ↦ ?_, fun executor he ↦ ?_⟩⟩⟩,
    fun response hr milliseconds ↦ ?_, fun hauth executors ↦ ?_⟩
  · obtain ⟨rejection, hcode, hr⟩ := endpoint.accept_of_eventIn?_eq_none hnone
    rw [← hcode]
    exact turnsAway_of_accept rejection (fun executors _ ↦ hr executors) now ids relay
  · refine turnsAway_of_accept (.unverified reason) (fun executors _ ↦ ?_) now ids relay
    rw [accept_of_eventIn? hevent]
    simp only [hv]
  · refine turnsAway_of_accept (.noJob reason) (fun executors _ ↦ ?_) now ids relay
    rw [accept_of_eventIn? hevent]
    simp only [hv, hj]
  · refine turnsAway_of_accept (.unknownType job.type) (fun executors hs ↦ ?_) now ids relay
    have hn : executors.get? job.type = none := by simpa [he] using hs job.type
    rw [accept_of_eventIn? hevent]
    simp only [hv, hj, hn]
  · refine carriesOut_of_accept (fun executors hex ↦ ?_) he now ids relay
    rw [accept_of_eventIn? hevent]
    simp only [hv, hj, hex]
  · obtain ⟨code, error, rfl, hcode⟩ := exists_report_of_mem_perform hr
    obtain ⟨hstatus, herror⟩ := JobResponse.get?_body_report code error milliseconds
    rw [hstatus, herror, hcode, Option.isSome_map]
    refine ⟨rfl, ?_⟩
    cases error <;> simpa [JobResponse.code] using hcode
  · obtain ⟨rejection, hr⟩ := exists_rejection_of_not_authentic hauth
    rw [perform_of_accept_eq_error (hr executors),
      perform_of_accept_eq_error (hr endpoint.executors)]

/-- The event of a job that names its type alone, behind a signature if there is one. -/
def bareEvent (signature : Option String) : Fields :=
  Fields.ofOption Event.signatureKey .string signature ++ [("type", .string "null")]

/-- The event is found in the body that is made of its text. -/
theorem eventIn?_bareEvent (signature : Option String) :
    Endpoint.eventIn? (Text.utf8 (Json.object (bareEvent signature)).compact) =
      some (.object (bareEvent signature)) := by
  have horder : [Event.signatureKey, "type"].Pairwise (· < ·) := by decide
  apply Endpoint.eventIn?_compact
  · cases signature with
    | none => exact ⟨List.pairwise_singleton _ _, trivial, trivial⟩
    | some signature => exact ⟨horder, trivial, trivial, trivial⟩
  · cases signature <;> exact Nat.le_of_ble_eq_true rfl
  · cases signature with
    | none => exact ⟨trivial, trivial⟩
    | some signature => exact ⟨trivial, trivial, trivial⟩

/-- The event can be signed. -/
theorem exists_verify_bareEvent :
    ∃ signature, Event.verify "secret" (.object (bareEvent (some signature))) = .ok () := by
  have hinsert (signature : String) : bareEvent (some signature) =
      Fields.insert (bareEvent none) Event.signatureKey (.string signature) := rfl
  refine ⟨Event.sign "secret" (.object (bareEvent none)), ?_⟩
  rw [hinsert]
  exact @Event.verify_attach "secret" (by decide) (.object (bareEvent none)) _ rfl

/-- A signed job is carried out, while the same job without a signature is turned away. -/
theorem Endpoint.perform_gates_jobs_bare :
    let endpoint : Endpoint :=
      { secret := "secret"
        producer := none
        executors := Registry.builtins
        diagnose := fun _ ↦ "expected value at line 1 column 1" }
    let relay : Relay Script := { config := {}, wire := ⟨⟨[], none⟩, [], []⟩ }
    let now : Time.Timestamp := ⟨⟨2024, 5, 1⟩, 8, 30, 0, 0⟩
    let ids := Ids.constant "id"
    let body (signature : Option String) := Text.utf8 (Json.object (bareEvent signature)).compact
    endpoint.TurnsAway now (body none) ids relay 403 ∧
    ∃ signature,
      endpoint.CarriesOut now (body (some signature)) ids relay { type := "null" }
        NullJob.program ∧
      ∃ response ∈ (endpoint.perform now (body (some signature)) ids relay).1,
        response.code = 200 := by
  intro endpoint relay now ids body
  -- From here on the signature is any text that verifies: it is never computed.
  obtain ⟨signature, hsigned⟩ := exists_verify_bareEvent
  have hunsigned : Event.verify endpoint.secret (.object (bareEvent none)) =
      .error .missingSignature := rfl
  have hcarries : endpoint.CarriesOut now (body (some signature)) ids relay { type := "null" }
      NullJob.program :=
    ((((Endpoint.perform_gates_jobs endpoint now (body (some signature)) ids relay).2.1 _
      (eventIn?_bareEvent (some signature))).2 hsigned).2 { type := "null" } rfl).2
        NullJob.program rfl
  refine ⟨((Endpoint.perform_gates_jobs endpoint now (body none) ids relay).2.1 _
    (eventIn?_bareEvent none)).1 _ hunsigned, signature, hcarries, ?_⟩
  obtain ⟨dealings, result, ids', queue, response, last, hc, hp, hcode, -⟩ := hcarries
  cases hc
  have h200 : response.map JobResponse.code = some 200 := hcode
  rw [hp]
  exact Option.map_eq_some_iff.mp h200

end EventRelay

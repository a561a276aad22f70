import EventRelay.Proofs.Job.Requeue
import EventRelay.Proofs.Json.Received

/-!
# The lives of a null job

A null job with more than one life puts itself off with one life less. Posted again and again, it
is carried out as often as it has lives, and then no more.
-/

namespace EventRelay

/-- The array of one event in order is read back from its text. -/
private theorem Json.parse?_compact_singleton {event : Json} (hs : event.Sorted)
    (hd : event.depth ≤ 126) (hn : event.NumbersReadBack) :
    Json.parse? (Json.array [event]).compact = some (.array [event]) := by
  have hdepth : (Json.array [event]).depth ≤ Json.Parser.maxDepth :=
    Nat.succ_le_succ (Nat.max_le.mpr ⟨hd, Nat.zero_le _⟩)
  rw [Json.parse?_compact hdepth ⟨hn, trivial⟩,
    Json.canonical_of_sorted (.array [event]) ⟨hs, trivial⟩]

namespace Job

/-- A job is read from an event part by part. -/
theorem ofEvent_eq_ok_iff {event : Json} {job : Job} :
    ofEvent event = .ok job ↔ typeOf event = .ok job.type ∧ paramsOf event = .ok job.params ∧
      rootOf event = .ok job.rootEvent ∧ releaseOf event = job.release := by
  obtain ⟨type, params, rootEvent, release⟩ := job
  rw [ofEvent]
  cases typeOf event with
  | error reason => simp [bind, Except.bind]
  | ok type' =>
    cases paramsOf event with
    | error reason => simp [bind, Except.bind]
    | ok params' =>
      cases rootOf event with
      | error reason => simp [bind, Except.bind]
      | ok root => simp [bind, Except.bind, pure, Except.pure]

/-- The release time of a job in an event is a time that exists. -/
theorem isValid_of_ofEvent {event : Json} {job : Job} (h : ofEvent event = .ok job) :
    ∀ t ∈ job.release, t.IsValid := by
  obtain ⟨-, -, -, hr⟩ := ofEvent_eq_ok_iff.mp h
  rw [← hr]
  intro t ht
  obtain ⟨text, -, hstrict⟩ := Option.bind_eq_some_iff.mp ht
  exact Time.Timestamp.isValid_of_ofStrict? hstrict

/-- Parameters that are not empty stand in the event. -/
private theorem get?_params_of_ofEvent {event : Json} {job : Job} (h : ofEvent event = .ok job)
    (hne : job.params ≠ []) : event.get? "params" = some (.object job.params) := by
  obtain ⟨-, hp, -⟩ := ofEvent_eq_ok_iff.mp h
  rw [paramsOf] at hp
  split at hp
  · exact absurd (Except.ok.inj hp).symm hne
  · exact absurd (Except.ok.inj hp).symm hne
  · next fields hget =>
    cases hp
    exact hget
  · cases hp

end Job

namespace NullJob

/-- A parameter is read as the number that its value is. -/
private theorem naturalParam_of_word64 {params : Fields} {key : String} {value : Json}
    {word : UInt64} (h : params.get? key = some value) (hw : FromJson.word64 value = some word) :
    naturalParam params key = .ok (some word.toNat) := by
  rw [naturalParam, h]
  split
  · next he => cases he
  · next he =>
    cases he
    cases hw
  · next he =>
    cases he
    rw [hw]

/-- A parameter that is a natural number of sixty-four bits is read as that. -/
private theorem naturalParam_ofNat {params : Fields} {key : String} {n : Nat}
    (h : params.get? key = some (.ofNat n)) (hn : n < Nat.pow 2 64) :
    naturalParam params key = .ok (some n) := by
  have hbounds : (0 : Int) ≤ n ∧ (n : Int) < Nat.pow 2 64 :=
    ⟨Int.natCast_nonneg n, Int.ofNat_lt.mpr hn⟩
  have hword : FromJson.word64 (.ofNat n) = some (UInt64.ofNat n) := by
    rw [FromJson.word64, Json.ofNat, Json.asInt?, Option.bind_eq_bind, Option.bind_some,
      if_pos hbounds, Int.toNat_natCast]
  have hback : (UInt64.ofNat n).toNat = n := by
    rw [UInt64.toNat_ofNat']
    exact Nat.mod_eq_of_lt hn
  rw [naturalParam_of_word64 h hword, hback]

/-- A parameter may be missing, null, or a natural number of sixty-four bits. -/
def IsNatural (value : Option Json) : Prop :=
  value = none ∨ value = some .null ∨ ∃ n < Nat.pow 2 64, value = some (.ofNat n)

private theorem exists_naturalParam {params : Fields} {key : String}
    (h : IsNatural (params.get? key)) :
    ∃ value, naturalParam params key = .ok value := by
  obtain h | h | ⟨n, hn, h⟩ := h
  · exact ⟨none, by rw [naturalParam, h]⟩
  · exact ⟨none, by rw [naturalParam, h]⟩
  · exact ⟨some n, naturalParam_ofNat h hn⟩

/-- A signed event of a null job with a number of lives. -/
structure IsEvent (secret : String) (lives : Nat) (event : Json) (job : Job) : Prop where
  verified : Event.verify secret event = .ok ()
  job_eq : Job.ofEvent event = .ok job
  type_eq : job.type = "null"
  lives_eq : job.params.get? "lives" = some (.ofNat lives)
  lives_lt : lives < Nat.pow 2 64
  usleep : IsNatural (job.params.get? "usleep")
  depth_le : event.depth ≤ 126
  numbersReadBack : event.NumbersReadBack
  year : ∀ t ∈ job.release, 0 ≤ t.date.year ∧ t.date.year ≤ 9999

/-- What follows a null job: it has fewer lives, and its release time is cut to the second. -/
def follower (job : Job) (lives : Nat) : Job :=
  { withLives job lives with release := job.release.map Time.Timestamp.truncate }

private theorem follower_follower (job : Job) (lives fewer : Nat) :
    follower (follower job lives) fewer = follower job fewer := by
  simp [follower, withLives, Fields.insert_insert, Function.comp_def,
    Time.Timestamp.truncate_truncate]

/-- The signed event of a null job is one, with the release time cut to the second. -/
theorem isEvent_event {secret : String} (hs : secret ≠ "") {job : Job} {site : Wiki.Site}
    {ctx : RequestContext} {stream id : String} {fields : Fields}
    (he : job.event site ctx stream secret id = .ok (.object fields)) (htype : job.type = "null")
    {lives : Nat} (hlives : job.params.get? "lives" = some (.ofNat lives))
    (hl : lives < Nat.pow 2 64) (husleep : IsNatural (job.params.get? "usleep"))
    (hdepth : (Json.object job.params).depth + 1 ≤ 126)
    (hnumbers : (Json.object job.params).NumbersReadBack)
    (hrelease : ∀ t ∈ job.release, t.IsValid ∧ 0 ≤ t.date.year ∧ t.date.year ≤ 9999) :
    IsEvent secret lives (.object fields)
      { job with release := job.release.map Time.Timestamp.truncate } where
  verified := Event.verify_attach hs he
  job_eq := Job.ofEvent_event he (by rw [htype]; decide) hrelease
  type_eq := htype
  lives_eq := hlives
  lives_lt := hl
  usleep := husleep
  depth_le := Nat.le_trans (Job.depth_event_le he) hdepth
  numbersReadBack := Job.numbersReadBack_event he hnumbers
  year t ht := by
    obtain ⟨t', ht', rfl⟩ := Option.map_eq_some_iff.mp ht
    exact (hrelease t' ht').2

namespace IsEvent

variable {secret : String} {lives : Nat} {event : Json} {job : Job}

/-- The parameters stand in the event: they have lives, so the event does not go without them. -/
private theorem get?_params (h : IsEvent secret lives event job) :
    event.get? "params" = some (.object job.params) := by
  refine Job.get?_params_of_ofEvent h.job_eq fun hnil ↦ ?_
  have hlives := h.lives_eq
  rw [hnil] at hlives
  cases hlives

/-- The parameters of an event are sorted, nest less deep than the event, and have numbers that read
back. -/
private theorem params (h : IsEvent secret lives event job) (hs : event.Sorted) :
    (Json.object job.params).Sorted ∧ (Json.object job.params).depth + 1 ≤ 126 ∧
      (Json.object job.params).NumbersReadBack := by
  have hget := h.get?_params
  have hd := h.depth_le
  have hn := h.numbersReadBack
  cases event with
  | object fields =>
    have hmem := Fields.mem_of_get? hget
    have hle : (Json.object job.params).depth ≤ Json.depthFields fields :=
      Json.depthFields_le_iff.mp (Nat.le_refl _) _ hmem
    exact ⟨Json.sortedFields_iff.mp hs.2 _ hmem, Nat.le_trans (Nat.add_le_add_right hle 1) hd,
      Json.fieldsReadBack_iff.mp hn _ hmem⟩
  | _ => cases hget

/-- The parameters with other lives are sorted, nest as deep, and have numbers that read back. -/
private theorem params_withLives (h : IsEvent secret lives event job) (hs : event.Sorted)
    {fewer : Nat} (hf : fewer < Nat.pow 2 64) :
    (Json.object (withLives job fewer).params).Sorted ∧
      (Json.object (withLives job fewer).params).depth + 1 ≤ 126 ∧
      (Json.object (withLives job fewer).params).NumbersReadBack := by
  obtain ⟨hsorted, hdepth, hnumbers⟩ := h.params hs
  refine ⟨⟨Fields.isSorted_insert hsorted.1 _ _, Json.sortedFields_iff.mpr fun entry he ↦ ?_⟩,
    ?_, Json.fieldsReadBack_iff.mpr fun entry he ↦ ?_⟩
  · rcases Fields.mem_insert he with rfl | he
    · trivial
    · exact Json.sortedFields_iff.mp hsorted.2 entry he
  · refine Nat.le_trans (Nat.add_le_add_right (Nat.add_le_add_right ?_ 1) 1) hdepth
    refine Json.depthFields_le_iff.mpr fun entry he ↦ ?_
    rcases Fields.mem_insert he with rfl | he
    · exact Nat.zero_le _
    · exact Json.depthFields_le_iff.mp (Nat.le_refl _) entry he
  · rcases Fields.mem_insert he with rfl | he
    · exact Json.Parser.number_natural hf
    · exact Json.fieldsReadBack_iff.mp hnumbers entry he

/-- The event of a job with other lives is one of a null job again. -/
theorem follows (h : IsEvent secret lives event job) (hs : event.Sorted) (hsecret : secret ≠ "")
    {fewer : Nat} (hf : fewer < Nat.pow 2 64) {site : Wiki.Site} {ctx : RequestContext}
    {stream id : String} {fields : Fields}
    (he : (withLives job fewer).event site ctx stream secret id = .ok (.object fields)) :
    IsEvent secret fewer (.object fields) (follower job fewer) := by
  obtain ⟨-, hdepth, hnumbers⟩ := h.params_withLives hs hf
  have hvalid := Job.isValid_of_ofEvent h.job_eq
  have hother : (withLives job fewer).params.get? "usleep" = job.params.get? "usleep" :=
    Fields.get?_insert job.params "lives" (.ofNat fewer) "usleep"
  exact isEvent_event hsecret he h.type_eq
    (Fields.get?_insert job.params "lives" (.ofNat fewer) "lives") hf (hother ▸ h.usleep) hdepth
    hnumbers fun t ht ↦ ⟨hvalid t ht, h.year t ht⟩

/-- What the job does depends on its lives alone. -/
theorem program_eq (h : IsEvent secret lives event job) (request : RequestContext) :
    program job request =
      if 1 < lives then .requeue (withLives job (lives - 1)) .done else .done (.ok ()) := by
  obtain ⟨usleep, hu⟩ := exists_naturalParam h.usleep
  simp only [program, naturalParam_ofNat h.lives_eq h.lives_lt, hu, Option.getD_some]

end IsEvent

end NullJob

namespace Endpoint

/-- What is put off at an endpoint can be carried out there: the executors are those that are always
there, and jobs are signed with the secret of the endpoint and go by the configuration of its
relay. -/
structure IsSelfContained (endpoint : Endpoint) : Prop where
  secret_ne : endpoint.secret ≠ ""
  executors_eq : endpoint.executors = Registry.builtins
  producer : ∃ producer, endpoint.producer = some producer ∧
    producer.jobSecret = some endpoint.secret
  producerConfig_eq : endpoint.producerConfig = none

private theorem sorted_of_eventIn? {body : Bytes} {event : Json} (h : eventIn? body = some event) :
    event.Sorted := by
  obtain ⟨text, -, hp⟩ := Option.bind_eq_some_iff.mp (Option.filter_eq_some_iff.mp h).1
  exact Json.sorted_of_parse? hp

section Hops

variable {σ : Type} [Transport σ] {endpoint : Endpoint} {body : Bytes} {event : Json} {lives : Nat}
  {job : Job} {relay : Relay σ}

/-- The event of a null job is accepted as that job. -/
theorem accept_of_isEvent (he : endpoint.IsSelfContained) (hb : eventIn? body = some event)
    (h : NullJob.IsEvent endpoint.secret lives event job) :
    endpoint.accept body = .ok (job, NullJob.program) := by
  rw [accept_of_eventIn? hb]
  simp only [h.verified, h.job_eq, he.executors_eq, h.type_eq]
  rfl

/-- A null job with one life, or none, is carried out, and nothing is sent. -/
theorem perform_of_le_one (he : endpoint.IsSelfContained) (hb : eventIn? body = some event)
    (h : NullJob.IsEvent endpoint.secret lives event job) (hl : lives ≤ 1)
    (hc : relay.IsConfigured) (now : Time.Timestamp) (ids : Ids) :
    ∃ ids' last, endpoint.perform now body ids relay = (some (.report 200 none), ids', last) ∧
      last.wire.requests = relay.wire.requests := by
  let context := endpoint.contextFor relay.config now ids.next
  have hr : context.runJob NullJob.program job (ids.drop 1) =
      (.ok (), ids.drop 1, { context := some context.request }) := by
    rw [JobContext.runJob, h.program_eq, if_neg (Nat.not_lt.mpr hl)]
    rfl
  obtain ⟨records, hp⟩ := perform_of_accept_eq_ok (accept_of_isEvent he hb h) hr
  obtain ⟨⟨report, hreport⟩, hrequests⟩ := Relay.flush_of_groups_eq_nil hc
    (show Queue.groups relay.config { context := some context.request } = [] from rfl)
  rw [hreport] at hp
  exact ⟨ids.drop 1, _, hp, hrequests⟩

/-- A null job with more lives puts one event off, of the same job with one life less. -/
theorem runJob_of_one_lt (he : endpoint.IsSelfContained)
    (h : NullJob.IsEvent endpoint.secret lives event job) (hl : 1 < lives) (config : Config)
    (now : Time.Timestamp) (ids : Ids) :
    let context := endpoint.contextFor config now ids.next
    let stream := config.streamName (Job.streamOf "null")
    ∃ site id fields,
      (NullJob.withLives job (lives - 1)).event site context.request stream endpoint.secret id =
        .ok (.object fields) ∧
      context.runJob NullJob.program job (ids.drop 1) =
        (.ok (), (ids.drop 1).drop 1, { context := some context.request
                                        late := [⟨.stream stream, .jobs, [.object fields]⟩] }) := by
  intro context stream
  obtain ⟨producer, hproducer, hsecret⟩ := he.producer
  have hstream :
      Producer.jobStream context.config (NullJob.withLives job (lives - 1)) = stream := by
    simp [Producer.jobStream, NullJob.withLives, h.type_eq, context, contextFor,
      he.producerConfig_eq, stream]
  obtain ⟨fields, hevent⟩ := Job.exists_event producer.site context.request stream endpoint.secret
    (NullJob.withLives job (lives - 1)) (ids.drop 1).next
  refine ⟨producer.site, (ids.drop 1).next, fields, hevent, ?_⟩
  rw [← hstream] at hevent ⊢
  have hp : context.producer = some producer := hproducer
  rw [JobContext.runJob, h.program_eq, if_pos hl, JobContext.run,
    JobContext.requeue_eq hp hsecret hevent]
  rfl

/-- A null job with more lives is carried out, and one event is sent, of the same job with one life
less. -/
theorem perform_of_one_lt (he : endpoint.IsSelfContained) (hb : eventIn? body = some event)
    (h : NullJob.IsEvent endpoint.secret lives event job) (hl : 1 < lives)
    (hc : relay.IsConfigured) (ht : relay.config.TakesJobs "null") (now : Time.Timestamp)
    (ids : Ids) :
    ∃ ids' last request fields,
      endpoint.perform now body ids relay = (some (.report 200 none), ids', last) ∧
      last.wire.requests = relay.wire.requests ++ [request] ∧
      Json.parse? request.bodyText = some (.array [.object fields]) ∧
      eventIn? (Text.utf8 (Json.object fields).compact) = some (.object fields) ∧
      NullJob.IsEvent endpoint.secret (lives - 1) (.object fields)
        (NullJob.follower job (lives - 1)) := by
  obtain ⟨site, id, fields, hevent, hr⟩ := runJob_of_one_lt he h hl relay.config now ids
  obtain ⟨records, hp⟩ := perform_of_accept_eq_ok (accept_of_isEvent he hb h) hr
  obtain ⟨⟨report, hreport⟩, request, hrequests, hbody⟩ :=
    Relay.flush_late_job hc ht (some (endpoint.contextFor relay.config now ids.next).request)
      (.object fields)
  have hs : event.Sorted := sorted_of_eventIn? hb
  have hf : lives - 1 < Nat.pow 2 64 := Nat.lt_of_le_of_lt (Nat.sub_le lives 1) h.lives_lt
  have hnext := h.follows hs he.secret_ne hf hevent
  have hsorted : (Json.object fields).Sorted :=
    Job.sorted_event hevent (h.params_withLives hs hf).1
  rw [hreport] at hp
  refine ⟨(ids.drop 1).drop 1, _, request, fields, hp, hrequests, ?_, ?_, hnext⟩
  · rw [hbody]
    exact Json.parse?_compact_singleton hsorted hnext.depth_le hnext.numbersReadBack
  · exact eventIn?_compact hsorted (Nat.le_succ_of_le hnext.depth_le) hnext.numbersReadBack

end Hops

end Endpoint

/-! ### Posting again and again -/

/-- A job event that was posted, the response, and the events that were handed to the transport
meanwhile. -/
structure Posting where
  event : Json
  response : JobResponse
  handed : List Json

/-- A body is posted, then one with the event in the body of the request that this caused, and so
on until there is no request. The postings are made at the times of a clock. -/
inductive Endpoint.Chain {σ : Type} [Transport σ] (endpoint : Endpoint)
    (clock : Nat → Time.Timestamp) : Nat → Bytes → Ids → Relay σ → List Posting → Prop
  | last {k : Nat} {body : Bytes} {event : Json} {ids ids' : Ids} {relay relay' : Relay σ}
      {response : JobResponse} :
      eventIn? body = some event →
      endpoint.perform (clock k) body ids relay = (some response, ids', relay') →
      relay'.wire.requests = relay.wire.requests →
      Chain endpoint clock k body ids relay [⟨event, response, []⟩]
  | next {k : Nat} {body body' : Bytes} {event event' : Json} {ids ids' : Ids}
      {relay relay' : Relay σ} {response : JobResponse} {request : HttpRequest}
      {rest : List Posting} :
      eventIn? body = some event →
      endpoint.perform (clock k) body ids relay = (some response, ids', relay') →
      relay'.wire.requests = relay.wire.requests ++ [request] →
      Json.parse? request.bodyText = some (.array [event']) →
      eventIn? body' = some event' →
      Chain endpoint clock (k + 1) body' ids' relay' rest →
      Chain endpoint clock k body ids relay (⟨event, response, [event']⟩ :: rest)

namespace NullJob

/-- A null job was posted as often as it has lives, and once if it has none. Each posting succeeded;
each but the last one handed over just the event of the next one, and the last one handed over none.
The follow-ups verify, and each is of the first job with one life less than before. -/
structure LivedOut (secret : String) (lives : Nat) (event : Json) (job : Job)
    (postings : List Posting) : Prop where
  length_eq : postings.length = max lives 1
  first : postings.head?.map (·.event) = some event
  response_eq : ∀ posting ∈ postings, posting.response = .report 200 none
  handed_eq : ∀ (k : Nat) (posting : Posting), postings[k]? = some posting →
    posting.handed = (postings[k + 1]?.map (·.event)).toList
  followed : ∀ (k : Nat) (posting : Posting), postings[k + 1]? = some posting →
    Event.verify secret posting.event = .ok () ∧
      Job.ofEvent posting.event = .ok (follower job (lives - (k + 1)))

/-- A job that was posted once lived out if it had no more than one life. -/
private theorem LivedOut.single {secret : String} {lives : Nat} (hl : lives ≤ 1) (event : Json)
    (job : Job) : LivedOut secret lives event job [⟨event, .report 200 none, []⟩] where
  length_eq := by simp [hl]
  first := rfl
  response_eq := by simp
  handed_eq k posting h := by
    cases k with
    | zero => cases h; rfl
    | succ k => cases h
  followed k posting h := by cases h

/-- A job lived out if the job that follows it did. -/
private theorem LivedOut.cons {secret : String} {lives : Nat} (hl : 1 < lives) {event event' : Json}
    {job : Job} (h : IsEvent secret (lives - 1) event' (follower job (lives - 1)))
    {rest : List Posting}
    (hrest : LivedOut secret (lives - 1) event' (follower job (lives - 1)) rest) :
    LivedOut secret lives event job (⟨event, .report 200 none, [event']⟩ :: rest) where
  length_eq := by
    rw [List.length_cons, hrest.length_eq]
    omega
  first := rfl
  response_eq := by
    simpa using hrest.response_eq
  handed_eq k posting hk := by
    cases k with
    | zero =>
      cases hk
      rw [List.getElem?_cons_succ, ← List.head?_eq_getElem?, hrest.first]
      rfl
    | succ k => exact hrest.handed_eq k posting hk
  followed k posting hk := by
    cases k with
    | zero =>
      have hfirst := hrest.first
      rw [List.getElem?_cons_succ, ← List.head?_eq_getElem?] at hk
      rw [hk] at hfirst
      obtain rfl : posting.event = event' := Option.some.inj hfirst
      exact ⟨h.verified, h.job_eq⟩
    | succ k =>
      obtain ⟨hv, hj⟩ := hrest.followed k posting hk
      rw [follower_follower, show lives - 1 - (k + 1) = lives - (k + 1 + 1) by omega] at hj
      exact ⟨hv, hj⟩

end NullJob

section Chains

variable {σ : Type} [Transport σ] {endpoint : Endpoint} {clock : Nat → Time.Timestamp} {k : Nat}
  {body : Bytes} {event : Json} {lives : Nat} {job : Job} {ids : Ids} {relay : Relay σ}
  {postings : List Posting}

namespace Endpoint

/-- A chain from a null job with one life, or none, is one posting. -/
private theorem Chain.of_le_one (h : Chain endpoint clock k body ids relay postings)
    (he : endpoint.IsSelfContained) (hb : eventIn? body = some event)
    (hj : NullJob.IsEvent endpoint.secret lives event job) (hl : lives ≤ 1)
    (hc : relay.IsConfigured) : postings = [⟨event, .report 200 none, []⟩] := by
  obtain ⟨ids', last, hp, hw⟩ := perform_of_le_one he hb hj hl hc (clock k) ids
  cases h with
  | last hb' hp' hw' =>
    cases hb.symm.trans hb'
    cases hp.symm.trans hp'
    rfl
  | next hb' hp' hw' =>
    cases hp.symm.trans hp'
    simp [hw] at hw'

/-- A chain from a null job with more lives goes on with a chain from the job with one life less. -/
private theorem Chain.of_one_lt (h : Chain endpoint clock k body ids relay postings)
    (he : endpoint.IsSelfContained) (hb : eventIn? body = some event)
    (hj : NullJob.IsEvent endpoint.secret lives event job) (hl : 1 < lives)
    (hc : relay.IsConfigured) (ht : relay.config.TakesJobs "null") :
    ∃ event' body' ids' relay' rest, postings = ⟨event, .report 200 none, [event']⟩ :: rest ∧
      eventIn? body' = some event' ∧
      NullJob.IsEvent endpoint.secret (lives - 1) event' (NullJob.follower job (lives - 1)) ∧
      Relay.Grows relay relay' ∧ Chain endpoint clock (k + 1) body' ids' relay' rest := by
  obtain ⟨ids', last, request, fields, hp, hw, hparse, -, hnext⟩ :=
    perform_of_one_lt he hb hj hl hc ht (clock k) ids
  have hg := endpoint.grows_perform (clock k) body ids relay
  cases h with
  | last hb' hp' hw' =>
    cases hp.symm.trans hp'
    simp [hw] at hw'
  | next hb' hp' hw' hparse' hbody' hrest =>
    cases hb.symm.trans hb'
    cases hp.symm.trans hp'
    obtain rfl := List.singleton_inj.mp (List.append_cancel_left (hw.symm.trans hw'))
    cases hparse.symm.trans hparse'
    rw [hp] at hg
    exact ⟨_, _, _, _, _, rfl, hbody', hnext, hg, hrest⟩

/-- Every chain from a null job ends when the job has lived out. -/
theorem Chain.livedOut (h : Chain endpoint clock k body ids relay postings)
    (he : endpoint.IsSelfContained) (hb : eventIn? body = some event)
    (hj : NullJob.IsEvent endpoint.secret lives event job) (hc : relay.IsConfigured)
    (ht : relay.config.TakesJobs "null") :
    NullJob.LivedOut endpoint.secret lives event job postings := by
  -- The relay of the next posting is another one, with the same configuration.
  induction lives using Nat.strongRecOn generalizing k body event job ids relay postings with
  | ind lives ih =>
    rcases Nat.lt_or_ge 1 lives with hl | hl
    · obtain ⟨event', body', ids', relay', rest, rfl, hb', hj', hg, hrest⟩ :=
        h.of_one_lt he hb hj hl hc ht
      have hfewer : lives - 1 < lives := Nat.sub_lt (Nat.zero_lt_of_lt hl) Nat.one_pos
      exact .cons hl hj'
        (ih (lives - 1) hfewer hrest hb' hj' (hg.isConfigured hc) (hg.config_eq ▸ ht))
    · rw [h.of_le_one he hb hj hl hc]
      exact .single hl event job

/-- There is a chain from every null job. -/
theorem exists_chain (he : endpoint.IsSelfContained) (hb : eventIn? body = some event)
    (hj : NullJob.IsEvent endpoint.secret lives event job) (hc : relay.IsConfigured)
    (ht : relay.config.TakesJobs "null") (clock : Nat → Time.Timestamp) (k : Nat) (ids : Ids) :
    ∃ postings, Chain endpoint clock k body ids relay postings := by
  induction lives using Nat.strongRecOn generalizing k body event job ids relay with
  | ind lives ih =>
    rcases Nat.lt_or_ge 1 lives with hl | hl
    · obtain ⟨ids', last, request, fields, hp, hw, hparse, hb', hj'⟩ :=
        perform_of_one_lt he hb hj hl hc ht (clock k) ids
      have hg := endpoint.grows_perform (clock k) body ids relay
      rw [hp] at hg
      have hfewer : lives - 1 < lives := Nat.sub_lt (Nat.zero_lt_of_lt hl) Nat.one_pos
      obtain ⟨rest, hrest⟩ :=
        ih (lives - 1) hfewer hb' hj' (hg.isConfigured hc) (hg.config_eq ▸ ht) (k + 1) ids'
      exact ⟨_, .next hb hp hw hparse hb' hrest⟩
    · obtain ⟨ids', last, hp, hw⟩ := perform_of_le_one he hb hj hl hc (clock k) ids
      exact ⟨_, .last hb hp hw⟩

end Endpoint

end Chains

/-- At an endpoint that can carry out what is put off there, over a relay in any state whose
configuration takes null jobs, any signed event of a null job is posted again and again as often as
it has lives, and once if it has none: there is a chain of postings, and every such chain is as
`LivedOut` says. -/
theorem NullJob.lives_run_out {σ : Type} [Transport σ] (endpoint : Endpoint)
    (hendpoint : endpoint.IsSelfContained) (relay : Relay σ) (hrelay : relay.IsConfigured)
    (htakes : relay.config.TakesJobs "null") (body : Bytes) (event : Json) (lives : Nat) (job : Job)
    (hbody : Endpoint.eventIn? body = some event)
    (hevent : IsEvent endpoint.secret lives event job) (clock : Nat → Time.Timestamp) (ids : Ids) :
    (∃ postings, endpoint.Chain clock 0 body ids relay postings) ∧
      ∀ postings, endpoint.Chain clock 0 body ids relay postings →
        LivedOut endpoint.secret lives event job postings :=
  ⟨Endpoint.exists_chain hendpoint hbody hevent hrelay htakes clock 0 ids,
    fun _ h ↦ h.livedOut hendpoint hbody hevent hrelay htakes⟩

/-- A null job with three lives, another parameter, a root event and a fraction of a second. -/
def threeLives : Job :=
  { type := "null"
    params := [("lives", .ofNat 3), ("note", .array [.string "a", .null]), ("usleep", .ofNat 10)]
    rootEvent := some ⟨"root", "2024-01-01T00:00:00Z"⟩
    release := some ⟨⟨2024, 5, 1⟩, 8, 30, 0, 500000000⟩ }

/-- A job with three lives is posted three times, although the transport fails at first. -/
theorem NullJob.lives_run_out_thrice :
    let site : Wiki.Site := ⟨"https://wiki", "/wiki/", "wiki"⟩
    let endpoint : Endpoint :=
      { secret := "secret"
        producer := some ⟨site, some "secret"⟩
        executors := Registry.builtins
        diagnose := fun _ ↦ "expected value at line 1 column 1" }
    let relay : Relay Script :=
      { config := { services := [("eventbus", { url := some "http://main" })] }
        wire := ⟨⟨[.unreachable "down"], none⟩, [], []⟩ }
    let now : Time.Timestamp := ⟨⟨2024, 5, 1⟩, 8, 30, 0, 0⟩
    endpoint.IsSelfContained ∧ relay.IsConfigured ∧ relay.config.TakesJobs "null" ∧
    ∃ body event job, Endpoint.eventIn? body = some event ∧ IsEvent "secret" 3 event job ∧
      ∃ postings, endpoint.Chain (fun _ ↦ now) 0 body (Ids.constant "id") relay postings ∧
        postings.length = 3 := by
  intro site endpoint relay now
  have hendpoint : endpoint.IsSelfContained := ⟨by decide, rfl, ⟨_, rfl, rfl⟩, rfl⟩
  have hrelay : relay.IsConfigured := Relay.isConfigured_new _ _
  have htakes : relay.config.TakesJobs "null" := by
    let service : ServiceConfig := ⟨"eventbus", "http://main", defaultTimeout, 4194304, false⟩
    refine ⟨rfl, "eventbus", service, ?_, ?_, ?_⟩
    all_goals decide +kernel
  obtain ⟨fields, hfields⟩ := Job.exists_event site
    { requestId := "request", clientIp := none, domain := "wiki", timestamp := now } "jobs" "secret"
    threeLives "id"
  have hsorted : (Json.object threeLives.params).Sorted := by
    simp only [threeLives, Json.ofNat, Json.Sorted, Json.SortedFields, Json.SortedItems]
    decide
  have hnumbers : (Json.object threeLives.params).NumbersReadBack :=
    ⟨Json.Parser.number_natural (by decide), ⟨trivial, trivial, trivial⟩,
      Json.Parser.number_natural (by decide), trivial⟩
  have hlives : threeLives.params.get? "lives" = some (.ofNat 3) := rfl
  have husleep : IsNatural (threeLives.params.get? "usleep") := .inr (.inr ⟨10, by decide, rfl⟩)
  have hrelease : ∀ t ∈ threeLives.release, t.IsValid ∧ 0 ≤ t.date.year ∧ t.date.year ≤ 9999 := by
    intro t ht
    cases ht
    decide
  have hevent := isEvent_event (by decide) hfields rfl hlives (by decide) husleep (by decide)
    hnumbers hrelease
  have hbody := Endpoint.eventIn?_compact (Job.sorted_event hfields hsorted)
    (Nat.le_succ_of_le hevent.depth_le) hevent.numbersReadBack
  obtain ⟨⟨postings, hchain⟩, hall⟩ := NullJob.lives_run_out endpoint hendpoint relay hrelay
    htakes _ _ 3 _ hbody hevent (fun _ ↦ now) (Ids.constant "id")
  exact ⟨hendpoint, hrelay, htakes, _, _, _, hbody, hevent, postings, hchain,
    (hall postings hchain).length_eq⟩

end EventRelay

import EventRelay.Delivery.Bus
import EventRelay.Proofs.Delivery.Partition
import Mathlib.Data.List.Forall2

/-!
# What the answers to a batch say

A batch of a category that is not enabled never reaches the transport. Any other batch goes out in
one call, one request for each of its parts, and its outcome is decided by the answers alone: it is
delivered if each request has an answer that takes it, and else every answer that does not is
reported, in order, and behind them that answers are missing.
-/

namespace EventRelay

namespace HttpOutcome

/-- What is reported of an answer that does not take its request: the error, if there is one that
says anything, and else the code and the reason. -/
inductive IsReportedAs (answer : HttpOutcome) : String → Prop
  | error {text : String} : answer.error = some text → text ≠ "" →
      IsReportedAs answer ("Unable to deliver all events: " ++ text)
  | status : (∀ text ∈ answer.error, text = "") →
      IsReportedAs answer s!"Unable to deliver all events: {answer.code}: {answer.reason}"

/-- The message about an answer reports what it says. -/
private theorem isReportedAs_detail (answer : HttpOutcome) :
    answer.IsReportedAs (undeliveredMessage answer.detail) := by
  rw [detail]
  cases he : answer.error with
  | none =>
    exact .status (by simp [he])
  | some text =>
    by_cases ht : text = ""
    · subst ht
      exact .status (by simp [he])
    · have hs : (some text).filter (!·.isEmpty) = some text := by simp [Option.filter, ht]
      rw [hs]
      exact .error he ht

/-- The messages about answers report them one by one. -/
theorem forall₂_isReportedAs (answers : List HttpOutcome) :
    List.Forall₂ IsReportedAs answers
      (answers.map fun answer ↦ undeliveredMessage answer.detail) :=
  List.forall₂_map_right_iff.mpr (List.forall₂_same.mpr fun answer _ ↦ answer.isReportedAs_detail)

private theorem isCreated_iff (answer : HttpOutcome) : answer.isCreated ↔ answer.code = 201 := by
  rw [isCreated, beq_iff_eq]

end HttpOutcome

namespace Bus

/-- The answers that do not take their requests. -/
def refusals (requests : List HttpRequest) (answers : List HttpOutcome) : List HttpOutcome :=
  (answers.take requests.length).filter (·.code ≠ 201)

/-- What is said when answers are missing. -/
def shortfallReport (given requests : Nat) : List String :=
  if given < requests then
    [s!"Unable to deliver all events: transport returned {given} outcomes for {requests} requests"]
  else []

/-- What is said about a request whose answer does not take it. -/
def refusalOf (bus : Bus) (request : HttpRequest) (answer : HttpOutcome) : Fault :=
  ⟨undeliveredMessage answer.detail, .undelivered bus.service.name request.url answer.code
    (streamsInBody request.bodyText) request.bodyText answer.detail⟩

/-- Every answer but 201 is a fault. -/
theorem fault?_eq (bus : Bus) (request : HttpRequest) (answer : HttpOutcome) :
    bus.fault? request answer =
      if answer.code = 201 then none else some (bus.refusalOf request answer) := by
  rw [fault?]
  simp only [answer.isCreated_iff]
  rfl

/-- The requests that were answered, but not taken, with their answers. -/
def refused (requests : List HttpRequest) (answers : List HttpOutcome) :
    List (HttpRequest × HttpOutcome) :=
  (requests.zip answers).filter (·.2.code ≠ 201)

theorem map_snd_refused (requests : List HttpRequest) (answers : List HttpOutcome) :
    (refused requests answers).map (·.2) = refusals requests answers := by
  induction requests generalizing answers with
  | nil => rfl
  | cons request rest ih =>
    cases answers with
    | nil => rfl
    | cons answer others =>
      by_cases hc : answer.code = 201 <;> simpa [refused, refusals, hc] using ih others

/-- What is said about a call: once for each answer that does not take its request, in order, and
then once if answers are missing. -/
theorem faults_eq (bus : Bus) (requests : List HttpRequest) (answers : List HttpOutcome) :
    bus.faults requests answers =
      (refused requests answers).map (fun pair ↦ bus.refusalOf pair.1 pair.2) ++
        (bus.shortfall? answers.length requests.length).toList := by
  have hpairs (pairs : List (HttpRequest × HttpOutcome)) :
      pairs.filterMap (fun pair ↦ bus.fault? pair.1 pair.2) =
        (pairs.filter (·.2.code ≠ 201)).map fun pair ↦ bus.refusalOf pair.1 pair.2 := by
    induction pairs with
    | nil => rfl
    | cons pair rest ih =>
      have hone := bus.fault?_eq pair.1 pair.2
      by_cases hc : pair.2.code = 201
      · rw [if_pos hc] at hone
        simpa [hone, hc] using ih
      · rw [if_neg hc] at hone
        simpa [hone, hc] using ih
  rw [faults, hpairs, refused]

/-- The messages about a call: one for each answer that does not take its request, and one if
answers are missing. -/
theorem map_error_faults (bus : Bus) (requests : List HttpRequest) (answers : List HttpOutcome) :
    (bus.faults requests answers).map (·.error) =
      (refusals requests answers).map (fun answer ↦ undeliveredMessage answer.detail) ++
        shortfallReport answers.length requests.length := by
  rw [faults_eq, List.map_append, ← map_snd_refused, List.map_map, List.map_map, shortfallReport,
    shortfall?]
  congr 1
  split <;> rfl

/-- What is said about a call is about a request whose answer does not take it, or about missing
answers. -/
theorem mem_faults_cases {bus : Bus} {requests : List HttpRequest} {answers : List HttpOutcome}
    {fault : Fault} (h : fault ∈ bus.faults requests answers) :
    (∃ pair ∈ refused requests answers, fault = bus.refusalOf pair.1 pair.2) ∨
    (answers.length < requests.length ∧
      fault = ⟨shortfallMessage answers.length requests.length,
        .shortfall bus.service.name answers.length requests.length⟩) := by
  rw [faults_eq] at h
  rcases List.mem_append.mp h with h | h
  · obtain ⟨pair, hm, rfl⟩ := List.mem_map.mp h
    exact .inl ⟨pair, hm, rfl⟩
  · have hf := Option.mem_toList.mp h
    rw [shortfall?] at hf
    split at hf
    · next hlt =>
      cases hf
      exact .inr ⟨hlt, rfl⟩
    · cases hf

/-- There is nothing to say about a call exactly if every request was taken. -/
theorem faults_eq_nil_iff (bus : Bus) (requests : List HttpRequest)
    (answers : List HttpOutcome) :
    bus.faults requests answers = [] ↔ requests.length ≤ answers.length ∧
      ∀ answer ∈ answers.take requests.length, answer.code = 201 := by
  rw [← List.map_eq_nil_iff, map_error_faults, List.append_eq_nil_iff, List.map_eq_nil_iff,
    refusals, List.filter_eq_nil_iff, shortfallReport]
  simp only [decide_eq_true_eq, ne_eq, Decidable.not_not, ite_eq_right_iff, List.cons_ne_self,
    imp_false, Nat.not_lt]
  exact and_comm

/-- The outcome of a call without faults. -/
theorem outcomeOf_eq_delivered_iff (faults : List Fault) :
    outcomeOf faults = .delivered ↔ faults = [] := by
  cases faults <;> simp [outcomeOf]

/-- A call is not suppressed. -/
theorem outcomeOf_ne_suppressed (faults : List Fault) : outcomeOf faults ≠ .suppressed := by
  cases faults <;> simp [outcomeOf]

private theorem outcomeOf_of_ne_nil {faults : List Fault} (h : faults ≠ []) :
    outcomeOf faults = .failed (faults.map (·.error)) := by
  cases faults with
  | nil => exact absurd rfl h
  | cons fault rest => rfl

/-- The errors of a call are the messages about it. -/
theorem errors_outcomeOf (faults : List Fault) :
    (outcomeOf faults).errors = faults.map (·.error) := by
  rw [outcomeOf]
  cases faults <;> rfl

variable {σ : Type} [Transport σ]

/-- A payload of which bodies are made is handed to the transport in one call, if its category is
enabled. -/
theorem send_of_bodies? {bus : Bus} {types : EventTypes} (h : bus.enabledTypes.contains types)
    {payload : Payload} {options : SendOptions} {bodies : List String}
    (hb : payload.bodies? (options.maxBatchBytes.getD bus.service.maxBatchBytes) = some bodies)
    (wire : Wire σ) :
    bus.send payload types options wire =
      let requests := bodies.map (bus.request options)
      let called := wire.call requests
      let faults := bus.faults requests called.1
      (outcomeOf faults, called.2.note (faults.map (·.record))) := by
  simp only [send, h, hb, Bool.not_true, Bool.false_eq_true, if_false]

/-- A batch that is enabled is handed to the transport in one call. -/
theorem send_of_contains {bus : Bus} {types : EventTypes} (h : bus.enabledTypes.contains types)
    {events : List Json} (hne : events ≠ []) (options : SendOptions) (wire : Wire σ) :
    bus.send (.events events) types options wire =
      let limit := options.maxBatchBytes.getD bus.service.maxBatchBytes
      let requests := (SubBatch.cut limit events).map fun part ↦ bus.request options part.body
      let called := wire.call requests
      let faults := bus.faults requests called.1
      (outcomeOf faults, called.2.note (faults.map (·.record))) := by
  have hb : (Payload.events events).bodies? (options.maxBatchBytes.getD bus.service.maxBatchBytes) =
      some ((SubBatch.cut (options.maxBatchBytes.getD bus.service.maxBatchBytes) events).map
        (·.body)) := if_neg (List.isEmpty_iff.not.mpr hne)
  rw [send_of_bodies? h hb, List.map_map]
  rfl

end Bus

/-- A batch of a category that the bus does not take is suppressed, and the transport is not
called. Any other batch with events makes one call, with one request for each of its parts under
the limit of the call or else of the service. Whatever the transport answers, the batch is
delivered exactly if there is an answer for each request and all of them take it. Otherwise it
fails with the reports of the answers that do not, in order, and then one that names the numbers if
answers are missing; there is always something to report. -/
theorem Bus.send_reports_answers {σ : Type} [Transport σ] (bus : Bus) (events : List Json)
    (hne : events ≠ []) (types : EventTypes) (options : SendOptions) (wire : Wire σ) :
    let limit := options.maxBatchBytes.getD bus.service.maxBatchBytes
    let requests := (SubBatch.cut limit events).map fun part ↦ bus.request options part.body
    let answers := (Transport.answer wire.state requests).1
    let sent := bus.send (.events events) types options wire
    (bus.enabledTypes.contains types = false → sent = (.suppressed, wire)) ∧
    (bus.enabledTypes.contains types = true →
      requests ≠ [] ∧
      sent.2.calls = wire.calls ++ [requests] ∧
      sent.2.state = (Transport.answer wire.state requests).2 ∧
      requests.map (·.body) = (SubBatch.cut limit events).map (fun part ↦ Text.utf8 part.body) ∧
      (∀ request ∈ requests, request.method = "POST" ∧ request.url = bus.service.url) ∧
      (sent.1 = .delivered ↔ requests.length ≤ answers.length ∧
        ∀ answer ∈ answers.take requests.length, answer.code = 201) ∧
      (sent.1 ≠ .delivered → ∃ reports,
        List.Forall₂ HttpOutcome.IsReportedAs (refusals requests answers) reports ∧
        sent.1 = .failed (reports ++ shortfallReport answers.length requests.length) ∧
        reports ++ shortfallReport answers.length requests.length ≠ [])) := by
  intro limit requests answers sent
  refine ⟨fun h ↦ ?_, fun h ↦ ?_⟩
  · simp [sent, Bus.send, h]
  · have hsent : sent = _ := Bus.send_of_contains h hne options wire
    have hout : sent.1 = outcomeOf (bus.faults requests answers) := by rw [hsent]; rfl
    have hnil : sent.1 = .delivered ↔ bus.faults requests answers = [] := by
      rw [hout, outcomeOf_eq_delivered_iff]
    refine ⟨?_, by rw [hsent]; rfl, by rw [hsent]; rfl, ?_, ?_, ?_, fun hfailed ↦ ?_⟩
    · intro hempty
      exact hne (SubBatch.cut_eq_nil_iff.mp (List.map_eq_nil_iff.mp hempty))
    · rw [List.map_map]
      rfl
    · intro request hr
      obtain ⟨part, -, rfl⟩ := List.mem_map.mp hr
      exact ⟨rfl, rfl⟩
    · exact hnil.trans (bus.faults_eq_nil_iff requests answers)
    · have hfaults : bus.faults requests answers ≠ [] := hnil.not.mp hfailed
      have herror := bus.map_error_faults requests answers
      refine ⟨(refusals requests answers).map fun answer ↦ undeliveredMessage answer.detail,
        HttpOutcome.forall₂_isReportedAs _, ?_, ?_⟩
      · rw [hout, outcomeOf_of_ne_nil hfaults, herror]
      · rw [← herror]
        exact List.map_eq_nil_iff.not.mpr hfaults

/-- A bus for one category whose service takes small bodies. -/
def narrowBus : Bus :=
  { service :=
      { name := "main"
        url := "http://main"
        timeout := defaultTimeout
        maxBatchBytes := 4
        forwardClientIp := false }
    enabledTypes := .jobs }

/-- Three events go out one by one: the first answer gives an error, the second one only a code,
and the third one is missing. -/
theorem Bus.send_reports_answers_partial :
    let partly : HttpOutcome := { code := 207, reason := "Multi-Status", error := some "1 failed" }
    let broken : HttpOutcome := { code := 500, reason := "Internal Server Error", error := some "" }
    let wire : Wire Script := { state := { outcomes := [partly, broken], limit := some 2 } }
    let events : List Json := [.ofNat 1, .ofNat 2, .ofNat 3]
    let outcome := (narrowBus.send (.events events) .jobs {} wire).1
    events ≠ [] ∧ outcome ≠ .delivered ∧
    ∃ reports, List.Forall₂ HttpOutcome.IsReportedAs [partly, broken] reports ∧
      outcome = .failed (reports ++
        ["Unable to deliver all events: transport returned 2 outcomes for 3 requests"]) := by
  intro partly broken wire events outcome
  have hne : events ≠ [] := List.cons_ne_nil _ _
  obtain ⟨-, hsent⟩ := Bus.send_reports_answers narrowBus events hne .jobs {} wire
  obtain ⟨-, -, -, -, -, hiff, hreports⟩ := hsent rfl
  have hfailed : outcome ≠ .delivered := fun h ↦ absurd (hiff.mp h).1 (by decide)
  obtain ⟨reports, hall, hout, -⟩ := hreports hfailed
  have hshort : shortfallReport 2 3 =
      ["Unable to deliver all events: transport returned 2 outcomes for 3 requests"] := by decide
  exact ⟨hne, hfailed, reports, hall, hshort ▸ hout⟩

end EventRelay

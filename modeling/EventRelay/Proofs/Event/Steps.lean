import EventRelay.Proofs.Event.Draft
import Mathlib.Data.List.Basic

/-!
# Drafts step by step

A step sets the time of a draft or the values of some keys, and what it sets replaces what was set
before. So under each key the event of a draft has what the last step for that key set, whatever
the steps for other keys and for the time did in between. The envelope has keys of its own, and no
step gets at them.
-/

namespace EventRelay.EventDraft

attribute [ext] EventDraft

/-- What a step sets under a key. -/
def Step.value? (key : String) : Step → Option Json
  | .time _ => none
  | .field other value => if key = other then some value else none
  | .fields value => value.asFields?.bind fun entries ↦ Fields.get? entries.reverse key

/-- The time that a step sets. -/
def Step.time? : Step → Option Time.Timestamp
  | .time t => some t
  | _ => none

/-! ### One step -/

private theorem get?_fields_add (draft : EventDraft) (step : Step) (key : String) :
    Fields.get? (draft.add step).fields key =
      (step.value? key).or (Fields.get? draft.fields key) := by
  cases step with
  | time t => rfl
  | field other value =>
    rw [add, Fields.get?_insert, Step.value?]
    split
    · rfl
    · rfl
  | fields value =>
    cases value with
    | object entries => exact Fields.get?_insertAll _ _ _
    | _ => rfl

private theorem time_add (draft : EventDraft) (step : Step) :
    (draft.add step).time = step.time?.or draft.time := by
  cases step with
  | time t => rfl
  | field other value => rfl
  | fields value => cases value <;> rfl

private theorem isSorted_fields_add {draft : EventDraft} (h : Fields.IsSorted draft.fields)
    (step : Step) :
    Fields.IsSorted (draft.add step).fields := by
  cases step with
  | time t => exact h
  | field other value => exact Fields.isSorted_insert h _ _
  | fields value =>
    cases value with
    | object entries => exact Fields.isSorted_insertAll h _
    | _ => exact h

private theorem names_add (draft : EventDraft) (step : Step) :
    (draft.add step).schema = draft.schema ∧ (draft.add step).stream = draft.stream ∧
      (draft.add step).uri = draft.uri := by
  cases step with
  | time t => exact ⟨rfl, rfl, rfl⟩
  | field other value => exact ⟨rfl, rfl, rfl⟩
  | fields value => cases value <;> exact ⟨rfl, rfl, rfl⟩

/-! ### Several steps -/

/-- Where every step replaces what is there by what it gives itself, the last step that gives
something counts. -/
private theorem read_addAll {α : Type} (read : EventDraft → Option α) {gives : Step → Option α}
    (h : ∀ draft step, read (draft.add step) = (gives step).or (read draft))
    (draft : EventDraft) (steps : List Step) :
    read (draft.addAll steps) = (steps.filterMap gives).getLast?.or (read draft) := by
  induction steps generalizing draft with
  | nil => rfl
  | cons step rest ih =>
    have hrest : read (draft.addAll (step :: rest)) =
        (rest.filterMap gives).getLast?.or ((gives step).or (read draft)) := by
      rw [← h]
      exact ih (draft.add step)
    rw [hrest, List.filterMap_cons]
    cases gives step with
    | none => rfl
    | some value =>
      rw [List.getLast?_cons]
      cases (rest.filterMap gives).getLast? with
      | none => rfl
      | some later => rfl

/-- The last step that sets a field decides its value. -/
theorem get?_fields_addAll (draft : EventDraft) (steps : List Step) (key : String) :
    Fields.get? (draft.addAll steps).fields key =
      (steps.filterMap (Step.value? key)).getLast?.or (Fields.get? draft.fields key) :=
  read_addAll (fun draft ↦ Fields.get? draft.fields key)
    (fun draft step ↦ get?_fields_add draft step key) draft steps

/-- The keys of a draft are those that some step sets. -/
theorem mem_keys_addAll {draft : EventDraft} {steps : List Step} {key : String} :
    key ∈ Fields.keys (draft.addAll steps).fields ↔
      (∃ step ∈ steps, (step.value? key).isSome) ∨ key ∈ Fields.keys draft.fields := by
  have hsome : (steps.filterMap (Step.value? key)).getLast?.isSome ↔
      ∃ step ∈ steps, (step.value? key).isSome := by
    rw [List.getLast?_filterMap, List.findSome?_isSome_iff]
    simp
  rw [← Fields.isSome_get?_iff, get?_fields_addAll, Option.isSome_or, Bool.or_eq_true, hsome,
    Fields.isSome_get?_iff]

/-- The last step that sets the time decides it. -/
theorem time_addAll (draft : EventDraft) (steps : List Step) :
    (draft.addAll steps).time = (steps.filterMap Step.time?).getLast?.or draft.time :=
  read_addAll EventDraft.time time_add draft steps

theorem isSorted_fields_addAll {draft : EventDraft} (h : Fields.IsSorted draft.fields)
    (steps : List Step) : Fields.IsSorted (draft.addAll steps).fields := by
  induction steps generalizing draft with
  | nil => exact h
  | cons step rest ih => exact ih (isSorted_fields_add h step)

/-- No step changes where the event of a draft goes and what it is about. -/
theorem names_addAll (draft : EventDraft) (steps : List Step) :
    (draft.addAll steps).schema = draft.schema ∧ (draft.addAll steps).stream = draft.stream ∧
      (draft.addAll steps).uri = draft.uri := by
  induction steps generalizing draft with
  | nil => exact ⟨rfl, rfl, rfl⟩
  | cons step rest ih =>
    obtain ⟨hschema, hstream, huri⟩ := names_add draft step
    obtain ⟨hschema', hstream', huri'⟩ := ih (draft.add step)
    exact ⟨hschema'.trans hschema, hstream'.trans hstream, huri'.trans huri⟩

/-- Steps that set the same values of each key and the same times, each in the same order, give
the same draft. -/
theorem addAll_congr {draft : EventDraft} (h : Fields.IsSorted draft.fields)
    {steps others : List Step}
    (hvalues : ∀ key,
      steps.filterMap (Step.value? key) = others.filterMap (Step.value? key))
    (htimes : steps.filterMap Step.time? = others.filterMap Step.time?) :
    draft.addAll steps = draft.addAll others := by
  have hfields : (draft.addAll steps).fields = (draft.addAll others).fields := by
    refine Fields.ext_of_isSorted (isSorted_fields_addAll h steps)
      (isSorted_fields_addAll h others) fun key ↦ ?_
    rw [get?_fields_addAll, get?_fields_addAll, hvalues]
  have htime : (draft.addAll steps).time = (draft.addAll others).time := by
    rw [time_addAll, time_addAll, htimes]
  obtain ⟨hschema, hstream, huri⟩ := names_addAll draft steps
  obtain ⟨hschema', hstream', huri'⟩ := names_addAll draft others
  exact EventDraft.ext (hschema.trans hschema'.symm) (hstream.trans hstream'.symm)
    (huri.trans huri'.symm) htime hfields

/-- Steps that set no time and steps that set one may change places. -/
theorem addAll_of_interleaving {draft : EventDraft} (h : Fields.IsSorted draft.fields)
    {steps others : List Step}
    (htimes : others.filter (·.time?.isSome) = steps.filter (·.time?.isSome))
    (hrest : others.filter (·.time?.isNone) = steps.filter (·.time?.isNone)) :
    draft.addAll others = draft.addAll steps := by
  have hkept {α : Type} {gives : Step → Option α} {p : Step → Bool}
      (hp : ∀ step, p step = false → gives step = none) (l : List Step) :
      l.filterMap gives = (l.filter p).filterMap gives := by
    rw [List.filterMap_filter]
    refine List.filterMap_congr fun step _ ↦ ?_
    cases hstep : p step with
    | true => rfl
    | false => exact hp step hstep
  refine addAll_congr h (fun key ↦ ?_) ?_
  · have hvalue (step : Step) (hstep : step.time?.isNone = false) : step.value? key = none := by
      cases step with
      | time t => rfl
      | field other value => cases hstep
      | fields value => cases hstep
    rw [hkept hvalue others, hkept hvalue steps, hrest]
  · have htime (step : Step) (hstep : step.time?.isSome = false) : step.time? = none :=
      Option.not_isSome_iff_eq_none.mp (Bool.eq_false_iff.mp hstep)
    rw [hkept htime others, hkept htime steps, htimes]

/-! ### The event -/

/-- What an event says about itself, with the time if it has one. -/
private theorem perm_metaFields (draft : EventDraft) (ctx : RequestContext) (id : String) :
    (draft.metaFields ctx id).Perm
      (Fields.ofOption "dt" (fun t ↦ .string t.toSeconds) draft.time ++
        [("uri", .string draft.uri), ("id", .string id), ("domain", .string ctx.domain),
          ("stream", .string draft.stream), ("request_id", .string ctx.requestId)]) := by
  refine Fields.perm_ofEntries ?_
  cases draft.time <;> simp [Fields.keys]

/-- Whatever steps are taken from a new draft and for whatever request, the built event is an
object with the schema and with what it says about itself, and besides these it has the keys that
some step sets, each with what the last of these steps sets. The schema is the one of the new
draft. What the event says about itself is where the draft goes and what it is about, its
identifier, its domain and its request; the time is among it exactly if some step sets it, and the
last of these steps counts. Steps that set the time may change places with the other ones. -/
theorem last_step_of_a_key_counts (schema stream uri : String) (steps : List Step)
    (ctx : RequestContext) (id : String) :
    ∃ fields about,
      (addAll { schema, stream, uri } steps).build ctx id = .object fields ∧
      (Fields.keys fields).Nodup ∧
      (∀ key, key ∈ Fields.keys fields ↔
        key = "$schema" ∨ key = "meta" ∨ ∃ step ∈ steps, (step.value? key).isSome) ∧
      (∀ key, key ≠ "$schema" → key ≠ "meta" →
        Fields.get? fields key = (steps.filterMap (Step.value? key)).getLast?) ∧
      Fields.get? fields "$schema" = some (.string schema) ∧
      Fields.get? fields "meta" = some (.object about) ∧
      about.Perm
        (Fields.ofOption "dt" (fun t ↦ .string t.toSeconds)
            (steps.filterMap Step.time?).getLast? ++
          [("uri", .string uri), ("id", .string id), ("domain", .string ctx.domain),
            ("stream", .string stream), ("request_id", .string ctx.requestId)]) ∧
      ∀ others : List Step,
        others.filter (·.time?.isSome) = steps.filter (·.time?.isSome) →
        others.filter (·.time?.isNone) = steps.filter (·.time?.isNone) →
        (addAll { schema, stream, uri } others).build ctx id = .object fields := by
  obtain ⟨draft, hdraft⟩ : ∃ draft : EventDraft, draft = { schema, stream, uri } := ⟨_, rfl⟩
  have hempty : draft.fields = [] := by rw [hdraft]
  have hsorted : Fields.IsSorted draft.fields := by
    rw [hempty]
    exact List.Pairwise.nil
  have htime : (draft.addAll steps).time = (steps.filterMap Step.time?).getLast? := by
    rw [time_addAll, hdraft, Option.or_none]
  obtain ⟨hschema, hstream, huri⟩ := names_addAll draft steps
  rw [← hdraft]
  obtain ⟨fields, hbuild⟩ : ∃ fields, (draft.addAll steps).build ctx id = .object fields :=
    ⟨_, rfl⟩
  have hget := get?_build (draft.addAll steps) ctx id
  have hother (key : String) (hs : key ≠ schemaKey) (hm : key ≠ metaKey) :
      Fields.get? fields key = (steps.filterMap (Step.value? key)).getLast? := by
    have hbody := get?_build_of_isSorted (isSorted_fields_addAll hsorted steps) ctx id hs hm
    rw [hbuild, get?_fields_addAll, hempty, Fields.get?_nil, Option.or_none] at hbody
    exact hbody
  rw [hbuild] at hget
  refine ⟨fields, _, hbuild, Fields.nodup_keys (isSorted_build hbuild), fun key ↦ ?_, hother,
    (hget schemaKey).trans ?_, (hget metaKey).trans rfl, ?_, ?_⟩
  · rw [mem_keys_build hbuild, mem_keys_addAll, hempty]
    simp [Fields.keys, schemaKey, metaKey]
  · rw [if_pos rfl, hschema, hdraft]
  · have hperm := perm_metaFields (draft.addAll steps) ctx id
    rw [htime, hstream, huri] at hperm
    subst hdraft
    exact hperm
  · intro others htimes hrest
    rw [addAll_of_interleaving hsorted htimes hrest, hbuild]

/-- Steps that set a key twice, set the time twice and try to set the envelope. -/
def meddlingSteps : List Step :=
  [.field "meta" .null, .time ⟨⟨2024, 5, 1⟩, 8, 30, 0, 0⟩,
    .fields (.object [("$schema", .null), ("action", .string "edit")]), .fields (.array []),
    .time ⟨⟨2024, 5, 1⟩, 9, 0, 0, 0⟩, .field "action" (.string "move")]

/-- The event has the second action, the stream of the new draft and the second time, and it is
the same when both times are set at the end. -/
theorem last_step_of_a_key_counts_meddling :
    let ctx : RequestContext :=
      { requestId := "r", clientIp := none, domain := "d",
        timestamp := ⟨⟨2024, 5, 1⟩, 8, 0, 0, 0⟩ }
    let draft : EventDraft := { schema := "/s/1.0.0", stream := "s", uri := "u" }
    let later := meddlingSteps.filter (·.time?.isNone) ++ meddlingSteps.filter (·.time?.isSome)
    ∃ fields about,
      (draft.addAll meddlingSteps).build ctx "i" = .object fields ∧
      Fields.get? fields "action" = some (.string "move") ∧
      Fields.get? fields "meta" = some (.object about) ∧
      ("stream", .string "s") ∈ about ∧ ("dt", .string "2024-05-01T09:00:00Z") ∈ about ∧
      (draft.addAll later).build ctx "i" = .object fields := by
  intro ctx draft later
  obtain ⟨fields, about, hbuild, -, -, hvalue, -, hmeta, habout, hothers⟩ :=
    last_step_of_a_key_counts "/s/1.0.0" "s" "u" meddlingSteps ctx "i"
  refine ⟨fields, about, hbuild, ?_, hmeta, ?_, ?_, hothers later rfl rfl⟩
  · exact (hvalue "action" (by decide) (by decide)).trans rfl
  · exact habout.mem_iff.mpr (by simp)
  · have htime : (⟨⟨2024, 5, 1⟩, 9, 0, 0, 0⟩ : Time.Timestamp).toSeconds =
        "2024-05-01T09:00:00Z" := by decide
    exact habout.mem_iff.mpr (List.mem_append_left _ (htime ▸ List.mem_singleton_self _))

end EventRelay.EventDraft

import EventRelay.Job.Basic
import EventRelay.Proofs.Event.Draft
import EventRelay.Proofs.Event.Signature
import EventRelay.Proofs.Json.Reading
import EventRelay.Proofs.Time.Rfc3339

/-!
# A job comes through its event

The event of a job holds its entries beside the envelope and a signature. Written as text and read
back it is the same event, because its keys are in order all the way down; it is accepted, and the
job in it is the one that was sent, released at the same second.
-/

namespace EventRelay

namespace RootEvent

/-- A root event is read back from its value. -/
theorem ofJson?_toJson (root : RootEvent) : ofJson? root.toJson = some root := by
  simp [ofJson?, toJson, Json.ofFields, FromJson.parts, FromJson.required, Json.asString?]

/-- The reader that says what is wrong reads the same root events. -/
theorem toOption_read (value : Json) : (read value).toOption = ofJson? value := by
  cases value with
  | object fields =>
    simp only [read, ofJson?, FromJson.parts, FromJson.required, Option.bind_eq_bind,
      Option.bind_some]
    rcases Fields.get? fields "dt" with _ | dt <;>
      rcases Fields.get? fields "signature" with _ | signature
    · rfl
    · cases signature <;> rfl
    · cases dt <;> rfl
    · cases dt <;> cases signature <;> rfl
  | array items =>
    rcases items with _ | ⟨signature, _ | ⟨dt, _ | ⟨other, rest⟩⟩⟩
    · rfl
    · cases signature <;> rfl
    · cases signature <;> cases dt <;> rfl
    · cases signature <;> cases dt <;> rfl
  | _ => rfl

example : read (.object [("signature", .null)]) =
    .error "invalid type: null, expected a string" := rfl

/-- The value of a root event is read without an error. -/
theorem read_toJson (root : RootEvent) : read root.toJson = .ok root := by
  have hsome := (toOption_read root.toJson).trans (ofJson?_toJson root)
  cases hr : read root.toJson with
  | ok other => rw [hr] at hsome; exact congrArg _ (Option.some.inj hsome)
  | error detail => rw [hr] at hsome; cases hsome

end RootEvent

namespace Job

private theorem nodup_keys_entries (site : Wiki.Site) (job : Job) :
    (Fields.keys (job.entries site)).Nodup := by
  cases hroot : job.rootEvent <;> cases hrelease : job.release <;>
    simp [entries, hroot, hrelease, Fields.ofOption, Fields.keys]

/-- What the event of a job says outside its envelope. -/
theorem get?_unsignedEvent (site : Wiki.Site) (ctx : RequestContext) (stream : String) (job : Job)
    (id : String) {key : String} (hs : key ≠ EventDraft.schemaKey) (hm : key ≠ EventDraft.metaKey) :
    (job.unsignedEvent site ctx stream id).get? key = Fields.get? (job.entries site) key := by
  rw [unsignedEvent,
    EventDraft.get?_build_of_isSorted (Fields.isSorted_ofEntries _) ctx id hs hm]
  change Fields.get? (Fields.ofEntries (job.entries site)) key = _
  rw [Fields.get?_ofEntries, Fields.get?_reverse (nodup_keys_entries site job)]

theorem exists_event (site : Wiki.Site) (ctx : RequestContext) (stream secret : String) (job : Job)
    (id : String) : ∃ fields, job.event site ctx stream secret id = .ok (.object fields) :=
  ⟨_, rfl⟩

/-! ### The values of an event -/

/-- An object of strings under sorted keys. -/
def IsRecord (value : Json) : Prop :=
  ∃ fields, value = .object fields ∧ Fields.IsSorted fields ∧
    ∀ entry ∈ fields, ∃ text, entry.2 = .string text

private theorem isRecord_metaFields (draft : EventDraft) (ctx : RequestContext) (id : String) :
    IsRecord (.object (draft.metaFields ctx id)) :=
  ⟨_, rfl, Fields.isSorted_ofEntries _, fun _ h ↦
    EventDraft.exists_string_of_mem_metaFields h⟩

private theorem isRecord_rootEvent (root : RootEvent) : IsRecord root.toJson := by
  refine ⟨_, rfl, Fields.isSorted_ofEntries _, fun entry h ↦ ?_⟩
  rcases Fields.mem_insertAll h with h | h
  · cases h
  · simp only [List.mem_cons, List.not_mem_nil, or_false] at h
    rcases h with rfl | rfl <;> exact ⟨_, rfl⟩

namespace IsRecord

private theorem sorted {value : Json} (h : IsRecord value) : value.Sorted := by
  obtain ⟨fields, rfl, hs, hall⟩ := h
  refine ⟨hs, Json.sortedFields_iff.mpr fun entry he ↦ ?_⟩
  obtain ⟨text, ht⟩ := hall entry he
  rw [ht]
  trivial

private theorem depth_le {value : Json} (h : IsRecord value) : value.depth ≤ 1 := by
  obtain ⟨fields, rfl, -, hall⟩ := h
  refine Nat.succ_le_succ (Json.depthFields_le_iff.mpr fun entry he ↦ ?_)
  obtain ⟨text, ht⟩ := hall entry he
  rw [ht]
  exact Nat.le_refl 0

private theorem numbersReadBack {value : Json} (h : IsRecord value) : value.NumbersReadBack := by
  obtain ⟨fields, rfl, -, hall⟩ := h
  refine Json.fieldsReadBack_iff.mpr fun entry he ↦ ?_
  obtain ⟨text, ht⟩ := hall entry he
  rw [ht]
  trivial

end IsRecord

/-- What holds of strings, of objects of strings and of the parameters holds of each value of a
job. -/
private theorem forall_mem_entries {P : Json → Prop} (hstring : ∀ text, P (.string text))
    (hrecord : ∀ value, IsRecord value → P value) (site : Wiki.Site) {job : Job}
    (hparams : P (.object job.params)) : ∀ entry ∈ job.entries site, P entry.2 := by
  intro entry h
  rcases List.mem_append.mp h with h | h
  · rcases List.mem_append.mp h with h | h
    · simp only [List.mem_cons, List.not_mem_nil, or_false] at h
      rcases h with rfl | rfl | rfl
      · exact hstring site.database
      · exact hstring job.type
      · exact hparams
    · obtain ⟨root, -, rfl⟩ := Option.map_eq_some_iff.mp (Option.mem_toList.mp h)
      exact hrecord _ (isRecord_rootEvent root)
  · obtain ⟨t, -, rfl⟩ := Option.map_eq_some_iff.mp (Option.mem_toList.mp h)
    exact hstring t.toSeconds

section Values

variable {site : Wiki.Site} {ctx : RequestContext} {stream secret id : String} {job : Job}
  {fields : Fields}

/-- What holds of strings, of objects of strings and of the parameters holds of each value of the
event of a job. -/
private theorem forall_mem_event (h : job.event site ctx stream secret id = .ok (.object fields))
    {P : Json → Prop} (hstring : ∀ text, P (.string text))
    (hrecord : ∀ value, IsRecord value → P value) (hparams : P (.object job.params)) :
    ∀ entry ∈ fields, P entry.2 := by
  intro entry he
  cases h
  rcases Fields.mem_insert he with rfl | he
  · exact hstring _
  · rcases EventDraft.mem_build rfl he with rfl | rfl | he
    · exact hstring _
    · exact hrecord _ (isRecord_metaFields _ ctx id)
    · rcases Fields.mem_insertAll he with he | he
      · cases he
      · exact forall_mem_entries hstring hrecord site hparams entry he

/-- The event of a job is sorted all the way down if the parameters are. -/
theorem sorted_event (h : job.event site ctx stream secret id = .ok (.object fields))
    (hp : (Json.object job.params).Sorted) : (Json.object fields).Sorted := by
  refine ⟨?_, Json.sortedFields_iff.mpr ?_⟩
  · cases h
    exact Fields.isSorted_insert (EventDraft.isSorted_build rfl) _ _
  · exact forall_mem_event h (fun _ ↦ trivial) (fun _ hr ↦ hr.sorted) hp

/-- The event of a job nests at most one deeper than its parameters. -/
theorem depth_event_le (h : job.event site ctx stream secret id = .ok (.object fields)) :
    (Json.object fields).depth ≤ (Json.object job.params).depth + 1 := by
  have hone : 1 ≤ (Json.object job.params).depth := Nat.le_add_left 1 _
  rw [Json.depth, Nat.add_le_add_iff_right, Json.depthFields_le_iff]
  exact forall_mem_event h (fun _ ↦ Nat.zero_le _) (fun _ hr ↦ Nat.le_trans hr.depth_le hone)
    (Nat.le_refl _)

/-- The numbers of the event of a job are those of its parameters. -/
theorem numbersReadBack_event (h : job.event site ctx stream secret id = .ok (.object fields))
    (hp : (Json.object job.params).NumbersReadBack) : (Json.object fields).NumbersReadBack :=
  Json.fieldsReadBack_iff.mpr
    (forall_mem_event h (fun _ ↦ trivial) (fun _ hr ↦ hr.numbersReadBack) hp)

end Values

/-! ### Reading the event -/

/-- The job is found in its own event, released at the same second. -/
theorem ofEvent_event {site : Wiki.Site} {ctx : RequestContext} {stream secret id : String}
    {job : Job} {event : Json} (h : job.event site ctx stream secret id = .ok event)
    (ht : job.type ≠ "")
    (hr : ∀ t ∈ job.release, t.IsValid ∧ 0 ≤ t.date.year ∧ t.date.year ≤ 9999) :
    ofEvent event = .ok { job with release := job.release.map Time.Timestamp.truncate } := by
  have hget {key : String} (hs : key ≠ EventDraft.schemaKey) (hm : key ≠ EventDraft.metaKey)
      (hk : key ≠ Event.signatureKey) : event.get? key = Fields.get? (job.entries site) key := by
    cases h
    rw [Json.get?, Fields.get?_insert, if_neg hk]
    exact get?_unsignedEvent site ctx stream job id hs hm
  have htype : event.get? "type" = some (.string job.type) := by
    rw [hget (by decide) (by decide) (by decide)]
    simp [entries]
  have hparams : event.get? "params" = some (.object job.params) := by
    rw [hget (by decide) (by decide) (by decide)]
    simp [entries]
  have hroot : event.get? "root_event" = job.rootEvent.map RootEvent.toJson := by
    rw [hget (by decide) (by decide) (by decide)]
    simp [entries]
  have hrelease : event.get? "release_timestamp" = job.release.map fun t ↦ .string t.toSeconds := by
    rw [hget (by decide) (by decide) (by decide)]
    simp [entries]
  have htype' : typeOf event = .ok job.type := by
    rw [typeOf, htype]
    simp [Json.asString?, Option.filter, ht]
  have hparams' : paramsOf event = .ok job.params := by
    rw [paramsOf, hparams]
  have hroot' : rootOf event = .ok job.rootEvent := by
    rw [rootOf, hroot]
    cases hj : job.rootEvent with
    | none => rfl
    | some root => simp only [Option.map_some, RootEvent.read_toJson]
  have hrelease' : releaseOf event = job.release.map Time.Timestamp.truncate := by
    rw [releaseOf, hrelease]
    cases hj : job.release with
    | none => rfl
    | some t =>
      obtain ⟨hv, hlow, hhigh⟩ := hr t hj
      simp only [Option.map_some, Option.bind_some, Json.asString?]
      exact Time.Timestamp.ofStrict?_toSeconds hv hlow hhigh
  rw [ofEvent, htype', hparams', hroot', hrelease']
  rfl

/-- The event of a job that is written as text and read back is accepted under the secret that it
was signed with, and the job in it is the one that was sent, released at the same second. -/
theorem event_comes_through {secret : String} (hs : secret ≠ "") {job : Job} (ht : job.type ≠ "")
    (hp : (Json.object job.params).Sorted)
    (hr : ∀ t ∈ job.release, t.IsValid ∧ 0 ≤ t.date.year ∧ t.date.year ≤ 9999)
    (site : Wiki.Site) (ctx : RequestContext) (stream id : String) :
    ∃ event, job.event site ctx stream secret id = .ok event ∧
      (event.depth ≤ Json.Parser.maxDepth → event.NumbersReadBack →
        ∃ received, Json.parse? event.compact = some received ∧
          Event.verify secret received = .ok () ∧
          ofEvent received =
            .ok { job with release := job.release.map Time.Timestamp.truncate }) := by
  obtain ⟨fields, he⟩ := exists_event site ctx stream secret job id
  refine ⟨.object fields, he, fun hd hn ↦ ⟨.object fields, ?_, ?_, ?_⟩⟩
  · rw [Json.parse?_compact hd hn, Json.canonical_of_sorted _ (sorted_event he hp)]
  · exact Event.verify_attach hs he
  · exact ofEvent_event he ht hr

/-- A job with nested parameters, a number with a point, a root event and a leap second. -/
def nestedJob : Job :=
  { type := "refresh\"Links\""
    params :=
      [("count", .number (.integer (-42))),
        ("pages",
          .array [.object [("mediawiki_signature", .string "\\\n"), ("x", .null)], .array []]),
        ("ratio", .number (.double ⟨true, 0x3FF8000000000000, by decide⟩))]
    rootEvent := some ⟨"root", "2024-01-01T00:00:00Z"⟩
    release := some ⟨⟨2016, 12, 31⟩, 23, 59, 59, 1500000000⟩ }

/-- The nested job comes through with the leap second cut to its start. -/
theorem event_comes_through_nested :
    ∃ event, nestedJob.event ⟨"https://wiki", "/wiki/", "wiki"⟩
        ⟨"request", none, "wiki", ⟨⟨2016, 12, 31⟩, 0, 0, 0, 0⟩⟩ "jobs" "secret" "id" = .ok event ∧
      ∃ received, Json.parse? event.compact = some received ∧
        Event.verify "secret" received = .ok () ∧
        ofEvent received =
          .ok { nestedJob with release := some ⟨⟨2016, 12, 31⟩, 23, 59, 59, 1000000000⟩ } := by
  have hp : (Json.object nestedJob.params).Sorted := by
    simp only [nestedJob, Json.Sorted, Json.SortedFields, Json.SortedItems]
    decide
  have hr : ∀ t ∈ nestedJob.release, t.IsValid ∧ 0 ≤ t.date.year ∧ t.date.year ≤ 9999 := by
    intro t ht
    cases ht
    decide
  have hd : (Json.object nestedJob.params).depth + 1 ≤ Json.Parser.maxDepth := by decide
  have hn : (Json.object nestedJob.params).NumbersReadBack := by
    simp only [nestedJob, Json.NumbersReadBack, Json.FieldsReadBack, Json.ItemsReadBack,
      JsonNumber.ReadsBack]
    decide +kernel
  obtain ⟨event, he, hread⟩ := event_comes_through (show "secret" ≠ "" by decide)
    (show nestedJob.type ≠ "" by decide) hp hr ⟨"https://wiki", "/wiki/", "wiki"⟩
    ⟨"request", none, "wiki", ⟨⟨2016, 12, 31⟩, 0, 0, 0, 0⟩⟩ "jobs" "id"
  refine ⟨event, he, ?_⟩
  obtain ⟨fields, hf⟩ := exists_event ⟨"https://wiki", "/wiki/", "wiki"⟩
    ⟨"request", none, "wiki", ⟨⟨2016, 12, 31⟩, 0, 0, 0, 0⟩⟩ "jobs" "secret" nestedJob "id"
  have hfields : event = .object fields := Except.ok.inj (he.symm.trans hf)
  subst hfields
  exact hread (Nat.le_trans (depth_event_le hf) hd) (numbersReadBack_event hf hn)

end Job
end EventRelay

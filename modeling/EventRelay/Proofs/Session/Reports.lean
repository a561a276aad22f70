import EventRelay.Proofs.Session.Submissions
import EventRelay.Proofs.Wiki.Change

/-!
# What is reported of a wiki

A change is one event on the stream of its kind, and purges are one submission with an event for
each URL. The stream to which they go is the one that the events name, whatever stream names are
mapped to, and whatever is in the records that the events are made of. Where nothing has changed
nothing is put down.
-/

namespace EventRelay

private theorem Ids.drop_zero (ids : Ids) : ids.drop 0 = ids := by
  rw [drop]
  simp only [Nat.zero_add]

namespace Wiki.Change

/-- Nothing has changed: no property was set or removed, or what can be seen is what could be seen
before. -/
inductive IsIdle : Change → Prop
  | properties {change : PropertiesChange} :
      change.added = [] → change.removed = [] → IsIdle (propertiesChanged change)
  | visibility {change : VisibilityChange} :
      change.revision.visibility = change.prior → IsIdle (visibilityChanged change)

/-- The changes that are left out are the idle ones. -/
theorem isVoid_iff {change : Change} : change.isVoid = true ↔ change.IsIdle := by
  constructor
  · intro h
    cases change with
    | propertiesChanged change =>
      obtain ⟨hadded, hremoved⟩ : change.added = [] ∧ change.removed = [] := by
        simpa [isVoid] using h
      exact .properties hadded hremoved
    | visibilityChanged change => exact .visibility (by simpa [isVoid] using h)
    | _ => cases h
  · intro h
    cases h with
    | properties hadded hremoved => simp [isVoid, hadded, hremoved]
    | visibility hsame => simp [isVoid, hsame]

end Wiki.Change

namespace Producer

variable (ctx : RequestContext) (ids : Ids) (queue : Queue)

/-- A change that is one becomes a submission of its event. -/
theorem announce_of_not_isIdle (producer : Producer) (config : Config) {change : Wiki.Change}
    (h : ¬ change.IsIdle) :
    let stream := config.streamName change.stream
    producer.announce config ctx change ids queue =
      (.ok (queue.put .regular
          ⟨.stream stream, .events, [change.event producer.site ctx stream ids.next]⟩),
        ids.drop 1) := by
  intro stream
  have hvoid : ¬ change.isVoid = true := fun hv ↦ h (Wiki.Change.isVoid_iff.mp hv)
  rw [announce, if_neg hvoid]
  refine Prod.ext ?_ rfl
  refine queue.push_of_objects .regular (.stream stream) .events (List.cons_ne_nil _ _) ?_
  intro event hm
  rw [List.mem_singleton.mp hm]
  rfl

/-- There is one event of a purge for each URL, in order. -/
theorem forall₂_purgeEvents (stream : String) (urls : List String) :
    List.Forall₂
      (fun url event ↦ Event.IsMadeFor ctx "/resource_change/1.0.0" stream event ∧
        Event.about? event "uri" = some (.string url))
      urls (purgeEvents ctx stream urls ids) := by
  rw [purgeEvents]
  induction urls generalizing ids with
  | nil => exact .nil
  | cons url rest ih =>
    rw [List.mapIdx_cons]
    refine .cons ⟨?_, ?_⟩ ?_
    · exact Wiki.isMadeFor_purgeEvent ctx stream _ url
    · exact Wiki.about?_purgeEvent ctx stream _ url
    · exact ih ⟨fun i ↦ ids.nth (i + 1)⟩

/-- Purges of at least one URL become a submission of their events. -/
theorem purge_of_ne_nil (config : Config) {urls : List String} (h : urls ≠ []) :
    let stream := config.streamName Wiki.purgeStream
    purge config ctx urls ids queue =
      (.ok (queue.put .regular ⟨.stream stream, .purges, purgeEvents ctx stream urls ids⟩),
        ids.drop urls.length) := by
  intro stream
  refine Prod.ext ?_ rfl
  refine queue.push_of_objects .regular (.stream stream) .purges ?_ ?_
  · simpa [purgeEvents] using h
  · intro event hm
    obtain ⟨i, _, rfl⟩ := List.mem_mapIdx.mp hm
    rfl

end Producer

/-- In any session, reporting a change that is none leaves everything as it was, and so does a purge
of no URL. Any other change leaves one change event behind all that was put down before, and a purge
leaves one submission with an event for each URL, in order. What is left goes to the stream of its
kind under the name that it has on the wire; and each event names this stream, the schema of its
kind, and the domain and the identifier of the request, whatever it was made of. -/
theorem Session.reports_leave_one_submission {σ : Type} [Transport σ] (session : Session σ)
    (ctx : RequestContext) :
    let name := session.relay.config.streamName
    let behind (submission : Submission) (used : Nat) : Session σ :=
      { session with
        ids := session.ids.drop used
        queue := { session.queue with pending := session.queue.pending ++ [submission] } }
    (∀ change : Wiki.Change, change.IsIdle →
      session.step (.announce ctx change) = (.done, session)) ∧
    (∀ change : Wiki.Change, ¬ change.IsIdle →
      let stream := name change.stream
      let event := change.event session.producer.site ctx stream session.ids.next
      session.step (.announce ctx change) =
        (.done, behind ⟨.stream stream, .events, [event]⟩ 1) ∧
      Event.IsMadeFor ctx change.schema stream event) ∧
    session.step (.purge ctx []) = (.done, session) ∧
    ∀ urls, urls ≠ [] → ∃ events,
      session.step (.purge ctx urls) =
        (.done, behind ⟨.stream (name "resource-purge"), .purges, events⟩ urls.length) ∧
      List.Forall₂
        (fun url event ↦
          Event.IsMadeFor ctx "/resource_change/1.0.0" (name "resource-purge") event ∧
          Event.about? event "uri" = some (.string url))
        urls events := by
  intro name behind
  refine ⟨?_, ?_, ?_, ?_⟩
  · intro change hidle
    have hvoid : change.isVoid = true := Wiki.Change.isVoid_iff.mpr hidle
    rw [step, Producer.announce, if_pos hvoid]
    rfl
  · intro change hchange stream event
    refine ⟨?_, change.isMadeFor_event ctx stream session.ids.next session.producer.site⟩
    rw [step, Producer.announce_of_not_isIdle ctx session.ids session.queue session.producer
      session.relay.config hchange]
    rfl
  · have hids : session.ids.drop ([] : List String).length = session.ids := session.ids.drop_zero
    rw [step, Producer.purge, hids]
    rfl
  · intro urls hurls
    refine ⟨_, ?_, Producer.forall₂_purgeEvents ctx session.ids _ urls⟩
    rw [step, Producer.purge_of_ne_nil ctx session.ids session.queue session.relay.config hurls]
    rfl

/-- A configuration under which properties and purges travel on other streams. -/
def renamingConfig : Config :=
  { streamNames :=
      [("mediawiki.page-properties-change", "props.staging"), ("resource-purge", "purge.staging")] }

/-- A property that poses as the envelope of an event. -/
def posingChange : Wiki.PropertiesChange :=
  { page := { pageId := 7, space := 0, title := "A page" }
    added := [("meta", .object [("stream", .string "other")]), ("$schema", .string "other")] }

/-- Behind an event that is there already, a change with properties that pose as an envelope and
purges of two URLs leave submissions for the streams that theirs are mapped to, and these are what
their events name. A visibility that is what it was leaves nothing. -/
theorem Session.reports_leave_one_submission_posing :
    let earlier : Submission := ⟨.service "other", .jobs, [.object []]⟩
    let relay : Relay Script := { config := renamingConfig, wire := ⟨⟨[], none⟩, [], []⟩ }
    let session : Session Script :=
      { relay, producer := wikiProducer, ids := .constant "id", queue := { pending := [earlier] } }
    let ctx := servedRequest none
    let page : Wiki.Page := { pageId := 7, space := 0, title := "A page" }
    let same : Wiki.VisibilityChange :=
      { revision := { revId := 12, timestamp := ctx.timestamp, page }, prior := {} }
    (Wiki.Change.visibilityChanged same).IsIdle ∧
    session.step (.announce ctx (.visibilityChanged same)) = (.done, session) ∧
    ¬ (Wiki.Change.propertiesChanged posingChange).IsIdle ∧
    (∃ event,
      (session.step (.announce ctx (.propertiesChanged posingChange))).2.queue.pending =
        [earlier, ⟨.stream "props.staging", .events, [event]⟩] ∧
      Event.IsMadeFor ctx "/mediawiki/page/properties-change/1.0.0" "props.staging" event) ∧
    ∃ one two,
      (session.step (.purge ctx ["http://wiki/a", "http://wiki/b"])).2.queue.pending =
        [earlier, ⟨.stream "purge.staging", .purges, [one, two]⟩] ∧
      Event.IsMadeFor ctx "/resource_change/1.0.0" "purge.staging" two ∧
      Event.about? two "uri" = some (.string "http://wiki/b") := by
  intro earlier relay session ctx page same
  obtain ⟨hidle, hchange, -, hpurge⟩ := reports_leave_one_submission session ctx
  have hsame : (Wiki.Change.visibilityChanged same).IsIdle := .visibility rfl
  have hposing : ¬ (Wiki.Change.propertiesChanged posingChange).IsIdle := by
    rintro ⟨hadded, -⟩
    cases hadded
  obtain ⟨hstep, hmade⟩ := hchange (.propertiesChanged posingChange) hposing
  obtain ⟨events, hpurged, hevents⟩ :=
    hpurge ["http://wiki/a", "http://wiki/b"] (List.cons_ne_nil _ _)
  obtain ⟨one, rest, -, hrest, rfl⟩ := List.forall₂_cons_left_iff.mp hevents
  obtain ⟨two, last, ⟨hmade', huri⟩, hlast, rfl⟩ := List.forall₂_cons_left_iff.mp hrest
  cases List.forall₂_nil_left_iff.mp hlast
  refine ⟨hsame, hidle _ hsame, hposing, ⟨_, ?_, hmade⟩, one, two, ?_, hmade', huri⟩
  · rw [hstep]
    rfl
  · rw [hpurged]
    rfl

end EventRelay

import EventRelay.Proofs.Event.Draft
import EventRelay.Wiki.Change

/-!
# The event of a change

Whatever a change is about, its event names the schema of its kind, the stream that the caller
chose, and the request that it is made for, and it is about the URL of the page; all else that it
says are the entries of the change.
-/

namespace EventRelay.Wiki

/-! ### Single entries -/

/-- A hidden or unknown author has no entry. -/
theorem get?_authorEntry (revision : Revision) (key : String) :
    Fields.get? (authorEntry revision).reverse key =
      if key = "performer" ∧ revision.visibility.user = false then
        revision.performer.map userEntity
      else none := by
  rw [authorEntry]
  cases revision.visibility.user with
  | true => simp
  | false => simp [performerEntry]

theorem get?_commentEntry (summary : Bytes) (key : String) :
    Fields.get? (commentEntry summary).reverse key =
      if key = "comment" ∧ summary ≠ [] then some (.string (Text.binarySafe summary))
      else none := by
  cases summary <;> simp [commentEntry]

private theorem isSorted_actedBy {fields : Fields} (h : Fields.IsSorted fields)
    (performer : Option User) : Fields.IsSorted (actedBy fields performer) := by
  cases performer with
  | none => exact Fields.isSorted_filter h _
  | some user => exact Fields.isSorted_insert h _ _

/-- Setting the acting user changes what is said of that user alone. -/
theorem get?_actedBy (fields : Fields) (performer : Option User) (key : String) :
    Fields.get? (actedBy fields performer) key =
      if key = "performer" then performer.map userEntity else Fields.get? fields key := by
  cases performer with
  | none => exact Fields.get?_erase fields "performer" key
  | some user => exact Fields.get?_insert fields "performer" (userEntity user) key

/-! ### Events -/

variable (ctx : RequestContext) (stream id : String)

namespace Change

variable (site : Site)

theorem isSorted_entries_visibilityChanged (change : VisibilityChange) :
    Fields.IsSorted ((visibilityChanged change).entries site) :=
  isSorted_actedBy (Fields.isSorted_ofEntries _) change.performer

/-- What the event of a change says outside its envelope. -/
theorem get?_event (change : Change) {key : String} (hs : key ≠ EventDraft.schemaKey)
    (hm : key ≠ EventDraft.metaKey) :
    (change.event site ctx stream id).get? key =
      Fields.get? (Fields.ofEntries (change.entries site)) key :=
  EventDraft.get?_build_of_isSorted (Fields.isSorted_ofEntries _) ctx id hs hm

/-- Two changes of a kind have the same event if they are of the same time, the URLs of their pages
are the same, and they say the same. -/
theorem event_congr {change change' : Change} (hschema : change.schema = change'.schema)
    (hurl : site.pageUrl change.title = site.pageUrl change'.title)
    (htime : change.time ctx = change'.time ctx)
    (hentries : change.entries site = change'.entries site) :
    change.event site ctx stream id = change'.event site ctx stream id := by
  rw [event, event, hschema, hurl, htime, hentries]

/-- The event of a change is of the schema of the change and was made for the request. -/
theorem isMadeFor_event (change : Change) :
    Event.IsMadeFor ctx change.schema stream (change.event site ctx stream id) :=
  EventDraft.isMadeFor_build _ ctx id rfl rfl

/-- The event of a change is about the URL of its page. -/
theorem about?_event (change : Change) :
    Event.about? (change.event site ctx stream id) "uri" =
      some (.string (site.pageUrl change.title)) :=
  (EventDraft.about?_build _ ctx id).1

end Change

theorem isMadeFor_purgeEvent (url : String) :
    Event.IsMadeFor ctx "/resource_change/1.0.0" stream (purgeEvent ctx stream url id) :=
  EventDraft.isMadeFor_build _ ctx id rfl rfl

/-- The event of a purge is about the URL. -/
theorem about?_purgeEvent (url : String) :
    Event.about? (purgeEvent ctx stream url id) "uri" = some (.string url) :=
  (EventDraft.about?_build _ ctx id).1

end EventRelay.Wiki

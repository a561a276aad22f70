import EventRelay.Event.Basic
import EventRelay.Text.BinarySafe
import EventRelay.Wiki.Codec

/-!
# Changes of a wiki and their events

Each kind of change has an event of its own: a schema, the page that it is about, and entries
taken from records. A title appears by its key, a summary as a binary-safe string, and what is
hidden of a revision does not appear at all. The stream is chosen by the caller.
-/

namespace EventRelay.Wiki

open Fields (ofOption)

/-- A page was deleted. -/
structure PageDeletion where
  page : Page
  performer : Option User := none
  reason : Bytes := []
  latestRevId : Option UInt64 := none
  revCount : Option UInt64 := none
  /-- Whether the page was also hidden. -/
  suppressed : Bool := false

/-- A deleted page was restored. -/
structure PageUndeletion where
  page : Page
  performer : Option User := none
  reason : Bytes := []
  /-- The number that the page had before. -/
  priorPageId : Option UInt64 := none

/-- A page got another title. -/
structure PageMove where
  oldTitle : String
  oldSpace : Int32
  /-- The page as it is now. -/
  page : Page
  performer : Option User := none
  reason : Bytes := []
  revId : UInt64
  /-- The page that was left in its place, if any. -/
  redirectPageId : Option UInt64 := none

/-- Properties of a page were set or removed. -/
structure PropertiesChange where
  page : Page
  performer : Option User := none
  added : Fields := []
  removed : Fields := []

/-- Parts of a revision were hidden or shown again. -/
structure VisibilityChange where
  /-- The revision as it is now. -/
  revision : Revision
  performer : Option User := none
  prior : Visibility

/-- A user was blocked. -/
structure BlockChange where
  target : User
  performer : Option User := none
  reason : Bytes := []
  block : Block
  /-- The block that this one replaces. -/
  prior : Option Block := none

/-- What is said of a user. -/
def userEntity (user : User) : Json :=
  .ofFields
    ([("user_text", .string user.userText), ("user_groups", .array (user.groups.map .string)),
        ("user_is_bot", .bool user.isBot)] ++
      ofOption "user_id" ofWord64 user.userId ++
      ofOption "user_edit_count" ofWord64 user.editCount ++
      ofOption "user_registration_dt" (fun t ↦ .string t.toSeconds) user.registration)

/-- The entry of the acting user. -/
def performerEntry (performer : Option User) : Fields := ofOption "performer" userEntity performer

/-- The entry of a summary that is not empty. -/
def commentEntry (summary : Bytes) : Fields :=
  if summary.isEmpty then [] else [("comment", .string (Text.binarySafe summary))]

/-- What is said of a page. -/
def pageEntries (site : Site) (page : Page) : Fields :=
  [("database", .string site.database), ("page_id", ofWord64 page.pageId),
    ("page_title", .string page.key), ("page_namespace", .ofInt page.space.toInt),
    ("page_is_redirect", .bool page.isRedirect)]

/-- The entry of the author of a revision, unless the author is hidden. -/
def authorEntry (revision : Revision) : Fields :=
  if revision.visibility.user then [] else performerEntry revision.performer

/-- What is said of a revision, less what is hidden of it. -/
def revisionEntries (site : Site) (revision : Revision) : Fields :=
  pageEntries site revision.page ++
    [("rev_id", ofWord64 revision.revId),
      ("rev_timestamp", .string revision.timestamp.toSeconds),
      ("rev_minor_edit", .bool revision.isMinor)] ++
    ofOption "rev_parent_id" ofWord64 revision.parentId ++
    ofOption "rev_sha1" .string revision.sha1 ++
    ofOption "rev_len" ofWord64 revision.length ++
    ofOption "rev_content_model" .string revision.contentModel ++
    ofOption "rev_content_format" .string revision.contentFormat ++
    (if revision.visibility.comment then [] else commentEntry revision.comment) ++
    authorEntry revision

/-- Entries in which the acting user takes the place of any other one; if nobody is known to have
acted, there is none. -/
def actedBy (fields : Fields) (performer : Option User) : Fields :=
  match performer with
  | some user => fields.insert "performer" (userEntity user)
  | none => fields.erase "performer"

/-- What is said of a visibility: what can be seen. -/
def visibilityEntity (visibility : Visibility) : Json :=
  .ofFields
    [("text", .bool !visibility.text), ("user", .bool !visibility.user),
      ("comment", .bool !visibility.comment)]

/-- What is said of a block. -/
def blockEntity (block : Block) : Json :=
  .ofFields
    [("email", .bool block.email), ("user_talk", .bool block.userTalk),
      ("account_create", .bool block.accountCreation), ("sitewide", .bool block.sitewide),
      ("expiry_dt", .string ((block.expiry.map (·.toSeconds)).getD "infinite"))]

/-- A change of a wiki. -/
inductive Change where
  | pageDeleted (deletion : PageDeletion)
  | pageUndeleted (undeletion : PageUndeletion)
  | pageMoved (move : PageMove)
  | propertiesChanged (change : PropertiesChange)
  | revisionCreated (revision : Revision)
  | visibilityChanged (change : VisibilityChange)
  | blocksChanged (change : BlockChange)

namespace Change

/-- The schema of the event of a change. -/
def schema : Change → String
  | pageDeleted _ => "/mediawiki/page/delete/1.0.0"
  | pageUndeleted _ => "/mediawiki/page/undelete/1.0.0"
  | pageMoved _ => "/mediawiki/page/move/1.0.0"
  | propertiesChanged _ => "/mediawiki/page/properties-change/1.0.0"
  | revisionCreated _ => "/mediawiki/revision/create/2.0.0"
  | visibilityChanged _ => "/mediawiki/revision/visibility-change/1.0.0"
  | blocksChanged _ => "/mediawiki/user/blocks-change/1.1.0"

/-- The stream of a change, unless it goes by another name on the wire. -/
def stream : Change → String
  | pageDeleted _ => "mediawiki.page-delete"
  | pageUndeleted _ => "mediawiki.page-undelete"
  | pageMoved _ => "mediawiki.page-move"
  | propertiesChanged _ => "mediawiki.page-properties-change"
  | revisionCreated _ => "mediawiki.revision-create"
  | visibilityChanged _ => "mediawiki.revision-visibility-change"
  | blocksChanged _ => "mediawiki.user-blocks-change"

/-- The title of the page that a change is about. -/
def title : Change → String
  | pageDeleted deletion => deletion.page.title
  | pageUndeleted undeletion => undeletion.page.title
  | pageMoved move => move.page.title
  | propertiesChanged change => change.page.title
  | revisionCreated revision => revision.page.title
  | visibilityChanged change => change.revision.page.title
  | blocksChanged change => "User:" ++ change.target.userText

/-- The time of a change: that of the revision where one is created, else that of the request. -/
def time (ctx : RequestContext) : Change → Time.Timestamp
  | revisionCreated revision => revision.timestamp
  | _ => ctx.timestamp

/-- What the event of a change says. -/
def entries (site : Site) : Change → Fields
  | pageDeleted deletion =>
    pageEntries site deletion.page ++ performerEntry deletion.performer ++
      commentEntry deletion.reason ++
      ofOption "rev_id" ofWord64 deletion.latestRevId ++
      ofOption "rev_count" ofWord64 deletion.revCount ++
      (if deletion.suppressed then [("page_suppressed", .bool true)] else [])
  | pageUndeleted undeletion =>
    pageEntries site undeletion.page ++ performerEntry undeletion.performer ++
      commentEntry undeletion.reason ++
      ofOption "prior_state" (fun n ↦ .ofFields [("page_id", ofWord64 n)]) undeletion.priorPageId
  | pageMoved move =>
    let old : Fields :=
      [("page_title", .string (titleKey move.oldTitle)),
        ("page_namespace", .ofInt move.oldSpace.toInt)]
    pageEntries site move.page ++ [("rev_id", ofWord64 move.revId)] ++
      performerEntry move.performer ++ commentEntry move.reason ++
      [("prior_state", .ofFields old)] ++
      ofOption "new_redirect_page" (fun n ↦ .ofFields (("page_id", ofWord64 n) :: old))
        move.redirectPageId
  | propertiesChanged change =>
    pageEntries site change.page ++ performerEntry change.performer ++
      (if change.added.isEmpty then [] else [("added_properties", .object change.added)]) ++
      (if change.removed.isEmpty then [] else [("removed_properties", .object change.removed)])
  | revisionCreated revision => revisionEntries site revision
  | visibilityChanged change =>
    let states : Fields :=
      [("visibility", visibilityEntity change.revision.visibility),
        ("prior_state", .ofFields [("visibility", visibilityEntity change.prior)])]
    let fields := Fields.ofEntries (revisionEntries site change.revision ++ states)
    actedBy fields change.performer
  | blocksChanged change =>
    [("database", .string site.database), ("user_text", .string change.target.userText),
        ("user_groups", .array (change.target.groups.map .string)),
        ("blocks", blockEntity change.block)] ++
      ofOption "user_id" ofWord64 change.target.userId ++
      performerEntry change.performer ++ commentEntry change.reason ++
      ofOption "prior_state" (fun b ↦ .ofFields [("blocks", blockEntity b)]) change.prior

/-- The event of a change on a stream. -/
def event (site : Site) (ctx : RequestContext) (stream : String) (change : Change) (id : String) :
    Json :=
  let draft : EventDraft := { schema := change.schema, stream, uri := site.pageUrl change.title }
  (draft.addAll [.time (change.time ctx), .fields (.object (change.entries site))]).build ctx id

/-- Whether nothing has changed, so that there is no event. -/
def isVoid : Change → Bool
  | propertiesChanged change => change.added.isEmpty && change.removed.isEmpty
  | visibilityChanged change => change.revision.visibility == change.prior
  | _ => false

end Change

/-- The stream of purges, unless it goes by another name on the wire. -/
def purgeStream : String := "resource-purge"

/-- The event that tells caches to drop what they hold for a URL. -/
def purgeEvent (ctx : RequestContext) (stream url id : String) : Json :=
  let draft : EventDraft := { schema := "/resource_change/1.0.0", stream, uri := url }
  (draft.addAll
    [.time ctx.timestamp, .field "tags" (.array [.string "mediawiki"])]).build ctx id

end EventRelay.Wiki

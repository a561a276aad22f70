import EventRelay.Json.FromJson
import EventRelay.Wiki.Records

/-!
# Records of a wiki as JSON

How sites, users, pages and revisions are read and written. Timestamps are read in the lenient
form and written with the fraction that they have.
-/

namespace EventRelay.FromJson

open Wiki

/-- A timestamp in the lenient form. -/
def timestamp : FromJson Time.Timestamp := fun value ↦
  value.asString?.bind Time.Timestamp.ofLenient?

/-- A site. -/
def site : FromJson Site := fun value ↦ do
  let fields ← parts ["server", "article_path", "database"] 3 value
  pure
    { server := ← required Json.asString? fields "server"
      articlePath := ← withDefault Json.asString? fields "article_path" "/wiki/"
      database := ← required Json.asString? fields "database" }

/-- A user. -/
def user : FromJson User := fun value ↦ do
  let fields ←
    parts ["user_id", "user_text", "groups", "is_bot", "edit_count", "registration_dt"] 6 value
  pure
    { userId := ← optional word64 fields "user_id"
      userText := ← required Json.asString? fields "user_text"
      groups := ← withDefault (list Json.asString?) fields "groups" []
      isBot := ← withDefault Json.asBool? fields "is_bot" false
      editCount := ← optional word64 fields "edit_count"
      registration := ← optional timestamp fields "registration_dt" }

/-- A page. -/
def page : FromJson Page := fun value ↦ do
  let fields ← parts ["page_id", "namespace", "title", "is_redirect"] 3 value
  pure
    { pageId := ← required word64 fields "page_id"
      space := ← required integer32 fields "namespace"
      title := ← required Json.asString? fields "title"
      isRedirect := ← withDefault Json.asBool? fields "is_redirect" false }

/-- The hidden parts of a revision, all of them said. -/
def visibility : FromJson Visibility := fun value ↦ do
  let fields ← parts ["text", "user", "comment"] 3 value
  pure
    { text := ← required Json.asBool? fields "text"
      user := ← required Json.asBool? fields "user"
      comment := ← required Json.asBool? fields "comment" }

/-- The parts of a revision in order. -/
def revisionKeys : List String :=
  ["rev_id", "parent_id", "timestamp", "page", "performer", "comment", "sha1", "len", "is_minor",
    "content_model", "content_format", "visibility"]

/-- A revision. -/
def revision : FromJson Revision := fun value ↦ do
  let fields ← parts revisionKeys 11 value
  pure
    { revId := ← required word64 fields "rev_id"
      parentId := ← optional word64 fields "parent_id"
      timestamp := ← required timestamp fields "timestamp"
      page := ← required page fields "page"
      performer := ← optional user fields "performer"
      comment := ← withDefault (list byte) fields "comment" []
      sha1 := ← optional Json.asString? fields "sha1"
      length := ← optional word64 fields "len"
      isMinor := ← withDefault Json.asBool? fields "is_minor" false
      contentModel := ← optional Json.asString? fields "content_model"
      contentFormat := ← optional Json.asString? fields "content_format"
      visibility := ← withDefault visibility fields "visibility" {} }

end EventRelay.FromJson

namespace EventRelay.Wiki

/-- An integer of sixty-four bits without sign. -/
def ofWord64 (n : UInt64) : Json := .ofNat n.toNat

/-- A timestamp with its fraction of a second. -/
def ofTimestamp (t : Time.Timestamp) : Json := .string t.toText

/-- The value of a site. -/
def Site.toJson (site : Site) : Json :=
  .ofFields
    [("server", .string site.server), ("article_path", .string site.articlePath),
      ("database", .string site.database)]

/-- The value of a user. -/
def User.toJson (user : User) : Json :=
  .ofFields
    [("user_id", Json.orNull ofWord64 user.userId), ("user_text", .string user.userText),
      ("groups", .array (user.groups.map .string)), ("is_bot", .bool user.isBot),
      ("edit_count", Json.orNull ofWord64 user.editCount),
      ("registration_dt", Json.orNull ofTimestamp user.registration)]

/-- The value of a page. -/
def Page.toJson (page : Page) : Json :=
  .ofFields
    [("page_id", ofWord64 page.pageId), ("namespace", .ofInt page.space.toInt),
      ("title", .string page.title), ("is_redirect", .bool page.isRedirect)]

/-- The value of the hidden parts of a revision. -/
def Visibility.toJson (visibility : Visibility) : Json :=
  .ofFields
    [("text", .bool visibility.text), ("user", .bool visibility.user),
      ("comment", .bool visibility.comment)]

/-- The value of a revision. -/
def Revision.toJson (revision : Revision) : Json :=
  .ofFields
    [("rev_id", ofWord64 revision.revId), ("parent_id", Json.orNull ofWord64 revision.parentId),
      ("timestamp", ofTimestamp revision.timestamp), ("page", revision.page.toJson),
      ("performer", Json.orNull User.toJson revision.performer),
      ("comment", .array (revision.comment.map fun b ↦ .ofNat b.toNat)),
      ("sha1", Json.orNull .string revision.sha1), ("len", Json.orNull ofWord64 revision.length),
      ("is_minor", .bool revision.isMinor),
      ("content_model", Json.orNull .string revision.contentModel),
      ("content_format", Json.orNull .string revision.contentFormat),
      ("visibility", revision.visibility.toJson)]

end EventRelay.Wiki

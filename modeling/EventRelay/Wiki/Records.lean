import EventRelay.Net.Url
import EventRelay.Text.Utf8
import EventRelay.Time.Rfc3339

/-!
# Records of a wiki

What a wiki tells about itself, its users, its pages and their revisions. A page is named by its
title, in which blanks and underscores are the same; the key of a title has underscores, and no
white space at its ends.
-/

namespace EventRelay.Wiki

/-- The key of a title. -/
def titleKey (title : String) : String :=
  String.ofList ((Text.trimChars title.toList).map fun c ↦ if c = ' ' then '_' else c)

/-- A wiki. -/
structure Site where
  /-- The URL of its server. -/
  server : String
  /-- What stands in front of a title in a path. -/
  articlePath : String := "/wiki/"
  /-- The name of its database. -/
  database : String
deriving DecidableEq, Repr

namespace Site

/-- The URL of a page: that of the server with another path. If the server has no URL, the path
is put behind it. -/
def pageUrl (site : Site) (title : String) : String :=
  let path := site.articlePath ++ titleKey title
  match Net.UrlFrame.parse? site.server with
  | some frame => frame.withPath path
  | none =>
    String.ofList (site.server.toList.reverse.dropWhile (· == '/')).reverse ++ path

end Site

/-- A user. -/
structure User where
  /-- The number of the user; without one the user is anonymous. -/
  userId : Option UInt64 := none
  userText : String
  groups : List String := []
  isBot : Bool := false
  editCount : Option UInt64 := none
  registration : Option Time.Timestamp := none
deriving DecidableEq, Repr

namespace User

/-- A user with a number. -/
def named (userId : UInt64) (userText : String) : User := { userId := some userId, userText }

/-- A user known by an address only. -/
def anonymous (userText : String) : User := { userText }

end User

/-- A page. -/
structure Page where
  pageId : UInt64
  /-- The number of its namespace. -/
  space : Int32
  /-- The title with the name of the namespace. -/
  title : String
  isRedirect : Bool := false
deriving DecidableEq, Repr

/-- The key of the title of a page. -/
def Page.key (page : Page) : String := titleKey page.title

/-- Which parts of a revision are hidden from the public. -/
structure Visibility where
  text : Bool := false
  user : Bool := false
  comment : Bool := false
deriving DecidableEq, Repr

/-- A revision of a page. -/
structure Revision where
  revId : UInt64
  parentId : Option UInt64 := none
  timestamp : Time.Timestamp
  page : Page
  performer : Option User := none
  /-- The summary; it need not be text. -/
  comment : Bytes := []
  sha1 : Option String := none
  length : Option UInt64 := none
  isMinor : Bool := false
  contentModel : Option String := none
  contentFormat : Option String := none
  visibility : Visibility := {}
deriving DecidableEq, Repr

/-- The restrictions of a block. -/
structure Block where
  /-- The end of the block, if it has one. -/
  expiry : Option Time.Timestamp := none
  email : Bool := false
  userTalk : Bool := false
  accountCreation : Bool := false
  sitewide : Bool := false
deriving DecidableEq, Repr

end EventRelay.Wiki

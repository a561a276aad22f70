import EventRelay.Text.Blank
import EventRelay.Text.Utf8
import EventRelay.Time.Duration

/-!
# Requests and their outcomes

Events leave as HTTP requests. The outcome of a request is the status of its response, or, with
the code zero, the reason why there was none.
-/

namespace EventRelay

/-- A request. -/
structure HttpRequest where
  method : String := "POST"
  url : String
  headers : List (String × String)
  /-- How long to wait for the response. -/
  timeout : Time.Duration
  body : Bytes
deriving DecidableEq, Repr

namespace HttpRequest

/-- The body as text; empty if it is none. -/
def bodyText (request : HttpRequest) : String := (Text.ofUtf8? request.body).getD ""

/-- The first value of a header, whose name has no case. -/
def header? (request : HttpRequest) (name : String) : Option String :=
  (request.headers.find? fun entry ↦ Text.lowercase entry.1 == Text.lowercase name).map (·.2)

end HttpRequest

/-- What came of a request. -/
structure HttpOutcome where
  /-- The status code, or zero without a response. -/
  code : Nat
  reason : String := ""
  /-- Why there was no response. -/
  error : Option String := none
deriving DecidableEq, Repr

namespace HttpOutcome

/-- The request was taken. -/
def created : HttpOutcome := { code := 201, reason := "Created" }

/-- There was no response. -/
def unreachable (error : String) : HttpOutcome := { code := 0, error := some error }

/-- Whether all events of the request were taken. -/
def isCreated (outcome : HttpOutcome) : Bool := outcome.code == 201

/-- What the outcome says about a failure. -/
def detail (outcome : HttpOutcome) : String :=
  match outcome.error.filter (!·.isEmpty) with
  | some error => error
  | none => s!"{outcome.code}: {outcome.reason}"

end HttpOutcome
end EventRelay

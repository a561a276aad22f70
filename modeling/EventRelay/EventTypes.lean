import EventRelay.Text.Blank

/-!
# Event categories

An event is an ordinary change event, a background job or a signal to purge a cache. A set of
categories says what a batch holds, and another one what a service accepts: a batch may go out if
its set is not empty and all of it is accepted.
-/

namespace EventRelay

/-- A set of event categories. -/
structure EventTypes where
  /-- Ordinary change events. -/
  event : Bool
  /-- Background jobs. -/
  job : Bool
  /-- Cache purges. -/
  cdn : Bool
deriving DecidableEq, Repr

namespace EventTypes

/-- No category. -/
def none : EventTypes := ⟨false, false, false⟩

/-- Change events alone. -/
def events : EventTypes := ⟨true, false, false⟩

/-- Jobs alone. -/
def jobs : EventTypes := ⟨false, true, false⟩

/-- Purges alone. -/
def purges : EventTypes := ⟨false, false, true⟩

/-- Every category. -/
def all : EventTypes := ⟨true, true, true⟩

/-- The categories of either set. -/
def union (a b : EventTypes) : EventTypes := ⟨a.event || b.event, a.job || b.job, a.cdn || b.cdn⟩

/-- Whether there is no category in the set. -/
def isNone (a : EventTypes) : Bool := !a.event && !a.job && !a.cdn

/-- Whether each category of `b` is in `a`. -/
def includes (a b : EventTypes) : Bool :=
  (a.event || !b.event) && (a.job || !b.job) && (a.cdn || !b.cdn)

/-- Whether `b` is not empty and all of it is in `a`. -/
def contains (a b : EventTypes) : Bool := !b.isNone && a.includes b

/-- The set that a name stands for, whatever its case and the white space around it. -/
def ofName? (name : String) : Option EventTypes :=
  match Text.lowercase (Text.trim name) with
  | "event" | "events" => some events
  | "job" | "jobs" => some jobs
  | "cdn" | "purge" => some purges
  | "all" => some all
  | "none" => some none
  | _ => Option.none

/-- The union of named sets; the first name without a meaning is an error. -/
def ofNames (names : List String) : Except String EventTypes :=
  names.foldlM
    (fun acc name ↦
      match ofName? name with
      | some types => .ok (acc.union types)
      | Option.none => .error name)
    none

/-- The text of a set. -/
def toText (a : EventTypes) : String :=
  if a.isNone then "none"
  else
    "|".intercalate
      ((if a.event then ["event"] else []) ++ (if a.job then ["job"] else []) ++
        (if a.cdn then ["cdn"] else []))

/-- What is said about a name that stands for no set. -/
def unknownMessage (name : String) : String := "unknown event type '" ++ name ++ "'"

end EventTypes
end EventRelay

import EventRelay.Json.Printer

/-!
# Batches that fit a limit

A list of events is cut into consecutive batches whose JSON arrays have a limited number of
bytes. A batch takes events as long as they fit, so that few batches are needed. An event that
does not fit on its own gets a batch to itself: no event is dropped or shortened.
-/

namespace EventRelay

/-- Consecutive events and the text of their JSON array. -/
structure SubBatch where
  events : List Json
  body : String

/-- A batch that may take more events, with its text so far, which lacks the closing bracket. -/
structure OpenBatch where
  events : List Json
  text : String

namespace OpenBatch

/-- A batch without events. -/
def empty : OpenBatch := ⟨[], "["⟩

/-- Whether the batch has no events. -/
def isEmpty (batch : OpenBatch) : Bool := batch.events.isEmpty

/-- What separates a further event from those of the batch. -/
def separator (batch : OpenBatch) : String := if batch.isEmpty then "" else ","

/-- The batch with one more event, whose text is given. -/
def push (batch : OpenBatch) (event : Json) (encoded : String) : OpenBatch :=
  ⟨batch.events ++ [event], batch.text ++ batch.separator ++ encoded⟩

/-- The number of bytes of the array if the batch took an event with the given text. -/
def sizeWith (batch : OpenBatch) (encoded : String) : Nat :=
  batch.text.utf8ByteSize + encoded.utf8ByteSize + batch.separator.utf8ByteSize + 1

/-- The batch as it is sent. -/
def close (batch : OpenBatch) : SubBatch := ⟨batch.events, batch.text ++ "]"⟩

end OpenBatch

namespace SubBatch

/-- Cuts events into batches, the first of which is open. -/
def cutFrom (limit : Nat) (batch : OpenBatch) : List Json → List SubBatch
  | [] => if batch.isEmpty then [] else [batch.close]
  | event :: rest =>
    let encoded := event.compact
    if !batch.isEmpty && limit < batch.sizeWith encoded then
      batch.close :: cutFrom limit (OpenBatch.empty.push event encoded) rest
    else cutFrom limit (batch.push event encoded) rest

/-- Cuts events into batches of at most `limit` bytes. -/
def cut (limit : Nat) (events : List Json) : List SubBatch := cutFrom limit .empty events

end SubBatch
end EventRelay

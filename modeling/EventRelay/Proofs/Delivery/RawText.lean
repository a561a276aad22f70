import EventRelay.Proofs.Delivery.ArrayText
import EventRelay.Proofs.Delivery.Traffic
import EventRelay.Proofs.Json.Received
import EventRelay.Proofs.Text.Trimming

/-!
# Any text in place of events

What is handed over as a text need not be that of an array. White space around it does not count.
A text that is empty then, or brackets with white space in between, is refused; no other text is,
since the reader takes no other one for an empty array. The text of an array or of an object goes
out as arrays of the same events, cut where it does not fit, and any other text goes out as it is.
-/

namespace EventRelay

/-! ### Texts without events -/

namespace Text

end Text

namespace Json

end Json

end EventRelay

/-!
# Fresh identifiers

Every event gets an identifier that no other event has. Where they come from is not known here:
an endless supply is handed to whatever makes events, which takes from its front and gives back
the rest.
-/

namespace EventRelay

/-- An endless supply of identifiers. -/
structure Ids where
  nth : Nat → String

namespace Ids

/-- The supply of one identifier over and over. -/
def constant (id : String) : Ids := ⟨fun _ ↦ id⟩

/-- The next identifier. -/
def next (ids : Ids) : String := ids.nth 0

/-- The supply without its next `n` identifiers. -/
def drop (ids : Ids) (n : Nat) : Ids := ⟨fun i ↦ ids.nth (n + i)⟩

end Ids
end EventRelay

import EventRelay.Number.Binary64

/-!
# TOML values

A TOML document is a table. It is not written in one piece: headers and dotted keys add to it
line by line, and what a later line may add to a table depends on how that table came to be.
Each table carries this `Opening`. Here are the values and the three additions: `assign` for a
key with a value, `openTable` for a header `[a.b]` and `openElement` for a header `[[a.b]]`.
-/

namespace EventRelay.Toml

/-- How a table came to be. -/
inductive Opening where
  /-- Written in braces, and complete. -/
  | braces
  /-- By a header of its own; the document itself counts as such. -/
  | header
  /-- By a header of a table inside it. -/
  | parent
  /-- By a dotted key. -/
  | dotted
deriving DecidableEq, Repr

/-- A TOML value. -/
inductive Value where
  | string (text : String)
  | integer (value : Int)
  | float (value : Number.Extended)
  | boolean (value : Bool)
  /-- A date, a time or both, as text. -/
  | datetime (text : String)
  | array (items : List Value)
  /-- An array whose items have headers of their own. -/
  | tables (items : List Value)
  | table (opening : Opening) (entries : List (String × Value))

/-- The entries of a table, in order of appearance. -/
abbrev Entries := List (String × Value)

namespace Entries

/-- The entries with another value for a key that they have. -/
def replace (entries : Entries) (key : String) (value : Value) : Entries :=
  entries.map fun entry ↦ if entry.1 == key then (key, value) else entry

/-- Adds to the table at the end of a path of keys. Tables that are missing on the way are made,
and the last item stands for an array of tables. A dotted key does not pass a table that has a
header of its own; nothing passes a table in braces. -/
def descend (dotted : Bool) (add : Opening → Entries → Option Entries) :
    (path : List String) → Opening → Entries → Option Entries
  | [], opening, entries => add opening entries
  | key :: path, _, entries =>
    match entries.lookup key with
    | none => do
      let opening := if dotted then .dotted else .parent
      let inner ← descend dotted add path opening []
      pure (entries ++ [(key, .table opening inner)])
    | some (.table opening inner) =>
      if opening = .braces ∨ (dotted ∧ opening = .header) then none
      else do
        let inner ← descend dotted add path opening inner
        pure (entries.replace key (.table opening inner))
    | some (.tables items) =>
      match items.getLast? with
      | some (.table opening inner) => do
        let inner ← descend dotted add path opening inner
        pure (entries.replace key (.tables (items.dropLast ++ [.table opening inner])))
      | _ => none
    | some _ => none

/-- Adds a value under a key that is not taken. Behind a dotted path the table must have been
made by a dotted key, too. -/
def assign (path : List String) (key : String) (value : Value) (entries : Entries) :
    Option Entries :=
  descend true (fun opening entries ↦
      if !path.isEmpty && opening != .dotted then none
      else if (entries.lookup key).isSome then none
      else some (entries ++ [(key, value)]))
    path .header entries

/-- Opens the table of a header: a new one, or one that so far was only the parent of another. -/
def openTable (path : List String) (key : String) (entries : Entries) : Option Entries :=
  descend false (fun _ entries ↦
      match entries.lookup key with
      | none => some (entries ++ [(key, .table .header [])])
      | some (.table .parent inner) => some (entries.replace key (.table .header inner))
      | some _ => none)
    path .header entries

/-- Opens one more item of an array of tables. -/
def openElement (path : List String) (key : String) (entries : Entries) : Option Entries :=
  descend false (fun _ entries ↦
      match entries.lookup key with
      | none => some (entries ++ [(key, .tables [.table .header []])])
      | some (.tables items) =>
        some (entries.replace key (.tables (items ++ [.table .header []])))
      | some _ => none)
    path .header entries

/-- Adds a value under a dotted key in the table that was opened last. -/
def assignIn (opened path : List String) (key : String) (value : Value) (entries : Entries) :
    Option Entries :=
  descend false (fun _ entries ↦ entries.assign path key value) opened .header entries

end Entries

namespace Value

/-- The key under which a date stands where a table is asked for. -/
def dateKey : String := "$__toml_private_datetime"

/-- The entries of a value that can be taken for a table. A date is one with a single entry. -/
def entries? : Value → Option Entries
  | .table _ entries => some entries
  | .datetime text => some [(dateKey, .string text)]
  | _ => none

/-- The items of an array of either kind. -/
def items? : Value → Option (List Value)
  | .array items => some items
  | .tables items => some items
  | _ => none

/-- The text of a string. -/
def string? : Value → Option String
  | .string text => some text
  | _ => none

/-- A truth value. -/
def boolean? : Value → Option Bool
  | .boolean b => some b
  | _ => none

/-- An integer that is not negative. -/
def natural? : Value → Option Nat
  | .integer (.ofNat n) => some n
  | _ => none

/-- A number, which may be written as an integer. -/
def number? : Value → Option Number.Extended
  | .float x => some x
  | .integer n => some (.ofInt n)
  | _ => none

end Value

end EventRelay.Toml

import EventRelay.Number.Binary64

/-!
# JSON values

An object is the list of its entries, so that a key order is part of a value and can be spoken
about. Two predicates on values say what the rest of the library relies on: `WellFormed` (no
object has a key twice) and `Sorted` (every object lists its keys in increasing order). Reading,
`Fields.insert` and `canonical` produce sorted objects; keys are ordered by code point, which is
also the order of their UTF-8 bytes.
-/

namespace EventRelay

/-- A JSON number: an integer, or a binary floating point number. The two are distinct even
where their values agree. -/
inductive JsonNumber where
  | integer (value : Int)
  | double (value : Number.Binary64)
deriving DecidableEq, Repr

/-- A JSON value. -/
inductive Json where
  | null
  | bool (value : Bool)
  | number (value : JsonNumber)
  | string (value : String)
  | array (items : List Json)
  | object (entries : List (String × Json))

/-- The entries of an object. -/
abbrev Fields := List (String × Json)

namespace Fields

/-- The value of a key. -/
def get? (fields : Fields) (key : String) : Option Json := fields.lookup key

/-- The entries without those of a key. -/
def erase (fields : Fields) (key : String) : Fields := fields.filter (·.1 != key)

/-- Puts an entry before the first entry with a larger key. -/
def place (key : String) (value : Json) : Fields → Fields
  | [] => [(key, value)]
  | entry :: rest =>
    if key < entry.1 then (key, value) :: entry :: rest else entry :: place key value rest

/-- The entries with the value of a key set. -/
def insert (fields : Fields) (key : String) (value : Json) : Fields :=
  place key value (fields.erase key)

/-- The entries with all those of `others` set, in their order. -/
def insertAll (fields others : Fields) : Fields :=
  others.foldl (fun acc entry ↦ acc.insert entry.1 entry.2) fields

/-- Sorted entries in which the last value of a key counts. -/
def ofEntries (entries : List (String × Json)) : Fields := insertAll [] entries

/-- The keys in order. -/
def keys (fields : Fields) : List String := fields.map (·.1)

/-- The entry of an optional value, if there is one. -/
def ofOption {α : Type} (key : String) (write : α → Json) (value : Option α) : Fields :=
  (value.map fun v ↦ (key, write v)).toList

end Fields

namespace Json

/-- An integer value. -/
def ofInt (n : Int) : Json := .number (.integer n)

/-- A natural number value. -/
def ofNat (n : Nat) : Json := .number (.integer n)

/-- An object with the given entries, sorted. -/
def ofFields (entries : List (String × Json)) : Json := .object (Fields.ofEntries entries)

/-- The value of something optional, or null. -/
def orNull {α : Type} (write : α → Json) (value : Option α) : Json := (value.map write).getD .null

/-- The value of a key, for an object that has it. -/
def get? (value : Json) (key : String) : Option Json :=
  match value with
  | .object fields => Fields.get? fields key
  | _ => none

/-- The text of a string. -/
def asString? : Json → Option String
  | .string s => some s
  | _ => none

/-- The items of an array. -/
def asArray? : Json → Option (List Json)
  | .array items => some items
  | _ => none

/-- The entries of an object. -/
def asFields? : Json → Option Fields
  | .object fields => some fields
  | _ => none

/-- The truth value of a boolean. -/
def asBool? : Json → Option Bool
  | .bool b => some b
  | _ => none

/-- The value of an integer; a floating point number is none, whatever its value. -/
def asInt? : Json → Option Int
  | .number (.integer n) => some n
  | _ => none

/-- Whether the value is an object. -/
def isObject : Json → Bool
  | .object _ => true
  | _ => false

/-- The name of the type of a value. -/
def typeName : Json → String
  | .null => "null"
  | .bool _ => "boolean"
  | .number _ => "number"
  | .string _ => "string"
  | .array _ => "array"
  | .object _ => "object"

mutual

/-- Every object in the value has distinct keys. -/
def WellFormed : Json → Prop
  | .array items => WellFormedItems items
  | .object fields => (Fields.keys fields).Nodup ∧ WellFormedFields fields
  | _ => True

/-- Every item is well-formed. -/
def WellFormedItems : List Json → Prop
  | [] => True
  | item :: rest => WellFormed item ∧ WellFormedItems rest

/-- Every entry holds a well-formed value. -/
def WellFormedFields : List (String × Json) → Prop
  | [] => True
  | (_, value) :: rest => WellFormed value ∧ WellFormedFields rest

end

mutual

/-- Every object in the value lists its keys in increasing order. -/
def Sorted : Json → Prop
  | .array items => SortedItems items
  | .object fields => (Fields.keys fields).Pairwise (· < ·) ∧ SortedFields fields
  | _ => True

/-- Every item is sorted. -/
def SortedItems : List Json → Prop
  | [] => True
  | item :: rest => Sorted item ∧ SortedItems rest

/-- Every entry holds a sorted value. -/
def SortedFields : List (String × Json) → Prop
  | [] => True
  | (_, value) :: rest => Sorted value ∧ SortedFields rest

end

mutual

/-- How deep arrays and objects nest in a value; zero for a scalar. -/
def depth : Json → Nat
  | .array items => depthItems items + 1
  | .object fields => depthFields fields + 1
  | _ => 0

/-- The largest depth of an item. -/
def depthItems : List Json → Nat
  | [] => 0
  | item :: rest => max (depth item) (depthItems rest)

/-- The largest depth of the value of an entry. -/
def depthFields : List (String × Json) → Nat
  | [] => 0
  | (_, value) :: rest => max (depth value) (depthFields rest)

end

mutual

/-- The value with the entries of every object sorted by key. -/
def canonical : Json → Json
  | .array items => .array (canonicalItems items)
  | .object fields => .object (Fields.ofEntries (canonicalFields fields))
  | value => value

/-- The items, each canonical. -/
def canonicalItems : List Json → List Json
  | [] => []
  | item :: rest => canonical item :: canonicalItems rest

/-- The entries with canonical values. -/
def canonicalFields : List (String × Json) → List (String × Json)
  | [] => []
  | (key, value) :: rest => (key, canonical value) :: canonicalFields rest

end

end Json
end EventRelay

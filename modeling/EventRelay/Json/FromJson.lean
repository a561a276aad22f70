import EventRelay.Json.Printer
import EventRelay.Text.Quoted

/-!
# Records in JSON

A record is an object with an entry for each of its parts, or an array of its parts in order.
Entries that the record does not know are ignored. A part with a default may be missing but not
null, an optional part may be both, and at the end of an array the parts with a default may be
missing. Numbers have to be integers in range. Where it is said what is wrong with a value, the
value goes by its type, and a scalar is shown as well.
-/

namespace EventRelay

/-- A reader of JSON values. -/
abbrev FromJson (α : Type) := Json → Option α

namespace FromJson

/-- The parts of a record: of an object, or of an array of at least `least` and at most all. -/
def parts (keys : List String) (least : Nat) : FromJson Fields
  | .object fields => some fields
  | .array items =>
    if least ≤ items.length ∧ items.length ≤ keys.length then some (keys.zip items) else none
  | _ => none

/-- A part that must be there. -/
def required {α : Type} (read : FromJson α) (fields : Fields) (key : String) : Option α :=
  (fields.get? key).bind read

/-- A part that may be missing or null. -/
def optional {α : Type} (read : FromJson α) (fields : Fields) (key : String) :
    Option (Option α) :=
  match fields.get? key with
  | none | some .null => some none
  | some value => (read value).map some

/-- A part with a default. -/
def withDefault {α : Type} (read : FromJson α) (fields : Fields) (key : String) (default : α) :
    Option α :=
  match fields.get? key with
  | none => some default
  | some value => read value

/-- An integer of sixty-four bits without sign. -/
def word64 : FromJson UInt64 := fun value ↦ do
  let n ← value.asInt?
  if 0 ≤ n ∧ n < Nat.pow 2 64 then some (UInt64.ofNat n.toNat) else none

/-- An integer of thirty-two bits with sign. -/
def integer32 : FromJson Int32 := fun value ↦ do
  let n ← value.asInt?
  if -Nat.pow 2 31 ≤ n ∧ n < Nat.pow 2 31 then some (Int32.ofInt n) else none

/-- A byte as an integer. -/
def byte : FromJson UInt8 := fun value ↦ do
  let n ← value.asInt?
  if 0 ≤ n ∧ n < 256 then some (UInt8.ofNat n.toNat) else none

/-- A list of values that are read in the same way. -/
def list {α : Type} (read : FromJson α) : FromJson (List α) := fun value ↦ do
  (← value.asArray?).mapM read

/-- What a value goes by where it is wrong. -/
def nameOf : Json → String
  | .null => "null"
  | .bool true => "boolean `true`"
  | .bool false => "boolean `false`"
  | .number (.integer n) => s!"integer `{n}`"
  | .number (.double x) => "floating point `" ++ (Json.number (.double x)).compact ++ "`"
  | .string s => "string " ++ Text.quote s
  | .array _ => "sequence"
  | .object _ => "map"

/-- What is said of a value of another type than the one expected. -/
def wrongType (expected : String) (value : Json) : String :=
  s!"invalid type: {nameOf value}, expected {expected}"

/-- What is said of an array of another length than the one expected. -/
def wrongLength (expected : String) (length : Nat) : String :=
  s!"invalid length {length}, expected {expected}"

end FromJson
end EventRelay

import EventRelay.Toml.Datetime
import EventRelay.Toml.Number
import EventRelay.Toml.Text
import EventRelay.Toml.Value

/-!
# Reading TOML documents

The syntax is that of TOML 1.0: one statement a line, which is a header, or a key with a value,
or nothing but a comment. A byte order mark may precede the document. Arrays and tables in braces
nest at most `maxDepth` deep.
-/

namespace EventRelay.Toml

open Text (Reader)

/-- How deep arrays and tables in braces may nest. -/
def maxDepth : Nat := 79

/-- A number, a date or a time. -/
def numeric : Reader Value := fun s ↦
  ((Datetime.read s).map fun (x, rest) ↦ (.datetime x, rest))
    |>.or ((float s).map fun (x, rest) ↦ (.float x, rest))
    |>.or ((integer s).map fun (x, rest) ↦ (.integer x, rest))

/-- A value without parts. -/
def scalar : Reader Value := fun s ↦
  match s with
  | '"' :: _ | '\'' :: _ => (string s).map fun (x, rest) ↦ (.string x, rest)
  | 't' :: 'r' :: 'u' :: 'e' :: rest => some (.boolean true, rest)
  | 'f' :: 'a' :: 'l' :: 's' :: 'e' :: rest => some (.boolean false, rest)
  | s => numeric s

/-- The items of an array up to its closing bracket, from behind the opening one or a comma.
`fuel` bounds their number. -/
def items (value : Reader Value) : (fuel : Nat) → Reader (List Value)
  | 0, _ => none
  | fuel + 1, s =>
    match skipSpace s with
    | ']' :: rest => some ([], rest)
    | s => do
      let (first, s) ← value s
      match skipSpace s with
      | ']' :: rest => pure ([first], rest)
      | ',' :: rest =>
        let (others, rest) ← items value fuel rest
        pure (first :: others, rest)
      | _ => none

/-- A key with a value. -/
def keyValue (value : Reader Value) : Reader ((List String × String) × Value) := fun s ↦ do
  let (k, s) ← key s
  match skipBlanks s with
  | '=' :: rest =>
    let (v, rest) ← value (skipBlanks rest)
    pure ((k, v), rest)
  | _ => none

/-- Adds the entries of a table in braces up to its closing brace, from behind the opening one
or a comma. `fuel` bounds their number. -/
def bracedEntries (value : Reader Value) : (fuel : Nat) → Entries → Reader Entries
  | 0, _, _ => none
  | fuel + 1, entries, s => do
    let (((path, key), v), s) ← keyValue value s
    let entries ← entries.assign path key v
    match skipBlanks s with
    | '\x7d' :: rest => pure (entries, rest)
    | ',' :: rest => bracedEntries value fuel entries rest
    | _ => none

/-- A table in braces, from behind the opening one. -/
def braced (value : Reader Value) : Reader Entries := fun s ↦
  match skipBlanks s with
  | '\x7d' :: rest => some ([], rest)
  | s => bracedEntries value (s.length + 1) [] s

/-- A value in which arrays and tables in braces nest at most `depth` deep. -/
def value : (depth : Nat) → Reader Value
  | depth + 1, '[' :: rest => do
    let (values, rest) ← items (value depth) (rest.length + 1) rest
    pure (.array values, rest)
  | depth + 1, '\x7b' :: rest => do
    let (entries, rest) ← braced (value depth) rest
    pure (.table .braces entries, rest)
  | _, s => scalar s

/-- A document that has been read in part. -/
structure Draft where
  entries : Entries
  /-- The path of the table that was opened last. -/
  opened : List String

namespace Draft

/-- Opens a table. -/
def openTable? (draft : Draft) (path : List String) (key : String) : Option Draft := do
  pure ⟨← draft.entries.openTable path key, path ++ [key]⟩

/-- Opens an item of an array of tables. -/
def openElement? (draft : Draft) (path : List String) (key : String) : Option Draft := do
  pure ⟨← draft.entries.openElement path key, path ++ [key]⟩

/-- Adds a value to the table that was opened last. -/
def assign? (draft : Draft) (path : List String) (key : String) (v : Value) : Option Draft := do
  pure { draft with entries := ← draft.entries.assignIn draft.opened path key v }

/-- Reads one statement and what comes before the end of its line. -/
def statement (draft : Draft) : Reader Draft
  | '[' :: '[' :: rest => do
    let ((path, last), rest) ← key rest
    let ((), rest) ← Reader.word [']', ']'] (skipBlanks rest)
    pure (← draft.openElement? path last, rest)
  | '[' :: rest => do
    let ((path, last), rest) ← key rest
    let ((), rest) ← Reader.char ']' (skipBlanks rest)
    pure (← draft.openTable? path last, rest)
  | s => do
    let (((path, last), v), rest) ← keyValue (value maxDepth) s
    pure (← draft.assign? path last v, rest)

/-- Reads statements to the end of the text; `fuel` bounds their number. -/
def statements : (fuel : Nat) → Draft → List Char → Option Draft
  | 0, _, _ => none
  | fuel + 1, draft, s =>
    match skipSpace s with
    | [] => some draft
    | s => do
      let (draft, rest) ← draft.statement s
      statements fuel draft (← restOfLine? rest)

end Draft

/-- The entries of a TOML document. -/
def parse? (text : String) : Option Entries := do
  let s := match text.toList with
    | '\ufeff' :: rest => rest
    | s => s
  let draft ← Draft.statements (s.length + 1) ⟨[], []⟩ s
  pure draft.entries

end EventRelay.Toml

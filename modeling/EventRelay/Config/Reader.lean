import EventRelay.Config.Basic
import EventRelay.Text.Utf8
import EventRelay.Toml.Document

/-!
# Reading a configuration

A configuration is a TOML document. Every key may be left out. A key that is not known is refused
at the top and in the settings of a service, and ignored in the settings of a stream and of its
producers. Settings may also be written as an array of their values in order; it may be too long,
and the values with a default may be missing at its end.
-/

namespace EventRelay

namespace Config

open Toml (Value Entries)

/-- The value of a key that may be missing, but must be readable where it stands. -/
def optional {α : Type} (read : Value → Option α) (entries : Entries) (key : String) :
    Option (Option α) :=
  match entries.lookup key with
  | none => some none
  | some value => (read value).map some

/-- The value of a key with a default. -/
def withDefault {α : Type} (read : Value → Option α) (entries : Entries) (key : String)
    (default : α) : Option α :=
  (optional read entries key).map (·.getD default)

/-- A table of values that are all read in the same way. -/
def tableOf {α : Type} (read : Value → Option α) (value : Value) : Option (List (String × α)) := do
  (← value.entries?).mapM fun (key, value) ↦ do pure (key, ← read value)

/-- Event categories: one name or an array of names. -/
def readTypes (value : Value) : Option EventTypes := do
  let names ←
    match value with
    | .string name => some [name]
    | value => do (← value.items?).mapM Value.string?
  (EventTypes.ofNames names).toOption

/-- The keys in the settings of a service, in their order. -/
def serviceKeys : List String := ["url", "timeout_secs", "forward_client_ip", "max_batch_bytes"]

/-- The keys in the settings of a stream, in their order. -/
def streamKeys : List String := ["destination_event_service", "producers"]

/-- The keys in the settings of a producer, in their order. -/
def producerKeys : List String := ["event_service_name", "enabled"]

/-- The entries of settings: of a table, or of an array with at least `least` values in the order
of the keys. -/
def settingsEntries (keys : List String) (least : Nat) (value : Value) : Option Entries :=
  match value.items? with
  | some items => if items.length < least then none else some (keys.zip items)
  | none => value.entries?

/-- Whether all keys are known. -/
def onlyKeys (keys : List String) (entries : Entries) : Bool :=
  entries.all fun (key, _) ↦ keys.contains key

/-- The settings of a service. -/
def readService (value : Value) : Option ServiceSettings := do
  let entries ← settingsEntries serviceKeys 4 value
  guard (onlyKeys serviceKeys entries)
  pure
    { url := ← optional Value.string? entries "url"
      timeout := ← optional Value.number? entries "timeout_secs"
      forwardClientIp := ← withDefault Value.boolean? entries "forward_client_ip" false
      maxBatchBytes := ← optional Value.natural? entries "max_batch_bytes" }

/-- The settings of a producer. -/
def readProducer (value : Value) : Option ProducerSettings := do
  let entries ← settingsEntries producerKeys 2 value
  pure
    { service := ← optional Value.string? entries "event_service_name"
      enabled := ← optional Value.boolean? entries "enabled" }

/-- The settings of a stream. -/
def readStream (value : Value) : Option StreamSettings := do
  let entries ← settingsEntries streamKeys 1 value
  pure
    { destination := ← optional Value.string? entries "destination_event_service"
      producers := ← withDefault (tableOf readProducer) entries "producers" [] }

/-- The keys of a configuration. -/
def keys : List String :=
  ["producer_name", "default_service", "max_batch_bytes", "enabled_event_types", "domain",
    "services", "streams", "stream_names"]

/-- The configuration of a document. -/
def ofEntries? (entries : Entries) : Option Config := do
  guard (onlyKeys keys entries)
  let default : Config := {}
  pure
    { producerName := ← withDefault Value.string? entries "producer_name" default.producerName
      defaultService :=
        ← withDefault Value.string? entries "default_service" default.defaultService
      maxBatchBytes := ← withDefault Value.natural? entries "max_batch_bytes" default.maxBatchBytes
      enabledTypes := ← withDefault readTypes entries "enabled_event_types" default.enabledTypes
      domain := ← withDefault Value.string? entries "domain" default.domain
      services := ← withDefault (tableOf readService) entries "services" []
      streams := ← withDefault (tableOf readStream) entries "streams" []
      streamNames := ← withDefault (tableOf Value.string?) entries "stream_names" [] }

/-- The configuration of a text. -/
def parse? (text : String) : Option Config := do ofEntries? (← Toml.parse? text)

/-- Why a configuration could not be loaded. -/
inductive LoadError where
  /-- There is no file, or it is no text. -/
  | read (detail : String)
  /-- The text is no configuration. -/
  | parse (detail : String)
deriving DecidableEq, Repr

/-- The text of an error about the file at a path. -/
def LoadError.message (path : String) : LoadError → String
  | read detail => s!"configuration error: failed to read config file {path}: {detail}"
  | parse detail => s!"configuration error: failed to parse config file {path}: {detail}"

/-- The configuration in a file with the given bytes, or with the given reason why it cannot be
read; `diagnose` is what the reader of TOML says of a text that is no configuration. -/
def load (diagnose : String → String) (file : Except String Bytes) : Except LoadError Config :=
  match file with
  | .error detail => .error (.read detail)
  | .ok bytes =>
    match Text.ofUtf8? bytes with
    | none => .error (.read "stream did not contain valid UTF-8")
    | some text =>
      match parse? text with
      | none => .error (.parse (diagnose text))
      | some config => .ok config

end Config
end EventRelay

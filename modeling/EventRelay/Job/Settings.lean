import EventRelay.Text.Quoted

/-!
# Settings of the server

A server takes its settings from variables of its environment. Only the secret must be there and
not be empty; the port must be a number of sixteen bits, which may have a plus sign.
-/

namespace EventRelay

/-- The settings of a server. -/
structure ServerSettings where
  configPath : String
  secret : String
  host : String
  port : UInt16
  /-- The URL of the wiki that jobs are made for. -/
  siteServer : Option String
  siteDatabase : String
deriving DecidableEq, Repr

/-- What is wrong with the environment. -/
inductive SettingsError where
  | missingSecret
  | invalidPort (text : String)
deriving DecidableEq, Repr

namespace SettingsError

/-- The text of an error. -/
def message : SettingsError → String
  | missingSecret => "EVENTBUS_SECRET environment variable is required"
  | invalidPort text => "EVENTBUS_PORT must be a port number, got " ++ Text.quote text

end SettingsError

namespace ServerSettings

/-- The port that a text names. -/
def port? (text : String) : Option UInt16 :=
  let digits := match text.toList with
    | '+' :: rest => rest
    | s => s
  if digits.isEmpty || !digits.all Char.isDigit then none
  else
    let n := digits.foldl (fun n c ↦ n * 10 + (c.toNat - 48)) 0
    if n < Nat.pow 2 16 then some (UInt16.ofNat n) else none

/-- The settings in an environment. -/
def ofEnvironment (environment : List (String × String)) : Except SettingsError ServerSettings :=
  let port := (environment.lookup "EVENTBUS_PORT").getD "8080"
  match (environment.lookup "EVENTBUS_SECRET").filter (!·.isEmpty), port? port with
  | none, _ => .error .missingSecret
  | some _, none => .error (.invalidPort port)
  | some secret, some number =>
    .ok
      { configPath := (environment.lookup "EVENTBUS_CONFIG").getD "eventbus.toml"
        secret
        host := (environment.lookup "EVENTBUS_HOST").getD "0.0.0.0"
        port := number
        siteServer := environment.lookup "EVENTBUS_SITE_SERVER"
        siteDatabase := (environment.lookup "EVENTBUS_SITE_DATABASE").getD "wiki" }

/-- The address that the server listens on. -/
def address (settings : ServerSettings) : String := s!"{settings.host}:{settings.port}"

end ServerSettings
end EventRelay

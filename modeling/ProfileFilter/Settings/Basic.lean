import ProfileFilter.Service.Credentials
import ProfileFilter.Validate.Field

/-!
# Settings

How to reach the service, and how to run as one. Every setting has a default.
-/

namespace ProfileFilter

/-- How to reach the service. -/
structure ConnectionSettings where
  /-- the base URL, trimmed and without slashes at its end -/
  baseUrl : Text := "https://api.infobip.com"
  /-- the key as it was entered -/
  apiKey : Text := []
  /-- how many seconds to wait for an answer -/
  timeoutSeconds : Binary64 := .ofInt 30
  /-- how many items a page may hold -/
  pageLimit : Int := 1000
deriving DecidableEq, Repr

/-- How to run as a service. -/
structure ServerSettings where
  /-- the address to bind -/
  host : Text := "127.0.0.1"
  /-- the port to bind -/
  port : Int := 8000
  /-- how much to log -/
  logLevel : Text := "info"
deriving DecidableEq, Repr

/-- All settings. -/
structure Settings where
  /-- how to reach the service -/
  connection : ConnectionSettings := {}
  /-- how to run as one -/
  server : ServerSettings := {}
deriving DecidableEq, Repr

namespace ConnectionSettings

/-- The key as it may be shown: at most its last four code points. -/
def maskedKey (settings : ConnectionSettings) : Text :=
  let key := settings.apiKey.trim
  if key.isEmpty then "(not set)"
  else if key.length > 4 then "***" ++ key.drop (key.length - 4)
  else "***"

/-- The settings with a base URL or key put in place of theirs. -/
def override (settings : ConnectionSettings) (baseUrl apiKey : Option Text) : ConnectionSettings :=
  { settings with
    baseUrl := Credentials.normalBaseUrl (baseUrl.getD settings.baseUrl)
    apiKey := apiKey.getD settings.apiKey }

end ConnectionSettings

namespace Check

/-- A base URL, brought into the form in which it is kept. -/
def baseUrl (v : Value) : Validated Text := Credentials.normalBaseUrl <$> text v

/-- The connection settings. -/
def connectionSettings : Value → Validated ConnectionSettings :=
  record (.modelType "ConnectionConfig") fun entries =>
    ConnectionSettings.mk
      <$> optional ["base_url"] "https://api.infobip.com" baseUrl entries
      <*> optional ["api_key"] [] text entries
      <*> optional ["timeout_seconds"] (Binary64.ofInt 30) number entries
      <*> optional ["page_limit"] 1000 integer entries

/-- The server settings. -/
def serverSettings : Value → Validated ServerSettings :=
  record (.modelType "ServerConfig") fun entries =>
    ServerSettings.mk
      <$> optional ["host"] "127.0.0.1" text entries
      <*> optional ["port"] 8000 integer entries
      <*> optional ["log_level"] "info" text entries

/-- All settings. -/
def settings : Value → Validated Settings :=
  record (.modelType "FilterBuilderConfig") fun entries =>
    Settings.mk
      <$> optional ["connection"] {} connectionSettings entries
      <*> optional ["server"] {} serverSettings entries

end Check

end ProfileFilter

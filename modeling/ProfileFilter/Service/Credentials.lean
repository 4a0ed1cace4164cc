import ProfileFilter.Service.Reply

/-!
# Credentials

The base URL and API key a person enters, how they are cleaned before use, and what can be
wrong with them.
-/

namespace ProfileFilter

namespace Credentials

/-- A key without blanks around it and without code points outside ASCII. -/
def sanitizeKey (key : Text) : Text := key.trim.filter CodePoint.isAscii

/-- A base URL without blanks around it and slashes at its end. -/
def normalBaseUrl (url : Text) : Text := Text.dropTrailing '/' url.trim

/-- What is wrong with a base URL. -/
def baseUrlFaults (url : Text) : Except UrlError (List Fault) :=
  if url.trim.isEmpty then .ok [.missingBaseUrl]
  else
    match (Url.parse url.trim).bind Url.isHttp with
    | .ok isHttp => .ok (if isHttp then [] else [.invalidBaseUrl])
    | .error .malformed => .ok [.invalidBaseUrl]
    | .error why => .error why

/-- What is wrong with a key. -/
def keyFaults (key : Text) : List Fault := if key.trim.isEmpty then [.missingApiKey] else []

/-- What is wrong with the credentials, base URL first. -/
def faults (url key : Text) : Except UrlError (List Fault) := do
  return (← baseUrlFaults url) ++ keyFaults key

/-- The message of a fault that needs no context. -/
def messageOf (fault : Fault) : Text := fault.template.fill []

/-- The report of faulty credentials: the first fault, all messages in the details. -/
def report? : List Fault → Option Report
  | [] => none
  | fault :: rest =>
    some (.ofFault fault []
      [(.text "errors", .list ((fault :: rest).map fun f => .text (messageOf f)))])

/-- Passes credentials without faults. -/
def require (url key : Text) : Except Stop Unit :=
  match faults url key with
  | .error e => .error (.url e)
  | .ok found =>
    match report? found with
    | some report => .error (.report report)
    | none => .ok ()

end Credentials

end ProfileFilter

import ProfileFilter.Api.Message
import ProfileFilter.Settings.Reference

/-!
# Origins

Which origins browsers may call the interface from: those listed in an environment
variable. Without a list the interface says nothing about origins. An asterisk in the list
stands for every origin.
-/

namespace ProfileFilter

namespace Api

/-- The variable that lists the origins. -/
def originsVariable : Text := "ALLOWED_ORIGINS"

/-- The origins listed in the environment, trimmed, blank ones left out. -/
def allowedOrigins (environment : Environment) : List Text :=
  let listed : Text := (environment.lookup originsVariable).getD []
  ((listed.splitOn ',').map Text.trim).filter fun origin => !origin.isEmpty

/-- What stands for every origin. -/
def anyOrigin : Text := "*"

/-- Is an origin allowed? -/
def isAllowed (origins : List Text) (origin : Text) : Bool :=
  origins.contains anyOrigin || origins.contains origin

/-- The origin that an answer to a call allows. -/
def allowOrigin (origins : List Text) (call : Call) : Option Text := do
  let origin ← call.header? "origin"
  if origins.contains anyOrigin && (call.header? "cookie").isNone then some anyOrigin
  else if isAllowed origins origin then some origin
  else none

/-- The methods that other origins may use. -/
def originMethods : List Text := ["GET", "POST", "OPTIONS"]

/-- The headers that other origins may send. -/
def originHeaders : List Text :=
  ["accept", "accept-language", "authorization", "content-language", "content-type"]

/-- What an inquiry asks for that is not allowed. -/
def refusals (origins : List Text) (origin method : Text) (headers : Option Text) : List Text :=
  let asked := (headers.map (Text.splitOn ',')).getD []
  (if isAllowed origins origin then [] else [("origin" : Text)]) ++
    (if originMethods.contains method then [] else [("method" : Text)]) ++
    (if asked.all fun (h : Text) => originHeaders.contains h.lower.trim then []
      else [("headers" : Text)])

/-- The answer to the inquiry of a browser whether a call would be allowed, and the origin it
allows; nothing for any other call. -/
def inquiry? (origins : List Text) (call : Call) : Option (Answer × Option Text) := do
  let origin ← call.header? "origin"
  let method ← call.header? "access-control-request-method"
  if call.method != "OPTIONS" then none
  else
    let allowed := if isAllowed origins origin then some origin else none
    match refusals origins origin method (call.header? "access-control-request-headers") with
    | [] => some (.body 200 (.text "OK"), allowed)
    | refused =>
      some (.body 400 (.text ("Disallowed CORS " ++ Text.join ", " refused)), allowed)

end Api

end ProfileFilter

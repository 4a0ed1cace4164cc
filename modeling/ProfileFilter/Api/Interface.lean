import ProfileFilter.Api.Endpoint
import ProfileFilter.Api.Origin

/-!
# The HTTP interface

Which endpoint answers which call, and the one entry point: a call is answered, or fails
in a way the interface does not handle.
-/

namespace ProfileFilter

namespace Api

/-- The version of the package. -/
def packageVersion : Text := "0.1.0"

/-- The name of the compiler and its version. -/
def compilerVersion : Text := "people_filter_compiler_v1"

/-- The answer that all is well. -/
def health : Answer :=
  .body 200 (.record [("status", .text "ok"), ("version", .text packageVersion),
    ("compiler_version", .text compilerVersion)])

/-- What the interface runs on. -/
structure Host where
  /-- the settings -/
  settings : Settings
  /-- the environment -/
  environment : Environment
  /-- the service -/
  service : Service
  /-- how many seconds a request to the service takes -/
  seconds : Binary64 := .zero

/-- An endpoint: the method it answers, and its answers. -/
structure Endpoint where
  /-- the method -/
  method : Text
  /-- the answer to a call -/
  serve : Host → Call → Except Failure Served

/-- An endpoint that needs neither body nor service. -/
def reading (answer : Call → Answer) : Endpoint :=
  ⟨"GET", fun _ call => .ok { answer := answer call }⟩

/-- The endpoints by path. -/
def endpoints : List (Text × Endpoint) :=
  [("/api/v1/operators", reading operators),
    ("/api/v1/operators/list-items", reading fun _ => listItemOperators),
    ("/api/v1/filters/compile", ⟨"POST", fun _ call => compileFilters call⟩),
    ("/api/v1/attributes/load",
      ⟨"POST", fun host call => loadAttributes host.settings.connection host.service call⟩),
    ("/api/v1/query/test", ⟨"POST", fun host call => testQuery host.service host.seconds call⟩),
    ("/health", reading fun _ => health)]

/-- The path with a slash at its end if it has none, and without if it has one. -/
def otherPath (path : Text) : Text :=
  if Text.endsWith "/" path then Text.dropTrailing '/' path else path ++ "/"

/-- The endpoint at a path. A caller with a slash too many or too few at the end of the path is
sent on and arrives at the endpoint all the same. -/
def endpointAt? (path : Text) : Option Endpoint :=
  (endpoints.lookup path).orElse fun _ => endpoints.lookup (otherPath path)

/-- Answers a call at the endpoint of its path. -/
def dispatch (host : Host) (call : Call) : Except Failure Served :=
  match endpointAt? call.path with
  | some endpoint =>
    if endpoint.method == call.method then endpoint.serve host call
    else .ok { answer := detail 405 "Method Not Allowed" }
  | none => .ok { answer := detail 404 "Not Found" }

/-- The levels of logging. -/
def logLevels : List Text :=
  ["CRITICAL", "FATAL", "ERROR", "WARN", "WARNING", "INFO", "DEBUG", "NOTSET"]

/-- A complete answer. -/
structure Reply where
  /-- the answer -/
  answer : Answer
  /-- the requests made to the service -/
  requests : List Request := []
  /-- the origin that is allowed -/
  allowOrigin : Option Text := none

/-- Starts the interface and answers one call. -/
def handle (host : Host) (call : Call) : Except Failure Reply :=
  if !logLevels.contains host.settings.server.logLevel.upper then .error .logLevel
  else
    let origins := allowedOrigins host.environment
    match if origins.isEmpty then none else inquiry? origins call with
    | some (answer, allowed) => .ok { answer, allowOrigin := allowed }
    | none => do
      let served ← dispatch host call
      let answer ← served.answer.written
      return { answer, requests := served.requests, allowOrigin := allowOrigin origins call }

end Api

end ProfileFilter

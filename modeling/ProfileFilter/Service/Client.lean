import ProfileFilter.Service.Credentials
import ProfileFilter.Service.Preview
import ProfileFilter.Fault.ErrorBody

/-!
# The client

A client is made from credentials and must be opened before it makes requests. Running a
filter never stops for a request that was refused or got no answer: both are told in the
result.
-/

namespace ProfileFilter

/-- A client with cleaned credentials. -/
structure Client where
  /-- the base URL -/
  baseUrl : Text
  /-- the key -/
  key : Text
deriving DecidableEq, Repr

/-- An open client. -/
structure Connection where
  /-- the base of all requests -/
  base : Url
  /-- the key -/
  key : Text
deriving DecidableEq, Repr

namespace Client

/-- The client for credentials as they were entered. -/
def ofCredentials (baseUrl key : Text) : Client :=
  ⟨Credentials.normalBaseUrl baseUrl, Credentials.sanitizeKey key⟩

/-- Opens a client. -/
def connect (client : Client) : Except UrlError Connection := do
  return ⟨← (← Url.parse client.baseUrl).asBase, client.key⟩

end Client

namespace Connection

/-- The request for a path. -/
def requestTo (connection : Connection) (path : Text) : Except UrlError Request := do
  return ⟨← connection.base.resolve (← Url.parse path), "App " ++ connection.key⟩

/-- The request for a path with query parameters in place of its query. -/
def requestWith (connection : Connection) (path : Text) (parameters : List (Text × Text)) :
    Except UrlError Request := do
  let request ← connection.requestTo path
  if parameters.all fun p => p.1.isEncodable && p.2.isEncodable then
    let query := if parameters.isEmpty then none else some (Url.formQuery parameters)
    return { request with url := { request.url with query } }
  else throw .unencodable

end Connection

/-- Who refused a filter that was run. -/
inductive ErrorKind where
  /-- the service -/
  | http
  /-- the network -/
  | network
deriving DecidableEq, Repr

/-- The name of an error kind. -/
def ErrorKind.name : ErrorKind → String
  | .http => "http"
  | .network => "network"

/-- What came of running a filter. -/
structure QueryResult where
  /-- did the service accept it? -/
  success : Bool
  /-- the status, zero if there was no answer -/
  status : Int
  /-- the phrase of the status -/
  statusText : Text
  /-- what the body says -/
  body : Value
  /-- how long it took, in milliseconds -/
  elapsedMs : Int
  /-- what went wrong -/
  error : Option Text := none
  /-- who refused -/
  errorKind : Option ErrorKind := none
  /-- the code of the fault -/
  errorCode : Option Text := none
  /-- what to do about it -/
  remediation : Option Text := none
deriving BEq, Repr

/-- The whole milliseconds between two readings of a clock that counts seconds. -/
def elapsedMs (started finished : Binary64) : Int :=
  (((finished.sub started).mul (Binary64.ofInt 1000)).round?).getD 0

namespace QueryResult

/-- The result of a request that got no answer. -/
def ofFailure (failure : Failure) (elapsed : Int) : QueryResult :=
  let report := Report.ofFault .network [(.text "reason", .text failure.reason)]
  { success := false, status := 0, statusText := "Network Error", body := .null
    elapsedMs := elapsed, error := some report.message, errorKind := some .network
    errorCode := some report.code, remediation := some report.remediation }

/-- The result of a request that was answered. -/
def ofAnswer (status : Nat) (bytes : List UInt8) (elapsed : Int) : QueryResult :=
  let body := bodyValue bytes
  let told : QueryResult :=
    { success := Status.isSuccess status, status, statusText := Status.phrase status, body
      elapsedMs := elapsed }
  if Status.isSuccess status then told
  else
    let report := ErrorBody.report status body
    { told with
      error := some (ErrorBody.message body), errorKind := some .http
      errorCode := some report.code, remediation := some report.remediation }

/-- The result of a reply; a failure of another kind than a missing answer is none. -/
def ofReply (elapsed : Int) : Reply → Except Stop QueryResult
  | .answer status body => .ok (ofAnswer status body elapsed)
  | .failure f => if f.kind = .transport then .ok (ofFailure f elapsed) else .error (.failure f)

end QueryResult

/-- Runs an encoded filter. -/
def Connection.execute (connection : Connection) (service : Service)
    (started finished : Binary64) (encoded : Text) : Run QueryResult :=
  match connection.requestTo (Preview.requestPath encoded) with
  | .error e => .stopped (.url e)
  | .ok request =>
    ⟨[request], QueryResult.ofReply (elapsedMs started finished) (service request 0)⟩

/-- Requests a path, for its status. -/
def Connection.get (connection : Connection) (service : Service) (path : Text)
    (parameters : Option (List (Text × Text))) : Run Nat :=
  let request := match parameters with
    | some parameters => connection.requestWith path parameters
    | none => connection.requestTo path
  match request with
  | .error e => .stopped (.url e)
  | .ok request =>
    ⟨[request],
      match service request 0 with
      | .answer status _ => .ok status
      | .failure f => .error (.failure f)⟩

end ProfileFilter

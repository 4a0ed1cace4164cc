import ProfileFilter.Json.Bytes
import ProfileFilter.Json.Print
import ProfileFilter.Service.Reply
import ProfileFilter.Text.Percent

/-!
# Messages of the HTTP interface

A request as it comes in, an answer as it goes out, and how bodies are read: as JSON, if
the content type says so, and as bytes that no endpoint accepts otherwise.
-/

namespace ProfileFilter

namespace Api

/-- A request. -/
structure Call where
  /-- the method -/
  method : Text
  /-- the path -/
  path : Text
  /-- the query parameters in order -/
  query : List (Text × Text) := []
  /-- the headers -/
  headers : List (Text × Text) := []
  /-- the body -/
  body : List UInt8 := []
deriving DecidableEq, Repr

/-- A text in a query: plus signs for spaces, escapes undone. -/
def queryText (t : Text) : Text := Percent.decode (t.replace '+' " ")

/-- The parameters in a query: names and values between ampersands. -/
def queryParameters (query : Text) : List (Text × Text) :=
  ((query.splitOn '&').filter fun (piece : Text) => !piece.isEmpty).map fun piece =>
    let (name, value) := Text.cut '=' piece
    (queryText name, queryText (value.getD []))

/-- The call of a target as it is written, with the query in it unless parameters are given. -/
def Call.ofTarget (method target : Text) (parameters : Option (List (Text × Text))) : Call :=
  let (path, query) := Text.cut '?' target
  { method, path := Percent.decode path
    query := parameters.getD (queryParameters (query.getD [])) }

/-- The value of a header; case does not matter. -/
def Call.header? (call : Call) (name : Text) : Option Text :=
  (call.headers.find? fun h => h.1.lower == Text.lower name).map Prod.snd

/-- What an endpoint answers. -/
inductive Answer where
  /-- a status and a JSON body -/
  | body (status : Nat) (v : Value)
  /-- issues of the request -/
  | issues (found : List Issue)
deriving Repr

/-- A failure that no answer covers. -/
inductive Failure where
  /-- a use of the service stopped -/
  | stop (why : Stop)
  /-- the answer would hold a number that JSON has no token for -/
  | number
  /-- the answer would hold a lone surrogate -/
  | unencodable
  /-- the level of logging is unknown -/
  | logLevel
deriving Repr

/-- Does a content type announce JSON? -/
def isJsonType (contentType : Text) : Bool :=
  match Text.splitOn '/' (Text.trim (Text.cut ';' contentType).1).lower with
  | [main, sub] => main == "application" && (sub == "json" || Text.endsWith "+json" sub)
  | _ => false

/-- What a body holds. -/
inductive Content where
  /-- nothing -/
  | nothing
  /-- a JSON value -/
  | json (v : Value)
  /-- bytes of another type -/
  | bytes
  /-- JSON text with a mistake at an offset -/
  | mistake (offset : Nat)
  /-- a body that cannot be read at all -/
  | unreadable
deriving Repr

/-- Reads the content of a JSON body. -/
def readJson (body : List UInt8) : Content :=
  match Json.decode? body with
  | none => .unreadable
  | some t =>
    match Json.parse t with
    | .ok v => .json v
    | .error failure =>
      match failure.offset? t with
      | some offset => .mistake offset
      | none => .unreadable

/-- The content of a request. -/
def Call.content (call : Call) : Content :=
  if call.body.isEmpty then .nothing
  else
    match call.header? "content-type" with
    | none => readJson call.body
    | some contentType =>
      if contentType.isEmpty || isJsonType contentType then readJson call.body else .bytes

/-- A detail on its own. -/
def detail (status : Nat) (message : Text) : Answer :=
  .body status (.record [("detail", .text message)])

/-- An answer and the requests that were made to the service for it. -/
structure Served where
  /-- the answer -/
  answer : Answer
  /-- the requests -/
  requests : List Request := []
deriving Repr

/-- The value in a body, checked, or the answer that refuses it; the issues lie under `body`. -/
def checkBody {α : Type} (call : Call) (check : Value → Validated α) : Except Answer α :=
  let checked (v : Validated α) : Except Answer α :=
    match v.under "body" with
    | .valid a => .ok a
    | .invalid found => .error (.issues found)
  match call.content with
  | .nothing | .json .null => checked (.refuse .missing .null)
  | .json v => checked (check v)
  | .bytes => checked (.refuse .objectType .null)
  | .mistake offset =>
    checked ((Validated.refuse .jsonInvalid (.mapping [])).within (.index offset))
  | .unreadable => .error (detail 400 "There was an error parsing the body")

/-- Goes on with a checked body. -/
def withBody {α : Type} (call : Call) (check : Value → Validated α)
    (go : α → Except Failure Served) : Except Failure Served :=
  match checkBody call check with
  | .ok a => go a
  | .error answer => .ok { answer }

mutual

/-- A value with null in place of the numbers that JSON has no token for. -/
def withoutOddNumbers : Value → Value
  | .float x => if x.isFinite then .float x else .null
  | .list items => .list (itemsWithoutOddNumbers items)
  | .tuple items => .tuple (itemsWithoutOddNumbers items)
  | .mapping entries => .mapping (entriesWithoutOddNumbers entries)
  | v => v

/-- Several values likewise. -/
def itemsWithoutOddNumbers : List Value → List Value
  | [] => []
  | v :: rest => withoutOddNumbers v :: itemsWithoutOddNumbers rest

/-- The values of several entries likewise. -/
def entriesWithoutOddNumbers : List (Value × Value) → List (Value × Value)
  | [] => []
  | (k, v) :: rest => (k, withoutOddNumbers v) :: entriesWithoutOddNumbers rest

end

/-- Can a value be written as the body of an answer? -/
def requireWritable (v : Value) : Except Failure Unit :=
  match Json.compact v with
  | .ok t => if t.isEncodable then .ok () else .error .unencodable
  | .error _ => .error .number

/-- An answer that can be written; the refused values are part of what is told about issues. -/
def Answer.written (answer : Answer) : Except Failure Answer :=
  match answer with
  | .body status v => do
    requireWritable v
    return .body status v
  | .issues found => do
    requireWritable (.list (found.map Issue.input))
    return .issues found

end Api

end ProfileFilter

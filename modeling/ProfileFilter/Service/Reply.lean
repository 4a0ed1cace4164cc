import ProfileFilter.Fault.Report
import ProfileFilter.Json.Bytes
import ProfileFilter.Service.Status
import ProfileFilter.Service.Url
import ProfileFilter.Validate.Issue

/-!
# Replies of the service

What comes back for a request: a status with a body, or a failure. The service itself is
outside the library; a `Service` says what it replies.
-/

namespace ProfileFilter

/-- A request to the service. -/
structure Request where
  /-- the URL in normal form -/
  url : Url
  /-- the credentials -/
  authorization : Text
deriving DecidableEq, Repr

namespace Request

/-- All requests read. -/
def method : String := "GET"

/-- The type announced for bodies. -/
def contentType : String := "application/json"

end Request

/-- How far a request that failed had got. -/
inductive FailureKind where
  /-- no answer was received -/
  | transport
  /-- an answer came but could not be taken -/
  | exchange
  /-- the request broke off for a reason that has nothing to do with the exchange -/
  | internal
deriving DecidableEq, Repr

/-- A request that failed. -/
structure Failure where
  /-- how far it had got -/
  kind : FailureKind
  /-- the name of the failure -/
  name : Text
  /-- the message, possibly empty -/
  message : Text
deriving DecidableEq, Repr

namespace Failure

/-- What to say about a failure: its message, or its name if there is none. -/
def reason (failure : Failure) : Text :=
  if failure.message.isEmpty then failure.name else failure.message

end Failure

/-- A reply. An answer has no reason phrase and no charset of its own: the standard phrase of
its status is told (`Status.phrase`), and a body is JSON, or else a text in UTF-8
(`bodyValue`). -/
inductive Reply where
  /-- a status and the bytes of a body -/
  | answer (status : Nat) (body : List UInt8)
  /-- a failure -/
  | failure (f : Failure)
deriving DecidableEq, Repr

/-- A service: its reply to a request, given how many requests of the same series came before. -/
abbrev Service := Request → (earlier : Nat) → Reply

/-- What a body says: the JSON value it spells, else its text, null when it is empty. -/
def bodyValue (body : List UInt8) : Value :=
  match Json.parseBytes? body with
  | some v => v
  | none =>
    match Utf8.decodeReplacing body with
    | [] => .null
    | t => .text t

/-- An attribute source that could not be read. -/
structure FetchError where
  /-- the name of the source -/
  source : Text
  /-- what happened -/
  message : Text
  /-- the status that says so -/
  status : Nat
deriving DecidableEq, Repr

/-- What stops a use of the service. -/
inductive Stop where
  /-- the client is not open -/
  | notOpen
  /-- a URL cannot be read -/
  | url (e : UrlError)
  /-- a request failed -/
  | failure (f : Failure)
  /-- an attribute source refused -/
  | fetch (e : FetchError)
  /-- a page holds something other than items -/
  | notItems
  /-- an item is no attribute -/
  | invalid (issues : List Issue)
  /-- a filter holds a mapping key that JSON has no form for -/
  | unprintable
  /-- a fault to report -/
  | report (r : Report)
deriving Repr

namespace Stop

/-- What is said when a client is used that is not open. -/
def notOpenMessage : Text := "PeopleApiClient must be used as an async context manager"

/-- The message of a stop that leaves the other attribute sources usable. -/
def warning? : Stop → Option Text
  | .fetch e => some e.message
  | .failure f => if f.kind = .internal then none else some f.message
  | _ => none

end Stop

/-- The requests that were made, in order, and how it ended. -/
structure Run (α : Type) where
  /-- the requests -/
  requests : List Request
  /-- the result -/
  outcome : Except Stop α

namespace Run

/-- A run that makes no request. -/
def stopped {α : Type} (why : Stop) : Run α := ⟨[], .error why⟩

/-- A run that makes no request and ends well. -/
def ended {α : Type} (a : α) : Run α := ⟨[], .ok a⟩

/-- The same run with another view of its result. -/
def map {α β : Type} (f : α → β) (run : Run α) : Run β := ⟨run.requests, run.outcome.map f⟩

end Run

end ProfileFilter

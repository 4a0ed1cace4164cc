import ProfileFilter.Fault.Report

/-!
# Error bodies

What the service answers when it refuses a request: an exception record with an
identifier and a text, nested two levels deep, or a flat message. This module finds the
message to show and the fault a status stands for.
-/

namespace ProfileFilter

namespace ErrorBody

/-- What to say when a body says nothing. -/
def fallback : Text := "Request failed. Please check your filter syntax and API credentials."

/-- The identifier and the text of the exception record, null where missing. -/
def exceptionParts (body : Value) : Value × Value :=
  match body with
  | .mapping entries =>
    match Value.get "requestError" entries with
    | .mapping inner =>
      match Value.get "serviceException" inner with
      | .mapping exception => (Value.get "messageId" exception, Value.get "text" exception)
      | _ => (.null, .null)
    | _ => (.null, .null)
  | _ => (.null, .null)

/-- The message of the first flat field that has one. -/
def flatMessage (body : Value) : Text :=
  match body with
  | .mapping entries =>
    let message := Value.get "message" entries
    let error := Value.get "error" entries
    if message.isTruthy then message.shown
    else if error.isTruthy then error.shown
    else fallback
  | _ => fallback

/-- The message to show: the exception record first, then the flat fields. -/
def message (body : Value) : Text :=
  let (id, text) := exceptionParts body
  if text.isTruthy || id.isTruthy then text.shown ++ " (Error code: " ++ id.shown ++ ")"
  else flatMessage body

/-- The fault a status stands for: 401 and 403 refuse the credentials. -/
def faultOfStatus (status : Int) : Fault :=
  if status == 401 || status == 403 then .keyRejected else .requestFailed

/-- The report of a refused request. -/
def report (status : Int) (body : Value) : Report :=
  .ofFault (faultOfStatus status) [("api_message", .text (message body))]

end ErrorBody

end ProfileFilter

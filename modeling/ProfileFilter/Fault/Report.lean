import ProfileFilter.Fault.Catalog

/-!
# Reports

A report is a fault as it is told: the message with its slots filled, what to do, and
details in which further messages may be nested under the key `errors`. It has a form for
the terminal and a form for an HTTP answer.
-/

namespace ProfileFilter

/-- A fault as it is told. -/
structure Report where
  /-- the code -/
  code : Text
  /-- the message -/
  message : Text
  /-- what to do about it -/
  remediation : Text
  /-- what else is known -/
  details : Entries := []
deriving BEq, Repr

namespace Report

/-- The report of a fault. -/
def ofFault (fault : Fault) (context : Entries) (details : Entries := []) : Report where
  code := fault.code
  message := fault.template.fill context
  remediation := fault.remediation
  details := details

/-- The report for a code; one that is not in the catalog is reported as unknown. -/
def ofCode (code : Text) (context : Entries) (details : Entries) : Report :=
  match Fault.ofCode? code with
  | some fault => ofFault fault context details
  | none =>
    { code, message := "Unknown error: " ++ code
      remediation := "Check the command and try again.", details }

/-- Code and message in one line. -/
def headline (report : Report) : Text := report.code ++ ": " ++ report.message

/-- The report as an HTTP answer; no details, null. -/
def payload (report : Report) : Value :=
  .record [("error_code", .text report.code), ("message", .text report.message),
    ("remediation", .text report.remediation),
    ("details", if report.details.isEmpty then .null else .mapping report.details)]

/-- The messages in a nested value: the elements of a list, the keys of a mapping, the
characters of a text. Other values hold no messages. -/
def messages? : Value → Option (List Value)
  | .list items | .tuple items => some items
  | .mapping entries => some (entries.map Prod.fst)
  | .text t => some (t.map fun c => .text [c])
  | _ => none

/-- The messages nested in the details, without those that repeat the message itself.
Nothing when the details are not of a form that holds messages. -/
def nested? (report : Report) : Option (List Value) :=
  let errors := (Value.lookup? "errors" report.details).getD (.list [])
  (messages? errors).map fun found => found.filter (· != .text report.message)

/-- The report for the terminal: headline, nested messages, and what to do. -/
def formatted? (report : Report) (withRemediation : Bool) : Option Text :=
  report.nested?.map fun nested =>
    let action := if withRemediation then [("  Action: " : Text) ++ report.remediation] else []
    Text.join "\n" ([report.headline] ++ nested.map (fun v => "  - " ++ v.shown) ++ action)

end Report

end ProfileFilter

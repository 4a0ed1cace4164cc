import ProfileFilter.Value.Shown

/-!
# The fault catalog

Everything that can go wrong for the person using the library has an entry here: a code
whose first digit tells the group, a title, a message with slots for what is known at the
time, and what to do about it.
-/

namespace ProfileFilter

/-- The groups of faults. -/
inductive FaultCategory where
  /-- settings and input files -/
  | config
  /-- reaching the service -/
  | network
  /-- answers of the service -/
  | peopleApi
  /-- discovering attributes -/
  | attributes
deriving DecidableEq, Repr

namespace FaultCategory

/-- All groups in order. -/
def all : List FaultCategory := [.config, .network, .peopleApi, .attributes]

/-- The name of a group. -/
def name : FaultCategory → String
  | .config => "config"
  | .network => "network"
  | .peopleApi => "people_api"
  | .attributes => "attributes"

/-- The group with exactly the given name. -/
def ofName? (name : Text) : Option FaultCategory :=
  all.find? fun category => Text.ofString category.name == name

end FaultCategory

/-- One piece of a message. -/
inductive MessagePart where
  /-- fixed words -/
  | words (s : String)
  /-- a place to fill -/
  | slot (name : String)
deriving DecidableEq, Repr

/-- A message with places to fill. -/
abbrev Template := List MessagePart

namespace Template

/-- The template as it is written, slots between braces. -/
def shown (template : Template) : Text :=
  template.flatMap fun part =>
    match part with
    | .words s => Text.ofString s
    | .slot name => "\x7b" ++ Text.ofString name ++ "\x7d"

/-- The message with every slot filled, if the context has a value for each. -/
def fill? (context : Entries) : Template → Option Text
  | [] => some []
  | .words s :: rest => (fill? context rest).map (Text.ofString s ++ ·)
  | .slot name :: rest => do
    let value ← Value.lookup? (Text.ofString name) context
    return value.shown ++ (← fill? context rest)

/-- The message filled from the context; as it is written when the context lacks a slot. -/
def fill (template : Template) (context : Entries) : Text :=
  (template.fill? context).getD template.shown

end Template

/-- The faults of the catalog. -/
inductive Fault where
  /-- no base URL -/
  | missingBaseUrl
  /-- a base URL that is none -/
  | invalidBaseUrl
  /-- no API key -/
  | missingApiKey
  /-- an input file that cannot be used -/
  | unreadableFile
  /-- no answer was received -/
  | network
  /-- the service refused a request -/
  | requestFailed
  /-- the service refused the credentials -/
  | keyRejected
  /-- some attributes could not be loaded -/
  | partialLoad
  /-- no attributes could be loaded -/
  | loadFailed
deriving DecidableEq, Repr

namespace Fault

/-- All faults in the order of their codes. -/
def all : List Fault :=
  [.missingBaseUrl, .invalidBaseUrl, .missingApiKey, .unreadableFile, .network, .requestFailed,
    .keyRejected, .partialLoad, .loadFailed]

/-- The code of a fault. -/
def code : Fault → String
  | .missingBaseUrl => "E-1001"
  | .invalidBaseUrl => "E-1002"
  | .missingApiKey => "E-1003"
  | .unreadableFile => "E-1004"
  | .network => "E-2001"
  | .requestFailed => "E-3001"
  | .keyRejected => "E-3002"
  | .partialLoad => "E-4001"
  | .loadFailed => "E-4002"

/-- The group of a fault. -/
def category : Fault → FaultCategory
  | .missingBaseUrl | .invalidBaseUrl | .missingApiKey | .unreadableFile => .config
  | .network => .network
  | .requestFailed | .keyRejected => .peopleApi
  | .partialLoad | .loadFailed => .attributes

/-- The title of a fault. -/
def title : Fault → String
  | .missingBaseUrl => "Missing Base URL"
  | .invalidBaseUrl => "Invalid Base URL"
  | .missingApiKey => "Missing API Key"
  | .unreadableFile => "Unreadable Filter File"
  | .network => "Network Error"
  | .requestFailed => "People API Request Failed"
  | .keyRejected => "Authentication Rejected"
  | .partialLoad => "Partial Attribute Load"
  | .loadFailed => "Attribute Load Failed"

/-- The message of a fault. -/
def template : Fault → Template
  | .missingBaseUrl => [.words "Base URL is required"]
  | .invalidBaseUrl => [.words "Base URL must be a valid URL"]
  | .missingApiKey => [.words "API Key is required"]
  | .unreadableFile =>
    [.words "Could not read filter file ", .slot "path", .words ": ", .slot "reason"]
  | .network =>
    [.words "Network error: ", .slot "reason",
      .words ". This might be a CORS issue or the host may be unreachable."]
  | .requestFailed => [.slot "api_message"]
  | .keyRejected => [.words "The People API rejected the API key: ", .slot "api_message"]
  | .partialLoad => [.words "Partial success: ", .slot "reason"]
  | .loadFailed => [.words "Failed to fetch attributes: ", .slot "reason"]

/-- What to do about a fault. -/
def remediation : Fault → String
  | .missingBaseUrl => "Enter the People API base URL, e.g. https://api.infobip.com."
  | .invalidBaseUrl => "Use an absolute http(s) URL including the host name."
  | .missingApiKey => "Enter an API key with access to the People API."
  | .unreadableFile => "Provide a YAML or JSON file with 'conditions' and 'logic' keys."
  | .network => "Check the base URL and your network connection, then retry."
  | .requestFailed => "Check your filter syntax and API credentials."
  | .keyRejected => "Verify the API key and that it is allowed to read person profiles."
  | .partialLoad => "Filters can be built with the attributes that did load."
  | .loadFailed => "Please check your API key and base URL."

/-- Does the fault leave nothing to work with? -/
def isBlocking : Fault → Bool
  | .partialLoad => false
  | _ => true

/-- The fault with exactly the given code. -/
def ofCode? (code : Text) : Option Fault :=
  all.find? fun fault => Text.ofString fault.code == code

/-- The faults of a group, in the order of their codes. -/
def inCategory (category : FaultCategory) : List Fault :=
  all.filter fun fault => fault.category = category

end Fault

end ProfileFilter

import ProfileFilter.Service.Client
import ProfileFilter.Validate.Model

/-!
# The attribute directory

The attributes of an account come from three sources: the standard fields, after a probe
that the credentials are good; the attributes the account defined; and its lists. The last
two are listed page by page until a page is not full. A source that fails becomes a
warning as long as another one yields attributes.
-/

namespace ProfileFilter

namespace Directory

/-- The fields that every account has. -/
def standardFields : List (Text × AttributeType) :=
  [("id", .string), ("externalId", .string), ("firstName", .string), ("lastName", .string),
    ("middleName", .string), ("gender", .string), ("birthDate", .date), ("address", .string),
    ("city", .string), ("country", .string), ("preferredLanguage", .string),
    ("profilePicture", .string), ("tags", .array), ("type", .string), ("origin", .string),
    ("createdAt", .date), ("modifiedAt", .date), ("modifiedFrom", .string),
    ("contactInformation.email.address", .string), ("contactInformation.phone.number", .string)]

/-- The attributes of the standard fields. -/
def standardAttributes : List Attribute :=
  standardFields.map fun field => { name := field.1, type := field.2 }

/-! ## Pages -/

/-- A source that is listed page by page. -/
inductive Listing where
  /-- the attributes the account defined -/
  | custom
  /-- the lists of the account -/
  | lists
deriving DecidableEq, Repr

namespace Listing

/-- The name of a source in warnings. -/
def name : Listing → Text
  | .custom => "Custom"
  | .lists => "List"

/-- The path of a source. -/
def path : Listing → Text
  | .custom => "/people/2/customAttributes"
  | .lists => "/people/3/lists"

/-- The key of the items in a page. -/
def key : Listing → Text
  | .custom => "customAttributes"
  | .lists => "lists"

/-- The statuses that mean there is nothing to list. -/
def absentStatuses : Listing → List Nat
  | .custom => [404]
  | .lists => [400, 404]

end Listing

/-- What a reply to a page request holds. -/
inductive Page where
  /-- items -/
  | items (found : List Entries)
  /-- there is nothing to list -/
  | absent
  /-- something that stops the listing -/
  | stop (why : Stop)

/-- The mappings among some values. -/
def mappings (values : List Value) : List Entries :=
  values.filterMap fun v =>
    match v with
    | .mapping entries => some entries
    | _ => none

/-- The items of a page body: a list, or what a mapping holds under the key of the source or
under `results`. Only mappings count as items. Nothing when what is found there cannot hold
items. -/
def itemsOf? (key : Text) (body : Value) : Option (List Entries) :=
  match body with
  | .list values => some (mappings values)
  | .mapping entries =>
    let own := Value.get key entries
    let found := if own.isTruthy then own else Value.get "results" entries
    if found.isTruthy then
      match found with
      | .list values => some (mappings values)
      | .text _ | .mapping _ => some []
      | _ => none
    else some []
  | _ => some []

/-- Reads the reply to a page request. -/
def Page.ofReply (listing : Listing) : Reply → Page
  | .failure f => .stop (.failure f)
  | .answer status body =>
    if listing.absentStatuses.contains status then .absent
    else if Status.isSuccess status then
      match (Json.parseBytes? body).map (itemsOf? listing.key) with
      | none => .items []
      | some (some found) => .items found
      | some none => .stop .notItems
    else
      .stop (.fetch {
        source := listing.name
        message := "Failed to fetch " ++ listing.name.lower ++ " attributes: " ++ Status.line status
        status })

/-- The number of pages after which a listing ends in any case. -/
def maxPages : Nat := 100

/-- Collects items page by page, from the given page on, until a page is not full; tells also
how many pages were requested. -/
def collect (limit : Int) (page : Nat → Page) :
    (remaining number : Nat) → Nat × Except Stop (List Entries)
  | 0, _ => (0, .ok [])
  | remaining + 1, number =>
    match page number with
    | .absent => (1, .ok [])
    | .stop why => (1, .error why)
    | .items found =>
      if (found.length : Int) < limit then (1, .ok found)
      else
        let (count, more) := collect limit page remaining (number + 1)
        (count + 1, more.map (found ++ ·))

/-- The query parameters of a page request. -/
def pageParameters (limit : Int) (number : Nat) : List (Text × Text) :=
  [("limit", Text.ofInt limit), ("page", Text.ofNat number)]

/-- Lists a source. -/
def list (connection : Connection) (service : Service) (limit : Int) (listing : Listing) :
    Run (List Entries) :=
  let request (number : Nat) := connection.requestWith listing.path (pageParameters limit number)
  let page (number : Nat) : Page :=
    match request number with
    | .ok request => .ofReply listing (service request (number - 1))
    | .error e => .stop (.url e)
  let (count, outcome) := collect limit page maxPages 1
  ⟨((List.range count).filterMap fun n => (request (n + 1)).toOption), outcome⟩

/-! ## Attributes from items -/

/-- Does an item have a name? -/
def isNamed (item : Entries) : Bool := (Value.get "name" item).isTruthy

/-- The type a value means. It was read from JSON and can be shown. -/
def typeLabel (v : Value) : AttributeType := AttributeType.ofValue v

/-- The name to show, which must be a text. -/
def displayName (item : Entries) : Validated Text :=
  (Check.text (Value.get "name" item)).under "display_name"

/-- The attribute that an item of the account's attributes describes. -/
def customAttribute (item : Entries) : Validated Attribute :=
  (fun shown : Text =>
    { name := "customAttributes." ++ shown
      type := typeLabel (Value.get "dataType" item)
      isCustom := true
      displayName := some shown
      enumValues :=
        match Value.get "enumValues" item with
        | .list values => some (values.map Value.shown)
        | _ => none }) <$> displayName item

/-- The type of a field of a list, from its description. -/
def fieldType : Value → AttributeType
  | .mapping description => typeLabel (Value.get "type" description)
  | v => typeLabel v

/-- The schema of a list, from its description. -/
def schemaOf : Value → Schema
  | .mapping fields =>
    fields.filterMap fun (k, description) =>
      match k with
      | .text name =>
        if name == Attribute.itemIdentifier then none else some (name, fieldType description)
      | _ => none
  | _ => []

/-- The attribute that an item of the account's lists describes. -/
def listAttribute (item : Entries) : Validated Attribute :=
  (fun shown : Text =>
    { name := "data" ++ listSeparator :: shown
      type := .list
      isCustom := true
      displayName := some shown
      schema := some (schemaOf (Value.get "schema" item)) }) <$> displayName item

/-- Reads the named items one by one; the first that is no attribute stops it. -/
def attributesOf (read : Entries → Validated Attribute) (items : List Entries) :
    Except Stop (List Attribute) :=
  (items.filter isNamed).mapM fun item =>
    match read item with
    | .valid a => .ok a
    | .invalid issues => .error (.invalid issues)

/-! ## Sources -/

/-- Probes the standard fields. -/
def fetchStandard (connection : Connection) (service : Service) : Run (List Attribute) :=
  match connection.requestWith Preview.personsPath [("limit", "1")] with
  | .error e => .stopped (.url e)
  | .ok request =>
    ⟨[request],
      match service request 0 with
      | .failure f => .error (.failure f)
      | .answer status _ =>
        if Status.isSuccess status then .ok standardAttributes
        else
          .error (.fetch {
            source := "Standard"
            message := "Failed to fetch person profile: " ++ Status.line status
            status })⟩

/-- Lists the attributes the account defined. -/
def fetchCustom (connection : Connection) (service : Service) (limit : Int) :
    Run (List Attribute) :=
  let run := list connection service limit .custom
  ⟨run.requests, run.outcome.bind (attributesOf customAttribute)⟩

/-- Lists the lists of the account. -/
def fetchLists (connection : Connection) (service : Service) (limit : Int) :
    Run (List Attribute) :=
  let run := list connection service limit .lists
  ⟨run.requests, run.outcome.bind (attributesOf listAttribute)⟩

/-! ## The whole directory -/

/-- The attributes that loaded, and a warning for each source that did not. -/
structure Load where
  /-- the attributes in the order of their sources -/
  attributes : List Attribute := []
  /-- the warnings in the order of their sources -/
  warnings : List Text := []
deriving DecidableEq, Repr

namespace Load

/-- Did a source fail? -/
def isPartial (load : Load) : Bool := !load.warnings.isEmpty

/-- The warnings in one message. -/
def warningMessage (load : Load) : Option Text :=
  if load.warnings.isEmpty then none
  else
    some (Report.ofFault .partialLoad
      [(.text "reason", .text (Text.join "; " load.warnings))]).message

/-- Adds what came of one source; a stop that is no warning stops the whole. -/
def add (load : Load) (source : Text) : Except Stop (List Attribute) → Except Stop Load
  | .ok attributes => .ok { load with attributes := load.attributes ++ attributes }
  | .error why =>
    match why.warning? with
    | some message =>
      .ok { load with warnings := load.warnings ++ [source ++ " attributes: " ++ message] }
    | none => .error why

/-- The report when nothing loaded. -/
def failed (load : Load) : Report :=
  let reasons : List Text :=
    if load.warnings.isEmpty then ["No attributes were returned."] else load.warnings
  .ofFault .loadFailed [(.text "reason", .text (Text.join "; " reasons))]
    [(.text "errors", .list (reasons.map .text))]

/-- Adds what came of several sources, in order. -/
def addAll (load : Load) : List (Text × Except Stop (List Attribute)) → Except Stop Load
  | [] => .ok load
  | (source, outcome) :: rest =>
    match load.add source outcome with
    | .ok load => load.addAll rest
    | .error why => .error why

/-- The load of several sources; nothing loaded is a fault. -/
def ofSources (sources : List (Text × Except Stop (List Attribute))) : Except Stop Load :=
  match addAll {} sources with
  | .error why => .error why
  | .ok load => if load.attributes.isEmpty then .error (.report load.failed) else .ok load

end Load

/-- Gathers what came of the three sources. -/
def gather (standard custom lists : Run (List Attribute)) : Run Load :=
  ⟨standard.requests ++ custom.requests ++ lists.requests,
    Load.ofSources [("Standard", standard.outcome), (Listing.custom.name, custom.outcome),
      (Listing.lists.name, lists.outcome)]⟩

/-- Loads all attributes. Every source is asked, whatever comes of the others. -/
def load (connection : Connection) (service : Service) (limit : Int) : Run Load :=
  gather (fetchStandard connection service) (fetchCustom connection service limit)
    (fetchLists connection service limit)

end Directory

end ProfileFilter

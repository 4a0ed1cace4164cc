import ProfileFilter.Api.Message
import ProfileFilter.Compile.Filter
import ProfileFilter.Operator.Narrowing
import ProfileFilter.Service.Directory
import ProfileFilter.Settings.Basic
import ProfileFilter.Terminal.Format
import ProfileFilter.Validate.Model

/-!
# Endpoints

What each endpoint of the HTTP interface answers: operators, compiled filters, loaded
attributes and test queries. An endpoint that uses the service tells the requests it made.
-/

namespace ProfileFilter

namespace Api

/-! ## Operators -/

/-- The list of operators with the type and field they are for. -/
def operatorList (ops : List OperatorCode) (type : Option AttributeType) (field : Option Text) :
    Value :=
  .record [("operators", .list (ops.map Format.operatorRecord)),
    ("type", .ofOption AttributeType.toValue type), ("field", .ofOption .text field)]

/-- The words for attribute types. -/
def typeWords : String :=
  "'string', 'integer', 'decimal', 'boolean', 'date', 'date_time', 'enum', 'array' or 'list'"

/-- An attribute type by its exact name. -/
def typeParameter (t : Text) : Validated AttributeType :=
  match AttributeType.ofName? t with
  | some type => .valid type
  | none => .refuse (.enum typeWords) (.text t)

/-- The value of a query parameter; of several, the last. -/
def Call.parameter? (call : Call) (name : Text) : Option Text := call.query.reverse.lookup name

/-- The operators for the type and field in the query. -/
def operators (call : Call) : Answer :=
  let field := call.parameter? "field"
  let answer (type : Option AttributeType) : Answer :=
    let type := type.orElse fun _ => Directory.standardFields.lookup (field.getD [])
    let ops := operatorsFor? (type.map fun type => { name := field.getD [], type })
    .body 200 (operatorList ops type field)
  match call.parameter? "type" with
  | none => answer none
  | some t =>
    match ((typeParameter t).under "type").under "query" with
    | .valid type => answer (some type)
    | .invalid found => .issues found

/-- The operators for the items of lists. -/
def listItemOperators : Answer :=
  .body 200 (operatorList OperatorCode.forListItems (some .list) none)

/-! ## Filters -/

/-- A list of attributes that may be missing. -/
def knownAttributes : Value → Validated (Option (List Attribute)) :=
  Check.nullable (Check.list (Check.profileAttribute .body))

/-- A filter to compile. -/
structure CompileOrder where
  /-- the filter -/
  filter : FilterSet
  /-- the known attributes -/
  attributes : Option (List Attribute)
  /-- the base URL for the preview -/
  baseUrl : Option Text

/-- Checks an order to compile. -/
def compileOrder : Value → Validated CompileOrder :=
  Check.record .objectType fun entries =>
    CompileOrder.mk
      <$> Check.optional ["filter"] {} (Check.filterSet .body) entries
      <*> Check.optional ["attributes"] none knownAttributes entries
      <*> Check.optional ["base_url"] none (Check.nullable Check.text) entries

/-- Compiles a filter. -/
def compile (attributes : Option (List Attribute)) (filter : FilterSet) :
    Except Failure CompiledFilter :=
  match compileFilter (attributes.getD []) filter with
  | .ok compiled => .ok compiled
  | .error .key => .error (.stop .unprintable)
  | .error .number => .error .number

/-- A compiled filter with previews. -/
def compiledRecord (compiled : CompiledFilter) (baseUrl : Option Text) : Value :=
  .record [("raw", .text compiled.raw), ("encoded", .text compiled.encoded),
    ("explanation", .text compiled.explanation),
    ("condition_count", .int compiled.conditionCount),
    ("request_path", .text (Preview.requestPath compiled.encoded)),
    ("api_example", .text (Preview.sampleRequest compiled.encoded)),
    ("curl", .text (Preview.curl compiled.encoded baseUrl none))]

/-- Compiles the filter in the body. -/
def compileFilters (call : Call) : Except Failure Served :=
  withBody call compileOrder fun order => do
    let compiled ← compile order.attributes order.filter
    return { answer := .body 200 (compiledRecord compiled order.baseUrl) }

/-! ## The service -/

/-- Credentials in a body. -/
structure CredentialOrder where
  /-- the base URL -/
  baseUrl : Text
  /-- the key -/
  apiKey : Text

/-- Checks credentials. -/
def credentialOrder : Value → Validated CredentialOrder :=
  Check.record .objectType fun entries =>
    CredentialOrder.mk
      <$> Check.optional ["base_url"] [] Check.text entries
      <*> Check.optional ["api_key"] [] Check.text entries

/-- The answer when a use of the service stopped: a report is told, anything else is a
failure. -/
def stopped (requests : List Request) : Stop → Except Failure Served
  | .report report => .ok ⟨.body 400 report.payload, requests⟩
  | why => .error (.stop why)

/-- Goes on if credentials have no faults. -/
def withCredentials (order : CredentialOrder) (go : Unit → Except Failure Served) :
    Except Failure Served :=
  match Credentials.require order.baseUrl order.apiKey with
  | .error why => stopped [] why
  | .ok () => go ()

/-- Answers with what a use of an open connection yields. -/
def withRun {α : Type} (order : CredentialOrder) (run : Connection → Run α)
    (record : α → Value) : Except Failure Served :=
  match (Client.ofCredentials order.baseUrl order.apiKey).connect with
  | .error e => stopped [] (.url e)
  | .ok connection =>
    let run := run connection
    match run.outcome with
    | .error why => stopped run.requests why
    | .ok a => .ok ⟨.body 200 (record a), run.requests⟩

/-- An attribute as a record with all its fields. -/
def attributeRecord (a : Attribute) : Value :=
  .record [("name", .text a.name), ("type", a.type.toValue), ("isCustom", .bool a.isCustom),
    ("displayName", .ofOption .text a.displayName),
    ("enumValues", .ofOption Format.textList a.enumValues),
    ("schema", .ofOption Format.schemaRecord a.schema)]

/-- Loaded attributes as a record. -/
def loadRecord (load : Directory.Load) : Value :=
  .record [("attributes", .list (load.attributes.map attributeRecord)),
    ("warnings", Format.textList load.warnings),
    ("warning_message", .ofOption .text load.warningMessage)]

/-- Loads the attributes of an account. -/
def loadAttributes (settings : ConnectionSettings) (service : Service) (call : Call) :
    Except Failure Served :=
  withBody call credentialOrder fun order =>
    withCredentials order fun _ =>
      withRun order (fun connection => Directory.load connection service settings.pageLimit)
        loadRecord

/-! ## Test queries -/

/-- A filter to run. -/
structure QueryOrder where
  /-- the credentials -/
  credentials : CredentialOrder
  /-- the filter -/
  filter : Option FilterSet
  /-- the encoded filter, which counts before the other one -/
  encoded : Option Text
  /-- the known attributes -/
  attributes : Option (List Attribute)

/-- Checks an order to run a filter. -/
def queryOrder : Value → Validated QueryOrder :=
  Check.record .objectType fun entries =>
    QueryOrder.mk
      <$> (CredentialOrder.mk
        <$> Check.optional ["base_url"] [] Check.text entries
        <*> Check.optional ["api_key"] [] Check.text entries)
      <*> Check.optional ["filter"] none (Check.nullable (Check.filterSet .body)) entries
      <*> Check.optional ["encoded_filter"] none (Check.nullable Check.text) entries
      <*> Check.optional ["attributes"] none knownAttributes entries

/-- The encoded filter of an order. -/
def QueryOrder.encodedFilter (order : QueryOrder) : Except Failure Text :=
  match order.encoded, order.filter with
  | some encoded, _ => .ok encoded
  | none, some filter => do return (← compile order.attributes filter).encoded
  | none, none => .ok []

/-- The outcome of a query as a record. Numbers in the body that JSON has no token for become
null. -/
def resultRecord (encoded : Text) (result : QueryResult) : Value :=
  let summary := if result.success then summarizeResults result.body else none
  Format.queryRecord { result with body := withoutOddNumbers result.body }
    (Preview.requestPath encoded) summary

/-- Runs a filter. -/
def testQuery (service : Service) (seconds : Binary64) (call : Call) : Except Failure Served :=
  withBody call queryOrder fun order =>
    withCredentials order.credentials fun _ => do
      let encoded ← order.encodedFilter
      withRun order.credentials
        (fun connection =>
          connection.execute service .zero (Binary64.zero.add seconds) encoded)
        (resultRecord encoded)

end Api

end ProfileFilter

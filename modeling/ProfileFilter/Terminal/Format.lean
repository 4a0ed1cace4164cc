import ProfileFilter.Compile.Filter
import ProfileFilter.Json.Print
import ProfileFilter.Operator.Narrowing
import ProfileFilter.Service.Directory
import ProfileFilter.Settings.Basic
import ProfileFilter.Terminal.Display

/-!
# Formats

How results are written out, for people as displays and for programs as JSON with two
blanks per level. Texts from outside enter a display escaped.
-/

namespace ProfileFilter

namespace Format

/-- The style names of attribute types. -/
def typeStyle : AttributeType → Text
  | .string => "white"
  | .integer | .decimal => "cyan"
  | .boolean => "magenta"
  | .date | .dateTime => "blue"
  | .enum => "yellow"
  | .array | .list => "green"

/-- A value as JSON output. -/
def json (v : Value) : Except Json.Unprintable Output := Output.ofText <$> Json.indented v

/-- Markup in a style. -/
def styled (style markup : Text) : Text := "[" ++ style ++ "]" ++ markup ++ "[/" ++ style ++ "]"

/-- Markup in bold. -/
def bold (markup : Text) : Text := styled "bold" markup

/-- Lines one below the other. -/
def stack (lines : List Text) : Text := Text.join "\n" lines

/-! ## Operators -/

/-- The names of the types an operator applies to. -/
def typeNames (op : OperatorCode) : List Text := op.types.map fun t => Text.ofString t.name

/-- An operator as a record. -/
def operatorRecord (op : OperatorCode) : Value :=
  .record [("code", .text op.code), ("label", .text op.label),
    ("description", .text op.description),
    ("applicable_types", .list ((typeNames op).map .text))]

/-- Operators as a table. -/
def operatorTable (title : Text) (ops : List OperatorCode) : Output :=
  if ops.isEmpty then .ofText "No operators apply."
  else
    .ofDisplays [.table title
      [{ header := "Code", style := "cyan", noWrap := true }, { header := "Label" },
        { header := "Types", style := "dim" }]
      (ops.map fun op =>
        [Text.ofString op.code, Text.ofString op.label, Text.join ", " (typeNames op)])]

/-- Operators as JSON or as a table. -/
def operators (asJson : Bool) (title : Text) (ops : List OperatorCode) :
    Except Json.Unprintable Output :=
  if asJson then json (.list (ops.map operatorRecord)) else .ok (operatorTable title ops)

/-! ## Compiled filters -/

/-- A compiled filter as a record. -/
def compiledRecord (compiled : CompiledFilter) (requestPath curl : Text) : Value :=
  .record [("raw", .text compiled.raw), ("encoded", .text compiled.encoded),
    ("explanation", .text compiled.explanation),
    ("condition_count", .int compiled.conditionCount),
    ("request_path", .text requestPath), ("curl", .text curl)]

/-- A compiled filter as a panel. -/
def compiledPanel (compiled : CompiledFilter) (requestPath curl : Text) : Display :=
  if compiled.isEmpty then
    .panel (styled "dim" "No complete conditions; the request runs without a filter.")
      "Filter" "dim"
  else
    .panel (stack
      [bold "Conditions:" ++ "  " ++ Text.ofNat compiled.conditionCount,
        bold "Meaning:" ++ "     " ++ Markup.escape (displayFieldName compiled.explanation), [],
        bold "Raw:", Markup.escape (compiled.raw.replace listSeparator "\\u0001"), [],
        bold "Encoded:", Markup.escape compiled.encoded, [],
        bold "Request:", "GET " ++ Markup.escape requestPath, [],
        bold "curl:", Markup.escape curl]) "Compiled Filter" "cyan"

/-- A compiled filter as JSON or as a panel. -/
def compiled (asJson : Bool) (compiled : CompiledFilter) (requestPath curl : Text) :
    Except Json.Unprintable Output :=
  if asJson then json (compiledRecord compiled requestPath curl)
  else .ok (.ofDisplays [compiledPanel compiled requestPath curl])

/-! ## Attributes -/

/-- A field that is left out when there is nothing to tell. -/
def told {α : Type} (key : Text) (wrap : α → Value) : Option α → List (Text × Value)
  | some a => [(key, wrap a)]
  | none => []

/-- A schema as a record. -/
def schemaRecord (schema : Schema) : Value :=
  .record (schema.map fun field => (field.1, .record [("type", field.2.toValue)]))

/-- Texts as a list. -/
def textList (texts : List Text) : Value := .list (texts.map .text)

/-- An attribute as a record. -/
def attributeRecord (a : Attribute) : Value :=
  let fields : List (Text × Value) :=
    [("name", .text a.name), ("type", a.type.toValue), ("isCustom", .bool a.isCustom)]
  .record (fields ++ told "displayName" .text a.displayName ++
    told "enumValues" textList a.enumValues ++ told "schema" schemaRecord a.schema)

/-- What a table tells about an attribute besides name and type. -/
def attributeDetails (a : Attribute) : Text :=
  if a.isList then
    Text.join ", " (a.schemaFields.map fun field => field.1 ++ ": " ++ Text.ofString field.2.name)
  else Text.join " | " (a.enumValues.getD [])

/-- An attribute as a row. -/
def attributeRow (a : Attribute) : List Text :=
  [Markup.escape (displayFieldName a.name), styled (typeStyle a.type) a.type.name,
    if a.isCustom then "yes" else "", Markup.escape (attributeDetails a)]

/-- Attributes as a table. -/
def attributeTable (attributes : List Attribute) : Display :=
  .table ("Attributes (" ++ Text.ofNat attributes.length ++ ")")
    [{ header := "Name", style := "cyan" }, { header := "Type" },
      { header := "Custom", justify := .center }, { header := "Details", style := "dim" }]
    (attributes.map attributeRow)

/-- A warning as a line. -/
def warningLine (warning : Text) : Display :=
  .lines (styled "yellow" "Warning:" ++ " " ++ Markup.escape warning)

/-- Loaded attributes as JSON or as a table followed by the warnings. -/
def attributes (asJson : Bool) (load : Directory.Load) : Except Json.Unprintable Output :=
  if asJson then
    json (.record [("attributes", .list (load.attributes.map attributeRecord)),
      ("warnings", textList load.warnings)])
  else .ok (.ofDisplays (attributeTable load.attributes :: load.warnings.map warningLine))

/-! ## Query results -/

/-- A text that may be missing. -/
def optionalText : Option Text → Value := Value.ofOption .text

/-- The fields of a query result. -/
def queryFields (result : QueryResult) : List (Text × Value) :=
  [("success", .bool result.success), ("status", .int result.status),
    ("status_text", .text result.statusText), ("body", result.body),
    ("elapsed_ms", .int result.elapsedMs), ("error", optionalText result.error),
    ("error_kind", .ofOption (fun kind => .text (Text.ofString (ErrorKind.name kind)))
      result.errorKind),
    ("error_code", optionalText result.errorCode),
    ("remediation", optionalText result.remediation)]

/-- A query result with the request and the summary as a record. -/
def queryRecord (result : QueryResult) (requestPath : Text) (summary : Option Text) : Value :=
  let request : List (Text × Value) :=
    [("request_path", .text requestPath), ("summary", optionalText summary)]
  .record (queryFields result ++ request)

/-- The text in a list if it is there and not empty. -/
def filled : Option Text → List Text
  | some (c :: rest) => [c :: rest]
  | _ => []

/-- The lines about what went wrong. -/
def errorLines (result : QueryResult) : List Text :=
  (filled result.error).flatMap fun error =>
    let code : Text := (filled result.errorCode).flatMap fun (code : Text) => " (" ++ code ++ ")"
    [] :: (styled "bold red" ("Error" ++ code ++ ":") ++ " " ++ Markup.escape error) ::
      (filled result.remediation).map fun action =>
        bold "Action:" ++ "   " ++ Markup.escape action

/-- The lines of a body: a text as it is, anything else as JSON. -/
def bodyLines : Value → Except Json.Unprintable (List Text)
  | .null => .ok []
  | .text t => .ok [[], Markup.escape t]
  | body => do return [[], Markup.escape (← Json.indented body)]

/-- A query result as a panel. -/
def queryPanel (result : QueryResult) (requestPath : Text) (summary : Option Text) :
    Except Json.Unprintable Display := do
  let style : Text := if result.success then "green" else "red"
  let body ← bodyLines result.body
  return .panel (stack
    ([bold "Request:" ++ "  GET " ++ Markup.escape requestPath,
      bold "Status:" ++ "   " ++
        styled style (Text.ofInt result.status ++ " " ++ Markup.escape result.statusText),
      bold "Time:" ++ "     " ++ Text.ofInt result.elapsedMs ++ " ms"] ++
      (filled summary).map (fun t => bold "Result:" ++ "   " ++ Markup.escape t) ++
      errorLines result ++ body)) "Test Query" style

/-- A query result as JSON or as a panel. -/
def query (asJson : Bool) (result : QueryResult) (requestPath : Text) (summary : Option Text) :
    Except Json.Unprintable Output :=
  if asJson then json (queryRecord result requestPath summary)
  else do return .ofDisplays [← queryPanel result requestPath summary]

/-! ## Settings -/

/-- The settings by section, the key masked. -/
def settingSections (settings : Settings) : List (Text × List (Text × Value)) :=
  [("connection",
      [("base_url", .text settings.connection.baseUrl),
        ("api_key", .text settings.connection.maskedKey),
        ("timeout_seconds", .float settings.connection.timeoutSeconds),
        ("page_limit", .int settings.connection.pageLimit)]),
    ("server",
      [("host", .text settings.server.host), ("port", .int settings.server.port),
        ("log_level", .text settings.server.logLevel)])]

/-- A word with a capital at its front. -/
def capitalized (word : Text) : Text := Text.upper (word.take 1) ++ word.drop 1

/-- A section as lines, with an empty one at its end. -/
def sectionLines (name : Text) (fields : List (Text × Value)) : List Text :=
  bold (capitalized name ++ ":") ::
    fields.map (fun field => "  " ++ field.1 ++ ": " ++ Markup.escape field.2.shown) ++ [[]]

/-- Settings as JSON or as lines. -/
def settings (asJson : Bool) (settings : Settings) : Except Json.Unprintable Output :=
  let sections := settingSections settings
  if asJson then json (.record (sections.map fun s => (s.1, .record s.2)))
  else
    .ok (.ofDisplays
      [.lines (Text.trimEnd (stack (sections.flatMap fun s => sectionLines s.1 s.2)))])

end Format

end ProfileFilter

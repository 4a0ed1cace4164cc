import ProfileFilter.Command.Basic
import ProfileFilter.Command.Files
import ProfileFilter.Settings.Report
import ProfileFilter.Terminal.Format

/-!
# Running commands

What a command does is a function of the world it finds: files, environment, service and
clock. It ends with an exit code, or is interrupted by something it does not handle.
-/

namespace ProfileFilter

/-- What a command finds. -/
structure World where
  /-- the files -/
  files : Files
  /-- the environment -/
  environment : Environment
  /-- the service -/
  service : Service
  /-- how many seconds a request takes -/
  seconds : Binary64 := .zero
  /-- how issues with settings are reported -/
  report : List Issue → Text := Settings.report

/-- What a command does not handle. -/
inductive Interruption where
  /-- an input file is not UTF-8 -/
  | undecodable
  /-- the reader of documents stopped at a file -/
  | refused (why : ReaderError)
  /-- the settings file is a directory -/
  | directory
  /-- the settings file may not be read -/
  | denied
  /-- the settings file has no sections to override -/
  | noSections
  /-- something has no JSON form -/
  | unprintable (why : Json.Unprintable)
  /-- markup closes a style that is not open -/
  | markup
  /-- the output holds a lone surrogate -/
  | unencodable
  /-- a use of the service stopped -/
  | stop (why : Stop)
deriving Repr

/-- What is said about an interruption. -/
def Interruption.message : Interruption → Text
  | .undecodable => "an input file is not UTF-8"
  | .refused (.value message) => message
  | .refused (.other name) => name
  | .directory => "the settings file is a directory"
  | .denied => "the settings file may not be read"
  | .noSections => "the settings file has no sections"
  | .unprintable .key => "a mapping key has no JSON form"
  | .unprintable .number => "a number has no JSON form"
  | .markup => "markup closes a style that is not open"
  | .unencodable => "the output holds a lone surrogate"
  | .stop (.failure f) => f.reason
  | .stop .notOpen => Stop.notOpenMessage
  | .stop (.fetch e) => e.message
  | .stop (.report r) => r.headline
  | .stop (.url _) => "a URL is malformed"
  | .stop .notItems => "a page holds something other than items"
  | .stop (.invalid _) => "an item is no attribute"
  | .stop .unprintable => "a mapping key has no JSON form"

/-- How the service was started. -/
structure Serving where
  /-- the address it binds -/
  host : Text
  /-- the port it binds -/
  port : Int
  /-- how much it logs -/
  logLevel : Text
  /-- the settings file it is told of -/
  configPath : Option Text
deriving DecidableEq, Repr

/-- What a command did. -/
structure Outcome where
  /-- the exit code -/
  exitCode : Nat := 0
  /-- what it printed, the layout of displays apart -/
  stdout : Text := []
  /-- what it handed to the terminal to display -/
  displays : List Display := []
  /-- the requests it made -/
  requests : List Request := []
  /-- the service it started -/
  serving : Option Serving := none
  /-- what interrupted it -/
  interruption : Option Interruption := none

namespace Outcome

/-- The outcome of an interrupted command. -/
def interrupted (why : Interruption) (requests : List Request := []) (stdout : Text := []) :
    Outcome :=
  { exitCode := 1, stdout, requests, interruption := some why }

/-- Prints lines of markup one after the other; one that is no markup interrupts. -/
def print (outcome : Outcome) : List Text → Outcome
  | [] => outcome
  | line :: rest =>
    match Markup.plain? line with
    | some t =>
      if t.isEncodable then print { outcome with stdout := outcome.stdout ++ t ++ "\n" } rest
      else interrupted .unencodable outcome.requests outcome.stdout
    | none => interrupted .markup outcome.requests outcome.stdout

/-- The outcome of a command that prints lines and ends. -/
def printed (exitCode : Nat) (lines : List Text) : Outcome := print { exitCode } lines

/-- A fault told in red, with exit code one. A report that cannot be told interrupts. -/
def failed (report : Report) (requests : List Request := []) : Outcome :=
  match report.formatted? true with
  | some t => print { exitCode := 1, requests } [Format.styled "red" (Markup.escape t)]
  | none => interrupted .markup requests

/-- What keeps a terminal from showing an output: one of its displays is no markup, or what is
shown holds a lone surrogate. -/
def obstacle? (output : Output) : Option Interruption :=
  match output.shownTexts? with
  | none => some .markup
  | some texts => if texts.all Text.isEncodable then none else some .unencodable

/-- The outcome of a command whose output is complete. Displays are laid out before anything is
printed, so nothing is printed if the terminal cannot show the output. -/
def shown (exitCode : Nat) (requests : List Request) :
    Except Json.Unprintable Output → Outcome
  | .error why => interrupted (.unprintable why) requests
  | .ok output =>
    match obstacle? output with
    | some why => { interrupted why requests with displays := output.displays }
    | none =>
      { exitCode, requests, displays := output.displays
        stdout := Text.dropTrailing 0x0A output.text ++ "\n" }

end Outcome

namespace Command

/-! ## Settings -/

/-- The outcome when there are no settings; `report` says how issues are reported. -/
def withoutSettings (report : List Issue → Text) : Settings.LoadFailure → Outcome
  | .missing path =>
    .printed 1 [Format.styled "red" (Markup.escape ("Config file not found: " ++ path))]
  | .directory => .interrupted .directory
  | .denied => .interrupted .denied
  | .noSections => .interrupted .noSections
  | .refused (.other name) => .interrupted (.refused (.other name))
  | .refused (.value message) => invalid message
  | .undecodable message => invalid message
  | .malformed reason => invalid reason
  | .invalid issues => invalid (report issues)
where
  /-- The outcome when the settings are invalid. -/
  invalid (reason : Text) : Outcome :=
    .printed 1 [Format.styled "red" "Invalid configuration:" ++ " " ++ Markup.escape reason]

/-- Goes on with the settings, which come from the file given for the command or for all. -/
def withSettings (world : World) (config own : Option Text) (go : Settings → Outcome) : Outcome :=
  let path := match own with
    | some (c :: rest) => c :: rest
    | _ => config.getD []
  match Settings.load world.files world.environment path with
  | .ok settings => go settings
  | .error failure => withoutSettings world.report failure

/-! ## Filters -/

/-- The outcome when a file yields nothing. -/
def withoutFile : FileFailure → Outcome
  | .undecodable => .interrupted .undecodable
  | .refused why => .interrupted (.refused why)
  | .report report => .failed report

/-- The attributes of an optional file. -/
def optionalAttributes (files : Files) : Option Text → Except FileFailure (List Attribute)
  | some path => loadAttributes files path
  | none => .ok []

/-- Goes on with the filter and the attributes in two files that may be left out. -/
def withFilter (world : World) (file attributes : Option Text)
    (go : FilterSet → List Attribute → Outcome) : Outcome :=
  let filter := match file with
    | some path => loadFilter world.files path
    | none => .ok {}
  match filter with
  | .error failure => withoutFile failure
  | .ok filter =>
    match optionalAttributes world.files attributes with
    | .error failure => withoutFile failure
    | .ok attributes => go filter attributes

/-! ## The service -/

/-- The outcome when the service could not be used. -/
def stopped (requests : List Request) : Stop → Outcome
  | .report report => .failed report requests
  | why => .interrupted (.stop why) requests

/-- Goes on if the credentials have no faults. -/
def withCredentials (settings : ConnectionSettings) (go : Unit → Outcome) : Outcome :=
  match Credentials.require settings.baseUrl settings.apiKey with
  | .error why => stopped [] why
  | .ok () => go ()

/-- Goes on with what a use of an open connection yields, and the requests it made. -/
def withRun {α : Type} (settings : ConnectionSettings) (run : Connection → Run α)
    (go : List Request → α → Outcome) : Outcome :=
  match (Client.ofCredentials settings.baseUrl settings.apiKey).connect with
  | .error e => stopped [] (.url e)
  | .ok connection =>
    let run := run connection
    match run.outcome with
    | .error why => stopped run.requests why
    | .ok a => go run.requests a

/-! ## Commands -/

/-- What to say about how commands are given. -/
def usage : Text :=
  "Usage: people-filter [--config PATH] [--verbose] " ++
    "operators | compile | attributes | test | serve | config\n"

/-- The type of a field that every account has. -/
def standardType? (field : Option Text) : Option AttributeType :=
  Directory.standardFields.lookup (field.getD [])

/-- Lists operators. -/
def runOperators (type : Option AttributeType) (field : Option Text) (listItems asJson : Bool) :
    Outcome :=
  if listItems then
    .shown 0 [] (Format.operators asJson "List Item Operators" OperatorCode.forListItems)
  else
    match type.orElse fun _ => standardType? field with
    | some type =>
      .shown 0 [] (Format.operators asJson ("Operators for " ++ Text.ofString type.name)
        (operatorsFor { name := field.getD [], type }))
    | none => .shown 0 [] (Format.operators asJson "Operators" (operatorsFor? none))

/-- Compiles a filter file. -/
def runCompile (world : World) (file : Text) (attributes baseUrl : Option Text) (asJson : Bool) :
    Outcome :=
  withFilter world (some file) attributes fun filter attributes =>
    match compileFilter attributes filter with
    | .error why => .interrupted (.unprintable why)
    | .ok compiled =>
      .shown 0 [] (Format.compiled asJson compiled (Preview.requestPath compiled.encoded)
        (Preview.curl compiled.encoded baseUrl none))

/-- Loads attributes. -/
def runAttributes (world : World) (settings : ConnectionSettings) (asJson : Bool) : Outcome :=
  withCredentials settings fun _ =>
    withRun settings
      (fun connection => Directory.load connection world.service settings.pageLimit)
      fun requests load => .shown 0 requests (Format.attributes asJson load)

/-- Runs a filter. -/
def runTest (world : World) (settings : ConnectionSettings) (file attributes : Option Text)
    (asJson : Bool) : Outcome :=
  withCredentials settings fun _ =>
    withFilter world file attributes fun filter attributes =>
      match compileFilter attributes filter with
      | .error why => .interrupted (.unprintable why)
      | .ok compiled =>
        withRun settings
          (fun connection =>
            connection.execute world.service .zero (Binary64.zero.add world.seconds)
              compiled.encoded)
          fun requests result =>
            let summary := if result.success then summarizeResults result.body else none
            .shown (if result.success then 0 else 1) requests
              (Format.query asJson result (Preview.requestPath compiled.encoded) summary)

/-- The text if it is there and not empty, else the other one. -/
def orElse (t : Option Text) (other : Text) : Text :=
  match t with
  | some (c :: rest) => c :: rest
  | _ => other

/-- Starts the service. -/
def runServe (world : World) (settings : ServerSettings) (config host : Option Text)
    (port : Option Int) : Outcome :=
  let host := orElse host settings.host
  let port := (port.filter (· != 0)).getD settings.port
  let variable_ : Text := "PEOPLEFILTER_CONFIG_PATH"
  let configPath := match config with
    | some (c :: rest) => some (c :: rest)
    | _ => world.environment.lookup variable_
  let told := Outcome.printed 0 [Format.bold
    ("Starting People filter builder on " ++ host ++ ":" ++ Text.ofInt port)]
  if told.interruption.isSome then told
  else { told with serving := some { host, port, logLevel := settings.logLevel, configPath } }

/-- Checks the settings. -/
def runValidate (settings : ConnectionSettings) : Outcome :=
  withCredentials settings fun _ =>
    .printed 0 [Format.styled "green" "Config is valid.", "  Base URL: " ++ settings.baseUrl,
      "  API key: " ++ settings.maskedKey]

/-- Runs a command with the settings file given for all commands. -/
def run (world : World) (config : Option Text) : Command → Outcome
  | .operators type field listItems asJson => runOperators type field listItems asJson
  | .compile file known baseUrl asJson => runCompile world file known baseUrl asJson
  | .attributes baseUrl apiKey asJson =>
    withSettings world config none fun settings =>
      runAttributes world (settings.connection.override baseUrl apiKey) asJson
  | .test file known baseUrl apiKey asJson =>
    withSettings world config none fun settings =>
      runTest world (settings.connection.override baseUrl apiKey) file known asJson
  | .serve host port =>
    withSettings world config none fun settings =>
      runServe world settings.server config host port
  | .configShow asJson =>
    withSettings world config none fun settings =>
      .shown 0 [] (Format.settings asJson settings)
  | .configValidate path =>
    withSettings world config path fun settings => runValidate settings.connection
  | .help => { stdout := usage }

end Command

/-- Runs the command that arguments spell; arguments that spell none are a usage error. -/
def runArguments (world : World) (args : List Text) : Outcome :=
  match Command.parse args with
  | .ok invocation => Command.run world invocation.config invocation.command
  | .error _ => { exitCode := 2 }

end ProfileFilter

import ProfileFilter.Command.Run
import ProfileFilter.Api.Origin

/-!
# The command-line program

Reads the files a command may need, looks up the variables it may refer to, runs it, and
prints what it says. Documents are read as JSON. There is no network: every request to the
service fails as unreachable.
-/

namespace ProfileFilter

namespace Program

/-- The code points of a string from the outside. -/
def text (s : String) : Text := Text.ofString s

/-- The characters of a text; a lone surrogate becomes a replacement character. -/
def string (t : Text) : String :=
  String.ofList (t.map fun c => if c.isSurrogate then '\uFFFD' else Char.ofNat c.val)

/-- The document in the bytes of a file. -/
def documentOf (bytes : List UInt8) : FileState :=
  match Utf8.decodeStrict? false bytes with
  | none => .undecodable "the file is not UTF-8"
  | some t =>
    if t.all CodePoint.isBlank then .document .null
    else
      match Json.parse t with
      | .ok v => .document v
      | .error _ => .malformed "not a JSON document"

/-- What is found under a path. -/
def readState (path : String) : IO FileState := do
  try
    return documentOf (← IO.FS.readBinFile path).toList
  catch e =>
    match e with
    | .noFileOrDirectory .. => return .missing
    | .inappropriateType .. => return .directory
    | .permissionDenied .. => return .denied
    | _ => return .blocked

/-- The path of a place. -/
def pathOf (home : String) : Place → String
  | .working path => string path
  | .home path => home ++ "/" ++ string path

/-- The files among the given places. -/
def readFiles (home : String) (places : List Place) : IO (List (Place × FileState)) :=
  places.mapM fun place => do return (place, ← readState (pathOf home place))

/-- The names that a document refers to. -/
def namesIn : FileState → List Text
  | .document v =>
    match Json.compact v with
    | .ok t => Reference.names t
    | .error _ => []
  | _ => []

/-- The variables with the given names that are set. -/
def readEnvironment (names : List Text) : IO Environment := do
  let found ← names.mapM fun name => do
    return (← IO.getEnv (string name)).map fun value => (name, text value)
  return found.filterMap id

/-- The variables that settings are overridden by. -/
def overrideNames : List Text :=
  Settings.sections.flatMap fun (name, fields) => fields.map (Settings.variableName name)

/-- A service that cannot be reached. -/
def unreachable : Service := fun _ _ =>
  .failure ⟨.transport, "ConnectError", "no network is available"⟩

/-- What a command showed: the displays, or the plain text if there are none. -/
def shown (outcome : Outcome) : Text :=
  if outcome.displays.isEmpty then outcome.stdout
  else outcome.displays.flatMap fun display => display.plain ++ "\n"

end Program

end ProfileFilter

open ProfileFilter in
/-- Runs the command that the arguments spell. -/
def main (args : List String) : IO UInt32 := do
  let args := args.map Program.text
  match Command.parse args with
  | .error _ =>
    IO.eprintln (Program.string Command.usage)
    return 2
  | .ok invocation =>
    let home := (← IO.getEnv "HOME").getD "."
    let named := Command.files invocation.command ++ Command.settingsFiles invocation
    let files ← Program.readFiles home (Settings.searchPlaces ++ named.map Place.working)
    let names := Program.overrideNames ++ files.flatMap fun file => Program.namesIn file.2
    let world : World := {
      files := fun place => (files.lookup place).getD .missing
      environment := ← Program.readEnvironment names
      service := Program.unreachable }
    let outcome := Command.run world invocation.config invocation.command
    (← IO.getStdout).putStr (Program.string (Program.shown outcome))
    match outcome.interruption with
    | some why => IO.eprintln (Program.string why.message)
    | none => pure ()
    return UInt32.ofNat outcome.exitCode

import ProfileFilter.Attribute.Type
import ProfileFilter.Command.Arguments
import ProfileFilter.Number.Read

/-!
# Commands

What can be asked for on the command line, and how arguments say it.
-/

namespace ProfileFilter

/-- A command. -/
inductive Command where
  /-- list the operators of an attribute -/
  | operators (type : Option AttributeType) (field : Option Text) (listItems asJson : Bool)
  /-- compile a filter file -/
  | compile (file : Text) (attributes baseUrl : Option Text) (asJson : Bool)
  /-- load the attributes of the account -/
  | attributes (baseUrl apiKey : Option Text) (asJson : Bool)
  /-- run a filter -/
  | test (file attributes baseUrl apiKey : Option Text) (asJson : Bool)
  /-- start the service -/
  | serve (host : Option Text) (port : Option Int)
  /-- show the settings -/
  | configShow (asJson : Bool)
  /-- check the settings -/
  | configValidate (path : Option Text)
  /-- tell how commands are given -/
  | help
deriving DecidableEq, Repr

/-- A command and the settings file it is to use. -/
structure Invocation where
  /-- the settings file -/
  config : Option Text := none
  /-- the command -/
  command : Command
deriving DecidableEq, Repr

namespace Command

/-- The flag that asks for help. -/
def helpRule : OptionRule := { name := "help", takesValue := false }

/-- The flag that asks for JSON. -/
def jsonRule : OptionRule := { name := "json", takesValue := false }

/-- The options before a command. -/
def globalRules : List OptionRule :=
  [{ name := "config" }, { name := "verbose", letter := some 'v', takesValue := false }, helpRule]

/-- A path without redundant slashes and segments that mean the same place. -/
def normalPath (path : Text) : Text :=
  let isAbsolute := path.head? == some '/'
  let segments := (path.splitOn '/').filter fun (s : Text) => !s.isEmpty && s != "."
  let slashes := (path.takeWhile fun (c : CodePoint) => c == '/').length
  let joined := Text.join "/" segments
  if isAbsolute then (if slashes == 2 then ("//" : Text) else "/") ++ joined
  else if segments.isEmpty then "." else joined

/-- The integer that a text spells, single underscores between its digits allowed. -/
def readLooseInteger? (t : Text) : Option Int := do
  let (negative, body) := splitSign t.trim
  let digits ← dropUnderscores? body
  if digits.isEmpty || digits.length > maxIntegerDigits then none
  else return signedInt negative (← readDigits 0 digits)

/-- The value of an option, read by `read`. -/
def read? {α : Type} (a : Arguments) (name : Text) (read : Text → Option α) :
    Except UsageError (Option α) :=
  match a.value? name with
  | none => .ok none
  | some t =>
    match read t with
    | some v => .ok (some v)
    | none => .error .invalidValue

/-- No operands may be left. -/
def noOperands {α : Type} (a : Arguments) (v : α) : Except UsageError α :=
  if a.operands.isEmpty then .ok v else .error .extraOperand

/-- Splits the arguments of a command and reads them, unless they ask for help. -/
def parseWith (rules : List OptionRule) (args : List Text)
    (read : Arguments → Except UsageError Command) : Except UsageError Command := do
  let a ← Arguments.split (helpRule :: rules) true none args
  if a.has "help" then return .help else read a

/-- The arguments of `operators`. -/
def parseOperators (args : List Text) : Except UsageError Command :=
  parseWith [{ name := "type", letter := some 't' }, { name := "field", letter := some 'f' },
      { name := "list-items", takesValue := false }, jsonRule] args fun a => do
    let type ← read? a "type" AttributeType.ofName?
    noOperands a (.operators type (a.value? "field") (a.has "list-items") (a.has "json"))

/-- The arguments of `compile`. -/
def parseCompile (args : List Text) : Except UsageError Command :=
  parseWith [{ name := "attributes", letter := some 'a' }, { name := "base-url" }, jsonRule] args
    fun a =>
      match a.operands with
      | [] => .error .missingOperand
      | [file] =>
        .ok (.compile (normalPath file) ((a.value? "attributes").map normalPath)
          (a.value? "base-url") (a.has "json"))
      | _ => .error .extraOperand

/-- The arguments of `attributes`. -/
def parseAttributes (args : List Text) : Except UsageError Command :=
  parseWith [{ name := "base-url" }, { name := "api-key" }, jsonRule] args fun a =>
    noOperands a (.attributes (a.value? "base-url") (a.value? "api-key") (a.has "json"))

/-- The arguments of `test`. -/
def parseTest (args : List Text) : Except UsageError Command :=
  parseWith [{ name := "attributes", letter := some 'a' }, { name := "base-url" },
      { name := "api-key" }, jsonRule] args fun a =>
    match a.operands with
    | _ :: _ :: _ => .error .extraOperand
    | operands =>
      .ok (.test (operands.head?.map normalPath) ((a.value? "attributes").map normalPath)
        (a.value? "base-url") (a.value? "api-key") (a.has "json"))

/-- The arguments of `serve`. -/
def parseServe (args : List Text) : Except UsageError Command :=
  parseWith [{ name := "host" }, { name := "port" }] args fun a => do
    let port ← read? a "port" readLooseInteger?
    noOperands a (.serve (a.value? "host") port)

/-- The arguments of `config`. -/
def parseConfig (args : List Text) : Except UsageError Command := do
  let a ← Arguments.split [helpRule] false none args
  if a.has "help" then return .help
  else
    match a.operands with
    | [] => throw .missingCommand
    | name :: rest =>
      if name == "show" then
        parseWith [jsonRule] rest fun a => noOperands a (.configShow (a.has "json"))
      else if name == "validate" then
        parseWith [{ name := "config" }] rest fun a =>
          noOperands a (.configValidate (a.value? "config"))
      else throw .unknownCommand

/-- The commands by name. -/
def parsers : List (Text × (List Text → Except UsageError Command)) :=
  [("operators", parseOperators), ("compile", parseCompile), ("attributes", parseAttributes),
    ("test", parseTest), ("serve", parseServe), ("config", parseConfig)]

/-- The invocation that arguments spell. -/
def parse (args : List Text) : Except UsageError Invocation := do
  let a ← Arguments.split globalRules false none args
  if a.has "help" then return { command := .help }
  else
    match a.operands with
    | [] => throw .missingCommand
    | name :: rest =>
      match parsers.lookup name with
      | none => throw .unknownCommand
      | some parser => return { config := a.value? "config", command := ← parser rest }

/-- The files that a command reads, apart from the settings. -/
def files : Command → List Text
  | .compile file known _ _ => file :: known.toList
  | .test file known _ _ _ => file.toList ++ known.toList
  | _ => []

/-- The settings files that an invocation names. -/
def settingsFiles (invocation : Invocation) : List Text :=
  let own := match invocation.command with
    | .configValidate path => path.toList
    | _ => []
  own ++ invocation.config.toList

end Command

end ProfileFilter

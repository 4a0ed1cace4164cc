import ProfileFilter.Settings.Basic
import ProfileFilter.Settings.Reference

/-!
# Loading settings

Settings come from a document, the first that is found in a fixed list of places or the one
asked for. References to the environment are replaced in it; then variables with a fixed
prefix override single settings.
-/

namespace ProfileFilter

/-- What the reader of documents stops with although a document is written well. -/
inductive ReaderError where
  /-- a value that there is not, such as the thirtieth of February, with what is said about it -/
  | value (message : Text)
  /-- anything else, such as a word that is marked as a truth value, with its name -/
  | other (name : Text)
deriving DecidableEq, Repr

/-- What is found in a place. -/
inductive FileState where
  /-- nothing -/
  | missing
  /-- nothing, since a part of the path is a file -/
  | blocked
  /-- a directory -/
  | directory
  /-- a file that may not be read -/
  | denied
  /-- a file that is not UTF-8, with what is said about it -/
  | undecodable (message : Text)
  /-- a file that is no document, with what is wrong -/
  | malformed (reason : Text)
  /-- a file that the reader of documents stops at for another reason -/
  | refused (why : ReaderError)
  /-- a document; an empty file is null -/
  | document (v : Value)
deriving BEq, Repr

/-- A place where a file may be. -/
inductive Place where
  /-- a path from the working directory -/
  | working (path : Text)
  /-- a path from the home directory of the user -/
  | home (path : Text)
deriving DecidableEq, Repr

/-- The files: what is found in a place. -/
abbrev Files := Place → FileState

namespace FileState

/-- Is there something? -/
def isThere : FileState → Bool
  | .missing | .blocked => false
  | _ => true

end FileState

namespace Settings

/-- The places where settings are looked for, the first one first. -/
def searchPlaces : List Place :=
  [.working "people-filter.yaml", .working "people-filter.yml",
    .home ".people-filter/config.yaml", .home ".people-filter/config.yml"]

/-- The sections and their fields. -/
def sections : List (Text × List Text) :=
  [("connection", ["base_url", "api_key", "timeout_seconds", "page_limit"]),
    ("server", ["host", "port", "log_level"])]

/-- The variable that overrides a field. -/
def variableName (section_ field : Text) : Text :=
  "PEOPLEFILTER_" ++ section_.upper ++ "_" ++ field.upper

/-- The overrides of the fields of a section. -/
def overridesOf (environment : Environment) (section_ : Text) (fields : List Text) :
    List (Text × Text) :=
  fields.filterMap fun field =>
    (environment.lookup (variableName section_ field)).map fun value => (field, value)

/-- The sections that have overrides. -/
def overrides (environment : Environment) : List (Text × List (Text × Text)) :=
  let found := sections.map fun (section_, fields) =>
    (section_, overridesOf environment section_ fields)
  found.filter fun entry => !entry.2.isEmpty

/-- Overrides a section: what is no mapping is replaced as a whole. -/
def overrideSection (entries : Entries) (section_ : Text) (values : List (Text × Text)) : Entries :=
  let current := match Value.get section_ entries with
    | .mapping fields => fields
    | _ => []
  let fields := values.foldl (fun fields value => Value.insert value.1 (.text value.2) fields) current
  Value.insert section_ (.mapping fields) entries

/-- Why there are no settings. -/
inductive LoadFailure where
  /-- the document asked for is not there -/
  | missing (path : Text)
  /-- the document is a directory -/
  | directory
  /-- the document may not be read -/
  | denied
  /-- the document is not UTF-8 -/
  | undecodable (message : Text)
  /-- the document is malformed -/
  | malformed (reason : Text)
  /-- the reader of documents stopped for another reason -/
  | refused (why : ReaderError)
  /-- there are overrides, but the document has no sections to override -/
  | noSections
  /-- the settings have issues -/
  | invalid (issues : List Issue)
deriving BEq, Repr

/-- The settings that a document and the environment make. -/
def ofDocument (environment : Environment) (document : Value) : Except LoadFailure Settings :=
  let data := if document.isTruthy then Reference.expand environment document else .mapping []
  let checked (v : Value) : Except LoadFailure Settings :=
    match Check.settings v with
    | .valid settings => .ok settings
    | .invalid issues => .error (.invalid issues)
  match overrides environment, data with
  | [], _ => checked data
  | found, .mapping entries =>
    checked (.mapping (found.foldl (fun entries o => overrideSection entries o.1 o.2) entries))
  | _, _ => .error .noSections

/-- The settings in a file. -/
def ofFile (environment : Environment) : FileState → Except LoadFailure Settings
  | .document v => ofDocument environment v
  | .malformed reason => .error (.malformed reason)
  | .undecodable message => .error (.undecodable message)
  | .refused why => .error (.refused why)
  | .directory => .error .directory
  | .denied => .error .denied
  | .missing | .blocked => ofDocument environment .null

/-- Loads the settings from the given path, or from the first place where there are some. -/
def load (files : Files) (environment : Environment) (path : Text) : Except LoadFailure Settings :=
  if path.isEmpty then
    match searchPlaces.find? fun place => (files place).isThere with
    | some found => ofFile environment (files found)
    | none => ofDocument environment .null
  else if (files (.working path)).isThere then ofFile environment (files (.working path))
  else .error (.missing path)

end Settings

end ProfileFilter

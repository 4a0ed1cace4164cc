import ProfileFilter.Condition.Basic
import ProfileFilter.Fault.Report
import ProfileFilter.Settings.Load
import ProfileFilter.Validate.Model

/-!
# Filter and attribute files

Commands read filter sets and attributes from documents. A file that cannot be used is a
fault to report; one that is not UTF-8, or that the reader of documents stops at although it
is written well, is not even that.
-/

namespace ProfileFilter

/-- Why a file yields nothing. -/
inductive FileFailure where
  /-- the file is not UTF-8 -/
  | undecodable
  /-- the reader of documents stopped -/
  | refused (why : ReaderError)
  /-- a fault to report -/
  | report (r : Report)
deriving Repr

namespace FileFailure

/-- The report of a file that cannot be used. -/
def unreadable (path reason : Text) (details : Entries := []) : FileFailure :=
  .report (.ofFault .unreadableFile [(.text "path", .text path), (.text "reason", .text reason)]
    details)

/-- The failure of a document with issues. -/
def issues (path : Text) (count : Nat) (details : Entries := []) : FileFailure :=
  unreadable path (Text.ofNat count ++ " validation error(s)") details

end FileFailure

/-- The document in a file. -/
def readDocument (files : Files) (path : Text) : Except FileFailure Value :=
  match files (.working path) with
  | .document v => .ok v
  | .undecodable _ => .error .undecodable
  | .refused why => .error (.refused why)
  | .missing => .error (.unreadable path "No such file or directory")
  | .blocked => .error (.unreadable path "Not a directory")
  | .directory => .error (.unreadable path "Is a directory")
  | .denied => .error (.unreadable path "Permission denied")
  | .malformed reason => .error (.unreadable path ("invalid YAML/JSON (" ++ reason ++ ")"))

/-- The filter set in a document; no document is an empty one. -/
def filterSetOf (path : Text) (document : Value) : Except FileFailure FilterSet :=
  match document with
  | .null => .ok {}
  | .mapping entries =>
    match Check.filterSet .document (.mapping entries) with
    | .valid filter => .ok filter
    | .invalid issues =>
      .error (.issues path issues.length
        [(.text "errors", .list (issues.map fun i => .text (Text.ofString i.problem.message)))])
  | _ => .error (.unreadable path "expected a mapping with 'conditions' and 'logic'")

/-- The filter set in a file. -/
def loadFilter (files : Files) (path : Text) : Except FileFailure FilterSet := do
  filterSetOf path (← readDocument files path)

/-- The attributes that a list describes; the first with issues stops it. -/
def checkAttributes (path : Text) : List Value → Except FileFailure (List Attribute)
  | [] => .ok []
  | item :: rest =>
    match Check.profileAttribute .document item with
    | .valid a => (checkAttributes path rest).map (a :: ·)
    | .invalid issues => .error (.issues path issues.length)

/-- The attributes in a document: a list, or a mapping that holds one. -/
def attributesOf (path : Text) (document : Value) : Except FileFailure (List Attribute) :=
  let found := match document with
    | .mapping entries => Value.get "attributes" entries
    | v => v
  match found with
  | .list items => checkAttributes path items
  | _ => .error (.unreadable path "expected a list of attributes")

/-- The attributes in a file. -/
def loadAttributes (files : Files) (path : Text) : Except FileFailure (List Attribute) := do
  attributesOf path (← readDocument files path)

end ProfileFilter

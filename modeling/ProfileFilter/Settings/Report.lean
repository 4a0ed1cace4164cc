import ProfileFilter.Text.Utf8
import ProfileFilter.Validate.Issue
import ProfileFilter.Value.Shown

/-!
# Reports of issues

The issues of settings as a text: how many there are, and for each where it lies, what is wrong,
and what was given. A long value is cut in the middle. Links to further reading are left out.
-/

namespace ProfileFilter

/-- The front of a text that takes no more than the given number of bytes. -/
def Utf8.takeBytes : Nat → Text → Text
  | _, [] => []
  | n, c :: rest =>
    let width := (encodeCodePoint c).length
    if width ≤ n then c :: takeBytes (n - width) rest else []

/-- The text, its middle left out if it takes more than fifty bytes. -/
def Utf8.abridged (t : Text) : Text :=
  if (t.flatMap encodeCodePoint).length ≤ 50 then t
  else takeBytes 25 t ++ "..." ++ (takeBytes 24 t.reverse).reverse

/-- The name of the kind of a value. -/
def Value.kindName : Value → String
  | .null => "NoneType"
  | .bool _ => "bool"
  | .int _ => "int"
  | .float _ => "float"
  | .text _ => "str"
  | .date _ => "date"
  | .dateTime _ => "datetime"
  | .list _ => "list"
  | .tuple _ => "tuple"
  | .mapping _ => "dict"

/-- A step of a path as text. -/
def Step.shown : Step → Text
  | .key k => k
  | .index n => Text.ofInt n

namespace Issue

/-- The line that says where an issue lies; none for the document as a whole. -/
def placeLines (issue : Issue) : List Text :=
  if issue.path.isEmpty then [] else [Text.join "." (issue.path.map Step.shown)]

/-- The line that says what is wrong and what was given. -/
def problemLine (issue : Issue) : Text :=
  "  " ++ Text.ofString issue.problem.message ++ " [type=" ++ Text.ofString issue.problem.code ++
    ", input_value=" ++ Utf8.abridged issue.input.literal ++
    ", input_type=" ++ Text.ofString issue.input.kindName ++ "]"

end Issue

/-- The report of the issues of settings. -/
def Settings.report (issues : List Issue) : Text :=
  let title : Text := if issues.length = 1 then " validation error" else " validation errors"
  Text.join "\n" ((Text.ofNat issues.length ++ title ++ " for FilterBuilderConfig") ::
    issues.flatMap fun issue => issue.placeLines ++ [issue.problemLine])

end ProfileFilter

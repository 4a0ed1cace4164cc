import ProfileFilter.Value.Basic
import ProfileFilter.Text.Quoted
import ProfileFilter.Text.Digit

/-!
# How values are shown

`Value.shown` is the text of a value in explanations and messages: a text as it is,
everything else in a notation of its own. Inside a list or a mapping texts are quoted
and dates spelled out as constructions (`Value.literal`), so that the pieces can be told
apart.
-/

namespace ProfileFilter

namespace Date

/-- The day as year, month and day joined by hyphens. -/
def shown (d : Date) : Text :=
  Text.padded 4 d.year ++ "-" ++ Text.padded 2 d.month ++ "-" ++ Text.padded 2 d.day

/-- The day as a construction. -/
def literal (d : Date) : Text :=
  "datetime.date(" ++ Text.ofNat d.year ++ ", " ++ Text.ofNat d.month ++ ", " ++
    Text.ofNat d.day ++ ")"

end Date

namespace DateTime

/-- The day and the time of day separated by `sep`; microseconds only when there are any. -/
def shownWith (sep : Text) (d : DateTime) : Text :=
  let fraction : Text := if d.microsecond == 0 then "" else "." ++ Text.padded 6 d.microsecond
  d.date.shown ++ sep ++ Text.padded 2 d.hour ++ ":" ++ Text.padded 2 d.minute ++ ":" ++
    Text.padded 2 d.second ++ fraction

/-- The day and the time of day. -/
def shown (d : DateTime) : Text := d.shownWith " "

/-- The day and the time as a construction; trailing parts that are zero are left out. -/
def literal (d : DateTime) : Text :=
  let micro := if d.microsecond == 0 then [] else [d.microsecond]
  let second := if d.second == 0 && micro.isEmpty then [] else [d.second]
  let parts := [d.date.year, d.date.month, d.date.day, d.hour, d.minute] ++ second ++ micro
  "datetime.datetime(" ++ Text.join ", " (parts.map Text.ofNat) ++ ")"

end DateTime

namespace Value

/-- A sequence between parentheses; a comma marks a sequence of one. -/
def parenthesized : List Text → Text
  | [item] => "(" ++ item ++ ",)"
  | items => "(" ++ Text.join ", " items ++ ")"

mutual

/-- The value as it is shown inside a list or a mapping. -/
def literal : Value → Text
  | .null => "None"
  | .bool b => if b then "True" else "False"
  | .int n => Text.ofInt n
  | .float x => x.shown
  | .text t => t.quoted
  | .date d => d.literal
  | .dateTime d => d.literal
  | .list items => "[" ++ Text.join ", " (literals items) ++ "]"
  | .tuple items => parenthesized (literals items)
  | .mapping entries => "\x7b" ++ Text.join ", " (entryLiterals entries) ++ "\x7d"

/-- The literals of several values. -/
def literals : List Value → List Text
  | [] => []
  | v :: rest => literal v :: literals rest

/-- The literals of several entries, key and value separated by a colon. -/
def entryLiterals : List (Value × Value) → List Text
  | [] => []
  | (k, v) :: rest => (literal k ++ ": " ++ literal v) :: entryLiterals rest

end

/-- The value as it is shown on its own. -/
def shown : Value → Text
  | .text t => t
  | .date d => d.shown
  | .dateTime d => d.shown
  | v => v.literal

/-- Does an integer have few enough digits to be written as text? -/
def isWritableInt (n : Int) : Bool := (Text.ofNat n.natAbs).length ≤ maxIntegerDigits

mutual

/-- Can the value be shown? It can unless an integer in it has too many digits. -/
def isShowable : Value → Bool
  | .int n => isWritableInt n
  | .list items | .tuple items => areItemsShowable items
  | .mapping entries => areEntriesShowable entries
  | _ => true

/-- Can all items be shown? -/
def areItemsShowable : List Value → Bool
  | [] => true
  | v :: rest => isShowable v && areItemsShowable rest

/-- Can all entries be shown, keys and values? -/
def areEntriesShowable : List (Value × Value) → Bool
  | [] => true
  | (k, v) :: rest => isShowable k && isShowable v && areEntriesShowable rest

end

end Value

end ProfileFilter

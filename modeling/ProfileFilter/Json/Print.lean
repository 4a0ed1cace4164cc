import ProfileFilter.Value.Shown

/-!
# Printing JSON

Two printers over document values. `Json.compact` writes no blanks at all; it is the form
filters are sent in, and in its strict mode it refuses the numbers JSON has no token for.
`Json.indented` writes two blanks per level for people to read.

Both write non-ASCII text literally. Keys that are numbers, truth values or null become
texts; dates become texts wherever a value may stand, but cannot be keys.
-/

namespace ProfileFilter

namespace Json

/-- Why a value has no JSON text. -/
inductive Unprintable where
  /-- a number that is not finite, or an integer with too many digits -/
  | number
  /-- a mapping key that is not a text, a number, a truth value or null -/
  | key
deriving DecidableEq, Repr

/-- What to do with the numbers that JSON has no token for. -/
inductive NumberRule where
  /-- refuse them -/
  | strict
  /-- write `NaN`, `Infinity` or `-Infinity` -/
  | lenient
deriving DecidableEq, Repr

/-- One code point inside a JSON string. -/
def escape (c : CodePoint) : Text :=
  if c == 0x22 then "\\\""
  else if c == 0x5C then "\\\\"
  else if c == 0x0A then "\\n"
  else if c == 0x0D then "\\r"
  else if c == 0x09 then "\\t"
  else if c == 0x08 then "\\b"
  else if c == 0x0C then "\\f"
  else if c.val < 0x20 then "\\u" ++ Text.hexPadded 4 c.val
  else [c]

/-- A text as a JSON string. -/
def string (t : Text) : Text := "\"" ++ t.flatMap escape ++ "\""

/-- The token of an integer. -/
def integerToken (n : Int) : Except Unprintable Text :=
  if Value.isWritableInt n then .ok (Text.ofInt n) else .error .number

/-- The token of a floating-point number. -/
def floatToken (rule : NumberRule) : Binary64 → Except Unprintable Text
  | .nan => if rule = .strict then .error .number else .ok "NaN"
  | .infinite negative =>
    if rule = .strict then .error .number
    else .ok (if negative then "-Infinity" else "Infinity")
  | x => .ok x.shown

/-- The text a mapping key becomes. -/
def keyText (rule : NumberRule) : Value → Except Unprintable Text
  | .text t => .ok t
  | .float x => floatToken rule x
  | .bool b => .ok (if b then "true" else "false")
  | .null => .ok "null"
  | .int n => integerToken n
  | _ => .error .key

/-- The token of a value that is neither a list nor a mapping. -/
def scalar (rule : NumberRule) : Value → Except Unprintable Text
  | .null => .ok "null"
  | .bool b => .ok (if b then "true" else "false")
  | .int n => integerToken n
  | .float x => floatToken rule x
  | v => .ok (string v.shown)

mutual

/-- The value without any blanks. The first problem in document order is the one reported. -/
def compactWith (rule : NumberRule) : Value → Except Unprintable Text
  | .list items | .tuple items => do
    return "[" ++ Text.join "," (← compactItems rule items) ++ "]"
  | .mapping entries => do
    return "\x7b" ++ Text.join "," (← compactEntries rule entries) ++ "\x7d"
  | v => scalar rule v

/-- The items of a list, each without blanks. -/
def compactItems (rule : NumberRule) : List Value → Except Unprintable (List Text)
  | [] => .ok []
  | v :: rest => do
    let item ← compactWith rule v
    return item :: (← compactItems rule rest)

/-- The entries of a mapping, each without blanks. -/
def compactEntries (rule : NumberRule) : List (Value × Value) → Except Unprintable (List Text)
  | [] => .ok []
  | (k, v) :: rest => do
    let key ← keyText rule k
    let value ← compactWith rule v
    return (string key ++ ":" ++ value) :: (← compactEntries rule rest)

end

/-- The value without any blanks, as strict JSON. -/
def compact (v : Value) : Except Unprintable Text := compactWith .strict v

/-- A line break and the blanks that start a line at the given depth. -/
def newline (depth : Nat) : Text := "\n" ++ List.replicate (2 * depth) (' ' : CodePoint)

/-- Items between brackets, one a line; no items, no lines. -/
def block (left right : Text) (depth : Nat) (items : List Text) : Text :=
  if items.isEmpty then left ++ right
  else left ++ newline (depth + 1) ++ Text.join ("," ++ newline (depth + 1)) items ++
    newline depth ++ right

mutual

/-- The value with one item a line, its brackets standing at the given depth. -/
def indentedAt (depth : Nat) : Value → Except Unprintable Text
  | .list items | .tuple items => do
    return block "[" "]" depth (← indentedItems (depth + 1) items)
  | .mapping entries => do
    return block "\x7b" "\x7d" depth (← indentedEntries (depth + 1) entries)
  | v => scalar .lenient v

/-- The items of a list at the given depth. -/
def indentedItems (depth : Nat) : List Value → Except Unprintable (List Text)
  | [] => .ok []
  | v :: rest => do
    let item ← indentedAt depth v
    return item :: (← indentedItems depth rest)

/-- The entries of a mapping at the given depth. -/
def indentedEntries (depth : Nat) : List (Value × Value) → Except Unprintable (List Text)
  | [] => .ok []
  | (k, v) :: rest => do
    let key ← keyText .lenient k
    let value ← indentedAt depth v
    return (string key ++ ": " ++ value) :: (← indentedEntries depth rest)

end

/-- The value laid out for reading. -/
def indented (v : Value) : Except Unprintable Text := indentedAt 0 v

end Json

end ProfileFilter

import ProfileFilter.Validate.Issue
import ProfileFilter.Value.Shown
import ProfileFilter.Number.Read

/-!
# Checking fields

Checks for the simple kinds of values. They are forgiving in fixed ways: numbers and
truth values may be written as texts, and whole floating-point numbers and truth values
may stand for integers.
-/

namespace ProfileFilter

namespace Check

/-- A text. -/
def text : Value → Validated Text
  | .text t => .valid t
  | v => .refuse .stringType v

/-- Any value at all. -/
def anything (v : Value) : Validated Value := .valid v

/-- A value that may be null. -/
def nullable {α : Type} (check : Value → Validated α) : Value → Validated (Option α)
  | .null => .valid none
  | v => some <$> check v

/-! ## Numbers in text

Texts are trimmed of Unicode spaces only, not of the information separators. -/

/-- Is this one of the blanks that may surround a number in a text? -/
def isSpace (c : CodePoint) : Bool := c.isBlank && !(0x1C ≤ c.val && c.val ≤ 0x1F)

/-- A text without the blanks around it. -/
def trimSpace (t : Text) : Text :=
  ((t.dropWhile isSpace).reverse.dropWhile isSpace).reverse

/-- Removes leading zeros and underscores between them, keeping one digit; the text must
start with a digit. -/
def dropLeadingZeros? : Text → Option Text
  | [] => none
  | c :: rest =>
    if c == '0' then
      match rest with
      | [] => some [c]
      | d :: after =>
        if d == '0' then dropLeadingZeros? rest
        else if d == '_' then
          match after.dropWhile fun (e : CodePoint) => e == '0' || e == '_' with
          | [] => some (after.getLast?.toList)
          | e :: tail =>
            if e.isAsciiDigit then some (e :: tail)
            else if e == '.' then
              let zeros := after.takeWhile fun (e : CodePoint) => e == '0' || e == '_'
              some (zeros.getLast?.getD d :: e :: tail)
            else none
        else if d.isAsciiDigit then some (d :: after)
        else if d == '.' then some (c :: d :: after)
        else none
    else if c.isAsciiDigit then some (c :: rest)
    else none

/-- Drops a decimal point that only zeros follow. -/
def dropZeroFraction (t : Text) : Text :=
  match t.cut '.' with
  | (whole, some fraction) => if fraction.all (· == '0') then whole else t
  | (_, none) => t

/-- The integer that a text spells; a problem says why there is none. -/
def integerText (t : Text) : Validated Int :=
  let (negative, body) := splitSign (trimSpace t)
  match (dropLeadingZeros? body).bind fun digits => dropUnderscores? (dropZeroFraction digits) with
  | none => .refuse .intParsing (.text t)
  | some digits =>
    if digits.isEmpty || !digits.all (·.isAsciiDigit) then .refuse .intParsing (.text t)
    else if digits.length > maxIntegerDigits then .refuse .intParsingSize (.text t)
    else .valid (signedInt negative ((readDigits 0 digits).getD 0))

/-- An integer. -/
def integer : Value → Validated Int
  | .int n => .valid n
  | .bool b => .valid (if b then 1 else 0)
  | .float x =>
    if !x.isFinite then .refuse .finiteNumber (.float x)
    else
      match x.toInt? with
      | some n => .valid n
      | none => .refuse .intFromFloat (.float x)
  | .text t => integerText t
  | v => .refuse .intType v

/-- The number that a text spells in ASCII digits. -/
def numberText? (t : Text) : Option Binary64 :=
  if t.all CodePoint.isAscii && !t.any CodePoint.isBlank then readTrimmedDecimal? t else none

/-- A floating-point number. -/
def number : Value → Validated Binary64
  | .float x => .valid x
  | .int n =>
    let x := Binary64.ofInt n
    if x.isFinite then .valid x else .refuse .floatType (.int n)
  | .bool b => .valid (Binary64.ofInt (if b then 1 else 0))
  | .text t =>
    match numberText? (trimSpace t) with
    | some x => .valid x
    | none =>
      match (dropUnderscores? t).bind fun t => numberText? (trimSpace t) with
      | some x => .valid x
      | none => .refuse .floatParsing (.text t)
  | v => .refuse .floatType v

/-! ## Truth values -/

/-- The words for false. -/
def falseWords : List Text := ["0", "off", "f", "false", "n", "no"]

/-- The words for true. -/
def trueWords : List Text := ["1", "on", "t", "true", "y", "yes"]

/-- A truth value. -/
def boolean : Value → Validated Bool
  | .bool b => .valid b
  | .int n =>
    if n == 0 then .valid false else if n == 1 then .valid true else .refuse .boolParsing (.int n)
  | .float x =>
    match x.toInt? with
    | some n =>
      if n == 0 then .valid false else if n == 1 then .valid true
      else .refuse .boolParsing (.float x)
    | none => .refuse .boolType (.float x)
  | .text t =>
    if falseWords.contains t.lower then .valid false
    else if trueWords.contains t.lower then .valid true
    else .refuse .boolParsing (.text t)
  | v => .refuse .boolType v

/-! ## Lists and mappings -/

/-- The elements of a list, each checked at its index. -/
def list {α : Type} (check : Value → Validated α) (v : Value) : Validated (List α) :=
  match v.elements? with
  | some items =>
    .collect (items.mapIdx fun n item => (check item).within (.index n))
  | none => .refuse .listType v

/-- How a mapping key appears in a path: numbers of up to 64 bits as an index, every other key
that is not a text by its literal. -/
def keyStep : Value → Step
  | .text t => .key t
  | .int n =>
    if -0x8000000000000000 ≤ n && n < 0x8000000000000000 then .index n
    else .key (Value.int n).literal
  | .bool b => .index (if b then 1 else 0)
  | k => .key k.literal

/-- The entries of a mapping with text keys, each value checked under its key. -/
def mapping {α : Type} (check : Value → Validated α) (v : Value) : Validated (List (Text × α)) :=
  match v with
  | .mapping entries =>
    .collect (entries.map fun (k, item) =>
      Prod.mk <$> ((text k).under "[key]").within (keyStep k) <*> (check item).within (keyStep k))
  | v => .refuse .dictType v

/-! ## Records -/

/-- The entry for the first of several keys that a mapping has. -/
def findField? (keys : List Text) (entries : Entries) : Option (Text × Value) :=
  keys.findSome? fun key => (Value.lookup? key entries).map fun v => (key, v)

/-- A field with a default, under any of its keys. -/
def optional {α : Type} (keys : List Text) (default : α) (check : Value → Validated α)
    (entries : Entries) : Validated α :=
  match findField? keys entries with
  | some (key, v) => (check v).under key
  | none => .valid default

/-- A field that must be there. -/
def required {α : Type} (key : Text) (check : Value → Validated α) (entries : Entries) :
    Validated α :=
  match Value.lookup? key entries with
  | some v => (check v).under key
  | none => (Validated.refuse .missing (.mapping entries)).under key

/-- A record: a mapping whose entries `check` reads; `problem` is reported for anything else. -/
def record {α : Type} (problem : Problem) (check : Entries → Validated α) : Value → Validated α
  | .mapping entries => check entries
  | v => .refuse problem v

end Check

end ProfileFilter

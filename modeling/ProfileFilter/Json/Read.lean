import ProfileFilter.Value.Basic
import ProfileFilter.Number.Read

/-!
# Reading JSON

A strict reader for JSON texts, extended by the tokens `NaN`, `Infinity` and `-Infinity`.
Escaped surrogate pairs are joined, lone surrogates kept; raw control characters in
strings are refused; of two entries with the same key the later value wins, in the
earlier place.

A failure carries the text from the point where reading stopped, so that its offset can
be told.
-/

namespace ProfileFilter

namespace Json

/-- Why a text is not a JSON value. -/
inductive Failure where
  /-- the grammar is violated where the given rest of the text begins -/
  | malformed (rest : Text)
  /-- an integer has too many digits -/
  | hugeInteger
deriving Repr

/-- Is this one of the blanks JSON allows between tokens? -/
def isSpace (c : CodePoint) : Bool := c == 0x20 || c == 0x09 || c == 0x0A || c == 0x0D

/-- Drops blanks at the front. -/
def skipSpace (t : Text) : Text := t.dropWhile isSpace

/-- The value of four hexadecimal digits. -/
def hex4? (a b c d : CodePoint) : Option Nat := do
  return (((← a.hexValue?) * 16 + (← b.hexValue?)) * 16 + (← c.hexValue?)) * 16 + (← d.hexValue?)

/-- The code point that a letter after a backslash stands for. -/
def simpleEscape? (c : CodePoint) : Option CodePoint :=
  if c == 0x22 || c == 0x5C || c == 0x2F then some c
  else if c == 'b' then some 0x08
  else if c == 'f' then some 0x0C
  else if c == 'n' then some 0x0A
  else if c == 'r' then some 0x0D
  else if c == 't' then some 0x09
  else none

/-- The code point of a surrogate pair. -/
def joinSurrogates (high low : Nat) : CodePoint :=
  Fin.ofNat _ (0x10000 + (high - 0xD800) * 0x400 + (low - 0xDC00))

/-- A piece of a string between its quotes. -/
inductive Piece where
  /-- a code point written as itself or by a letter after a backslash -/
  | point (c : CodePoint)
  /-- a sixteen-bit unit written by its number -/
  | unit (n : Nat)
deriving DecidableEq, Repr

/-- Puts a piece in front of those read so far. -/
def prepend (piece : Piece) :
    Except Failure (List Piece × Text) → Except Failure (List Piece × Text)
  | .ok (pieces, rest) => .ok (piece :: pieces, rest)
  | .error e => .error e

/-- Reads the pieces of a string up to and including its closing quote; `whole` is the text
from the opening quote on. -/
def scanPieces (whole : Text) : Text → Except Failure (List Piece × Text)
  | [] => .error (.malformed whole)
  | c :: rest =>
    if c == 0x22 then .ok ([], rest)
    else if c.val < 0x20 then .error (.malformed (c :: rest))
    else if c == 0x5C then
      match rest with
      | [] => .error (.malformed whole)
      | e :: rest' =>
        if e == 'u' then
          match rest' with
          | h1 :: h2 :: h3 :: h4 :: tail =>
            match hex4? h1 h2 h3 h4 with
            | some n =>
              if tail.isEmpty then .error (.malformed (e :: rest'))
              else prepend (.unit n) (scanPieces whole tail)
            | none => .error (.malformed (e :: rest'))
          | _ => .error (.malformed (e :: rest'))
        else
          match simpleEscape? e with
          | some s => prepend (.point s) (scanPieces whole rest')
          | none => .error (.malformed (c :: e :: rest'))
    else prepend (.point c) (scanPieces whole rest)

/-- The text that pieces spell: units that form a surrogate pair are joined. -/
def spell : List Piece → Text
  | [] => []
  | .point c :: rest => c :: spell rest
  | .unit n :: .unit m :: rest =>
    if 0xD800 ≤ n && n ≤ 0xDBFF && 0xDC00 ≤ m && m ≤ 0xDFFF then joinSurrogates n m :: spell rest
    else Fin.ofNat _ n :: spell (.unit m :: rest)
  | .unit n :: rest => Fin.ofNat _ n :: spell rest

/-- Reads a string after its opening quote, up to and including the closing one; `whole` is
the text from the opening quote on. -/
def scanString (whole t : Text) : Except Failure (Text × Text) :=
  (scanPieces whole t).map fun (pieces, rest) => (spell pieces, rest)

/-- The longest run of ASCII digits at the front, and the rest. -/
def spanAsciiDigits (t : Text) : Text × Text :=
  (t.takeWhile (·.isAsciiDigit), t.dropWhile (·.isAsciiDigit))

/-- The digits of the integer part of a number: a single zero, or digits that do not start
with zero. -/
def integerPart (t : Text) : Text × Text :=
  match t with
  | c :: rest => if c == '0' then ([c], rest) else spanAsciiDigits t
  | [] => ([], [])

/-- The digits of a fraction, if a point and at least one digit follow. -/
def fractionPart (t : Text) : Text × Text :=
  match t with
  | c :: rest =>
    if c == '.' then
      let (digits, after) := spanAsciiDigits rest
      if digits.isEmpty then ([], t) else (digits, after)
    else ([], t)
  | [] => ([], [])

/-- The exponent, if there is a whole one. -/
def exponentPart (t : Text) : Option Int × Text :=
  match t with
  | c :: rest =>
    if c.toLower == 'e' then
      let (negative, rest) := splitSign rest
      let (digits, after) := spanAsciiDigits rest
      match digits, readDigits 0 digits with
      | _ :: _, some n => (some (signedInt negative n), after)
      | _, _ => (none, t)
    else (none, t)
  | [] => (none, [])

/-- Reads a number after its sign; `whole` is the text from the sign on. -/
def scanNumber (negative : Bool) (whole t : Text) : Except Failure (Value × Text) :=
  let (digits, rest) := integerPart t
  if digits.isEmpty then .error (.malformed whole)
  else
    let (fraction, rest) := fractionPart rest
    let (exponent, rest) := exponentPart rest
    if fraction.isEmpty && exponent.isNone then
      if digits.length > maxIntegerDigits then .error .hugeInteger
      else .ok (.int (signedInt negative ((readDigits 0 digits).getD 0)), rest)
    else
      .ok (.float (Binary64.ofDecimal negative ((readDigits 0 (digits ++ fraction)).getD 0)
        (exponent.getD 0 - fraction.length)), rest)

/-- The words that stand for values. -/
def words : List (Text × Value) :=
  [("null", .null), ("true", .bool true), ("false", .bool false), ("NaN", .float .nan),
    ("Infinity", .float (.infinite false)), ("-Infinity", .float (.infinite true))]

/-- Reads one of the words. -/
def scanWord? (t : Text) : Option (Value × Text) :=
  words.findSome? fun (word, value) => (Text.afterHead? word t).map fun rest => (value, rest)

/-- A mapping with the given texts and values, in order; later values replace earlier ones. -/
def mappingOf (members : List (Text × Value)) : Value :=
  .mapping (members.foldl (fun entries member => Value.insert member.1 member.2 entries) [])

mutual

/-- Reads one value at the front of a text, without blanks before it. -/
def parseValue : (fuel : Nat) → Text → Except Failure (Value × Text)
  | 0, t => .error (.malformed t)
  | _ + 1, [] => .error (.malformed [])
  | fuel + 1, c :: rest =>
    if c == 0x22 then
      (scanString (c :: rest) rest).map fun (t, rest) => (.text t, rest)
    else if c == 0x7B then
      match skipSpace rest with
      | d :: after =>
        if d == 0x7D then .ok (.mapping [], after) else parseMembers fuel [] (d :: after)
      | [] => .error (.malformed [])
    else if c == 0x5B then
      match skipSpace rest with
      | d :: after => if d == 0x5D then .ok (.list [], after) else parseItems fuel [] (d :: after)
      | [] => .error (.malformed [])
    else
      match scanWord? (c :: rest) with
      | some found => .ok found
      | none =>
        if c == '-' then scanNumber true (c :: rest) rest
        else scanNumber false (c :: rest) (c :: rest)

/-- Reads the items of a list up to its closing bracket; `done` holds those read, last first. -/
def parseItems : (fuel : Nat) → List Value → Text → Except Failure (Value × Text)
  | 0, _, t => .error (.malformed t)
  | fuel + 1, done, t =>
    match parseValue fuel t with
    | .error e => .error e
    | .ok (v, rest) =>
      match skipSpace rest with
      | c :: after =>
        if c == 0x5D then .ok (.list (v :: done).reverse, after)
        else if c == ',' then parseItems fuel (v :: done) (skipSpace after)
        else .error (.malformed (c :: after))
      | [] => .error (.malformed [])

/-- Reads the members of a mapping up to its closing brace; `done` holds those read, last
first. -/
def parseMembers : (fuel : Nat) → List (Text × Value) → Text → Except Failure (Value × Text)
  | 0, _, t => .error (.malformed t)
  | _ + 1, _, [] => .error (.malformed [])
  | fuel + 1, done, c :: rest =>
    if c == 0x22 then
      match scanString (c :: rest) rest with
      | .error e => .error e
      | .ok (key, rest) =>
        match skipSpace rest with
        | [] => .error (.malformed [])
        | d :: after =>
          if d == ':' then
            match parseValue fuel (skipSpace after) with
            | .error e => .error e
            | .ok (v, rest) =>
              match skipSpace rest with
              | [] => .error (.malformed [])
              | e :: after =>
                if e == 0x7D then .ok (mappingOf ((key, v) :: done).reverse, after)
                else if e == ',' then parseMembers fuel ((key, v) :: done) (skipSpace after)
                else .error (.malformed (e :: after))
          else .error (.malformed (d :: after))
    else .error (.malformed (c :: rest))

end

/-- The value a whole text spells. -/
def parse (t : Text) : Except Failure Value :=
  match parseValue (t.length + 1) (skipSpace t) with
  | .error e => .error e
  | .ok (v, rest) =>
    match skipSpace rest with
    | [] => .ok v
    | left => .error (.malformed left)

/-- The offset in `t` at which reading stopped, for a violation of the grammar. -/
def Failure.offset? (t : Text) : Failure → Option Nat
  | .malformed rest => some (t.length - rest.length)
  | .hugeInteger => none

end Json

end ProfileFilter

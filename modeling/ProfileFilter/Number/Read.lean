import ProfileFilter.Text.Digit
import ProfileFilter.Number.Binary64

/-!
# Reading numbers from text

Two readers for user-entered numbers. Both trim blanks first and accept the decimal
digits of any script; `readInteger?` wants an optional sign and digits, `readDecimal?`
also a fraction, an exponent, or one of the words for the special numbers.
-/

namespace ProfileFilter

/-- Splits a leading sign off; `true` means minus. -/
def splitSign : Text → Bool × Text
  | [] => (false, [])
  | c :: rest =>
    if c == '-' then (true, rest)
    else if c == '+' then (false, rest)
    else (false, c :: rest)

/-- The integer with the given sign and magnitude. -/
def signedInt (negative : Bool) (n : Nat) : Int := if negative then -(n : Int) else n

/-- The base-ten integer a text spells: blanks around it, an optional sign, then one to
`maxIntegerDigits` decimal digits of any script. -/
def readInteger? (t : Text) : Option Int :=
  let (negative, digits) := splitSign t.trim
  if digits.isEmpty || digits.length > maxIntegerDigits then none
  else (readDigits 0 digits).map (signedInt negative)

/-- Removes underscores, if each stands between two other characters. -/
def dropUnderscores? : Text → Option Text
  | [] => some []
  | [c] => if c == '_' then none else some [c]
  | c :: d :: rest =>
    if c == '_' then none
    else if d == '_' then
      match rest with
      | [] => none
      | _ => (dropUnderscores? rest).map (c :: ·)
    else (dropUnderscores? (d :: rest)).map (c :: ·)

/-- The longest run of decimal digits at the start, as values, and the rest. -/
def spanDigits : Text → List Nat × Text
  | [] => ([], [])
  | c :: rest =>
    match c.decimalValue? with
    | some d =>
      let (digits, rest) := spanDigits rest
      (d :: digits, rest)
    | none => ([], c :: rest)

/-- The base-ten number with the given digits. -/
def ofDigits (digits : List Nat) : Nat := digits.foldl (fun acc d => acc * 10 + d) 0

/-- The exponent part of a decimal: nothing, or `e` with a signed integer. -/
def readExponent? : Text → Option Int
  | [] => some 0
  | c :: rest =>
    if c.toLower == 'e' then
      let (negative, rest) := splitSign rest
      match spanDigits rest with
      | ([], _) => none
      | (digits, []) => some (signedInt negative (ofDigits digits))
      | _ => none
    else none

/-- The number an unsigned decimal spells: digits with an optional fraction, of which one
side may be empty, and an optional exponent. -/
def readUnsignedDecimal? (negative : Bool) (t : Text) : Option Binary64 :=
  let (whole, rest) := spanDigits t
  let (fraction, rest) :=
    match rest with
    | c :: after => if c == '.' then spanDigits after else ([], rest)
    | [] => ([], [])
  if whole.isEmpty && fraction.isEmpty then none
  else
    (readExponent? rest).map fun exponent =>
      Binary64.ofDecimal negative (ofDigits (whole ++ fraction)) (exponent - fraction.length)

/-- The number a trimmed text spells, the words `inf`, `infinity` and `nan` included. -/
def readTrimmedDecimal? (t : Text) : Option Binary64 :=
  let (negative, body) := splitSign t
  let word := body.lower
  if word == "inf" || word == "infinity" then some (.infinite negative)
  else if word == "nan" then some .nan
  else readUnsignedDecimal? negative body

/-- The number a text spells, blanks around it allowed. -/
def readDecimal? (t : Text) : Option Binary64 := readTrimmedDecimal? t.trim

end ProfileFilter

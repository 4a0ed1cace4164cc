import ProfileFilter.Text.Basic

/-!
# Binary floating-point numbers

A `Binary64` is a number of the usual double format: not a number, an infinity, or
`± mantissa * 2 ^ exponent`. Arithmetic is exact on the dyadic values and then rounded
once, to the nearest number and on a tie to the even mantissa (`ofRatio`), so every
operation here is plain arithmetic on naturals and integers.

A number is shown by the shortest decimal that reads back as the same number
(`shortestDecimal`), in positional form while the decimal exponent is small and in
exponent form otherwise (`Binary64.shown`).
-/

namespace ProfileFilter

/-- A double-precision number. A finite one is kept in canonical form: the mantissa is
below `2 ^ 53`, the exponent is at least `-1074`, and the mantissa reaches `2 ^ 52`
unless the exponent is `-1074`. -/
inductive Binary64 where
  /-- not a number -/
  | nan
  /-- an infinity -/
  | infinite (negative : Bool)
  /-- the number `mantissa * 2 ^ exponent`, or its negative -/
  | finite (negative : Bool) (mantissa : Nat) (exponent : Int)
deriving DecidableEq, Repr, Inhabited

/-- A non-negative fraction; `den` is positive wherever one is used. -/
structure Ratio where
  /-- the numerator -/
  num : Nat
  /-- the denominator -/
  den : Nat
deriving DecidableEq, Repr

namespace Ratio

/-- The fraction times `base ^ power`, where `power` may be negative. -/
def scale (r : Ratio) (base : Nat) (power : Int) : Ratio :=
  match power with
  | .ofNat p => ⟨r.num * Nat.pow base p, r.den⟩
  | .negSucc p => ⟨r.num, r.den * Nat.pow base (p + 1)⟩

/-- The nearest natural number; halfway between two, the even one. -/
def roundHalfEven (r : Ratio) : Nat :=
  let quotient := r.num / r.den
  let twice := 2 * (r.num % r.den)
  if twice > r.den || (twice == r.den && quotient % 2 == 1) then quotient + 1 else quotient

/-- Is the fraction at least one? -/
def atLeastOne (r : Ratio) : Bool := r.den ≤ r.num

end Ratio

namespace Binary64

/-- Positive zero. -/
def zero : Binary64 := .finite false 0 (-1074)

/-- The least mantissa of a normal number, `2 ^ 52`. -/
def leastNormal : Nat := 0x10000000000000

/-- The exponent of the last mantissa bit of a number near `r`, before rounding. -/
def ulpExponent (r : Ratio) : Int :=
  let guess : Int := (Nat.log2 r.num : Int) - (Nat.log2 r.den : Int) - 52
  let exponent := if (r.scale 2 (52 - (guess + 52))).num / (r.scale 2 (52 - (guess + 52))).den
      < leastNormal then guess - 1 else guess
  max exponent (-1074)

/-- The number nearest to a fraction, with the given sign. -/
def ofRatio (negative : Bool) (r : Ratio) : Binary64 :=
  if r.num == 0 then .finite negative 0 (-1074)
  else
    let exponent := ulpExponent r
    let mantissa := (r.scale 2 (-exponent)).roundHalfEven
    let (mantissa, exponent) :=
      if mantissa == 2 * leastNormal then (leastNormal, exponent + 1) else (mantissa, exponent)
    if exponent > 971 then .infinite negative else .finite negative mantissa exponent

/-- The magnitude of `mantissa * 2 ^ exponent` as a fraction. -/
def magnitude (mantissa : Nat) (exponent : Int) : Ratio := Ratio.scale ⟨mantissa, 1⟩ 2 exponent

/-- The number nearest to `± digits * 10 ^ power`. Powers far outside the range of the
format are answered without computing them. -/
def ofDecimal (negative : Bool) (digits : Nat) (power : Int) : Binary64 :=
  let size : Int := (Nat.toDigits 10 digits).length + power
  if digits == 0 || size < -400 then .finite negative 0 (-1074)
  else if size > 400 then .infinite negative
  else ofRatio negative (Ratio.scale ⟨digits, 1⟩ 10 power)

/-- The number nearest to an integer. -/
def ofInt (n : Int) : Binary64 := ofRatio (n < 0) ⟨n.natAbs, 1⟩

/-- Is it neither an infinity nor not a number? -/
def isFinite : Binary64 → Bool
  | .finite .. => true
  | _ => false

/-- Is it a zero of either sign? -/
def isZero : Binary64 → Bool
  | .finite _ 0 _ => true
  | _ => false

/-- The integer that a finite number without a fraction is. -/
def toInt? : Binary64 → Option Int
  | .finite negative mantissa exponent =>
    let r := magnitude mantissa exponent
    if r.num % r.den == 0 then
      let n : Int := (r.num / r.den : Nat)
      some (if negative then -n else n)
    else none
  | _ => none

/-! ## Arithmetic -/

/-- The negated number. -/
def neg : Binary64 → Binary64
  | .nan => .nan
  | .infinite negative => .infinite !negative
  | .finite negative mantissa exponent => .finite (!negative) mantissa exponent

/-- The sum of two numbers, rounded once. -/
def add : Binary64 → Binary64 → Binary64
  | .nan, _ | _, .nan => .nan
  | .infinite a, .infinite b => if a == b then .infinite a else .nan
  | .infinite a, .finite .. => .infinite a
  | .finite .., .infinite b => .infinite b
  | .finite s m e, .finite s' m' e' =>
    let low := min e e'
    let signed (negative : Bool) (mantissa : Nat) (exponent : Int) : Int :=
      let n : Int := (magnitude mantissa (exponent - low)).num
      if negative then -n else n
    let total := signed s m e + signed s' m' e'
    if total == 0 then .finite (s && s') 0 (-1074)
    else ofRatio (total < 0) (magnitude total.natAbs low)

/-- The difference of two numbers, rounded once. -/
def sub (a b : Binary64) : Binary64 := add a b.neg

/-- The product of two numbers, rounded once. -/
def mul : Binary64 → Binary64 → Binary64
  | .nan, _ | _, .nan => .nan
  | .infinite a, .infinite b => .infinite (a != b)
  | .infinite a, .finite b m _ | .finite b m _, .infinite a =>
    if m == 0 then .nan else .infinite (a != b)
  | .finite s m e, .finite s' m' e' => ofRatio (s != s') (magnitude (m * m') (e + e'))

/-- The nearest integer, on a tie the even one; nothing for numbers that are not finite. -/
def round? : Binary64 → Option Int
  | .finite negative mantissa exponent =>
    let n : Int := (magnitude mantissa exponent).roundHalfEven
    some (if negative then -n else n)
  | _ => none

/-! ## Decimal form -/

/-- The position of the decimal point of a positive fraction: the `p` with
`10 ^ (p - 1) ≤ r < 10 ^ p`. -/
def pointPosition (r : Ratio) : Int :=
  let guess : Int := ((Nat.toDigits 10 r.num).length : Int) - (Nat.toDigits 10 r.den).length
  if (r.scale 10 (-guess)).atLeastOne then guess + 1 else guess

/-- The decimal with `count` significant digits that reads back as `mantissa * 2 ^ exponent`,
if there is one: of the two neighbours that qualify, the nearer. -/
def decimalOf? (mantissa : Nat) (exponent : Int) (count : Nat) : Option (Nat × Int) :=
  let r := magnitude mantissa exponent
  let power := pointPosition r - count
  let scaled := r.scale 10 (-power)
  let below := scaled.num / scaled.den
  let readsBack (digits : Nat) : Bool :=
    ofDecimal false digits power == .finite false mantissa exponent
  let nearest := scaled.roundHalfEven
  let other := if nearest == below then below + 1 else below
  if readsBack nearest then some (nearest, power)
  else if readsBack other then some (other, power)
  else none

/-- The shortest decimal `digits * 10 ^ power` that reads back as the given positive
number. Seventeen digits always suffice. -/
def shortestDecimal (mantissa : Nat) (exponent : Int) : Nat × Int :=
  ((List.range 17).findSome? fun n => decimalOf? mantissa exponent (n + 1)).getD (0, 0)

/-- A digit string without its trailing zeros. -/
def dropZeros (digits : Text) : Text := Text.dropTrailing '0' digits

/-- The digits `0.digits * 10 ^ point` in positional or exponent form. -/
def layout (digits : Text) (point : Int) : Text :=
  if point ≤ -4 || point > 16 then
    let exponent := point - 1
    let fraction : Text := if digits.length ≤ 1 then [] else "." ++ digits.drop 1
    let sign : Text := if exponent < 0 then "e-" else "e+"
    digits.take 1 ++ fraction ++ sign ++ Text.padded 2 exponent.natAbs
  else if point ≤ 0 then
    "0." ++ List.replicate point.natAbs ('0' : CodePoint) ++ digits
  else
    let whole := point.toNat
    if digits.length ≤ whole then
      digits ++ List.replicate (whole - digits.length) ('0' : CodePoint) ++ ".0"
    else digits.take whole ++ "." ++ digits.drop whole

/-- A number as it is shown: `nan`, `inf`, `-0.0`, `1.5`, `1e+16`. -/
def shown : Binary64 → Text
  | .nan => "nan"
  | .infinite negative => if negative then "-inf" else "inf"
  | .finite negative mantissa exponent =>
    let sign : Text := if negative then "-" else ""
    if mantissa == 0 then sign ++ "0.0"
    else
      let (digits, power) := shortestDecimal mantissa exponent
      let all := Text.ofNat digits
      sign ++ layout (dropZeros all) (all.length + power)

end Binary64

end ProfileFilter

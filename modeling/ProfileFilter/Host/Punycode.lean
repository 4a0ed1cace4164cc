import ProfileFilter.Text.Basic

/-!
# Punycode

The ASCII form of a label: its ASCII code points in order, then for every other code point,
in increasing order, how far to count on until it is to be inserted. Counts are written with
a variable base whose thresholds follow the size of the counts.
-/

namespace ProfileFilter

namespace Punycode

/-- The digit for a number below 36: letters first, then decimal digits. -/
def digit (n : Nat) : CodePoint :=
  if n < 26 then Fin.ofNat _ (0x61 + n) else Fin.ofNat _ (0x30 + (n - 26))

/-- The value of a digit. -/
def digitValue? (c : CodePoint) : Option Nat :=
  if c.isAsciiLower then some (c.val - 0x61)
  else if c.isAsciiUpper then some (c.val - 0x41)
  else if c.isAsciiDigit then some (c.val - 0x30 + 26)
  else none

/-- The threshold of the `k`-th digit. -/
def threshold (bias k : Nat) : Nat := min 26 (max 1 (36 * (k + 1) - bias))

/-- Divides a count until it is small; `k` is what the divisions add to the bias. -/
def shrink : (fuel : Nat) → (delta k : Nat) → Nat
  | 0, _, k => k
  | fuel + 1, delta, k =>
    if delta > 455 then shrink fuel (delta / 35) (k + 36) else k + 36 * delta / (delta + 38)

/-- The bias after a count; `size` is how many code points there are then. -/
def adapt (isFirst : Bool) (delta size : Nat) : Nat :=
  let delta := if isFirst then delta / 700 else delta / 2
  shrink (delta + 1) (delta + delta / size) 0

/-- A count in digits of variable base, from the `k`-th digit on. -/
def encodeCount (bias : Nat) : (fuel k n : Nat) → Text
  | 0, _, n => [digit n]
  | fuel + 1, k, n =>
    let t := threshold bias k
    if n < t then [digit n]
    else digit (t + (n - t) % (36 - t)) :: encodeCount bias fuel (k + 1) ((n - t) / (36 - t))

/-- Where encoding stands: the bias, the count since the last insertion, and how many code
points are handled. -/
structure Progress where
  /-- the bias of the next count -/
  bias : Nat
  /-- the count so far -/
  delta : Nat
  /-- how many code points are handled -/
  handled : Nat
  /-- are all of these ASCII? -/
  isFirst : Bool
  /-- the digits written, last first -/
  digits : Text

/-- Passes one code point of the label while `point` is being inserted. -/
def pass (point : Nat) (p : Progress) (c : CodePoint) : Progress :=
  if c.val < point then { p with delta := p.delta + 1 }
  else if c.val == point then
    { bias := adapt p.isFirst p.delta (p.handled + 1), delta := 0, handled := p.handled + 1
      isFirst := false
      digits := (encodeCount p.bias (p.delta + 1) 0 p.delta).reverse ++ p.digits }
  else p

/-- Inserts the code points in the given increasing order; `last` is the one before. -/
def insertPoints (label : Text) : (last : Nat) → Progress → List Nat → Progress
  | _, p, [] => p
  | last, p, point :: rest =>
    let p := { p with delta := p.delta + (point - last) * (p.handled + 1) }
    let p := label.foldl (pass point) p
    insertPoints label (point + 1) { p with delta := p.delta + 1 } rest

/-- The code points of a label outside ASCII, in increasing order, each once. -/
def extended (label : Text) : List Nat :=
  ((label.filter fun c => !c.isAscii).map Fin.val).eraseDups.mergeSort

/-- The ASCII form of a label. -/
def encode (label : Text) : Text :=
  let plain := label.filter CodePoint.isAscii
  let start : Progress := ⟨72, 0, plain.length, true, []⟩
  let digits := (insertPoints label 0x80 start (extended label)).digits.reverse
  if plain.isEmpty then digits else plain ++ "-" ++ digits

/-- Reads one count from the front, from the `k`-th digit on; `weight` is the value of that
digit's unit. -/
def decodeCount? (bias : Nat) : (k weight total : Nat) → Text → Option (Nat × Text)
  | _, _, _, [] => none
  | k, weight, total, c :: rest => do
    let value ← digitValue? c
    let total := total + value * weight
    let t := threshold bias k
    if value < t then return (total, rest)
    else decodeCount? bias (k + 1) (weight * (36 - t)) total rest

/-- Inserts code points into `done` as the counts say; `at` is where counting stands, `point`
the code point being inserted. -/
def decodeFrom? : (fuel : Nat) → (done : Text) → (point position bias : Nat) → (isFirst : Bool) →
    Text → Option Text
  | _, done, _, _, _, _, [] => some done
  | 0, _, _, _, _, _, _ :: _ => none
  | fuel + 1, done, point, position, bias, isFirst, c :: rest => do
    let (delta, rest) ← decodeCount? bias 0 1 0 (c :: rest)
    let size := done.length + 1
    let reached := position + delta
    let point := point + reached / size
    let position := reached % size
    if h : point < 0x110000 then
      decodeFrom? fuel (done.take position ++ ⟨point, h⟩ :: done.drop position) point (position + 1)
        (adapt isFirst delta size) false rest
    else none

/-- The label that an ASCII form stands for. -/
def decode? (t : Text) : Option Text :=
  match Text.cutLast '-' t with
  | (some plain, digits) => decodeFrom? digits.length plain 0x80 0 72 true digits
  | (none, digits) => decodeFrom? digits.length [] 0x80 0 72 true digits

end Punycode

end ProfileFilter

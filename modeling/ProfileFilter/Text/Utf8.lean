import ProfileFilter.Text.Basic

/-!
# UTF-8

Encoding is defined on texts without lone surrogates. Decoding comes in two forms over
one state machine: `Utf8.decodeReplacing` puts U+FFFD in place of every maximal piece of
ill-formed input, and `Utf8.decodeStrict?` refuses ill-formed input, optionally letting
encoded surrogates pass.
-/

namespace ProfileFilter

namespace Utf8

/-- The code point that stands for ill-formed input. -/
def replacement : CodePoint := 0xFFFD

/-- The bytes of one code point; surrogates follow the three-byte scheme. -/
def encodeCodePoint (c : CodePoint) : List UInt8 :=
  let n := c.val
  if n < 0x80 then [n.toUInt8]
  else if n < 0x800 then [(0xC0 + n / 0x40).toUInt8, (0x80 + n % 0x40).toUInt8]
  else if n < 0x10000 then
    [(0xE0 + n / 0x1000).toUInt8, (0x80 + n / 0x40 % 0x40).toUInt8, (0x80 + n % 0x40).toUInt8]
  else
    [(0xF0 + n / 0x40000).toUInt8, (0x80 + n / 0x1000 % 0x40).toUInt8,
      (0x80 + n / 0x40 % 0x40).toUInt8, (0x80 + n % 0x40).toUInt8]

/-- The bytes of a text; nothing when it holds a lone surrogate. -/
def encode? (t : Text) : Option (List UInt8) :=
  if t.isEncodable then some (t.flatMap encodeCodePoint) else none

/-- The bytes of a text, surrogates included. -/
def encodeLenient (t : Text) : List UInt8 := t.flatMap encodeCodePoint

/-- A sequence that has begun: how many bytes are missing, the range the next one must lie
in, and the bits collected so far. -/
structure Pending where
  /-- bytes still missing, at least one -/
  missing : Nat
  /-- least admissible next byte -/
  low : Nat
  /-- greatest admissible next byte -/
  high : Nat
  /-- the bits collected so far -/
  bits : Nat
deriving DecidableEq, Repr

/-- What a byte at the start of a sequence means. -/
inductive Lead where
  /-- a whole code point -/
  | single (c : CodePoint)
  /-- the first byte of a longer sequence -/
  | opens (p : Pending)
  /-- a byte no sequence starts with -/
  | invalid

/-- Classifies the first byte of a sequence. The bounds on the second byte exclude overlong
forms, values beyond the last code point and, unless they may pass, surrogates. -/
def lead (passSurrogates : Bool) (b : UInt8) : Lead :=
  let n := b.toNat
  if n < 0x80 then .single (Fin.ofNat _ n)
  else if n < 0xC2 then .invalid
  else if n < 0xE0 then .opens ⟨1, 0x80, 0xBF, n - 0xC0⟩
  else if n == 0xE0 then .opens ⟨2, 0xA0, 0xBF, 0⟩
  else if n == 0xED then .opens ⟨2, 0x80, if passSurrogates then 0xBF else 0x9F, 0xD⟩
  else if n < 0xF0 then .opens ⟨2, 0x80, 0xBF, n - 0xE0⟩
  else if n == 0xF0 then .opens ⟨3, 0x90, 0xBF, 0⟩
  else if n < 0xF4 then .opens ⟨3, 0x80, 0xBF, n - 0xF0⟩
  else if n == 0xF4 then .opens ⟨3, 0x80, 0x8F, 4⟩
  else .invalid

/-- Is `b` an admissible next byte? -/
def Pending.accepts (p : Pending) (b : UInt8) : Bool := p.low ≤ b.toNat && b.toNat ≤ p.high

/-- The bits after one more byte. -/
def Pending.push (p : Pending) (b : UInt8) : Nat := p.bits * 0x40 + (b.toNat - 0x80)

/-- Decodes from a state, replacing each maximal ill-formed piece by one U+FFFD. -/
def decodeReplacingFrom : Option Pending → List UInt8 → Text
  | none, [] => []
  | some _, [] => [replacement]
  | none, b :: rest =>
    match lead false b with
    | .single c => c :: decodeReplacingFrom none rest
    | .opens p => decodeReplacingFrom (some p) rest
    | .invalid => replacement :: decodeReplacingFrom none rest
  | some p, b :: rest =>
    if p.accepts b then
      if p.missing ≤ 1 then Fin.ofNat _ (p.push b) :: decodeReplacingFrom none rest
      else decodeReplacingFrom (some ⟨p.missing - 1, 0x80, 0xBF, p.push b⟩) rest
    else
      match lead false b with
      | .single c => replacement :: c :: decodeReplacingFrom none rest
      | .opens p => replacement :: decodeReplacingFrom (some p) rest
      | .invalid => replacement :: replacement :: decodeReplacingFrom none rest

/-- Decodes bytes, replacing each maximal ill-formed piece by one U+FFFD. -/
def decodeReplacing (bytes : List UInt8) : Text := decodeReplacingFrom none bytes

/-- Decodes from a state, giving up at the first ill-formed byte. -/
def decodeStrictFrom? (passSurrogates : Bool) : Option Pending → List UInt8 → Option Text
  | none, [] => some []
  | some _, [] => none
  | none, b :: rest =>
    match lead passSurrogates b with
    | .single c => (decodeStrictFrom? passSurrogates none rest).map (c :: ·)
    | .opens p => decodeStrictFrom? passSurrogates (some p) rest
    | .invalid => none
  | some p, b :: rest =>
    if p.accepts b then
      if p.missing ≤ 1 then
        (decodeStrictFrom? passSurrogates none rest).map (Fin.ofNat _ (p.push b) :: ·)
      else decodeStrictFrom? passSurrogates (some ⟨p.missing - 1, 0x80, 0xBF, p.push b⟩) rest
    else none

/-- Decodes well-formed bytes; surrogates are well-formed only if they may pass. -/
def decodeStrict? (passSurrogates : Bool) (bytes : List UInt8) : Option Text :=
  decodeStrictFrom? passSurrogates none bytes

end Utf8

end ProfileFilter

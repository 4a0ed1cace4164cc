import ProfileFilter.Text.Utf8

/-!
# Percent encoding

A text becomes its UTF-8 bytes; letters, digits and a few marks stand for themselves and
every other byte is written `%XX`. Decoding is forgiving: a `%` that no two hexadecimal
digits follow stands for itself, and bytes that are not UTF-8 become U+FFFD. Escaped bytes
and literal ASCII characters are decoded together; any other literal character ends a run.
-/

namespace ProfileFilter

namespace Percent

/-- The marks that stand for themselves. -/
def safeMarks : Text := "-_.!~*'()"

/-- Does a code point stand for itself? -/
def isSafe (c : CodePoint) : Bool :=
  c.isAsciiLetter || c.isAsciiDigit || safeMarks.contains c

/-- A byte as an escape. -/
def escapeByte (b : UInt8) : Text :=
  ['%', CodePoint.hexDigit (b.toNat / 16), CodePoint.hexDigit (b.toNat % 16)]

/-- One code point encoded. -/
def encodeCodePoint (c : CodePoint) : Text :=
  if isSafe c then [c] else (Utf8.encodeCodePoint c).flatMap escapeByte

/-- A text encoded; meant for texts without lone surrogates. -/
def encode (t : Text) : Text := t.flatMap encodeCodePoint

/-- A text encoded, or nothing when it holds a lone surrogate. -/
def encode? (t : Text) : Option Text := if t.isEncodable then some (encode t) else none

/-- The bytes of a run of ASCII characters, escapes undone. -/
def unescape : Text → List UInt8
  | [] => []
  | [a] => [a.val.toUInt8]
  | [a, b] => [a.val.toUInt8, b.val.toUInt8]
  | p :: a :: b :: rest =>
    if p == '%' then
      match a.hexValue?, b.hexValue? with
      | some high, some low => (high * 16 + low).toUInt8 :: unescape rest
      | _, _ => p.val.toUInt8 :: unescape (a :: b :: rest)
    else p.val.toUInt8 :: unescape (a :: b :: rest)

/-- Decodes a text; `run` holds the ASCII characters read since the last other one, the last
one first. -/
def decodeFrom (run : Text) : Text → Text
  | [] => Utf8.decodeReplacing (unescape run.reverse)
  | c :: rest =>
    if c.isAscii then decodeFrom (c :: run) rest
    else Utf8.decodeReplacing (unescape run.reverse) ++ c :: decodeFrom [] rest

/-- Decodes a text. -/
def decode (t : Text) : Text := decodeFrom [] t

end Percent

end ProfileFilter

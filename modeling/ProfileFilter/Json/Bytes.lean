import ProfileFilter.Json.Read
import ProfileFilter.Text.Utf8

/-!
# Reading JSON from bytes

The encoding of a JSON document is told from its first bytes: a byte order mark, or the
places of the zero bytes, since a document starts with an ASCII character. Encoded
surrogates pass.
-/

namespace ProfileFilter

namespace Json

/-- The encodings a JSON document may come in. -/
inductive Encoding where
  /-- UTF-8 -/
  | utf8
  /-- UTF-16, most significant byte first or last -/
  | utf16 (bigEndian : Bool)
  /-- UTF-32, most significant byte first or last -/
  | utf32 (bigEndian : Bool)
deriving DecidableEq, Repr

/-- The encoding of a document, and the document without its byte order mark. -/
def detectEncoding (bytes : List UInt8) : Encoding × List UInt8 :=
  match bytes with
  | 0x00 :: 0x00 :: 0xFE :: 0xFF :: rest => (.utf32 true, rest)
  | 0xFF :: 0xFE :: 0x00 :: 0x00 :: rest => (.utf32 false, rest)
  | 0xFE :: 0xFF :: rest => (.utf16 true, rest)
  | 0xFF :: 0xFE :: rest => (.utf16 false, rest)
  | 0xEF :: 0xBB :: 0xBF :: rest => (.utf8, rest)
  | a :: b :: c :: d :: _ =>
    if a == 0 then (if b != 0 then .utf16 true else .utf32 true, bytes)
    else if b == 0 then (if c != 0 || d != 0 then .utf16 false else .utf32 false, bytes)
    else (.utf8, bytes)
  | [a, b] => (if a == 0 then .utf16 true else if b == 0 then .utf16 false else .utf8, bytes)
  | _ => (.utf8, bytes)

/-- The 16-bit units of a document with an even number of bytes. -/
def units16? (bigEndian : Bool) : List UInt8 → Option (List Nat)
  | [] => some []
  | a :: b :: rest =>
    let unit := if bigEndian then a.toNat * 256 + b.toNat else b.toNat * 256 + a.toNat
    (units16? bigEndian rest).map (unit :: ·)
  | [_] => none

/-- Joins surrogate pairs; lone surrogates stay. -/
def joinUnits : List Nat → Text
  | [] => []
  | [n] => [Fin.ofNat _ n]
  | n :: m :: rest =>
    if 0xD800 ≤ n && n ≤ 0xDBFF && 0xDC00 ≤ m && m ≤ 0xDFFF then
      joinSurrogates n m :: joinUnits rest
    else Fin.ofNat _ n :: joinUnits (m :: rest)

/-- The code points of a document in units of four bytes. -/
def units32? (bigEndian : Bool) : List UInt8 → Option Text
  | [] => some []
  | a :: b :: c :: d :: rest =>
    let (a, b, c, d) := if bigEndian then (a, b, c, d) else (d, c, b, a)
    let n := ((a.toNat * 256 + b.toNat) * 256 + c.toNat) * 256 + d.toNat
    if n < 0x110000 then (units32? bigEndian rest).map (Fin.ofNat _ n :: ·) else none
  | _ => none

/-- The text of a document, when its bytes are well-formed. -/
def decode? (bytes : List UInt8) : Option Text :=
  match detectEncoding bytes with
  | (.utf8, rest) => Utf8.decodeStrict? true rest
  | (.utf16 bigEndian, rest) => (units16? bigEndian rest).map joinUnits
  | (.utf32 bigEndian, rest) => units32? bigEndian rest

/-- The value a document spells, if its bytes decode and its text parses. -/
def parseBytes? (bytes : List UInt8) : Option Value :=
  (decode? bytes).bind fun t => (parse t).toOption

end Json

end ProfileFilter

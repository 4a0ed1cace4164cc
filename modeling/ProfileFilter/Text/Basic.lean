/-!
# Text as code points

Filter text, field names and values come from documents and answers that may hold
a *lone surrogate*: a code point that no UTF-8 text contains. `Text` is therefore a
list of code points, surrogates included, and whether a text can be encoded at all
is a question one can ask (`Text.isEncodable`) instead of an invariant of the type.

Literals are written as strings and characters; both coerce.
-/

namespace ProfileFilter

/-- There are code points at all, so a number can be taken for one. -/
instance codePoint_count_neZero : @NeZero Nat Zero.ofOfNat0 0x110000 :=
  ⟨Nat.succ_ne_zero 0x10FFFF⟩

/-- A code point: any number below `0x110000`, surrogates included. -/
abbrev CodePoint := Fin 0x110000

/-- A text: its code points in order. -/
abbrev Text := List CodePoint

namespace CodePoint

/-- The code point of a character. -/
def ofChar (c : Char) : CodePoint := Fin.ofNat _ c.toNat

instance : Coe Char CodePoint := ⟨ofChar⟩

/-- Is this half of a surrogate pair, which no encoded text may contain? -/
def isSurrogate (c : CodePoint) : Bool := 0xD800 ≤ c.val && c.val ≤ 0xDFFF

/-- Is this one of the first 128 code points? -/
def isAscii (c : CodePoint) : Bool := c.val < 128

/-- Does trimming remove this code point? Every Unicode space and line break counts,
and so do the information separators U+001C to U+001F; zero-width characters do not. -/
def isBlank (c : CodePoint) : Bool :=
  (0x09 ≤ c.val && c.val ≤ 0x0D) || (0x1C ≤ c.val && c.val ≤ 0x20) || c.val == 0x85 ||
  c.val == 0xA0 || c.val == 0x1680 || (0x2000 ≤ c.val && c.val ≤ 0x200A) ||
  c.val == 0x2028 || c.val == 0x2029 || c.val == 0x202F || c.val == 0x205F || c.val == 0x3000

/-- Is this an ASCII digit? -/
def isAsciiDigit (c : CodePoint) : Bool := 0x30 ≤ c.val && c.val ≤ 0x39

/-- Is this an ASCII capital letter? -/
def isAsciiUpper (c : CodePoint) : Bool := 0x41 ≤ c.val && c.val ≤ 0x5A

/-- Is this an ASCII small letter? -/
def isAsciiLower (c : CodePoint) : Bool := 0x61 ≤ c.val && c.val ≤ 0x7A

/-- Is this an ASCII letter? -/
def isAsciiLetter (c : CodePoint) : Bool := c.isAsciiUpper || c.isAsciiLower

/-- The small form of an ASCII capital letter; every other code point is unchanged. No
word this library recognizes is spelled with a letter outside ASCII, so this is all the
case folding that word recognition needs. -/
def toLower (c : CodePoint) : CodePoint :=
  if c.isAsciiUpper then Fin.ofNat _ (c.val + 32) else c

/-- The capital form of a code point, as far as it can end up in ASCII: small letters,
and the dotless i and the long s, whose capitals are plain letters. -/
def toUpper (c : CodePoint) : CodePoint :=
  if c.isAsciiLower then Fin.ofNat _ (c.val - 32)
  else if c.val == 0x131 then 'I'
  else if c.val == 0x17F then 'S'
  else c

/-- The hexadecimal digit for a number below 16, in capitals. -/
def hexDigit (n : Nat) : CodePoint :=
  if n < 10 then Fin.ofNat _ (0x30 + n) else Fin.ofNat _ (0x41 + (n - 10))

/-- The hexadecimal digit for a number below 16, in small letters. -/
def hexDigitLower (n : Nat) : CodePoint :=
  if n < 10 then Fin.ofNat _ (0x30 + n) else Fin.ofNat _ (0x61 + (n - 10))

/-- The value of a hexadecimal digit of either case. -/
def hexValue? (c : CodePoint) : Option Nat :=
  if c.isAsciiDigit then some (c.val - 0x30)
  else if 0x41 ≤ c.val && c.val ≤ 0x46 then some (c.val - 0x37)
  else if 0x61 ≤ c.val && c.val ≤ 0x66 then some (c.val - 0x57)
  else none

end CodePoint

namespace Text

/-- The code points of a string. -/
def ofString (s : String) : Text := s.toList.map CodePoint.ofChar

instance : Coe String Text := ⟨ofString⟩

/-- A text without lone surrogates: exactly the texts that UTF-8 can carry. -/
def isEncodable (t : Text) : Bool := t.all fun c => !c.isSurrogate

/-- The decimal digits of a natural number. -/
def ofNat (n : Nat) : Text := (Nat.toDigits 10 n).map CodePoint.ofChar

/-- The decimal digits of an integer, with a minus sign when it is negative. -/
def ofInt : Int → Text
  | .ofNat n => ofNat n
  | .negSucc n => '-' :: ofNat (n + 1)

/-- Drops blanks at both ends. -/
def trim (t : Text) : Text :=
  ((t.dropWhile CodePoint.isBlank).reverse.dropWhile CodePoint.isBlank).reverse

/-- Drops blanks at the end. -/
def trimEnd (t : Text) : Text := (t.reverse.dropWhile CodePoint.isBlank).reverse

/-- Drops every copy of `c` at the end. -/
def dropTrailing (c : CodePoint) (t : Text) : Text :=
  (t.reverse.dropWhile (· == c)).reverse

/-- Folds ASCII capitals to small letters. -/
def lower (t : Text) : Text := t.map CodePoint.toLower

/-- Raises small letters to capitals. -/
def upper (t : Text) : Text := t.map CodePoint.toUpper

/-- The pieces between the copies of `sep`; there is always at least one piece. -/
def splitOn (sep : CodePoint) : Text → List Text
  | [] => [[]]
  | c :: rest =>
    if c == sep then [] :: splitOn sep rest
    else
      match splitOn sep rest with
      | [] => [[c]]
      | piece :: pieces => (c :: piece) :: pieces

/-- The texts in order, with `sep` between neighbours. -/
def join (sep : Text) : List Text → Text
  | [] => []
  | [t] => t
  | t :: u :: rest => t ++ sep ++ join sep (u :: rest)

/-- Replaces every copy of the code point `old` by the text `new`. -/
def replace (t : Text) (old : CodePoint) (new : Text) : Text :=
  t.flatMap fun c => if c == old then new else [c]

/-- Does the text start with `head`? -/
def startsWith (head t : Text) : Bool := head.isPrefixOf t

/-- Does the text end with `tail`? -/
def endsWith (tail t : Text) : Bool := tail.isSuffixOf t

/-- What follows `head`, when the text starts with it. -/
def afterHead? (head t : Text) : Option Text :=
  match head, t with
  | [], t => some t
  | _ :: _, [] => none
  | h :: head, c :: t => if h == c then afterHead? head t else none

/-- Does `needle` occur somewhere in the text? -/
def hasInfix (needle : Text) : Text → Bool
  | [] => needle.isEmpty
  | c :: t => startsWith needle (c :: t) || hasInfix needle t

/-- Splits at the first copy of `sep`: what is before it, and what is after it if it occurs. -/
def cut (sep : CodePoint) : Text → Text × Option Text
  | [] => ([], none)
  | c :: t =>
    if c == sep then ([], some t)
    else
      let (before, after) := cut sep t
      (c :: before, after)

/-- Splits at the last copy of `sep`: what is before it, if it occurs, and what is after it. -/
def cutLast (sep : CodePoint) (t : Text) : Option Text × Text :=
  let (after, before) := cut sep t.reverse
  (before.map List.reverse, after.reverse)

/-- The number as `width` or more digits, filled up with zeros on the left. -/
def padded (width n : Nat) : Text :=
  let digits := ofNat n
  List.replicate (width - digits.length) ('0' : CodePoint) ++ digits

/-- The number in `width` hexadecimal digits, in small letters. -/
def hexPadded : (width n : Nat) → Text
  | 0, _ => []
  | width + 1, n => hexPadded width (n / 16) ++ [CodePoint.hexDigitLower (n % 16)]

end Text

end ProfileFilter

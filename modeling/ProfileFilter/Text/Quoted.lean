import ProfileFilter.Text.Printable

/-!
# Quoted text

How a text is shown inside a list or a mapping: between single quotes, or between double
quotes when it holds a single quote and no double quote; quotes and backslashes escaped,
and everything that is not printable written by number.
-/

namespace ProfileFilter

namespace CodePoint

/-- One code point between quotation marks `mark`. -/
def quotedIn (mark c : CodePoint) : Text :=
  if c == mark || c == 0x5C then [0x5C, c]
  else if c == 0x09 then "\\t"
  else if c == 0x0A then "\\n"
  else if c == 0x0D then "\\r"
  else if c.isPrintable then [c]
  else if c.val < 0x100 then "\\x" ++ Text.hexPadded 2 c.val
  else if c.val < 0x10000 then "\\u" ++ Text.hexPadded 4 c.val
  else "\\U" ++ Text.hexPadded 8 c.val

end CodePoint

namespace Text

/-- The quotation mark that suits a text: double only if that saves escaping. -/
def quotationMark (t : Text) : CodePoint :=
  if t.contains 0x27 && !t.contains 0x22 then 0x22 else 0x27

/-- The quoted form of a text. -/
def quoted (t : Text) : Text :=
  let mark := t.quotationMark
  mark :: t.flatMap (CodePoint.quotedIn mark) ++ [mark]

end Text

end ProfileFilter

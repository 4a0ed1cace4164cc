import ProfileFilter.Host.Composition
import ProfileFilter.Host.Direction
import ProfileFilter.Host.Lowercase
import ProfileFilter.Host.Mark
import ProfileFilter.Host.Punycode
import ProfileFilter.Host.Script

/-!
# Labels of host names

A label, the part of a host name between two dots, is admissible when it is written in
composed form, its hyphens are in place, it starts with no mark, every code point may
stand where it stands, and its writing direction is consistent.
-/

namespace ProfileFilter

namespace Host

/-- Neither the ends nor the third and fourth places hold hyphens that they must not. -/
def hasProperHyphens (label : Text) : Bool :=
  label.head? != some '-' && label.getLast? != some '-' && (label.drop 2).take 2 != "--"

/-- Does the nearest code point that joining does not pass through lie in one of the tables? -/
def joins (tables : List (List (Nat × Nat))) (neighbours : Text) : Bool :=
  match neighbours.dropWhile fun c => c.isIn transparentRanges with
  | c :: _ => tables.any fun ranges => c.isIn ranges
  | [] => false

/-- May a code point that is admitted only in context stand between `before`, which is given
last first, and `after`? -/
def isAdmittedBetween (before after : Text) (c : CodePoint) : Bool :=
  let label := before.reverse ++ c :: after
  if c.val == 0x200C then
    before.head?.any isVirama ||
      (joins [leftJoiningRanges, dualJoiningRanges] before &&
        joins [rightJoiningRanges, dualJoiningRanges] after)
  else if c.val == 0x200D then before.head?.any isVirama
  else if c.val == 0xB7 then before.head? == some 'l' && after.head? == some 'l'
  else if c.val == 0x375 then after.head?.any fun d => d.isIn greekRanges
  else if c.val == 0x5F3 || c.val == 0x5F4 then before.head?.any fun d => d.isIn hebrewRanges
  else if c.val == 0x30FB then
    label.any fun d => d.val != 0x30FB &&
      (d.isIn hiraganaRanges || d.isIn katakanaRanges || d.isIn hanRanges)
  else if 0x660 ≤ c.val && c.val ≤ 0x669 then
    !label.any fun d => 0x6F0 ≤ d.val && d.val ≤ 0x6F9
  else if 0x6F0 ≤ c.val && c.val ≤ 0x6F9 then
    !label.any fun d => 0x660 ≤ d.val && d.val ≤ 0x669
  else false

/-- Why a label is not admissible. -/
inductive Refusal where
  /-- it does not have the form of a label -/
  | form
  /-- it holds a code point that no label holds -/
  | codePoint
  /-- it holds a code point that may not stand where it stands -/
  | context
  /-- its writing direction is not consistent -/
  | direction
deriving DecidableEq, Repr

/-- The refusal of a code point that may not stand where it stands. A joiner out of place spoils
the form; the other code points that are admitted only in context are refused for theirs. -/
def refusalOf (c : CodePoint) : Refusal :=
  if c.val == 0x200C || c.val == 0x200D then .form
  else if [0xB7, 0x375, 0x5F3, 0x5F4, 0x30FB].contains c.val ||
      (0x660 ≤ c.val && c.val ≤ 0x669) || (0x6F0 ≤ c.val && c.val ≤ 0x6F9) then .context
  else .codePoint

/-- The refusal of the first code point that may not stand where it stands; `before` holds
those passed, last first. -/
def pointsRefusal? (before : Text) : Text → Option Refusal
  | [] => none
  | c :: rest =>
    if isAdmissible c || isAdmittedBetween before rest c then pointsRefusal? (c :: before) rest
    else some (refusalOf c)

/-- The longest label or host name that is looked at. -/
def maxLabelLength : Nat := 254

/-- Why a label is not admissible, if it is not. -/
def refusal? (label : Text) : Option Refusal :=
  if label.isEmpty || label.length > maxLabelLength ||
      composed label != label || !hasProperHyphens label || label.head?.any isMark then some .form
  else
    match pointsRefusal? [] label with
    | some refusal => some refusal
    | none => if isDirected label then none else some .direction

/-- Is a label admissible? -/
def isLabel (label : Text) : Bool := (refusal? label).isNone

/-- What marks the ASCII form of a label. -/
def asciiMarker : Text := "xn--"

/-- The label behind an ASCII one: what its Punycode spells, or the label itself. -/
def behind? (label : Text) : Option Text :=
  match Text.afterHead? asciiMarker label with
  | some spelled =>
    if spelled.isEmpty || spelled.getLast? == some '-' then none else Punycode.decode? spelled
  | none => some label

/-- The ASCII form of an admissible label of at most 63 code points. -/
def asciiLabel? (label : Text) : Option Text :=
  let (isFit, form) :=
    if label.all CodePoint.isAscii then ((behind? label).any isLabel, label)
    else (isLabel label, asciiMarker ++ Punycode.encode label)
  if isFit && form.length ≤ 63 then some form else none

/-- Why a label is not admissible, judged by what is behind its ASCII form. -/
def refusalBehind? (label : Text) : Option Refusal :=
  match behind? label with
  | some label => refusal? label
  | none => some .form

/-- Is this one of the dots that separate labels? -/
def isDot (c : CodePoint) : Bool :=
  c.val == 0x2E || c.val == 0x3002 || c.val == 0xFF0E || c.val == 0xFF61

/-- The labels of a host name. -/
def labels (host : Text) : List Text :=
  Text.splitOn '.' (host.map fun c => if isDot c then '.' else c)

/-- Why the first label of a host name that is not admissible is not, if the host name begins
with the ASCII form of a label; a dot at the end may stay. -/
def nameRefusal? (host : Text) : Option Refusal :=
  if !Text.startsWith asciiMarker host then none
  else if host.length > maxLabelLength then some .form
  else
    let all := labels host
    (if all.getLast? == some [] then all.dropLast else all).findSome? refusalBehind?

/-- The ASCII form of a host name; a dot at the end may stay. -/
def ascii? (host : Text) : Option Text := do
  let all := labels (small host)
  let endsWithDot := all.getLast? == some []
  let named := if endsWithDot then all.dropLast else all
  let forms ← named.mapM asciiLabel?
  let joined := Text.join "." (if endsWithDot then forms ++ [[]] else forms)
  if named.isEmpty || joined.length > (if endsWithDot then 254 else 253) then none
  else some joined

end Host

end ProfileFilter

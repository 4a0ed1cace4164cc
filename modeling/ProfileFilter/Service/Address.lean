import ProfileFilter.Number.Read

/-!
# Numeric addresses

Host names that are numeric addresses: four decimal bytes, or hexadecimal groups between
colons of which one run may be left out.
-/

namespace ProfileFilter

namespace Address

/-- Is this a byte in decimal, without leading zeros? -/
def isByte (t : Text) : Bool :=
  !t.isEmpty && t.length ≤ 3 && t.all (·.isAsciiDigit) && !(t.length > 1 && t.head? == some '0') &&
    (readDigits 0 t).any (· ≤ 255)

/-- Is this an address of four bytes? -/
def isFourBytes (t : Text) : Bool :=
  let parts := t.splitOn '.'
  parts.length == 4 && parts.all isByte

/-- What may follow a number and one separator: the rest of the text for every way to take one
or more digits and then any code point off the front. -/
def afterNumber (t : Text) : List Text :=
  match t with
  | c :: rest =>
    if c.isAsciiDigit then rest.drop 1 :: afterNumber rest else []
  | [] => []

/-- Does a text look like numbers with a separator of any kind, `count` separators in all? -/
def looksNumeric : (count : Nat) → Text → Bool
  | 0, t => !t.isEmpty && t.all (·.isAsciiDigit)
  | count + 1, t => (afterNumber t).any (looksNumeric count)

/-- Is this a group of one to four hexadecimal digits? -/
def isGroup (t : Text) : Bool :=
  !t.isEmpty && t.length ≤ 4 && t.all fun c => c.hexValue?.isSome

/-- The groups of an address; four bytes at the end stand for two groups. -/
def groups? (t : Text) : Option (List Text) :=
  let parts := t.splitOn ':'
  if parts.length < 3 then none
  else
    match parts.getLast? with
    | some last =>
      if last.contains '.' then
        if isFourBytes last then some (parts.dropLast ++ [("0" : Text), "0"]) else none
      else some parts
    | none => none

/-- Are these the groups of an address? One empty group inside stands for the groups left out;
an end may be empty only beside it. -/
def areGroups (parts : List Text) : Bool :=
  let inner := (parts.drop 1).dropLast
  match (inner.filter List.isEmpty).length with
  | 0 => parts.length == 8 && parts.all isGroup
  | 1 =>
    let front := parts.takeWhile fun p => !p.isEmpty
    let before := if parts.head? == some [] then [] else front
    let after := parts.drop (if parts.head? == some [] then 2 else front.length + 1)
    let after := if after == [[]] then [] else after
    (parts.head? != some [] || (parts.drop 1).head? == some []) &&
      before.all isGroup && after.all isGroup && before.length + after.length ≤ 7
  | _ => false

/-- Is this an address in groups, with an optional zone after a percent sign? -/
def isGrouped (t : Text) : Bool :=
  let (address, zone) := t.cut '%'
  !t.contains '/' && (zone.all fun z => !z.isEmpty && !z.contains '%') &&
    (groups? address).any fun parts => parts.length ≤ 9 && areGroups parts

end Address

end ProfileFilter

import ProfileFilter.Text.Basic

/-!
# Markup

Text for the terminal carries styles as tags between brackets. `Markup.escape` writes any
text so that it shows as it is; `Markup.plain?` is what a terminal without styles shows.
A backslash before a tag makes it plain text, and two backslashes before a tag are one.

A terminal shows pictures for some words between colons, escaped or not. Which these are is
left out: `Markup.plain?` shows every word as it is, and `Markup.hasCode` tells a text that
may hold one for a picture. A tag that starts with an at sign is taken for a style; that a
terminal also reads what is assigned to it, when it is closed, is left out as well.
-/

namespace ProfileFilter

namespace Markup

/-- May the inside of a tag start with this code point? -/
def startsTag (c : CodePoint) : Bool := c.isAsciiLower || c == '#' || c == '/' || c == '@'

/-- The inside of the tag whose opening bracket comes just before: it goes on to the first
closing bracket and holds no opening one. -/
def tag? (t : Text) : Option Text :=
  match t with
  | [] => none
  | c :: rest =>
    let inside := rest.takeWhile fun (d : CodePoint) => d != '[' && d != ']'
    if startsTag c && (rest.drop inside.length).head? == some ']' then some (c :: inside) else none

/-- Does a text start with a word and a colon? -/
def startsCode (t : Text) : Bool :=
  let word := t.takeWhile fun (d : CodePoint) => d != ':' && !d.isBlank
  !word.isEmpty && (t.drop word.length).head? == some (':' : CodePoint)

/-- Does a word stand between colons? A terminal may show a picture in its place. -/
def hasCode : Text → Bool
  | [] => false
  | c :: rest => c == ':' && startsCode rest || hasCode rest

/-- A number of backslashes. -/
def backslashes (n : Nat) : Text := List.replicate n 0x5C

/-- Escapes tags; `pending` counts the backslashes that came just before. -/
def escapeTags : (pending : Nat) → Text → Text
  | pending, [] => backslashes pending
  | pending, c :: rest =>
    if c == 0x5C then escapeTags (pending + 1) rest
    else if c == '[' && (tag? rest).isSome then
      backslashes (2 * pending + 1) ++ c :: escapeTags 0 rest
    else backslashes pending ++ c :: escapeTags 0 rest

/-- Text written so that it shows as it is: tags are escaped, and a single backslash at the
end is doubled so that it escapes nothing that follows. -/
def escape (t : Text) : Text :=
  let escaped := escapeTags 0 t
  if Text.endsWith (backslashes 1) escaped && !Text.endsWith (backslashes 2) escaped then
    escaped ++ backslashes 1
  else escaped

/-- The name of a style in a tag, without what is assigned to it. -/
def styleName (inside : Text) : Text := (Text.cut '=' inside).1.trim.lower

/-- Closes a style: the innermost one, or the innermost of the given name. -/
def close? (name : Text) (styles : List Text) : Option (List Text) :=
  if name.isEmpty then
    match styles with
    | [] => none
    | _ :: rest => some rest
  else if styles.contains name then some (styles.erase name)
  else none

/-- The styles that are open after a tag; nothing when it closes what is not open. -/
def enter? (inside : Text) (styles : List Text) : Option (List Text) :=
  match (Text.cut '=' inside).1 with
  | c :: name => if c == '/' then close? (Text.lower (Text.trim name)) styles
    else some (styleName inside :: styles)
  | [] => some (styleName inside :: styles)

/-- Is this a control code that no terminal text keeps? -/
def isDropped (c : CodePoint) : Bool :=
  c.val == 7 || c.val == 8 || c.val == 11 || c.val == 12 || c.val == 13

/-- The plain text from a place on: `styles` are open, `pending` backslashes came just before,
and `pass` code points of a tag are still to be passed over. -/
def plainFrom? : (styles : List Text) → (pending pass : Nat) → Text → Option Text
  | _, pending, _, [] => some (backslashes pending)
  | styles, _, pass + 1, _ :: rest => plainFrom? styles 0 pass rest
  | styles, pending, 0, c :: rest =>
    if c == 0x5C then plainFrom? styles (pending + 1) 0 rest
    else if c == '[' then
      match tag? rest with
      | some inside =>
        if pending % 2 == 1 then
          (plainFrom? styles 0 0 rest).map fun t => backslashes (pending / 2) ++ c :: t
        else do
          let styles ← enter? inside styles
          let t ← plainFrom? styles 0 (inside.length + 1) rest
          return backslashes (pending / 2) ++ t
      | none =>
        (plainFrom? styles 0 0 rest).map fun t => backslashes (pending - 1) ++ c :: t
    else
      (plainFrom? styles 0 0 rest).map fun t =>
        backslashes pending ++ if isDropped c then t else c :: t

/-- Fills up with blanks to the next multiple of eight in place of each tab. -/
def expandTabs : (column : Nat) → Text → Text
  | _, [] => []
  | column, c :: rest =>
    if c.val == 9 then
      let width := 8 - column % 8
      List.replicate width (' ' : CodePoint) ++ expandTabs (column + width) rest
    else if c.val == 10 then c :: expandTabs 0 rest
    else c :: expandTabs (column + 1) rest

/-- What a terminal without styles shows; nothing when a tag closes what is not open. -/
def plain? (t : Text) : Option Text := (plainFrom? [] 0 0 t).map (expandTabs 0)

end Markup

end ProfileFilter

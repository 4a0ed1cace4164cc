import ProfileFilter.Terminal.Markup

/-!
# Displays

What a command shows to a person: lines of markup, panels, and tables; or plain text for
programs to read.
-/

namespace ProfileFilter

/-- Where the cells of a column stand. -/
inductive Justify where
  /-- at the left -/
  | left
  /-- in the middle -/
  | center
deriving DecidableEq, Repr

/-- The name of a place. -/
def Justify.name : Justify → String
  | .left => "left"
  | .center => "center"

/-- A column of a table. -/
structure Column where
  /-- the header -/
  header : Text
  /-- the style of its cells -/
  style : Text := []
  /-- where they stand -/
  justify : Justify := .left
  /-- may a cell not be broken into lines? -/
  noWrap : Bool := false
deriving DecidableEq, Repr

/-- One thing that is displayed. -/
inductive Display where
  /-- lines of markup -/
  | lines (markup : Text)
  /-- markup in a frame with a title -/
  | panel (markup title borderStyle : Text)
  /-- rows of markup under headers -/
  | table (title : Text) (columns : List Column) (rows : List (List Text))
deriving DecidableEq, Repr

/-- The output of a command: plain text, and what is displayed besides. -/
structure Output where
  /-- plain text -/
  text : Text := []
  /-- what is displayed, in order -/
  displays : List Display := []
deriving DecidableEq, Repr

namespace Display

/-- The pieces of markup in a display; titles, headers and cells are markup, too. -/
def pieces : Display → List Text
  | .lines markup => [markup]
  | .panel markup title _ => [title, markup]
  | .table title columns rows => title :: (columns.map Column.header ++ rows.flatten)

end Display

namespace Output

/-- Plain text only. -/
def ofText (t : Text) : Output := { text := t }

/-- Displays only. -/
def ofDisplays (displays : List Display) : Output := { displays }

/-- What is shown of an output: its plain text, and what is shown of each piece of markup in its
displays; nothing when one of these is no markup. -/
def shownTexts? (output : Output) : Option (List Text) :=
  ((output.displays.flatMap Display.pieces).mapM Markup.plain?).map (output.text :: ·)

end Output

namespace Display

/-- Markup as plain text; what is no markup shows as it is. -/
def plainLine (markup : Text) : Text := (Markup.plain? markup).getD markup

/-- Cells side by side, each as wide as its column. -/
def row (widths : List Nat) (cells : List Text) : Text :=
  Text.trimEnd (Text.join "  " (List.zipWith
    (fun width cell => cell ++ List.replicate (width - cell.length) (' ' : CodePoint))
    widths cells))

/-- The display on a terminal without styles. -/
def plain : Display → Text
  | .lines markup => plainLine markup
  | .panel markup title _ => title ++ "\n\n" ++ plainLine markup
  | .table title columns rows =>
    let cells := columns.map Column.header :: rows.map (List.map plainLine)
    let widths := (List.range columns.length).map fun n =>
      (cells.map fun row => (row[n]?.getD []).length).foldl max 0
    Text.join "\n" (title :: cells.map (row widths))

end Display

end ProfileFilter

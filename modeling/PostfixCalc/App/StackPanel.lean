import PostfixCalc.Calculator.Stack
import PostfixCalc.Screen.Box
import PostfixCalc.Screen.Paragraph

namespace PostfixCalc

namespace Stack

def padLeft (width : Nat) (s : Text) : Text := List.replicate (width - s.length) ' ' ++ s

/-- The row of a level, counted from 1 at the top. -/
def levelRow (labelWidth level : Nat) (v : Binary64) : Text :=
  padLeft labelWidth (Nat.toDigits 10 level) ++ Text.lit ": " ++ v.displayText

/-- One row per level, the top of the stack last. All labels have the width of the longest. -/
def rows (s : Stack) : List Text :=
  let labelWidth := (Nat.toDigits 10 s.length).length
  (s.zipIdx.map fun (v, i) => levelRow labelWidth (i + 1) v).reverse

end Stack

namespace StackPanel

def width : Nat := 26

/-- A row that is longer than its room ends in an ellipsis. -/
def abbreviate (room : Nat) (row : Text) : Text :=
  if room < row.length then row.take (room - 1) ++ ['…'] else row

def emptyContent (width height : Nat) : List Row :=
  Paragraph.plain (CellStyle.untouched.patch (.colored .darkGray)) .center width height
    [[.raw (Text.lit "empty")]]

/-- The inside of the panel. Levels for which there is no row are left out. -/
def content (s : Stack) (width height : Nat) : List Row :=
  let rows := s.rows.drop (s.rows.length - height)
  let lines := rows.map fun row => [(⟨abbreviate width row, .colored .yellow⟩ : Span)]
  List.replicate (height - rows.length) (Row.blank .untouched width) ++
    Paragraph.plain .untouched .left width rows.length lines

def title (s : Stack) : Text := Text.lit "Stack (" ++ Nat.toDigits 10 s.length ++ [')']

def rows (s : Stack) (height : Nat) : List Row :=
  let inside := if s.isEmpty then emptyContent else content s
  (Box.titled .darkGray (title s)).around width height (inside (Box.inner width) (Box.inner height))

end StackPanel

end PostfixCalc

import PostfixCalc.Editor.Line
import PostfixCalc.Screen.Box
import PostfixCalc.Screen.StyledLine

namespace PostfixCalc

namespace InputBox

/-- The rows of the box, its border among them. -/
def height : Nat := 3

/-- The clusters that have room in a box of some width. -/
def room (width : Nat) : Nat := Box.inner width - 2

/-- Where a line of `total` clusters is to start so that the cursor shows in `room` columns: as far
as needed from where it starts now, and not so far that room is wasted. -/
def scrollTo (total cursor start room : Nat) : Nat :=
  let start :=
    if cursor < start then cursor
    else if start + room ≤ cursor then cursor + 1 - max room 1
    else start
  min start (total - room)

def firstLine : Text → Text
  | [] => []
  | '\n' :: _ => []
  | '\r' :: '\n' :: _ => []
  | c :: s => c :: firstLine s

def moreSign (c : Char) : Cell := ⟨[c], CellStyle.untouched.patch (.colored .darkGray)⟩

/-- The row inside the box. Signs at its ends tell of what does not show. -/
def content (l : Line) (scroll width : Nat) : Row :=
  let inner := Box.inner width
  let text := firstLine ('>' :: ' ' :: l.visible scroll (room width))
  let row := Row.ofGlyphs .untouched inner 0 (StyledLine.cut inner [.raw text])
  let row := if 0 < scroll then row.overlay 0 [moreSign '<'] else row
  if scroll + room width < l.size then row.overlay (inner - 1) [moreSign '>'] else row

def rows (l : Line) (scroll width : Nat) : List Row :=
  (Box.titled .darkGray (Text.lit "Expression")).around width height [content l scroll width]

/-- The cursor stands behind the mark and the columns that show in front of it. Columns are counted
in sixteen bits. -/
def cursor (l : Line) (scroll : Nat) : Nat × Nat :=
  ((3 + (l.cursorWidth - l.widthBefore scroll)) % 65536, 1)

end InputBox

end PostfixCalc

import PostfixCalc.Screen.Row

namespace PostfixCalc

structure BorderSymbols where
  horizontal : Char
  vertical : Char
  topLeft : Char
  topRight : Char
  bottomLeft : Char
  bottomRight : Char
  deriving DecidableEq, Repr

namespace BorderSymbols

def single : BorderSymbols := ⟨'─', '│', '┌', '┐', '└', '┘'⟩

def double : BorderSymbols := ⟨'═', '║', '╔', '╗', '╚', '╝'⟩

end BorderSymbols

structure Box where
  symbols : BorderSymbols
  /-- The look of the area before anything is drawn. -/
  base : CellStyle
  border : Style
  title : Text
  deriving DecidableEq, Repr

namespace Box

/-- A box with a single border on an untouched area, its title set off by blanks. -/
def titled (border : Color) (title : Text) : Box :=
  ⟨.single, .untouched, .colored border, ' ' :: title ++ [' ']⟩

def inner (size : Nat) : Nat := size - 2

def edge (b : Box) (c : Char) : Cell := ⟨[c], b.base.patch b.border⟩

/-- A row between two cells of the border. Where there is room for one, it is the left one. -/
def rowBetween (b : Box) (left right : Char) : Nat → Row → Row
  | 0, _ => []
  | 1, _ => [b.edge left]
  | _, content => b.edge left :: content ++ [b.edge right]

def borderRow (b : Box) (left right : Char) (width : Nat) : Row :=
  b.rowBetween left right width (List.replicate (inner width) (b.edge b.symbols.horizontal))

/-- The cells of the title, as many as there are between the corners. -/
def titleCells (b : Box) (width : Nat) : List Cell :=
  let gs := Glyph.cut (inner width) (Span.glyphs ⟨b.title, b.border⟩)
  gs.flatMap (Glyph.cells b.base)

/-- The upper border with the title in its middle, from the left edge on if it is too long. -/
def topRow (b : Box) (width : Nat) : Row :=
  let row := b.borderRow b.symbols.topLeft b.symbols.topRight width
  row.overlay ((width - Text.width b.title) / 2) (b.titleCells width)

def bottomRow (b : Box) (width : Nat) : Row :=
  b.borderRow b.symbols.bottomLeft b.symbols.bottomRight width

/-- A box around as many rows as it has room for. -/
def around (b : Box) (width : Nat) : Nat → List Row → List Row
  | 0, _ => []
  | 1, _ => [b.topRow width]
  | _, rows =>
    b.topRow width :: rows.map (b.rowBetween b.symbols.vertical b.symbols.vertical width) ++
      [b.bottomRow width]

end Box

end PostfixCalc

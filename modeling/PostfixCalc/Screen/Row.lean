import PostfixCalc.Screen.Cell

namespace PostfixCalc

abbrev Row := List Cell

namespace Row

def blank (base : CellStyle) (width : Nat) : Row := List.replicate width (Cell.blank base)

def fill (base : CellStyle) (width : Nat) (cells : List Cell) : Row :=
  (cells ++ blank base width).take width

/-- A row of the given width with glyphs from a column on. -/
def ofGlyphs (base : CellStyle) (width indent : Nat) (gs : List Glyph) : Row :=
  fill base width (blank base indent ++ gs.flatMap (Glyph.cells base))

/-- Puts cells over those that begin at a column. -/
def overlay (row : Row) (column : Nat) (cells : List Cell) : Row :=
  row.take column ++ cells ++ row.drop (column + cells.length)

/-- The cells that show, each with the cells it covers. What a wide symbol covers does not show. -/
def shownFrom : Nat → Row → List (Nat × Cell)
  | _, [] => []
  | 0, c :: row => (c.span, c) :: shownFrom (c.span - 1) row
  | hidden + 1, _ :: row => shownFrom hidden row

def shown (row : Row) : List (Nat × Cell) := shownFrom 0 row

def text (row : Row) : Text := row.shown.flatMap (·.2.symbol)

/-- Adds some cells of one look in front of runs of equal look. -/
def consRun (n : Nat) (style : CellStyle) : List (Nat × CellStyle) → List (Nat × CellStyle)
  | [] => [(n, style)]
  | (m, s) :: runs => if s = style then (n + m, s) :: runs else (n, style) :: (m, s) :: runs

/-- The looks along a row, as runs of equal look with their lengths. -/
def runs (row : Row) : List (Nat × CellStyle) :=
  row.shown.foldr (fun (n, c) rest => consRun n c.style rest) []

end Row

/-- What one drawing puts on a screen. -/
structure Frame where
  rows : List Row
  /-- The column and the row that the cursor was put to, if it was. -/
  cursor : Option (Nat × Nat)
  deriving DecidableEq, Repr

end PostfixCalc

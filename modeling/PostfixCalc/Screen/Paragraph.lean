import PostfixCalc.Screen.Row
import PostfixCalc.Screen.StyledLine

namespace PostfixCalc

/-- Where a row of text begins in its area. -/
inductive Alignment
  | left
  | center
  deriving DecidableEq, Repr

namespace Alignment

def indent : Alignment → Nat → Nat → Nat
  | left, _, _ => 0
  | center, width, used => width / 2 - used / 2

end Alignment

namespace Paragraph

/-- As many rows as an area has, blank ones after the given ones. -/
def fillRows (base : CellStyle) (width height : Nat) (rows : List Row) : List Row :=
  (rows ++ List.replicate height (Row.blank base width)).take height

/-- Lines that are cut at the edge of their area. -/
def plain (base : CellStyle) (align : Alignment) (width height : Nat) (lines : List StyledLine) :
    List Row :=
  fillRows base width height (lines.map fun l =>
    let gs := l.cut width
    Row.ofGlyphs base width (align.indent width (Glyph.columns gs)) gs)

/-- Lines that are wrapped, from the row `scroll` on. -/
def wrapped (base : CellStyle) (align : Alignment) (width height scroll : Nat)
    (lines : List StyledLine) : List Row :=
  let rows := if width = 0 then [] else lines.flatMap (·.wrap width)
  fillRows base width height ((rows.drop scroll).map fun gs =>
    Row.ofGlyphs base width (align.indent width (Glyph.columns gs)) gs)

/-- Items of a list, one row each; the pieces of an item are cut one by one. -/
def items (base : CellStyle) (width height : Nat) (lines : List StyledLine) : List Row :=
  fillRows base width height (lines.map fun l =>
    Row.ofGlyphs base width 0 (Span.cutEach width l))

end Paragraph

end PostfixCalc

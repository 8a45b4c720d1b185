import PostfixCalc.Text.Cluster
import PostfixCalc.Text.Width
import PostfixCalc.Screen.Style

namespace PostfixCalc

structure Cell where
  symbol : Text
  style : CellStyle
  deriving DecidableEq, Repr

namespace Cell

def blank (style : CellStyle) : Cell := ⟨[' '], style⟩

/-- The number of cells that a cell covers, itself among them. -/
def span (c : Cell) : Nat := max 1 (Text.width c.symbol)

end Cell

/-- A cluster that is to be drawn. -/
structure Glyph where
  symbol : Text
  style : Style
  deriving DecidableEq, Repr

namespace Glyph

def width (g : Glyph) : Nat := Text.width g.symbol

def columns (gs : List Glyph) : Nat := gs.foldr (fun g n => g.width + n) 0

/-- The cells of a glyph on a background, one for each column. Its symbol is in the first one; a
glyph without a column has no cell. -/
def cells (base : CellStyle) (g : Glyph) : List Cell :=
  match g.width with
  | 0 => []
  | n + 1 => ⟨g.symbol, base.patch g.style⟩ :: List.replicate n (Cell.blank base)

/-- The glyphs in front of the first one that does not fit into the room that is left. -/
def cut : Nat → List Glyph → List Glyph
  | _, [] => []
  | room, g :: gs => if g.width ≤ room then g :: cut (room - g.width) gs else []

end Glyph

structure Span where
  text : Text
  style : Style
  deriving DecidableEq, Repr

namespace Span

def glyphs (s : Span) : List Glyph := (Text.clusters s.text).map fun c => ⟨c, s.style⟩

/-- A piece of text that keeps the look of the cells. -/
def raw (s : Text) : Span := ⟨s, .unstyled⟩

/-- The glyphs of several pieces in a row of limited room. Each piece is cut by itself, so that a
later one may use what an earlier one was too wide for. -/
def cutEach : Nat → List Span → List Glyph
  | _, [] => []
  | room, s :: ss =>
    let drawn := Glyph.cut room s.glyphs
    drawn ++ cutEach (room - Glyph.columns drawn) ss

end Span

end PostfixCalc

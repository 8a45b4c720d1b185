namespace PostfixCalc

inductive Color
  /-- The terminal's own color. -/
  | reset
  | black
  | red
  | green
  | yellow
  | cyan
  | darkGray
  | lightGreen
  | lightMagenta
  deriving DecidableEq, Repr

/-- What a piece of text asks for. Colors that are not named stay as they are. -/
structure Style where
  foreground : Option Color := none
  background : Option Color := none
  bold : Bool := false
  underlined : Bool := false
  deriving DecidableEq, Repr

namespace Style

def unstyled : Style := {}

def colored (c : Color) : Style := { foreground := some c }

def strong (c : Color) : Style := { foreground := some c, bold := true }

/-- A foreground color with a line under the text. -/
def marked (c : Color) : Style := { foreground := some c, underlined := true }

end Style

structure CellStyle where
  foreground : Color
  background : Color
  bold : Bool
  underlined : Bool
  deriving DecidableEq, Repr

namespace CellStyle

/-- The look of a cell that nothing was drawn on. -/
def untouched : CellStyle := ⟨.reset, .reset, false, false⟩

/-- The look after a style has been put on top. -/
def patch (base : CellStyle) (s : Style) : CellStyle where
  foreground := s.foreground.getD base.foreground
  background := s.background.getD base.background
  bold := base.bold || s.bold
  underlined := base.underlined || s.underlined

end CellStyle

end PostfixCalc

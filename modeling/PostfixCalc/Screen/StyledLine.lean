import PostfixCalc.Screen.Cell

namespace PostfixCalc

abbrev StyledLine := List Span

namespace StyledLine

def glyphs (l : StyledLine) : List Glyph := l.flatMap Span.glyphs

/-- The glyphs of a line in a row that cuts what does not fit. A glyph wider than the whole row is
passed over. -/
def cut (width : Nat) (l : StyledLine) : List Glyph :=
  Glyph.cut width (l.glyphs.filter (·.width ≤ width))

end StyledLine

/-- A line that is being wrapped. What was read last is a word that is not complete, after blanks
that belong to the line only if the word does. -/
structure Wrapping where
  rows : List (List Glyph)
  line : List Glyph
  blanks : List Glyph
  word : List Glyph
  /-- The last glyph belonged to a word. -/
  inWord : Bool
  deriving DecidableEq, Repr

namespace Wrapping

def start : Wrapping := ⟨[], [], [], [], false⟩

def isBreak (g : Glyph) : Bool := g.symbol.all Text.isBlank && g.symbol != ['\xa0']

/-- Puts blanks and word onto the line; blanks at the beginning of a line are dropped. -/
def commit (w : Wrapping) : Wrapping :=
  { w with
    line := if w.line = [] then w.word else w.line ++ w.blanks ++ w.word
    blanks := []
    word := [] }

/-- Drops the blanks that fit into the room at the end of a row, and the one after them; none are
left over if all of them fit. -/
def dropBlanks : Nat → List Glyph → Option (List Glyph)
  | _, [] => none
  | room, g :: gs => if room < g.width then some gs else dropBlanks (room - g.width) gs

/-- Adds a glyph to the word or to the blanks before the next one. -/
def add (w : Wrapping) (g : Glyph) : Wrapping :=
  if isBreak g then { w with blanks := w.blanks ++ [g], inWord := false }
  else { w with word := w.word ++ [g], inWord := true }

/-- Takes in the next glyph. A glyph wider than the whole row is passed over. -/
def step (width : Nat) (w : Wrapping) (g : Glyph) : Wrapping :=
  if width < g.width then w
  else
    let full :=
      (w.inWord && isBreak g) ||
        (w.line.isEmpty && (decide (width < Glyph.columns w.word + g.width) ||
          decide (width < Glyph.columns w.blanks + g.width)))
    let w := if full then w.commit else w
    let used := Glyph.columns w.line
    let all := used + Glyph.columns w.blanks + Glyph.columns w.word
    if width ≤ used ∨ (width ≤ all ∧ 0 < g.width) then
      let left := dropBlanks (width - used) w.blanks
      let w := { w with rows := w.rows ++ [w.line], line := [], blanks := left.getD [] }
      if isBreak g ∧ left = none then w else w.add g
    else w.add g

def finish (w : Wrapping) : List (List Glyph) :=
  let rows := if w.line = [] ∧ w.word = [] ∧ w.blanks ≠ [] then w.rows ++ [[]] else w.rows
  let line := (if w.line = [] then [] else w.line ++ w.blanks) ++ w.word
  let rows := if line = [] then rows else rows ++ [line]
  if rows = [] then [[]] else rows

end Wrapping

namespace StyledLine

def wrap (width : Nat) (l : StyledLine) : List (List Glyph) :=
  (l.glyphs.foldl (Wrapping.step width) .start).finish

end StyledLine

end PostfixCalc

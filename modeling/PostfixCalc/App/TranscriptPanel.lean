import PostfixCalc.Text.Wrap
import PostfixCalc.Screen.Box
import PostfixCalc.Screen.Paragraph
import PostfixCalc.App.State

namespace PostfixCalc

namespace Highlight

def operatorStyle : Style := .strong .yellow

def numberStyle : Style := .colored .lightGreen

def invalidStyle : Style := .marked .red

def isCommand (chunk : Text) : Bool :=
  chunk = Calculator.exitCommand ∨ chunk = Calculator.resetCommand

/-- The style of a chunk, by how the calculator reads it; commands have the one they are given. -/
def styleOf (command : Style) (chunk : Text) : Style :=
  match Token.classify chunk with
  | .number _ => numberStyle
  | .operator _ => operatorStyle
  | .invalid _ => if isCommand chunk then command else invalidStyle

/-- The chunks of an expression in their styles, with one blank between them. -/
def spans (command : Style) (expression : Text) : List Span :=
  ((Text.chunks expression).map fun c => (⟨c, styleOf command c⟩ : Span)).intersperse (.raw [' '])

end Highlight

namespace TranscriptPanel

/-- The columns that lines are wrapped to in a panel of some width. -/
def room (width : Nat) : Nat := Box.inner width - 4

def replyStyle (x : Exchange) : Style :=
  if x.failed then .strong .red
  else if x.reply.halts then .colored .green
  else .strong .lightMagenta

/-- The rows of a submitted line, a mark in front of the first. -/
def inputItems (x : Exchange) (room : Nat) : List StyledLine :=
  (Text.wrap x.input room).mapIdx fun i l =>
    ⟨if i = 0 then ['>', ' '] else [' ', ' '], .colored .green⟩ :: Highlight.spans (.colored .cyan) l

def replyItems (x : Exchange) (room : Nat) : List StyledLine :=
  x.reply.lines.flatMap fun l =>
    (Text.wrap l room).map fun piece => [⟨' ' :: ' ' :: piece, replyStyle x⟩]

def items (banner : List Text) (transcript : List Exchange) (room : Nat) : List StyledLine :=
  banner.map (fun l => [⟨l, .colored .green⟩]) ++
    transcript.flatMap fun x => inputItems x room ++ replyItems x room

/-- The rows that scrolling may leave above a panel of some height. -/
def maxScroll (items : List StyledLine) (height : Nat) : Nat := items.length - Box.inner height

/-- The panel. It shows its rows from the first one on, wherever it is asked to begin. -/
def rows (title : Text) (items : List StyledLine) (width height : Nat) : List Row :=
  (Box.titled .darkGray title).around width height
    (Paragraph.items .untouched (Box.inner width) (Box.inner height) items)

end TranscriptPanel

end PostfixCalc

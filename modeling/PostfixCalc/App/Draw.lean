import PostfixCalc.App.State
import PostfixCalc.App.HelpScreen
import PostfixCalc.App.InputBox
import PostfixCalc.App.TranscriptPanel
import PostfixCalc.App.StackPanel
import PostfixCalc.Screen.Box
import PostfixCalc.Screen.Row
import PostfixCalc.Screen.Paragraph

namespace PostfixCalc

namespace SizeNotice

def minWidth : Nat := 50

def minHeight : Nat := 10

def isNeeded (width height : Nat) : Bool := decide (width < minWidth) || decide (height < minHeight)

def sizeText (width height : Nat) : Text :=
  Nat.toDigits 10 width ++ 'x' :: Nat.toDigits 10 height

def lines (width height : Nat) : List StyledLine :=
  [ [⟨Text.lit "Terminal too small! Min size: " ++ sizeText minWidth minHeight ++
      Text.lit ". Current: " ++ sizeText width height, .strong .red⟩],
    [],
    [⟨Text.lit "Please resize your terminal window", .colored .yellow⟩] ]

def box : Box := .titled .red (Text.lit "Resize Required")

def frame (width height : Nat) : Frame where
  rows := box.around width height
    (Paragraph.wrapped .untouched .center (Box.inner width) (Box.inner height) 0
      (lines width height))
  cursor := none

end SizeNotice

namespace StatusRow

def keys : List (Text × Text) :=
  [ (Text.lit "Enter", Text.lit "Evaluate"),
    (Text.lit "Up/Down", Text.lit "Recall"),
    (Text.lit "PgUp/PgDn", Text.lit "Scroll"),
    (Text.lit "F1", Text.lit "Help"),
    (Text.lit "Ctrl+U", Text.lit "Clear Input"),
    (Text.lit "Ctrl+C", Text.lit "Quit") ]

def line : StyledLine :=
  keys.flatMap fun (key, meaning) =>
    [⟨key, .strong .yellow⟩, ⟨' ' :: meaning ++ [' '], .colored .darkGray⟩]

def row (width : Nat) : Row := Row.ofGlyphs .untouched width 0 (line.cut width)

end StatusRow

namespace App

/-- The rows below the input box and the status row. -/
def bodyHeight (height : Nat) : Nat := height - InputBox.height - 1

/-- The columns beside the stack. -/
def transcriptWidth (width : Nat) : Nat := width - StackPanel.width

def itemsOn (a : App) (width : Nat) : List StyledLine :=
  TranscriptPanel.items a.banner a.transcript (TranscriptPanel.room (transcriptWidth width))

/-- The farthest that the transcript can be scrolled on a screen of some size. -/
def maxScroll (a : App) (width height : Nat) : Nat :=
  TranscriptPanel.maxScroll (a.itemsOn width) (bodyHeight height)

/-- How the application is looked at once its panels have been drawn. -/
def settle (a : App) (width height : Nat) : App :=
  let most := a.maxScroll width height
  (a.adjustInput (InputBox.room width)).onView fun v =>
    { v with
      transcriptScroll := if v.toBottom then most else min v.transcriptScroll most
      toBottom := false
      listHeight := bodyHeight height
      tooSmall := false }

def frame (a : App) (width height : Nat) : Frame where
  rows :=
    InputBox.rows a.editor.line a.view.inputScroll width ++
      StatusRow.row width ::
        List.zipWith (· ++ ·)
          (TranscriptPanel.rows title (a.itemsOn width) (transcriptWidth width) (bodyHeight height))
          (StackPanel.rows a.stack (bodyHeight height))
  cursor := some (InputBox.cursor a.editor.line a.view.inputScroll)

/-- Draws on a screen of some size. This also settles how the application is looked at. -/
def draw (a : App) (width height : Nat) : App × Frame :=
  if a.help then (a, HelpScreen.frame a.view.helpScroll width height)
  else if SizeNotice.isNeeded width height then
    (a.onView ({ · with tooSmall := true }), SizeNotice.frame width height)
  else (a.settle width height, (a.settle width height).frame width height)

end App

end PostfixCalc

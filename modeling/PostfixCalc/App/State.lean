import PostfixCalc.Calculator.Process
import PostfixCalc.Editor
import PostfixCalc.App.InputBox

namespace PostfixCalc

/-- A line that was submitted, with its reply. -/
structure Exchange where
  input : Text
  reply : Reply
  deriving DecidableEq, Repr

namespace Exchange

def failed (x : Exchange) : Bool := x.reply.rejection.isSome

end Exchange

/-- How the application is being looked at. -/
structure View where
  inputScroll : Nat
  /-- The first row of the transcript that is asked for. -/
  transcriptScroll : Nat
  /-- The next drawing is to go to the end of the transcript. -/
  toBottom : Bool
  helpScroll : Nat
  /-- The rows of the transcript's panel when it was last drawn. -/
  listHeight : Nat
  /-- The screen was too small when it was last drawn on. -/
  tooSmall : Bool
  deriving DecidableEq, Repr

namespace View

def start : View := ⟨0, 0, false, 0, 5, false⟩

end View

/-- The full screen application: the calculator, an editor for the next line, the transcript of the
lines before it, and how all this is being looked at. -/
structure App where
  stack : Stack
  banner : List Text
  editor : Editor
  /-- The oldest exchange first. -/
  transcript : List Exchange
  quits : Bool
  help : Bool
  view : View
  deriving DecidableEq, Repr

namespace App

def start (showBanner : Bool) : App where
  stack := []
  banner := if showBanner then Calculator.banner else []
  editor := .empty
  transcript := []
  quits := false
  help := false
  view := .start

def title : Text := Text.lit "RPN Calculator [" ++ Calculator.name ++ [']']

def onView (a : App) (f : View → View) : App := { a with view := f a.view }

def onEditor (a : App) (f : Editor → Editor) : App := { a with editor := f a.editor }

/-- Keeps the cursor inside the room of the input box. -/
def adjustInput (a : App) (room : Nat) : App :=
  a.onView fun v =>
    { v with inputScroll := InputBox.scrollTo a.editor.line.size a.editor.line.cursor v.inputScroll room }

end App

end PostfixCalc

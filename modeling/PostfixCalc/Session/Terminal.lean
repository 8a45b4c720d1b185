import PostfixCalc.App.Draw
import PostfixCalc.App.Input
import PostfixCalc.Calculator.Process
import PostfixCalc.Editor

namespace PostfixCalc

structure TerminalSession where
  stack : Stack
  editor : Editor
  /-- The submitted lines with their replies, the oldest first. -/
  exchanges : List (Text × Reply)
  deriving DecidableEq, Repr

namespace TerminalSession

def start : TerminalSession := ⟨[], .empty, []⟩

/-- A line on a terminal that does not return by itself. -/
def row (s : Text) : Text := s ++ Text.lit "\r\n"

def hint : Text :=
  Text.lit "Navigation: ←/→, Alt+B/Alt+F, Home/End, ↑/↓ for history, Ctrl+C to quit\r\n\r\n"

/-- Takes the line as submitted and has it processed. -/
def submit (t : TerminalSession) : TerminalSession × Reply :=
  let text := t.editor.line.text
  let out := Calculator.process t.stack text
  (⟨out.stack, t.editor.submit, t.exchanges ++ [(text, out.reply)]⟩, out.reply)

/-- Applies a key: the session after it, what is written, and whether it goes on. -/
def press (t : TerminalSession) (k : Key) : TerminalSession × Text × Bool :=
  match t.editor.press k with
  | (editor, .editing) => ({ t with editor := editor }, [], true)
  | (editor, .quit) => ({ t with editor := editor }, row [], false)
  | (editor, .submit) =>
    let (t', reply) := submit { t with editor := editor }
    (t', row [] ++ reply.lines.flatMap row, !reply.halts)

/-- What is written while keys come in. The line is drawn before every key. -/
def run (t : TerminalSession) : List Key → Text
  | [] => Editor.redraw Calculator.prompt t.editor.line ++ row []
  | k :: ks =>
    let (t', written, goesOn) := t.press k
    Editor.redraw Calculator.prompt t.editor.line ++ written ++ (if goesOn then run t' ks else [])

def output (showBanner : Bool) (keys : List Key) : Text :=
  (if showBanner then Calculator.banner.flatMap row else []) ++ hint ++ run start keys

end TerminalSession

namespace ScreenSession

/-- The application after it has been drawn on a screen before each of the keys. -/
def run (width height : Nat) (a : App) : List Key → App
  | [] => (a.draw width height).1
  | k :: ks =>
    let a := (a.draw width height).1
    if a.quits then a else run width height (a.press k) ks

def left (a : App) : List Text :=
  match a.transcript.getLast? with
  | some x => if x.reply.halts then [x.reply.message] else []
  | none => []

end ScreenSession

end PostfixCalc

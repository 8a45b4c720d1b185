import PostfixCalc.Editor.Key
import PostfixCalc.Editor.Line
import PostfixCalc.Editor.History

namespace PostfixCalc

/-- A line and a history that lines are brought back from. -/
structure Editor where
  line : Line
  history : History
  deriving DecidableEq, Repr

namespace Editor

def empty : Editor := ⟨.empty, .empty⟩

def onLine (e : Editor) (f : Line → Line) : Editor := { e with line := f e.line }

/-- Puts what a walk through the history found into the line. -/
def bringBack (e : Editor) : Option Text × History → Editor
  | (some entry, h) => ⟨.ofText entry, h⟩
  | (none, h) => { e with history := h }

def recallPrevious (e : Editor) : Editor := e.bringBack (e.history.previous e.line.text)

def recallNext (e : Editor) : Editor := e.bringBack e.history.next

def clear (e : Editor) : Editor := ⟨.empty, e.history.rest⟩

/-- Takes the line away as submitted, and remembers it. -/
def submit (e : Editor) : Editor := ⟨.empty, e.history.push (Text.trim e.line.text)⟩

inductive Event
  | editing
  | submit
  | quit
  deriving DecidableEq, Repr

def pressPlain (e : Editor) : KeyCode → Editor × Event
  | .enter => (e, .submit)
  | .char c =>
    if c = '\n' ∨ c = '\r' then (e, .submit) else (e.onLine (·.insert c), .editing)
  | .backspace => (e.onLine .backspace, .editing)
  | .delete => (e.onLine .delete, .editing)
  | .left => (e.onLine .left, .editing)
  | .right => (e.onLine .right, .editing)
  | .home => (e.onLine .home, .editing)
  | .endOfLine => (e.onLine .toEnd, .editing)
  | .up => (e.recallPrevious, .editing)
  | .down => (e.recallNext, .editing)
  | _ => (e, .editing)

def pressControl (e : Editor) : KeyCode → Editor × Event
  | .char 'c' | .char 'd' => (e, .quit)
  | .char 'u' => (e.clear, .editing)
  | .char 'a' => (e.onLine .home, .editing)
  | .char 'e' => (e.onLine .toEnd, .editing)
  | _ => (e, .editing)

def pressAlt (e : Editor) : KeyCode → Editor × Event
  | .char 'b' => (e.onLine .wordLeft, .editing)
  | .char 'f' => (e.onLine .wordRight, .editing)
  | _ => (e, .editing)

/-- Applies a key as a bare terminal means it. The line stays in place on a submit; the session
takes it. -/
def press (e : Editor) (k : Key) : Editor × Event :=
  match k.control, k.alt with
  | false, false => e.pressPlain k.code
  | true, false => e.pressControl k.code
  | false, true => e.pressAlt k.code
  | true, true => (e, .editing)

/-- Draws a prompt and the line anew on the terminal's row and puts the cursor in its place. The
terminal counts columns in sixteen bits. -/
def redraw (prompt : Text) (l : Line) : Text :=
  let column := Text.width prompt + l.cursorWidth
  let place : Text :=
    if column = 0 then [] else '\x1b' :: '[' :: (Nat.toDigits 10 (column % 65536) ++ ['C'])
  Text.lit "\r\x1b[2K" ++ prompt ++ l.text ++ '\r' :: place

end Editor

end PostfixCalc

import PostfixCalc.App.State

namespace PostfixCalc

inductive MouseEvent
  | wheelDown
  | wheelUp
  | moved
  deriving DecidableEq, Repr

namespace App

/-- The line that opens the help text. The calculator never sees it. -/
def helpCommand : Text := Text.lit "help"

def openHelp (a : App) : App :=
  { a with help := true, view := { a.view with helpScroll := 0 } }

def closeHelp (a : App) : App :=
  { a with help := false, view := { a.view with helpScroll := 0 } }

/-- Submits the line: to the help text, or to the calculator. -/
def submit (a : App) : App :=
  let text := a.editor.line.text
  let a := a.onView fun v => { v with inputScroll := 0 }
  if Text.trim text = helpCommand then (a.onEditor ({ · with line := .empty })).openHelp
  else
    let out := Calculator.process a.stack text
    { a with
      stack := out.stack
      editor := a.editor.submit
      transcript := a.transcript ++ [⟨text, out.reply⟩]
      quits := a.quits || out.reply.halts
      view := { a.view with toBottom := true } }

/-- The rows by which the transcript is paged: one less than its panel has, but at least one. -/
def page (a : App) : Nat := max (a.view.listHeight - 1) 1

def pressInHelp (a : App) : KeyCode → App
  | .down => a.onView fun v => { v with helpScroll := v.helpScroll + 1 }
  | .up => a.onView fun v => { v with helpScroll := v.helpScroll - 1 }
  | .pageDown => a.onView fun v => { v with helpScroll := v.helpScroll + 10 }
  | .pageUp => a.onView fun v => { v with helpScroll := v.helpScroll - 10 }
  | .escape | .function 1 => a.closeHelp
  | _ => a

def pressPlain (a : App) : KeyCode → App
  | .char c => a.onEditor (·.onLine (·.insert c))
  | .backspace => a.onEditor (·.onLine .backspace)
  | .delete => a.onEditor (·.onLine .delete)
  | .left => a.onEditor (·.onLine .left)
  | .right => a.onEditor (·.onLine .right)
  | .home => (a.onEditor (·.onLine .home)).onView fun v => { v with inputScroll := 0 }
  | .endOfLine => a.onEditor (·.onLine .toEnd)
  | .up => a.onEditor .recallPrevious
  | .down => a.onEditor .recallNext
  | .pageUp => a.onView fun v => { v with transcriptScroll := v.transcriptScroll - a.page }
  | .pageDown => a.onView fun v => { v with transcriptScroll := v.transcriptScroll + a.page }
  | .enter => a.submit
  | .function n => if n = 1 then a.openHelp else a
  | _ => a

/-- What a key does when the control key is held. Letters type nothing then; other keys that have no
meaning of their own do what they always do. -/
def pressControl (a : App) : KeyCode → App
  | .char c =>
    if c = 'u' ∨ c = 'U' then (a.onEditor .clear).onView fun v => { v with inputScroll := 0 } else a
  | .left => a.onEditor (·.onLine .wordLeft)
  | .right => a.onEditor (·.onLine .wordRight)
  | code => a.pressPlain code

def press (a : App) (k : Key) : App :=
  if k.control ∧ k.code = .char 'c' then { a with quits := true }
  else if a.help then a.pressInHelp k.code
  else if k.control then a.pressControl k.code
  else a.pressPlain k.code

def wheelRows : Nat := 3

/-- Applies an event of the mouse to what is open. -/
def mouse (a : App) (e : MouseEvent) : App :=
  let scroll (n : Nat) : Nat :=
    match e with
    | .wheelDown => n + wheelRows
    | .wheelUp => n - wheelRows
    | .moved => n
  a.onView fun v =>
    if a.help then { v with helpScroll := scroll v.helpScroll }
    else { v with transcriptScroll := scroll v.transcriptScroll }

end App

end PostfixCalc

import PostfixCalc.App.Draw
import PostfixCalc.App.Input
import PostfixCalc.Proofs.Editor.Edits

namespace PostfixCalc.App

/-- What happens to the application. -/
inductive Event
  | key (k : Key)
  | mouse (e : MouseEvent)
  | adjust (room : Nat)
  | draw (width height : Nat)
  deriving DecidableEq, Repr

def handle (a : App) : Event → App
  | .key k => a.press k
  | .mouse e => a.mouse e
  | .adjust room => a.adjustInput room
  | .draw width height => (a.draw width height).1

/-- The application that events lead to from its start. -/
def after (showBanner : Bool) (es : List Event) : App := es.foldl handle (start showBanner)

/-- The key that ends the application at any time. -/
def Event.isQuit : Event → Bool
  | .key k => k.control && decide (k.code = .char 'c')
  | _ => false

/-- The application after a line for the calculator. -/
def answered (a : App) (line : Text) : App :=
  { a with
    stack := (Calculator.process a.stack line).stack
    editor := ⟨.empty, a.editor.history.push (Text.trim line)⟩
    transcript := a.transcript ++ [⟨line, (Calculator.process a.stack line).reply⟩]
    quits := a.quits || (Calculator.process a.stack line).reply.halts
    view := { a.view with inputScroll := 0, toBottom := true } }

theorem submit_of_ne {a : App} (h : Text.trim a.editor.line.text ≠ helpCommand) :
    a.submit = a.answered a.editor.line.text := by
  rw [submit, if_neg h]
  rfl

theorem press_plain {a : App} (h : a.help = false) (code : KeyCode) :
    a.press (.plain code) = a.pressPlain code := by
  have hcontrol : (Key.plain code).control = false := rfl
  simp only [press, hcontrol, h, Bool.false_eq_true, false_and, if_false]
  rfl

theorem press_control {a : App} (h : a.help = false) {k : Key} (hcontrol : k.control = true)
    (hk : k.code ≠ .char 'c') : a.press k = a.pressControl k.code := by
  simp only [press, hcontrol, hk, h, Bool.false_eq_true, and_false, if_false, if_true]

/-- A key that the control key changes nothing about. -/
theorem press_of_pressControl (a : App) {k : Key} (hquit : k.code ≠ .char 'c')
    (hcontrol : a.pressControl k.code = a.pressPlain k.code) :
    a.press k = if a.help then a.pressInHelp k.code else a.pressPlain k.code := by
  have hquit : ¬ (k.control = true ∧ k.code = .char 'c') := fun h => hquit h.2
  rw [press, if_neg hquit, hcontrol, ite_self]

/-- The keys that page do so whatever modifiers are held. -/
theorem press_paging (a : App) {k : Key} (hk : k.code = .pageUp ∨ k.code = .pageDown) :
    a.press k = if a.help then a.pressInHelp k.code else a.pressPlain k.code := by
  rcases hk with hk | hk <;>
    exact a.press_of_pressControl (by rw [hk]; exact KeyCode.noConfusion) (by rw [hk]; rfl)

/-- What an event does that does not end the application. Only an answer may ask the next drawing to
go to the end of the transcript. -/
inductive Step (a : App) : App → Prop
  | look (help : Bool) {view : View} (h : view.toBottom = true → a.view.toBottom = true) :
      Step a { a with help := help, view := view }
  | edit (e : Line.Edit) {view : View} (h : view.toBottom = true → a.view.toBottom = true) :
      Step a { a with editor := a.editor.onLine (·.edit e), view := view }
  | recallPrevious : Step a (a.onEditor .recallPrevious)
  | recallNext : Step a (a.onEditor .recallNext)
  | clear {view : View} (h : view.toBottom = true → a.view.toBottom = true) :
      Step a { a with editor := a.editor.clear, view := view }
  | askHelp {view : View} (hline : Text.trim a.editor.line.text = helpCommand)
      (h : view.toBottom = true → a.view.toBottom = true) :
      Step a { a with editor := { a.editor with line := .empty }, help := true, view := view }
  | answer (hline : Text.trim a.editor.line.text ≠ helpCommand) :
      Step a (a.answered a.editor.line.text)

theorem step_refl (a : App) : a.Step a := .look a.help id

theorem submit_step (a : App) : a.Step a.submit := by
  by_cases hline : Text.trim a.editor.line.text = helpCommand
  · rw [submit, if_pos hline]
    exact .askHelp hline id
  · rw [submit_of_ne hline]
    exact .answer hline

theorem pressInHelp_step (a : App) (code : KeyCode) : a.Step (a.pressInHelp code) := by
  unfold pressInHelp
  split <;> exact .look _ id

theorem pressPlain_step (a : App) (code : KeyCode) : a.Step (a.pressPlain code) := by
  cases code with
  | char c => exact .edit (.insert c) id
  | backspace => exact .edit .backspace id
  | delete => exact .edit .delete id
  | left => exact .edit .left id
  | right => exact .edit .right id
  | home => exact .edit .home id
  | endOfLine => exact .edit .toEnd id
  | up => exact .recallPrevious
  | down => exact .recallNext
  | enter => exact a.submit_step
  | function n =>
    change a.Step (if n = 1 then a.openHelp else a)
    split
    · exact .look true id
    · exact a.step_refl
  | _ => exact .look a.help id

theorem pressControl_step (a : App) (code : KeyCode) : a.Step (a.pressControl code) := by
  have hplain := a.pressPlain_step code
  cases code with
  | char c =>
    change a.Step (if c = 'u' ∨ c = 'U' then _ else a)
    split
    · exact .clear id
    · exact a.step_refl
  | left => exact .edit .wordLeft id
  | right => exact .edit .wordRight id
  | _ => exact hplain

theorem press_step (a : App) {k : Key} (hk : (Event.key k).isQuit = false) :
    a.Step (a.press k) := by
  have hquit : ¬ (k.control = true ∧ k.code = .char 'c') := by
    simpa [Event.isQuit] using hk
  rw [press, if_neg hquit]
  split
  · exact a.pressInHelp_step k.code
  · split
    · exact a.pressControl_step k.code
    · exact a.pressPlain_step k.code

theorem mouse_step (a : App) (e : MouseEvent) : a.Step (a.mouse e) := by
  refine .look a.help fun h => ?_
  split at h <;> exact h

theorem draw_step (a : App) (width height : Nat) : a.Step (a.draw width height).1 := by
  unfold draw
  split
  · exact a.step_refl
  · split
    · exact .look a.help id
    · exact .look a.help fun h => absurd h Bool.false_ne_true

/-- All that an event can do. -/
theorem handle_cases (a : App) (e : Event) :
    (e.isQuit = true ∧ a.handle e = { a with quits := true }) ∨
      (e.isQuit = false ∧ a.Step (a.handle e)) := by
  cases e with
  | key k =>
    cases hk : (Event.key k).isQuit with
    | true =>
      have hquit : k.control = true ∧ k.code = .char 'c' := by simpa [Event.isQuit] using hk
      exact .inl ⟨rfl, if_pos hquit⟩
    | false => exact .inr ⟨rfl, a.press_step hk⟩
  | mouse e => exact .inr ⟨rfl, a.mouse_step e⟩
  | adjust room => exact .inr ⟨rfl, .look a.help id⟩
  | draw width height => exact .inr ⟨rfl, a.draw_step width height⟩

end PostfixCalc.App

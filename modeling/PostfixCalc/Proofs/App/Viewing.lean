import PostfixCalc.Proofs.App.Answer

namespace PostfixCalc.App

/-- What only looks: drawings, the mouse, adjustments of the input box and the keys that page. -/
def Event.isViewing : Event → Bool
  | .key k => decide (k.code = .pageUp ∨ k.code = .pageDown)
  | .mouse _ => true
  | .adjust _ => true
  | .draw _ _ => true

/-- The second run is the first one without some of the events that only look. -/
inductive Thinned : List Event → List Event → Prop
  | nil : Thinned [] []
  | keep (e : Event) {es es' : List Event} (h : Thinned es es') : Thinned (e :: es) (e :: es')
  | drop {e : Event} {es es' : List Event} (he : e.isViewing = true) (h : Thinned es es') :
      Thinned (e :: es) es'

/-- The application without the way it has been looked at. -/
def forgetView (a : App) : App := a.onView fun _ => .start

theorem forgetView_pressInHelp_page (a : App) {code : KeyCode}
    (h : code = .pageUp ∨ code = .pageDown) : (a.pressInHelp code).forgetView = a.forgetView := by
  rcases h with rfl | rfl <;> rfl

theorem forgetView_press_page (a : App) {k : Key} (h : k.code = .pageUp ∨ k.code = .pageDown) :
    (a.press k).forgetView = a.forgetView := by
  rw [press_paging a h]
  split
  · exact a.forgetView_pressInHelp_page h
  · rcases h with h | h <;> rw [h] <;> rfl

theorem forgetView_draw (a : App) (width height : Nat) :
    (a.draw width height).1.forgetView = a.forgetView := by
  unfold draw
  split
  · rfl
  · split <;> rfl

theorem forgetView_handle_of_isViewing (a : App) {e : Event} (h : e.isViewing = true) :
    (a.handle e).forgetView = a.forgetView := by
  cases e with
  | key k => exact a.forgetView_press_page (of_decide_eq_true h)
  | mouse e => rfl
  | adjust room => rfl
  | draw width height => exact a.forgetView_draw width height

theorem forgetView_pressInHelp (a : App) (code : KeyCode) :
    (a.forgetView.pressInHelp code).forgetView = (a.pressInHelp code).forgetView := by
  unfold pressInHelp
  split <;> rfl

theorem forgetView_submit (a : App) : a.forgetView.submit.forgetView = a.submit.forgetView := by
  have hline : a.forgetView.editor.line = a.editor.line := rfl
  unfold submit
  rw [hline]
  dsimp only
  split <;> rfl

theorem forgetView_pressPlain (a : App) (code : KeyCode) :
    (a.forgetView.pressPlain code).forgetView = (a.pressPlain code).forgetView := by
  cases code with
  | enter => exact a.forgetView_submit
  | function n =>
    show (if n = 1 then _ else _ : App).forgetView = (if n = 1 then _ else _ : App).forgetView
    split <;> rfl
  | _ => rfl

theorem forgetView_pressControl (a : App) (code : KeyCode) :
    (a.forgetView.pressControl code).forgetView = (a.pressControl code).forgetView := by
  have hplain := a.forgetView_pressPlain code
  cases code with
  | char c =>
    show (if c = 'u' ∨ c = 'U' then _ else _ : App).forgetView =
      (if c = 'u' ∨ c = 'U' then _ else _ : App).forgetView
    split <;> rfl
  | left => rfl
  | right => rfl
  | _ => exact hplain

theorem forgetView_press (a : App) (k : Key) :
    (a.forgetView.press k).forgetView = (a.press k).forgetView := by
  have hhelp : a.forgetView.help = a.help := rfl
  unfold press
  rw [hhelp]
  split
  · rfl
  · split
    · exact a.forgetView_pressInHelp k.code
    · split
      · exact a.forgetView_pressControl k.code
      · exact a.forgetView_pressPlain k.code

theorem forgetView_handle (a : App) (e : Event) :
    (a.forgetView.handle e).forgetView = (a.handle e).forgetView := by
  by_cases h : e.isViewing = true
  · rw [forgetView_handle_of_isViewing _ h, forgetView_handle_of_isViewing _ h]
    rfl
  · cases e with
    | key k => exact a.forgetView_press k
    | mouse e => exact absurd rfl h
    | adjust room => exact absurd rfl h
    | draw width height => exact absurd rfl h

/-- Applications that differ in nothing but the view stay so. -/
theorem forgetView_handle_congr {a b : App} (h : a.forgetView = b.forgetView) (e : Event) :
    (a.handle e).forgetView = (b.handle e).forgetView := by
  rw [← a.forgetView_handle, h, b.forgetView_handle]

theorem forgetView_foldl_of_thinned {es es' : List Event} (hthin : Thinned es es') {a b : App}
    (h : a.forgetView = b.forgetView) :
    (es.foldl handle a).forgetView = (es'.foldl handle b).forgetView := by
  induction hthin generalizing a b with
  | nil => exact h
  | keep e hrest ih => exact ih (forgetView_handle_congr h e)
  | drop he hrest ih => exact ih ((a.forgetView_handle_of_isViewing he).trans h)

/-- Whatever events that only look are taken out of a run: the line, its cursor and the history with
a walk under way, the transcript, the stack, the end of the session and the open help text come out
the same. -/
theorem after_thinned (showBanner : Bool) {es es' : List Event} (hthin : Thinned es es') :
    let a := after showBanner es
    let b := after showBanner es'
    b.editor.line.text = a.editor.line.text ∧ b.editor.line.cursor = a.editor.line.cursor ∧
      b.editor.history = a.editor.history ∧ b.transcript = a.transcript ∧ b.stack = a.stack ∧
      b.quits = a.quits ∧ b.help = a.help := by
  intro a b
  have hsame : a.forgetView = b.forgetView := forgetView_foldl_of_thinned hthin rfl
  have hrest : b = { a with view := b.view } := by
    show { b.forgetView with view := b.view } = { a.forgetView with view := b.view }
    rw [hsame]
  rw [hrest]
  exact ⟨rfl, rfl, rfl, rfl, rfl, rfl, rfl⟩

/-- A line that is submitted and brought back, and all that only looks taken out but a drawing. -/
theorem after_thinned_recall :
    let es : List Event :=
      [.draw 50 10, .key (.typed '7'), .mouse .wheelDown, .key (.plain .enter), .draw 60 20,
        .key ⟨.pageUp, true, false, false⟩, .adjust 3, .key (.plain .up)]
    let es' : List Event :=
      [.draw 50 10, .key (.typed '7'), .key (.plain .enter), .key (.plain .up)]
    Thinned es es' ∧ (after true es').view ≠ (after true es).view ∧
      (after true es').editor.line.text = ['7'] ∧ (after true es).editor.line.text = ['7'] ∧
      (after true es').stack = (after true es).stack := by
  intro es es'
  have hthin : Thinned es es' :=
    .keep _ <| .keep _ <| .drop rfl <| .keep _ <| .drop rfl <| .drop rfl <| .drop rfl <|
      .keep _ .nil
  obtain ⟨htext, -, -, -, hstack, -, -⟩ := after_thinned true hthin
  have hrecalled : (after true es').editor.line.text = ['7'] := by decide +kernel
  exact ⟨hthin, by decide +kernel, hrecalled, htext.symm.trans hrecalled, hstack⟩

end PostfixCalc.App

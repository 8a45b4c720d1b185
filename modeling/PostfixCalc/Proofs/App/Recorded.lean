import PostfixCalc.Proofs.App.Answer
import PostfixCalc.Proofs.Calculator.Exchanges
import PostfixCalc.Proofs.Editor.Recall

namespace PostfixCalc.App

/-- The lines that have been submitted to the calculator. -/
def inputs (a : App) : List Text := a.transcript.map Exchange.input

/-- What is told by the lines of the transcript, and by the events so far. -/
structure Recorded (es : List Event) (a : App) : Prop where
  transcript_eq : a.transcript = Calculator.exchanges [] a.inputs
  stack_eq : a.stack = Calculator.stackAfter [] a.inputs
  entries_eq : a.editor.history.entries = History.kept (a.inputs.map Text.trim)
  quits_eq : a.quits = (es.any Event.isQuit || a.transcript.any (·.reply.halts))

theorem recorded_start (showBanner : Bool) : Recorded [] (start showBanner) :=
  ⟨rfl, rfl, rfl, rfl⟩

theorem Recorded.quit {es : List Event} {a : App} (h : Recorded es a) {e : Event}
    (he : e.isQuit = true) : Recorded (es ++ [e]) { a with quits := true } := by
  refine ⟨h.transcript_eq, h.stack_eq, h.entries_eq, ?_⟩
  simp [he]

/-- The second application has calculated just what the first has. -/
structure Idle (a b : App) : Prop where
  stack_eq : b.stack = a.stack
  transcript_eq : b.transcript = a.transcript
  entries_eq : b.editor.history.entries = a.editor.history.entries
  quits_eq : b.quits = a.quits

theorem Recorded.idle {es : List Event} {a b : App} (h : Recorded es a) (hidle : a.Idle b)
    {e : Event} (he : e.isQuit = false) : Recorded (es ++ [e]) b := by
  have hinputs : b.inputs = a.inputs := congrArg (List.map _) hidle.transcript_eq
  refine ⟨?_, ?_, ?_, ?_⟩
  · rw [hinputs, hidle.transcript_eq]
    exact h.transcript_eq
  · rw [hinputs, hidle.stack_eq]
    exact h.stack_eq
  · rw [hinputs, hidle.entries_eq]
    exact h.entries_eq
  · rw [hidle.quits_eq, hidle.transcript_eq, h.quits_eq]
    simp [he]

theorem Recorded.answered {es : List Event} {a : App} (h : Recorded es a) (line : Text)
    {e : Event} (he : e.isQuit = false) : Recorded (es ++ [e]) (a.answered line) := by
  have hinputs : (a.answered line).inputs = a.inputs ++ [line] := by
    simp [inputs, App.answered]
  refine ⟨?_, ?_, ?_, ?_⟩
  · rw [hinputs, Calculator.exchanges_concat, ← h.transcript_eq, ← h.stack_eq]
    rfl
  · rw [hinputs, Calculator.stackAfter_concat, ← h.stack_eq]
    rfl
  · rw [hinputs, List.map_append]
    exact History.push_entries h.entries_eq (Text.trim line)
  · change (a.quits || _) = _
    rw [h.quits_eq, List.any_append]
    simp [App.answered, he, Bool.or_assoc]

theorem Step.idle_or_answered {a b : App} (h : a.Step b) :
    a.Idle b ∨ b = a.answered a.editor.line.text := by
  cases h with
  | recallPrevious => exact .inl ⟨rfl, rfl, a.editor.recallPrevious_entries, rfl⟩
  | recallNext => exact .inl ⟨rfl, rfl, a.editor.recallNext_entries, rfl⟩
  | answer hline => exact .inr rfl
  | _ => exact .inl ⟨rfl, rfl, rfl, rfl⟩

theorem Recorded.handle {es : List Event} {a : App} (h : Recorded es a) (e : Event) :
    Recorded (es ++ [e]) (a.handle e) := by
  rcases a.handle_cases e with ⟨he, hquit⟩ | ⟨he, hstep⟩
  · rw [hquit]
    exact h.quit he
  · rcases hstep.idle_or_answered with hidle | hanswered
    · exact h.idle hidle he
    · rw [hanswered]
      exact h.answered a.editor.line.text he

theorem foldl_handle_recorded {before : List Event} {a : App} (h : Recorded before a)
    (es : List Event) : Recorded (before ++ es) (es.foldl App.handle a) := by
  induction es generalizing before a with
  | nil =>
    rw [List.append_nil]
    exact h
  | cons e es ih =>
    have hrest := ih (h.handle e)
    rwa [List.append_assoc] at hrest

/-- Whatever keys, turns of the mouse wheel and drawings an application has gone through: a new
calculator gives the recorded answers to the lines of its transcript and is left with its stack, and
so it is by the lines that were not refused; its history is these lines, trimmed, without blank ones
and repetitions in a row; and it is over if and only if the key for that was pressed or an answer
ended the session. -/
theorem after_recorded (showBanner : Bool) (es : List Event) :
    let a := after showBanner es
    let lines := a.transcript.map Exchange.input
    a.transcript = Calculator.exchanges [] lines ∧
      a.stack = Calculator.stackAfter [] lines ∧
      a.stack = Calculator.stackAfter [] (Calculator.accepted a.transcript) ∧
      a.editor.history.entries = ((lines.map Text.trim).filter (· ≠ [])).destutter (· ≠ ·) ∧
      (a.quits = true ↔
        (∃ k : Key, .key k ∈ es ∧ k.control = true ∧ k.code = .char 'c') ∨
          ∃ x ∈ a.transcript, x.reply.halts = true) := by
  intro a lines
  have h : Recorded es a := foldl_handle_recorded (recorded_start showBanner) es
  have hquit : es.any Event.isQuit = true ↔
      ∃ k : Key, .key k ∈ es ∧ k.control = true ∧ k.code = .char 'c' := by
    rw [List.any_eq_true]
    constructor
    · rintro ⟨e, he, hq⟩
      cases e with
      | key k => exact ⟨k, he, by simpa [Event.isQuit] using hq⟩
      | mouse e => exact absurd hq Bool.false_ne_true
      | adjust room => exact absurd hq Bool.false_ne_true
      | draw width height => exact absurd hq Bool.false_ne_true
    · rintro ⟨k, hk, hq⟩
      exact ⟨.key k, hk, by simpa [Event.isQuit] using hq⟩
  refine ⟨h.transcript_eq, h.stack_eq, ?_, ?_, ?_⟩
  · rw [h.transcript_eq, Calculator.stackAfter_accepted]
    exact h.stack_eq
  · rw [h.entries_eq]
    exact History.kept_map_trim lines
  · rw [h.quits_eq, Bool.or_eq_true, hquit, List.any_eq_true]

end PostfixCalc.App

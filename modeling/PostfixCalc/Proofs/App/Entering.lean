import PostfixCalc.Proofs.App.Reached

namespace PostfixCalc

theorem Editor.bringBack_line {e : Editor} {found : Option Text × History} {entry : Text}
    (h : found.1 = some entry) : (e.bringBack found).line = .ofText entry := by
  obtain ⟨found, after⟩ := found
  subst h
  rfl

namespace App

/-- The application behind a key that enters the line, and behind another one that closes the help
text if the first has opened it. -/
def entered (a : App) (enter close : Key) : App :=
  if (a.press enter).help then (a.press enter).press close else a.press enter

/-- The line is empty and no entry is being looked at: a step forward leaves the line so, and a step
back finds the newest entry. -/
structure AtRest (b : App) : Prop where
  line_empty : b.editor.line = .empty
  down : ∀ k : Key, k.code = .down → (b.press k).editor.line = .empty
  up : ∀ k : Key, k.code = .up → ∀ entry ∈ b.editor.history.entries.getLast?,
    (b.press k).editor.line = .ofText entry
  up_of_nil : ∀ k : Key, k.code = .up → b.editor.history.entries = [] → b.press k = b

/-- Enter and the keys of the history do the same whatever modifiers are held. -/
theorem press_history {a : App} (hhelp : a.help = false) {k : Key}
    (hk : k.code = .enter ∨ k.code = .up ∨ k.code = .down) : a.press k = a.pressPlain k.code := by
  have hpress : a.press k = if a.help then a.pressInHelp k.code else a.pressPlain k.code := by
    rcases hk with hk | hk | hk <;>
      exact a.press_of_pressControl (by rw [hk]; exact KeyCode.noConfusion) (by rw [hk]; rfl)
  rw [hpress, hhelp, if_neg Bool.false_ne_true]

theorem press_up {a : App} (hhelp : a.help = false) {k : Key} (hk : k.code = .up) :
    a.press k = a.onEditor .recallPrevious := by
  rw [press_history hhelp (.inr (.inl hk)), hk]
  rfl

theorem press_down {a : App} (hhelp : a.help = false) {k : Key} (hk : k.code = .down) :
    a.press k = a.onEditor .recallNext := by
  rw [press_history hhelp (.inr (.inr hk)), hk]
  rfl

theorem atRest_of_position {b : App} (hhelp : b.help = false) (hline : b.editor.line = .empty)
    (hrest : b.editor.history.position = none) : b.AtRest := by
  refine ⟨hline, fun k hk => ?down, fun k hk entry hentry => ?up, fun k hk hnil => ?nil⟩
  case down =>
    have hnext : b.editor.history.next = (none, b.editor.history) := by
      rw [History.next, hrest]
    rw [press_down hhelp hk]
    show (b.editor.bringBack b.editor.history.next).line = .empty
    rw [hnext]
    exact hline
  case up =>
    have hne : b.editor.history.entries ≠ [] := by
      intro hnil
      rw [hnil] at hentry
      cases hentry
    have hfound : (b.editor.history.previous b.editor.line.text).1 = some entry := by
      rw [History.previous, hrest]
      simp only [hne, if_false]
      rw [← List.getLast?_eq_getElem?]
      exact hentry
    rw [press_up hhelp hk]
    exact Editor.bringBack_line hfound
  case nil =>
    have hnone : b.editor.history.previous b.editor.line.text = (none, b.editor.history) := by
      rw [History.previous, hrest]
      simp only [hnil, if_true]
    rw [press_up hhelp hk]
    show { b with editor := b.editor.bringBack (b.editor.history.previous b.editor.line.text) } = b
    rw [hnone]
    rfl

/-- The line for the calculator. -/
theorem entered_of_ne {a : App} (hhelp : a.help = false) {enter : Key} (close : Key)
    (henter : enter.code = .enter) (hne : Text.trim a.editor.line.text ≠ helpCommand) :
    a.entered enter close = a.answered a.editor.line.text := by
  have hpress : a.press enter = a.answered a.editor.line.text := by
    rw [press_history hhelp (.inl henter), henter]
    exact submit_of_ne hne
  rw [entered, hpress, if_neg]
  show ¬ a.help = true
  rw [hhelp]
  exact Bool.false_ne_true

/-- The line for the help text, which is closed again. -/
theorem entered_of_help {a : App} (hhelp : a.help = false) {enter close : Key}
    (henter : enter.code = .enter) (hclose : close.code = .escape)
    (hline : Text.trim a.editor.line.text = helpCommand) :
    (a.entered enter close).help = false ∧
      (a.entered enter close).editor = ⟨.empty, a.editor.history⟩ := by
  have hopen : (a.press enter).help = true ∧
      (a.press enter).editor = ⟨.empty, a.editor.history⟩ := by
    rw [press_history hhelp (.inl henter), henter]
    show a.submit.help = true ∧ a.submit.editor = _
    rw [submit, if_pos hline]
    exact ⟨rfl, rfl⟩
  have hpress : (a.press enter).press close = (a.press enter).closeHelp := by
    have hcode := (a.press enter).press_of_pressControl (k := close)
      (by rw [hclose]; exact KeyCode.noConfusion) (by rw [hclose]; rfl)
    rw [hcode, if_pos hopen.1, hclose]
    rfl
  rw [entered, if_pos hopen.1, hpress]
  exact ⟨rfl, hopen.2⟩

/-- What Enter leaves of a walk through the history, whatever was brought back and edited before. It
ends the walk, unless the line opens the help text. Such a line leaves a walk under way, so that the
next step from the entry that it stands at leads to one of the two beside it, or from the newest one
to the draft that the walk set out from. -/
theorem after_entered {showBanner : Bool} {es : List Event}
    (hhelp : (after showBanner es).help = false) {enter close : Key}
    (henter : enter.code = .enter) (hclose : close.code = .escape) :
    let a := after showBanner es
    let b := a.entered enter close
    let h := a.editor.history
    (Text.trim a.editor.line.text ≠ helpCommand ∨ h.position = none → b.AtRest) ∧
      (Text.trim a.editor.line.text = helpCommand → ∀ p ∈ h.position,
        p < h.entries.length ∧ b.editor = ⟨.empty, h⟩ ∧
          (∀ k : Key, k.code = .up → ∀ entry ∈ h.entries[p - 1]?,
            (b.press k).editor.line = .ofText entry) ∧
          ∀ k : Key, k.code = .down →
            (b.press k).editor.line = .ofText (h.entries[p + 1]?.getD h.draft)) := by
  intro a b h
  refine ⟨fun hends => ?ends, fun hline p hp => ?goesOn⟩
  case ends =>
    by_cases hline : Text.trim a.editor.line.text = helpCommand
    · obtain ⟨hclosed, heditor⟩ := entered_of_help hhelp henter hclose hline
      refine atRest_of_position hclosed (congrArg Editor.line heditor) ?_
      rw [heditor]
      exact hends.resolve_left (not_not_intro hline)
    · have hb : b = a.answered a.editor.line.text := entered_of_ne hhelp close henter hline
      rw [hb]
      exact atRest_of_position hhelp rfl rfl
  case goesOn =>
    obtain ⟨hclosed, heditor⟩ := entered_of_help hhelp henter hclose hline
    have hstart : h = ⟨h.entries, some p, h.draft⟩ := by rw [← hp]
    refine ⟨(after_reached showBanner es).history_stands p hp, heditor, fun k hk entry hentry => ?_,
      fun k hk => ?_⟩
    · have hfound : (b.editor.history.previous b.editor.line.text).1 = some entry := by
        rw [heditor]
        show (h.previous _).1 = _
        rw [hstart, History.previous_of_walk]
        exact hentry
      rw [press_up hclosed hk]
      exact Editor.bringBack_line hfound
    · have hfound : b.editor.history.next.1 = some (h.entries[p + 1]?.getD h.draft) := by
        rw [heditor]
        show h.next.1 = _
        rw [hstart]
        exact History.next_of_walk p
      rw [press_down hclosed hk]
      exact Editor.bringBack_line hfound

/-- Two lines are entered, the second is brought back and its only sign replaced by the help
command. Behind the help text the walk still stands at the second line. -/
def helpFromWalk : List Event :=
  [.key (.typed '1'), .key (.plain .enter), .key (.typed '2'), .key (.plain .enter),
    .key (.plain .up), .key (.plain .backspace)] ++ helpCommand.map fun c => .key (.typed c)

/-- From there a step back passes over the newest line. -/
theorem after_entered_help :
    let b := (after false helpFromWalk).entered (.plain .enter) (.plain .escape)
    (after false helpFromWalk).help = false ∧ b.editor.history.entries = [['1'], ['2']] ∧
      (b.press (.plain .up)).editor.line = .ofText ['1'] ∧
      (b.press (.plain .down)).editor.line = .ofText [] := by
  intro b
  have hhelp : (after false helpFromWalk).help = false := by decide +kernel
  have hline : Text.trim (after false helpFromWalk).editor.line.text = helpCommand := by
    decide +kernel
  have hhistory : (after false helpFromWalk).editor.history = ⟨[['1'], ['2']], some 1, []⟩ := by
    decide +kernel
  have henter : (Key.plain .enter).code = .enter := rfl
  have hclose : (Key.plain .escape).code = .escape := rfl
  obtain ⟨-, hgoesOn⟩ := after_entered hhelp henter hclose
  obtain ⟨-, heditor, hup, hdown⟩ := hgoesOn hline 1 (by rw [hhistory]; rfl)
  rw [hhistory] at heditor hup hdown
  exact ⟨hhelp, congrArg (·.history.entries) heditor, hup _ rfl _ rfl, hdown _ rfl⟩

/-- Enter need not end a walk through the history. -/
theorem not_entered_atRest :
    ¬ ∀ (showBanner : Bool) (es : List Event) (enter close : Key),
      (after showBanner es).help = false → enter.code = .enter → close.code = .escape →
        ((after showBanner es).entered enter close).AtRest := by
  intro h
  have hrest := h false helpFromWalk (.plain .enter) (.plain .escape) (by decide +kernel) rfl rfl
  have hup := hrest.up (.plain .up) rfl ['2'] (by decide +kernel)
  exact absurd hup (by decide +kernel)

end App

end PostfixCalc

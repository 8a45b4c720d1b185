import Mathlib.Data.List.Forall2
import PostfixCalc.Session.Terminal
import PostfixCalc.Editor.KeySequence
import PostfixCalc.Proofs.App.Answer

namespace PostfixCalc

/-- What keys mean in both sessions. -/
inductive SharedKey
  | char (c : Char) (h : c ≠ '\n' ∧ c ≠ '\r')
  | backspace
  | delete
  | left
  | right
  | home
  | toEnd
  | up
  | down
  | enter
  | clear
  | wordLeft
  | wordRight
  deriving DecidableEq, Repr

namespace SharedKey

def atTerminal : SharedKey → Key
  | char c _ => .typed c
  | backspace => .plain .backspace
  | delete => .plain .delete
  | left => .plain .left
  | right => .plain .right
  | home => .plain .home
  | toEnd => .plain .endOfLine
  | up => .plain .up
  | down => .plain .down
  | enter => .plain .enter
  | clear => KeySequence.control 'u'
  | wordLeft => { code := .char 'b', alt := true }
  | wordRight => { code := .char 'f', alt := true }

/-- The key in the application, which knows other keys for words. -/
def onScreen : SharedKey → Key
  | wordLeft => { code := .left, control := true }
  | wordRight => { code := .right, control := true }
  | k => k.atTerminal

/-- The keys that type a text on one row. -/
def typing (s : Text) : List SharedKey :=
  s.filterMap fun c => if h : c ≠ '\n' ∧ c ≠ '\r' then some (.char c h) else none

/-- What a key does to an editor. A submit is left to the session. -/
def edit (e : Editor) : SharedKey → Editor
  | char c _ => e.onLine (·.insert c)
  | backspace => e.onLine .backspace
  | delete => e.onLine .delete
  | left => e.onLine .left
  | right => e.onLine .right
  | home => e.onLine .home
  | toEnd => e.onLine .toEnd
  | up => e.recallPrevious
  | down => e.recallNext
  | enter => e
  | clear => e.clear
  | wordLeft => e.onLine .wordLeft
  | wordRight => e.onLine .wordRight

end SharedKey

namespace Editor

theorem pressPlain_char (e : Editor) {c : Char} (h : c ≠ '\n' ∧ c ≠ '\r') :
    e.pressPlain (.char c) = (e.onLine (·.insert c), .editing) :=
  if_neg (not_or.mpr h)

theorem press_atTerminal (e : Editor) {k : SharedKey} (hk : k ≠ .enter) :
    e.press k.atTerminal = (k.edit e, .editing) := by
  cases k with
  | char c h => exact e.pressPlain_char h
  | enter => exact absurd rfl hk
  | _ => rfl

end Editor

namespace TerminalSession

/-- The sessions that keys lead to, up to the one that is over. -/
def states (t : TerminalSession) : List Key → List TerminalSession
  | [] => []
  | k :: ks => (t.press k).1 :: (if (t.press k).2.2 then (t.press k).1.states ks else [])

/-- Some reply has ended the session. -/
def halted (t : TerminalSession) : Bool := t.exchanges.any (·.2.halts)

theorem press_edit (t : TerminalSession) {k : SharedKey} (hk : k ≠ .enter) :
    t.press k.atTerminal = ({ t with editor := k.edit t.editor }, [], true) := by
  rw [press, Editor.press_atTerminal t.editor hk]

theorem submit_halted (t : TerminalSession) :
    t.submit.1.halted = (t.halted || t.submit.2.halts) := by
  rw [halted, halted, submit, List.any_append]
  simp

theorem press_goesOn {t : TerminalSession} (ht : t.halted = false) (k : SharedKey) :
    (t.press k.atTerminal).2.2 = !(t.press k.atTerminal).1.halted := by
  by_cases hk : k = .enter
  · have henter : t.press k.atTerminal =
        (t.submit.1, row [] ++ t.submit.2.lines.flatMap row, !t.submit.2.halts) := by
      rw [hk]
      rfl
    rw [henter, submit_halted, ht, Bool.false_or]
  · rw [t.press_edit hk]
    change true = !t.halted
    rw [ht]
    rfl

end TerminalSession

namespace App

/-- The applications that keys lead to, up to the one that is over. -/
def states (a : App) : List Key → List App
  | [] => []
  | k :: ks => if a.quits then [] else a.press k :: (a.press k).states ks

theorem states_of_quits {a : App} (h : a.quits = true) (ks : List Key) : a.states ks = [] := by
  cases ks with
  | nil => rfl
  | cons k ks => rw [states, if_pos h]

/-- Besides the editor a key can only change how the application is looked at. -/
theorem press_onScreen {a : App} (h : a.help = false) {k : SharedKey} (hk : k ≠ .enter) :
    ∃ view, a.press k.onScreen = { a with editor := k.edit a.editor, view := view } := by
  cases k with
  | enter => exact absurd rfl hk
  | clear => exact ⟨_, press_control h rfl (by decide)⟩
  | wordLeft => exact ⟨_, press_control h rfl (by decide)⟩
  | wordRight => exact ⟨_, press_control h rfl (by decide)⟩
  | _ => exact ⟨_, press_plain h _⟩

end App

/-- A session at a terminal and an application that have come to the same. -/
structure Agree (t : TerminalSession) (a : App) : Prop where
  line_eq : a.editor.line = t.editor.line
  history_eq : a.editor.history = t.editor.history
  exchanges_eq : a.transcript.map (fun x => (x.input, x.reply)) = t.exchanges
  stack_eq : a.stack = t.stack
  quits_eq : a.quits = t.halted
  no_help : a.help = false

theorem agree_start (showBanner : Bool) : Agree .start (.start showBanner) :=
  ⟨rfl, rfl, rfl, rfl, rfl, rfl⟩

namespace Agree

theorem editor_eq {t : TerminalSession} {a : App} (h : Agree t a) : a.editor = t.editor := by
  have heta : a.editor = ⟨a.editor.line, a.editor.history⟩ := rfl
  rw [heta, h.line_eq, h.history_eq]

theorem submit {t : TerminalSession} {a : App} (h : Agree t a)
    (hhelp : Text.trim t.editor.line.text ≠ App.helpCommand) : Agree t.submit.1 a.submit := by
  have htext : a.editor.line.text = t.editor.line.text := by rw [h.line_eq]
  have hsubmit : a.submit = a.answered t.editor.line.text := by
    rw [← htext]
    exact App.submit_of_ne (htext ▸ hhelp)
  rw [hsubmit]
  refine ⟨rfl, ?_, ?_, ?_, ?_, h.no_help⟩
  · change a.editor.history.push _ = _
    rw [h.history_eq]
    rfl
  · change List.map _ (a.transcript ++ [_]) = t.exchanges ++ [_]
    rw [List.map_append, h.exchanges_eq, h.stack_eq]
    rfl
  · change (Calculator.process a.stack _).stack = _
    rw [h.stack_eq]
    rfl
  · change (a.quits || _) = _
    rw [TerminalSession.submit_halted, h.quits_eq, h.stack_eq]
    rfl

theorem press {t : TerminalSession} {a : App} (h : Agree t a) (k : SharedKey)
    (hhelp : ∀ x ∈ (t.press k.atTerminal).1.exchanges, Text.trim x.1 ≠ App.helpCommand) :
    Agree (t.press k.atTerminal).1 (a.press k.onScreen) := by
  by_cases hk : k = .enter
  · subst hk
    have hline : Text.trim t.editor.line.text ≠ App.helpCommand :=
      hhelp (_, t.submit.2) (List.mem_append_right _ (List.mem_singleton_self _))
    have hsubmit : a.press SharedKey.enter.onScreen = a.submit := App.press_plain h.no_help .enter
    rw [hsubmit]
    exact h.submit hline
  · obtain ⟨view, hpress⟩ := App.press_onScreen h.no_help hk
    rw [t.press_edit hk, hpress, h.editor_eq]
    exact ⟨rfl, rfl, h.exchanges_eq, h.stack_eq, h.quits_eq, h.no_help⟩

/-- Along the keys the two stay in step, and they are over with the same one. -/
theorem states {t : TerminalSession} {a : App} (h : Agree t a) (hgoes : t.halted = false)
    {keys : List SharedKey}
    (hhelp : ∀ t' ∈ t.states (keys.map SharedKey.atTerminal), ∀ x ∈ t'.exchanges,
      Text.trim x.1 ≠ App.helpCommand) :
    List.Forall₂ Agree (t.states (keys.map SharedKey.atTerminal))
      (a.states (keys.map SharedKey.onScreen)) := by
  induction keys generalizing t a with
  | nil => exact .nil
  | cons k keys ih =>
    have hquits : a.quits = false := h.quits_eq.trans hgoes
    rw [List.map_cons, TerminalSession.states] at hhelp ⊢
    rw [List.map_cons, App.states, hquits, if_neg Bool.false_ne_true]
    have hnext := h.press k (hhelp _ (List.mem_cons_self))
    refine .cons hnext ?_
    rw [TerminalSession.press_goesOn hgoes] at hhelp ⊢
    cases hhalted : (t.press k.atTerminal).1.halted with
    | true =>
      have hover : (a.press k.onScreen).quits = true := hnext.quits_eq.trans hhalted
      rw [App.states_of_quits hover]
      exact .nil
    | false =>
      rw [hhalted] at hhelp
      exact ih hnext hhalted fun t' ht' => hhelp t' (List.mem_cons_of_mem _ ht')

end Agree

/-- Whatever is keyed at a terminal and, with the keys of the same meaning, in the application, as
long as no line asks for the help text: after every key up to the first reply that ends the session
both have the same text and cursor, the same history with the same place in it and the same draft,
the same lines and replies behind them, and the same stack. -/
theorem shared_keys_agree (showBanner : Bool) {keys : List SharedKey}
    (hhelp : ∀ t ∈ TerminalSession.start.states (keys.map SharedKey.atTerminal),
      ∀ x ∈ t.exchanges, Text.trim x.1 ≠ App.helpCommand) :
    List.Forall₂ Agree (TerminalSession.start.states (keys.map SharedKey.atTerminal))
      ((App.start showBanner).states (keys.map SharedKey.onScreen)) :=
  (agree_start showBanner).states rfl hhelp

/-- A line is brought back in the place of a draft, changed, and submitted. The keys behind the end
of the session are not read any more, whatever line they make. -/
theorem shared_keys_agree_recall :
    let keys := SharedKey.typing (Text.lit "2 3 +") ++ [.enter] ++
      SharedKey.typing (Text.lit "e\u0301") ++ [.up, .down, .wordLeft, .delete, .up, .wordLeft,
        .wordLeft, .delete] ++ SharedKey.typing (Text.lit "4\u0301") ++ [.backspace] ++
      SharedKey.typing (Text.lit "5") ++ [.enter] ++
      SharedKey.typing (Text.lit "exit") ++ [.enter] ++
      SharedKey.typing (Text.lit "help") ++ [.enter]
    let sessions := TerminalSession.start.states (keys.map SharedKey.atTerminal)
    List.Forall₂ Agree sessions ((App.start true).states (keys.map SharedKey.onScreen)) ∧
      sessions.getLast?.map (·.exchanges.map Prod.fst) =
        some [Text.lit "2 3 +", Text.lit "2 5 +", Text.lit "exit"] := by
  intro keys sessions
  have hhelp : ∀ t ∈ sessions, ∀ x ∈ t.exchanges, Text.trim x.1 ≠ App.helpCommand := by
    decide +kernel
  have hlines : sessions.getLast?.map (·.exchanges.map Prod.fst) =
      some [Text.lit "2 3 +", Text.lit "2 5 +", Text.lit "exit"] := by
    decide +kernel
  exact ⟨shared_keys_agree true hhelp, hlines⟩

end PostfixCalc

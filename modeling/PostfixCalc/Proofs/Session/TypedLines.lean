import PostfixCalc.Session.Plain
import PostfixCalc.Proofs.App.Answer
import PostfixCalc.Proofs.Calculator.Exchanges
import PostfixCalc.Proofs.Editor.Edits
import PostfixCalc.Proofs.Text.Lines

namespace PostfixCalc

/-- The keys that type a line and submit it. -/
def Key.line (line : Text) : List Key := line.map typed ++ [plain .enter]

/-- What a plain session shows of an exchange. -/
def Exchange.shown (x : Exchange) : Text :=
  PlainSession.written ((Calculator.prompt ++ x.input) :: x.reply.lines)

namespace App

/-- An application at the beginning of a line. -/
structure Ready (a : App) : Prop where
  no_help : a.help = false
  line_empty : a.editor.line = .empty

theorem ready_start (showBanner : Bool) : (start showBanner).Ready := ⟨rfl, rfl⟩

theorem Ready.answered {a : App} (h : a.Ready) (line : Text) : (a.answered line).Ready :=
  ⟨h.no_help, rfl⟩

theorem press_typed {a : App} (h : a.help = false) (c : Char) :
    a.press (.typed c) = a.onEditor (·.onLine (·.insert c)) :=
  press_plain h (.char c)

theorem foldl_press_typed {a : App} (h : a.help = false) (typed : Text) :
    (typed.map Key.typed).foldl press a =
      a.onEditor (·.onLine (typed.foldl Line.insert)) := by
  induction typed generalizing a with
  | nil => rfl
  | cons c typed ih =>
    have hnext : (a.onEditor (·.onLine (·.insert c))).help = false := h
    rw [List.map_cons, List.foldl_cons, press_typed h, ih hnext]
    rfl

theorem press_enter {a : App} (h : a.help = false) : a.press (.plain .enter) = a.submit :=
  press_plain h .enter

/-- Typing a line and submitting it asks the calculator exactly that line. -/
theorem foldl_press_line {a : App} (h : a.Ready) {line : Text}
    (hhelp : Text.trim line ≠ helpCommand) :
    (Key.line line).foldl press a = a.answered line := by
  let b := a.onEditor (·.onLine (line.foldl Line.insert))
  have hline : b.editor.line = .ofText line := by
    change line.foldl Line.insert a.editor.line = .ofText line
    rw [h.line_empty]
    exact Line.foldl_insert [] line
  have htext : b.editor.line.text = line := by rw [hline, Line.ofText]
  have hb : b.help = false := h.no_help
  rw [Key.line, List.foldl_append, foldl_press_typed h.no_help, List.foldl_cons, List.foldl_nil]
  rw [press_enter hb, submit_of_ne (htext ▸ hhelp), htext]
  rfl

theorem foldl_press_lines {a : App} (h : a.Ready) {lines : List Text}
    (hhelp : ∀ line ∈ lines, Text.trim line ≠ helpCommand) :
    (lines.flatMap Key.line).foldl press a = lines.foldl answered a := by
  induction lines generalizing a with
  | nil => rfl
  | cons line rest ih =>
    have hline : Text.trim line ≠ helpCommand := hhelp line (by simp)
    have hrest : ∀ l ∈ rest, Text.trim l ≠ helpCommand := fun l hl => hhelp l (by simp [hl])
    rw [List.flatMap_cons, List.foldl_append, foldl_press_line h hline, List.foldl_cons]
    exact ih (h.answered line) hrest

theorem foldl_answered (a : App) (lines : List Text) :
    (lines.foldl answered a).stack = Calculator.stackAfter a.stack lines ∧
      (lines.foldl answered a).transcript =
        a.transcript ++ Calculator.exchanges a.stack lines ∧
      (lines.foldl answered a).quits =
        (a.quits || (Calculator.exchanges a.stack lines).any (·.reply.halts)) := by
  induction lines generalizing a with
  | nil => simp [Calculator.stackAfter, Calculator.exchanges]
  | cons line rest ih =>
    obtain ⟨hstack, htranscript, hquits⟩ := ih (a.answered line)
    rw [List.foldl_cons, hstack, htranscript, hquits]
    refine ⟨rfl, ?_, ?_⟩
    · simp [answered, Calculator.exchanges]
    · simp [answered, Calculator.exchanges, Bool.or_assoc]

end App

namespace PlainSession

theorem exchange_encode (s : Stack) (line : Text) :
    exchange s (Text.encode line) =
      (⟨Exchange.shown ⟨line, (Calculator.process s line).reply⟩,
        [(Calculator.process s line).reply], false, (Calculator.process s line).stack⟩,
        !(Calculator.process s line).reply.halts) := by
  rw [exchange, Text.decode?_encode]
  rfl

/-- A session over texts asks the calculator line by line, if it does not end before the last. -/
theorem run_encode (s : Stack) {lines : List Text}
    (hexit : ∀ line ∈ lines.dropLast, Text.trim line ≠ Calculator.exitCommand) :
    run s (lines.map Text.encode) =
      ⟨(Calculator.exchanges s lines).flatMap Exchange.shown,
        (Calculator.exchanges s lines).map Exchange.reply, false,
        Calculator.stackAfter s lines⟩ := by
  induction lines generalizing s with
  | nil => rfl
  | cons line rest ih =>
    rw [List.map_cons, run, exchange_encode]
    cases rest with
    | nil =>
      cases (Calculator.process s line).reply.halts <;>
        simp [run, Calculator.exchanges, Calculator.stackAfter]
    | cons next more =>
      have hgoes : (Calculator.process s line).reply.halts = false := by
        have hline := hexit line (by simp)
        exact Bool.eq_false_iff.mpr (mt (Calculator.process_halts_iff s line).mp hline)
      have hrest : ∀ l ∈ (next :: more).dropLast, Text.trim l ≠ Calculator.exitCommand :=
        fun l hl => hexit l (by simp [hl])
      have hlater := ih (Calculator.process s line).stack hrest
      simp only [hgoes, Bool.not_false, if_true, hlater]
      rfl

end PlainSession

/-- A stream of lines and the same lines typed into the application, code point by code point, get
the same answers and leave the same stack. The transcript has the lines as they were typed, and the
application quits if and only if the session over the stream has been ended by the last line. -/
theorem typed_lines_agree (showBanner bannerShown : Bool) {lines : List Text}
    (hends : ∀ line ∈ lines, '\n' ∉ line ∧ '\r' ∉ line)
    (hhelp : ∀ line ∈ lines, Text.trim line ≠ App.helpCommand)
    (hexit : ∀ line ∈ lines.dropLast, Text.trim line ≠ Calculator.exitCommand) :
    let session := PlainSession.ofBytes showBanner (Text.encode (PlainSession.written lines))
    let app := (lines.flatMap Key.line).foldl App.press (App.start bannerShown)
    app.transcript.map Exchange.reply = session.replies ∧
      app.stack = session.stack ∧
      app.transcript.map Exchange.input = lines ∧
      (app.quits = true ↔ session.halted = true) ∧
      (session.halted = true ↔ ∃ line ∈ lines, Text.trim line = Calculator.exitCommand) ∧
      session.unreadable = false ∧
      session.output =
        PlainSession.banner showBanner ++ app.transcript.flatMap Exchange.shown := by
  intro session app
  have hsession : session = ⟨PlainSession.banner showBanner ++
      (Calculator.exchanges [] lines).flatMap Exchange.shown,
      (Calculator.exchanges [] lines).map Exchange.reply, false,
      Calculator.stackAfter [] lines⟩ := by
    have hlines := Text.byteLines_encode lines hends
    change PlainSession.ofBytes showBanner (Text.encode (lines.flatMap (· ++ ['\n']))) = _
    rw [PlainSession.ofBytes, hlines, PlainSession.run_encode [] hexit]
  have happ : app = lines.foldl App.answered (App.start bannerShown) :=
    App.foldl_press_lines (App.ready_start bannerShown) hhelp
  obtain ⟨hstack, htranscript, hquits⟩ := App.foldl_answered (App.start bannerShown) lines
  rw [← happ] at hstack htranscript hquits
  have htranscript : app.transcript = Calculator.exchanges [] lines := htranscript
  have hhalted : session.halted = (Calculator.exchanges [] lines).any (·.reply.halts) := by
    rw [hsession, PlainSession.halted, List.any_map]
    rfl
  have hquits : app.quits = session.halted := by
    rw [hquits, hhalted]
    rfl
  rw [htranscript, hquits, hhalted, Calculator.exchanges_halt_iff, hsession]
  refine ⟨rfl, hstack, Calculator.exchanges_inputs [] lines, Iff.rfl, Iff.rfl, rfl, rfl⟩

/-- Marks, a joiner, jamo and regional indicators in lines that are typed before the last. -/
theorem typed_lines_agree_clusters :
    let lines : List Text := [Text.lit "2 3 +", Text.lit "e\u0301\u200d1",
      Text.lit "\u1112\u1161\u11ab 🇩🇪🇫", Text.lit " exit "]
    let session := PlainSession.ofBytes true (Text.encode (PlainSession.written lines))
    let app := (lines.flatMap Key.line).foldl App.press (App.start false)
    app.transcript.map Exchange.reply = session.replies ∧ app.stack = session.stack ∧
      app.transcript.map Exchange.input = lines ∧ app.quits = true := by
  intro lines session app
  have hends : ∀ line ∈ lines, '\n' ∉ line ∧ '\r' ∉ line := by decide +kernel
  have hhelp : ∀ line ∈ lines, Text.trim line ≠ App.helpCommand := by decide +kernel
  have hexit : ∀ line ∈ lines.dropLast, Text.trim line ≠ Calculator.exitCommand := by
    decide +kernel
  have hlast : ∃ line ∈ lines, Text.trim line = Calculator.exitCommand := by decide +kernel
  obtain ⟨hreplies, hstack, hinputs, hquits, hhalted, -⟩ :=
    typed_lines_agree true false hends hhelp hexit
  exact ⟨hreplies, hstack, hinputs, hquits.mpr (hhalted.mpr hlast)⟩

end PostfixCalc

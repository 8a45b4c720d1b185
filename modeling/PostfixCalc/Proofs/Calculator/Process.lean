import PostfixCalc.Proofs.Calculator.Evaluation
import PostfixCalc.Proofs.Number.Notation

namespace PostfixCalc

namespace Text

/-- Whether a code point ends a line, here or on any terminal. -/
def isLineBreak (c : Char) : Bool :=
  let n := c.toNat
  decide (0x0A ≤ n ∧ n ≤ 0x0D) || n == 0x85 || n == 0x2028 || n == 0x2029

/-- A text on one line. -/
def OneLine (s : Text) : Prop := ∀ c ∈ s, isLineBreak c = false

instance (s : Text) : Decidable (OneLine s) := List.decidableBAll _ s

theorem isLineBreak_of_isGraphic {c : Char} (h : isGraphic c = true) : isLineBreak c = false := by
  simp only [isGraphic, decide_eq_true_eq] at h
  simp only [isLineBreak, Bool.or_eq_false_iff, decide_eq_false_iff_not, beq_eq_false_iff_ne]
  omega

end Text

theorem Stack.shown_oneLine (s : Stack) : Text.OneLine s.shown := by
  intro c hc
  cases s with
  | nil =>
    obtain rfl : c = '0' := by simpa [shown] using hc
    rfl
  | cons v s => exact Text.isLineBreak_of_isGraphic (v.displayText_graphic c hc)

theorem Rejection.message_oneLine (r : Rejection) : Text.OneLine r.message := by
  cases r <;> decide

section Unrecognized

variable {cs : List Text} {chunk : Text}

theorem Rejection.ofError_unrecognized (alone : Bool) (chunk : Text) :
    ofError alone (.unrecognized chunk) = .notRecognized ∨
      ofError alone (.unrecognized chunk) = .notNumberOrOperator := by
  cases alone
  · exact .inr rfl
  · exact .inl rfl

/-- A chunk is told to be the whole line only if it is. -/
theorem Rejection.ofError_eq_notRecognized_iff (h : chunk ∈ cs) :
    ofError cs[1]?.isNone (.unrecognized chunk) = .notRecognized ↔ cs = [chunk] := by
  cases cs with
  | nil => cases h
  | cons c cs =>
    cases cs with
    | nil => simp [ofError, List.mem_singleton.mp h]
    | cons d cs => simp [ofError]

theorem Rejection.ofError_eq_notNumberOrOperator_iff (h : chunk ∈ cs) :
    ofError cs[1]?.isNone (.unrecognized chunk) = .notNumberOrOperator ↔ 2 ≤ cs.length := by
  cases cs with
  | nil => cases h
  | cons c cs => cases cs <;> simp [ofError]

end Unrecognized

/-- All errors of a valid expression are about an operator. -/
theorem Stack.FailsFirst.cases {s : Stack} {ts : List Token} {e : EvalError}
    (h : s.FailsFirst ts e) :
    (∃ op, e = .tooFewValues op) ∨ ∃ lhs op rhs, e = .notFinite lhs op rhs := by
  obtain ⟨before, t, after, s', -, -, hf⟩ := h
  cases hf with
  | tooFewValues _ op _ => exact .inl ⟨op, rfl⟩
  | notFinite _ lhs rhs op _ => exact .inr ⟨lhs, op, rhs, rfl⟩

/-- The first failing step has one error. -/
theorem Stack.FailsFirst.unique {s : Stack} {cs : List Text} {e e' : EvalError}
    (h : s.FailsFirst (cs.map Token.classify) e) (hv : AllValid cs)
    (h' : s.FailsFirst (cs.map Token.classify) e') : e = e' := by
  have hrun := (Stack.run_eq_error_iff hv.readable s e).mpr h
  rw [(Stack.run_eq_error_iff hv.readable s e').mpr h'] at hrun
  exact (Except.error.inj hrun).symm

namespace Calculator

theorem isChunk_exitCommand : Text.IsChunk exitCommand := by decide

theorem isChunk_resetCommand : Text.IsChunk resetCommand := by decide

theorem exitCommand_ne_resetCommand : exitCommand ≠ resetCommand := by decide

/-- A command is no expression. -/
theorem isValid_command {c : Text} (h : c = exitCommand ∨ c = resetCommand) :
    (Token.classify c).isValid = false := by
  rcases h with rfl | rfl <;> decide +kernel

theorem no_command_of_allValid {cs : List Text} (hv : AllValid cs) :
    ¬ (exitCommand ∈ cs ∨ resetCommand ∈ cs) := by
  intro h
  rcases h with hexit | hreset
  · have hvalid := hv _ hexit
    simp [isValid_command (.inl rfl)] at hvalid
  · have hvalid := hv _ hreset
    simp [isValid_command (.inr rfl)] at hvalid

theorem process_blank (s : Stack) {line : Text} (h : Text.chunks line = []) :
    process s line = ⟨.line [], s, none⟩ := by
  have ht := (Text.trim_eq_nil_iff line).mpr h
  simp only [process, ht]
  rfl

theorem process_exit (s : Stack) {line : Text} (h : Text.chunks line = [exitCommand]) :
    process s line = ⟨.farewell farewell, s, none⟩ := by
  have ht := (Text.trim_eq_iff_of_isChunk isChunk_exitCommand line).mpr h
  simp [process, ht]

theorem process_reset (s : Stack) {line : Text} (h : Text.chunks line = [resetCommand]) :
    process s line = ⟨.line ['0'], [], none⟩ := by
  have ht := (Text.trim_eq_iff_of_isChunk isChunk_resetCommand line).mpr h
  simp [process, ht, exitCommand_ne_resetCommand.symm, Stack.shown]

theorem process_expression (s : Stack) {line : Text} (hne : Text.chunks line ≠ [])
    (hexit : Text.chunks line ≠ [exitCommand]) (hreset : Text.chunks line ≠ [resetCommand]) :
    process s line = processExpression s (Text.trim line) := by
  have h1 := mt (Text.trim_eq_iff_of_isChunk isChunk_exitCommand line).mp hexit
  have h2 := mt (Text.trim_eq_iff_of_isChunk isChunk_resetCommand line).mp hreset
  have h3 := mt (Text.trim_eq_nil_iff line).mp hne
  simp [process, h1, h2, h3]

/-- The session ends at the command that says so, and at nothing else. -/
theorem process_halts_iff (s : Stack) (line : Text) :
    (process s line).reply.halts = true ↔ Text.trim line = exitCommand := by
  simp only [process]
  split_ifs with h1 h2 h3
  · simp [h1, Reply.farewell]
  · simp [h1, Reply.line]
  · simp [h1, Reply.line]
  · simp only [h1, iff_false, processExpression]
    split <;> simp [Reply.line, Reply.rejected]

theorem evaluate_congr (s : Stack) {a b : Text} (h : Text.chunks a = Text.chunks b) :
    evaluate s a = evaluate s b := by
  simp only [evaluate, Stack.evaluate, tokens, h]

/-- The answer to an accepted expression. -/
theorem processExpression_of_ok {s s' : Stack} {expression shown : Text}
    (h : evaluate s expression = (.ok shown, s')) :
    processExpression s expression =
      ⟨.line shown, s', some (.committed expression s'.length)⟩ := by
  simp [processExpression, h]

/-- The answer to a refused expression. -/
theorem processExpression_of_error {s s' : Stack} {expression : Text} {e : EvalError}
    (h : evaluate s expression = (.error e, s')) :
    processExpression s expression =
      ⟨.rejected (.ofError (Text.chunks expression)[1]?.isNone e), s',
        some (.rejected expression e)⟩ := by
  simp [processExpression, h]

/-- An answer to a line of these chunks that is neither blank nor a command. -/
structure Answered (s : Stack) (cs : List Text) (line : Text) (out : Outcome) : Prop where
  goes_on : out.reply.halts = false
  one_line : ∃ l, out.reply.lines = [l] ∧ Text.OneLine l
  accepted_iff : out.reply.rejection = none ↔ ∃ shown s', evaluate s line = (.ok shown, s')
  committed : ∀ shown s', evaluate s line = (.ok shown, s') →
    out.reply.lines = [shown] ∧ out.stack = s'
  notRecognized_iff : out.reply.rejection = some .notRecognized ↔
    ∃ c, cs = [c] ∧ (Token.classify c).isValid = false
  notNumberOrOperator_iff : out.reply.rejection = some .notNumberOrOperator ↔
    2 ≤ cs.length ∧ ∃ c ∈ cs, (Token.classify c).isValid = false
  command_with_others : 2 ≤ cs.length → exitCommand ∈ cs ∨ resetCommand ∈ cs →
    out.reply.rejection = some .notNumberOrOperator
  notEnoughValues_iff : out.reply.rejection = some .notEnoughValues ↔
    AllValid cs ∧ ∃ op, s.FailsFirst (cs.map Token.classify) (.tooFewValues op)
  invalidResult_iff : out.reply.rejection = some .invalidResult ↔
    AllValid cs ∧ ∃ lhs op rhs, s.FailsFirst (cs.map Token.classify) (.notFinite lhs op rhs)
  kept : out.reply.rejection ≠ none → out.stack = s

theorem answered_of_ok {s s' : Stack} {line shown : Text} (record : Option Record)
    (h : evaluate s line = (.ok shown, s')) :
    Answered s (Text.chunks line) line ⟨.line shown, s', record⟩ := by
  obtain ⟨heval, hshown⟩ := (evaluate_eq_ok_iff s s' line shown).mp h
  obtain ⟨hv, hrun⟩ := (Stack.evaluate_eq_ok_iff s s' line).mp heval
  have hfail : ∀ e, ¬ s.FailsFirst ((Text.chunks line).map Token.classify) e := by
    intro e hf
    have hbad := (Stack.evaluate_eq_error_iff s line e).mpr (.inr ⟨hv, hf⟩)
    simp [heval] at hbad
  refine ⟨rfl, ⟨shown, rfl, hshown ▸ s'.shown_oneLine⟩,
    ?accepted, ?committed, ?notRecognized, ?notNumberOrOperator, ?command, ?notEnoughValues,
    ?invalidResult, ?kept⟩
  case accepted =>
    exact ⟨fun _ => ⟨shown, s', h⟩, fun _ => rfl⟩
  case committed =>
    intro shown' s'' h'
    obtain ⟨rfl, rfl⟩ : shown = shown' ∧ s' = s'' := by simpa [h] using h'
    exact ⟨rfl, rfl⟩
  case notRecognized =>
    simp [Reply.line, hv.not_alone]
  case notNumberOrOperator =>
    simp [Reply.line, hv.no_invalid]
  case command =>
    intro _ hc
    exact absurd hc (no_command_of_allValid hv)
  case notEnoughValues =>
    simp [Reply.line, hfail]
  case invalidResult =>
    simp [Reply.line, hfail]
  case kept =>
    simp [Reply.line]

theorem answered_of_firstInvalid {s : Stack} {line chunk : Text} (record : Option Record)
    (hi : FirstInvalid (Text.chunks line) chunk) :
    Answered s (Text.chunks line) line
      ⟨.rejected (.ofError (Text.chunks line)[1]?.isNone (.unrecognized chunk)), s, record⟩ := by
  have h : evaluate s line = (.error (.unrecognized chunk), s) :=
    (evaluate_eq_error_iff s s line _).mpr ⟨rfl, Stack.evaluate_of_firstInvalid s hi⟩
  have hv := hi.not_allValid
  obtain ⟨before, after, hsplit, -, hbad⟩ := hi
  have hmem : chunk ∈ Text.chunks line := by simp [hsplit]
  generalize Text.chunks line = cs at hv hmem ⊢
  have halone := Rejection.ofError_eq_notRecognized_iff hmem
  have hseveral := Rejection.ofError_eq_notNumberOrOperator_iff hmem
  have hrejection := Rejection.ofError_unrecognized cs[1]?.isNone chunk
  refine ⟨rfl, ⟨_, rfl, Rejection.message_oneLine _⟩,
    ?accepted, ?committed, ?notRecognized, ?notNumberOrOperator, ?command, ?notEnoughValues,
    ?invalidResult, fun _ => rfl⟩
  case accepted =>
    simp [Reply.rejected, h]
  case committed =>
    simp [h]
  case notRecognized =>
    simp only [Reply.rejected, Option.some.injEq, halone]
    constructor
    · intro hcs
      exact ⟨chunk, hcs, hbad⟩
    · rintro ⟨c, rfl, -⟩
      rw [List.mem_singleton.mp hmem]
  case notNumberOrOperator =>
    simp only [Reply.rejected, Option.some.injEq, hseveral]
    constructor
    · intro hlen
      exact ⟨hlen, chunk, hmem, hbad⟩
    · rintro ⟨hlen, -⟩
      exact hlen
  case command =>
    intro hlen _
    exact congrArg some (hseveral.mpr hlen)
  case notEnoughValues =>
    rcases hrejection with hr | hr <;> simp [Reply.rejected, hr, hv]
  case invalidResult =>
    rcases hrejection with hr | hr <;> simp [Reply.rejected, hr, hv]

theorem answered_of_failsFirst {s : Stack} {line : Text} {e : EvalError} (record : Option Record)
    (hv : AllValid (Text.chunks line))
    (hf : s.FailsFirst ((Text.chunks line).map Token.classify) e) :
    Answered s (Text.chunks line) line
      ⟨.rejected (.ofError (Text.chunks line)[1]?.isNone e), s, record⟩ := by
  have h : evaluate s line = (.error e, s) :=
    (evaluate_eq_error_iff s s line _).mpr
      ⟨rfl, (Stack.evaluate_eq_error_iff s line e).mpr (.inr ⟨hv, hf⟩)⟩
  have honly : ∀ e', s.FailsFirst ((Text.chunks line).map Token.classify) e' → e = e' :=
    fun _ => hf.unique hv
  refine ⟨rfl, ⟨_, rfl, Rejection.message_oneLine _⟩,
    ?accepted, ?committed, ?notRecognized, ?notNumberOrOperator, ?command, ?notEnoughValues,
    ?invalidResult, fun _ => rfl⟩
  case accepted =>
    simp [Reply.rejected, h]
  case committed =>
    simp [h]
  case notRecognized =>
    rcases hf.cases with ⟨op, rfl⟩ | ⟨lhs, op, rhs, rfl⟩ <;>
      simp [Reply.rejected, Rejection.ofError, hv.not_alone]
  case notNumberOrOperator =>
    rcases hf.cases with ⟨op, rfl⟩ | ⟨lhs, op, rhs, rfl⟩ <;>
      simp [Reply.rejected, Rejection.ofError, hv.no_invalid]
  case command =>
    intro _ hc
    exact absurd hc (no_command_of_allValid hv)
  case notEnoughValues =>
    rcases hf.cases with ⟨op, rfl⟩ | ⟨lhs, op, rhs, rfl⟩
    · simpa [Reply.rejected, Rejection.ofError, hv] using ⟨op, hf⟩
    · simp only [Reply.rejected, Rejection.ofError, Option.some.injEq, reduceCtorEq, false_iff]
      intro ⟨_, op', hf'⟩
      exact absurd (honly _ hf') (by simp)
  case invalidResult =>
    rcases hf.cases with ⟨op, rfl⟩ | ⟨lhs, op, rhs, rfl⟩
    · simp only [Reply.rejected, Rejection.ofError, Option.some.injEq, reduceCtorEq, false_iff]
      intro ⟨_, lhs, op', rhs, hf'⟩
      exact absurd (honly _ hf') (by simp)
    · simpa [Reply.rejected, Rejection.ofError, hv] using ⟨lhs, op, rhs, hf⟩

theorem answered_processExpression (s : Stack) {line expression : Text}
    (h : Text.chunks expression = Text.chunks line) :
    Answered s (Text.chunks line) line (processExpression s expression) := by
  have hcongr := evaluate_congr s h
  cases heval : s.evaluate line with
  | ok s' =>
    have hok := (evaluate_eq_ok_iff s s' line _).mpr ⟨heval, rfl⟩
    rw [processExpression_of_ok (hcongr.trans hok)]
    exact answered_of_ok _ hok
  | error e =>
    have herr := (evaluate_eq_error_iff s s line e).mpr ⟨rfl, heval⟩
    rw [processExpression_of_error (hcongr.trans herr), h]
    rcases (Stack.evaluate_eq_error_iff s line e).mp heval with ⟨chunk, hi, rfl⟩ | ⟨hv, hf⟩
    · exact answered_of_firstInvalid _ hi
    · exact answered_of_failsFirst _ hv hf

/-- The reply to an expression and the stack after it depend on its chunks only. -/
theorem processExpression_congr (s : Stack) {a b : Text} (h : Text.chunks a = Text.chunks b) :
    (processExpression s a).reply = (processExpression s b).reply ∧
      (processExpression s a).stack = (processExpression s b).stack := by
  have hcongr := evaluate_congr s h
  simp only [processExpression, hcongr, h]
  split <;> exact ⟨rfl, rfl⟩

theorem process_congr (s : Stack) {a b : Text} (h : Text.chunks a = Text.chunks b) :
    (process s a).reply = (process s b).reply ∧ (process s a).stack = (process s b).stack := by
  by_cases hnil : Text.chunks b = []
  · rw [process_blank s (h.trans hnil), process_blank s hnil]
    exact ⟨rfl, rfl⟩
  by_cases hexit : Text.chunks b = [exitCommand]
  · rw [process_exit s (h.trans hexit), process_exit s hexit]
    exact ⟨rfl, rfl⟩
  by_cases hreset : Text.chunks b = [resetCommand]
  · rw [process_reset s (h.trans hreset), process_reset s hreset]
    exact ⟨rfl, rfl⟩
  rw [process_expression s (h ▸ hnil) (h ▸ hexit) (h ▸ hreset),
    process_expression s hnil hexit hreset]
  exact processExpression_congr s (by simpa using h)

/-- What a line leads to is told by the old stack and the chunks of the line: nothing for a blank
line, the farewell and an empty stack for the two commands, and an answer to an expression for
everything else. -/
theorem process_of_spaced (s : Stack) {cs : List Text} {line : Text} (h : Text.Spaced cs line) :
    (∀ line', Text.Spaced cs line' → (process s line').reply = (process s line).reply ∧
      (process s line').stack = (process s line).stack) ∧
    (cs = [] → (process s line).reply = .line [] ∧ (process s line).stack = s) ∧
    (cs = [exitCommand] →
      (process s line).reply = .farewell farewell ∧ (process s line).stack = s) ∧
    (cs = [resetCommand] → (process s line).reply = .line ['0'] ∧ (process s line).stack = []) ∧
    (cs ≠ [] → cs ≠ [exitCommand] → cs ≠ [resetCommand] →
      Answered s cs line (process s line)) := by
  have hcs := h.chunks_eq
  refine ⟨fun line' h' => ?_, fun hnil => ?_, fun hexit => ?_, fun hreset => ?_,
    fun hnil hexit hreset => ?_⟩
  · exact process_congr s (h'.chunks_eq.trans hcs.symm)
  · rw [process_blank s (hcs.trans hnil)]
    exact ⟨rfl, rfl⟩
  · rw [process_exit s (hcs.trans hexit)]
    exact ⟨rfl, rfl⟩
  · rw [process_reset s (hcs.trans hreset)]
    exact ⟨rfl, rfl⟩
  · subst hcs
    rw [process_expression s hnil hexit hreset]
    exact answered_processExpression s (Text.chunks_trim line)

/-- The command for the end next to a number is refused, whatever blanks stand around the two. -/
theorem process_of_spaced_command :
    let cs : List Text := [exitCommand, ['5']]
    let line : Text := Text.lit "\u00a0exit\u2003 5\t"
    let out := process [.zero false] line
    Text.Spaced cs line ∧ out.reply.halts = false ∧
      out.reply.rejection = some .notNumberOrOperator ∧ out.stack = [.zero false] := by
  intro cs line out
  have hspaced : Text.Spaced cs line := Text.spaced_iff.mpr (by decide +kernel)
  obtain ⟨-, -, -, -, hanswered⟩ := process_of_spaced [.zero false] hspaced
  have hout : Answered [.zero false] cs line out :=
    hanswered (by decide) (by decide) (by decide)
  have hrejected : out.reply.rejection = some .notNumberOrOperator :=
    hout.command_with_others (by decide) (.inl (by decide))
  exact ⟨hspaced, hout.goes_on, hrejected, hout.kept (by simp [hrejected])⟩

end Calculator

end PostfixCalc

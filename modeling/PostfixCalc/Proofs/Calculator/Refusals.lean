import PostfixCalc.Proofs.Calculator.Displayed

namespace PostfixCalc

namespace Binary64

variable {v : Binary64} (h : v.isFinite = true)

include h

theorem classify_plainText : Token.classify v.plainText = .number v :=
  (Token.classify_eq_number_iff _ _).mpr (readNumber?_plainText h)

theorem plainText_isChunk : Text.IsChunk v.plainText :=
  isChunk_of_readNumber? (readNumber?_plainText h) v.plainText_graphic

end Binary64

theorem Operator.symbol_isChunk (op : Operator) : Text.IsChunk [op.symbol] := by
  cases op <;> decide

namespace EvalError

/-- The words behind an operation that is refused. -/
def refusal : List Text :=
  [Text.lit "does", Text.lit "not", Text.lit "produce", Text.lit "a", Text.lit "finite",
    Text.lit "value"]

theorem message_notFinite (lhs rhs : Binary64) (op : Operator) :
    (notFinite lhs op rhs).message =
      [' '].intercalate (lhs.plainText :: [op.symbol] :: rhs.plainText :: refusal) := by
  have hrefusal : Text.lit " does not produce a finite value" =
      ' ' :: [' '].intercalate refusal := by
    decide
  simp [message, hrefusal, List.intercalate_cons_cons, refusal]

theorem chunks_message_notFinite {lhs rhs : Binary64} (op : Operator) (hlhs : lhs.isFinite = true)
    (hrhs : rhs.isFinite = true) : Text.chunks (notFinite lhs op rhs).message =
      lhs.plainText :: [op.symbol] :: rhs.plainText :: refusal := by
  have hrefusal : ∀ c ∈ refusal, Text.IsChunk c := by decide
  rw [message_notFinite, Text.chunks_intercalate]
  simp only [List.forall_mem_cons]
  exact ⟨Binary64.plainText_isChunk hlhs, op.symbol_isChunk, Binary64.plainText_isChunk hrhs,
    hrefusal⟩

end EvalError

namespace Stack

/-- An operator met two values, and what it makes of them is not finite. -/
theorem FailsFirst.exists_operands {s : Stack} {cs : List Text} {lhs rhs : Binary64} {op : Operator}
    (h : s.FailsFirst (cs.map Token.classify) (.notFinite lhs op rhs)) (hcs : AllValid cs)
    (hs : s.AllFinite) :
    (∃ before behind rest, cs.map Token.classify = before ++ .operator op :: behind ∧
      s.Executes before (rhs :: lhs :: rest)) ∧
      lhs.isFinite = true ∧ rhs.isFinite = true ∧ (op.eval lhs rhs).isFinite = false := by
  obtain ⟨before, t, behind, s', hsplit, hrun, hfail⟩ := h
  cases hfail with
  | notFinite rest _ _ _ hv =>
    have hreadable : ∀ t ∈ before, t.Readable := by
      intro t ht
      exact hcs.readable t (hsplit ▸ List.mem_append_left _ ht)
    have hfinite := run_allFinite ((run_eq_ok_iff hreadable s _).mpr hrun) hs
    exact ⟨⟨before, behind, rest, hsplit, hrun⟩, hfinite lhs (by simp), hfinite rhs (by simp), hv⟩

/-- Written behind its operands, an operator meets exactly them. -/
theorem evaluate_operation {lhs rhs : Binary64} {op : Operator} {a b c line : Text}
    (hline : Text.Spaced [a, b, c] line) (ha : Token.classify a = .number lhs)
    (hb : Token.classify b = .number rhs) (hc : Token.classify c = .operator op)
    (hv : (op.eval lhs rhs).isFinite = false) (s : Stack) :
    s.evaluate line = .error (.notFinite lhs op rhs) := by
  have hvalid : AllValid (Text.chunks line) := by
    rw [hline.chunks_eq]
    simp [AllValid, ha, hb, hc, Token.isValid]
  refine (evaluate_eq_error_iff s line _).mpr (.inr ⟨hvalid, ?_⟩)
  rw [tokens, hline.chunks_eq, List.map_cons, List.map_cons, List.map_singleton, ha, hb, hc]
  have hrun : s.Executes [.number lhs, .number rhs] (rhs :: lhs :: s) :=
    .cons (.number s lhs) (.cons (.number (lhs :: s) rhs) (.nil _))
  exact ⟨_, _, [], _, rfl, hrun, .notFinite s lhs rhs op hv⟩

end Stack

namespace Calculator

/-- An operation that is refused is told as it was met: the first three words of the message are the
two topmost values that the operator found, bit for bit, and the operator between them. Written with
the operator last and given to a new calculator, they are refused with the same message. -/
theorem evaluate_refused (calls : List Call) {expression : Text} {lhs rhs : Binary64}
    {op : Operator} {s' : Stack}
    (h : evaluate (after calls) expression = (.error (.notFinite lhs op rhs), s')) :
    (∃ before behind rest, tokens expression = before ++ .operator op :: behind ∧
      (after calls).Executes before (rhs :: lhs :: rest)) ∧
    ∃ left symbol right words,
      Text.chunks (EvalError.notFinite lhs op rhs).message = left :: symbol :: right :: words ∧
      Token.classify left = .number lhs ∧ Token.classify symbol = .operator op ∧
      Token.classify right = .number rhs ∧
      ∀ line, Text.Spaced [left, right, symbol] line →
        evaluate [] line = (.error (.notFinite lhs op rhs), []) := by
  obtain ⟨-, herror⟩ := (evaluate_eq_error_iff _ _ _ _).mp h
  rcases (Stack.evaluate_eq_error_iff _ _ _).mp herror with ⟨chunk, -, hchunk⟩ | ⟨hvalid, hfails⟩
  · cases hchunk
  obtain ⟨hmet, hlhs, hrhs, hv⟩ := hfails.exists_operands hvalid (after_allFinite calls)
  have hleft := Binary64.classify_plainText hlhs
  have hright := Binary64.classify_plainText hrhs
  have hsymbol := Token.classify_symbol op
  refine ⟨hmet, _, _, _, _, EvalError.chunks_message_notFinite op hlhs hrhs, hleft, hsymbol, hright,
    fun line hline => ?_⟩
  have hagain := Stack.evaluate_operation hline hleft hright hsymbol hv []
  exact (evaluate_eq_error_iff _ _ _ _).mpr ⟨rfl, hagain⟩

/-- A number with all its places in front of a zero with a sign, in the middle of a line. -/
theorem evaluate_refused_places :
    let calls : List Call := [.process (Text.lit "7")]
    let lhs : Binary64 := .ofRank false 2024
    let rhs : Binary64 := .zero true
    let e : EvalError := .notFinite lhs .div rhs
    evaluate (after calls) (Text.lit "1e-320 -0 / +") = (.error e, after calls) ∧
      ∃ left symbol right words, Text.chunks e.message = left :: symbol :: right :: words ∧
        Token.classify left = .number lhs ∧ Token.classify right = .number rhs ∧
        ∀ line, Text.Spaced [left, right, symbol] line → evaluate [] line = (.error e, []) := by
  intro calls lhs rhs e
  have h : evaluate (after calls) (Text.lit "1e-320 -0 / +") = (.error e, after calls) := by
    decide +kernel
  obtain ⟨-, left, symbol, right, words, hwords, hleft, -, hright, hagain⟩ :=
    evaluate_refused calls h
  exact ⟨h, left, symbol, right, words, hwords, hleft, hright, hagain⟩

end Calculator

end PostfixCalc

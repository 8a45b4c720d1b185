import PostfixCalc.App.TranscriptPanel
import PostfixCalc.Proofs.Calculator.Process
import PostfixCalc.Proofs.Calculator.Tokens
import PostfixCalc.Proofs.Text.Wrapping

namespace PostfixCalc

namespace Highlight

theorem map_intersperse {α β : Type} (f : α → β) (sep : α) (l : List α) :
    (l.intersperse sep).map f = (l.map f).intersperse (f sep) := by
  induction l with
  | nil => rfl
  | cons a l ih =>
    cases l with
    | nil => rfl
    | cons b l =>
      rw [List.intersperse_cons_cons, List.map_cons, List.map_cons, ih]
      rfl

/-- What does not hold of the separator holds of an item if it holds of anything. -/
theorem exists_mem_intersperse {α : Type} {p : α → Prop} {sep : α} (h : ¬ p sep) (l : List α) :
    (∃ a ∈ l.intersperse sep, p a) ↔ ∃ a ∈ l, p a := by
  induction l with
  | nil => rfl
  | cons a l ih =>
    cases l with
    | nil => rfl
    | cons b l =>
      rw [List.intersperse_cons_cons]
      simp only [List.exists_mem_cons_iff, h, false_or] at ih ⊢
      rw [ih]

/-- The texts of the pieces, one after the other. -/
theorem flatMap_text_spans (base : Style) (line : Text) :
    (spans base line).flatMap Span.text = [' '].intercalate (Text.chunks line) := by
  have htexts : (spans base line).map Span.text = (Text.chunks line).intersperse [' '] := by
    rw [spans, map_intersperse, List.map_map]
    exact congrArg (List.intersperse [' ']) (List.map_id _)
  rw [List.flatMap_def, htexts, List.intercalate]

/-- A chunk stands at every other place. -/
theorem spans_getElem? (base : Style) (line : Text) (i : Nat) :
    (spans base line)[2 * i]? = (Text.chunks line)[i]?.map fun c => ⟨c, styleOf base c⟩ := by
  rw [spans, List.getElem?_intersperse_two_mul, List.getElem?_map]

theorem styleOf_number (base : Style) {chunk : Text} {v : Binary64}
    (h : Token.classify chunk = .number v) : styleOf base chunk = numberStyle := by
  simp only [styleOf, h]

theorem styleOf_operator (base : Style) {chunk : Text} {op : Operator}
    (h : Token.classify chunk = .operator op) : styleOf base chunk = operatorStyle := by
  simp only [styleOf, h]

theorem styleOf_eq_invalid_iff {base : Style} (h : base ≠ invalidStyle) (chunk : Text) :
    styleOf base chunk = invalidStyle ↔ (Token.classify chunk).isValid = false ∧
      chunk ≠ Calculator.exitCommand ∧ chunk ≠ Calculator.resetCommand := by
  rw [styleOf]
  cases Token.classify chunk with
  | number v => simp [Token.isValid, numberStyle, invalidStyle, Style.colored, Style.marked]
  | operator op => simp [Token.isValid, operatorStyle, invalidStyle, Style.strong, Style.marked]
  | invalid s =>
    by_cases hcommand : chunk = Calculator.exitCommand ∨ chunk = Calculator.resetCommand
    · simp [Token.isValid, isCommand, hcommand, h, ← not_or]
    · simp [Token.isValid, isCommand, hcommand, ← not_or]

theorem exists_invalid_span_iff {base : Style} (h : base ≠ invalidStyle) (line : Text) :
    (∃ span ∈ spans base line, span.style = invalidStyle) ↔
      ∃ c ∈ Text.chunks line, (Token.classify c).isValid = false ∧
        c ≠ Calculator.exitCommand ∧ c ≠ Calculator.resetCommand := by
  have hblank : (Span.raw [' ']).style ≠ invalidStyle := by decide
  rw [spans, exists_mem_intersperse (p := fun span : Span => span.style = invalidStyle) hblank]
  simp [styleOf_eq_invalid_iff h]

end Highlight

namespace Text

/-- Nothing is lost or moved when a text is wrapped. Its code points other than blanks stand on the
lines in their order, and the chunks of the lines are its chunks, of which only those are cut that
are too wide for a line by themselves. A line has one blank between its chunks, so that the pieces
of it in their colors make it up, and is not wrapped any further. -/
theorem wrap_lossless (s : Text) {limit : Nat} (h : 0 < limit) :
    let lines := wrap s limit
    lines.flatMap (·.filter (!isBlank ·)) = s.filter (!isBlank ·) ∧
      (∃ pieces : List (List Text), pieces.map List.flatten = chunks s ∧
        pieces.flatten = lines.flatMap chunks ∧
        ∀ p ∈ pieces, width p.flatten ≤ limit → p = [p.flatten]) ∧
      ∀ l ∈ lines, [' '].intercalate (chunks l) = l ∧ trim l = l ∧
        (∀ base, (Highlight.spans base l).flatMap Span.text = l) ∧ wrap l limit = [l] := by
  intro lines
  refine ⟨filter_wrap h s, ⟨(chunks s).map (parts limit), ?_, ?_, ?_⟩, fun l hl => ?_⟩
  · rw [List.map_map]
    exact List.map_id'' (flatten_parts limit) _
  · rw [flatMap_chunks_wrap h, List.flatMap_def]
  · intro p hp hroom
    obtain ⟨chunk, -, rfl⟩ := List.mem_map.mp hp
    rw [flatten_parts] at hroom ⊢
    rw [parts, if_neg (Nat.not_lt.mpr hroom)]
  · have hline := isLine_of_mem_wrap h s l hl
    exact ⟨hline.tidy, hline.tidy.trim_eq,
      fun base => (Highlight.flatMap_text_spans base l).trans hline.tidy, wrap_of_isLine h hline⟩

/-- Seven digits on lines of five columns are cut, their neighbours are not. -/
theorem wrap_lossless_digits :
    let s := Text.lit " 12  34 5678901 + "
    let lines := wrap s 5
    0 < 5 ∧ lines = [Text.lit "12 34", Text.lit "56789", Text.lit "01", Text.lit "+"] ∧
      lines.flatMap (·.filter (!isBlank ·)) = Text.lit "12345678901+" ∧
      (Highlight.spans .unstyled (Text.lit "12 34")).flatMap Span.text = Text.lit "12 34" ∧
      wrap (Text.lit "12 34") 5 = [Text.lit "12 34"] := by
  intro s lines
  have hpos : 0 < 5 := Nat.zero_lt_succ 4
  obtain ⟨hkept, -, hlines⟩ := wrap_lossless s hpos
  obtain ⟨-, -, hspans, hfixed⟩ := hlines (Text.lit "12 34") (by decide +kernel)
  exact ⟨hpos, by decide +kernel, hkept, hspans .unstyled, hfixed⟩

end Text

namespace Calculator

theorem two_le_length_of_mem {cs : List Text} {c : Text} (h : c ∈ cs) (hne : cs ≠ [c]) :
    2 ≤ cs.length := by
  have hpos := List.length_pos_of_mem h
  by_contra hlen
  obtain ⟨d, rfl⟩ := List.length_eq_one_iff.mp (show cs.length = 1 by omega)
  exact hne (by rw [List.mem_singleton.mp h])

/-- A line is refused as unrecognized for an invalid chunk, unless that is a command by itself. -/
theorem process_unrecognized_iff (s : Stack) (line : Text) :
    ((process s line).reply.rejection = some .notRecognized ∨
        (process s line).reply.rejection = some .notNumberOrOperator) ↔
      (∃ c ∈ Text.chunks line, (Token.classify c).isValid = false) ∧
        Text.chunks line ≠ [exitCommand] ∧ Text.chunks line ≠ [resetCommand] := by
  by_cases hnil : Text.chunks line = []
  · rw [process_blank s hnil, hnil]
    simp [Reply.line]
  by_cases hexit : Text.chunks line = [exitCommand]
  · rw [process_exit s hexit]
    simp [Reply.farewell, hexit]
  by_cases hreset : Text.chunks line = [resetCommand]
  · rw [process_reset s hreset]
    simp [Reply.line, hreset]
  have hanswered := answered_processExpression s (Text.chunks_trim line)
  rw [process_expression s hnil hexit hreset, hanswered.notRecognized_iff,
    hanswered.notNumberOrOperator_iff]
  constructor
  · rintro (⟨c, hc, hinvalid⟩ | ⟨-, hinvalid⟩)
    · exact ⟨⟨c, by rw [hc]; exact List.mem_cons_self, hinvalid⟩, hexit, hreset⟩
    · exact ⟨hinvalid, hexit, hreset⟩
  · rintro ⟨⟨c, hc, hinvalid⟩, -, -⟩
    by_cases hone : Text.chunks line = [c]
    · exact .inl ⟨c, hone, hinvalid⟩
    · exact .inr ⟨two_le_length_of_mem hc hone, c, hc, hinvalid⟩

/-- Invalid chunks that are not a command by themselves: one of them is no command at all, or a
command has others beside it. -/
theorem exists_invalid_iff (cs : List Text) :
    ((∃ c ∈ cs, (Token.classify c).isValid = false) ∧ cs ≠ [exitCommand] ∧ cs ≠ [resetCommand]) ↔
      (∃ c ∈ cs, (Token.classify c).isValid = false ∧ c ≠ exitCommand ∧ c ≠ resetCommand) ∨
        2 ≤ cs.length ∧ (exitCommand ∈ cs ∨ resetCommand ∈ cs) := by
  constructor
  · rintro ⟨⟨c, hc, hinvalid⟩, hexit, hreset⟩
    by_cases hisExit : c = exitCommand
    · subst hisExit
      exact .inr ⟨two_le_length_of_mem hc hexit, .inl hc⟩
    by_cases hisReset : c = resetCommand
    · subst hisReset
      exact .inr ⟨two_le_length_of_mem hc hreset, .inr hc⟩
    exact .inl ⟨c, hc, hinvalid, hisExit, hisReset⟩
  · rintro (⟨c, hc, hinvalid, hexit, hreset⟩ | ⟨hlen, hcommand⟩)
    · refine ⟨⟨c, hc, hinvalid⟩, ?_, ?_⟩
      · rintro rfl
        exact hexit (List.mem_singleton.mp hc)
      · rintro rfl
        exact hreset (List.mem_singleton.mp hc)
    · have hlong : ∀ c, cs ≠ [c] := by
        rintro c rfl
        simp at hlen
      refine ⟨?_, hlong _, hlong _⟩
      rcases hcommand with hexit | hreset
      · exact ⟨exitCommand, hexit, isValid_command (.inl rfl)⟩
      · exact ⟨resetCommand, hreset, isValid_command (.inr rfl)⟩

/-- What the colors of a line say about the answer to it. It is refused as unrecognized exactly if a
chunk has the style of the invalid ones or a command stands next to other chunks, which does not
show. Every chunk is a piece of its own, and numbers and operators have their styles. -/
theorem process_unrecognized_iff_spans (s : Stack) (line : Text) :
    let cs := Text.chunks line
    let spans := Highlight.spans (.colored .cyan) line
    let rejection := (process s line).reply.rejection
    ((rejection = some .notRecognized ∨ rejection = some .notNumberOrOperator) ↔
      (∃ span ∈ spans, span.style = Highlight.invalidStyle) ∨
        2 ≤ cs.length ∧ (exitCommand ∈ cs ∨ resetCommand ∈ cs)) ∧
    ∀ i, ∀ c ∈ cs[i]?, ∃ style, spans[2 * i]? = some ⟨c, style⟩ ∧
      (∀ v, Token.classify c = .number v → style = Highlight.numberStyle) ∧
      (∀ op, Token.classify c = .operator op → style = Highlight.operatorStyle) ∧
      (style = Highlight.invalidStyle ↔ (Token.classify c).isValid = false ∧
        c ≠ exitCommand ∧ c ≠ resetCommand) := by
  have hcyan : Style.colored .cyan ≠ Highlight.invalidStyle := by decide
  intro cs spans rejection
  constructor
  · rw [process_unrecognized_iff, Highlight.exists_invalid_span_iff hcyan, exists_invalid_iff]
  · intro i c hc
    refine ⟨Highlight.styleOf (.colored .cyan) c, ?_, fun v hv => ?_, fun op hop => ?_, ?_⟩
    · rw [Highlight.spans_getElem?, Option.mem_def.mp hc, Option.map_some]
    · exact Highlight.styleOf_number _ hv
    · exact Highlight.styleOf_operator _ hop
    · exact Highlight.styleOf_eq_invalid_iff hcyan c

/-- A line can be refused as unrecognized without a sign of it. -/
theorem not_process_unrecognized_iff_invalid :
    ¬ ∀ (s : Stack) (line : Text), Text.chunks line ≠ [] →
      (((process s line).reply.rejection = some .notRecognized ∨
          (process s line).reply.rejection = some .notNumberOrOperator) ↔
        ∃ span ∈ Highlight.spans (.colored .cyan) line, span.style = Highlight.invalidStyle) := by
  intro h
  let line : Text := exitCommand ++ [' ', '5']
  have hrejected : (process [] line).reply.rejection = some .notNumberOrOperator := by
    decide +kernel
  have hshown := (h [] line (by decide +kernel)).mp (.inr hrejected)
  exact absurd hshown (by decide +kernel)

end Calculator

end PostfixCalc

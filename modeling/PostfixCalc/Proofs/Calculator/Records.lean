import PostfixCalc.Calculator.LogFilter
import PostfixCalc.Proofs.Calculator.Process
import PostfixCalc.Proofs.Text.Quoted
import PostfixCalc.Proofs.Text.Spacing

namespace PostfixCalc

namespace Text

set_option maxRecDepth 8192

theorem isLineBreak_of_not_isBlank {c : Char} (h : isBlank c = false) : isLineBreak c = false := by
  simp only [isBlank, Bool.or_eq_false_iff, decide_eq_false_iff_not, beq_eq_false_iff_ne] at h
  simp only [isLineBreak, Bool.or_eq_false_iff, decide_eq_false_iff_not, beq_eq_false_iff_ne]
  omega

theorem IsChunk.oneLine {chunk : Text} (h : IsChunk chunk) : OneLine chunk :=
  fun c hc => isLineBreak_of_not_isBlank (h.2 c hc)

theorem oneLine_append {a b : Text} (ha : OneLine a) (hb : OneLine b) : OneLine (a ++ b) :=
  List.forall_mem_append.mpr ⟨ha, hb⟩

/-- No line break is shown as it is. -/
theorem isLineBreak_of_isPlain {c : Char} (h : isPlain c = true) : isLineBreak c = false := by
  rw [Bool.eq_false_iff]
  intro hbreak
  simp only [isLineBreak, Bool.or_eq_true, decide_eq_true_eq, beq_iff_eq] at hbreak
  rcases hbreak with ((hascii | hnext) | hline) | hparagraph
  · have hsmall : c.toNat < 0x80 := by omega
    rw [isPlain, if_pos hsmall, decide_eq_true_eq] at h
    omega
  · obtain rfl : c = '\u0085' := Char.toNat_inj.mp hnext
    exact absurd h (by decide)
  · obtain rfl : c = '\u2028' := Char.toNat_inj.mp hline
    exact absurd h (by decide)
  · obtain rfl : c = '\u2029' := Char.toNat_inj.mp hparagraph
    exact absurd h (by decide)

theorem isGraphic_digitChar : ∀ k < 16, isGraphic (Nat.digitChar k) = true := by decide

theorem escape_oneLine (c : Char) : OneLine (escape c) := by
  unfold escape
  split_ifs with hnull htab hfeed hreturn hmarked hplain
  · decide
  · decide
  · decide
  · decide
  · rcases hmarked with rfl | rfl <;> decide
  · exact List.forall_mem_singleton.mpr (isLineBreak_of_isPlain hplain)
  · have hdigits : OneLine (Nat.toDigits 16 c.toNat) := by
      intro d hd
      obtain ⟨k, hk, rfl⟩ := exists_digitChar hd
      exact isLineBreak_of_isGraphic (isGraphic_digitChar k hk)
    exact oneLine_append (a := ['\\', 'u', '\x7b']) (by decide) (oneLine_append hdigits (by decide))

theorem quoted_oneLine (s : Text) : OneLine (quoted s) := by
  have hinside : OneLine (s.flatMap escape) := by
    intro d hd
    obtain ⟨c, -, hd⟩ := List.mem_flatMap.mp hd
    exact escape_oneLine c d hd
  exact oneLine_append (a := ['"']) (by decide) (oneLine_append hinside (by decide))

end Text

open Text (OneLine oneLine_append lit)

theorem Binary64.plainText_oneLine (v : Binary64) : OneLine v.plainText :=
  fun c hc => Text.isLineBreak_of_isGraphic (v.plainText_graphic c hc)

/-- What is said about an expression that is refused stands on one line. -/
theorem Stack.message_oneLine {s : Stack} {expression : Text} {e : EvalError}
    (h : s.evaluate expression = .error e) : OneLine e.message := by
  rcases (evaluate_eq_error_iff s expression e).mp h with ⟨chunk, hi, rfl⟩ | ⟨-, hf⟩
  · obtain ⟨before, after, hsplit, -, -⟩ := hi
    have hmem : chunk ∈ Text.chunks expression := by simp [hsplit]
    have hchunk : OneLine chunk := (Text.isChunk_of_mem_chunks hmem).oneLine
    exact oneLine_append (a := ['\'']) (by decide) (oneLine_append hchunk (by decide))
  · rcases hf.cases with ⟨op, rfl⟩ | ⟨lhs, op, rhs, rfl⟩
    · cases op <;> decide
    · have hop : OneLine [' ', op.symbol, ' '] := by cases op <;> decide
      have hoperation := oneLine_append lhs.plainText_oneLine
        (oneLine_append hop rhs.plainText_oneLine)
      have hmessage := oneLine_append hoperation (b := lit " does not produce a finite value")
        (by decide)
      simpa [EvalError.message] using hmessage

namespace Record

/-- The line that a record speaks of. -/
def input : Record → Text
  | committed input _ => input
  | rejected input _ => input

/-- What stands in front of the quotes. -/
def front : Record → Text
  | committed _ _ => lit "TRACE rpncalc::program: committed input="
  | rejected _ _ => lit "DEBUG rpncalc::program: rejected input="

/-- What stands behind the quotes. -/
def rest : Record → Text
  | committed _ depth => lit " depth=" ++ Nat.toDigits 10 depth
  | rejected _ e => lit " error=" ++ e.message

theorem text_eq (r : Record) : r.text = r.front ++ Text.quoted r.input ++ r.rest := by
  cases r <;> simp only [text, body, rest, input, List.append_assoc, List.cons_append] <;> rfl

theorem front_oneLine (r : Record) : OneLine r.front := by
  cases r <;> simp only [front] <;> decide

theorem quote_not_mem_front (r : Record) : '"' ∉ r.front := by
  cases r <;> simp only [front] <;> decide

theorem text_oneLine {r : Record} (h : OneLine r.rest) : OneLine r.text := by
  rw [text_eq]
  exact oneLine_append (oneLine_append r.front_oneLine (Text.quoted_oneLine r.input)) h

/-- Reads the line that the text of a record speaks of: what stands in the first quotes. -/
def readInput? (text : Text) : Option Text :=
  (Text.readQuoted? .plain (text.dropWhile (· ≠ '"')).tail).map Prod.fst

theorem readInput?_text (r : Record) : readInput? r.text = some r.input := by
  have hfront : ∀ c ∈ r.front, decide (c ≠ '"') = true := by
    rintro c hc
    exact decide_eq_true (ne_of_mem_of_not_mem hc r.quote_not_mem_front)
  have hquoted : r.text.dropWhile (· ≠ '"') =
      '"' :: (r.input.flatMap Text.escape ++ '"' :: r.rest) := by
    rw [text_eq, List.append_assoc, List.dropWhile_append_of_pos hfront]
    simp [Text.quoted]
  rw [readInput?, hquoted, List.tail_cons, Text.readQuoted?_flatMap_escape]
  rfl

theorem text_committed_ne (input input' : Text) (depth : Nat) (e : EvalError) :
    (committed input depth).text ≠ (rejected input' e).text := by
  intro h
  exact absurd (List.cons.inj h).1 (by decide)

/-- At the lowest threshold every record is let through. -/
theorem passes_trace (r : Record) : (LogFilter.read (lit "trace")).passes r = true := by
  have hread : LogFilter.read (lit "trace") = [⟨[], none, .trace⟩] := by decide
  rw [hread]
  cases r <;> rfl

end Record

namespace Calculator

/-- What is logged of a line under a filter. -/
def logged (filter : LogFilter) (s : Stack) (line : Text) : List Text :=
  ((process s line).record.toList.filter filter.passes).map Record.text

theorem logged_trace (s : Stack) (line : Text) : logged (LogFilter.read (lit "trace")) s line =
    (process s line).record.toList.map Record.text := by
  rw [logged, List.filter_eq_self.mpr fun r _ => r.passes_trace]

/-- What a record can say of a line. -/
theorem process_record_cases {s : Stack} {line : Text} {r : Record}
    (h : (process s line).record = some r) :
    (∃ s', s.evaluate (Text.trim line) = .ok s' ∧ r = .committed (Text.trim line) s'.length) ∨
      ∃ e, s.evaluate (Text.trim line) = .error e ∧ r = .rejected (Text.trim line) e := by
  simp only [process] at h
  split_ifs at h
  cases heval : s.evaluate (Text.trim line) with
  | ok s' =>
    have hok := (evaluate_eq_ok_iff s s' (Text.trim line) _).mpr ⟨heval, rfl⟩
    rw [processExpression_of_ok hok] at h
    exact .inl ⟨s', rfl, (Option.some.inj h).symm⟩
  | error e =>
    have herror := (evaluate_eq_error_iff s s (Text.trim line) e).mpr ⟨rfl, heval⟩
    rw [processExpression_of_error herror] at h
    exact .inr ⟨e, rfl, (Option.some.inj h).symm⟩

/-- A record speaks of its line, and stands on one line itself. -/
theorem process_record {s : Stack} {line : Text} {r : Record}
    (h : (process s line).record = some r) : r.input = Text.trim line ∧ OneLine r.text := by
  rcases process_record_cases h with ⟨s', -, rfl⟩ | ⟨e, heval, rfl⟩
  · have hdepth : OneLine (Nat.toDigits 10 s'.length) :=
      fun c hc => Text.isLineBreak_of_isGraphic (Text.isGraphic_of_mem_toDigits hc)
    exact ⟨rfl, Record.text_oneLine (oneLine_append (by decide) hdepth)⟩
  · exact ⟨rfl, Record.text_oneLine (oneLine_append (by decide) (Stack.message_oneLine heval))⟩

theorem exists_of_mem_logged {s : Stack} {line text : Text}
    (h : text ∈ logged (LogFilter.read (lit "trace")) s line) :
    ∃ r : Record, text = r.text ∧ r.input = Text.trim line ∧ OneLine r.text := by
  rw [logged_trace] at h
  obtain ⟨r, hr, rfl⟩ := List.mem_map.mp h
  exact ⟨r, rfl, process_record (Option.mem_toList.mp hr)⟩

/-- What is logged of an expression that is accepted, and of one that is refused. -/
theorem logged_of_ok {s s' : Stack} {line shown : Text}
    (hprocess : process s line = processExpression s (Text.trim line))
    (h : evaluate s (Text.trim line) = (.ok shown, s')) :
    logged (LogFilter.read (lit "trace")) s line =
      [(Record.committed (Text.trim line) s'.length).text] := by
  rw [logged_trace, hprocess, processExpression_of_ok h]
  rfl

theorem logged_of_error {s s' : Stack} {line : Text} {e : EvalError}
    (hprocess : process s line = processExpression s (Text.trim line))
    (h : evaluate s (Text.trim line) = (.error e, s')) :
    logged (LogFilter.read (lit "trace")) s line = [(Record.rejected (Text.trim line) e).text] := by
  rw [logged_trace, hprocess, processExpression_of_error h]
  rfl

/-- At the lowest threshold nothing is logged of a blank line and of a command, and one record of
every expression: with the depth of the stack that it leaves, or with the error for which it is
refused. A record stands on one line, and the line that it speaks of can be read from it. -/
theorem process_logged (calls : List Call) {cs : List Text} {line : Text}
    (h : Text.Spaced cs line) :
    let s := after calls
    let out := process s line
    let log := logged (LogFilter.read (lit "trace")) s line
    (cs = [] ∨ cs = [exitCommand] ∨ cs = [resetCommand] → log = []) ∧
    (cs ≠ [] → cs ≠ [exitCommand] → cs ≠ [resetCommand] → ∃ record, log = [record] ∧
      (out.reply.rejection = none ↔
        record = lit "TRACE rpncalc::program: committed input=" ++ Text.quoted (Text.trim line) ++
          (lit " depth=" ++ Nat.toDigits 10 out.stack.length)) ∧
      (out.reply.rejection ≠ none ↔ ∃ e, evaluate s line = (.error e, s) ∧
        record = lit "DEBUG rpncalc::program: rejected input=" ++ Text.quoted (Text.trim line) ++
          (lit " error=" ++ e.message))) ∧
    ∀ record ∈ log, OneLine record ∧ Record.readInput? record = some (Text.trim line) ∧
      ∀ calls' line', record ∈ logged (LogFilter.read (lit "trace")) (after calls') line' →
        Text.trim line' = Text.trim line := by
  obtain rfl := h.chunks_eq
  intro s out log
  refine ⟨?silent, ?expression, ?records⟩
  case silent =>
    intro hsilent
    change logged _ s line = []
    rw [logged_trace]
    rcases hsilent with hnil | hexit | hreset
    · rw [process_blank s hnil]
      rfl
    · rw [process_exit s hexit]
      rfl
    · rw [process_reset s hreset]
      rfl
  case expression =>
    intro hne hexit hreset
    have hprocess := process_expression s hne hexit hreset
    have hsame := evaluate_congr s (Text.chunks_trim line)
    cases heval : s.evaluate (Text.trim line) with
    | ok s' =>
      have hok := (evaluate_eq_ok_iff s s' (Text.trim line) _).mpr ⟨heval, rfl⟩
      have hout : out = _ := hprocess.trans (processExpression_of_ok hok)
      refine ⟨_, logged_of_ok hprocess hok, ?_, ?_⟩
      · rw [hout]
        exact ⟨fun _ => Record.text_eq _, fun _ => rfl⟩
      · rw [hout, ← hsame, hok]
        simp [Reply.line]
    | error e =>
      have herror := (evaluate_eq_error_iff s s (Text.trim line) e).mpr ⟨rfl, heval⟩
      have hout : out = _ := hprocess.trans (processExpression_of_error herror)
      refine ⟨_, logged_of_error hprocess herror, ?_, ?_⟩
      · rw [hout]
        refine ⟨fun hnone => absurd hnone (Option.some_ne_none _), fun htext => ?_⟩
        have hboth := (Record.text_eq (.committed (Text.trim line) s.length)).trans htext.symm
        exact absurd hboth (Record.text_committed_ne _ _ _ _)
      · rw [hout, ← hsame, herror]
        exact ⟨fun _ => ⟨e, rfl, Record.text_eq _⟩, fun _ => Option.some_ne_none _⟩
  case records =>
    intro record hrecord
    obtain ⟨r, rfl, hinput, hline⟩ := exists_of_mem_logged hrecord
    have hread : Record.readInput? r.text = some (Text.trim line) := hinput ▸ r.readInput?_text
    refine ⟨hline, hread, fun calls' line' hrecord' => ?_⟩
    obtain ⟨r', htext, hinput', -⟩ := exists_of_mem_logged hrecord'
    rw [htext, r'.readInput?_text, hinput'] at hread
    exact Option.some.inj hread

/-- A refused chunk stands twice in its record: with its quote, its backslash and its marks escaped,
and behind that as it is. -/
theorem process_logged_marks :
    let calls : List Call := [.init, .process (lit "2 0")]
    let chunk := lit "\x1b\"\\\u0301"
    let line := lit "\u00a0/\u2028" ++ chunk ++ lit "\t"
    let record := lit ("DEBUG rpncalc::program: rejected " ++
      "input=\"/\\u\x7b2028\x7d\\u\x7b1b\x7d\\\"\\\\\\u\x7b301\x7d\" " ++
      "error='\x1b\"\\\u0301' is neither a number nor an operator")
    Text.Spaced [['/'], chunk] line ∧
      logged (LogFilter.read (lit "trace")) (after calls) line = [record] ∧ OneLine record ∧
      Record.readInput? record = some (lit "/\u2028" ++ chunk) := by
  intro calls chunk line record
  have hspaced : Text.Spaced [['/'], chunk] line := Text.spaced_iff.mpr (by decide +kernel)
  have hlog : logged (LogFilter.read (lit "trace")) (after calls) line = [record] := by
    decide +kernel
  have htrim : Text.trim line = lit "/\u2028" ++ chunk := by decide +kernel
  obtain ⟨-, -, hrecords⟩ := process_logged calls hspaced
  obtain ⟨hline, hread, -⟩ := hrecords record (hlog ▸ List.mem_singleton_self record)
  exact ⟨hspaced, hlog, hline, htrim ▸ hread⟩

end Calculator

end PostfixCalc

import PostfixCalc.App.State
import PostfixCalc.Proofs.Calculator.Process

namespace PostfixCalc

namespace Calculator

/-- The lines with their answers, from a stack on. -/
def exchanges (s : Stack) : List Text → List Exchange
  | [] => []
  | line :: rest => ⟨line, (process s line).reply⟩ :: exchanges (process s line).stack rest

/-- The stack that lines leave. -/
def stackAfter (s : Stack) (lines : List Text) : Stack :=
  lines.foldl (fun s line => (process s line).stack) s

theorem exchanges_inputs (s : Stack) (lines : List Text) :
    (exchanges s lines).map Exchange.input = lines := by
  induction lines generalizing s with
  | nil => rfl
  | cons line rest ih => rw [exchanges, List.map_cons, ih]

/-- Some answer ends the session if and only if some line is the command that does so. -/
theorem exchanges_halt_iff (s : Stack) (lines : List Text) :
    (exchanges s lines).any (·.reply.halts) = true ↔
      ∃ line ∈ lines, Text.trim line = exitCommand := by
  induction lines generalizing s with
  | nil => simp [exchanges]
  | cons line rest ih =>
    rw [exchanges, List.any_cons, Bool.or_eq_true, ih, process_halts_iff]
    simp only [List.mem_cons, exists_eq_or_imp]

/-- The answer to a line is one line. -/
theorem process_answers_one_line (s : Stack) (line : Text) :
    (process s line).reply.lines = [(process s line).reply.message] ∧
      Text.OneLine (process s line).reply.message := by
  have hone : ∀ reply : Reply, (∃ l, reply.lines = [l] ∧ Text.OneLine l) →
      reply.lines = [reply.message] ∧ Text.OneLine reply.message := by
    rintro reply ⟨l, hl, hline⟩
    rw [Reply.message, hl]
    exact ⟨rfl, hline⟩
  apply hone
  by_cases hnil : Text.chunks line = []
  · rw [process_blank s hnil]
    exact ⟨[], rfl, by decide⟩
  by_cases hexit : Text.chunks line = [exitCommand]
  · rw [process_exit s hexit]
    exact ⟨farewell, rfl, by decide⟩
  by_cases hreset : Text.chunks line = [resetCommand]
  · rw [process_reset s hreset]
    exact ⟨['0'], rfl, by decide⟩
  rw [process_expression s hnil hexit hreset]
  exact (answered_processExpression s (Text.chunks_trim line)).one_line

theorem input_mem_of_mem_exchanges {s : Stack} {lines : List Text} {x : Exchange}
    (h : x ∈ exchanges s lines) : x.input ∈ lines := by
  rw [← exchanges_inputs s lines]
  exact List.mem_map_of_mem h

theorem exchanges_answered {s : Stack} {lines : List Text} {x : Exchange}
    (h : x ∈ exchanges s lines) :
    x.reply.lines = [x.reply.message] ∧ Text.OneLine x.reply.message := by
  induction lines generalizing s with
  | nil => cases h
  | cons line rest ih =>
    rcases List.mem_cons.mp h with rfl | h
    · exact process_answers_one_line s line
    · exact ih h

theorem stackAfter_append (s : Stack) (lines more : List Text) :
    stackAfter s (lines ++ more) = stackAfter (stackAfter s lines) more := List.foldl_append

theorem stackAfter_concat (s : Stack) (lines : List Text) (line : Text) :
    stackAfter s (lines ++ [line]) = (process (stackAfter s lines) line).stack :=
  stackAfter_append s lines [line]

theorem exchanges_append (s : Stack) (lines more : List Text) :
    exchanges s (lines ++ more) = exchanges s lines ++ exchanges (stackAfter s lines) more := by
  induction lines generalizing s with
  | nil => rfl
  | cons first rest ih =>
    rw [List.cons_append, exchanges, ih, exchanges, List.cons_append]
    rfl

theorem exchanges_concat (s : Stack) (lines : List Text) (line : Text) :
    exchanges s (lines ++ [line]) =
      exchanges s lines ++ [⟨line, (process (stackAfter s lines) line).reply⟩] :=
  exchanges_append s lines [line]

/-- A line that is refused leaves the stack as it was. -/
theorem process_stack_of_rejected {s : Stack} {line : Text}
    (h : (process s line).reply.rejection.isSome = true) : (process s line).stack = s := by
  revert h
  simp only [process]
  split_ifs
  · intro h
    exact absurd h Bool.false_ne_true
  · intro h
    exact absurd h Bool.false_ne_true
  · intro h
    exact absurd h Bool.false_ne_true
  · intro h
    rw [processExpression_stack]
    cases heval : s.evaluate (Text.trim line) with
    | error e => simp [evaluate, heval]
    | ok s' => simp [processExpression, evaluate, heval, Reply.line] at h

/-- The lines that were not refused. -/
def accepted (xs : List Exchange) : List Text := (xs.filter (!·.failed)).map Exchange.input

theorem accepted_cons (x : Exchange) (xs : List Exchange) :
    accepted (x :: xs) = if x.failed then accepted xs else x.input :: accepted xs := by
  cases h : x.failed <;> simp [accepted, h]

/-- Lines that are refused may as well be left out. -/
theorem stackAfter_accepted (s : Stack) (lines : List Text) :
    stackAfter s (accepted (exchanges s lines)) = stackAfter s lines := by
  induction lines generalizing s with
  | nil => rfl
  | cons line rest ih =>
    rw [exchanges, accepted_cons]
    split
    · next hfailed =>
      have hkept : (process s line).stack = s := process_stack_of_rejected hfailed
      change _ = stackAfter (process s line).stack rest
      rw [hkept]
      exact ih s
    · exact ih (process s line).stack

end Calculator

end PostfixCalc

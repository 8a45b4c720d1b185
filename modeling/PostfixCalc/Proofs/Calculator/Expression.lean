import Mathlib.Logic.ExistsUnique
import PostfixCalc.Proofs.Calculator.Evaluation

namespace PostfixCalc

/-- A chunk that is read as a number. -/
structure Literal where
  chunk : Text
  value : Binary64
  reads : Token.classify chunk = .number value

namespace Literal

theorem isFinite (l : Literal) : l.value.isFinite = true := by
  have h : (Token.classify l.chunk).Readable :=
    (Token.readable_classify_iff l.chunk).mpr (by simp [l.reads, Token.isValid])
  simpa [l.reads, Token.Readable] using h

end Literal

/-- An expression as a tree of operators over literals. -/
inductive Expression
  | literal (l : Literal)
  | operation (op : Operator) (left right : Expression)

namespace Expression

/-- The chunks of an expression, every operator behind its operands. -/
def chunks : Expression → List Text
  | literal l => [l.chunk]
  | operation op left right => left.chunks ++ right.chunks ++ [[op.symbol]]

/-- The value, which need not be finite. -/
def value : Expression → Binary64
  | literal l => l.value
  | operation op left right => op.eval left.value right.value

/-- All nodes, in the order in which they are written. -/
def nodes : Expression → List Expression
  | literal l => [literal l]
  | operation op left right => left.nodes ++ right.nodes ++ [operation op left right]

/-- The first node, as they are written, whose value is not finite. -/
def firstNotFinite (e : Expression) : Option Expression :=
  e.nodes.find? fun n => !n.value.isFinite

theorem firstNotFinite_eq_none_iff (e : Expression) :
    e.firstNotFinite = none ↔ ∀ n ∈ e.nodes, n.value.isFinite = true := by
  simp [firstNotFinite]

theorem firstNotFinite_operation (op : Operator) (left right : Expression) :
    (operation op left right).firstNotFinite =
      (left.firstNotFinite.or right.firstNotFinite).or
        (if (op.eval left.value right.value).isFinite then none
          else some (operation op left right)) := by
  simp only [firstNotFinite, nodes, List.find?_append]
  congr 1
  cases h : (op.eval left.value right.value).isFinite <;> simp [value, h]

theorem allValid_chunks (e : Expression) : AllValid e.chunks := by
  induction e with
  | literal l => simp [AllValid, chunks, l.reads, Token.isValid]
  | operation op left right hl hr =>
    intro c hc
    simp only [chunks, List.mem_append, List.mem_singleton] at hc
    rcases hc with (hc | hc) | rfl
    · exact hl c hc
    · exact hr c hc
    · rw [Token.classify_symbol]
      rfl

theorem run_symbol (op : Operator) (lhs rhs : Binary64) (s : Stack) :
    Stack.run (rhs :: lhs :: s) [Token.classify [op.symbol]] =
      if (op.eval lhs rhs).isFinite then .ok (op.eval lhs rhs :: s)
      else .error (.notFinite lhs op rhs) := by
  rw [Token.classify_symbol]
  cases hv : (op.eval lhs rhs).isFinite <;> simp [Stack.run, Stack.step, Stack.apply, hv]

/-- What running the tokens of an expression leads to, by the first node without a finite value. The
right operand runs on top of the value that the left one has left. -/
theorem run_chunks (e : Expression) (s : Stack) :
    (e.firstNotFinite = none ∧ s.run (e.chunks.map Token.classify) = .ok (e.value :: s)) ∨
      ∃ op left right, e.firstNotFinite = some (operation op left right) ∧
        s.run (e.chunks.map Token.classify) = .error (.notFinite left.value op right.value) := by
  induction e generalizing s with
  | literal l =>
    have hv := l.isFinite
    refine .inl ⟨by simp [firstNotFinite, nodes, value, hv], ?_⟩
    simp [chunks, l.reads, Stack.run, Stack.step, Stack.push, hv, value]
  | operation op left right hl hr =>
    simp only [chunks, List.map_append, Stack.run_append, firstNotFinite_operation]
    rcases hl s with ⟨hleft, hrun⟩ | ⟨op', l', r', hleft, hrun⟩
    · rcases hr (left.value :: s) with ⟨hright, hrun'⟩ | ⟨op', l', r', hright, hrun'⟩
      · have hboth : (s.run (left.chunks.map Token.classify)).bind
            (fun s' => s'.run (right.chunks.map Token.classify)) =
              .ok (right.value :: left.value :: s) := by
          rw [hrun]
          exact hrun'
        have hsymbol := run_symbol op left.value right.value s
        simp only [hboth, hleft, hright, Option.or_none, List.map_cons, List.map_nil]
        simp only [Except.bind, hsymbol, value]
        cases hv : (op.eval left.value right.value).isFinite with
        | true => exact .inl (by simp)
        | false => exact .inr ⟨op, left, right, by simp⟩
      · exact .inr ⟨op', l', r', by simp [hleft, hright], by simp [hrun, hrun', Except.bind]⟩
    · exact .inr ⟨op', l', r', by simp [hleft], by simp [hrun, Except.bind]⟩

/-- Takes the next chunk into a forest, its last tree first, as a stack takes in its token. -/
def grow (forest : List Expression) (chunk : Text) : List Expression :=
  match h : Token.classify chunk with
  | .number v => literal ⟨chunk, v, h⟩ :: forest
  | .operator op =>
    match forest with
    | right :: left :: rest => operation op left right :: rest
    | _ => forest
  | .invalid _ => forest

theorem grow_of_number (forest : List Expression) {chunk : Text} {v : Binary64}
    (h : Token.classify chunk = .number v) :
    grow forest chunk = literal ⟨chunk, v, h⟩ :: forest := by
  unfold grow
  split
  · next w hw =>
    obtain rfl : v = w := by simpa [h] using hw
    rfl
  · next hw => simp [h] at hw
  · next hw => simp [h] at hw

theorem grow_symbol (op : Operator) (left right : Expression) (forest : List Expression) :
    grow (right :: left :: forest) [op.symbol] = operation op left right :: forest := by
  unfold grow
  split
  · next hw => simp [Token.classify_symbol] at hw
  · next op' hw =>
    obtain rfl : op = op' := by simpa [Token.classify_symbol] using hw
    rfl
  · next hw => simp [Token.classify_symbol] at hw

/-- The chunks of an expression grow that expression. -/
theorem foldl_grow_chunks (e : Expression) (forest : List Expression) :
    e.chunks.foldl grow forest = e :: forest := by
  induction e generalizing forest with
  | literal l => simpa [chunks] using grow_of_number forest l.reads
  | operation op left right hl hr =>
    simp only [chunks, List.foldl_append, hl, hr, List.foldl_cons, List.foldl_nil, grow_symbol]

theorem chunks_injective {a b : Expression} (h : a.chunks = b.chunks) : a = b := by
  have ha := foldl_grow_chunks a []
  rw [h, foldl_grow_chunks b []] at ha
  simpa using ha.symm

/-- The chunks of a forest, from its first tree on. -/
def written (forest : List Expression) : List Text := forest.reverse.flatMap chunks

/-- A stack that accepts a chunk holds the values of what the chunk grows, and the forest loses
nothing of what has been written. -/
theorem step_grow {forest : List Expression} {chunk : Text} {s : Stack}
    (h : Stack.step (forest.map value) (Token.classify chunk) = .ok s) :
    s = (grow forest chunk).map value ∧ written (grow forest chunk) = written forest ++ [chunk] := by
  cases hc : Token.classify chunk with
  | invalid d => simp [hc, Stack.step] at h
  | number v =>
    have hv : v.isFinite = true := (Literal.mk chunk v hc).isFinite
    rw [grow_of_number forest hc]
    simp only [hc, Stack.step, Stack.push, hv, if_true, Except.ok.injEq] at h
    exact ⟨by simp [← h, value], by simp [written, chunks]⟩
  | operator op =>
    obtain rfl := (Token.classify_eq_operator_iff chunk op).mp hc
    cases forest with
    | nil => simp [hc, Stack.step, Stack.apply] at h
    | cons right forest =>
      cases forest with
      | nil => simp [hc, Stack.step, Stack.apply] at h
      | cons left forest =>
        rw [grow_symbol]
        simp only [hc, Stack.step, List.map_cons, Stack.apply] at h
        split_ifs at h with hv
        obtain rfl := Except.ok.inj h
        exact ⟨by simp [value], by simp [written, chunks]⟩

theorem run_grow {cs : List Text} {forest : List Expression} {s : Stack}
    (h : Stack.run (forest.map value) (cs.map Token.classify) = .ok s) :
    s = (cs.foldl grow forest).map value ∧
      written (cs.foldl grow forest) = written forest ++ cs := by
  induction cs generalizing forest with
  | nil => exact ⟨(Except.ok.inj h).symm, by simp⟩
  | cons c cs ih =>
    cases hstep : Stack.step (forest.map value) (Token.classify c) with
    | error e => simp [Stack.run, hstep] at h
    | ok s' =>
      obtain ⟨rfl, hw⟩ := step_grow hstep
      have hrun : Stack.run ((grow forest c).map value) (cs.map Token.classify) = .ok s := by
        simpa [Stack.run, hstep] using h
      obtain ⟨hs, hall⟩ := ih hrun
      exact ⟨hs, by simpa [hw] using hall⟩

end Expression

open Calculator in
/-- A line that writes a tree evaluates as the tree does, and a line that leaves one value on an
empty stack writes exactly one tree, which has that value. -/
theorem Expression.evaluate_written :
    (∀ (e : Expression) (s : Stack) (line : Text), Text.Spaced e.chunks line →
      ((∀ n ∈ e.nodes, n.value.isFinite = true) →
        evaluate s line = (.ok e.value.displayText, e.value :: s)) ∧
      ((∃ n ∈ e.nodes, n.value.isFinite = false) →
        ∃ op left right, e.firstNotFinite = some (operation op left right) ∧
          evaluate s line = (.error (.notFinite left.value op right.value), s))) ∧
    (∀ (line shown : Text) (v : Binary64), evaluate [] line = (.ok shown, [v]) →
      ∃ e : Expression, Text.Spaced e.chunks line ∧ e.value = v ∧
        ∀ e' : Expression, Text.Spaced e'.chunks line → e' = e) := by
  constructor
  · intro e s line h
    have heval : s.evaluate line = s.run (e.chunks.map Token.classify) := by
      rw [← h.chunks_eq]
      exact Stack.evaluate_of_allValid s (h.chunks_eq ▸ e.allValid_chunks)
    rcases e.run_chunks s with ⟨hnone, hrun⟩ | ⟨op, left, right, hsome, hrun⟩
    · have hfinite := (firstNotFinite_eq_none_iff e).mp hnone
      refine ⟨fun _ => ?_, fun ⟨n, hn, hv⟩ => by simp [hfinite n hn] at hv⟩
      exact (Calculator.evaluate_eq_ok_iff s _ line _).mpr ⟨heval.trans hrun, rfl⟩
    · refine ⟨fun hfinite => ?_, fun _ => ⟨op, left, right, hsome, ?_⟩⟩
      · simp [(firstNotFinite_eq_none_iff e).mpr hfinite] at hsome
      · exact (Calculator.evaluate_eq_error_iff s s line _).mpr ⟨rfl, heval.trans hrun⟩
  · intro line shown v h
    have hok := ((Calculator.evaluate_eq_ok_iff [] [v] line shown).mp h).1
    obtain ⟨hvalid, -⟩ := (Stack.evaluate_eq_ok_iff [] [v] line).mp hok
    rw [Stack.evaluate_of_allValid [] hvalid, tokens] at hok
    obtain ⟨hs, hw⟩ := @run_grow _ [] _ hok
    obtain ⟨e, hforest, hv⟩ := List.map_eq_singleton_iff.mp hs.symm
    have hchunks : e.chunks = Text.chunks line := by simpa [hforest, written] using hw
    refine ⟨e, hchunks ▸ Text.spaced_chunks line, hv, fun e' he' => chunks_injective ?_⟩
    rw [hchunks, he'.chunks_eq]

open Calculator in
/-- The left operand of a difference is the one that is written first. -/
theorem Expression.evaluate_written_difference :
    let number (n : Nat) : Binary64 := .ofRatio false (n * Binary64.unitsPerOne) 1
    let line : Text := Text.lit "5\t1 3 - *"
    ∃ five one three : Literal,
      let e := operation .mul (literal five) (operation .sub (literal one) (literal three))
      Text.Spaced e.chunks line ∧ e.value = -number 10 ∧
        evaluate [number 2] line = (.ok (Text.lit "-10"), [-number 10, number 2]) := by
  intro number line
  refine ⟨⟨['5'], number 5, by decide +kernel⟩, ⟨['1'], number 1, by decide +kernel⟩,
    ⟨['3'], number 3, by decide +kernel⟩, ?_⟩
  intro e
  have hspaced : Text.Spaced e.chunks line := Text.spaced_iff.mpr (by decide +kernel)
  have hvalue : e.value = -number 10 := by decide +kernel
  have hfinite : ∀ n ∈ e.nodes, n.value.isFinite = true := by decide +kernel
  have hshown : (-number 10).displayText = Text.lit "-10" := by decide +kernel
  have heval := (evaluate_written.1 e [number 2] line hspaced).1 hfinite
  rw [hvalue, hshown] at heval
  exact ⟨hspaced, hvalue, heval⟩

end PostfixCalc

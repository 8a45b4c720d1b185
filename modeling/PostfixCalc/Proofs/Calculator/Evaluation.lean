import Mathlib.Control.Monad.Basic
import PostfixCalc.Calculator.Process
import PostfixCalc.Proofs.Calculator.Execution
import PostfixCalc.Proofs.Text.Chunks

namespace PostfixCalc

/-- The first of some chunks that means nothing. -/
def FirstInvalid (cs : List Text) (chunk : Text) : Prop :=
  ∃ before after, cs = before ++ chunk :: after ∧
    (∀ c ∈ before, (Token.classify c).isValid = true) ∧ (Token.classify chunk).isValid = false

/-- Every chunk is a number or an operator. -/
def AllValid (cs : List Text) : Prop := ∀ c ∈ cs, (Token.classify c).isValid = true

theorem AllValid.readable {cs : List Text} (h : AllValid cs) :
    ∀ t ∈ cs.map Token.classify, t.Readable := by
  intro t ht
  obtain ⟨c, hc, rfl⟩ := List.mem_map.mp ht
  exact (Token.readable_classify_iff c).mpr (h c hc)

theorem AllValid.no_invalid {cs : List Text} (h : AllValid cs) :
    ¬ ∃ c ∈ cs, (Token.classify c).isValid = false := by
  intro ⟨c, hc, hi⟩
  simp [h c hc] at hi

theorem AllValid.not_alone {cs : List Text} (h : AllValid cs) :
    ¬ ∃ c, cs = [c] ∧ (Token.classify c).isValid = false := by
  intro ⟨c, hc, hi⟩
  exact h.no_invalid ⟨c, by simp [hc], hi⟩

theorem findSome?_invalidChunk?_eq_none_iff (cs : List Text) :
    (cs.map Token.classify).findSome? Token.invalidChunk? = none ↔ AllValid cs := by
  simp [List.findSome?_eq_none_iff, AllValid, Token.invalidChunk?_classify]

theorem firstInvalid_cons_of_valid {c : Text} (hc : (Token.classify c).isValid = true)
    (cs : List Text) (chunk : Text) : FirstInvalid (c :: cs) chunk ↔ FirstInvalid cs chunk := by
  constructor
  · intro ⟨before, after, hsplit, hb, hi⟩
    cases before with
    | nil =>
      obtain ⟨rfl, -⟩ : c = chunk ∧ cs = after := by simpa using hsplit
      simp [hc] at hi
    | cons b before =>
      obtain ⟨-, hrest⟩ : c = b ∧ cs = before ++ chunk :: after := by simpa using hsplit
      exact ⟨before, after, hrest, fun d hd => hb d (by simp [hd]), hi⟩
  · intro ⟨before, after, hsplit, hb, hi⟩
    exact ⟨c :: before, after, by rw [hsplit, List.cons_append], by simpa [hc] using hb, hi⟩

theorem firstInvalid_cons_of_invalid {c : Text} (hc : (Token.classify c).isValid = false)
    (cs : List Text) (chunk : Text) : FirstInvalid (c :: cs) chunk ↔ c = chunk := by
  constructor
  · intro ⟨before, after, hsplit, hb, _⟩
    cases before with
    | nil => exact (List.cons.inj hsplit).1
    | cons b before =>
      obtain ⟨rfl, -⟩ : c = b ∧ cs = before ++ chunk :: after := by simpa using hsplit
      simp [hb c (by simp)] at hc
  · intro h
    subst h
    exact ⟨[], cs, rfl, by simp, hc⟩

theorem findSome?_invalidChunk?_eq_some_iff (cs : List Text) (chunk : Text) :
    (cs.map Token.classify).findSome? Token.invalidChunk? = some chunk ↔
      FirstInvalid cs chunk := by
  induction cs with
  | nil => simp [FirstInvalid]
  | cons c cs ih =>
    cases hc : (Token.classify c).isValid with
    | true =>
      rw [firstInvalid_cons_of_valid hc, ← ih]
      simp [Token.invalidChunk?_classify, hc]
    | false =>
      rw [firstInvalid_cons_of_invalid hc]
      simp [Token.invalidChunk?_classify, hc]

/-- Either all chunks mean something or one is the first that does not. -/
theorem allValid_or_firstInvalid (cs : List Text) : AllValid cs ∨ ∃ chunk, FirstInvalid cs chunk := by
  cases h : (cs.map Token.classify).findSome? Token.invalidChunk? with
  | none => exact .inl ((findSome?_invalidChunk?_eq_none_iff cs).mp h)
  | some chunk => exact .inr ⟨chunk, (findSome?_invalidChunk?_eq_some_iff cs chunk).mp h⟩

theorem FirstInvalid.not_allValid {cs : List Text} {chunk : Text} (h : FirstInvalid cs chunk) :
    ¬ AllValid cs := by
  obtain ⟨before, after, rfl, -, hi⟩ := h
  intro hv
  simp [hv chunk (by simp)] at hi

namespace Stack

/-- No token, one and several are treated as one case: looked over, then run. -/
theorem evaluate_eq (s : Stack) (expression : Text) :
    s.evaluate expression =
      match (tokens expression).findSome? Token.invalidChunk? with
      | some chunk => .error (.unrecognized chunk)
      | none => s.run (tokens expression) := by
  unfold evaluate
  generalize tokens expression = ts
  match ts with
  | [] => rfl
  | [.invalid chunk] => rfl
  | [.number v] =>
    simp only [List.findSome?_cons, Token.invalidChunk?, List.findSome?_nil, run]
    cases s.step (.number v) <;> rfl
  | [.operator op] =>
    simp only [List.findSome?_cons, Token.invalidChunk?, List.findSome?_nil, run]
    cases s.step (.operator op) <;> rfl
  | t :: u :: ts => rfl

theorem evaluate_of_allValid (s : Stack) {expression : Text}
    (hv : AllValid (Text.chunks expression)) : s.evaluate expression = s.run (tokens expression) := by
  rw [evaluate_eq, tokens, (findSome?_invalidChunk?_eq_none_iff _).mpr hv]

theorem evaluate_of_firstInvalid (s : Stack) {expression chunk : Text}
    (hi : FirstInvalid (Text.chunks expression) chunk) :
    s.evaluate expression = .error (.unrecognized chunk) := by
  rw [evaluate_eq, tokens, (findSome?_invalidChunk?_eq_some_iff _ chunk).mpr hi]

theorem evaluate_eq_ok_iff (s s' : Stack) (expression : Text) :
    s.evaluate expression = .ok s' ↔
      AllValid (Text.chunks expression) ∧ Executes s (tokens expression) s' := by
  rcases allValid_or_firstInvalid (Text.chunks expression) with hv | ⟨chunk, hi⟩
  · rw [evaluate_of_allValid s hv, tokens, run_eq_ok_iff hv.readable]
    simp [hv]
  · simp [evaluate_of_firstInvalid s hi, hi.not_allValid]

theorem evaluate_eq_error_iff (s : Stack) (expression : Text) (e : EvalError) :
    s.evaluate expression = .error e ↔
      (∃ chunk, FirstInvalid (Text.chunks expression) chunk ∧ e = .unrecognized chunk) ∨
        (AllValid (Text.chunks expression) ∧ FailsFirst s (tokens expression) e) := by
  rcases allValid_or_firstInvalid (Text.chunks expression) with hv | ⟨chunk, hi⟩
  · have hno : ∀ chunk, ¬ FirstInvalid (Text.chunks expression) chunk :=
      fun _ hi => hi.not_allValid hv
    rw [evaluate_of_allValid s hv, tokens, run_eq_error_iff hv.readable]
    simp [hv, hno]
  · have heval := evaluate_of_firstInvalid s hi
    simp only [heval, hi.not_allValid, false_and, or_false]
    constructor
    · intro h
      exact ⟨chunk, hi, by simpa [eq_comm] using h⟩
    · intro ⟨chunk', hi', he⟩
      rw [he, ← heval, evaluate_of_firstInvalid s hi']

end Stack

namespace Calculator

/-- What a host can ask of the calculator. -/
inductive Call
  | init
  | process (line : Text)
  | evaluate (expression : Text)

/-- The stack that a call leaves. -/
def Call.run (s : Stack) : Call → Stack
  | init => (Calculator.init s).2
  | process line => (Calculator.process s line).stack
  | evaluate expression => (Calculator.evaluate s expression).2

/-- The stack of a new calculator after some calls. -/
def after (calls : List Call) : Stack := calls.foldl Call.run []

theorem evaluate_eq_ok_iff (s s' : Stack) (expression shown : Text) :
    evaluate s expression = (.ok shown, s') ↔
      s.evaluate expression = .ok s' ∧ shown = s'.shown := by
  unfold evaluate
  cases s.evaluate expression with
  | error e => simp
  | ok t =>
    constructor
    · intro h
      obtain ⟨rfl, rfl⟩ : t.shown = shown ∧ t = s' := by simpa using h
      exact ⟨rfl, rfl⟩
    · intro ⟨h, hshown⟩
      obtain rfl : t = s' := by simpa using h
      rw [hshown]

theorem evaluate_eq_error_iff (s s' : Stack) (expression : Text) (e : EvalError) :
    evaluate s expression = (.error e, s') ↔ s' = s ∧ s.evaluate expression = .error e := by
  unfold evaluate
  cases s.evaluate expression with
  | error e' => simp [and_comm, eq_comm]
  | ok t => simp

theorem evaluate_allFinite {s : Stack} (hs : s.AllFinite) (expression : Text) :
    (evaluate s expression).2.AllFinite := by
  unfold evaluate
  cases h : s.evaluate expression with
  | error e => exact hs
  | ok s' =>
    obtain ⟨hv, -⟩ := (Stack.evaluate_eq_ok_iff s s' expression).mp h
    rw [Stack.evaluate_of_allValid s hv] at h
    exact Stack.run_allFinite h hs

theorem processExpression_stack (s : Stack) (expression : Text) :
    (processExpression s expression).stack = (evaluate s expression).2 := by
  unfold processExpression
  split <;> simp_all

theorem process_allFinite {s : Stack} (hs : s.AllFinite) (line : Text) :
    (process s line).stack.AllFinite := by
  simp only [process]
  split_ifs
  · exact hs
  · simp [Stack.AllFinite]
  · exact hs
  · rw [processExpression_stack]
    exact evaluate_allFinite hs _

theorem Call.run_allFinite {s : Stack} (hs : s.AllFinite) (call : Call) :
    (call.run s).AllFinite := by
  cases call with
  | init => simp [Call.run, Calculator.init, Stack.AllFinite]
  | process line => exact process_allFinite hs line
  | evaluate expression => exact evaluate_allFinite hs expression

/-- Whatever is asked of a calculator, no value on its stack is ever infinite or no number. -/
theorem after_allFinite (calls : List Call) : (after calls).AllFinite := by
  suffices ∀ s : Stack, s.AllFinite → (calls.foldl Call.run s).AllFinite from
    this [] (by simp [Stack.AllFinite])
  induction calls with
  | nil => exact fun s hs => hs
  | cons call calls ih => exact fun s hs => ih _ (Call.run_allFinite hs call)

/-- In every state that calls lead to, the values are finite, and an expression is accepted if and
only if it executes; else its first invalid chunk or its first failing step is the error, and the
stack is as it was. -/
theorem evaluate_after (calls : List Call) {cs : List Text} {expression : Text}
    (h : Text.Spaced cs expression) :
    let s := after calls
    let ts := cs.map Token.classify
    (∀ v ∈ s, v.isFinite = true) ∧
    ((∃ shown s', evaluate s expression = (.ok shown, s')) ↔
      AllValid cs ∧ ¬ ∃ e, s.FailsFirst ts e) ∧
    (∀ shown s', evaluate s expression = (.ok shown, s') ↔
      AllValid cs ∧ s.Executes ts s' ∧
        shown = (s'.head?.map Binary64.displayText).getD ['0']) ∧
    (∀ e s', evaluate s expression = (.error e, s') ↔ s' = s ∧
      ((∃ chunk, FirstInvalid cs chunk ∧ e = .unrecognized chunk) ∨
        (AllValid cs ∧ s.FailsFirst ts e))) := by
  obtain rfl := h.chunks_eq
  intro s ts
  have hok : ∀ shown s', evaluate s expression = (.ok shown, s') ↔
      AllValid (Text.chunks expression) ∧ s.Executes ts s' ∧ shown = s'.shown := by
    intro shown s'
    rw [evaluate_eq_ok_iff, Stack.evaluate_eq_ok_iff, and_assoc]
    rfl
  have herr : ∀ e s', evaluate s expression = (.error e, s') ↔ s' = s ∧
      ((∃ chunk, FirstInvalid (Text.chunks expression) chunk ∧ e = .unrecognized chunk) ∨
        (AllValid (Text.chunks expression) ∧ s.FailsFirst ts e)) := by
    intro e s'
    rw [evaluate_eq_error_iff, Stack.evaluate_eq_error_iff]
    rfl
  have hshown : ∀ s' : Stack, s'.shown = (s'.head?.map Binary64.displayText).getD ['0'] := by
    intro s'
    cases s' <;> rfl
  refine ⟨after_allFinite calls, ?_, fun shown s' => hshown s' ▸ hok shown s', herr⟩
  constructor
  · intro ⟨shown, s', hs⟩
    refine ⟨((hok shown s').mp hs).1, fun ⟨e, he⟩ => ?_⟩
    have hbad := (herr e s).mpr ⟨rfl, .inr ⟨((hok shown s').mp hs).1, he⟩⟩
    simp [hs] at hbad
  · intro ⟨hv, hno⟩
    cases heval : s.evaluate expression with
    | ok s' => exact ⟨s'.shown, s', (evaluate_eq_ok_iff s s' expression _).mpr ⟨heval, rfl⟩⟩
    | error e =>
      rcases (Stack.evaluate_eq_error_iff s expression e).mp heval with ⟨chunk, hi, -⟩ | ⟨-, he⟩
      · exact absurd hv hi.not_allValid
      · exact absurd ⟨e, he⟩ hno

/-- A division by zero behind a sum that was fine. -/
theorem evaluate_after_division :
    let calls : List Call := [.init, .process (Text.lit "2 6.5")]
    let cs : List Text := [['4'], ['5'], ['+'], ['0'], ['/']]
    let nine : Binary64 := .ofRatio false (9 * Binary64.unitsPerOne) 1
    Text.Spaced cs (Text.lit " 4 5\t+ 0 /") ∧ AllValid cs ∧
      (after calls).FailsFirst (cs.map Token.classify) (.notFinite nine .div (.zero false)) ∧
      ∀ v ∈ after calls, v.isFinite = true := by
  intro calls cs nine
  have hspaced : Text.Spaced cs (Text.lit " 4 5\t+ 0 /") := Text.spaced_iff.mpr (by decide)
  have heval : evaluate (after calls) (Text.lit " 4 5\t+ 0 /") =
      (.error (.notFinite nine .div (.zero false)), after calls) := by decide +kernel
  obtain ⟨hfinite, -, -, herror⟩ := evaluate_after calls hspaced
  obtain ⟨-, ⟨chunk, -, hchunk⟩ | ⟨hv, hf⟩⟩ := (herror _ _).mp heval
  · cases hchunk
  · exact ⟨hspaced, hv, hf, hfinite⟩

end Calculator

end PostfixCalc

import PostfixCalc.Calculator.Token

namespace PostfixCalc

theorem Operator.ofText?_eq_some_iff (chunk : Text) (op : Operator) :
    ofText? chunk = some op ↔ chunk = [op.symbol] := by
  constructor
  · intro h
    unfold ofText? at h
    split at h <;> simp at h <;> subst h <;> rfl
  · intro h
    subst h
    cases op <;> rfl

namespace Token

theorem classify_symbol (op : Operator) : classify [op.symbol] = .operator op := by
  cases op <;> rfl

theorem readNumber?_symbol (op : Operator) : readNumber? [op.symbol] = none := by
  cases op <;> rfl

theorem readNumber?_isFinite {chunk : Text} {v : Binary64} (h : readNumber? chunk = some v) :
    v.isFinite = true :=
  (Option.filter_eq_some_iff.mp h).2

theorem classify_eq_operator_iff (chunk : Text) (op : Operator) :
    classify chunk = .operator op ↔ chunk = [op.symbol] := by
  rw [← Operator.ofText?_eq_some_iff]
  unfold classify
  cases h : Operator.ofText? chunk with
  | some op' => simp
  | none => cases readNumber? chunk <;> simp

/-- What is read as a number is no operator. -/
theorem classify_eq_number_iff (chunk : Text) (v : Binary64) :
    classify chunk = .number v ↔ readNumber? chunk = some v := by
  unfold classify
  cases h : Operator.ofText? chunk with
  | none => cases readNumber? chunk <;> simp
  | some op =>
    rw [(Operator.ofText?_eq_some_iff chunk op).mp h, readNumber?_symbol]
    simp

/-- What is neither is invalid, and is reported as it stands. -/
theorem classify_eq_invalid_iff (chunk s : Text) : classify chunk = .invalid s ↔
    s = chunk ∧ (∀ op : Operator, chunk ≠ [op.symbol]) ∧ ∀ v, readNumber? chunk ≠ some v := by
  simp only [ne_eq, ← Operator.ofText?_eq_some_iff]
  unfold classify
  cases h : Operator.ofText? chunk with
  | some op => simp
  | none =>
    cases readNumber? chunk with
    | some v => simp
    | none => simp [eq_comm]

/-- Only a chunk itself is ever reported as invalid. -/
theorem invalidChunk?_classify (chunk : Text) :
    invalidChunk? (classify chunk) = if (classify chunk).isValid then none else some chunk := by
  cases h : classify chunk with
  | number v => rfl
  | operator op => rfl
  | invalid s =>
    obtain ⟨rfl, _⟩ := (classify_eq_invalid_iff chunk s).mp h
    rfl

end Token

end PostfixCalc

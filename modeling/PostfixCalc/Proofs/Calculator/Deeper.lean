import PostfixCalc.Proofs.Calculator.Evaluation

namespace PostfixCalc

namespace Token

def isNumber : Token → Bool
  | number _ => true
  | _ => false

def isOperator : Token → Bool
  | operator _ => true
  | _ => false

end Token

namespace Stack

section Rules

variable {s s' : Stack} {t : Token} {ts : List Token} {e : EvalError}

theorem Steps.ne_nil (h : Steps s t s') : s' ≠ [] := by
  cases h <;> exact List.cons_ne_nil _ _

theorem Steps.length (h : Steps s t s') :
    s'.length + (if t.isOperator then 1 else 0) = s.length + if t.isNumber then 1 else 0 := by
  cases h <;> rfl

theorem Steps.deeper (h : Steps s t s') (p : Stack) : Steps (s ++ p) t (s' ++ p) := by
  cases h with
  | number _ v => exact .number (s ++ p) v
  | operator s lhs rhs op hv => exact .operator (s ++ p) lhs rhs op hv

/-- Only an operator that lacks values has an eye on what is underneath. -/
theorem Fails.deeper (h : Fails s t e) (he : ∀ op, e ≠ .tooFewValues op) (p : Stack) :
    Fails (s ++ p) t e := by
  cases h with
  | tooFewValues _ op hs => exact absurd rfl (he op)
  | notFinite s lhs rhs op hv => exact .notFinite (s ++ p) lhs rhs op hv

theorem Executes.ne_nil (h : Executes s ts s') (hne : s ≠ [] ∨ ts ≠ []) : s' ≠ [] := by
  induction h with
  | nil s => exact hne.resolve_right (fun hnil => hnil rfl)
  | cons ht hts ih => exact ih (.inl ht.ne_nil)

/-- A number adds one value, and an operator takes away one more than it leaves. -/
theorem Executes.length (h : Executes s ts s') :
    s'.length + ts.countP Token.isOperator = s.length + ts.countP Token.isNumber := by
  induction h with
  | nil s => rfl
  | cons ht hts ih =>
    have hstep := ht.length
    rw [List.countP_cons, List.countP_cons]
    omega

theorem Executes.deeper (h : Executes s ts s') (p : Stack) : Executes (s ++ p) ts (s' ++ p) := by
  induction h with
  | nil s => exact .nil (s ++ p)
  | cons ht hts ih => exact .cons (ht.deeper p) ih

theorem FailsFirst.deeper (h : FailsFirst s ts e) (he : ∀ op, e ≠ .tooFewValues op) (p : Stack) :
    FailsFirst (s ++ p) ts e := by
  obtain ⟨before, t, after, s', hsplit, hrun, hfail⟩ := h
  exact ⟨before, t, after, s' ++ p, hsplit, hrun.deeper p, hfail.deeper he p⟩

theorem shown_append (hs : s ≠ []) (p : Stack) : shown (s ++ p) = shown s := by
  cases s with
  | nil => exact absurd rfl hs
  | cons v s => rfl

end Rules

theorem evaluate_append_of_ok {s s' : Stack} {expression : Text}
    (h : s.evaluate expression = .ok s') (p : Stack) :
    (s ++ p).evaluate expression = .ok (s' ++ p) := by
  rw [evaluate_eq_ok_iff] at h ⊢
  exact ⟨h.1, h.2.deeper p⟩

theorem evaluate_append_of_error {s : Stack} {expression : Text} {e : EvalError}
    (h : s.evaluate expression = .error e) (he : ∀ op, e ≠ .tooFewValues op) (p : Stack) :
    (s ++ p).evaluate expression = .error e := by
  rw [evaluate_eq_error_iff] at h ⊢
  apply h.imp_right
  rintro ⟨hv, hf⟩
  exact ⟨hv, hf.deeper he p⟩

end Stack

namespace Calculator

/-- An expression that is accepted on a stack is accepted on top of any other values too: they stay
where they are, and what is shown is the same if there is anything to be done. An error is the same
too, unless it tells of too few values. -/
theorem evaluate_deeper (s p : Stack) (expression : Text) :
    (∀ shown s', evaluate s expression = (.ok shown, s') →
      ∃ shown', evaluate (s ++ p) expression = (.ok shown', s' ++ p) ∧
        (s' ++ p).length + (tokens expression).countP Token.isOperator =
          (s ++ p).length + (tokens expression).countP Token.isNumber ∧
        (Text.chunks expression ≠ [] → s' ≠ [] ∧ shown' = shown)) ∧
    (∀ e s', evaluate s expression = (.error e, s') → (∀ op, e ≠ .tooFewValues op) →
      evaluate (s ++ p) expression = (.error e, s ++ p)) := by
  constructor
  · intro shown s' h
    obtain ⟨hok, hshown⟩ := (evaluate_eq_ok_iff s s' expression shown).mp h
    obtain ⟨-, hrun⟩ := (Stack.evaluate_eq_ok_iff s s' expression).mp hok
    have hdeeper := Stack.evaluate_append_of_ok hok p
    refine ⟨(s' ++ p).shown, ?_, (hrun.deeper p).length, ?_⟩
    · rw [evaluate_eq_ok_iff]
      exact ⟨hdeeper, rfl⟩
    · intro hchunks
      have htokens : tokens expression ≠ [] := by
        intro hnil
        exact hchunks (List.map_eq_nil_iff.mp hnil)
      have hne : s' ≠ [] := hrun.ne_nil (.inr htokens)
      rw [Stack.shown_append hne p, hshown]
      exact ⟨hne, rfl⟩
  · intro e s' h he
    obtain ⟨-, herror⟩ := (evaluate_eq_error_iff s s' expression e).mp h
    rw [evaluate_eq_error_iff]
    exact ⟨rfl, Stack.evaluate_append_of_error herror he p⟩

/-- A product and a refused quotient, on top of a value that neither reaches. -/
theorem evaluate_deeper_product :
    let number (n : Nat) : Binary64 := .ofRatio false (n * Binary64.unitsPerOne) 1
    let zero : Binary64 := .zero false
    evaluate [number 2] (Text.lit "3 *") = (.ok ['6'], [number 6]) ∧
      evaluate [number 2, number 7] (Text.lit "3 *") = (.ok ['6'], [number 6, number 7]) ∧
      evaluate [number 2] (Text.lit "0 /") = (.error (.notFinite (number 2) .div zero), [number 2]) ∧
      evaluate [number 2, number 7] (Text.lit "0 /") =
        (.error (.notFinite (number 2) .div zero), [number 2, number 7]) := by
  intro number zero
  have hproduct : evaluate [number 2] (Text.lit "3 *") = (.ok ['6'], [number 6]) := by
    decide +kernel
  have hquotient : evaluate [number 2] (Text.lit "0 /") =
      (.error (.notFinite (number 2) .div zero), [number 2]) := by decide +kernel
  obtain ⟨hok, -⟩ := evaluate_deeper [number 2] [number 7] (Text.lit "3 *")
  obtain ⟨-, herror⟩ := evaluate_deeper [number 2] [number 7] (Text.lit "0 /")
  obtain ⟨shown, hdeeper, -, hshown⟩ := hok _ _ hproduct
  obtain ⟨-, rfl⟩ := hshown (by decide +kernel)
  exact ⟨hproduct, hdeeper, hquotient, herror _ _ hquotient (fun _ => EvalError.noConfusion)⟩

end Calculator

end PostfixCalc

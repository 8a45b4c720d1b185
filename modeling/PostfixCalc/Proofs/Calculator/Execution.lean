import Mathlib.Tactic.SplitIfs
import PostfixCalc.Calculator.Stack
import PostfixCalc.Proofs.Calculator.Tokens

namespace PostfixCalc

/-- A token that stands for a finite number or for an operator. -/
def Token.Readable : Token → Prop
  | .number v => v.isFinite = true
  | .operator _ => True
  | .invalid _ => False

theorem Token.readable_classify_iff (chunk : Text) :
    (classify chunk).Readable ↔ (classify chunk).isValid = true := by
  unfold classify
  split
  · simp [Readable, isValid]
  · split
    · next v hv => simp [Readable, isValid, readNumber?_isFinite hv]
    · simp [Readable, isValid]

namespace Stack

/-- All values are finite. -/
def AllFinite (s : Stack) : Prop := ∀ v ∈ s, v.isFinite = true

/-- What one token is meant to do. -/
inductive Steps : Stack → Token → Stack → Prop
  | number (s : Stack) (v : Binary64) : Steps s (.number v) (v :: s)
  | operator (s : Stack) (lhs rhs : Binary64) (op : Operator)
      (hv : (op.eval lhs rhs).isFinite = true) :
      Steps (rhs :: lhs :: s) (.operator op) (op.eval lhs rhs :: s)

/-- What tokens are meant to do from left to right. -/
inductive Executes : Stack → List Token → Stack → Prop
  | nil (s : Stack) : Executes s [] s
  | cons {s s' s'' : Stack} {t : Token} {ts : List Token} (ht : Steps s t s')
      (hts : Executes s' ts s'') : Executes s (t :: ts) s''

/-- A token that cannot be done on a stack, and the error that tells why. -/
inductive Fails : Stack → Token → EvalError → Prop
  | tooFewValues (s : Stack) (op : Operator) (hs : s.length < 2) :
      Fails s (.operator op) (.tooFewValues op)
  | notFinite (s : Stack) (lhs rhs : Binary64) (op : Operator)
      (hv : (op.eval lhs rhs).isFinite = false) :
      Fails (rhs :: lhs :: s) (.operator op) (.notFinite lhs op rhs)

/-- Some token fails with this error where the tokens before it have led. -/
def FailsFirst (s : Stack) (ts : List Token) (e : EvalError) : Prop :=
  ∃ before t after s', ts = before ++ t :: after ∧ Executes s before s' ∧ Fails s' t e

theorem failsFirst_cons_iff (s : Stack) (t : Token) (ts : List Token) (e : EvalError) :
    FailsFirst s (t :: ts) e ↔ Fails s t e ∨ ∃ s', Steps s t s' ∧ FailsFirst s' ts e := by
  constructor
  · intro ⟨before, u, after, s', hsplit, hrun, hfail⟩
    cases before with
    | nil =>
      obtain ⟨rfl, rfl⟩ : t = u ∧ ts = after := by simpa using hsplit
      cases hrun
      exact .inl hfail
    | cons b before =>
      obtain ⟨rfl, rfl⟩ : t = b ∧ ts = before ++ u :: after := by simpa using hsplit
      cases hrun with
      | cons ht hts => exact .inr ⟨_, ht, before, u, after, s', rfl, hts, hfail⟩
  · intro h
    rcases h with hfail | ⟨s', ht, before, u, after, s'', rfl, hrun, hfail⟩
    · exact ⟨[], t, ts, s, rfl, .nil s, hfail⟩
    · exact ⟨t :: before, u, after, s'', rfl, .cons ht hrun, hfail⟩

theorem apply_eq_tooFewValues (op : Operator) (s : Stack) (hs : s.length < 2) :
    s.apply op = .error (.tooFewValues op) := by
  cases s with
  | nil => rfl
  | cons v s =>
    cases s with
    | nil => rfl
    | cons w s =>
      simp only [List.length_cons] at hs
      omega

/-- The stack after a token of which the rules say what it does. -/
theorem step_eq_ok_of_steps {s s' : Stack} {t : Token} (ht : t.Readable) (h : Steps s t s') :
    s.step t = .ok s' := by
  cases h with
  | number _ v => exact if_pos ht
  | operator s lhs rhs op hv => simp [step, apply, hv]

theorem step_eq_error_of_fails {s : Stack} {t : Token} {e : EvalError} (h : Fails s t e) :
    s.step t = .error e := by
  cases h with
  | tooFewValues _ op hs => exact apply_eq_tooFewValues op s hs
  | notFinite s lhs rhs op hv => simp [step, apply, hv]

/-- A readable token either does what the rules say or fails as they say. -/
theorem steps_or_fails (s : Stack) {t : Token} (ht : t.Readable) :
    (∃ s', Steps s t s') ∨ ∃ e, Fails s t e := by
  cases t with
  | number v => exact .inl ⟨_, .number s v⟩
  | invalid chunk => exact ht.elim
  | operator op =>
    match s with
    | [] => exact .inr ⟨_, .tooFewValues [] op (by simp)⟩
    | [v] => exact .inr ⟨_, .tooFewValues [v] op (by simp)⟩
    | rhs :: lhs :: s =>
      cases hv : (op.eval lhs rhs).isFinite with
      | true => exact .inl ⟨_, .operator s lhs rhs op hv⟩
      | false => exact .inr ⟨_, .notFinite s lhs rhs op hv⟩

theorem step_eq_ok_iff {s s' : Stack} {t : Token} (ht : t.Readable) :
    s.step t = .ok s' ↔ Steps s t s' := by
  refine ⟨fun h => ?_, step_eq_ok_of_steps ht⟩
  rcases steps_or_fails s ht with ⟨s'', hs⟩ | ⟨e, he⟩
  · have hk := step_eq_ok_of_steps ht hs
    obtain rfl : s'' = s' := by simpa [hk] using h
    exact hs
  · simp [step_eq_error_of_fails he] at h

theorem step_eq_error_iff {s : Stack} {t : Token} {e : EvalError} (ht : t.Readable) :
    s.step t = .error e ↔ Fails s t e := by
  refine ⟨fun h => ?_, step_eq_error_of_fails⟩
  rcases steps_or_fails s ht with ⟨s', hs⟩ | ⟨e', he⟩
  · simp [step_eq_ok_of_steps ht hs] at h
  · have hk := step_eq_error_of_fails he
    obtain rfl : e' = e := by simpa [hk] using h
    exact he

theorem run_cons_eq_ok_iff {s s' : Stack} {t : Token} {ts : List Token} :
    s.run (t :: ts) = .ok s' ↔ ∃ s'', s.step t = .ok s'' ∧ s''.run ts = .ok s' := by
  cases hstep : s.step t <;> simp [run, hstep]

theorem run_eq_ok_iff {ts : List Token} (hts : ∀ t ∈ ts, t.Readable) (s s' : Stack) :
    s.run ts = .ok s' ↔ Executes s ts s' := by
  induction ts generalizing s with
  | nil =>
    constructor
    · intro h
      obtain rfl : s = s' := by simpa [run] using h
      exact .nil s
    · intro h
      cases h
      rfl
  | cons t ts ih =>
    have ht := hts t (by simp)
    have hrest := ih (fun u hu => hts u (by simp [hu]))
    rw [run_cons_eq_ok_iff]
    constructor
    · rintro ⟨s'', hstep, hrun⟩
      exact .cons ((step_eq_ok_iff ht).mp hstep) ((hrest s'').mp hrun)
    · intro h
      cases h with
      | cons hstep hrun => exact ⟨_, (step_eq_ok_iff ht).mpr hstep, (hrest _).mpr hrun⟩

theorem run_eq_error_iff {ts : List Token} (hts : ∀ t ∈ ts, t.Readable) (s : Stack)
    (e : EvalError) : s.run ts = .error e ↔ FailsFirst s ts e := by
  induction ts generalizing s with
  | nil => simp [run, FailsFirst]
  | cons t ts ih =>
    have ht := hts t (by simp)
    have hrest := ih (fun u hu => hts u (by simp [hu]))
    rw [failsFirst_cons_iff]
    rcases steps_or_fails s ht with ⟨s', hs⟩ | ⟨e', he⟩
    · have hstep := step_eq_ok_of_steps ht hs
      have hno : ¬ Fails s t e := fun hf => by simp [step_eq_error_of_fails hf] at hstep
      have honly : ∀ s'', Steps s t s'' → s'' = s' := fun s'' h => by
        simpa [hstep, eq_comm] using step_eq_ok_of_steps ht h
      simp only [run, hstep, hrest, hno, false_or]
      exact ⟨fun h => ⟨s', hs, h⟩, fun ⟨s'', h, hf⟩ => honly s'' h ▸ hf⟩
    · have hstep := step_eq_error_of_fails he
      have hno : ¬ ∃ s', Steps s t s' ∧ FailsFirst s' ts e := fun ⟨s', h, _⟩ => by
        simp [step_eq_ok_of_steps ht h] at hstep
      simp only [hno, or_false, ← step_eq_error_iff ht]
      simp [run, hstep]

/-- Tokens run one after the other as their parts do. -/
theorem run_append (s : Stack) (ts us : List Token) :
    s.run (ts ++ us) = (s.run ts).bind fun s' => s'.run us := by
  induction ts generalizing s with
  | nil => rfl
  | cons t ts ih =>
    simp only [List.cons_append, run]
    cases s.step t with
    | error e => rfl
    | ok s' => exact ih s'

theorem step_allFinite {s s' : Stack} {t : Token} (h : s.step t = .ok s') (hs : s.AllFinite) :
    s'.AllFinite := by
  cases t with
  | invalid chunk => simp [step] at h
  | number v =>
    simp only [step, push] at h
    split_ifs at h with hv
    obtain rfl : v :: s = s' := by simpa using h
    simpa [AllFinite, hv] using hs
  | operator op =>
    match s with
    | [] => simp [step, apply] at h
    | [v] => simp [step, apply] at h
    | rhs :: lhs :: s =>
      simp only [step, apply] at h
      split_ifs at h with hv
      obtain rfl : op.eval lhs rhs :: s = s' := by simpa using h
      have hrest : ∀ v ∈ s, v.isFinite = true := fun v hv => hs v (by simp [hv])
      simpa [AllFinite, hv] using hrest

theorem run_allFinite {ts : List Token} {s s' : Stack} (h : s.run ts = .ok s')
    (hs : s.AllFinite) : s'.AllFinite := by
  induction ts generalizing s with
  | nil =>
    obtain rfl : s = s' := by simpa [run] using h
    exact hs
  | cons t ts ih =>
    obtain ⟨s'', hstep, hrun⟩ := run_cons_eq_ok_iff.mp h
    exact ih hrun (step_allFinite hstep hs)

end Stack

end PostfixCalc

import PostfixCalc.Proofs.Calculator.Execution
import PostfixCalc.Proofs.Number.Operations

namespace PostfixCalc

namespace Operator

open Binary64 (IsRounded sumIsNegative)

/-- The operation on exact values. -/
def exact : Operator → ℚ → ℚ → ℚ
  | add, x, y => x + y
  | sub, x, y => x - y
  | mul, x, y => x * y
  | div, x, y => x / y

/-- The sign of the result, which is needed for a result of zero. -/
def isNegative : Operator → Binary64 → Binary64 → Bool
  | add, x, y => sumIsNegative x y
  | sub, x, y => sumIsNegative x (-y)
  | mul, x, y => x.isNegative ^^ y.isNegative
  | div, x, y => x.isNegative ^^ y.isNegative

/-- The operation is a division by a zero of either sign. -/
def DividesByZero (op : Operator) (rhs : Binary64) : Prop :=
  op = div ∧ (rhs = .zero false ∨ rhs = .zero true)

variable {lhs rhs : Binary64} (hl : lhs.isFinite = true) (hr : rhs.isFinite = true)

include hl hr

theorem eval_isRounded {op : Operator} (hzero : ¬ op.DividesByZero rhs) :
    (op.eval lhs rhs).IsRounded (op.isNegative lhs rhs) (op.exact lhs.value rhs.value) := by
  cases op with
  | add => exact Binary64.add_isRounded hl hr
  | sub => exact Binary64.sub_isRounded hl hr
  | mul => exact Binary64.mul_isRounded hl hr
  | div =>
    apply Binary64.div_isRounded hl hr
    intro t ht
    cases t
    · exact hzero ⟨rfl, .inl ht⟩
    · exact hzero ⟨rfl, .inr ht⟩

theorem eval_isFinite_iff (op : Operator) : (op.eval lhs rhs).isFinite = true ↔
    ¬ (op.DividesByZero rhs ∨ Binary64.overflowBound ≤ |op.exact lhs.value rhs.value|) := by
  by_cases hzero : op.DividesByZero rhs
  · have hnot : (op.eval lhs rhs).isFinite = false := by
      obtain ⟨rfl, rfl | rfl⟩ := hzero
      · exact Binary64.div_zero_not_finite hl false
      · exact Binary64.div_zero_not_finite hl true
    simp [hnot, hzero]
  · rw [(eval_isRounded hl hr hzero).isFinite_iff, or_iff_right hzero, not_le]

end Operator

namespace Stack

open Binary64 (overflowBound)

theorem apply_eq_error_iff (op : Operator) (lhs rhs : Binary64) (s : Stack) :
    apply op (rhs :: lhs :: s) = .error (.notFinite lhs op rhs) ↔
      (op.eval lhs rhs).isFinite = false := by
  cases hv : (op.eval lhs rhs).isFinite <;> simp [apply, hv]

theorem apply_eq_ok {op : Operator} {lhs rhs : Binary64}
    (hv : (op.eval lhs rhs).isFinite = true) (s : Stack) :
    apply op (rhs :: lhs :: s) = .ok (op.eval lhs rhs :: s) := if_pos hv

/-- On finite values an operator is refused for a division by zero and for an exact result that
overflows, and nothing else leads to a value that is not finite. Every other result, however small,
takes the place of the two values: it is the one number with its sign that is nearest to the exact
result. -/
theorem apply_nearest {lhs rhs : Binary64} {s : Stack} (hs : AllFinite (rhs :: lhs :: s))
    (op : Operator) :
    let x := op.exact lhs.value rhs.value
    let refused := op.DividesByZero rhs ∨ overflowBound ≤ |x|
    (apply op (rhs :: lhs :: s) = .error (.notFinite lhs op rhs) ↔ refused) ∧
    ((op.eval lhs rhs).isFinite = false ↔ refused) ∧
    (¬ refused → ∃ v, apply op (rhs :: lhs :: s) = .ok (v :: s) ∧
      v.IsNearest x ∧ v.isNegative = op.isNegative lhs rhs ∧
      ∀ w : Binary64, w.IsNearest x → w.isNegative = op.isNegative lhs rhs → w = v) := by
  intro x refused
  have hr : rhs.isFinite = true := hs rhs List.mem_cons_self
  have hl : lhs.isFinite = true := hs lhs (List.mem_cons_of_mem _ List.mem_cons_self)
  have hfinite := op.eval_isFinite_iff hl hr
  have hrefused : (op.eval lhs rhs).isFinite = false ↔ refused := by
    rw [← Bool.not_eq_true, hfinite, not_not]
  refine ⟨(apply_eq_error_iff op lhs rhs s).trans hrefused, hrefused, ?_⟩
  intro haccepted
  obtain ⟨hzero, hsmall⟩ := not_or.mp haccepted
  have hrounded := Operator.eval_isRounded hl hr hzero
  have hnearest := hrounded.eq_iff (not_le.mp hsmall)
  obtain ⟨hv, hsign⟩ := (hnearest _).mp rfl
  refine ⟨op.eval lhs rhs, apply_eq_ok (hfinite.mpr haccepted) s, hv, hsign, ?_⟩
  intro w hw hsame
  symm
  rw [hnearest w]
  exact ⟨hw, hsame⟩

/-- At both ends of the range: half a place behind the largest number a sum is refused, although it
is as near to that number as to the next power of two, and half of the greatest negative number is
accepted as a zero. -/
theorem apply_nearest_range :
    let largest : Binary64 := .ofRank false (Binary64.rankCount - 1)
    let half : Binary64 := .ofRatio false (2 ^ 970 * Binary64.unitsPerOne) 1
    let least : Binary64 := .ofRank true 1
    let two : Binary64 := .ofRatio false (2 * Binary64.unitsPerOne) 1
    apply .add [half, largest] = .error (.notFinite largest .add half) ∧
      overflowBound ≤ |largest.value + half.value| ∧
      apply .div [two, least] = .ok [.zero true] ∧
      Binary64.IsNearest (.zero true) (least.value / two.value) := by
  intro largest half least two
  have hsum : ∀ v ∈ [half, largest], v.isFinite = true := by decide +kernel
  have hquotient : ∀ v ∈ [two, least], v.isFinite = true := by decide +kernel
  have hadd : apply .add [half, largest] = .error (.notFinite largest .add half) := by
    decide +kernel
  have hdiv : apply .div [two, least] = .ok [.zero true] := by decide +kernel
  obtain ⟨hrefused, -, -⟩ := apply_nearest hsum .add
  obtain ⟨hrefused', -, haccepted⟩ := apply_nearest hquotient .div
  have hno : ¬ (Operator.DividesByZero .div two ∨
      overflowBound ≤ |Operator.exact .div least.value two.value|) := by
    rw [← hrefused', hdiv]
    exact nofun
  obtain ⟨v, hv, hnearest, -⟩ := haccepted hno
  obtain rfl : .zero true = v := by simpa [hdiv] using hv
  exact ⟨hadd, (hrefused.mp hadd).resolve_left (fun h => Operator.noConfusion h.1), hdiv, hnearest⟩

end Stack

end PostfixCalc

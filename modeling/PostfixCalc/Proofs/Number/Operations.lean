import PostfixCalc.Proofs.Number.Nearest
import PostfixCalc.Proofs.Number.Numeral

namespace PostfixCalc.Binary64

/-- `v` is what one rounding makes of the exact value `x`, which has the sign `s`; the sign counts
where `x` is zero or rounds to it. -/
def IsRounded (v : Binary64) (s : Bool) (x : ℚ) : Prop :=
  ∃ num den, 0 < den ∧ x = withSign s (ofUnits num den) ∧ v = ofRatio s num den

theorem abs_withSign (s : Bool) {q : ℚ} (hq : 0 ≤ q) : |withSign s q| = q := by
  cases s
  · exact abs_of_nonneg hq
  · exact (abs_neg q).trans (abs_of_nonneg hq)

section Rounded

variable {v : Binary64} {s : Bool} {x : ℚ}

theorem IsRounded.isFinite_iff (h : v.IsRounded s x) : v.isFinite = true ↔ |x| < overflowBound := by
  obtain ⟨num, den, hden, rfl, rfl⟩ := h
  rw [abs_withSign s (ofUnits_nonneg num den), isFinite_ofRatio_iff hden]

theorem IsRounded.eq_iff (h : v.IsRounded s x) (hsmall : |x| < overflowBound) (w : Binary64) :
    v = w ↔ w.IsNearest x ∧ w.isNegative = s := by
  have hfinite := h.isFinite_iff.mpr hsmall
  obtain ⟨num, den, hden, rfl, rfl⟩ := h
  rw [abs_withSign s (ofUnits_nonneg num den)] at hsmall
  constructor
  · rintro rfl
    exact ((ofRatio_eq_iff hden s _).mp ⟨rfl, hfinite⟩).2
  · intro hnearest
    exact ((ofRatio_eq_iff hden s w).mpr ⟨hsmall, hnearest⟩).1

end Rounded

theorem isRounded_zero (s : Bool) : (zero s).IsRounded s 0 := by
  have hrank : nearestRank 0 1 = 0 := nearestRank_eq_zero Nat.one_pos (Nat.zero_le 1)
  have hunits : ofUnits 0 1 = 0 := by rw [ofUnits, Nat.cast_zero, zero_div, zero_div]
  refine ⟨0, 1, Nat.one_pos, ?_, ?_⟩
  · rw [hunits]
    cases s
    · rfl
    · exact neg_zero.symm
  · rw [ofRatio, hrank]
    rfl

theorem withSign_mul (s t : Bool) (a b : ℚ) :
    withSign s a * withSign t b = withSign (s ^^ t) (a * b) := by
  cases s <;> cases t <;> simp [withSign]

theorem withSign_div (s t : Bool) (a b : ℚ) :
    withSign s a / withSign t b = withSign (s ^^ t) (a / b) := by
  cases s <;> cases t <;> simp [withSign, neg_div, div_neg]

theorem magnitude_mul (a b : Nat) :
    magnitude a * magnitude b = ofUnits (units a * units b) unitsPerOne := by
  simp only [magnitude, ofUnits, Nat.cast_mul, Nat.cast_one, div_one]
  ring

theorem magnitude_div (a b : Nat) :
    magnitude a / magnitude b = ofUnits (units a * unitsPerOne) (units b) := by
  have hone : (unitsPerOne : ℚ) ≠ 0 := ne_of_gt unitsPerOne_pos
  simp only [magnitude, ofUnits, Nat.cast_mul, Nat.cast_one, div_one]
  rw [div_div_div_cancel_right₀ hone, mul_div_right_comm, mul_div_cancel_right₀ _ hone]

/-- The sign of a sum. A sum of zero is negative only if both terms are. -/
def sumIsNegative (x y : Binary64) : Bool :=
  if x.value + y.value = 0 then x.isNegative && y.isNegative else decide (x.value + y.value < 0)

theorem withSign_natAbs (n : Int) :
    withSign (decide (n < 0)) (ofUnits n.natAbs 1) = n / unitsPerOne := by
  have hunits : ofUnits n.natAbs 1 = |(n : ℚ)| / unitsPerOne := by
    rw [ofUnits, Nat.cast_one, div_one, Nat.cast_natAbs, Int.cast_abs]
  rw [hunits, withSign]
  by_cases hn : n < 0
  · have hneg : (n : ℚ) < 0 := by exact_mod_cast hn
    rw [decide_eq_true hn, if_pos rfl, abs_of_neg hneg, neg_div, neg_neg]
  · have hpos : (0 : ℚ) ≤ n := by exact_mod_cast Int.not_lt.mp hn
    rw [decide_eq_false hn, if_neg Bool.false_ne_true, abs_of_nonneg hpos]

section Operations

variable {x y : Binary64}

/-- A sum of zero has no sign of its own and takes it from the terms. -/
theorem add_isRounded (hx : x.isFinite = true) (hy : y.isFinite = true) :
    (x + y).IsRounded (sumIsNegative x y) (x.value + y.value) := by
  obtain ⟨s, a, rfl⟩ := exists_finite hx
  obtain ⟨t, b, rfl⟩ := exists_finite hy
  let sum := signedUnits s a + signedUnits t b
  have hvalue : value (finite s a) + value (finite t b) = sum / unitsPerOne := by
    show (signedUnits s a : ℚ) / _ + (signedUnits t b : ℚ) / _ = _
    rw [← add_div, ← Int.cast_add]
  have hadd : finite s a + finite t b =
      if sum = 0 then zero (s && t) else ofRatio (decide (sum < 0)) sum.natAbs 1 := rfl
  have hzero : (sum / unitsPerOne : ℚ) = 0 ↔ sum = 0 := by
    rw [div_eq_zero_iff, or_iff_left (ne_of_gt unitsPerOne_pos), Int.cast_eq_zero]
  have hneg : (sum / unitsPerOne : ℚ) < 0 ↔ sum < 0 := by
    rw [div_lt_iff₀ unitsPerOne_pos, zero_mul, Int.cast_lt_zero]
  rw [sumIsNegative, hvalue, hadd]
  by_cases hsum : sum = 0
  · rw [if_pos hsum, if_pos (hzero.mpr hsum), hzero.mpr hsum]
    exact isRounded_zero (s && t)
  · rw [if_neg hsum, if_neg (mt hzero.mp hsum), decide_eq_decide.mpr hneg]
    exact ⟨sum.natAbs, 1, Nat.one_pos, (withSign_natAbs sum).symm, rfl⟩

theorem mul_isRounded (hx : x.isFinite = true) (hy : y.isFinite = true) :
    (x * y).IsRounded (x.isNegative ^^ y.isNegative) (x.value * y.value) := by
  obtain ⟨s, a, rfl⟩ := exists_finite hx
  obtain ⟨t, b, rfl⟩ := exists_finite hy
  have hone : 0 < unitsPerOne := by exact_mod_cast unitsPerOne_pos
  refine ⟨units a * units b, unitsPerOne, hone, ?_, rfl⟩
  rw [value_finite, value_finite, withSign_mul, magnitude_mul]
  rfl

theorem div_finite (s t : Bool) (a b : Fin rankCount) : finite s a / finite t b =
    if b.val = 0 then if a.val = 0 then nan else infinite (s ^^ t)
    else ofRatio (s ^^ t) (units a * unitsPerOne) (units b) := rfl

theorem div_isRounded (hx : x.isFinite = true) (hy : y.isFinite = true) (hzero : ∀ t, y ≠ zero t) :
    (x / y).IsRounded (x.isNegative ^^ y.isNegative) (x.value / y.value) := by
  obtain ⟨s, a, rfl⟩ := exists_finite hx
  obtain ⟨t, b, rfl⟩ := exists_finite hy
  have hb : b.val ≠ 0 := by
    intro h
    exact hzero t (congrArg (finite t) (Fin.ext h))
  have hunits : 0 < units b := units_strictMono (Nat.pos_of_ne_zero hb)
  refine ⟨units a * unitsPerOne, units b, hunits, ?_, ?_⟩
  · rw [value_finite, value_finite, withSign_div, magnitude_div]
    rfl
  · rw [div_finite, if_neg hb]
    rfl

theorem div_zero_not_finite (hx : x.isFinite = true) (t : Bool) : (x / zero t).isFinite = false := by
  obtain ⟨s, a, rfl⟩ := exists_finite hx
  rw [zero, div_finite, if_pos (Fin.val_zero _)]
  split <;> rfl

theorem neg_isFinite : (-x).isFinite = x.isFinite := by
  cases x <;> rfl

theorem value_neg : (-x).value = -x.value := by
  cases x with
  | finite s r =>
    show value (finite (!s) r) = _
    rw [value_finite, value_finite]
    cases s <;> simp [withSign]
  | _ => exact neg_zero.symm

theorem sub_isRounded (hx : x.isFinite = true) (hy : y.isFinite = true) :
    (x - y).IsRounded (sumIsNegative x (-y)) (x.value - y.value) := by
  rw [sub_eq_add_neg, ← value_neg]
  exact add_isRounded hx (neg_isFinite.trans hy)

end Operations

end PostfixCalc.Binary64

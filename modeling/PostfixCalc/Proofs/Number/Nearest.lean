import Mathlib.Algebra.Order.Field.Basic
import Mathlib.Data.Rat.Cast.Order
import Mathlib.Tactic.Linarith
import PostfixCalc.Proofs.Number.Rounding

namespace PostfixCalc.Binary64

/-- The exact value of a finite number. -/
def value : Binary64 → ℚ
  | finite s r => signedUnits s r / unitsPerOne
  | _ => 0

def isNegative : Binary64 → Bool
  | finite s _ => s
  | infinite s => s
  | nan => false

/-- The last binary digit of the significand is a zero. -/
def isEven : Binary64 → Bool
  | finite _ r => r.val % 2 == 0
  | _ => false

/-- No finite number is nearer to the exact value `x`, and another one is as near only if `v` is
even. -/
structure IsNearest (v : Binary64) (x : ℚ) : Prop where
  isFinite : v.isFinite = true
  dist_le : ∀ w : Binary64, w.isFinite = true → |v.value - x| ≤ |w.value - x|
  isEven_of_tie : ∀ w : Binary64, w.isFinite = true → w.value ≠ v.value →
    |w.value - x| = |v.value - x| → v.isEven = true

/-- An absolute value with a sign. -/
def withSign (negative : Bool) (q : ℚ) : ℚ := if negative then -q else q

/-- The exact value of `num / den` units. -/
def ofUnits (num den : Nat) : ℚ := num / den / unitsPerOne

def magnitude (rank : Nat) : ℚ := ofUnits (units rank) 1

theorem unitsPerOne_pos : (0 : ℚ) < unitsPerOne := by
  have hpos : 0 < unitsPerOne := by decide +kernel
  exact_mod_cast hpos

theorem ofUnits_nonneg (num den : Nat) : 0 ≤ ofUnits num den :=
  div_nonneg (div_nonneg (Nat.cast_nonneg _) (Nat.cast_nonneg _)) (le_of_lt unitsPerOne_pos)

theorem ofUnits_le_iff {num den num' den' : Nat} (hden : 0 < den) (hden' : 0 < den') :
    ofUnits num den ≤ ofUnits num' den' ↔ num * den' ≤ num' * den := by
  have hpos : (0 : ℚ) < den := by exact_mod_cast hden
  have hpos' : (0 : ℚ) < den' := by exact_mod_cast hden'
  rw [ofUnits, ofUnits, div_le_div_iff_of_pos_right unitsPerOne_pos, div_le_div_iff₀ hpos hpos']
  exact_mod_cast Iff.rfl

theorem magnitude_strictMono : StrictMono magnitude := by
  intro a b hab
  have hunits := units_strictMono hab
  rw [magnitude, magnitude, ← not_le, ofUnits_le_iff Nat.one_pos Nat.one_pos]
  omega

theorem magnitude_zero : magnitude 0 = 0 := by
  rw [magnitude, ofUnits, units_zero, Nat.cast_zero, zero_div, zero_div]

theorem value_finite (s : Bool) (r : Fin rankCount) :
    value (finite s r) = withSign s (magnitude r) := by
  rw [magnitude, ofUnits, Nat.cast_one, div_one]
  cases s
  · rfl
  · show ((-(units r : Int) : Int) : ℚ) / _ = -(_ / _)
    push_cast
    exact neg_div _ _

/-- What is halfway between two magnitudes, in units. -/
theorem add_magnitude_eq (a b : Nat) :
    magnitude a + magnitude b = 2 * ofUnits (units a + units b) 2 := by
  simp only [magnitude, ofUnits, Nat.cast_one, div_one, Nat.cast_add, Nat.cast_ofNat]
  ring

theorem add_magnitude_le_iff {num den : Nat} (hden : 0 < den) (a b : Nat) :
    magnitude a + magnitude b ≤ 2 * ofUnits num den ↔ (units a + units b) * den ≤ 2 * num := by
  rw [add_magnitude_eq, mul_le_mul_iff_right₀ two_pos, ofUnits_le_iff two_pos hden,
    Nat.mul_comm num]

theorem le_add_magnitude_iff {num den : Nat} (hden : 0 < den) (a b : Nat) :
    2 * ofUnits num den ≤ magnitude a + magnitude b ↔ 2 * num ≤ (units a + units b) * den := by
  rw [add_magnitude_eq, mul_le_mul_iff_right₀ two_pos, ofUnits_le_iff hden two_pos,
    Nat.mul_comm num]

section Distance

variable {a b x : ℚ}

theorem dist_upper_le_iff (hab : a < b) : |b - x| ≤ |a - x| ↔ a + b ≤ 2 * x := by
  rw [← sq_le_sq]
  constructor
  · intro h
    nlinarith
  · intro h
    nlinarith

theorem dist_lower_le_iff (hab : a < b) : |a - x| ≤ |b - x| ↔ 2 * x ≤ a + b := by
  rw [← sq_le_sq]
  constructor
  · intro h
    nlinarith
  · intro h
    nlinarith

theorem dist_withSign (s : Bool) (a b : ℚ) : |withSign s a - withSign s b| = |a - b| := by
  cases s
  · rfl
  · show |-a - -b| = _
    rw [← neg_sub', abs_neg]

theorem dist_withSign_of_ne {s t : Bool} (hne : t ≠ s) (ha : 0 ≤ a) (hb : 0 ≤ b) :
    |withSign t a - withSign s b| = a + b := by
  have hsum : 0 ≤ a + b := add_nonneg ha hb
  cases s
  · obtain rfl : t = true := by simpa using hne
    show |-a - b| = _
    rw [← neg_add', abs_neg, abs_of_nonneg hsum]
  · obtain rfl : t = false := by simpa using hne
    show |a - -b| = _
    rw [sub_neg_eq_add, abs_of_nonneg hsum]

theorem dist_le_add (ha : 0 ≤ a) (hb : 0 ≤ b) : |a - b| ≤ a + b := by
  rw [abs_le]
  constructor <;> linarith

end Distance

section Nearest

variable {num den rank : Nat} (hden : 0 < den)

include hden

/-- The magnitude that a quotient rounds to is no farther from it than any other one. -/
theorem Nearest.dist_le (h : Nearest num den rank) (other : Nat) :
    |magnitude rank - ofUnits num den| ≤ |magnitude other - ofUnits num den| := by
  have hlow := (add_magnitude_le_iff hden _ _).mpr h.low
  have hhigh := (le_add_magnitude_iff hden _ _).mpr h.high
  rcases Nat.lt_trichotomy other rank with hlt | rfl | hlt
  · have hstep := magnitude_strictMono.monotone (Nat.le_sub_one_of_lt hlt)
    rw [dist_upper_le_iff (magnitude_strictMono hlt)]
    linarith
  · exact le_refl _
  · have hstep := magnitude_strictMono.monotone (Nat.succ_le_of_lt hlt)
    rw [dist_lower_le_iff (magnitude_strictMono hlt)]
    linarith

theorem Nearest.even_of_tie (h : Nearest num den rank) {other : Nat} (hother : other ≠ rank)
    (htie : |magnitude other - ofUnits num den| = |magnitude rank - ofUnits num den|) :
    rank % 2 = 0 := by
  by_contra hodd
  obtain ⟨hlow, hhigh⟩ := h.of_odd (by omega)
  rw [← not_le, ← le_add_magnitude_iff hden] at hlow
  rw [← not_le, ← add_magnitude_le_iff hden] at hhigh
  rcases Nat.lt_or_gt_of_ne hother with hlt | hlt
  · have hstep := magnitude_strictMono.monotone (Nat.le_sub_one_of_lt hlt)
    have hmid := (dist_lower_le_iff (magnitude_strictMono hlt)).mp (le_of_eq htie)
    linarith
  · have hstep := magnitude_strictMono.monotone (Nat.succ_le_of_lt hlt)
    have hmid := (dist_upper_le_iff (magnitude_strictMono hlt)).mp (le_of_eq htie)
    linarith

/-- Of opposite numbers the one with the right sign is really nearer, unless they are zeros. -/
theorem Nearest.even_of_opposite (h : Nearest num den rank)
    (htie : magnitude rank + ofUnits num den = |magnitude rank - ofUnits num den|) :
    rank % 2 = 0 := by
  by_contra hodd
  have hlow := (h.of_odd (by omega)).1
  rw [← not_le, ← le_add_magnitude_iff hden] at hlow
  have hzero := magnitude_strictMono (show 0 < rank by omega)
  have hbefore : 0 ≤ magnitude (rank - 1) := ofUnits_nonneg _ _
  rw [magnitude_zero] at hzero
  have hstrict : |magnitude rank - ofUnits num den| < magnitude rank + ofUnits num den := by
    rw [abs_lt]
    constructor <;> linarith
  exact absurd htie (ne_of_gt hstrict)

end Nearest

theorem exists_finite {v : Binary64} (h : v.isFinite = true) : ∃ s r, v = finite s r := by
  cases v with
  | finite s r => exact ⟨s, r, rfl⟩
  | infinite s => exact absurd h Bool.false_ne_true
  | nan => exact absurd h Bool.false_ne_true

theorem withSign_injective (s : Bool) {a b : ℚ} (h : withSign s a = withSign s b) : a = b := by
  cases s
  · exact h
  · exact neg_injective h

section Rounded

variable {num den : Nat} (hden : 0 < den)

include hden

theorem isNearest_of_nearest {rank : Nat} (h : Nearest num den rank) (hrank : rank < rankCount)
    (s : Bool) : IsNearest (finite s ⟨rank, hrank⟩) (withSign s (ofUnits num den)) := by
  have hexact := ofUnits_nonneg num den
  have hmagnitude : ∀ r, 0 ≤ magnitude r := fun r => ofUnits_nonneg _ _
  refine ⟨rfl, ?_, ?_⟩
  · intro w hw
    obtain ⟨t, r, rfl⟩ := exists_finite hw
    have hle := h.dist_le hden r
    rw [value_finite, value_finite, dist_withSign]
    by_cases hst : t = s
    · rwa [hst, dist_withSign]
    · rw [dist_withSign_of_ne hst (hmagnitude r) hexact]
      exact hle.trans (dist_le_add (hmagnitude r) hexact)
  · intro w hw hne htie
    obtain ⟨t, r, rfl⟩ := exists_finite hw
    show (rank % 2 == 0) = true
    rw [beq_iff_eq]
    rw [value_finite, value_finite] at hne
    rw [value_finite, value_finite, dist_withSign] at htie
    by_cases hst : t = s
    · rw [hst, dist_withSign] at htie
      refine h.even_of_tie hden (fun hr => hne ?_) htie
      rw [hst, hr]
    rw [dist_withSign_of_ne hst (hmagnitude r) hexact] at htie
    by_cases hr : r.val = rank
    · rw [hr] at htie
      exact h.even_of_opposite hden htie
    · refine h.even_of_tie hden hr (le_antisymm ?_ (h.dist_le hden r))
      rw [← htie]
      exact dist_le_add (hmagnitude r) hexact

/-- Half of what the largest finite magnitude and the next one are together. -/
def overflowBound : ℚ := 2 ^ 1024 - 2 ^ 970

theorem lt_overflowBound_iff : ofUnits num den < overflowBound ↔
    2 * num < (units (rankCount - 1) + units rankCount) * den := by
  have hunits : units (rankCount - 1) + units rankCount + 2 * 2 ^ 970 * unitsPerOne =
      2 * 2 ^ 1024 * unitsPerOne := by decide +kernel
  have hcast := congrArg (Nat.cast : Nat → ℚ) hunits
  simp only [Nat.cast_add, Nat.cast_mul, Nat.cast_pow, Nat.cast_ofNat] at hcast
  have hboth : (units (rankCount - 1) : ℚ) + units rankCount = 2 * overflowBound * unitsPerOne := by
    rw [overflowBound, mul_sub, sub_mul]
    exact eq_sub_of_add_eq hcast
  have hsum : magnitude (rankCount - 1) + magnitude rankCount = 2 * overflowBound := by
    rw [magnitude, magnitude, ofUnits, ofUnits, Nat.cast_one, div_one, div_one, ← add_div, hboth,
      mul_div_assoc, div_self (ne_of_gt unitsPerOne_pos), mul_one]
  rw [← not_le, ← not_le, ← add_magnitude_le_iff hden, hsum, mul_le_mul_iff_right₀ two_pos]

/-- The last finite magnitude is odd, so that a tie with it goes to the one that is not finite. -/
theorem isFinite_ofRatio_iff (s : Bool) : (ofRatio s num den).isFinite = true ↔
    ofUnits num den < overflowBound := by
  have h := nearest_nearestRank num hden
  rw [lt_overflowBound_iff hden, ofRatio]
  by_cases hrank : nearestRank num den < rankCount
  · have hfinite : (ofRank s (nearestRank num den)).isFinite = true := by
      rw [ofRank_of_lt s hrank]
      rfl
    refine iff_of_true hfinite ?_
    by_cases hlast : nearestRank num den = rankCount - 1
    · have hodd : nearestRank num den % 2 = 1 := by
        rw [hlast]
        rfl
      have hhigh := (h.of_odd hodd).2
      have hnext : rankCount - 1 + 1 = rankCount := rfl
      rwa [hlast, hnext] at hhigh
    · have hhere := units_strictMono (show nearestRank num den < rankCount - 1 by omega)
      have hnext := units_strictMono.monotone (show nearestRank num den + 1 ≤ rankCount by omega)
      exact Nat.lt_of_le_of_lt h.high
        (Nat.mul_lt_mul_of_pos_right (Nat.add_lt_add_of_lt_of_le hhere hnext) hden)
  · have hinfinite : (ofRank s (nearestRank num den)).isFinite ≠ true := by
      rw [ofRank_of_le s (Nat.le_of_not_lt hrank)]
      exact Bool.false_ne_true
    refine iff_of_false hinfinite ?_
    have hbefore := units_strictMono.monotone
      (show rankCount - 1 ≤ nearestRank num den - 1 by omega)
    have hhere := units_strictMono.monotone (show rankCount ≤ nearestRank num den by omega)
    have hmid := Nat.mul_le_mul_right den (Nat.add_le_add hbefore hhere)
    have hlow := h.low
    omega

section Between

variable {s : Bool} {rank : Fin rankCount}
  (h : IsNearest (finite s rank) (withSign s (ofUnits num den)))

include h

omit hden in
/-- Numbers with the same sign are compared by their magnitudes. -/
theorem IsNearest.dist_magnitude_le {other : Nat} (hother : other < rankCount) (hne : other ≠ rank) :
    |magnitude rank - ofUnits num den| ≤ |magnitude other - ofUnits num den| ∧
      (rank.val % 2 = 1 →
        |magnitude other - ofUnits num den| ≠ |magnitude rank - ofUnits num den|) := by
  have hle := h.dist_le (finite s ⟨other, hother⟩) rfl
  have htie := h.isEven_of_tie (finite s ⟨other, hother⟩) rfl
  simp only [value_finite, dist_withSign] at hle htie
  refine ⟨hle, fun hodd heq => ?_⟩
  have heven := htie (fun hsame =>
    hne (magnitude_strictMono.injective (withSign_injective s hsame))) heq
  have hrank : rank.val % 2 = 0 := beq_iff_eq.mp heven
  omega

theorem IsNearest.low : (units (rank - 1) + units rank) * den ≤ 2 * num ∧
    (rank.val % 2 = 1 → (units (rank - 1) + units rank) * den < 2 * num) := by
  by_cases hzero : rank.val = 0
  · rw [hzero, Nat.zero_sub, units_zero]
    omega
  have hlt : magnitude (rank - 1) < magnitude rank := magnitude_strictMono (by omega)
  obtain ⟨hle, hne⟩ := h.dist_magnitude_le (show rank.val - 1 < rankCount by omega) (by omega)
  refine ⟨(add_magnitude_le_iff hden _ _).mp ((dist_upper_le_iff hlt).mp hle), fun hodd => ?_⟩
  rw [← not_le, ← le_add_magnitude_iff hden, ← dist_lower_le_iff hlt]
  exact fun hback => hne hodd (le_antisymm hback hle)

theorem IsNearest.high (hsmall : ofUnits num den < overflowBound) :
    2 * num ≤ (units rank + units (rank + 1)) * den ∧
      (rank.val % 2 = 1 → 2 * num < (units rank + units (rank + 1)) * den) := by
  by_cases htop : rank.val + 1 < rankCount
  · have hlt : magnitude rank < magnitude (rank + 1) := magnitude_strictMono (by omega)
    obtain ⟨hle, hne⟩ := h.dist_magnitude_le htop (by omega)
    refine ⟨(le_add_magnitude_iff hden _ _).mp ((dist_lower_le_iff hlt).mp hle), fun hodd => ?_⟩
    rw [← not_le, ← add_magnitude_le_iff hden, ← dist_upper_le_iff hlt]
    exact fun hback => hne hodd (le_antisymm hback hle)
  · have hlast : rank.val = rankCount - 1 := by omega
    have hstrict := (lt_overflowBound_iff hden).mp hsmall
    have hnext : rankCount - 1 + 1 = rankCount := rfl
    rw [hlast, hnext]
    exact ⟨Nat.le_of_lt hstrict, fun _ => hstrict⟩

/-- What is nearest among the finite numbers lies between the points halfway to its neighbours. -/
theorem IsNearest.nearest (hsmall : ofUnits num den < overflowBound) : Nearest num den rank := by
  obtain ⟨hlow, hlowOdd⟩ := h.low hden
  obtain ⟨hhigh, hhighOdd⟩ := h.high hden hsmall
  exact ⟨hlow, hhigh, fun hodd => ⟨hlowOdd hodd, hhighOdd hodd⟩⟩

end Between

/-- Rounding yields a finite number if and only if the exact value does not overflow, and then the
nearest number with the sign that was asked for. -/
theorem ofRatio_eq_iff (s : Bool) (v : Binary64) :
    (ofRatio s num den = v ∧ v.isFinite = true) ↔
      ofUnits num den < overflowBound ∧ v.IsNearest (withSign s (ofUnits num den)) ∧
        v.isNegative = s := by
  constructor
  · rintro ⟨rfl, hfinite⟩
    have hsmall := (isFinite_ofRatio_iff hden s).mp hfinite
    by_cases hrank : nearestRank num den < rankCount
    · have hnearest := isNearest_of_nearest hden (nearest_nearestRank num hden) hrank s
      rw [ofRatio, ofRank_of_lt s hrank]
      exact ⟨hsmall, hnearest, rfl⟩
    · rw [ofRatio, ofRank_of_le s (Nat.le_of_not_lt hrank)] at hfinite
      exact absurd hfinite Bool.false_ne_true
  · rintro ⟨hsmall, hnearest, hsign⟩
    obtain ⟨t, rank, rfl⟩ := exists_finite hnearest.isFinite
    obtain rfl : t = s := hsign
    have hrank := (nearestRank_eq_iff hden).mpr (hnearest.nearest hden hsmall)
    refine ⟨?_, rfl⟩
    rw [ofRatio, hrank, ofRank_of_lt t rank.isLt]

end Rounded

end PostfixCalc.Binary64

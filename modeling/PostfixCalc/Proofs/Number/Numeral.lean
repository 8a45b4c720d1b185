import PostfixCalc.Number.Numeral
import PostfixCalc.Proofs.Number.Rounding
import PostfixCalc.Proofs.Text.Digits

namespace PostfixCalc

namespace Binary64

theorem le_nearestRank {num den rank : Nat} (hden : 0 < den) (h : units rank * den ≤ num) :
    rank ≤ nearestRank num den := by
  by_contra hlt
  have hhigh := (nearest_nearestRank num hden).high
  have hnext : units (nearestRank num den + 1) * den ≤ units rank * den :=
    Nat.mul_le_mul_right den (units_strictMono.monotone (by omega))
  have hhere : units (nearestRank num den) * den < units (nearestRank num den + 1) * den :=
    Nat.mul_lt_mul_of_pos_right (units_lt_units_succ _) hden
  rw [Nat.add_mul] at hhigh
  omega

theorem nearestRank_eq_zero {num den : Nat} (hden : 0 < den) (h : 2 * num ≤ den) :
    nearestRank num den = 0 := by
  rw [nearestRank_eq_iff hden]
  refine ⟨?_, ?_, fun hodd => ?_⟩
  · rw [Nat.zero_sub, units_zero, Nat.zero_add, Nat.zero_mul]
    exact Nat.zero_le _
  · rwa [Nat.zero_add, units_zero, units_one, Nat.zero_add, Nat.one_mul]
  · omega

theorem nearestRank_congr {num den num' den' : Nat} (hden : 0 < den) (hden' : 0 < den')
    (h : num * den' = num' * den) : nearestRank num den = nearestRank num' den' := by
  rw [← nearestRank_mul hden hden', ← nearestRank_mul hden' hden, h, Nat.mul_comm den den']

/-- All finite numbers are smaller than `10 ^ 310`. -/
theorem units_rankCount_le : units rankCount ≤ 10 ^ 310 * unitsPerOne := by decide +kernel

/-- Less than half of the smallest positive number is more than `10 ^ (-330)`. -/
theorem two_mul_unitsPerOne_le : 2 * unitsPerOne ≤ 10 ^ 330 := by decide +kernel

/-- A whole number of so many places, times a power of ten that is too large for it. -/
theorem ofRatio_eq_infinite (negative : Bool) {n places : Nat} {scale : Int} (hpos : 0 < places)
    (hn : 10 ^ (places - 1) ≤ n) (hlarge : 310 < places + scale) :
    ofRatio negative (n * 10 ^ scale.toNat * unitsPerOne) (10 ^ (-scale).toNat) =
      infinite negative := by
  have hden : 0 < 10 ^ (-scale).toNat := Nat.pow_pos (by decide)
  have hexact : 10 ^ 310 * 10 ^ (-scale).toNat ≤ n * 10 ^ scale.toNat := by
    calc 10 ^ 310 * 10 ^ (-scale).toNat
        = 10 ^ (310 + (-scale).toNat) := by rw [Nat.pow_add]
      _ ≤ 10 ^ (places - 1 + scale.toNat) := Nat.pow_le_pow_right (by decide) (by omega)
      _ = 10 ^ (places - 1) * 10 ^ scale.toNat := Nat.pow_add _ _ _
      _ ≤ n * 10 ^ scale.toNat := Nat.mul_le_mul_right _ hn
  have hunits : units rankCount * 10 ^ (-scale).toNat ≤ n * 10 ^ scale.toNat * unitsPerOne := by
    calc units rankCount * 10 ^ (-scale).toNat
        ≤ 10 ^ 310 * unitsPerOne * 10 ^ (-scale).toNat := Nat.mul_le_mul_right _ units_rankCount_le
      _ = 10 ^ 310 * 10 ^ (-scale).toNat * unitsPerOne := Nat.mul_right_comm _ _ _
      _ ≤ n * 10 ^ scale.toNat * unitsPerOne := Nat.mul_le_mul_right _ hexact
  rw [ofRatio, ofRank_of_le _ (le_nearestRank hden hunits)]

/-- A whole number of so many places, times a power of ten that is too small for it. -/
theorem ofRatio_eq_zero (negative : Bool) {n places : Nat} {scale : Int} (hn : n < 10 ^ places)
    (hsmall : places + scale < -330) :
    ofRatio negative (n * 10 ^ scale.toNat * unitsPerOne) (10 ^ (-scale).toNat) =
      zero negative := by
  have hden : 0 < 10 ^ (-scale).toNat := Nat.pow_pos (by decide)
  have hexact : 2 * (n * 10 ^ scale.toNat * unitsPerOne) ≤ 10 ^ (-scale).toNat := by
    calc 2 * (n * 10 ^ scale.toNat * unitsPerOne)
        = n * 10 ^ scale.toNat * (2 * unitsPerOne) := by ring
      _ ≤ 10 ^ places * 10 ^ scale.toNat * 10 ^ 330 :=
          Nat.mul_le_mul (Nat.mul_le_mul_right _ (Nat.le_of_lt hn)) two_mul_unitsPerOne_le
      _ = 10 ^ (places + scale.toNat + 330) := by rw [Nat.pow_add, Nat.pow_add]
      _ ≤ 10 ^ (-scale).toNat := Nat.pow_le_pow_right (by decide) (by omega)
  rw [ofRatio, nearestRank_eq_zero hden hexact]
  rfl

end Binary64

namespace Numeral

open Text (isDigit digitsValue)
open Binary64 (unitsPerOne)

/-- The number is rounded once, from the exact value of the numeral. -/
theorem toBinary64_eq {x : Numeral} (hx : ∀ c ∈ x.digits, isDigit c = true) :
    x.toBinary64 = .ofRatio x.negative
      (digitsValue x.digits * 10 ^ x.scale.toNat * unitsPerOne) (10 ^ (-x.scale).toNat) := by
  let n := digitsValue x.digits
  let places := (x.digits.dropWhile (· = '0')).length
  have hden : 0 < 10 ^ (-x.scale).toNat := Nat.pow_pos (by decide)
  change (if n = 0 then Binary64.zero x.negative
    else if (310 : Int) < places + x.scale then .infinite x.negative
    else if (places : Int) + x.scale < -330 then .zero x.negative
    else if 0 ≤ x.scale then .ofRatio x.negative (n * 10 ^ x.scale.toNat * unitsPerOne) 1
    else .ofRatio x.negative (n * unitsPerOne) (10 ^ (-x.scale).toNat)) = _
  by_cases hn : n = 0
  · have hzero : n * 10 ^ x.scale.toNat * unitsPerOne = 0 := by
      rw [hn, Nat.zero_mul, Nat.zero_mul]
    rw [if_pos hn, Binary64.ofRatio, hzero,
      Binary64.nearestRank_eq_zero hden (by omega)]
    rfl
  obtain ⟨hplaces, hlow, hhigh⟩ := Text.digitsValue_bounds hx hn
  rw [if_neg hn]
  by_cases hlarge : (310 : Int) < places + x.scale
  · rw [if_pos hlarge, Binary64.ofRatio_eq_infinite x.negative hplaces hlow hlarge]
  rw [if_neg hlarge]
  by_cases hsmall : (places : Int) + x.scale < -330
  · rw [if_pos hsmall, Binary64.ofRatio_eq_zero x.negative hhigh hsmall]
  rw [if_neg hsmall]
  split
  · next hscale => rw [show (-x.scale).toNat = 0 by omega, Nat.pow_zero]
  · next hscale => rw [show x.scale.toNat = 0 by omega, Nat.pow_zero, Nat.mul_one]

end Numeral

end PostfixCalc

import Mathlib.Algebra.Order.Field.Power
import PostfixCalc.Proofs.Calculator.Tokens
import PostfixCalc.Proofs.Number.Nearest
import PostfixCalc.Proofs.Number.Numeral
import PostfixCalc.Proofs.Number.Spelling

namespace PostfixCalc

namespace Numeral

open Text (isDigit digitsValue)
open Binary64 (unitsPerOne)

/-- The exact absolute value. -/
def magnitude (x : Numeral) : ℚ :=
  (digitsValue x.whole + digitsValue x.fraction / 10 ^ x.fraction.length) * 10 ^ x.exponent

def value (x : Numeral) : ℚ := Binary64.withSign x.negative x.magnitude

theorem magnitude_eq (x : Numeral) : x.magnitude = Binary64.ofUnits
    (digitsValue x.digits * 10 ^ x.scale.toNat * unitsPerOne) (10 ^ (-x.scale).toNat) := by
  have hten : (10 : ℚ) ≠ 0 := by norm_num
  have hplaces : (10 : ℚ) ^ x.fraction.length ≠ 0 := pow_ne_zero _ hten
  have hdigits : (digitsValue x.digits : ℚ) =
      digitsValue x.whole * 10 ^ x.fraction.length + digitsValue x.fraction := by
    rw [digits, Text.digitsValue_append, Nat.cast_add, Nat.cast_mul, Nat.cast_pow, Nat.cast_ofNat]
  have hexponent : (10 : ℚ) ^ x.exponent = 10 ^ x.fraction.length * 10 ^ x.scale := by
    rw [← zpow_natCast, ← zpow_add₀ hten, scale, add_sub_cancel]
  have hscale : (10 : ℚ) ^ x.scale = 10 ^ x.scale.toNat / 10 ^ (-x.scale).toNat := by
    rw [← zpow_natCast, ← zpow_natCast, ← zpow_sub₀ hten, Int.toNat_sub_toNat_neg]
  have hmagnitude : x.magnitude = digitsValue x.digits * 10 ^ x.scale := by
    rw [magnitude, hexponent, ← mul_assoc, add_mul, div_mul_cancel₀ _ hplaces, ← hdigits]
  rw [hmagnitude, hscale, Binary64.ofUnits, Nat.cast_mul, Nat.cast_mul, Nat.cast_pow, Nat.cast_pow,
    Nat.cast_ofNat, ← mul_div_assoc, mul_div_right_comm _ (unitsPerOne : ℚ),
    mul_div_assoc _ (unitsPerOne : ℚ), div_self (ne_of_gt Binary64.unitsPerOne_pos), mul_one]

theorem toBinary64_eq_iff {x : Numeral} (hx : ∀ c ∈ x.digits, isDigit c = true) (v : Binary64) :
    (x.toBinary64 = v ∧ v.isFinite = true) ↔
      x.magnitude < Binary64.overflowBound ∧ v.IsNearest x.value ∧ v.isNegative = x.negative := by
  have hden : 0 < 10 ^ (-x.scale).toNat := Nat.pow_pos (by decide)
  rw [toBinary64_eq hx, value, magnitude_eq]
  exact Binary64.ofRatio_eq_iff hden x.negative v

/-- Half of the smallest positive number rounds to a zero. -/
theorem toBinary64_eq_zero {x : Numeral} (hx : ∀ c ∈ x.digits, isDigit c = true)
    (hsmall : x.magnitude ≤ 1 / 2 ^ 1075) : x.toBinary64 = .zero x.negative := by
  have hden : 0 < 10 ^ (-x.scale).toNat := Nat.pow_pos (by decide)
  have hbound : (1 / 2 ^ 1075 : ℚ) = Binary64.ofUnits 1 2 := by
    have hunits : 2 ^ 1075 = 2 * unitsPerOne := by decide +kernel
    have hcast := congrArg (Nat.cast : Nat → ℚ) hunits
    rw [Nat.cast_pow, Nat.cast_mul, Nat.cast_ofNat] at hcast
    rw [hcast, Binary64.ofUnits, Nat.cast_one, Nat.cast_ofNat, div_div]
  rw [hbound, magnitude_eq, Binary64.ofUnits_le_iff hden two_pos, Nat.mul_comm,
    Nat.one_mul] at hsmall
  rw [toBinary64_eq hx, Binary64.ofRatio, Binary64.nearestRank_eq_zero hden hsmall]
  rfl

end Numeral

namespace Token

open Numeral (Spells)
open Binary64 (overflowBound)
open Text (isDigit)

theorem readNumber?_eq_some_iff (chunk : Text) (v : Binary64) :
    readNumber? chunk = some v ↔ ∃ x, Spells chunk x ∧
      x.magnitude < overflowBound ∧ v.IsNearest x.value ∧ v.isNegative = x.negative := by
  rw [readNumber?, Option.filter_eq_some_iff, Option.map_eq_some_iff]
  constructor
  · rintro ⟨⟨x, hread, hvalue⟩, hfinite⟩
    have hspells := (Numeral.read?_eq_some_iff chunk x).mp hread
    exact ⟨x, hspells, (Numeral.toBinary64_eq_iff hspells.digits.2 v).mp ⟨hvalue, hfinite⟩⟩
  · rintro ⟨x, hspells, hnearest⟩
    obtain ⟨hvalue, hfinite⟩ := (Numeral.toBinary64_eq_iff hspells.digits.2 v).mpr hnearest
    exact ⟨⟨x, (Numeral.read?_eq_some_iff chunk x).mpr hspells, hvalue⟩, hfinite⟩

theorem exists_readNumber?_iff (chunk : Text) : (∃ v, readNumber? chunk = some v) ↔
    ∃ x, Spells chunk x ∧ x.magnitude < overflowBound := by
  constructor
  · rintro ⟨v, hv⟩
    obtain ⟨x, hspells, hsmall, _⟩ := (readNumber?_eq_some_iff chunk v).mp hv
    exact ⟨x, hspells, hsmall⟩
  · rintro ⟨x, hspells, hsmall⟩
    have hden : 0 < 10 ^ (-x.scale).toNat := Nat.pow_pos (by decide)
    have hfinite : x.toBinary64.isFinite = true := by
      rw [Numeral.toBinary64_eq hspells.digits.2, Binary64.isFinite_ofRatio_iff hden,
        ← Numeral.magnitude_eq]
      exact hsmall
    have hnearest := (Numeral.toBinary64_eq_iff hspells.digits.2 _).mp ⟨rfl, hfinite⟩
    exact ⟨_, (readNumber?_eq_some_iff chunk _).mpr ⟨x, hspells, hnearest⟩⟩

theorem classify_eq_invalid_iff_overflows (chunk s : Text) : classify chunk = .invalid s ↔
    s = chunk ∧ (∀ op : Operator, chunk ≠ [op.symbol]) ∧
      ∀ x, Spells chunk x → overflowBound ≤ x.magnitude := by
  have hnone : (∀ v, readNumber? chunk ≠ some v) ↔
      ∀ x, Spells chunk x → overflowBound ≤ x.magnitude := by
    rw [← not_exists, exists_readNumber?_iff, not_exists]
    refine forall_congr' fun x => ?_
    rw [not_and, not_lt]
  rw [classify_eq_invalid_iff, hnone]

/-- A chunk is an operator if it is its symbol, a number if it spells one that does not overflow,
and invalid otherwise, such as with a code point that belongs to no token or without a digit. -/
theorem classify_spelled (chunk : Text) :
    (∀ op : Operator, classify chunk = .operator op ↔ chunk = [op.symbol]) ∧
    (∀ v, classify chunk = .number v ↔ ∃ x, Spells chunk x ∧ x.magnitude < overflowBound ∧
      v.IsNearest x.value ∧ v.isNegative = x.negative) ∧
    ((∃ v, classify chunk = .number v) ↔ ∃ x, Spells chunk x ∧ x.magnitude < overflowBound) ∧
    (∀ x, Spells chunk x → x.magnitude ≤ 1 / 2 ^ 1075 →
      classify chunk = .number (.zero x.negative)) ∧
    (∀ s, classify chunk = .invalid s ↔ s = chunk ∧ (∀ op : Operator, chunk ≠ [op.symbol]) ∧
      ∀ x, Spells chunk x → overflowBound ≤ x.magnitude) ∧
    ((∃ c ∈ chunk, isDigit c = false ∧ c ∉ ['+', '-', '*', '/', '.', 'e', 'E']) →
      classify chunk = .invalid chunk) ∧
    ((∀ c ∈ chunk, isDigit c = false) → (∀ op : Operator, chunk ≠ [op.symbol]) →
      classify chunk = .invalid chunk) := by
  refine ⟨classify_eq_operator_iff chunk, ?number, ?small, ?underflow,
    classify_eq_invalid_iff_overflows chunk, ?foreign, ?noDigit⟩
  case number =>
    intro v
    rw [classify_eq_number_iff, readNumber?_eq_some_iff]
  case small =>
    simp only [classify_eq_number_iff]
    exact exists_readNumber?_iff chunk
  case underflow =>
    intro x hspells hsmall
    rw [classify_eq_number_iff, readNumber?, (Numeral.read?_eq_some_iff chunk x).mpr hspells,
      Option.map_some, Numeral.toBinary64_eq_zero hspells.digits.2 hsmall]
    rfl
  case foreign =>
    rintro ⟨c, hc, hdigit, hforeign⟩
    refine (classify_eq_invalid_iff_overflows chunk chunk).mpr ⟨rfl, ?_, ?_⟩
    · rintro op rfl
      obtain rfl := List.mem_singleton.mp hc
      cases op <;> exact absurd (by decide) hforeign
    · intro x hspells
      rcases hspells.isLetter c hc with h | h
      · rw [h] at hdigit
        cases hdigit
      · have hletters : ['+', '-', '.', 'e', 'E'] ⊆ ['+', '-', '*', '/', '.', 'e', 'E'] := by
          decide
        exact absurd (hletters h) hforeign
  case noDigit =>
    intro hdigit hop
    refine (classify_eq_invalid_iff_overflows chunk chunk).mpr ⟨rfl, hop, fun x hspells => ?_⟩
    obtain ⟨c, hc⟩ := List.exists_mem_of_ne_nil _ hspells.digits.1
    have h := hspells.digits.2 c hc
    rw [hdigit c (hspells.mem_of_mem_digits c hc)] at h
    cases h

/-- What lies halfway between two numbers is read as the even one, here the one below. -/
theorem classify_spelled_tie :
    let v := Binary64.ofRatio false (2 ^ 53 * Binary64.unitsPerOne) 1
    classify (Text.lit "9007199254740993") = .number v ∧
      ∃ x, Spells (Text.lit "9007199254740993") x ∧ x.magnitude < overflowBound ∧
        v.IsNearest x.value ∧ v.isNegative = x.negative := by
  intro v
  have hclassify : classify (Text.lit "9007199254740993") = .number v := by decide +kernel
  obtain ⟨-, hnumber, -⟩ := classify_spelled (Text.lit "9007199254740993")
  exact ⟨hclassify, (hnumber v).mp hclassify⟩

end Token

end PostfixCalc

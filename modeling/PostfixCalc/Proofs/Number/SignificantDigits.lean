import Mathlib.Data.List.DropRight
import PostfixCalc.Proofs.Number.ShortestDigits

namespace PostfixCalc

namespace Text

/-- Digits without the zeros behind them and in front of them. -/
def significant (s : Text) : Text := (s.rdropWhile (· = '0')).dropWhile (· = '0')

/-- Each zero at the end is a factor of ten. -/
theorem digitsValue_rdropWhile (s : Text) :
    digitsValue s =
      digitsValue (s.rdropWhile (· = '0')) * 10 ^ (s.rtakeWhile (· = '0')).length := by
  let zeros := s.rtakeWhile (· = '0')
  have hcut : s.rdropWhile (· = '0') ++ zeros = s := List.rdropWhile_append_rtakeWhile
  have hzeros : zeros = List.replicate zeros.length '0' := by
    apply List.eq_replicate_of_mem
    intro c hc
    simpa using List.mem_rtakeWhile_imp hc
  have hnone : digitsValue zeros = 0 := by rw [hzeros, digitsValue_zeros]
  nth_rewrite 1 [← hcut]
  rw [digitsValue_append, hnone, Nat.add_zero]

/-- A row of digits is its significant digits times a power of ten. -/
theorem exists_significant {s : Text} (h : ∀ c ∈ s, isDigit c = true) (hs : digitsValue s ≠ 0) :
    ∃ m k, digitsValue s = m * 10 ^ k ∧ m % 10 ≠ 0 ∧
      (Nat.toDigits 10 m).length = (significant s).length := by
  let kept := s.rdropWhile (· = '0')
  have hvalue := digitsValue_rdropWhile s
  have hdigits : ∀ c ∈ kept, isDigit c = true :=
    fun c hc => h c ((List.rdropWhile_prefix _ s).subset hc)
  have hne : digitsValue kept ≠ 0 := by
    intro hzero
    rw [hvalue, hzero, Nat.zero_mul] at hs
    exact hs rfl
  refine ⟨digitsValue kept, _, hvalue, ?last, ?length⟩
  case last =>
    have hnil : kept ≠ [] := fun hnil => hne (congrArg digitsValue hnil)
    have hlast := List.rdropWhile_last_not _ _ hnil
    have hdigit := hdigits _ (List.getLast_mem hnil)
    have hpos := digitValue_pos hdigit (by simpa using hlast)
    rw [← List.dropLast_append_getLast hnil, digitsValue_append_mod_ten _ hdigit]
    exact hpos.ne'
  case length =>
    obtain ⟨hpos, hlow, hhigh⟩ := digitsValue_bounds hdigits hne
    have hten : 1 < 10 := by decide
    have hle := (Nat.length_toDigits_le_iff hten hpos).mpr hhigh
    have hge : (significant s).length - 1 < (Nat.toDigits 10 (digitsValue kept)).length := by
      apply (Nat.pow_lt_pow_iff_right hten).mp
      apply Nat.lt_of_le_of_lt hlow (lt_pow_length_toDigits _)
    change (Nat.toDigits 10 (digitsValue kept)).length ≤ (significant s).length at hle
    omega

end Text

theorem Binary64.nearest_of_ofRatio {num den : Nat} (hden : 0 < den) {s t : Bool}
    {rank : Fin rankCount} (h : ofRatio s num den = finite t rank) : Nearest num den rank := by
  have hnearest := nearest_nearestRank num hden
  rw [ofRatio, ofRank] at h
  split at h
  · obtain ⟨-, rfl⟩ := finite.inj h
    exact hnearest
  · cases h

open RoundingInterval (finestPlace)

namespace Numeral

open Text (isDigit digitsValue)

def significant (x : Numeral) : Text := Text.significant x.digits

theorem eq_mul_pow_of_le {a b p q : Nat} (h : a * 10 ^ p = b * 10 ^ q) (hle : p ≤ q) :
    a = b * 10 ^ (q - p) := by
  have hsplit : 10 ^ q = 10 ^ (q - p) * 10 ^ p := by
    rw [← Nat.pow_add, Nat.sub_add_cancel hle]
  rw [hsplit, ← Nat.mul_assoc] at h
  apply Nat.mul_right_cancel (Nat.pow_pos (by decide)) h

/-- Zeros in a numeral do not count. -/
theorem Denotes.length_significant_le {x : Numeral} {d : Decimal} (h : x.Denotes d)
    (hd : 0 < d.coefficient) : x.significant.length ≤ d.digits.length := by
  obtain ⟨k, -, hvalue⟩ := h.value
  have hpos : 0 < d.coefficient * 10 ^ k := Nat.mul_pos hd (Nat.pow_pos (by decide))
  obtain ⟨m, j, hm, hlast, hlength⟩ := Text.exists_significant h.digits (by omega)
  rw [hvalue] at hm
  have hle : m ≤ d.coefficient := by
    by_cases hjk : j < k
    · have hten := eq_mul_pow_of_le hm.symm (Nat.le_of_lt hjk)
      obtain ⟨i, hi⟩ : ∃ i, k - j = i + 1 := ⟨k - j - 1, by omega⟩
      rw [hi, Nat.pow_succ, ← Nat.mul_assoc] at hten
      omega
    · rw [eq_mul_pow_of_le hm (by omega)]
      apply Nat.le_mul_of_pos_right _ (Nat.pow_pos (by decide))
  rw [significant, ← hlength]
  apply Text.length_toDigits_le hle

/-- No numeral that is read as a number has fewer significant digits than its shortest decimal. -/
theorem length_digits_le_significant {x : Numeral} (hx : ∀ c ∈ x.digits, isDigit c = true)
    {s : Bool} {rank : Fin Binary64.rankCount} (hread : x.toBinary64 = .finite s rank)
    (hrank : 0 < rank.val) : (Decimal.shortest rank).digits.length ≤ x.significant.length := by
  have hten : ∀ n, 0 < 10 ^ n := fun n => Nat.pow_pos (by decide)
  have hgrain : 0 < 5 ^ finestPlace := Nat.pow_pos (by decide)
  rw [toBinary64_eq hx] at hread
  have hnearest := Binary64.nearest_of_ofRatio (hten (-x.scale).toNat) hread
  have hvalue : digitsValue x.digits ≠ 0 := by
    intro hzero
    have hlow := hnearest.low
    have hunits := Binary64.units_strictMono hrank
    have hpos := Nat.mul_pos (show 0 < Binary64.units (rank - 1) + Binary64.units rank by omega)
      (hten (-x.scale).toNat)
    rw [hzero, Nat.zero_mul, Nat.zero_mul] at hlow
    omega
  obtain ⟨m, k, hm, -, hlength⟩ := Text.exists_significant hx hvalue
  have hscale : digitsValue x.digits * 10 ^ x.scale.toNat * Binary64.unitsPerOne *
      5 ^ finestPlace = m * 10 ^ (k + x.scale.toNat + finestPlace) := by
    rw [Nat.mul_assoc, unitsPerOne_mul, hm, Nat.pow_add, Nat.pow_add, Nat.mul_assoc, Nat.mul_assoc,
      Nat.mul_assoc]
  rw [← Binary64.nearest_mul_iff hgrain, hscale, Nat.mul_comm (10 ^ _)] at hnearest
  obtain ⟨place, hcoarsest⟩ := Decimal.exists_isCoarsest hrank
  rw [significant, ← hlength]
  apply hcoarsest.length_digits_le hrank hnearest

end Numeral

end PostfixCalc

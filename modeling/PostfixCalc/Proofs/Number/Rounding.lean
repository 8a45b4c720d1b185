import Mathlib.Order.Monotone.Basic
import Mathlib.Tactic.Ring
import PostfixCalc.Number.Shortest

namespace PostfixCalc

namespace Binary64

/-- A rank stands for at most 53 binary digits and the number of places they are shifted by. -/
theorem units_shift {shift m : Nat} (hm : m ≤ 2 ^ 53) (h : shift = 0 ∨ 2 ^ 52 ≤ m) :
    units (shift * 2 ^ 52 + m) = m * 2 ^ shift := by
  change (if (shift * 2 ^ 52 + m) / 2 ^ 52 = 0 then (shift * 2 ^ 52 + m) % 2 ^ 52
    else (2 ^ 52 + (shift * 2 ^ 52 + m) % 2 ^ 52) * 2 ^ ((shift * 2 ^ 52 + m) / 2 ^ 52 - 1)) = _
  by_cases hsmall : m < 2 ^ 52
  · obtain rfl : shift = 0 := by omega
    rw [if_pos (by omega), Nat.pow_zero, Nat.mul_one]
    omega
  by_cases htop : m = 2 ^ 53
  · subst htop
    have hrow : (shift * 2 ^ 52 + 2 ^ 53) / 2 ^ 52 = shift + 2 := by omega
    have hfirst : (shift * 2 ^ 52 + 2 ^ 53) % 2 ^ 52 = 0 := by omega
    rw [hrow, hfirst, if_neg (by omega), show shift + 2 - 1 = shift + 1 by omega]
    ring
  · have hrow : (shift * 2 ^ 52 + m) / 2 ^ 52 = shift + 1 := by omega
    have hplace : 2 ^ 52 + (shift * 2 ^ 52 + m) % 2 ^ 52 = m := by omega
    rw [hrow, hplace, if_neg (by omega), Nat.add_sub_cancel]

theorem exists_shift (rank : Nat) :
    ∃ shift m, rank = shift * 2 ^ 52 + m ∧ m < 2 ^ 53 ∧ (shift = 0 ∨ 2 ^ 52 ≤ m) := by
  by_cases hrow : rank / 2 ^ 52 = 0
  · exact ⟨0, rank, by omega, by omega, .inl rfl⟩
  · exact ⟨rank / 2 ^ 52 - 1, 2 ^ 52 + rank % 2 ^ 52, by omega, by omega, .inr (by omega)⟩

theorem units_lt_units_succ (rank : Nat) : units rank < units (rank + 1) := by
  obtain ⟨shift, m, rfl, hm, h⟩ := exists_shift rank
  have hhere := units_shift (Nat.le_of_lt hm) h
  have hnext := units_shift (Nat.succ_le_of_lt hm) (h.imp_right fun hle => Nat.le_succ_of_le hle)
  rw [hhere, Nat.add_assoc, hnext, Nat.succ_mul]
  exact Nat.lt_add_of_pos_right (Nat.two_pow_pos shift)

theorem units_strictMono : StrictMono units := strictMono_nat_of_lt_succ units_lt_units_succ

theorem units_zero : units 0 = 0 := rfl

theorem units_one : units 1 = 1 := rfl

/-- The quotient of `num` and `den` lies between the points halfway to the neighbours of a rank, and
on such a point only if the rank is even. -/
structure Nearest (num den rank : Nat) : Prop where
  low : (units (rank - 1) + units rank) * den ≤ 2 * num
  high : 2 * num ≤ (units rank + units (rank + 1)) * den
  of_odd : rank % 2 = 1 → (units (rank - 1) + units rank) * den < 2 * num ∧
    2 * num < (units rank + units (rank + 1)) * den

/-- A quotient that is not larger has no larger rank: of two neighbours one is odd, and that one
does not reach the point between them. -/
theorem Nearest.mono {num num' den rank rank' : Nat} (hden : 0 < den) (hle : num' ≤ num)
    (h : Nearest num den rank) (h' : Nearest num' den rank') : rank' ≤ rank := by
  by_contra hlt
  have hmid : (units (rank' - 1) + units rank') * den ≤ (units rank + units (rank + 1)) * den := by
    have hlow := h'.low
    have hhigh := h.high
    omega
  have hsum : units (rank' - 1) + units rank' ≤ units rank + units (rank + 1) :=
    Nat.le_of_mul_le_mul_right hmid hden
  have hhere : units rank ≤ units (rank' - 1) := units_strictMono.monotone (by omega)
  have hnext : units (rank + 1) ≤ units rank' := units_strictMono.monotone (by omega)
  obtain rfl : rank' = rank + 1 := units_strictMono.injective (by omega)
  have hlow := h'.low
  have hhigh := h.high
  rw [Nat.add_sub_cancel] at hlow
  rcases Nat.mod_two_eq_zero_or_one rank with heven | hodd
  · have hstrict := (h'.of_odd (by omega)).1
    rw [Nat.add_sub_cancel] at hstrict
    omega
  · have hstrict := (h.of_odd hodd).2
    omega

theorem Nearest.between {a b num den rank : Nat} (ha : Nearest a den rank) (hb : Nearest b den rank)
    (hlow : a ≤ num) (hhigh : num ≤ b) : Nearest num den rank := by
  have hbelow := ha.low
  have habove := hb.high
  refine ⟨by omega, by omega, fun hodd => ?_⟩
  have hbelow := (ha.of_odd hodd).1
  have habove := (hb.of_odd hodd).2
  omega

theorem Nearest.unique {num den rank rank' : Nat} (hden : 0 < den) (h : Nearest num den rank)
    (h' : Nearest num den rank') : rank = rank' :=
  Nat.le_antisymm (h'.mono hden (Nat.le_refl num) h) (h.mono hden (Nat.le_refl num) h')

/-- A whole number without the bits that have no place in a significand. What is left has all its
bits unless nothing was dropped. -/
theorem significand_bounds (n : Nat) :
    n / 2 ^ (n.log2 - 52) < 2 ^ 53 ∧ (n.log2 - 52 = 0 ∨ 2 ^ 52 ≤ n / 2 ^ (n.log2 - 52)) := by
  constructor
  · have hlog := Nat.lt_log2_self (n := n)
    have hpow : 2 ^ (n.log2 + 1) ≤ 2 ^ (n.log2 - 52) * 2 ^ 53 := by
      rw [← Nat.pow_add]
      exact Nat.pow_le_pow_right Nat.two_pos (by omega)
    exact Nat.div_lt_of_lt_mul (Nat.lt_of_lt_of_le hlog hpow)
  · by_cases hshift : n.log2 - 52 = 0
    · exact .inl hshift
    · right
      have hlog : n.log2 = 52 + (n.log2 - 52) := by omega
      have hne : n ≠ 0 := by
        intro hzero
        rw [hzero, Nat.log2_zero] at hlog
        omega
      have hself := Nat.log2_self_le hne
      rw [hlog, Nat.pow_add] at hself
      exact (Nat.le_div_iff_mul_le (Nat.two_pow_pos _)).mpr hself

/-- Rounding starts from the rank below the quotient and goes on to the next one if the quotient is
behind the middle, or on it and the rank odd. -/
theorem nearestRank_eq (num : Nat) {den : Nat} (hden : 0 < den) :
    ∃ rank, units rank * den ≤ num ∧ num < units (rank + 1) * den ∧
      nearestRank num den =
        if (units rank + units (rank + 1)) * den < 2 * num ∨
          ((units rank + units (rank + 1)) * den = 2 * num ∧ rank % 2 = 1)
        then rank + 1 else rank := by
  let shift := (num / den).log2 - 52
  let step := den * 2 ^ shift
  let m := num / step
  have hstep : 0 < step := Nat.mul_pos hden (Nat.two_pow_pos shift)
  have hm : num / den / 2 ^ shift = m := Nat.div_div_eq_div_mul num den (2 ^ shift)
  obtain ⟨hlt, hge⟩ : m < 2 ^ 53 ∧ (shift = 0 ∨ 2 ^ 52 ≤ m) := hm ▸ significand_bounds (num / den)
  have hhere : units (shift * 2 ^ 52 + m) * den = m * step := by
    rw [units_shift (Nat.le_of_lt hlt) hge, Nat.mul_assoc, Nat.mul_comm (2 ^ shift)]
  have hnext : units (shift * 2 ^ 52 + m + 1) * den = m * step + step := by
    rw [Nat.add_assoc, units_shift (Nat.succ_le_of_lt hlt) (hge.imp_right Nat.le_succ_of_le),
      Nat.mul_assoc, Nat.mul_comm (2 ^ shift), Nat.succ_mul]
  have hdivMod : m * step + num % step = num := Nat.div_add_mod' num step
  have hrest := Nat.mod_lt num hstep
  refine ⟨shift * 2 ^ 52 + m, by omega, by omega, ?_⟩
  change (if step < 2 * (num % step) ∨ (step = 2 * (num % step) ∧ (shift * 2 ^ 52 + m) % 2 = 1)
    then shift * 2 ^ 52 + m + 1 else shift * 2 ^ 52 + m) = _
  have hbehind : step < 2 * (num % step) ↔
      (units (shift * 2 ^ 52 + m) + units (shift * 2 ^ 52 + m + 1)) * den < 2 * num := by
    rw [Nat.add_mul, hhere, hnext]
    omega
  have hmiddle : step = 2 * (num % step) ↔
      (units (shift * 2 ^ 52 + m) + units (shift * 2 ^ 52 + m + 1)) * den = 2 * num := by
    rw [Nat.add_mul, hhere, hnext]
    omega
  simp only [hbehind, hmiddle]

theorem nearest_nearestRank (num : Nat) {den : Nat} (hden : 0 < den) :
    Nearest num den (nearestRank num den) := by
  obtain ⟨rank, hlow, hhigh, heq⟩ := nearestRank_eq num hden
  have hprev : units (rank - 1) * den ≤ units rank * den :=
    Nat.mul_le_mul_right den (units_strictMono.monotone (Nat.sub_le rank 1))
  have hnext : units (rank + 1) * den ≤ units (rank + 1 + 1) * den :=
    Nat.mul_le_mul_right den (units_strictMono.monotone (Nat.le_succ _))
  have hmid := Nat.add_mul (units rank) (units (rank + 1)) den
  have hbelow := Nat.add_mul (units (rank - 1)) (units rank) den
  have habove := Nat.add_mul (units (rank + 1)) (units (rank + 1 + 1)) den
  rw [heq]
  split
  · next hup =>
    refine ⟨?_, by omega, fun hodd => ?_⟩ <;> rw [Nat.add_sub_cancel] <;> omega
  · next hdown =>
    refine ⟨by omega, by omega, fun hodd => ⟨?_, by omega⟩⟩
    have hstrict : units (rank - 1) * den < units rank * den :=
      Nat.mul_lt_mul_of_pos_right (units_strictMono (by omega)) hden
    omega

/-- Rounding yields the rank between whose halfway points the quotient lies, and no other. -/
theorem nearestRank_eq_iff {num den rank : Nat} (hden : 0 < den) :
    nearestRank num den = rank ↔ Nearest num den rank := by
  constructor
  · intro h
    rw [← h]
    exact nearest_nearestRank num hden
  · exact fun h => (nearest_nearestRank num hden).unique hden h

/-- Only the quotient matters. -/
theorem nearest_mul_iff {num den rank k : Nat} (hk : 0 < k) :
    Nearest (num * k) (den * k) rank ↔ Nearest num den rank := by
  have hle : ∀ a b : Nat, a * k ≤ b * k ↔ a ≤ b := fun a b => Nat.mul_le_mul_right_iff hk
  have hlt : ∀ a b : Nat, a * k < b * k ↔ a < b := fun a b => Nat.mul_lt_mul_right hk
  have hnum : 2 * (num * k) = 2 * num * k := (Nat.mul_assoc 2 num k).symm
  constructor
  · intro ⟨hlow, hhigh, hodd⟩
    rw [hnum, ← Nat.mul_assoc] at hlow hhigh hodd
    rw [← Nat.mul_assoc] at hodd
    rw [hle] at hlow hhigh
    rw [hlt, hlt] at hodd
    exact ⟨hlow, hhigh, hodd⟩
  · intro ⟨hlow, hhigh, hodd⟩
    refine ⟨?_, ?_, ?_⟩
    · rwa [hnum, ← Nat.mul_assoc, hle]
    · rwa [hnum, ← Nat.mul_assoc, hle]
    · rwa [hnum, ← Nat.mul_assoc, ← Nat.mul_assoc, hlt, hlt]

theorem nearestRank_mul {num den k : Nat} (hden : 0 < den) (hk : 0 < k) :
    nearestRank (num * k) (den * k) = nearestRank num den :=
  (nearestRank_eq_iff (Nat.mul_pos hden hk)).mpr
    ((nearest_mul_iff hk).mpr (nearest_nearestRank num hden))

theorem ofRank_of_lt (negative : Bool) {rank : Nat} (h : rank < rankCount) :
    ofRank negative rank = finite negative ⟨rank, h⟩ := dif_pos h

theorem ofRank_of_le (negative : Bool) {rank : Nat} (h : rankCount ≤ rank) :
    ofRank negative rank = infinite negative := dif_neg (Nat.not_lt.mpr h)

end Binary64

end PostfixCalc

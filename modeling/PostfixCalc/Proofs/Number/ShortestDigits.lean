import PostfixCalc.Proofs.Number.ReadBack

namespace PostfixCalc

namespace Binary64

/-- A magnitude is less than `2 ^ 52` times as large as the distance of its neighbours. -/
theorem units_lt_gap {rank : Nat} (hrank : 0 < rank) :
    units rank + 2 ^ 52 * units (rank - 1) < 2 ^ 52 * units (rank + 1) := by
  obtain ⟨shift, m, rfl, hm, h⟩ := exists_shift rank
  have hhere := units_shift (Nat.le_of_lt hm) h
  have hnext : units (shift * 2 ^ 52 + m + 1) = m * 2 ^ shift + 2 ^ shift := by
    rw [Nat.add_assoc, units_shift (Nat.succ_le_of_lt hm) (h.imp_right Nat.le_succ_of_le),
      Nat.succ_mul]
  have hscaled : m * 2 ^ shift < 2 ^ 53 * 2 ^ shift :=
    Nat.mul_lt_mul_of_pos_right hm (Nat.two_pow_pos shift)
  by_cases hrow : shift = 0 ∨ 2 ^ 52 < m
  · have hprev : units (shift * 2 ^ 52 + (m - 1)) = (m - 1) * 2 ^ shift :=
      units_shift (by omega) (by omega)
    have hsame : shift * 2 ^ 52 + m - 1 = shift * 2 ^ 52 + (m - 1) := by omega
    have hm1 : (m - 1) * 2 ^ shift + 2 ^ shift = m * 2 ^ shift := by
      rw [← Nat.succ_mul]
      congr 1
      omega
    rw [hsame, hprev, hnext, hhere]
    omega
  · obtain rfl : m = 2 ^ 52 := by omega
    have hprev := units_strictMono (show shift * 2 ^ 52 + 2 ^ 52 - 1 < shift * 2 ^ 52 + 2 ^ 52 by omega)
    rw [hnext, hhere]
    omega

end Binary64

namespace RoundingInterval

/-- What lies between two magnitudes that round to a number rounds to it as well. -/
theorem holds_between {rank a b n : Nat} (ha : (ofRank rank).holds a = true)
    (hb : (ofRank rank).holds b = true) (hlow : a ≤ n) (hhigh : n ≤ b) :
    (ofRank rank).holds n = true := by
  rw [holds_ofRank_iff] at *
  apply ha.between hb hlow hhigh

theorem two_mul_le_of_holds {i : RoundingInterval} {n : Nat} (h : i.holds n = true) :
    2 * n ≤ i.doubleHigh := by
  unfold holds at h
  split_ifs at h with hclosed
  · simp only [decide_eq_true_eq] at h
    omega
  · simp only [decide_eq_true_eq] at h
    omega

theorem pos_of_holds {rank n : Nat} (hrank : 0 < rank) (h : (ofRank rank).holds n = true) :
    0 < n := by
  have hlow := ((holds_ofRank_iff rank n).mp h).low
  have hunits := Binary64.units_strictMono hrank
  have hsum : 0 < Binary64.units (rank - 1) + Binary64.units rank := by omega
  have hpos := Nat.mul_pos hsum (Nat.pow_pos (n := finestPlace) (show 0 < 5 by decide))
  omega

/-- If a grid has anything that rounds to a number, one of the two neighbours of the number does. -/
theorem onGrid?_ne_none {rank a place : Nat} (hrank : 0 < rank)
    (ha : (ofRank rank).holds (a * 10 ^ place) = true) : (ofRank rank).onGrid? place ≠ none := by
  let i := ofRank rank
  let step := 10 ^ place
  have hexact : i.holds i.exact = true := holds_exact hrank
  have hstep : 0 < step := Nat.pow_pos (by decide)
  have hdivMod : i.exact / step * step + i.exact % step = i.exact := Nat.div_add_mod' _ _
  have hrest := Nat.mod_lt i.exact hstep
  have hnext : (i.exact / step + 1) * step = i.exact / step * step + step := Nat.succ_mul _ _
  simp only [onGrid?, Nat.pow_eq]
  by_cases hside : a ≤ i.exact / step
  · have hbelow : i.holds (i.exact / step * step) = true :=
      holds_between ha hexact (Nat.mul_le_mul_right step hside) (by omega)
    rw [hbelow]
    cases i.holds ((i.exact / step + 1) * step) <;> simp
  · have habove : i.holds ((i.exact / step + 1) * step) = true :=
      holds_between hexact ha (by omega) (Nat.mul_le_mul_right step (by omega))
    rw [habove]
    cases i.holds (i.exact / step * step) <;> simp

theorem le_coarsest {rank a place top : Nat} (hrank : 0 < rank)
    (ha : (ofRank rank).holds (a * 10 ^ place) = true) (hplace : place ≤ top) :
    (place : Int) - finestPlace ≤ ((ofRank rank).coarsest top).exponent := by
  induction top with
  | zero =>
    change (place : Int) - finestPlace ≤ -finestPlace
    omega
  | succ top ih =>
    rw [coarsest]
    split
    · dsimp only
      omega
    · next hnone =>
      have hne : place ≠ top + 1 := by
        rintro rfl
        apply onGrid?_ne_none hrank ha hnone
      apply ih
      omega

/-- No place above the top one is reached, since `2 ^ 93 < 10 ^ 28`. -/
theorem le_topPlace {i : RoundingInterval} {place : Nat} (h : 10 ^ place ≤ i.doubleHigh) :
    place ≤ i.topPlace := by
  let bits := i.doubleHigh.log2 + 1
  have hbits : 10 ^ place < 2 ^ bits := Nat.lt_of_le_of_lt h Nat.lt_log2_self
  have htop : i.topPlace = bits * 28 / 93 + 1 := rfl
  by_contra habove
  have hexponent : 28 * bits ≤ place * 93 := by omega
  have hpow : (2 ^ bits) ^ 93 ≤ (10 ^ place) ^ 93 := by
    calc (2 ^ bits) ^ 93 = (2 ^ 93) ^ bits := by rw [← Nat.pow_mul, Nat.mul_comm, Nat.pow_mul]
      _ ≤ (10 ^ 28) ^ bits := Nat.pow_le_pow_left (by decide) bits
      _ = 10 ^ (28 * bits) := (Nat.pow_mul _ _ _).symm
      _ ≤ 10 ^ (place * 93) := Nat.pow_le_pow_right (by decide) hexponent
      _ = (10 ^ place) ^ 93 := Nat.pow_mul _ _ _
  have hback := Nat.pow_lt_pow_left hbits (show 93 ≠ 0 by decide)
  omega

/-- Where a number has more than sixteen digits on a grid, something on the grid rounds to it. -/
theorem exists_holds {rank place : Nat} (hrank : 0 < rank)
    (hlarge : 10 ^ (place + 16) ≤ (ofRank rank).exact) :
    ∃ a, (ofRank rank).holds (a * 10 ^ place) = true := by
  let step := 10 ^ place
  let before := Binary64.units (rank - 1) * 5 ^ finestPlace
  let here := Binary64.units rank * 5 ^ finestPlace
  let behind := Binary64.units (rank + 1) * 5 ^ finestPlace
  have hstep : 0 < 2 * step := Nat.mul_pos Nat.two_pos (Nat.pow_pos (by decide))
  have hexact : 10 ^ 16 * step ≤ here := by
    have hgrains : (ofRank rank).exact = here := grains_eq rank
    rw [hgrains, Nat.pow_add, Nat.mul_comm] at hlarge
    exact hlarge
  have hgap : here + 2 ^ 52 * before < 2 ^ 52 * behind := by
    have hunits := Nat.mul_lt_mul_of_pos_right (Binary64.units_lt_gap hrank)
      (Nat.pow_pos (n := finestPlace) (show 0 < 5 by decide))
    rw [Nat.add_mul, Nat.mul_assoc, Nat.mul_assoc] at hunits
    exact hunits
  let a := (before + here) / (2 * step) + 1
  have hdivMod := Nat.div_add_mod' (before + here) (2 * step)
  have hrest := Nat.mod_lt (before + here) hstep
  have ha : 2 * (a * step) = (before + here) / (2 * step) * (2 * step) + 2 * step := by
    rw [← Nat.succ_mul, Nat.mul_left_comm]
  have hlow : before + here < 2 * (a * step) := by omega
  have hhigh : 2 * (a * step) < here + behind := by omega
  refine ⟨a, (holds_ofRank_iff rank _).mpr ?_⟩
  rw [← Nat.add_mul] at hlow hhigh
  exact ⟨Nat.le_of_lt hlow, Nat.le_of_lt hhigh, fun _ => ⟨hlow, hhigh⟩⟩

end RoundingInterval

open RoundingInterval (finestPlace ofRank)

namespace Decimal

/-- The decimal is on the coarsest grid that has any decimal of a rank. -/
structure IsCoarsest (d : Decimal) (rank place : Nat) : Prop where
  exponent_eq : d.exponent = place - finestPlace
  holds : (ofRank rank).holds (d.coefficient * 10 ^ place) = true
  le_place : ∀ a p, (ofRank rank).holds (a * 10 ^ p) = true → p ≤ place

theorem exists_isCoarsest {rank : Nat} (hrank : 0 < rank) :
    ∃ place, (shortest rank).IsCoarsest rank place := by
  have hexact := RoundingInterval.holds_exact hrank
  obtain ⟨place, hplace, hholds⟩ :=
    RoundingInterval.coarsest_holds hexact (ofRank rank).topPlace
  refine ⟨place, hplace, hholds, ?_⟩
  intro a p ha
  have hpos : 0 < a := Nat.pos_of_mul_pos_right (RoundingInterval.pos_of_holds hrank ha)
  have hstep : 10 ^ p ≤ a * 10 ^ p := Nat.le_mul_of_pos_left _ hpos
  have hhigh := RoundingInterval.two_mul_le_of_holds ha
  have hcoarser := RoundingInterval.le_coarsest hrank ha
    (RoundingInterval.le_topPlace (show 10 ^ p ≤ (ofRank rank).doubleHigh by omega))
  rw [hplace] at hcoarser
  omega

namespace IsCoarsest

variable {d : Decimal} {rank place : Nat} (hrank : 0 < rank) (h : d.IsCoarsest rank place)

include h

/-- A power of ten among what rounds to the number is not above the grid. -/
theorem le_place_of_between {a b p : Nat} (ha : (ofRank rank).holds a = true)
    (hb : (ofRank rank).holds b = true) (hlow : a ≤ 10 ^ p) (hhigh : 10 ^ p ≤ b) : p ≤ place := by
  apply h.le_place 1 p
  rw [Nat.one_mul]
  apply RoundingInterval.holds_between ha hb hlow hhigh

/-- A last digit that is a zero would put the decimal on a coarser grid. -/
theorem coefficient_mod_ten : d.coefficient % 10 ≠ 0 := by
  intro hzero
  have hten : d.coefficient / 10 * 10 = d.coefficient := by omega
  have hcoarser : d.coefficient / 10 * 10 ^ (place + 1) = d.coefficient * 10 ^ place := by
    rw [Nat.pow_succ', ← Nat.mul_assoc, hten]
  have hplace := h.le_place (d.coefficient / 10) (place + 1) (hcoarser ▸ h.holds)
  omega

include hrank

theorem coefficient_pos : 0 < d.coefficient :=
  Nat.pos_of_mul_pos_right (RoundingInterval.pos_of_holds hrank h.holds)

/-- Seventeen digits are enough. -/
theorem coefficient_lt : d.coefficient < 10 ^ 17 := by
  by_contra hlarge
  have hpow : 10 ^ (place + 17) ≤ d.coefficient * 10 ^ place := by
    rw [Nat.pow_add, Nat.mul_comm]
    apply Nat.mul_le_mul_right
    omega
  by_cases hexact : 10 ^ (place + 17) ≤ (ofRank rank).exact
  · obtain ⟨a, ha⟩ : ∃ a, (ofRank rank).holds (a * 10 ^ (place + 1)) = true :=
      RoundingInterval.exists_holds hrank hexact
    have hplace := h.le_place a (place + 1) ha
    omega
  · have hplace := h.le_place_of_between (RoundingInterval.holds_exact hrank) h.holds
      (Nat.le_of_lt (Nat.lt_of_not_le hexact)) hpow
    omega

theorem pow_le_iff (k : Nat) :
    10 ^ k ≤ d.coefficient * 10 ^ place ↔ (k : Int) - finestPlace < d.pointPosition := by
  have hp : d.pointPosition = d.digits.length + d.exponent := rfl
  have hten : 1 < 10 := by decide
  have hbefore := Text.pow_length_toDigits_le (h.coefficient_pos hrank)
  have hbehind := Text.lt_pow_length_toDigits d.coefficient
  have hpos : 0 < d.digits.length := Nat.length_toDigits_pos
  rw [hp, h.exponent_eq]
  constructor
  · intro hle
    have hlt : 10 ^ k < 10 ^ (d.digits.length + place) := by
      rw [Nat.pow_add]
      apply Nat.lt_of_le_of_lt hle
      apply Nat.mul_lt_mul_of_pos_right hbehind (Nat.pow_pos (by decide))
    have hk := (Nat.pow_lt_pow_iff_right hten).mp hlt
    omega
  · intro hlt
    calc 10 ^ k ≤ 10 ^ (d.digits.length - 1 + place) :=
          Nat.pow_le_pow_right (by decide) (by omega)
      _ = 10 ^ (d.digits.length - 1) * 10 ^ place := Nat.pow_add _ _ _
      _ ≤ d.coefficient * 10 ^ place := Nat.mul_le_mul_right _ hbefore

/-- The position of the point is told by the ranks that powers of ten round to. -/
theorem lt_pointPosition_iff (k : Nat) : (k : Int) - finestPlace < d.pointPosition ↔
    Binary64.nearestRank (10 ^ k) (5 ^ finestPlace) ≤ rank := by
  have hgrain : 0 < 5 ^ finestPlace := Nat.pow_pos (by decide)
  have hpower := Binary64.nearest_nearestRank (10 ^ k) hgrain
  have hdecimal := (RoundingInterval.holds_ofRank_iff rank _).mp h.holds
  rw [← h.pow_le_iff hrank k]
  constructor
  · intro hle
    apply hdecimal.mono hgrain hle hpower
  · intro hle
    by_contra hlt
    have hrank' := hpower.mono hgrain (Nat.le_of_lt (Nat.lt_of_not_le hlt)) hdecimal
    rw [Nat.le_antisymm hle hrank'] at hpower
    have hholds := (RoundingInterval.holds_ofRank_iff rank _).mpr hpower
    have hplace := h.le_place 1 k (by rwa [Nat.one_mul])
    have hpow : 10 ^ k ≤ 10 ^ place := Nat.pow_le_pow_right (by decide) hplace
    have hstep : 10 ^ place ≤ d.coefficient * 10 ^ place :=
      Nat.le_mul_of_pos_left _ (h.coefficient_pos hrank)
    omega

/-- Nothing that rounds to the number has fewer digits: it would lie on a coarser grid, or a power
of ten between the two, which rounds to the number as well, would. -/
theorem length_digits_le {m up down : Nat}
    (hm : Binary64.Nearest (m * 10 ^ up) (5 ^ finestPlace * 10 ^ down) rank) :
    d.digits.length ≤ (Nat.toDigits 10 m).length := by
  have hten : ∀ n, 0 < 10 ^ n := fun n => Nat.pow_pos (by decide)
  by_contra hshort
  by_cases hcoarser : place + down < up
  · have hscale : m * 10 ^ up = m * 10 ^ (up - down) * 10 ^ down := by
      rw [Nat.mul_assoc, ← Nat.pow_add]
      congr 2
      omega
    rw [hscale, Binary64.nearest_mul_iff (hten down)] at hm
    have hplace := h.le_place m (up - down) ((RoundingInterval.holds_ofRank_iff rank _).mpr hm)
    omega
  · let p := d.digits.length - 1 + place
    have hbefore : m * 10 ^ up ≤ 10 ^ p * 10 ^ down := by
      have hlength : m < 10 ^ (d.digits.length - 1) :=
        Nat.lt_of_lt_of_le (Text.lt_pow_length_toDigits m)
          (Nat.pow_le_pow_right (by decide) (by omega))
      rw [Nat.pow_add, Nat.mul_assoc, ← Nat.pow_add]
      apply Nat.mul_le_mul (Nat.le_of_lt hlength)
      apply Nat.pow_le_pow_right (by decide) (by omega)
    have hbehind : 10 ^ p * 10 ^ down ≤ d.coefficient * 10 ^ place * 10 ^ down := by
      rw [Nat.pow_add]
      apply Nat.mul_le_mul_right
      apply Nat.mul_le_mul_right
      apply Text.pow_length_toDigits_le (h.coefficient_pos hrank)
    have hdecimal := (Binary64.nearest_mul_iff (hten down)).mpr
      ((RoundingInterval.holds_ofRank_iff rank _).mp h.holds)
    have hpower := (Binary64.nearest_mul_iff (hten down)).mp
      (hm.between hdecimal hbefore hbehind)
    have hholds := (RoundingInterval.holds_ofRank_iff rank _).mpr hpower
    have hplace := h.le_place 1 p (by rwa [Nat.one_mul])
    have hpos : 0 < (Nat.toDigits 10 m).length := Nat.length_toDigits_pos
    omega

end IsCoarsest

end Decimal

end PostfixCalc
